import TelAF.CfgCampaign

/-!
# The order of configuration versions

A configuration is accepted if one of its numbers is higher than the installed one. That is the
order of versions only where no lower number stands before the higher one.
-/

namespace TelAF.CfgStorage

def versionFile (v : Version) : Config :=
  ⟨0, true, false, some v.major, some v.minor, some v.patch⟩

def installed (v : Version) : Mss :=
  ⟨none, true, true, [], none, none, none, versionFile v, none⟩

end TelAF.CfgStorage
