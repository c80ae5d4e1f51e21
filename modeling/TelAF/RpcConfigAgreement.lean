import Mathlib.Data.List.Nodup
import TelAF.RpcConfig

/-!
# Agreement of RPC configurations

Two systems load the same file, each from its own place in it. The list of the systems and
the list of the services do not depend on that place, so what one system offers and what the
other one requests come from the same entries. The ranges of ids and ports hold as long as
there is room for all services behind the base values: of an id base the last value that is
accepted leaves one id too few, and a port base is checked only by itself.
-/

namespace TelAF.RpcConfig

open List

theorem bind_eq_ok {α β : Type} {x : Except Result α} {f : α → Except Result β} {b : β} :
    (x >>= f) = .ok b ↔ ∃ a, x = .ok a ∧ f a = .ok b := by
  cases x with
  | error error | ok a => simp [bind, Except.bind]

theorem pure_eq_ok {α : Type} {a b : α} : (pure a : Except Result α) = .ok b ↔ a = b := by
  simp [pure, Except.pure]

theorem require_eq_ok {c : Prop} [Decidable c] {error : Result} {u : Unit} :
    require c error = .ok u ↔ c := by
  unfold require
  by_cases hc : c
  all_goals simp [hc]

theorem failWith_eq_ok {α : Type} {error : Result} {x : Except Result α} {a : α} :
    failWith error x = .ok a ↔ x = .ok a := by
  cases x with
  | error e | ok b => simp [failWith]

theorem orFault_eq_ok {α : Type} {o : Option α} {a : α} : orFault o = .ok a ↔ o = some a := by
  cases o with
  | none | some b => simp [orFault]

section Systems

variable {limits : Limits} {mySystemId : Nat}
variable {t t' t₁ t₂ : SystemTable}
variable {link : SystemLink}

theorem addSystemLink_configSystems (h : addSystemLink mySystemId t link = .ok t') :
    t'.configSystems = t.configSystems ++ [link] := by
  simp only [addSystemLink, bind_eq_ok] at h
  obtain ⟨-, -, h⟩ := h
  split at h
  · simp only [SystemTable.setMySystemLinkInfo, bind_eq_ok, failWith_eq_ok, pure_eq_ok] at h
    obtain ⟨_, ⟨-, -, -, -, rfl⟩, rfl⟩ := h
    rfl
  · simp only [SystemTable.setRemoteSystemLinkInfo, bind_eq_ok, failWith_eq_ok, pure_eq_ok] at h
    obtain ⟨_, ⟨-, -, -, -, rfl⟩, rfl⟩ := h
    rfl

/-- What the table says about the own system and the remote ones, in terms of the list. -/
structure Placed (mySystemId : Nat) (t : SystemTable) : Prop where
  nodup : (t.configSystems.map SystemLink.id).Nodup
  remote : t.remoteSystems = t.configSystems.filter fun link => link.id ≠ mySystemId
  own : t.mySystemFound = true → t.mySystem ∈ t.configSystems ∧ t.mySystem.id = mySystemId

theorem Placed.initial : Placed mySystemId SystemTable.initial :=
  ⟨nodup_nil, rfl, fun h => nomatch h⟩

theorem id_notMem_of_not_inList {list : List SystemLink}
    (h : ¬ isConfigSystemInList list link = true) : link.id ∉ list.map SystemLink.id := by
  intro hmem
  obtain ⟨other, hoth, hid⟩ := mem_map.1 hmem
  apply h
  simp only [isConfigSystemInList, any_eq_true]
  exact ⟨other, hoth, by simp [hid]⟩

theorem Placed.addSystemLink
    (ht : Placed mySystemId t) (h : addSystemLink mySystemId t link = .ok t') :
    Placed mySystemId t' := by
  simp only [RpcConfig.addSystemLink, bind_eq_ok, require_eq_ok] at h
  obtain ⟨-, hnew, h⟩ := h
  have hnd : ((t.configSystems ++ [link]).map SystemLink.id).Nodup := by
    rw [map_append, nodup_append]
    refine ⟨ht.nodup, nodup_singleton _, ?_⟩
    intro id hid other hoth
    rw [map_singleton, mem_singleton] at hoth
    rintro rfl
    exact id_notMem_of_not_inList hnew (hoth ▸ hid)
  split at h
  case isTrue hown =>
    simp only [SystemTable.setMySystemLinkInfo, bind_eq_ok, failWith_eq_ok, pure_eq_ok] at h
    obtain ⟨_, ⟨-, -, -, -, rfl⟩, rfl⟩ := h
    constructor
    · exact hnd
    · simp [ht.remote, hown]
    · intro _
      exact ⟨mem_append_right _ (mem_singleton_self _), hown⟩
  case isFalse hoth =>
    simp only [SystemTable.setRemoteSystemLinkInfo, bind_eq_ok, failWith_eq_ok, pure_eq_ok] at h
    obtain ⟨_, ⟨-, -, -, -, rfl⟩, rfl⟩ := h
    constructor
    · exact hnd
    · simp [ht.remote, hoth]
    intro hfnd
    obtain ⟨hmem, hid⟩ := ht.own hfnd
    exact ⟨mem_append_left _ hmem, hid⟩

variable {index m₁ m₂ : Nat}

theorem Placed.parseSystems {items : List Json}
    (ht : Placed mySystemId t) (h : parseSystems limits mySystemId index items t = .ok t') :
    Placed mySystemId t' := by
  induction items generalizing index t with
  | nil =>
    rw [RpcConfig.parseSystems, pure_eq_ok] at h
    exact h ▸ ht
  | cons js rest ih =>
    simp only [RpcConfig.parseSystems, bind_eq_ok] at h
    obtain ⟨link, -, t₁, hadd, hrest⟩ := h
    exact ih (ht.addSystemLink hadd) hrest

theorem Placed.parseSystemLinkInfo {root : Json}
    (h : parseSystemLinkInfo limits mySystemId root = .ok t) :
    Placed mySystemId t ∧ t.mySystemFound = true := by
  simp only [RpcConfig.parseSystemLinkInfo, bind_eq_ok, require_eq_ok, pure_eq_ok] at h
  obtain ⟨items, -, -, -, t', hpars, -, hfnd, -, -, rfl⟩ := h
  exact ⟨Placed.initial.parseSystems hpars, hfnd⟩

/-- Which system loads the file makes no difference to the list of systems. -/
theorem parseSystems_configSystems {items : List Json}
    {t₁' t₂' : SystemTable} (heq : t₁.configSystems = t₂.configSystems)
    (h₁ : parseSystems limits m₁ index items t₁ = .ok t₁')
    (h₂ : parseSystems limits m₂ index items t₂ = .ok t₂') :
    t₁'.configSystems = t₂'.configSystems := by
  induction items generalizing index t₁ t₂ with
  | nil =>
    rw [parseSystems, pure_eq_ok] at h₁ h₂
    rw [← h₁, ← h₂, heq]
  | cons js rest ih =>
    simp only [parseSystems, bind_eq_ok] at h₁ h₂
    obtain ⟨link, hlink, u₁, hadd₁, hrest₁⟩ := h₁
    obtain ⟨link', hlink', u₂, hadd₂, hrest₂⟩ := h₂
    have hsame : link = link' := Except.ok.inj (hlink.symm.trans hlink')
    refine ih ?_ hrest₁ hrest₂
    rw [addSystemLink_configSystems hadd₁, addSystemLink_configSystems hadd₂, heq, hsame]

theorem parseSystemLinkInfo_configSystems {root : Json}
    (h₁ : parseSystemLinkInfo limits m₁ root = .ok t₁)
    (h₂ : parseSystemLinkInfo limits m₂ root = .ok t₂) :
    t₁.configSystems = t₂.configSystems := by
  simp only [parseSystemLinkInfo, bind_eq_ok, pure_eq_ok, orFault_eq_ok] at h₁ h₂
  obtain ⟨items, hitem, -, -, u₁, hpars₁, -, -, -, -, rfl⟩ := h₁
  obtain ⟨items', hitem', -, -, u₂, hpars₂, -, -, -, -, rfl⟩ := h₂
  obtain rfl : items = items' := Option.some.inj (hitem.symm.trans hitem')
  exact parseSystems_configSystems rfl hpars₁ hpars₂

end Systems

section BaseValues

variable {limits : Limits}

/-- A check on a field holds of the value that is used if it holds of the default. -/
theorem optInfo_spec {validate : String → Except Result Nat} {P : Nat → Prop}
    {root : Json} {key : String} {default value : Nat}
    (hvali : ∀ str n, validate str = .ok n → P n) (hdef : P default)
    (h : optInfo validate root key default = .ok value) : P value := by
  unfold optInfo at h
  split at h
  · rw [pure_eq_ok] at h
    exact h ▸ hdef
  · rw [failWith_eq_ok] at h
    exact hvali _ _ h

theorem uint16_of_le {n : Nat} (h : n ≤ 65535) : uint16 n = n := Nat.mod_eq_of_lt (by omega)

theorem validateBaseServiceId_spec {idStr : String} {id : Nat}
    (h : validateBaseServiceId limits idStr = .ok id) :
    1 ≤ id ∧ id ≤ 0xFF00 - rpcMaxServices := by
  simp only [validateBaseServiceId, bind_eq_ok, require_eq_ok, pure_eq_ok] at h
  obtain ⟨-, ⟨hmax, hmin⟩, rfl⟩ := h
  rw [uint16_of_le (by omega)]
  exact ⟨hmin, hmax⟩

theorem validateBasePortNumber_spec {numStr : String} {num : Nat}
    (h : validateBasePortNumber limits numStr = .ok num) : 1024 ≤ num ∧ num ≤ 65535 := by
  simp only [validateBasePortNumber, bind_eq_ok, require_eq_ok, pure_eq_ok] at h
  obtain ⟨-, hran, rfl⟩ := h
  rw [uint16_of_le hran.2]
  exact hran

theorem parseOptInfo_spec {root : Json} {opt : OptInfo} (h : parseOptInfo limits root = .ok opt) :
    (1 ≤ opt.baseServiceId ∧ opt.baseServiceId ≤ 0xFF00 - rpcMaxServices) ∧
      1024 ≤ opt.basePortNumber ∧ opt.basePortNumber ≤ 65535 := by
  simp only [parseOptInfo, bind_eq_ok, pure_eq_ok] at h
  obtain ⟨id, hid, port, hport, secs, -, rfl⟩ := h
  constructor
  · exact optInfo_spec (fun _ _ => validateBaseServiceId_spec) (by decide) hid
  · exact optInfo_spec (fun _ _ => validateBasePortNumber_spec) (by decide) hport

end BaseValues

section Services

variable {limits : Limits} {systems : List SystemLink} {opt : OptInfo}

def Apart (s t : ConfigService) : Prop :=
  s.service.id ≠ t.service.id ∧ ¬ (s.isReliable = t.isReliable ∧ s.portNum = t.portNum)

variable {services : List ConfigService}

theorem parseService_spec {index : Nat} {js : Json}
    {s : ConfigService} (h : parseService limits systems opt index js services = .ok s) :
    s.service.id = uint16 (opt.baseServiceId + index + 1) ∧
      s.portNum = uint16 (opt.basePortNumber + index + 1) ∧ ∀ t ∈ services, Apart t s := by
  simp only [parseService, bind_eq_ok, require_eq_ok, pure_eq_ok] at h
  obtain ⟨link, hlink, -, hnew, items, -, -, -, ids, -, rfl⟩ := h
  simp only [serviceLink, bind_eq_ok, pure_eq_ok] at hlink
  obtain ⟨_, _, _, _, _, _, _, _, _, _, _, _, _, _, rfl⟩ := hlink
  refine ⟨rfl, rfl, ?_⟩
  intro t ht
  simp only [isConfigServiceInList, any_eq_true, not_exists, not_and] at hnew
  have hdiff := hnew t ht
  simp only [Bool.or_eq_true, Bool.and_eq_true, beq_iff_eq, not_or] at hdiff
  exact ⟨hdiff.1.1, hdiff.2⟩

/-- The services behind `services` take the ids and the ports of their positions. -/
theorem parseServices_spec {items : List Json} {index : Nat}
    {result : List ConfigService} (hapar : services.Pairwise Apart)
    (h : parseServices limits systems opt index items services = .ok result) :
    result.Pairwise Apart ∧
      result.map (fun s => s.service.id) = services.map (fun s => s.service.id) ++
        (range' index items.length).map (fun k => uint16 (opt.baseServiceId + k + 1)) ∧
      result.map ConfigService.portNum = services.map ConfigService.portNum ++
        (range' index items.length).map (fun k => uint16 (opt.basePortNumber + k + 1)) := by
  induction items generalizing index services with
  | nil =>
    rw [parseServices, pure_eq_ok] at h
    subst h
    simpa using hapar
  | cons js rest ih =>
    simp only [parseServices, bind_eq_ok] at h
    obtain ⟨s, hs, hrest⟩ := h
    obtain ⟨hid, hport, hnew⟩ := parseService_spec hs
    have hpair : (services ++ [s]).Pairwise Apart := by
      rw [pairwise_append]
      refine ⟨hapar, pairwise_singleton _ _, ?_⟩
      intro t ht u hu
      rw [mem_singleton] at hu
      exact hu ▸ hnew t ht
    obtain ⟨hres, hids, hprts⟩ := ih hpair hrest
    refine ⟨hres, ?_, ?_⟩
    · simpa [range'_succ, hid] using hids
    · simpa [range'_succ, hport] using hprts

theorem parseServiceLinkInfo_spec {root : Json}
    (h : parseServiceLinkInfo limits systems opt root = .ok services) :
    ∃ items, (root.objectGet "rpc_services").bind Json.arrayItems = some items ∧
      (items.length ≤ rpcMaxServices ∧ items.length ≠ 0) ∧ services.Pairwise Apart ∧
      services.map (fun s => s.service.id) =
        (range' 0 items.length).map (fun k => uint16 (opt.baseServiceId + k + 1)) ∧
      services.map ConfigService.portNum =
        (range' 0 items.length).map (fun k => uint16 (opt.basePortNumber + k + 1)) := by
  simp only [parseServiceLinkInfo, bind_eq_ok, require_eq_ok, orFault_eq_ok] at h
  obtain ⟨items, hitem, -, hlen, hpars⟩ := h
  exact ⟨items, hitem, hlen, by simpa using parseServices_spec List.Pairwise.nil hpars⟩

/-- Positions behind a base that fit into 16 bits stay in order, the last one is the largest. -/
theorem forall_map_range'_uint16 {P : Nat → Prop} {base n : Nat} :
    (∀ v ∈ (range' 0 n).map (fun k => uint16 (base + k + 1)), P v) ↔
      ∀ k < n, P (uint16 (base + k + 1)) := by
  simp [mem_range'_1]

theorem ids_below_iff {base n : Nat} (hbase : base ≤ 0xFF00 - rpcMaxServices)
    (hn : n ≤ rpcMaxServices ∧ n ≠ 0) :
    (∀ k < n, uint16 (base + k + 1) < 0xFF00) ↔ base + n < 0xFF00 := by
  rw [rpcMaxServices] at hbase hn
  constructor
  · intro h
    have hlast := h (n - 1) (by omega)
    rw [uint16_of_le (by omega)] at hlast
    omega
  · intro h k hk
    rw [uint16_of_le (by omega)]
    omega

theorem ports_within_iff {base n : Nat} (hbase : 1024 ≤ base ∧ base ≤ 65535) :
    (∀ k < n, 1024 ≤ uint16 (base + k + 1) ∧ uint16 (base + k + 1) ≤ 65535) ↔
      base + n ≤ 65535 := by
  constructor
  · intro h
    by_contra hover
    have hzero := (h (65535 - base) (by omega)).1
    have hsum : base + (65535 - base) + 1 = 65536 := by omega
    rw [hsum] at hzero
    exact absurd hzero (by decide)
  · intro h k hk
    rw [uint16_of_le (by omega)]
    omega

end Services

/-- What `s` is at `a`, which offers it, and at `b`, which requests it. -/
structure ServiceAgrees (a b : RpcConfigData) (s : ConfigService) : Prop where
  offered : ∃ o ∈ a.offerServices, o.service = s.service ∧ o.isReliable = s.isReliable ∧
    o.number = s.portNum ∧ b.mySystem.id ∈ o.clientSystems
  requested : ∃ r ∈ b.requestServices, r.service = s.service ∧ r.isReliable = s.isReliable ∧
    a.mySystem.id ∈ r.serverSystems

structure WithinRanges (services : List ConfigService) : Prop where
  distinctIds : services.Pairwise fun s t => s.service.id ≠ t.service.id
  idsBelow : ∀ s ∈ services, s.service.id < 0xFF00
  distinctPorts : services.Pairwise fun s t =>
    ¬ (s.isReliable = t.isReliable ∧ s.portNum = t.portNum)
  portsWithin : ∀ s ∈ services, 1024 ≤ s.portNum ∧ s.portNum ≤ 65535

structure Consistent (a b : RpcConfigData) : Prop where
  sameServices : a.configServices = b.configServices
  agrees : ∀ s ∈ a.configServices, a.mySystem.id ∈ s.offerSystemList → ServiceAgrees a b s
  eventId : a.nodeEventId b.mySystem.id = some b.sysEventId
  ranges : WithinRanges a.configServices

/-- Behind the base values there is room for the id and for the port of every service. -/
def RoomForServices (limits : Limits) (root : Json) : Prop :=
  ∀ opt items, parseOptInfo limits root = .ok opt →
    (root.objectGet "rpc_services").bind Json.arrayItems = some items →
    opt.baseServiceId + items.length < 0xFF00 ∧ opt.basePortNumber + items.length ≤ 65535

section Agreement

variable {limits : Limits} {root : Json}

/-- An accepted file, taken apart: both lists, and the tables that follow from them. -/
structure Accepted (limits : Limits) (root : Json) (c : RpcConfigData) : Prop where
  systems : ∃ mySystemId t, parseSystemLinkInfo limits mySystemId root = .ok t ∧
    c.configSystems = t.configSystems ∧ c.mySystem = t.mySystem ∧
    c.remoteSystems = t.remoteSystems
  services : ∃ opt, parseOptInfo limits root = .ok opt ∧
    parseServiceLinkInfo limits c.configSystems opt root = .ok c.configServices
  offers : c.offerServices =
    c.configServices.filterMap (offerServiceEntry c.mySystem.id c.remoteSystems)
  requests : c.requestServices = c.configServices.filterMap (requestServiceEntry c.mySystem.id)

theorem accepted_of_parse {clientId : Option String → Option Nat} {c : RpcConfigData}
    (h : parseJsonFile limits clientId (some root) = .ok c) : Accepted limits root c := by
  cases root with
  | object fields =>
    simp only [parseJsonFile, bind_eq_ok, failWith_eq_ok, pure_eq_ok] at h
    obtain ⟨mySystemId, -, t, ht, opt, hopt, services, hserv, rfl⟩ := h
    exact ⟨⟨mySystemId, t, ht, rfl, rfl, rfl⟩, ⟨opt, hopt, hserv⟩, rfl, rfl⟩
  | other | string _ | array _ => cases h

namespace Accepted

variable {a b c : RpcConfigData}

section

variable (h : Accepted limits root c)
include h

theorem own : c.mySystem ∈ c.configSystems := by
  obtain ⟨mySystemId, t, ht, hsyst, hmy, -⟩ := h.systems
  obtain ⟨hplc, hfnd⟩ := Placed.parseSystemLinkInfo ht
  rw [hsyst, hmy]
  exact (hplc.own hfnd).1

theorem remote : c.remoteSystems = c.configSystems.filter fun link => link.id ≠ c.mySystem.id := by
  obtain ⟨mySystemId, t, ht, hsyst, hmy, hrmt⟩ := h.systems
  obtain ⟨hplc, hfnd⟩ := Placed.parseSystemLinkInfo ht
  rw [hsyst, hmy, hrmt, (hplc.own hfnd).2]
  exact hplc.remote

theorem nodup : (c.configSystems.map SystemLink.id).Nodup := by
  obtain ⟨mySystemId, t, ht, hsyst, -⟩ := h.systems
  rw [hsyst]
  exact (Placed.parseSystemLinkInfo ht).1.nodup

end

section

variable (ha : Accepted limits root a)
include ha
variable (hb : Accepted limits root b)
include hb

theorem configSystems_eq : a.configSystems = b.configSystems := by
  obtain ⟨m₁, t₁, ht₁, hsyst₁, -⟩ := ha.systems
  obtain ⟨m₂, t₂, ht₂, hsyst₂, -⟩ := hb.systems
  rw [hsyst₁, hsyst₂]
  exact parseSystemLinkInfo_configSystems ht₁ ht₂

theorem configServices_eq : a.configServices = b.configServices := by
  obtain ⟨opt, hopt, hserv⟩ := ha.services
  obtain ⟨opt', hopt', hserv'⟩ := hb.services
  obtain rfl : opt = opt' := Except.ok.inj (hopt.symm.trans hopt')
  rw [configSystems_eq ha hb] at hserv
  exact Except.ok.inj (hserv.symm.trans hserv')

variable (hne : a.mySystem.id ≠ b.mySystem.id)
include hne

/-- The other system is one of the remote systems, under its own link. -/
theorem mem_remoteSystems : b.mySystem ∈ a.remoteSystems := by
  rw [ha.remote, configSystems_eq ha hb, mem_filter]
  exact ⟨hb.own, by simpa using hne.symm⟩

theorem nodeEventId_eq : a.nodeEventId b.mySystem.id = some b.sysEventId := by
  have hmem := mem_remoteSystems ha hb hne
  have hfind : (a.remoteSystems.find? fun link => link.id == b.mySystem.id) = some b.mySystem := by
    cases hfnd : a.remoteSystems.find? fun link => link.id == b.mySystem.id with
    | none =>
      have hnone := find?_eq_none.1 hfnd b.mySystem hmem
      simp at hnone
    | some link =>
      have hid : link.id = b.mySystem.id := by simpa using find?_some hfnd
      have hlink : link ∈ a.configSystems := by
        have hrmt := mem_of_find?_eq_some hfnd
        rw [ha.remote] at hrmt
        exact (mem_filter.1 hrmt).1
      have hown : b.mySystem ∈ a.configSystems := configSystems_eq ha hb ▸ hb.own
      rw [inj_on_of_nodup_map ha.nodup hlink hown hid]
  rw [RpcConfigData.nodeEventId, hfind]
  rfl

theorem serviceAgrees {s : ConfigService} (hs : s ∈ a.configServices)
    (hoffe : a.mySystem.id ∈ s.offerSystemList) : ServiceAgrees a b s := by
  constructor
  · have hent : offerServiceEntry a.mySystem.id a.remoteSystems s =
        some ⟨s.service, s.isReliable, s.portNum, a.remoteSystems.map SystemLink.id⟩ := by
      rw [offerServiceEntry, if_pos hoffe]
    have hmem := mem_filterMap.2 ⟨s, hs, hent⟩
    rw [← ha.offers] at hmem
    exact ⟨_, hmem, rfl, rfl, rfl, mem_map_of_mem (mem_remoteSystems ha hb hne)⟩
  have hsrv : a.mySystem.id ∈ s.offerSystemList.filter (· ≠ b.mySystem.id) := by
    rw [mem_filter]
    exact ⟨hoffe, by simpa using hne⟩
  have hent : requestServiceEntry b.mySystem.id s =
      some ⟨s.service, s.isReliable, s.responseTimeout,
        s.offerSystemList.filter (· ≠ b.mySystem.id)⟩ := by
    rw [requestServiceEntry, if_pos (ne_nil_of_mem hsrv)]
  have hmem := mem_filterMap.2 ⟨s, configServices_eq ha hb ▸ hs, hent⟩
  rw [← hb.requests] at hmem
  exact ⟨_, hmem, rfl, rfl, hsrv⟩

end

theorem withinRanges_iff (h : Accepted limits root c) :
    WithinRanges c.configServices ↔ RoomForServices limits root := by
  obtain ⟨opt, hopt, hserv⟩ := h.services
  obtain ⟨items, hitem, hlen, hapar, hids, hprts⟩ := parseServiceLinkInfo_spec hserv
  obtain ⟨⟨-, hid⟩, hport⟩ := parseOptInfo_spec hopt
  have hidsB : (∀ s ∈ c.configServices, s.service.id < 0xFF00) ↔
      opt.baseServiceId + items.length < 0xFF00 := by
    rw [← ids_below_iff hid hlen, ← @forall_map_range'_uint16 (fun v => v < 0xFF00), ← hids,
      forall_mem_map]
  have hpor : (∀ s ∈ c.configServices, 1024 ≤ s.portNum ∧ s.portNum ≤ 65535) ↔
      opt.basePortNumber + items.length ≤ 65535 := by
    rw [← ports_within_iff hport,
      ← @forall_map_range'_uint16 (fun v => 1024 ≤ v ∧ v ≤ 65535), ← hprts, forall_mem_map]
  constructor
  · intro hrang opt' items' hopt' hitem'
    obtain rfl : opt = opt' := Except.ok.inj (hopt.symm.trans hopt')
    obtain rfl : items = items' := Option.some.inj (hitem.symm.trans hitem')
    exact ⟨hidsB.1 hrang.idsBelow, hpor.1 hrang.portsWithin⟩
  intro hroom
  obtain ⟨hrmId, hroo⟩ := hroom opt items hopt hitem
  constructor
  · exact hapar.imp fun h => h.1
  · exact hidsB.2 hrmId
  · exact hapar.imp fun h => h.2
  · exact hpor.2 hroo

end Accepted

/-- Two different systems that accept the file agree about all of it, ranges apart. -/
theorem consistent_iff (limits : Limits) (root : Json)
    (clientIdA clientIdB : Option String → Option Nat) (a b : RpcConfigData)
    (hparseA : parseJsonFile limits clientIdA (some root) = .ok a)
    (hparseB : parseJsonFile limits clientIdB (some root) = .ok b)
    (hne : a.mySystem.id ≠ b.mySystem.id) :
    Consistent a b ↔ RoomForServices limits root := by
  have ha := accepted_of_parse hparseA
  have hb := accepted_of_parse hparseB
  rw [← ha.withinRanges_iff]
  constructor
  · exact fun h => h.ranges
  intro hranges
  constructor
  · exact Accepted.configServices_eq ha hb
  · exact fun s hs hoffer => Accepted.serviceAgrees ha hb hne hs hoffer
  · exact Accepted.nodeEventId_eq ha hb hne
  · exact hranges

end Agreement

/-- A system offers `taf_radio` to another one, with the base port as given. -/
def radioFile (basePort : String) : Json :=
  .object [
    ("systems", .array [
      .object [("id", .string "0x101"), ("name", .string "SERVER")],
      .object [("id", .string "0x102"), ("name", .string "CLIENT")]]),
    ("base_port_number", .string basePort),
    ("rpc_services", .array [
      .object [("name", .string "taf_radio"), ("user", .string "telaf"),
        ("offer_systems", .array [.string "SERVER"])]])]

def radioLimits : Limits := ⟨31, 31, 32, 64, 64⟩

def radio (portNum : Nat) : ConfigService :=
  ⟨⟨0xED01, "telaf", "taf_radio", defaultServiceVer⟩, portNum, 30, true, [0x101]⟩

def serverData (portNum : Nat) : RpcConfigData where
  configSystems := [⟨1, 0x101, "SERVER"⟩, ⟨2, 0x102, "CLIENT"⟩]
  configServices := [radio portNum]
  mySystem := ⟨1, 0x101, "SERVER"⟩
  remoteSystems := [⟨2, 0x102, "CLIENT"⟩]
  offerServices := [⟨(radio portNum).service, true, portNum, [0x102]⟩]
  requestServices := []

def clientData (portNum : Nat) : RpcConfigData where
  configSystems := [⟨1, 0x101, "SERVER"⟩, ⟨2, 0x102, "CLIENT"⟩]
  configServices := [radio portNum]
  mySystem := ⟨2, 0x102, "CLIENT"⟩
  remoteSystems := [⟨1, 0x101, "SERVER"⟩]
  offerServices := []
  requestServices := [⟨(radio portNum).service, true, 30, [0x101]⟩]

theorem consistent_radio :
    Consistent (serverData 40001) (clientData 40001) ↔
      RoomForServices radioLimits (radioFile "40000") :=
  consistent_iff radioLimits (radioFile "40000") (fun _ => some 0x101) (fun _ => some 0x102)
    (serverData 40001) (clientData 40001) (by decide +kernel) (by decide +kernel) (by decide)

/-- Behind the base port 65535 the first service gets port 0. -/
theorem consistent_fails :
    ¬ ∀ (limits : Limits) (root : Json) (clientIdA clientIdB : Option String → Option Nat)
      (a b : RpcConfigData), parseJsonFile limits clientIdA (some root) = .ok a →
      parseJsonFile limits clientIdB (some root) = .ok b → a.mySystem.id ≠ b.mySystem.id →
      Consistent a b := by
  intro h
  have hconsistent := h radioLimits (radioFile "65535") (fun _ => some 0x101)
    (fun _ => some 0x102) (serverData 0) (clientData 0) (by decide +kernel) (by decide +kernel)
    (by decide)
  have hport := hconsistent.ranges.portsWithin (radio 0) (List.mem_singleton_self _)
  exact absurd hport.1 (by decide)

end TelAF.RpcConfig
