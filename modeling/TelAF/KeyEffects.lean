import TelAF.KeyStore

/-!
# What the calls of the key store do

A call returns an error, or it changes the keys and the crypto sessions in one of a few ways. The
facts about all calls are proved for each of these ways once.
-/

namespace TelAF.KeyStore

open TransitionRuns State Option

variable {x : CryptoSession}

namespace State

variable {s t : State} {ref r : Nat} {keyType : KeyType}

theorem lookup_setKeyType (other : Nat) :
    (s.setKeyType ref keyType).keys.lookup other =
      if other = ref then (s.keys.lookup other).map fun k => { k with keyType := keyType }
      else s.keys.lookup other := RefMap.lookup_modify _

theorem lookup_setSession (x : CryptoSession) (other : Nat) :
    (s.setSession r x).cryptoSessions.lookup other =
      if other = r then (s.cryptoSessions.lookup other).map fun _ => x
      else s.cryptoSessions.lookup other := RefMap.lookup_modify _

theorem lookup_createKeyObject (other : Nat) :
    (s.createKeyObject keyType).keys.lookup other =
      if other = s.keys.next then some ⟨s.allocated, keyType⟩ else s.keys.lookup other :=
  RefMap.lookup_create _

theorem lookup_releaseKey (k : Key) (other : Nat) :
    (s.releaseKey ref k).keys.lookup other =
      if other = ref then none else s.keys.lookup other := RefMap.lookup_erase

/-- A session that is found for a client is the client's, and so is its key one with sessions. -/
theorem sessionFor_ok {c r : Nat} {p : ProKey} (h : s.sessionFor c r = .ok (x, p)) :
    s.cryptoSessions.lookup r = some x ∧ x.clientSessionRef = c ∧
      ∃ o, s.keys.lookup x.keyRef = some ⟨o, .provisioned p⟩ := by
  unfold sessionFor at h
  split at h
  · cases h
  next y hy =>
    split at h
    · cases h
    · cases h
    next o q hq =>
      split at h
      · cases h
      next hcl =>
        cases h
        exact ⟨hy, not_not.1 hcl, o, hq⟩

theorem startedSessionFor_ok {c r : Nat} (h : s.startedSessionFor c r = .ok x) :
    s.cryptoSessions.lookup r = some x ∧ x.clientSessionRef = c := by
  unfold startedSessionFor at h
  cases hs : s.sessionFor c r with
  | error e =>
    rw [hs] at h
    cases h
  | ok found =>
    rw [hs] at h
    change (if found.1.started then Except.ok found.1 else _) = _ at h
    split at h
    · cases h
      obtain ⟨hx, hcl, -⟩ := sessionFor_ok hs
      exact ⟨hx, hcl⟩
    · cases h

/-- The tag of a new key, its older tag and its new one. -/
def withTag (s : State) (ref : Nat) (k : NewKey) (tag : Tag) : State :=
  let new := Entry.alloc s.allocated tag.buffered tag
  let t := s.setKeyType ref (.newCreated { k with tagList := setEntry Tag.id k.tagList new })
  { t with allocated := s.allocated + new.objects.length }.release
    ((replacedEntry Tag.id k.tagList new).toList.flatMap Entry.objects)

/-- The parameter of a crypto session, likewise. -/
def withParam (s : State) (r : Nat) (x : CryptoSession) (param : Param) : State :=
  let new := Entry.alloc s.allocated param.buffered param
  let t := s.setSession r { x with paramList := setEntry Param.id x.paramList new }
  { t with allocated := s.allocated + new.objects.length }.release
    ((replacedEntry Param.id x.paramList new).toList.flatMap Entry.objects)

/-- A new key that has got its value in a key file. -/
def withValue (s : State) (ref : Nat) (k : NewKey) (keyFileRef : Option Nat) : State :=
  (s.setKeyType ref (.provisioned ⟨keyFileRef, [], []⟩)).release (k.tagList.flatMap Entry.objects)

/-- A new crypto session of a provisioned key. -/
def withSession (s : State) (c ref : Nat) (p : ProKey) : State :=
  { s.setKeyType ref (.provisioned { p with
      cryptoSessionList := p.cryptoSessionList ++ [s.cryptoSessions.next] }) with
    cryptoSessions := s.cryptoSessions.create ⟨s.allocated, 0, false, [], c, ref⟩
    allocated := s.allocated + 1 }

end State

/-- What a client's call makes of a state; nothing where the service dies. -/
inductive Effect (L : Limits) (s : State) (c : Nat) : Call → Option State → Prop where
  | same (call : Call) : Effect L s c call (some s)
  | readUsage {ref o : Nat} {k : NewKey} {answer : Result} {usage : KeyUsage}
      (hk : s.keys.lookup ref = some ⟨o, .newCreated k⟩) (hcl : k.clientSessionRef = c) :
      Effect L s c (.getKeyUsage ref answer usage) (some (s.use c c (.readUsage ref)))
  | create {appName : Option Name} {keyId : Name} {usage : KeyUsage} {file : Option Nat}
      (happ : appName ≠ none) (hposi : isPosixFileNameFormat keyId = true)
      (hnew : s.searchNewKey c keyId = none) :
      Effect L s c (.createKey appName keyId (some usage) .notFound file)
        ((s.deleteObsoleteKey c file).map fun t =>
          t.createKeyObject (.newCreated ⟨keyId, c, usage, []⟩))
  | found {appName : Option Name} {keyName : Name} {file : Option Nat}
      (hnone : s.searchProvisionedKey file = none) :
      Effect L s c (.getKey appName keyName .ok file)
        (some (s.createKeyObject (.provisioned ⟨file, [], []⟩)))
  | obsolete {appName owner : Option Name} {keyName keyId : Name} {file : Option Nat}
      (hpart : (appName.bind fun name => State.keyNameParts L name keyName) = some (owner, keyId))
      (hposi : isPosixFileNameFormat keyId = true) :
      Effect L s c (.getKey appName keyName .notFound file) (s.deleteObsoleteKey c file)
  | delete {ref o : Nat} {p : ProKey} (hk : s.keys.lookup ref = some ⟨o, .provisioned p⟩)
      (hidle : s.hasRunningCryptoSession p = false) :
      Effect L s c (.deleteKey ref .ok) (s.deleteProvisionedKey c ref p)
  | deleteNew {ref o : Nat} {k : NewKey} {deleted : Result}
      (hk : s.keys.lookup ref = some ⟨o, .newCreated k⟩) :
      Effect L s c (.deleteKey ref deleted) (some (s.releaseKey ref ⟨o, .newCreated k⟩))
  | tag {ref o : Nat} {k : NewKey} {tag : Tag} (hdata : tag ≠ .applicationData [])
      (hk : s.keys.lookup ref = some ⟨o, .newCreated k⟩) :
      Effect L s c (.setKeyAttribute ref tag) (some (s.withTag ref k tag))
  | generate {ref o : Nat} {k : NewKey} {kind : KeyKind} {p : Provisioning} (g : Generation)
      (hk : s.keys.lookup ref = some ⟨o, .newCreated k⟩) (hcl : k.clientSessionRef = c) :
      Effect L s c (.provision ref kind p) (some (s.use c c (.generate ref g)))
  | provision {ref o : Nat} {k : NewKey} {kind : KeyKind} {p : Provisioning} (g : Generation)
      (hk : s.keys.lookup ref = some ⟨o, .newCreated k⟩) (hcl : k.clientSessionRef = c)
      (hkind : k.keyUsage.kind = kind) (hallw : kind.allows L p.keySize p.variety = true)
      (hgene : p.generated = .ok) :
      Effect L s c (.provision ref kind p)
        (some ((s.use c c (.generate ref g)).withValue ref k p.keyFileRef))
  | firstApp {ref o : Nat} {p : ProKey} {answer : Result} {apps : List SharedAppInfo}
      (hk : s.keys.lookup ref = some ⟨o, .provisioned p⟩) :
      Effect L s c (.getFirstSharedApp ref answer apps)
        (some (s.updateAppListForClient L c ref p apps))
  | nextApp {ref o : Nat} {p : ProKey} (hk : s.keys.lookup ref = some ⟨o, .provisioned p⟩) :
      Effect L s c (.getNextSharedApp ref)
        (some (s.setKeyType ref (.provisioned { p with
          sharedAppList := updateFirst (fun l => l.clientSessionRef = c)
            (fun l => { l with currPtr := l.currPtr + 1 }) p.sharedAppList })))
  | lastApp {ref o : Nat} {p : ProKey} {l : SharedAppList}
      (hk : s.keys.lookup ref = some ⟨o, .provisioned p⟩)
      (hl : (p.sharedAppList.find? fun l => l.clientSessionRef = c) = some l) :
      Effect L s c (.getNextSharedApp ref)
        (some ((s.setKeyType ref (.provisioned { p with
          sharedAppList := p.sharedAppList.eraseP fun l => l.clientSessionRef = c })).release
            l.objects))
  | session {ref o : Nat} {p : ProKey} (hk : s.keys.lookup ref = some ⟨o, .provisioned p⟩) :
      Effect L s c (.cryptoSessionCreate ref) (some (s.withSession c ref p))
  | param {r : Nat} {x : CryptoSession} {param : Param}
      (hx : s.cryptoSessions.lookup r = some x) (hcl : x.clientSessionRef = c) :
      Effect L s c (.setSessionParam r param) (some (s.withParam r x param))
  | start {r cryptoPurpose handle : Nat} {answer : Result} {x : CryptoSession} (request : Request)
      (hx : s.cryptoSessions.lookup r = some x) (hcl : x.clientSessionRef = c) :
      Effect L s c (.cryptoSessionStart r cryptoPurpose answer handle)
        (some (((s.use c c request).setSession r { x with
          started := true, handle := handle, paramList := [] }).release
            (x.paramList.flatMap Entry.objects)))
  | use (call : Call) {r : Nat} {x : CryptoSession} (request : Request)
      (hx : s.cryptoSessions.lookup r = some x) (hcl : x.clientSessionRef = c) :
      Effect L s c call (some (s.use c c request))
  | remove (call : Call) {r : Nat} {x : CryptoSession} (request : Request)
      (hx : s.cryptoSessions.lookup r = some x) (hcl : x.clientSessionRef = c)
      (hidle : x.started = false) :
      Effect L s c call ((s.use c c request).dropSession c x.keyRef r)
  | finish (call : Call) {r : Nat} {x : CryptoSession} (request : Request)
      (hx : s.cryptoSessions.lookup r = some x) (hcl : x.clientSessionRef = c) :
      Effect L s c call (((s.use c c request).setSession r { x with
        started := false, handle := 0 }).dropSession c x.keyRef r)

namespace Effect

variable {L : Limits} {s : State} {c ref r : Nat}

theorem createKey (appName : Option Name) (keyId : Name) (keyUsage : Option KeyUsage)
    (found : Result) (file : Option Nat) :
    Effect L s c (.createKey appName keyId keyUsage found file)
      ((s.createKey c appName keyId keyUsage found file).map Prod.fst) := by
  unfold State.createKey
  rcases keyUsage with _ | usage
  · exact .same _
  split_ifs with happ hposi hnew hok hfnd
  iterate 4 exact .same _
  · rw [map_map, not_not.1 hfnd]
    exact .create happ hposi (by simpa using hnew)
  · exact .same _

theorem getKey (appName : Option Name) (keyName : Name) (found : Result) (file : Option Nat) :
    Effect L s c (.getKey appName keyName found file)
      ((s.getKey L c appName keyName found file).map Prod.fst) := by
  unfold State.getKey
  split
  · exact .same _
  next name =>
    split
    · exact .same _
    next owner keyId hpart =>
      split_ifs with hposi hok hnotF
      · rw [hok]
        split
        · exact .same _
        next hnone => exact .found hnone
      · rw [map_map, hnotF]
        change Effect L s c _ ((s.deleteObsoleteKey c file).map id)
        rw [map_id]
        exact .obsolete hpart hposi
      all_goals exact .same _

theorem deleteKey (deleted : Result) :
    Effect L s c (.deleteKey ref deleted) ((s.deleteKey c ref deleted).map Prod.fst) := by
  unfold State.deleteKey
  split
  · exact .same _
  next o p hk =>
    split_ifs with hruns hdel
    · exact .same _
    · exact .same _
    rw [map_map, not_not.1 hdel]
    change Effect L s c _ ((s.deleteProvisionedKey c ref p).map id)
    rw [map_id]
    exact .delete hk (by simpa using hruns)
  next hk => exact .deleteNew hk

theorem getKeyUsage (answer : Result) (usage : KeyUsage) :
    Effect L s c (.getKeyUsage ref answer usage) (some (s.getKeyUsage c ref answer usage).1) := by
  unfold State.getKeyUsage
  split
  · exact .same _
  next hk =>
    split_ifs with hcl
    · exact .same _
    · rw [not_not.1 hcl]
      exact .readUsage hk (not_not.1 hcl)
  split_ifs
  all_goals exact .same _

theorem setTag (tag : Tag) (hdata : tag ≠ .applicationData []) :
    Effect L s c (.setKeyAttribute ref tag) (some (s.setTag ref tag).1) := by
  unfold State.setTag
  split
  · exact .same _
  · exact .same _
  next hk => exact .tag hdata hk

end Effect

/-- A setter refuses application data without data, and sets its tag otherwise. -/
theorem State.setKeyAttribute_cases (s : State) (ref : Nat) (tag : Tag) :
    (tag ≠ .applicationData [] ∧ s.setKeyAttribute ref tag = s.setTag ref tag) ∨
      s.setKeyAttribute ref tag = (s, .result .badParameter) := by
  cases tag with
  | applicationData data =>
    unfold setKeyAttribute setKeyAppData
    dsimp only
    split_ifs with hdata
    · exact .inr rfl
    · exact .inl ⟨by simpa using hdata, rfl⟩
  | _ => exact .inl ⟨by simp, rfl⟩

theorem State.provisionKeyValue_eq (L : Limits) (s : State) (c ref : Nat) (p : Provisioning)
    (kind : KeyKind) : s.provisionKeyValue L c ref p kind = s.provision L c ref kind p := by
  cases kind <;> rfl

theorem State.setSessionParam_cases (s : State) (c r : Nat) (param : Param) :
    s.setSessionParam c r param = s.setParam c r param ∨
      s.setSessionParam c r param = (s, .result .badParameter) := by
  cases param with
  | nonce data =>
    unfold setSessionParam cryptoSessionSetAesNonce
    dsimp only
    split_ifs
    · exact .inr rfl
    · exact .inl rfl
  | applicationData data =>
    unfold setSessionParam cryptoSessionSetAppData
    dsimp only
    split_ifs
    · exact .inr rfl
    · exact .inl rfl
  | rsaPaddingType type =>
    unfold setSessionParam cryptoSessionSetRsaPadding
    dsimp only
    split_ifs
    · exact .inr rfl
    · exact .inl rfl

namespace Effect

variable {L : Limits} {s : State} {c ref r : Nat}

theorem setKeyAttribute (tag : Tag) :
    Effect L s c (.setKeyAttribute ref tag) (some (s.setKeyAttribute ref tag).1) := by
  rcases s.setKeyAttribute_cases ref tag with ⟨hdata, heq⟩ | heq
  · rw [heq]
    exact setTag tag hdata
  · rw [heq]
    exact .same _

theorem provisionKeyValue (kind : KeyKind) (p : Provisioning) :
    Effect L s c (.provision ref kind p) (some (s.provisionKeyValue L c ref p kind).1) := by
  rw [State.provisionKeyValue_eq]
  unfold State.provision
  split
  · exact .same _
  next hallw =>
    split
    · exact .same _
    · exact .same _
    next hk =>
      split
      · exact .same _
      next hmay =>
        obtain ⟨hcl, hkind⟩ := not_or.1 hmay
        rw [not_not.1 hcl]
        split
        next hgene =>
          exact .provision _ hk (not_not.1 hcl) (not_not.1 hkind) (not_not.1 hallw) hgene
        exact .generate _ hk (not_not.1 hcl)

theorem getFirstSharedApp (answer : Result) (apps : List SharedAppInfo) :
    Effect L s c (.getFirstSharedApp ref answer apps)
      (some (s.getFirstSharedApp L c ref answer apps).1) := by
  unfold State.getFirstSharedApp
  split
  · exact .same _
  · exact .same _
  next hk =>
    split
    · exact .same _
    · split
      all_goals exact .firstApp hk

theorem getNextSharedApp :
    Effect L s c (.getNextSharedApp ref) (some (s.getNextSharedApp c ref).1) := by
  unfold State.getNextSharedApp
  split
  · exact .same _
  · exact .same _
  next hk =>
    split
    · exact .same _
    next hl =>
      split
      · exact .nextApp hk
      · exact .lastApp hk hl

theorem cryptoSessionCreate :
    Effect L s c (.cryptoSessionCreate ref) (some (s.cryptoSessionCreate c ref).1) := by
  unfold State.cryptoSessionCreate
  split
  · exact .same _
  · exact .same _
  next hk => exact .session hk

theorem setSessionParam (param : Param) :
    Effect L s c (.setSessionParam r param) (some (s.setSessionParam c r param).1) := by
  rcases s.setSessionParam_cases c r param with heq | heq
  · rw [heq]
    unfold setParam
    split
    · exact .same _
    next hs =>
      obtain ⟨hx, hcl, -⟩ := sessionFor_ok hs
      exact .param hx hcl
  · rw [heq]
    exact .same _

theorem cryptoSessionStart (cryptoPurpose : Nat) (answer : Result) (handle : Nat) :
    Effect L s c (.cryptoSessionStart r cryptoPurpose answer handle)
      ((s.cryptoSessionStart c r L cryptoPurpose answer handle).map Prod.fst) := by
  unfold State.cryptoSessionStart
  split
  · exact .same _
  split
  · exact .same _
  next x p hs =>
    obtain ⟨hx, hcl, -⟩ := State.sessionFor_ok hs
    split
    · exact .same _
    next hidle =>
      subst hcl
      split
      · exact .start _ hx rfl
      rw [map_map]
      change Effect L s _ _ ((State.dropSession _ _ x.keyRef r).map id)
      rw [map_id]
      exact .remove _ _ hx rfl (by simpa using hidle)

theorem endSession (call : Call) (request : Request) (answer : Result)
    (hx : s.cryptoSessions.lookup r = some x) (hcl : x.clientSessionRef = c) :
    Effect L s c call
      (((s.use c x.clientSessionRef request).endSession c r x answer).map Prod.fst) := by
  subst hcl
  unfold endSession
  rw [map_map]
  change Effect L s _ _ ((dropSession _ x.clientSessionRef x.keyRef r).map id)
  rw [map_id]
  exact .finish call request hx rfl

theorem processData (call : Call) (request : Nat → Nat → List UInt8 → Request)
    (input : List UInt8) (answer : Result) :
    Effect L s c call ((s.processData c r request input answer).map Prod.fst) := by
  unfold State.processData
  split
  · exact .same _
  split
  · exact .same _
  next x hs =>
    obtain ⟨hx, hcl⟩ := State.startedSessionFor_ok hs
    split
    · rw [hcl]
      exact .use _ _ hx hcl
    · exact endSession _ _ _ hx hcl

theorem cryptoSessionEnd (input : List UInt8) (answer : Result) :
    Effect L s c (.cryptoSessionEnd r input answer)
      ((s.cryptoSessionEnd c r input answer).map Prod.fst) := by
  unfold State.cryptoSessionEnd
  split
  · exact .same _
  next hs =>
    obtain ⟨hx, hcl⟩ := State.startedSessionFor_ok hs
    exact endSession _ _ _ hx hcl

theorem cryptoSessionAbort (answer : Result) :
    Effect L s c (.cryptoSessionAbort r answer)
      ((s.cryptoSessionAbort c r answer).map Prod.fst) := by
  unfold State.cryptoSessionAbort
  split
  · exact .same _
  next hs =>
    obtain ⟨hx, hcl⟩ := State.startedSessionFor_ok hs
    exact endSession _ _ _ hx hcl

end Effect

theorem perform_effect (L : Limits) (s : State) (c : Nat) (call : Call) :
    Effect L s c call ((perform L s c call).map Prod.fst) := by
  cases call with
  | createKey appName keyId keyUsage found file => exact .createKey appName keyId keyUsage found file
  | getKey appName keyName found file => exact .getKey appName keyName found file
  | deleteKey ref deleted => exact .deleteKey deleted
  | getKeyUsage ref answer usage => exact .getKeyUsage answer usage
  | setKeyAttribute ref tag => exact .setKeyAttribute tag
  | provision ref kind p => exact .provisionKeyValue kind p
  | exportKey ref answer | shareKey ref myAppName appName answer | cancelKeySharing ref answer =>
    exact .same _
  | getFirstSharedApp ref answer apps => exact .getFirstSharedApp answer apps
  | getNextSharedApp ref => exact .getNextSharedApp
  | cryptoSessionCreate ref => exact .cryptoSessionCreate
  | setSessionParam r param => exact .setSessionParam param
  | cryptoSessionStart r purpose answer handle => exact .cryptoSessionStart purpose answer handle
  | cryptoSessionProcessAead r input answer => exact .processData _ .processAead input answer
  | cryptoSessionProcess r input answer => exact .processData _ .process input answer
  | cryptoSessionEnd r input answer => exact .cryptoSessionEnd input answer
  | cryptoSessionAbort r answer => exact .cryptoSessionAbort answer

/-- Interfaces with room for what the examples pass. -/
def exampleLimits : Limits where
  rsaSizeMax := 3
  rsaEncPadMax := 3
  rsaSigPadMax := 3
  eccSizeMax := 3
  aesSizeMax := 2
  aesModeMax := 4
  digestMax := 4
  minHmacKeySize := 8
  maxHmacKeySize := 128
  cryptoMax := 4
  maxAppNameSize := 32

end TelAF.KeyStore
