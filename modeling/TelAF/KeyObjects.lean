import TelAF.KeyEffects

/-!
# Objects of the key store

The crypto sessions are those in the lists of the provisioned keys, every object is held in one
place until it is given back, and what a client made is left alone by the other clients, as long
as they do not set tags of its new keys, delete them, or delete keys that it has sessions of.
-/

namespace TelAF.KeyStore

open TransitionRuns State RefMap List

/-! ## What keys hold -/

def KeyType.sessions : KeyType → List Nat
  | .newCreated _ => []
  | .provisioned p => p.cryptoSessionList

def KeyType.file : KeyType → Option Nat
  | .newCreated _ => none
  | .provisioned p => p.keyFileRef

namespace State

variable (s : State)

/-- The session list of the key, if it is provisioned. -/
def sessionsOf (ref : Nat) : List Nat :=
  ((s.keys.lookup ref).map fun k => k.keyType.sessions).getD []

def fileOf (ref : Nat) : Option Nat := (s.keys.lookup ref).bind fun k => k.keyType.file

def keyOf (r : Nat) : Option Nat := (s.cryptoSessions.lookup r).map CryptoSession.keyRef

/-- How often the object is held by a key or a session or was given back. -/
def places (id : Nat) : Nat :=
  s.released.count id + s.keys.total (fun _ k => k.objects.count id) +
    s.cryptoSessions.total fun _ x => x.objects.count id

end State

def issued (next id : Nat) : Nat := if id < next then 1 else 0

structure Consistent (s : State) : Prop where
  /-- A session is in the list of just the key it refers to. -/
  linked : ∀ r ref, s.keyOf r = some ref ↔ r ∈ s.sessionsOf ref
  listedOnce : ∀ ref, (s.sessionsOf ref).Nodup
  /-- There is one provisioned key for a key file. -/
  oneKey : ∀ ref other f, s.fileOf ref = some f → s.fileOf other = some f → ref = other
  /-- Every object so far is held in one place or was given back once. -/
  accounted : ∀ id, s.places id = issued s.allocated id
  /-- New keys and crypto sessions were used by those who created them. -/
  usedByCreator : ∀ u ∈ s.uses, u.caller = u.creator

structure Spares (client : Option Nat) (s t : State) : Prop where
  newKeys : ∀ ref o k, s.keys.lookup ref = some ⟨o, .newCreated k⟩ →
    client ≠ some k.clientSessionRef → t.keys.lookup ref = some ⟨o, .newCreated k⟩
  sessions : ∀ r x, s.cryptoSessions.lookup r = some x → client ≠ some x.clientSessionRef →
    t.cryptoSessions.lookup r = some x

theorem consistent_start : Consistent start where
  linked := by simp [start, keyOf, sessionsOf]
  listedOnce := by simp [start, sessionsOf]
  oneKey := by simp [start, fileOf]
  accounted := by simp [start, places, issued]
  usedByCreator := by simp [start]

theorem Spares.refl (client : Option Nat) (s : State) : Spares client s s :=
  ⟨fun _ _ _ h _ => h, fun _ _ h _ => h⟩

variable {s t : State}

theorem Spares.trans {client : Option Nat} {u : State} (h : Spares client s t)
    (h' : Spares client t u) : Spares client s u where
  newKeys ref o k hk hcl := h'.newKeys ref o k (h.newKeys ref o k hk hcl) hcl
  sessions r x hx hcl := h'.sessions r x (h.sessions r x hx hcl) hcl

theorem Spares.of_same {client : Option Nat} (hkeys : t.keys = s.keys)
    (hcryp : t.cryptoSessions = s.cryptoSessions) : Spares client s t := by
  constructor
  · intro ref o k hk _
    rw [hkeys, hk]
  · intro r x hx _
    rw [hcryp, hx]

/-! ## Careful calls -/

namespace State

variable (s : State) (c : Nat)

/-- The sessions of the key are all the client's. -/
def ownsSessions (p : ProKey) : Bool :=
  p.cryptoSessionList.all fun r => (s.cryptoSessions.lookup r).all fun x => x.clientSessionRef = c

/-- The key that goes with a key file has only sessions of the client. -/
def ownsObsoleteKey (file : Option Nat) : Bool :=
  file = none ||
    ((s.searchProvisionedKey file).bind s.keys.lookup).all fun k =>
      match k.keyType with
      | .newCreated _ => true
      | .provisioned p => s.ownsSessions c p

def isNewFile (file : Option Nat) : Bool := file = none || (s.searchProvisionedKey file).isNone

end State

theorem ownsSessions_iff {c : Nat} {p : ProKey} :
    s.ownsSessions c p = true ↔
      ∀ r ∈ p.cryptoSessionList, ∀ x, s.cryptoSessions.lookup r = some x →
        x.clientSessionRef = c := by
  simp only [ownsSessions, all_eq_true, Option.all_eq_true, decide_eq_true_eq]

/-- A call that does not get at what other clients created, and gives no file a second key. -/
def carefulCall (L : Limits) (s : State) (c : Nat) : Call → Bool
  | .createKey appName keyId keyUsage found file =>
    keyUsage = none || appName = none || !isPosixFileNameFormat keyId ||
      (s.searchNewKey c keyId).isSome ||
      found ≠ .notFound || s.ownsObsoleteKey c file
  | .getKey appName keyName found file =>
    (appName.bind fun name => State.keyNameParts L name keyName).all fun parts =>
      !isPosixFileNameFormat parts.2 || found ≠ .notFound || s.ownsObsoleteKey c file
  | .deleteKey ref deleted =>
    (s.keys.lookup ref).all fun k =>
      match k.keyType with
      | .newCreated k => k.clientSessionRef = c
      | .provisioned p => s.hasRunningCryptoSession p || deleted ≠ .ok || s.ownsSessions c p
  | .setKeyAttribute ref tag =>
    tag = .applicationData [] ||
      (s.keys.lookup ref).all fun k =>
        match k.keyType with
        | .newCreated k => k.clientSessionRef = c
        | .provisioned _ => true
  | .provision ref kind p =>
    !kind.allows L p.keySize p.variety || p.generated ≠ .ok ||
      (s.keys.lookup ref).all fun k =>
        match k.keyType with
        | .newCreated k =>
          k.clientSessionRef ≠ c || k.keyUsage.kind ≠ kind || s.isNewFile p.keyFileRef
        | .provisioned _ => true
  | _ => true

def Careful (L : Limits) (s : State) : Action → Prop
  | .call c call => carefulCall L s c call = true
  | .keyFile file => s.isNewFile file = true
  | .closed _ => True

instance (L : Limits) (s : State) : DecidablePred (Careful L s)
  | .call c call => inferInstanceAs (Decidable (carefulCall L s c call = true))
  | .keyFile file => inferInstanceAs (Decidable (s.isNewFile file = true))
  | .closed _ => inferInstanceAs (Decidable True)

/-! ## Views -/

section Views

variable {s t : State} {ref r c : Nat} {k : Key} {x : CryptoSession} {keyType : KeyType}
  {p : ProKey} {o : Nat}

theorem sessionsOf_setKeyType (hk : s.keys.lookup ref = some k) (other : Nat) :
    (s.setKeyType ref keyType).sessionsOf other =
      if other = ref then keyType.sessions else s.sessionsOf other := by
  unfold sessionsOf
  rw [lookup_setKeyType]
  by_cases heq : other = ref
  · simp [heq, hk]
  · simp [heq]

theorem fileOf_setKeyType (hk : s.keys.lookup ref = some k) (other : Nat) :
    (s.setKeyType ref keyType).fileOf other =
      if other = ref then keyType.file else s.fileOf other := by
  unfold fileOf
  rw [lookup_setKeyType]
  by_cases heq : other = ref
  · simp [heq, hk]
  · simp [heq]

theorem sessionsOf_createKeyObject (other : Nat) :
    (s.createKeyObject keyType).sessionsOf other =
      if other = s.keys.next then keyType.sessions else s.sessionsOf other := by
  unfold sessionsOf
  rw [lookup_createKeyObject]
  split
  · simp
  · rfl

theorem fileOf_createKeyObject (other : Nat) :
    (s.createKeyObject keyType).fileOf other =
      if other = s.keys.next then keyType.file else s.fileOf other := by
  unfold fileOf
  rw [lookup_createKeyObject]
  split
  · simp
  · rfl

theorem sessionsOf_releaseKey (other : Nat) :
    (s.releaseKey ref k).sessionsOf other = if other = ref then [] else s.sessionsOf other := by
  unfold sessionsOf
  rw [lookup_releaseKey]
  split
  · simp
  · rfl

theorem fileOf_releaseKey (other : Nat) :
    (s.releaseKey ref k).fileOf other = if other = ref then none else s.fileOf other := by
  unfold fileOf
  rw [lookup_releaseKey]
  split
  · simp
  · rfl

theorem sessionsOf_of_lookup (hk : s.keys.lookup ref = some k) :
    s.sessionsOf ref = k.keyType.sessions := by simp [sessionsOf, hk]

theorem fileOf_of_lookup (hk : s.keys.lookup ref = some k) : s.fileOf ref = k.keyType.file := by
  simp [fileOf, hk]

theorem keyOf_of_lookup (hx : s.cryptoSessions.lookup r = some x) : s.keyOf r = some x.keyRef := by
  simp [keyOf, hx]

/-! ## Places -/

theorem places_setKeyType (hk : s.keys.lookup ref = some k) (keyType : KeyType) (id : Nat) :
    (s.setKeyType ref keyType).places id + k.keyType.objects.count id =
      s.places id + keyType.objects.count id := by
  have hsum := total_modify (w := fun _ k => k.objects.count id) hk
    fun k => { k with keyType := keyType }
  simp only [Key.objects, count_append] at hsum
  unfold places
  simp only [setKeyType, Key.objects, count_append]
  omega

theorem places_setSession {y : CryptoSession} (hx : s.cryptoSessions.lookup r = some x) (id : Nat) :
    (s.setSession r y).places id + x.objects.count id = s.places id + y.objects.count id := by
  have hsum := total_modify (w := fun _ x => x.objects.count id) hx fun _ => y
  unfold places
  simp only [setSession]
  omega

theorem places_release (objects : List Nat) (id : Nat) :
    (s.release objects).places id = s.places id + objects.count id := by
  unfold places
  simp only [release, count_append]
  omega

theorem places_createKeyObject (id : Nat) :
    (s.createKeyObject keyType).places id =
      s.places id + (keyType.objects ++ [s.allocated]).count id := by
  unfold places
  simp only [createKeyObject, total_create, Key.objects]
  omega

theorem places_releaseKey (hk : s.keys.lookup ref = some k) (id : Nat) :
    (s.releaseKey ref k).places id = s.places id := by
  have hsum := total_erase (w := fun _ k => k.objects.count id) hk
  unfold releaseKey
  rw [places_release]
  unfold places
  dsimp only at hsum ⊢
  omega

theorem count_issued (n m id : Nat) :
    (range' n m).count id + issued n id = issued (n + m) id := by
  unfold issued
  rw [(nodup_range').count]
  simp only [mem_range'_1]
  by_cases hold : id < n
  · rw [if_neg (by omega), if_pos hold, if_pos (by omega)]
  by_cases hnew : id < n + m
  · rw [if_pos (by omega), if_neg hold, if_pos hnew]
  · rw [if_neg (by omega), if_neg hold, if_neg hnew]

theorem count_issued_one (n id : Nat) : [n].count id + issued n id = issued (n + 1) id :=
  count_issued n 1 id

theorem count_eraseP_add {α : Type} (q : α → Bool) (f : α → List Nat)
    (l : List α) (id : Nat) :
    ((l.eraseP q).flatMap f).count id + ((l.find? q).toList.flatMap f).count id =
      (l.flatMap f).count id := by
  induction l with
  | nil => rfl
  | cons a rest ih =>
    rw [eraseP_cons, find?_cons]
    cases hq : q a with
    | true =>
      simp only [cond_true, flatMap_cons, count_append, Option.toList_some,
        flatMap_nil, append_nil]
      omega
    | false =>
      simp only [cond_false, flatMap_cons, count_append]
      omega

end Views

/-! ## Steps that keep the views -/

namespace Consistent

variable {s t : State} {ref r c o : Nat} {k : Key} {x : CryptoSession} {p : ProKey}

section

variable (h : Consistent s)
include h

/-- What matters of a state are its views, its objects and the uses. -/
theorem of_views (hsesss : ∀ ref, t.sessionsOf ref = s.sessionsOf ref)
    (hfile : ∀ ref, t.fileOf ref = s.fileOf ref) (hkey : ∀ r, t.keyOf r = s.keyOf r)
    (hacct : ∀ id, t.places id = issued t.allocated id)
    (hused : ∀ u ∈ t.uses, u.caller = u.creator) : Consistent t where
  linked r ref := by
    rw [hkey, hsesss]
    exact h.linked r ref
  listedOnce ref := by
    rw [hsesss]
    exact h.listedOnce ref
  oneKey ref other f hf hoth := by
    rw [hfile] at hf hoth
    exact h.oneKey ref other f hf hoth
  accounted := hacct
  usedByCreator := hused

theorem use (c : Nat) (request : Request) : Consistent (s.use c c request) := by
  apply h.of_views
  iterate 3 exact fun _ => rfl
  · exact h.accounted
  intro u hu
  rcases mem_append.1 hu with hold | hnew
  · exact h.usedByCreator u hold
  · rw [mem_singleton.1 hnew]

/-- A key changes but for its sessions and its file; objects are allocated and given back. -/
theorem of_setKeyType (hk : s.keys.lookup ref = some k) {keyType : KeyType}
    (hkeys : t.keys = (s.setKeyType ref keyType).keys)
    (hcryp : t.cryptoSessions = s.cryptoSessions) (huses : t.uses = s.uses)
    (hsesss : keyType.sessions = k.keyType.sessions) (hfile : keyType.file = k.keyType.file)
    (hobjs : ∀ id, keyType.objects.count id + t.released.count id +
      issued s.allocated id =
        k.keyType.objects.count id + s.released.count id + issued t.allocated id) :
    Consistent t := by
  apply h.of_views
  · intro other
    unfold sessionsOf
    rw [hkeys]
    change (s.setKeyType ref keyType).sessionsOf other = s.sessionsOf other
    rw [sessionsOf_setKeyType hk]
    split
    next heq => rw [heq, hsesss, sessionsOf_of_lookup hk]
    rfl
  · intro other
    unfold fileOf
    rw [hkeys]
    change (s.setKeyType ref keyType).fileOf other = s.fileOf other
    rw [fileOf_setKeyType hk]
    split
    next heq => rw [heq, hfile, fileOf_of_lookup hk]
    rfl
  · intro r
    unfold keyOf
    rw [hcryp]
  · intro id
    have hold := h.accounted id
    have hnew := places_setKeyType hk keyType id
    have hsum := hobjs id
    unfold places at hold hnew ⊢
    rw [hkeys, hcryp]
    simp only [setKeyType_released, setKeyType_cryptoSessions] at hnew
    omega
  · rw [huses]
    exact h.usedByCreator

/-- A session changes but for its key; objects are allocated and given back. -/
theorem of_setSession (hx : s.cryptoSessions.lookup r = some x)
    {y : CryptoSession} (hkeys : t.keys = s.keys)
    (hcryp : t.cryptoSessions = (s.setSession r y).cryptoSessions) (huses : t.uses = s.uses)
    (hkey : y.keyRef = x.keyRef)
    (hobjs : ∀ id, y.objects.count id + t.released.count id +
      issued s.allocated id =
        x.objects.count id + s.released.count id + issued t.allocated id) : Consistent t := by
  apply h.of_views
  · intro other
    unfold sessionsOf
    rw [hkeys]
  · intro other
    unfold fileOf
    rw [hkeys]
  · intro other
    unfold keyOf
    rw [hcryp, lookup_setSession]
    split
    next heq =>
      rw [heq, hx]
      exact congrArg some hkey
    rfl
  · intro id
    have hold := h.accounted id
    have hnew := places_setSession (y := y) hx id
    have hsum := hobjs id
    unfold places at hold hnew ⊢
    rw [hkeys, hcryp]
    simp only [setSession_released, setSession_keys] at hnew
    omega
  · rw [huses]
    exact h.usedByCreator

end

/-! ### Keys -/

/-- A key without sessions appears, with a file that no key has. -/
theorem createKeyObject (h : Consistent s) {keyType : KeyType} (hsesss : keyType.sessions = [])
    (hobjs : keyType.objects = [])
    (hfile : ∀ f, keyType.file = some f → ∀ ref, s.fileOf ref ≠ some f) :
    Consistent (s.createKeyObject keyType) := by
  have hnone : s.sessionsOf s.keys.next = [] := by simp [sessionsOf]
  constructor
  · intro r ref
    rw [sessionsOf_createKeyObject]
    split
    next heq =>
      have hold := h.linked r s.keys.next
      rw [hnone] at hold
      rw [hsesss, heq]
      exact hold
    exact h.linked r ref
  · intro ref
    rw [sessionsOf_createKeyObject]
    split
    · rw [hsesss]
      exact nodup_nil
    · exact h.listedOnce ref
  · intro ref other f hf hoth
    rw [fileOf_createKeyObject] at hf hoth
    by_cases href : ref = s.keys.next
    · rw [if_pos href] at hf
      by_cases heq : other = s.keys.next
      · rw [href, heq]
      · rw [if_neg heq] at hoth
        exact absurd hoth (hfile f hf other)
    rw [if_neg href] at hf
    by_cases heq : other = s.keys.next
    · rw [if_pos heq] at hoth
      exact absurd hf (hfile f hoth ref)
    · rw [if_neg heq] at hoth
      exact h.oneKey ref other f hf hoth
  · intro id
    have hone := count_issued_one s.allocated id
    have hold := h.accounted id
    change _ = issued (s.allocated + 1) id
    rw [places_createKeyObject, hobjs, nil_append]
    omega
  · exact h.usedByCreator

theorem releaseKey (h : Consistent s) (hk : s.keys.lookup ref = some k)
    (hsesss : k.keyType.sessions = []) : Consistent (s.releaseKey ref k) := by
  have hnone : s.sessionsOf ref = [] := by rw [sessionsOf_of_lookup hk, hsesss]
  constructor
  · intro r other
    rw [sessionsOf_releaseKey]
    split
    next heq =>
      have hold := h.linked r ref
      rw [hnone] at hold
      rw [heq]
      exact hold
    exact h.linked r other
  · intro other
    rw [sessionsOf_releaseKey]
    split
    · exact nodup_nil
    · exact h.listedOnce other
  · intro one other f hf hoth
    rw [fileOf_releaseKey] at hf hoth
    by_cases hone : one = ref
    · simp [hone] at hf
    by_cases heq : other = ref
    · simp [heq] at hoth
    rw [if_neg hone] at hf
    rw [if_neg heq] at hoth
    exact h.oneKey one other f hf hoth
  · intro id
    rw [places_releaseKey hk]
    exact h.accounted id
  · exact h.usedByCreator

end Consistent

/-! ## Crypto sessions -/

def KeyType.dropSession (r : Nat) : KeyType → KeyType
  | .newCreated k => .newCreated k
  | .provisioned p => .provisioned { p with cryptoSessionList := p.cryptoSessionList.erase r }

theorem KeyType.dropSession_sessions (r : Nat) (keyType : KeyType) :
    (keyType.dropSession r).sessions = keyType.sessions.erase r := by
  cases keyType <;> rfl

theorem KeyType.dropSession_file (r : Nat) (keyType : KeyType) :
    (keyType.dropSession r).file = keyType.file := by
  cases keyType <;> rfl

/-- A session is gone from its key and from the sessions, and nothing else is. -/
structure Dropped (s t : State) (c r : Nat) : Prop where
  consistent : Consistent t
  spares : Spares (some c) s t
  sessions : ∀ other, t.cryptoSessions.lookup other =
    if other = r then none else s.cryptoSessions.lookup other
  keys : ∀ ref, t.keys.lookup ref =
    (s.keys.lookup ref).map fun k => { k with keyType := k.keyType.dropSession r }

section Sessions

variable {s t : State} {ref r c o : Nat} {k : Key} {x : CryptoSession} {p : ProKey}

section

variable (h : Consistent s)
include h

/-- The key of a session is provisioned and has it in its list. -/
theorem Consistent.key_of_session (hx : s.cryptoSessions.lookup r = some x) :
    ∃ o p, s.keys.lookup x.keyRef = some ⟨o, .provisioned p⟩ ∧
      r ∈ p.cryptoSessionList := by
  have hmem := (h.linked r x.keyRef).1 (keyOf_of_lookup hx)
  rcases hk : s.keys.lookup x.keyRef with _ | k
  · simp [sessionsOf, hk] at hmem
  rw [sessionsOf_of_lookup hk] at hmem
  obtain ⟨o, keyType⟩ := k
  cases keyType with
  | newCreated k => cases hmem
  | provisioned p => exact ⟨o, p, rfl, hmem⟩

theorem Consistent.session_of_mem (hr : r ∈ s.sessionsOf ref) :
    ∃ x, s.cryptoSessions.lookup r = some x ∧ x.keyRef = ref :=
  Option.map_eq_some_iff.1 ((h.linked r ref).2 hr)

section

variable (hx : s.cryptoSessions.lookup r = some x)
include hx

/-- Only the list of the session's key changes where the session is taken from all lists. -/
theorem Consistent.lookup_drop
    (hk : s.keys.lookup x.keyRef = some ⟨o, .provisioned p⟩) (other : Nat) :
    (s.setKeyType x.keyRef (.provisioned { p with
        cryptoSessionList := p.cryptoSessionList.erase r })).keys.lookup other =
      (s.keys.lookup other).map fun k => { k with keyType := k.keyType.dropSession r } := by
  rw [lookup_setKeyType]
  by_cases heq : other = x.keyRef
  · rw [if_pos heq, heq, hk]
    rfl
  rw [if_neg heq]
  rcases hoth : s.keys.lookup other with _ | k
  · rfl
  have hnot : r ∉ k.keyType.sessions := by
    intro hmem
    rw [← sessionsOf_of_lookup hoth] at hmem
    have hkey := (h.linked r other).2 hmem
    rw [keyOf_of_lookup hx] at hkey
    exact heq (Option.some.inj hkey).symm
  obtain ⟨o', keyType⟩ := k
  cases keyType with
  | newCreated k => rfl
  | provisioned q =>
    have heras : q.cryptoSessionList.erase r = q.cryptoSessionList := erase_of_not_mem hnot
    simp [KeyType.dropSession, heras]

/-- What is left when a session that is in no list any more is given back. -/
theorem Consistent.dropped_of_keys
    (hcl : x.clientSessionRef = c) (hsesss : t.cryptoSessions = s.cryptoSessions)
    (hkeys : ∀ ref, t.keys.lookup ref =
      (s.keys.lookup ref).map fun k => { k with keyType := k.keyType.dropSession r })
    (hplcs : ∀ id, t.places id = s.places id) (hallo : t.allocated = s.allocated)
    (hused : ∀ u ∈ t.uses, u.caller = u.creator) :
    Dropped s ({ t with cryptoSessions := t.cryptoSessions.erase r }.release x.objects) c r := by
  have hlook : ∀ other, (t.cryptoSessions.erase r).lookup other =
      if other = r then none else s.cryptoSessions.lookup other := by
    intro other
    rw [lookup_erase, hsesss]
  have hlis : ∀ ref, t.sessionsOf ref = (s.sessionsOf ref).erase r := by
    intro ref
    unfold sessionsOf
    rw [hkeys]
    cases s.keys.lookup ref with
    | none => rfl
    | some k => exact k.keyType.dropSession_sessions r
  have hfils : ∀ ref, t.fileOf ref = s.fileOf ref := by
    intro ref
    unfold fileOf
    rw [hkeys]
    cases s.keys.lookup ref with
    | none => rfl
    | some k => exact k.keyType.dropSession_file r
  constructor
  · constructor
    · intro other ref
      change ((t.cryptoSessions.erase r).lookup other).map _ = some ref ↔
        other ∈ t.sessionsOf ref
      rw [hlook, hlis, (h.listedOnce ref).mem_erase_iff]
      by_cases heq : other = r
      · simp [heq]
      · rw [if_neg heq]
        exact (h.linked other ref).trans (and_iff_right heq).symm
    · intro ref
      change (t.sessionsOf ref).Nodup
      rw [hlis]
      exact (h.listedOnce ref).erase r
    · intro ref other f hf hoth
      change t.fileOf ref = some f at hf
      change t.fileOf other = some f at hoth
      rw [hfils] at hf hoth
      exact h.oneKey ref other f hf hoth
    · intro id
      have hx' : t.cryptoSessions.lookup r = some x := by rw [hsesss, hx]
      have hsum := total_erase (w := fun _ x => x.objects.count id) hx'
      have hsame : t.places id = issued s.allocated id := by rw [hplcs, h.accounted]
      rw [places_release]
      change _ = issued t.allocated id
      rw [hallo, ← hsame]
      unfold places
      dsimp only at hsum ⊢
      omega
    · exact hused
  · constructor
    · intro ref o k hk _
      change t.keys.lookup ref = _
      rw [hkeys, hk]
      rfl
    intro other y hy hoth
    change (t.cryptoSessions.erase r).lookup other = _
    have hne : other ≠ r := by
      rintro rfl
      rw [hx] at hy
      cases hy
      exact hoth (by rw [hcl])
    rw [hlook, if_neg hne, hy]
  · exact hlook
  · exact hkeys

theorem Consistent.dropSession (hcl : x.clientSessionRef = c) :
    ∃ t, s.dropSession c x.keyRef r = some t ∧ Dropped s t c r := by
  obtain ⟨o, p, hk, hmem⟩ := h.key_of_session hx
  have hkeys := h.lookup_drop hx hk
  unfold State.dropSession State.removeCryptoSession
  rw [hk]
  dsimp only
  rw [State.setKeyType_cryptoSessions, hx]
  generalize hu : s.setKeyType x.keyRef (.provisioned { p with
    cryptoSessionList := p.cryptoSessionList.erase r }) = u at hkeys ⊢
  have hsesss : u.cryptoSessions = s.cryptoSessions := by
    rw [← hu, State.setKeyType_cryptoSessions]
  have hallo : u.allocated = s.allocated := by rw [← hu, State.setKeyType_allocated]
  have huses : u.uses = s.uses := by rw [← hu, State.setKeyType_uses]
  have hplcs : ∀ id, u.places id = s.places id := by
    intro id
    have hsum := places_setKeyType hk (.provisioned { p with
      cryptoSessionList := p.cryptoSessionList.erase r }) id
    rw [hu] at hsum
    exact Nat.add_right_cancel hsum
  refine ⟨_, rfl, ?_⟩
  dsimp only
  by_cases hstrt : x.started = true
  · rw [if_pos hstrt]
    apply h.dropped_of_keys hx hcl
    · exact hsesss
    · exact hkeys
    · exact hplcs
    · exact hallo
    intro v hv
    rw [State.use_uses, huses] at hv
    rcases mem_append.1 hv with hold | hnew
    · exact h.usedByCreator v hold
    · rw [mem_singleton.1 hnew]
      exact hcl.symm
  · rw [if_neg hstrt]
    apply h.dropped_of_keys hx hcl hsesss hkeys hplcs hallo
    rw [huses]
    exact h.usedByCreator

end

/-- The sessions of a key, all of them the client's, are removed one after the other. -/
theorem Consistent.clearSessions (hk : s.keys.lookup ref = some ⟨o, .provisioned p⟩)
    (hown : ∀ r ∈ p.cryptoSessionList, ∀ x, s.cryptoSessions.lookup r = some x →
      x.clientSessionRef = c) :
    ∃ t q, s.clearCryptoSessionList c ref p = some t ∧ Consistent t ∧ Spares (some c) s t ∧
      t.keys.lookup ref = some ⟨o, .provisioned q⟩ ∧ q.cryptoSessionList = [] := by
  unfold clearCryptoSessionList
  generalize hlist : p.cryptoSessionList = l at hown
  induction l generalizing s p with
  | nil => exact ⟨s, p, rfl, h, .refl _ s, hk, hlist⟩
  | cons r rest ih =>
    have hsesss : s.sessionsOf ref = r :: rest := by rw [sessionsOf_of_lookup hk, ← hlist]; rfl
    obtain ⟨x, hx, rfl⟩ := h.session_of_mem (hsesss ▸ mem_cons_self)
    obtain ⟨t, ht, hdrop⟩ := h.dropSession hx (hown r (by simp) x hx)
    have hkey : t.keys.lookup x.keyRef = some ⟨o, .provisioned { p with
        cryptoSessionList := p.cryptoSessionList.erase r }⟩ := by
      rw [hdrop.keys, hk]
      rfl
    have hrest : p.cryptoSessionList.erase r = rest := by rw [hlist, erase_cons_head]
    obtain ⟨u, q, hu, hcst, hspr, hlast⟩ := ih hdrop.consistent hkey hrest (by
      intro other hoth y hy
      rw [hdrop.sessions] at hy
      split at hy
      · cases hy
      · exact hown other (mem_cons_of_mem r hoth) y hy)
    refine ⟨u, q, ?_, hcst, hdrop.spares.trans hspr, hlast⟩
    rw [exec_cons, ht]
    exact hu

end

theorem Spares.releaseKey (hk : s.keys.lookup ref = some ⟨o, .provisioned p⟩)
    (client : Option Nat) (k : Key) : Spares client s (s.releaseKey ref k) := by
  constructor
  · intro other o' k' hk' _
    rw [lookup_releaseKey]
    have hne : other ≠ ref := by
      rintro rfl
      rw [hk] at hk'
      cases hk'
    rw [if_neg hne, hk']
  · exact fun _ _ hx _ => hx

theorem Consistent.deleteProvisionedKey (h : Consistent s)
    (hk : s.keys.lookup ref = some ⟨o, .provisioned p⟩) (hown : s.ownsSessions c p = true) :
    ∃ t, s.deleteProvisionedKey c ref p = some t ∧ Consistent t ∧ Spares (some c) s t := by
  obtain ⟨t, q, ht, hcst, hspr, hkey, hnone⟩ := h.clearSessions hk (ownsSessions_iff.1 hown)
  unfold State.deleteProvisionedKey
  rw [ht, Option.map_some, hkey]
  exact ⟨_, rfl, hcst.releaseKey hkey hnone, hspr.trans (.releaseKey hkey _ _)⟩

theorem Consistent.deleteObsoleteKey (h : Consistent s) {file : Option Nat}
    (hown : s.ownsObsoleteKey c file = true) :
    ∃ t, s.deleteObsoleteKey c file = some t ∧ Consistent t ∧ Spares (some c) s t := by
  unfold State.ownsObsoleteKey at hown
  unfold State.deleteObsoleteKey
  split
  · exact ⟨s, rfl, h, .refl _ s⟩
  next hfile =>
    split
    · exact ⟨s, rfl, h, .refl _ s⟩
    next ref href =>
      split
      next o p hk =>
        have howne : s.ownsSessions c p = true := by simpa [hfile, href, hk] using hown
        exact h.deleteProvisionedKey hk howne
      exact ⟨s, rfl, h, .refl _ s⟩

theorem Consistent.withSession (h : Consistent s)
    (hk : s.keys.lookup ref = some ⟨o, .provisioned p⟩) :
    Consistent (s.withSession c ref p) := by
  have hfr : ∀ other, s.cryptoSessions.next ∉ s.sessionsOf other := by
    intro other hmem
    obtain ⟨x, hx, -⟩ := h.session_of_mem hmem
    rw [lookup_next] at hx
    cases hx
  have hlis : ∀ other, (s.withSession c ref p).sessionsOf other =
      if other = ref then p.cryptoSessionList ++ [s.cryptoSessions.next] else s.sessionsOf other :=
    sessionsOf_setKeyType hk
  have hlist : s.sessionsOf ref = p.cryptoSessionList := sessionsOf_of_lookup hk
  have hfils : ∀ other, (s.withSession c ref p).fileOf other = s.fileOf other := by
    intro other
    refine (fileOf_setKeyType hk other).trans ?_
    split
    next heq => rw [heq, fileOf_of_lookup hk]; rfl
    rfl
  constructor
  · intro r other
    change ((s.cryptoSessions.create _).lookup r).map _ = some other ↔ _
    rw [lookup_create, hlis]
    by_cases hr : r = s.cryptoSessions.next
    · rw [if_pos hr]
      by_cases heq : other = ref
      · simp [heq, hr]
      · rw [if_neg heq, hr]
        simp [hfr other, Ne.symm heq]
    rw [if_neg hr]
    by_cases heq : other = ref
    · rw [heq, ← hlist]
      have hold := h.linked r ref
      unfold State.keyOf at hold
      simp [hold, hr]
    · rw [if_neg heq]
      exact h.linked r other
  · intro other
    rw [hlis]
    split
    · rw [← hlist]
      exact nodup_append.2 ⟨h.listedOnce ref, by simp, by
        intro r hr r' hr' heq
        rw [mem_singleton.1 hr'] at heq
        exact hfr ref (heq ▸ hr)⟩
    · exact h.listedOnce other
  · intro one other f hf hoth
    rw [hfils] at hf hoth
    exact h.oneKey one other f hf hoth
  · intro id
    have hkeys := places_setKeyType hk (.provisioned { p with
      cryptoSessionList := p.cryptoSessionList ++ [s.cryptoSessions.next] }) id
    have hsame := Nat.add_right_cancel hkeys
    have hcnt := count_issued_one s.allocated id
    change _ = issued (s.allocated + 1) id
    rw [← hcnt, ← h.accounted id, ← hsame]
    unfold State.places State.withSession
    simp only [total_create, CryptoSession.objects, flatMap_nil, nil_append,
      State.setKeyType_cryptoSessions]
    omega
  · exact h.usedByCreator

end Sessions

/-! ## Calls -/

theorem not_fileOf_of_search {file : Option Nat}
    (hnone : s.searchProvisionedKey file = none) {f : Nat} (hf : file = some f) (ref : Nat) :
    s.fileOf ref ≠ some f := by
  intro hfile
  obtain ⟨⟨o, keyType⟩, hk, hkf⟩ := Option.bind_eq_some_iff.1 hfile
  have hoth := search_eq_none.1 hnone ref ⟨o, keyType⟩ hk
  cases keyType with
  | newCreated k => cases hkf
  | provisioned p =>
    change p.keyFileRef = some f at hkf
    simp [hf, hkf] at hoth

theorem not_fileOf_of_isNewFile {file : Option Nat} (h : s.isNewFile file = true)
    {f : Nat} (hf : file = some f) (ref : Nat) : s.fileOf ref ≠ some f := by
  apply not_fileOf_of_search _ hf
  simpa [isNewFile, hf] using h

section Calls

variable {L : Limits} {s t : State} {ref r c o : Nat}

theorem Spares.of_key {k : Key} (hk : s.keys.lookup ref = some k)
    (hoth : ∀ n, k.keyType = .newCreated n → n.clientSessionRef = c)
    (hkeys : ∀ other, other ≠ ref → t.keys.lookup other = s.keys.lookup other)
    (hsesss : ∀ r x, s.cryptoSessions.lookup r = some x →
      t.cryptoSessions.lookup r = some x) : Spares (some c) s t := by
  constructor
  · intro other o n hn hcl
    have hne : other ≠ ref := by
      rintro rfl
      rw [hk] at hn
      cases hn
      exact hcl (congrArg some (hoth n rfl).symm)
    rw [hkeys other hne, hn]
  · exact fun r x hx _ => hsesss r x hx

theorem Spares.setKeyType {k : Key} (hk : s.keys.lookup ref = some k)
    (hoth : ∀ n, k.keyType = .newCreated n → n.clientSessionRef = c) (keyType : KeyType) :
    Spares (some c) s (s.setKeyType ref keyType) := by
  apply of_key hk hoth
  · intro other hne
    rw [lookup_setKeyType, if_neg hne]
  · exact fun _ _ hx => hx

theorem Spares.of_session {x : CryptoSession} (hx : s.cryptoSessions.lookup r = some x)
    (hcl : x.clientSessionRef = c) (hkeys : t.keys = s.keys)
    (hoths : ∀ other, other ≠ r → t.cryptoSessions.lookup other = s.cryptoSessions.lookup other) :
    Spares (some c) s t := by
  constructor
  · intro ref o k hk _
    rw [hkeys, hk]
  intro other z hz hoth
  have hne : other ≠ r := by
    rintro rfl
    rw [hx] at hz
    cases hz
    exact hoth (by rw [hcl])
  rw [hoths other hne, hz]

theorem Spares.createKeyObject (client : Option Nat) (s : State) (keyType : KeyType) :
    Spares client s (s.createKeyObject keyType) := by
  constructor
  · intro ref o k hk _
    exact lookup_create_of_some hk _
  · exact fun _ _ hx _ => hx

def Fine (s : State) (client : Option Nat) (out : Option State) : Prop :=
  ∃ t, out = some t ∧ Consistent t ∧ Spares client s t

/-! ### Objects of the calls -/

theorem count_alloc {α : Type} (first : Nat) (buffered : Bool) (value : α) (id : Nat) :
    (Entry.alloc first buffered value).objects.count id + issued first id =
      issued (first + (Entry.alloc first buffered value).objects.length) id := by
  have hone := count_issued_one first id
  rcases buffered with _ | _
  · exact hone
  have htwo := count_issued_one (first + 1) id
  change ([first + 1] ++ [first]).count id + _ = issued (first + 1 + 1) id
  rw [count_append]
  omega

/-- The entry that is replaced is given back, the new one is allocated. -/
theorem count_setEntry {α : Type} (ident : α → Nat) (entries : List (Entry α)) (first : Nat)
    (buffered : Bool) (value : α) (id : Nat) :
    ((setEntry ident entries (.alloc first buffered value)).flatMap Entry.objects).count id +
        ((replacedEntry ident entries (.alloc first buffered value)).toList.flatMap
          Entry.objects).count id + issued first id =
      (entries.flatMap Entry.objects).count id +
        issued (first + (Entry.alloc first buffered value).objects.length) id := by
  have hfnd := count_eraseP_add
    (fun e : Entry α => ident e.value = ident (Entry.alloc first buffered value).value)
    Entry.objects entries id
  have hnew := count_alloc first buffered value id
  unfold setEntry replacedEntry
  rw [flatMap_append, count_append, flatMap_singleton]
  omega

section

variable (h : Consistent s)
include h

theorem Consistent.setKeyType_same {k : Key} (hk : s.keys.lookup ref = some k) {keyType : KeyType}
    (hsesss : keyType.sessions = k.keyType.sessions) (hfile : keyType.file = k.keyType.file)
    (hobjs : keyType.objects = k.keyType.objects) : Consistent (s.setKeyType ref keyType) := by
  apply h.of_setKeyType hk rfl rfl rfl hsesss hfile
  intro id
  rw [hobjs]
  rfl

theorem Consistent.withTag {k : NewKey}
    (hk : s.keys.lookup ref = some ⟨o, .newCreated k⟩) (tag : Tag) :
    Consistent (s.withTag ref k tag) := by
  refine h.of_setKeyType hk rfl rfl rfl rfl rfl ?_
  intro id
  have hcnt := count_setEntry Tag.id k.tagList s.allocated tag.buffered tag id
  simp only [State.withTag, State.release, State.setKeyType, KeyType.objects, count_append]
  omega

theorem Consistent.withParam {x : CryptoSession}
    (hx : s.cryptoSessions.lookup r = some x) (param : Param) :
    Consistent (s.withParam r x param) := by
  refine h.of_setSession hx rfl rfl rfl rfl ?_
  intro id
  have hcnt := count_setEntry Param.id x.paramList s.allocated param.buffered param id
  simp only [State.withParam, State.release, State.setSession, CryptoSession.objects,
    count_append]
  omega

theorem Consistent.started {x : CryptoSession}
    (hx : s.cryptoSessions.lookup r = some x) (handle : Nat) :
    Consistent ((s.setSession r { x with
      started := true, handle := handle, paramList := [] }).release
        (x.paramList.flatMap Entry.objects)) := by
  refine h.of_setSession hx rfl rfl rfl rfl ?_
  simp only [release, setSession, CryptoSession.objects, count_append,
    flatMap_nil, count_nil]
  omega

theorem Consistent.withValue {k : NewKey} {file : Option Nat}
    (hk : s.keys.lookup ref = some ⟨o, .newCreated k⟩)
    (hnew : ∀ f, file = some f → ∀ other, s.fileOf other ≠ some f) :
    Consistent (s.withValue ref k file) := by
  have hlis : ∀ other, (s.withValue ref k file).sessionsOf other = s.sessionsOf other := by
    intro other
    refine (sessionsOf_setKeyType hk other).trans ?_
    split
    next heq => rw [heq, sessionsOf_of_lookup hk]; rfl
    rfl
  have hfils : ∀ other, (s.withValue ref k file).fileOf other =
      if other = ref then file else s.fileOf other := fileOf_setKeyType hk
  constructor
  · intro r other
    rw [hlis]
    exact h.linked r other
  · intro other
    rw [hlis]
    exact h.listedOnce other
  · intro one other f hf hoth
    rw [hfils] at hf hoth
    by_cases hone : one = ref
    · rw [if_pos hone] at hf
      by_cases heq : other = ref
      · rw [hone, heq]
      · rw [if_neg heq] at hoth
        exact absurd hoth (hnew f hf other)
    rw [if_neg hone] at hf
    by_cases heq : other = ref
    · rw [if_pos heq] at hoth
      exact absurd hf (hnew f hoth one)
    · rw [if_neg heq] at hoth
      exact h.oneKey one other f hf hoth
  · intro id
    have hsum := places_setKeyType hk (.provisioned ⟨file, [], []⟩) id
    unfold State.withValue
    rw [places_release]
    change _ = issued s.allocated id
    rw [← h.accounted id]
    simpa [KeyType.objects] using hsum
  · exact h.usedByCreator

end

/-! ### Lists of shared apps -/

theorem sharedApps_objects (first : Nat) (apps : List SharedAppInfo) :
    (sharedApps L first apps).map SharedApp.object =
      range' first (sharedApps L first apps).length := by
  unfold sharedApps
  simp only [map_map, length_map, length_zipIdx]
  generalize (apps.take 12).filter _ = named
  calc named.zipIdx.map (SharedApp.object ∘ fun e => ⟨first + e.2, e.1⟩)
      = (named.zipIdx.map Prod.snd).map (first + ·) := by rw [map_map]; rfl
    _ = range' first named.length := by rw [zipIdx_map_snd, map_add_range', add_zero]

theorem count_newAppList (first : Nat) (apps : List SharedAppInfo) (id : Nat) :
    (SharedAppList.objects ⟨first, c, sharedApps L (first + 1) apps, 0⟩).count id +
        issued first id =
      issued (first + 1 + (sharedApps L (first + 1) apps).length) id := by
  have hone := count_issued_one first id
  have happs := count_issued (first + 1) (sharedApps L (first + 1) apps).length id
  unfold SharedAppList.objects
  rw [count_append, sharedApps_objects]
  dsimp only
  omega

theorem Consistent.updateAppListForClient {p : ProKey} (h : Consistent s)
    (hk : s.keys.lookup ref = some ⟨o, .provisioned p⟩) (apps : List SharedAppInfo) :
    Consistent (s.updateAppListForClient L c ref p apps) := by
  have hold := fun id => count_eraseP_add (fun l : SharedAppList => l.clientSessionRef = c)
    SharedAppList.objects p.sharedAppList id
  have hnew := fun id => count_newAppList (L := L) (c := c) s.allocated apps id
  unfold State.updateAppListForClient
  dsimp only
  split
  · refine h.of_setKeyType hk rfl rfl rfl rfl rfl ?_
    intro id
    have hrest := hold id
    have hlist := hnew id
    simp only [State.release, State.setKeyType, KeyType.objects, count_append]
    omega
  · refine h.of_setKeyType hk rfl rfl rfl rfl rfl ?_
    intro id
    have hrest := hold id
    have hlist := hnew id
    simp only [State.release, State.setKeyType, KeyType.objects, count_append,
      flatMap_append, flatMap_singleton]
    omega

theorem Consistent.lastApp {p : ProKey} {l : SharedAppList} (h : Consistent s)
    (hk : s.keys.lookup ref = some ⟨o, .provisioned p⟩)
    (hl : (p.sharedAppList.find? fun l => l.clientSessionRef = c) = some l) :
    Consistent ((s.setKeyType ref (.provisioned { p with
      sharedAppList := p.sharedAppList.eraseP fun l => l.clientSessionRef = c })).release
        l.objects) := by
  refine h.of_setKeyType hk rfl rfl rfl rfl rfl ?_
  intro id
  have hold := count_eraseP_add (fun l : SharedAppList => l.clientSessionRef = c)
    SharedAppList.objects p.sharedAppList id
  rw [hl, Option.toList_some, flatMap_singleton] at hold
  simp only [release, setKeyType, KeyType.objects, count_append]
  omega

theorem updateFirst_flatMap {α : Type} (q : α → Bool) (g : α → α) (f : α → List Nat)
    (hsame : ∀ a, f (g a) = f a) (l : List α) : (updateFirst q g l).flatMap f = l.flatMap f := by
  induction l with
  | nil => rfl
  | cons a rest ih =>
    unfold updateFirst
    split
    · rw [flatMap_cons, flatMap_cons, hsame]
    · rw [flatMap_cons, flatMap_cons, ih]

/-! ### All calls -/

/-- The key is of the client, and only it and objects that are no sessions change. -/
theorem fine_ownKey {k : NewKey} (hk : s.keys.lookup ref = some ⟨o, .newCreated k⟩)
    (hown : k.clientSessionRef = c) (ht : Consistent t)
    (hkeys : ∀ other, other ≠ ref → t.keys.lookup other = s.keys.lookup other)
    (hsesss : t.cryptoSessions = s.cryptoSessions) : Fine s (some c) (some t) := by
  refine ⟨_, rfl, ht, .of_key hk ?_ hkeys ?_⟩
  · intro n hn
    cases hn
    exact hown
  · intro r x hx
    rw [hsesss, hx]

theorem fine_proKey {p : ProKey} (hk : s.keys.lookup ref = some ⟨o, .provisioned p⟩)
    (ht : Consistent t)
    (hkeys : ∀ other, other ≠ ref → t.keys.lookup other = s.keys.lookup other)
    (hsesss : ∀ r x, s.cryptoSessions.lookup r = some x →
      t.cryptoSessions.lookup r = some x) : Fine s (some c) (some t) := by
  refine ⟨_, rfl, ht, .of_key hk ?_ hkeys hsesss⟩
  intro n hn
  cases hn

section
variable (h : Consistent s)
include h

theorem fine_deleteNew {k : NewKey} (hk : s.keys.lookup ref = some ⟨o, .newCreated k⟩)
    (hown : k.clientSessionRef = c) :
    Fine s (some c) (some (s.releaseKey ref ⟨o, .newCreated k⟩)) := by
  apply fine_ownKey hk hown (h.releaseKey hk rfl) _ rfl
  intro other hne
  rw [lookup_releaseKey, if_neg hne]

theorem fine_tag {k : NewKey} (hk : s.keys.lookup ref = some ⟨o, .newCreated k⟩)
    (hown : k.clientSessionRef = c) (tag : Tag) :
    Fine s (some c) (some (s.withTag ref k tag)) := by
  apply fine_ownKey hk hown (h.withTag hk tag) _ rfl
  intro other hne
  change (s.setKeyType _ _).keys.lookup other = _
  rw [lookup_setKeyType, if_neg hne]

theorem fine_provision {k : NewKey} (hk : s.keys.lookup ref = some ⟨o, .newCreated k⟩)
    (hown : k.clientSessionRef = c) {file : Option Nat} (hnew : s.isNewFile file = true)
    (request : Request) :
    Fine s (some c) (some ((s.use c c request).withValue ref k file)) := by
  have ht : Consistent ((s.use c c request).withValue ref k file) := by
    apply (h.use c request).withValue hk
    exact fun f hf => not_fileOf_of_isNewFile hnew hf
  apply fine_ownKey hk hown ht _ rfl
  intro other hne
  change (s.setKeyType _ _).keys.lookup other = _
  rw [lookup_setKeyType, if_neg hne]

theorem fine_firstApp {p : ProKey} (hk : s.keys.lookup ref = some ⟨o, .provisioned p⟩)
    (apps : List SharedAppInfo) :
    Fine s (some c) (some (s.updateAppListForClient L c ref p apps)) := by
  apply fine_proKey hk (h.updateAppListForClient hk apps)
  · intro other hne
    unfold updateAppListForClient
    dsimp only
    split
    all_goals
      change (s.setKeyType _ _).keys.lookup other = _
      rw [lookup_setKeyType, if_neg hne]
  · intro r x hx
    unfold updateAppListForClient
    dsimp only
    split
    all_goals exact hx

theorem fine_lastApp {p : ProKey} {l : SharedAppList}
    (hk : s.keys.lookup ref = some ⟨o, .provisioned p⟩)
    (hl : (p.sharedAppList.find? fun l => l.clientSessionRef = c) = some l) :
    Fine s (some c) (some ((s.setKeyType ref (.provisioned { p with
      sharedAppList := p.sharedAppList.eraseP fun l => l.clientSessionRef = c })).release
        l.objects)) := by
  apply fine_proKey hk (h.lastApp hk hl)
  · intro other hne
    change (s.setKeyType _ _).keys.lookup other = _
    rw [lookup_setKeyType, if_neg hne]
  · exact fun _ _ hx => hx

theorem fine_session {p : ProKey} (hk : s.keys.lookup ref = some ⟨o, .provisioned p⟩) :
    Fine s (some c) (some (s.withSession c ref p)) := by
  apply fine_proKey hk (h.withSession hk)
  · intro other hne
    change (s.setKeyType _ _).keys.lookup other = _
    rw [lookup_setKeyType, if_neg hne]
  · intro r x hx
    exact lookup_create_of_some hx _

/-- A session that was started is no more when its crypto has ended. -/
theorem fine_finish {x : CryptoSession} (hx : s.cryptoSessions.lookup r = some x)
    (hcl : x.clientSessionRef = c) (request : Request) :
    Fine s (some c) (((s.use c c request).setSession r { x with
      started := false, handle := 0 }).dropSession c x.keyRef r) := by
  have hstop : Consistent ((s.use c c request).setSession r { x with
      started := false, handle := 0 }) := by
    refine (h.use c request).of_setSession hx rfl rfl rfl rfl ?_
    exact fun _ => rfl
  have hfnd : ((s.use c c request).setSession r { x with
      started := false, handle := 0 }).cryptoSessions.lookup r =
        some { x with started := false, handle := 0 } := by
    rw [lookup_setSession, if_pos rfl]
    change (s.cryptoSessions.lookup r).map _ = _
    rw [hx]
    rfl
  obtain ⟨t, ht, hdrop⟩ := hstop.dropSession hfnd hcl
  have hspr : Spares (some c) s ((s.use c c request).setSession r { x with
      started := false, handle := 0 }) := by
    refine .of_session hx hcl rfl ?_
    intro other hne
    rw [lookup_setSession, if_neg hne]
    rfl
  exact ⟨t, ht, hdrop.consistent, hspr.trans hdrop.spares⟩

end

/-- A careful call is answered, and keeps the objects consistent and those of others alone. -/
theorem Effect.fine {call : Call} {out : Option State} (heff : Effect L s c call out)
    (h : Consistent s) (hcare : carefulCall L s c call = true) : Fine s (some c) out := by
  cases heff with
  | same call => exact ⟨s, rfl, h, .refl _ s⟩
  | readUsage hk hcl | generate g hk hcl => exact ⟨_, rfl, h.use c _, .of_same rfl rfl⟩
  | @create appName keyId usage file happ hposi hnew =>
    have hown : s.ownsObsoleteKey c file = true := by
      simpa [carefulCall, happ, hposi, hnew] using hcare
    obtain ⟨t, ht, hcst, hspr⟩ := h.deleteObsoleteKey hown
    rw [ht]
    refine ⟨_, rfl, hcst.createKeyObject rfl rfl ?_, hspr.trans (.createKeyObject _ t _)⟩
    intro f hf
    cases hf
  | found hnone =>
    refine ⟨_, rfl, h.createKeyObject rfl rfl ?_, .createKeyObject _ s _⟩
    exact fun f hf => not_fileOf_of_search hnone hf
  | @obsolete appName owner keyName keyId file hpart hposi =>
    have hown : s.ownsObsoleteKey c file = true := by
      simpa [carefulCall, hpart, hposi] using hcare
    exact h.deleteObsoleteKey hown
  | @delete ref o p hk hidle =>
    have hown : s.ownsSessions c p = true := by simpa [carefulCall, hk, hidle] using hcare
    exact h.deleteProvisionedKey hk hown
  | @deleteNew ref o k deleted hk =>
    have hown : k.clientSessionRef = c := by simpa [carefulCall, hk] using hcare
    exact fine_deleteNew h hk hown
  | @tag ref o k tag hdata hk =>
    have hown : k.clientSessionRef = c := by simpa [carefulCall, hk, hdata] using hcare
    exact fine_tag h hk hown tag
  | @provision ref o k kind p g hk hcl hkind hallw hgene =>
    have hnew : s.isNewFile p.keyFileRef = true := by
      simpa [carefulCall, hk, hcl, hkind, hallw, hgene] using hcare
    exact fine_provision h hk hcl hnew _
  | firstApp hk => exact fine_firstApp h hk _
  | nextApp hk =>
    refine ⟨_, rfl, h.setKeyType_same hk rfl rfl ?_, .setKeyType hk ?_ _⟩
    · apply updateFirst_flatMap
      exact fun _ => rfl
    · intro n hn
      cases hn
  | lastApp hk hl => exact fine_lastApp h hk hl
  | session hk => exact fine_session h hk
  | param hx hcl =>
    refine ⟨_, rfl, h.withParam hx _, .of_session hx hcl rfl ?_⟩
    intro other hne
    change (s.setSession _ _).cryptoSessions.lookup other = _
    rw [lookup_setSession, if_neg hne]
  | start request hx hcl =>
    refine ⟨_, rfl, (h.use c request).started hx _, .of_session hx hcl rfl ?_⟩
    intro other hne
    change (s.setSession _ _).cryptoSessions.lookup other = _
    rw [lookup_setSession, if_neg hne]
  | use call request hx hcl => exact ⟨_, rfl, h.use c request, .of_same rfl rfl⟩
  | remove call request hx hcl hidle =>
    obtain ⟨t, ht, hdrop⟩ := (h.use c request).dropSession hx hcl
    have hused : Spares (some c) s (s.use c c request) := .of_same rfl rfl
    exact ⟨t, ht, hdrop.consistent, hused.trans hdrop.spares⟩
  | finish call request hx hcl => exact fine_finish h hx hcl request

/-! ## Disconnected clients -/

theorem Consistent.removeNewKeysForClient (h : Consistent s) (c : Nat) :
    Consistent (s.removeNewKeysForClient c) := by
  have hlook : ∀ ref, (s.removeNewKeysForClient c).keys.lookup ref =
      (s.keys.lookup ref).filter fun k => !k.isNewOf c := fun ref => lookup_filterRefs _
  have hnew : ∀ k : Key, k.isNewOf c = true → k.keyType.sessions = [] ∧
      k.keyType.file = none := by
    intro k hk
    obtain ⟨o, keyType⟩ := k
    cases keyType with
    | newCreated k => exact ⟨rfl, rfl⟩
    | provisioned p => cases hk
  apply h.of_views
  · intro ref
    unfold State.sessionsOf
    rw [hlook]
    rcases s.keys.lookup ref with _ | k
    · rfl
    cases hk : k.isNewOf c with
    | true => simp [Option.filter_some, hk, hnew k hk]
    | false => simp [Option.filter_some, hk]
  · intro ref
    unfold State.fileOf
    rw [hlook]
    rcases s.keys.lookup ref with _ | k
    · rfl
    cases hk : k.isNewOf c with
    | true => simp [hnew k hk]
    | false => simp [Option.filter_some, hk]
  · exact fun _ => rfl
  · intro id
    have hold := h.accounted id
    have hrmvd := count_filter_values_flatMap (m := s.keys) (Key.isNewOf c) Key.objects id
    have hkept := total_filterRefs (m := s.keys) (w := fun _ k => k.objects.count id)
      fun _ k => !k.isNewOf c
    have hboth : (s.keys.total fun _ k =>
        (if k.isNewOf c then k.objects.count id else 0) +
          if !k.isNewOf c then k.objects.count id else 0) =
        s.keys.total fun _ k => k.objects.count id := by
      apply total_congr
      intro ref k _
      cases k.isNewOf c <;> simp
    rw [total_add] at hboth
    unfold State.removeNewKeysForClient
    rw [places_release]
    unfold State.places at hold ⊢
    change _ = issued s.allocated id
    dsimp only
    omega
  · exact h.usedByCreator

theorem Spares.removeNewKeysForClient (s : State) (c : Nat) :
    Spares (some c) s (s.removeNewKeysForClient c) := by
  constructor
  · intro ref o k hk hcl
    rw [State.removeNewKeysForClient, State.release_keys, lookup_filterRefs, hk]
    have hoth : k.clientSessionRef ≠ c := fun heq => hcl (by rw [heq])
    simp [Key.isNewOf, hoth]
  · exact fun _ _ hx _ => hx

theorem Consistent.removeAppListsForClient (h : Consistent s) (c : Nat) :
    Consistent (s.removeAppListsForClient c) := by
  have hlook : ∀ ref, (s.removeAppListsForClient c).keys.lookup ref =
      (s.keys.lookup ref).map fun k => { k with keyType := k.keyType.removeAppListFor c } :=
    fun ref => lookup_mapRefs _
  apply h.of_views
  · intro ref
    unfold State.sessionsOf
    rw [hlook]
    rcases s.keys.lookup ref with _ | ⟨o, keyType⟩
    · rfl
    · cases keyType <;> rfl
  · intro ref
    unfold State.fileOf
    rw [hlook]
    rcases s.keys.lookup ref with _ | ⟨o, keyType⟩
    · rfl
    · cases keyType <;> rfl
  · exact fun _ => rfl
  · intro id
    have hold := h.accounted id
    have hrmvd := count_values_flatMap (m := s.keys)
      (fun k : Key => (k.keyType.appListFor c).toList.flatMap SharedAppList.objects) id
    have hkept := total_mapRefs (m := s.keys) (w := fun _ k => k.objects.count id)
      fun _ k => { k with keyType := k.keyType.removeAppListFor c }
    have hboth : (s.keys.total fun _ k =>
        ((k.keyType.appListFor c).toList.flatMap SharedAppList.objects).count id +
          (Key.objects { k with keyType := k.keyType.removeAppListFor c }).count id) =
        s.keys.total fun _ k => k.objects.count id := by
      apply total_congr
      rintro ref ⟨o, keyType⟩ _
      cases keyType with
      | newCreated k => exact Nat.zero_add _
      | provisioned p =>
        have hlis := count_eraseP_add (fun l : SharedAppList => l.clientSessionRef = c)
          SharedAppList.objects p.sharedAppList id
        simp only [KeyType.appListFor, KeyType.removeAppListFor, Key.objects, KeyType.objects,
          count_append]
        omega
    rw [total_add] at hboth
    unfold State.removeAppListsForClient
    rw [places_release]
    unfold State.places at hold ⊢
    change _ = issued s.allocated id
    dsimp only
    omega
  · exact h.usedByCreator

theorem Spares.removeAppListsForClient (client : Option Nat) (s : State) (c : Nat) :
    Spares client s (s.removeAppListsForClient c) := by
  constructor
  · intro ref o k hk _
    rw [State.removeAppListsForClient, State.release_keys, lookup_mapRefs, hk]
    rfl
  · exact fun _ _ hx _ => hx

theorem Consistent.removeSessions (h : Consistent s) {refs : List Nat} (hnd : refs.Nodup)
    (hown : ∀ r ∈ refs, ∃ x, s.cryptoSessions.lookup r = some x ∧ x.clientSessionRef = c) :
    Fine s (some c) (exec (fun s r => s.removeSessionOfClient c r) s refs) := by
  induction refs generalizing s with
  | nil => exact ⟨s, rfl, h, .refl _ s⟩
  | cons r rest ih =>
    obtain ⟨hfst, hrest⟩ := nodup_cons.1 hnd
    obtain ⟨x, hx, hcl⟩ := hown r mem_cons_self
    obtain ⟨t, ht, hdrop⟩ := h.dropSession hx hcl
    have hstep : s.removeSessionOfClient c r = some t := by
      unfold removeSessionOfClient
      rw [hx]
      exact ht
    obtain ⟨u, hu, hcst, hspr⟩ := ih hdrop.consistent hrest (by
      intro other hoth
      have hne : other ≠ r := fun heq => hfst (heq ▸ hoth)
      rw [hdrop.sessions, if_neg hne]
      exact hown other (mem_cons_of_mem r hoth))
    refine ⟨u, ?_, hcst, hdrop.spares.trans hspr⟩
    rw [exec_cons, hstep]
    exact hu

theorem Consistent.sessionClosed (h : Consistent s) (c : Nat) :
    Fine s (some c) (s.sessionClosed c) := by
  have hnew := h.removeNewKeysForClient c
  have hnd : ((s.removeNewKeysForClient c).sessionRefsOf c).Nodup :=
    s.cryptoSessions.nodup.sublist (filter_sublist.map Prod.fst)
  obtain ⟨t, ht, hcst, hspr⟩ := hnew.removeSessions hnd (by
    intro r hr
    obtain ⟨e, he, rfl⟩ := mem_map.1 hr
    obtain ⟨hmem, hcl⟩ := mem_filter.1 he
    exact ⟨e.2, lookup_eq_some_iff.2 hmem, by simpa using hcl⟩)
  unfold State.sessionClosed State.removeCryptoSessionsForClient
  rw [ht]
  refine ⟨_, rfl, hcst.removeAppListsForClient c, ?_⟩
  exact ((Spares.removeNewKeysForClient s c).trans hspr).trans (.removeAppListsForClient _ t c)

end Calls

/-! ## Runs -/

def Action.client : Action → Option Nat
  | .call c _ => some c
  | .keyFile _ => none
  | .closed c => some c

theorem step_fine {L : Limits} {a : Action} (h : Consistent s)
    (hcare : Careful L s a) : Fine s a.client (step L s a) := by
  cases a with
  | call c call => exact (perform_effect L s c call).fine h hcare
  | keyFile file =>
    change Fine s none (some (s.keyCreationPAHandler file))
    unfold keyCreationPAHandler
    split
    · exact ⟨s, rfl, h, .refl _ s⟩
    · refine ⟨_, rfl, h.createKeyObject rfl rfl ?_, .createKeyObject _ s _⟩
      exact fun f hf => not_fileOf_of_isNewFile hcare hf
  | closed c => exact h.sessionClosed c

/-- In every careful run no step fails, the objects stay consistent, and every step leaves what
other clients created alone. -/
theorem objects_run {L : Limits} {actions : List Action}
    (hcare : Meets (step L) (Careful L) start actions) :
    Meets (step L) (fun s a => Fine s a.client (step L s a)) start actions := by
  apply Meets.of_invariant Consistent _ _ consistent_start hcare
  · exact fun s a h hok => step_fine h hok
  intro s a t h hok hstep
  obtain ⟨u, hu, hconsistent, -⟩ := step_fine h hok
  rw [hstep] at hu
  cases hu
  exact hconsistent

/-- Two clients use a key, the one that created it goes, and the other deletes the key. -/
def twoClients : List Action :=
  [.call 1 (.createKey (some "app".toList) "key".toList (some ⟨.aes, .both⟩) .notFound none),
   .call 1 (.setKeyAttribute 0 (.applicationData [1])),
   .call 1 (.setKeyAttribute 0 (.applicationData [2])),
   .call 2 (.getKeyUsage 0 .ok ⟨.aes, .both⟩),
   .call 1 (.provision 0 .aes ⟨0, 1, [], .ok, some 7⟩),
   .call 1 (.cryptoSessionCreate 0),
   .call 2 (.getKey (some "other".toList) "app::key".toList .ok (some 7)),
   .call 2 (.cryptoSessionCreate 0),
   .call 1 (.setSessionParam 0 (.rsaPaddingType .pss)),
   .call 1 (.cryptoSessionStart 0 0 .ok 5),
   .call 2 (.deleteKey 0 .ok),
   .closed 1,
   .call 2 (.cryptoSessionStart 1 0 .fault 0),
   .call 2 (.deleteKey 0 .ok)]

theorem objects_twoClients :
    Meets (step exampleLimits) (fun s a => Fine s a.client (step exampleLimits s a)) start twoClients :=
  objects_run (by decide +kernel)

def foreignTag : List Action :=
  [.call 1 (.createKey (some "app".toList) "key".toList (some ⟨.aes, .both⟩) .notFound none),
   .call 2 (.setKeyAttribute 0 (.maxUsesPerBoot 0))]

theorem objects_fail :
    ¬ Meets (step exampleLimits) (fun s a => Fine s a.client (step exampleLimits s a)) start foreignTag := by
  intro h
  obtain ⟨t, ht, -, hspares⟩ := (h.2 _ rfl).1
  cases ht
  have hkept := hspares.newKeys 0 0 _ rfl (by decide)
  cases hkept

end TelAF.KeyStore
