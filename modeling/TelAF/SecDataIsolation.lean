import Mathlib.Tactic.SplitIfs
import TelAF.PathNames
import TelAF.SecDataStorage

/-!
# The isolation of the data items

An item is for its owner and for the apps that the owner shares it with. The service finds a
client's reference by the plain name of the data, frees a record on behalf of a client that may not
use it, and joins names for key ids and temporary files. Where no call runs into one of these, the
items of different apps are kept apart.
-/

namespace TelAF.SecDataStorage

open TransitionRuns

/-- An app may use an item as its owner or as the owner shares it. -/
def Permits (shares : List (Item × Name × Usage)) (app : Name) (i : Item) (p : Purpose) : Prop :=
  app = i.owner ∨ ∃ u, u.allows p = true ∧ (i, app, u) ∈ shares

/-- The client session, the reference and the purpose of a call that reads or writes. -/
def Action.access : Action → Option (Nat × Nat × Purpose)
  | .writeDataStart c ref _ | .writeDataChunk c ref _ _ _ | .writeDataEnd c ref _ _ =>
    some (c, ref, .writing)
  | .readDataFirstChunk c ref _ | .readDataNextChunk c ref _ => some (c, ref, .reading)
  | _ => none

namespace SecData

def busy (e : SecData) : Bool := e.isInWritingProcess || e.isInReadingProcess

end SecData

section
variable (P : Platform) (s : State)

structure State.Apart (t : State) : Prop where
  resources : ∀ x ∈ t.uses, ∀ y ∈ t.uses, x.1 ≠ y.1 → x.2 ≠ y.2
  keys : ∀ q e r d, t.secData.lookup q = some e →
    t.secData.lookup r = some d → e.item ≠ d.item →
    e.keyRef ≠ d.keyRef

/-- The reference was given to a session of the same app. -/
def State.OwnReference (c ref : Nat) : Prop :=
  ∀ d ∈ s.clientData.lookup ref, P.appName d.clientSessionRef = P.appName c
deriving Decidable

/-- The names of an item that gets a record give another key id than those of the items so far, and
the item is not named like the temporary file of one of them. -/
def State.NewNames (i : Item) : Prop :=
  (∀ j ∈ s.items, j ≠ i → P.getDataKeyId j ≠ P.getDataKeyId i) ∧
    ∀ j ∈ s.written, j.owner = i.owner → i.name ≠ j.name ++ tempExtension
deriving Decidable

/-- No item so far is named like the temporary file. -/
def State.NewTempFile (i : Item) : Prop :=
  ∀ j ∈ s.items, j.owner = i.owner → j.name ≠ i.name ++ tempExtension
deriving Decidable

/-- The apps that the key store shares the key of the item with. -/
def State.keySharedWith (i : Item) (app : Name) : Bool :=
  ((((s.getKey (P.getDataKeyId i)).bind s.keys.lookup).map Key.sharedApps).getD []).take 12 |>.any
    fun e => e.1 = app

/-- No reference points to the record, and it is not in use. -/
def State.Unused (r : Nat) : Prop :=
  (∀ d ∈ s.clientData.values, d.secDataRef ≠ some r) ∧
    ∀ e ∈ s.secData.lookup r, e.busy = false
deriving Decidable

/-- A request for another app's item comes from a session without a reference to an own item of
that name, and where it is refused, the record of the item is unused. -/
def State.HarmlessRequest (c : Nat) (i : Item) : Prop :=
  s.findClientDataRef c i.name = none ∧
    (s.keySharedWith P i (P.appName c) = false → ∀ r ∈ s.findSecDataRef i, s.Unused r)
deriving Decidable

def Careful : Action → Prop
  | .createData c dataName _ =>
    checkValidPosixFileName dataName = true →
      P.getDataPath ⟨P.appName c, dataName⟩ ∉ s.files →
      isDirectory dataName = false → s.findSecDataRef ⟨P.appName c, dataName⟩ = none →
      s.NewNames P ⟨P.appName c, dataName⟩
  | .getDataRef c dataLabel =>
    ∀ q ∈ s.requestedData P c dataLabel,
      (s.findSecDataRef q.2 = none → s.NewNames P q.2) ∧
        (q.1.isSome = true → s.HarmlessRequest P c q.2)
  | .writeDataStart c ref env =>
    s.OwnReference P c ref ∧
      ∀ i ∈ s.encryptedItem P c ref env, env.aead = true → s.NewTempFile i
  | .writeDataChunk c ref _ _ _ | .writeDataEnd c ref _ _ | .readDataFirstChunk c ref _
  | .readDataNextChunk c ref _ | .shareData c ref _ _ _ | .cancelDataSharing c ref _ _ =>
    s.OwnReference P c ref
  | .deleteData c ref =>
    s.OwnReference P c ref ∧
      ∀ f ∈ s.dataOf ref, ∀ k ∈ s.keys.lookup f.2.2.keyRef, k.running = 0
  | .disconnect _ => True

instance : DecidableRel (Careful P) := fun _ a => by cases a <;> unfold Careful <;> infer_instance

end

/-- A record belongs to its item, its list of apps is not longer than what the owner shares, and
the session that uses it is permitted to. -/
structure DataOk (P : Platform) (items : List Item) (shares : List (Item × Name × Usage))
    (keys : RefMap Key) (e : SecData) : Prop where
  item : e.item ∈ items
  path : e.path = P.getDataPath e.item
  key : ∃ k, keys.lookup e.keyRef = some k ∧ k.id = P.getDataKeyId e.item ∧
    (e.busy = true → 0 < k.running)
  cached : ∀ app u, (app, u) ∈ e.sharedAppList → (e.item, app, u) ∈ shares
  writing : e.isInWritingProcess = true →
    e.isInReadingProcess = false ∧ ∃ w ∈ e.writer, Permits shares (P.appName w) e.item .writing
  reading : e.isInReadingProcess = true →
    ∃ w ∈ e.reader, Permits shares (P.appName w) e.item .reading

/-- A client's reference was returned for one item, and points to that item's record. -/
structure ClientOf (P : Platform) (requested : List (Nat × Item)) (secData : RefMap SecData)
    (ref : Nat) (d : ClientData) (i : Item) : Prop where
  returned : (ref, i) ∈ requested
  only : ∀ j, (ref, j) ∈ requested → j = i
  owner : d.sharedClient = false → P.appName d.clientSessionRef = i.owner
  label : splitLabel d.dataLabel = none → i = ⟨P.appName d.clientSessionRef, d.dataLabel⟩
  older : ∀ r ∈ d.secDataRef, r < secData.next
  points : ∀ r ∈ d.secDataRef, ∀ e, secData.lookup r = some e → e.item = i

structure Objects (P : Platform) (s : State) : Prop where
  data : ∀ r e, s.secData.lookup r = some e → DataOk P s.items s.shares s.keys e
  one : ∀ q e r d, s.secData.lookup q = some e →
    s.secData.lookup r = some d → e.item = d.item →
    q = r
  keyIds : ∀ q k r l, s.keys.lookup q = some k → s.keys.lookup r = some l →
    k.id = l.id → q = r
  keyItems : ∀ r k, s.keys.lookup r = some k → ∃ i ∈ s.items, P.getDataKeyId i = k.id
  shared : ∀ r k, s.keys.lookup r = some k → ∀ i ∈ s.items, P.getDataKeyId i = k.id →
    ∀ app u, (app, u) ∈ k.sharedApps → (i, app, u) ∈ s.shares
  items : ∀ i ∈ s.items, ∀ j ∈ s.items, P.getDataKeyId i = P.getDataKeyId j → i = j
  owners : ∀ i ∈ s.items, '/' ∉ i.owner
  written : ∀ i ∈ s.written, i ∈ s.items
  temps : ∀ i ∈ s.written, ∀ j ∈ s.items, j.owner = i.owner →
    j.name ≠ i.name ++ tempExtension
  uses : ∀ x ∈ s.uses, x.1 ∈ s.items ∧
    (x.2 = .key (P.getDataKeyId x.1) ∨ x.2 = .file (P.getDataPath x.1) ∨
      x.1 ∈ s.written ∧ x.2 = .file (tempFile (P.getDataPath x.1)))

structure Inv (P : Platform) (s : State) : Prop extends Objects P s where
  clients : ∀ ref d, s.clientData.lookup ref = some d →
    ∃ i, ClientOf P s.requested s.secData ref d i
  requested : ∀ ref i, (ref, i) ∈ s.requested → ref < s.clientData.next

section Start

end Start

section Paths

variable {P : Platform} {i j : Item}

theorem getDataPath_inj (hi : '/' ∉ i.owner) (hj : '/' ∉ j.owner)
    (h : P.getDataPath i = P.getDataPath j) : i = j := by
  unfold Platform.getDataPath at h
  rw [List.append_assoc, List.append_assoc] at h
  obtain ⟨hownr, hname⟩ := PathNames.append_slash_inj hi hj (List.append_cancel_left h)
  cases i
  cases j
  simp_all

theorem tempFile_getDataPath :
    tempFile (P.getDataPath i) = P.getDataPath ⟨i.owner, i.name ++ tempExtension⟩ := by
  simp [tempFile, Platform.getDataPath]

end Paths

section Apart

variable {P : Platform} {s : State}

/-- What the names keep apart stays apart in the keys and files. -/
theorem Objects.resource_ne (h : Objects P s) {x y : Item × Resource}
    (hx : x ∈ s.uses) (hy : y ∈ s.uses)
    (hne : x.1 ≠ y.1) : x.2 ≠ y.2 := by
  obtain ⟨hxi, hxr⟩ := h.uses x hx
  obtain ⟨hyi, hyr⟩ := h.uses y hy
  have hxo := h.owners _ hxi
  have hyo := h.owners _ hyi
  have hpath : ∀ {n m : Name}, P.getDataPath ⟨x.1.owner, n⟩ = P.getDataPath ⟨y.1.owner, m⟩ →
      x.1.owner = y.1.owner ∧ n = m := by
    intro n m heq
    exact Item.mk.inj (getDataPath_inj (i := ⟨x.1.owner, n⟩) (j := ⟨y.1.owner, m⟩) hxo hyo heq)
  intro heq
  rcases hxr with hxk | hxp | ⟨hxw, hxt⟩ <;> rcases hyr with hyk | hyp | ⟨hyw, hyt⟩
  · rw [hxk, hyk] at heq
    exact hne (h.items _ hxi _ hyi (Resource.key.inj heq))
  · simp [hxk, hyp] at heq
  · simp [hxk, hyt] at heq
  · simp [hxp, hyk] at heq
  · rw [hxp, hyp] at heq
    exact hne (getDataPath_inj hxo hyo (Resource.file.inj heq))
  · rw [hxp, hyt, tempFile_getDataPath] at heq
    obtain ⟨hownr, hname⟩ := hpath (Resource.file.inj heq)
    exact h.temps _ hyw _ hxi hownr hname
  · simp [hxt, hyk] at heq
  · rw [hxt, hyp, tempFile_getDataPath] at heq
    obtain ⟨hownr, hname⟩ := hpath (Resource.file.inj heq)
    exact h.temps _ hxw _ hyi hownr.symm hname.symm
  rw [hxt, hyt, tempFile_getDataPath, tempFile_getDataPath] at heq
  obtain ⟨hownr, hname⟩ := hpath (Resource.file.inj heq)
  apply hne
  cases hx1 : x.1
  cases hy1 : y.1
  simp_all

theorem Objects.item_of_keyRef (h : Objects P s) {q r : Nat} {e d : SecData}
    (he : s.secData.lookup q = some e) (hd : s.secData.lookup r = some d)
    (hkey : e.keyRef = d.keyRef) : e.item = d.item := by
  obtain ⟨k, hk, hkid, -⟩ := (h.data q e he).key
  obtain ⟨l, hl, hlid, -⟩ := (h.data r d hd).key
  rw [hkey, hl] at hk
  cases hk
  exact h.items _ (h.data q e he).item _ (h.data r d hd).item (hkid.symm.trans hlid)

theorem Objects.apart (h : Objects P s) : s.Apart where
  resources := fun _ hx _ hy hne => h.resource_ne hx hy hne
  keys := fun _ _ _ _ he hd hne hkey => hne (h.item_of_keyRef he hd hkey)

end Apart

end TelAF.SecDataStorage
