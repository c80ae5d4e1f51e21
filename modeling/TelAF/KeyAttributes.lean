import TelAF.KeyEffects

/-!
# Attributes of keys

The setters collect attributes in the tag list of a new key, the value set last for each. The
provisioning functions tell the platform of no tag at all: a key with attributes is generated
without them, and its tag list is cleared.
-/

namespace TelAF.KeyStore

open TransitionRuns State List Nat

/-- The value that was set last for an identifier. -/
def lastValue (tags : List Tag) (id : Nat) : Option Tag := tags.reverse.find? fun t => t.id = id

@[simp] theorem lastValue_nil (id : Nat) : lastValue [] id = none := rfl

theorem lastValue_append (tags : List Tag) (tag : Tag) (id : Nat) :
    lastValue (tags ++ [tag]) id = if tag.id = id then some tag else lastValue tags id := by
  unfold lastValue
  by_cases heq : tag.id = id
  all_goals simp [heq]

theorem lastValue_eq_none {tags : List Tag} : (∀ id, lastValue tags id = none) ↔ tags = [] := by
  constructor
  · intro hnone
    cases tags using reverseRecOn with
    | nil => rfl
    | append_singleton tags tag =>
      have htag := hnone tag.id
      rw [lastValue_append, if_pos rfl] at htag
      cases htag
  · rintro rfl id
    rfl

/-- A list has the last values of the tags set, and each of them once. -/
structure HoldsLast (held set : List Tag) : Prop where
  nodup : (held.map Tag.id).Nodup
  mem : ∀ tag, tag ∈ held ↔ lastValue set tag.id = some tag

theorem HoldsLast.nil : HoldsLast [] [] := ⟨nodup_nil, by simp⟩

theorem HoldsLast.eq_nil {set : List Tag} (h : HoldsLast [] set) : set = [] := by
  apply lastValue_eq_none.1
  intro id
  rcases hid : lastValue set id with _ | tag
  · rfl
  have hfnd := find?_some hid
  have hlast : lastValue set tag.id = some tag := by
    rw [← hid]
    congr 1
    simpa using hfnd
  exact absurd ((h.mem tag).2 hlast) not_mem_nil

theorem HoldsLast.setEntry {entries : List (Entry Tag)} {set : List Tag}
    (h : HoldsLast (entries.map Entry.value) set) (new : Entry Tag) :
    HoldsLast ((setEntry Tag.id entries new).map Entry.value) (set ++ [new.value]) := by
  obtain ⟨hnd, hmem⟩ := h
  unfold KeyStore.setEntry
  have hersd : (entries.eraseP fun e => e.value.id = new.value.id) =
      entries.filter fun e => e.value.id ≠ new.value.id := by
    rw [map_map] at hnd
    clear hmem
    induction entries with
    | nil => rfl
    | cons e rest ih =>
      obtain ⟨hfst, hrest⟩ := nodup_cons.1 hnd
      by_cases heq : e.value.id = new.value.id
      · have hoths : rest.filter (fun e => e.value.id ≠ new.value.id) = rest := by
          apply filter_eq_self.2
          intro other hoth
          have hne : other.value.id ≠ e.value.id := fun hid =>
            hfst (mem_map.2 ⟨other, hoth, hid⟩)
          simpa [← heq] using hne
        simpa [heq] using hoths.symm
      · simp [heq, ih hrest]
  rw [hersd, map_append]
  constructor
  · rw [map_append, nodup_append]
    refine ⟨?_, by simp, ?_⟩
    · exact hnd.sublist ((filter_sublist.map _).map _)
    intro id hid other hoth heq
    obtain ⟨tag, htag, rfl⟩ := mem_map.1 hid
    obtain ⟨e, he, rfl⟩ := mem_map.1 htag
    have hne := (mem_filter.1 he).2
    obtain rfl : other = new.value.id := by simpa using hoth
    simp [heq] at hne
  intro tag
  rw [lastValue_append, mem_append]
  by_cases heq : new.value.id = tag.id
  · rw [if_pos heq]
    constructor
    · rintro (hold | hnew)
      · obtain ⟨e, he, rfl⟩ := mem_map.1 hold
        have hne := (mem_filter.1 he).2
        simp [heq] at hne
      · rw [mem_singleton.1 hnew]
    · intro htag
      cases htag
      exact .inr (by simp)
  · rw [if_neg heq, ← hmem tag]
    constructor
    · rintro (hold | hnew)
      · obtain ⟨e, he, rfl⟩ := mem_map.1 hold
        exact mem_map.2 ⟨e, (mem_filter.1 he).1, rfl⟩
      · exact absurd (congrArg Tag.id (mem_singleton.1 hnew)).symm heq
    · intro hold
      obtain ⟨e, he, rfl⟩ := mem_map.1 hold
      exact .inl (mem_map.2 ⟨e, mem_filter.2 ⟨he, by simpa using Ne.symm heq⟩, rfl⟩)

structure KeepsNew (s t : State) : Prop where
  new : ∀ ref o k, t.keys.lookup ref = some ⟨o, .newCreated k⟩ →
    s.keys.lookup ref = some ⟨o, .newCreated k⟩
  next : s.keys.next ≤ t.keys.next

namespace KeepsNew

variable {s t u : State} {c ref r o : Nat} {p : ProKey}

theorem refl (s : State) : KeepsNew s s := ⟨fun _ _ _ h => h, le_refl _⟩

theorem of_keys (h : t.keys = s.keys) : KeepsNew s t := by
  constructor
  · intro ref o k hk
    rw [← h]
    exact hk
  · exact le_of_eq (by rw [h])

theorem trans (h : KeepsNew s t) (h' : KeepsNew t u) : KeepsNew s u :=
  ⟨fun ref o k hk => h.new ref o k (h'.new ref o k hk), le_trans h.next h'.next⟩

theorem congr (h : KeepsNew s t) (hkeys : s.keys = u.keys) : KeepsNew u t := (of_keys hkeys).trans h

theorem setKeyType (s : State) (ref : Nat) (p : ProKey) :
    KeepsNew s (s.setKeyType ref (.provisioned p)) := by
  constructor
  · intro other o k hk
    rw [lookup_setKeyType] at hk
    split at hk
    · obtain ⟨old, -, hold⟩ := Option.map_eq_some_iff.1 hk
      cases hold
    · exact hk
  · exact le_refl _

theorem createKeyObject (s : State) (p : ProKey) :
    KeepsNew s (s.createKeyObject (.provisioned p)) := by
  constructor
  · intro other o k hk
    rw [lookup_createKeyObject] at hk
    split at hk
    · cases hk
    · exact hk
  · exact le_succ _

theorem releaseKey (s : State) (ref : Nat) (k : Key) : KeepsNew s (s.releaseKey ref k) :=
  ⟨fun _ _ _ hk => (RefMap.lookup_of_erase hk).2, le_refl _⟩

theorem removeCryptoSession (h : s.removeCryptoSession c r = some t) : KeepsNew s t := by
  obtain ⟨x, -, rfl⟩ := Option.map_eq_some_iff.1 h
  apply of_keys
  by_cases hstrt : x.started = true
  all_goals simp [hstrt]

theorem dropSession (h : s.dropSession c ref r = some t) : KeepsNew s t := by
  unfold State.dropSession at h
  split at h
  · exact (setKeyType s ref _).trans (removeCryptoSession h)
  · cases h

theorem deleteProvisionedKey (h : s.deleteProvisionedKey c ref p = some t) : KeepsNew s t := by
  obtain ⟨u, hu, rfl⟩ := Option.map_eq_some_iff.1 h
  have hclrd : KeepsNew s u :=
    exec_invariant_of_step (fun _ _ _ hs hstep => hs.trans (dropSession hstep)) (refl s) hu
  cases hk : u.keys.lookup ref with
  | none => exact hclrd
  | some k => exact hclrd.trans (releaseKey u ref k)

theorem deleteObsoleteKey {file : Option Nat} (h : s.deleteObsoleteKey c file = some t) :
    KeepsNew s t := by
  unfold State.deleteObsoleteKey at h
  split at h
  · cases h
    exact refl s
  split at h
  · cases h
    exact refl s
  split at h
  · exact deleteProvisionedKey h
  · cases h
    exact refl s

theorem removeNewKeysForClient (s : State) (c : Nat) : KeepsNew s (s.removeNewKeysForClient c) := by
  constructor
  · intro ref o k hk
    rw [State.removeNewKeysForClient, State.release_keys, RefMap.lookup_filterRefs] at hk
    exact (Option.filter_eq_some_iff.1 hk).1
  · exact le_refl _

theorem removeAppListsForClient (s : State) (c : Nat) :
    KeepsNew s (s.removeAppListsForClient c) := by
  constructor
  · intro ref o k hk
    rw [State.removeAppListsForClient, State.release_keys, RefMap.lookup_mapRefs] at hk
    obtain ⟨⟨object, keyType⟩, hold, heq⟩ := Option.map_eq_some_iff.1 hk
    cases keyType with
    | newCreated k' =>
      cases heq
      exact hold
    | provisioned p => cases heq
  · exact le_refl _

theorem sessionClosed (h : s.sessionClosed c = some t) : KeepsNew s t := by
  obtain ⟨u, hu, rfl⟩ := Option.map_eq_some_iff.1 h
  refine KeepsNew.trans ?_ (removeAppListsForClient u c)
  refine (removeNewKeysForClient s c).trans ?_
  have hstep : ∀ v r w, KeepsNew (s.removeNewKeysForClient c) v →
      v.removeSessionOfClient c r = some w → KeepsNew (s.removeNewKeysForClient c) w := by
    intro v r w hv hw
    obtain ⟨x, -, hdrop⟩ := Option.bind_eq_some_iff.1 hw
    exact hv.trans (dropSession hdrop)
  exact exec_invariant_of_step hstep (refl _) hu

end KeepsNew

def tagSet (s : State) (ref : Nat) : Action → Option Tag
  | .call _ (.setKeyAttribute other tag) =>
    if other = ref ∧ (s.setKeyAttribute other tag).2 = .result .ok then some tag else none
  | _ => none

def settings (L : Limits) (ref : Nat) : State → List Action → List Tag
  | _, [] => []
  | s, a :: rest =>
    (tagSet s ref a).toList ++
      match step L s a with
      | none => []
      | some t => settings L ref t rest

variable {actions : List Action}

theorem settings_append {L : Limits} {ref : Nat} {s t : State}
    (hrun : exec (step L) s actions = some t) (a : Action) :
    settings L ref s (actions ++ [a]) = settings L ref s actions ++ (tagSet t ref a).toList := by
  induction actions generalizing s with
  | nil =>
    cases hrun
    cases hstep : step L t a with
    | none | some u => simp [settings, hstep]
  | cons b rest ih =>
    obtain ⟨u, hu, hrest⟩ := Option.bind_eq_some_iff.1 hrun
    simp only [cons_append, settings, hu]
    rw [ih hrest, append_assoc]

inductive Origin (L : Limits) (s : State) (a : Action) (ref o : Nat) (k : NewKey) : Prop where
  | created (hfr : s.keys.next ≤ ref) (htags : k.tagList = []) (hset : tagSet s ref a = none)
  | kept (hk : s.keys.lookup ref = some ⟨o, .newCreated k⟩) (hset : tagSet s ref a = none)
  | set (old : NewKey) (tag : Tag) (hk : s.keys.lookup ref = some ⟨o, .newCreated old⟩)
      (htags : k.tagList = setEntry Tag.id old.tagList (Entry.alloc s.allocated tag.buffered tag))
      (hset : tagSet s ref a = some tag)

section Origins

variable {L : Limits} {s t : State} {a : Action} {c ref o : Nat} {k : NewKey}

theorem Origin.of_keepsNew (h : KeepsNew s t) (hset : tagSet s ref a = none)
    (hk : t.keys.lookup ref = some ⟨o, .newCreated k⟩) : Origin L s a ref o k :=
  .kept (h.new ref o k hk) hset

theorem State.setKeyAttribute_ok (s : State) (ref : Nat) (tag : Tag) :
    ((s.setKeyAttribute ref tag).2 ≠ .result .ok ∧ (s.setKeyAttribute ref tag).1 = s) ∨
      ((s.setKeyAttribute ref tag).2 = .result .ok ∧
        ∃ o k, s.keys.lookup ref = some ⟨o, .newCreated k⟩ ∧
          (s.setKeyAttribute ref tag).1 = s.withTag ref k tag) := by
  rcases s.setKeyAttribute_cases ref tag with ⟨-, heq⟩ | heq
  · rw [heq]
    unfold setTag
    split
    iterate 2 exact .inl ⟨by simp, rfl⟩
    next o k hk => exact .inr ⟨rfl, o, k, hk, rfl⟩
  · rw [heq]
    exact .inl ⟨by simp, rfl⟩

theorem origin_setKeyAttribute {other : Nat} {tag : Tag}
    (hk : (s.setKeyAttribute other tag).1.keys.lookup ref = some ⟨o, .newCreated k⟩) :
    Origin L s (.call c (.setKeyAttribute other tag)) ref o k := by
  rcases s.setKeyAttribute_ok other tag with ⟨herr, hsame⟩ | ⟨hok, o', old, hold, heq⟩
  · rw [hsame] at hk
    exact .kept hk (if_neg fun h => herr h.2)
  rw [heq, withTag, release_keys] at hk
  rw [lookup_setKeyType] at hk
  by_cases href : ref = other
  · subst href
    rw [if_pos rfl, hold] at hk
    cases hk
    exact .set old tag hold rfl (if_pos ⟨rfl, hok⟩)
  · rw [if_neg href] at hk
    exact .kept hk (if_neg fun h => href h.1.symm)

/-- A call leaves the new keys as they are, or creates one, or sets a tag of one. -/
theorem Effect.newKeys {call : Call} (h : Effect L s c call (some t)) :
    KeepsNew s t ∨
      (∃ u k, KeepsNew s u ∧ k.tagList = [] ∧ t = u.createKeyObject (.newCreated k)) ∨
      ∃ ref k tag, call = .setKeyAttribute ref tag ∧ t = s.withTag ref k tag := by
  generalize hout : some t = out at h
  cases h with
  | same call =>
    cases hout
    exact .inl (.refl s)
  | readUsage hold hcl | generate g hnew hcl | param hx hcl
  | start request hx hcl | use call request hx hcl =>
    cases hout
    exact .inl (.of_keys rfl)
  | create happ hposix hnew =>
    obtain ⟨u, hu, rfl⟩ := Option.map_eq_some_iff.1 hout.symm
    exact .inr (.inl ⟨u, _, .deleteObsoleteKey hu, rfl, rfl⟩)
  | found hnone =>
    cases hout
    exact .inl (.createKeyObject s _)
  | obsolete hparts hposix => exact .inl (.deleteObsoleteKey hout.symm)
  | delete hp hidle => exact .inl (.deleteProvisionedKey hout.symm)
  | deleteNew hnew =>
    cases hout
    exact .inl (.releaseKey s _ _)
  | tag hdata hnew =>
    cases hout
    exact .inr (.inr ⟨_, _, _, rfl, rfl⟩)
  | provision g hnew hcl hkind hallw hgenerated | lastApp hp hl | session hp =>
    cases hout
    exact .inl (.trans (.setKeyType s _ _) (.of_keys rfl))
  | firstApp hp =>
    cases hout
    unfold updateAppListForClient
    dsimp only
    split
    all_goals exact .inl (.trans (.setKeyType s _ _) (.of_keys rfl))
  | nextApp hp =>
    cases hout
    exact .inl (.setKeyType s _ _)
  | remove call request hx hcl hidle | finish call request hx hcl =>
    exact .inl ((KeepsNew.dropSession hout.symm).congr rfl)

theorem origin_call {call : Call} (hset : tagSet s ref (.call c call) = none)
    (hcall : ∀ other tag, call ≠ .setKeyAttribute other tag)
    (hstep : (perform L s c call).map Prod.fst = some t)
    (hk : t.keys.lookup ref = some ⟨o, .newCreated k⟩) : Origin L s (.call c call) ref o k := by
  have heff := perform_effect L s c call
  rw [hstep] at heff
  rcases heff.newKeys with hkps | ⟨u, k', hkps, htags, rfl⟩ | ⟨other, k', tag, heq, -⟩
  · exact .of_keepsNew hkps hset hk
  · rw [lookup_createKeyObject] at hk
    split at hk
    next href =>
      cases hk
      exact .created (href ▸ hkps.next) htags hset
    exact .of_keepsNew hkps hset hk
  · exact absurd heq (hcall other tag)

theorem origin_step (hstep : step L s a = some t)
    (hk : t.keys.lookup ref = some ⟨o, .newCreated k⟩) : Origin L s a ref o k := by
  cases a with
  | call c call =>
    cases call with
    | setKeyAttribute other tag =>
      cases hstep
      exact origin_setKeyAttribute hk
    | _ => exact origin_call rfl (by simp) hstep hk
  | keyFile file =>
    cases hstep
    unfold keyCreationPAHandler at hk
    split at hk
    · exact .kept hk rfl
    · exact .of_keepsNew (.createKeyObject s _) rfl hk
  | closed c => exact .of_keepsNew (.sessionClosed hstep) rfl hk

theorem tagSet_of_none (h : s.keys.lookup ref = none) : tagSet s ref a = none := by
  cases a with
  | call c call =>
    cases call with
    | setKeyAttribute other tag =>
      apply if_neg
      rintro ⟨rfl, hok⟩
      rcases s.setKeyAttribute_ok other tag with ⟨herr, -⟩ | ⟨-, o, k, hk, -⟩
      · exact herr hok
      · rw [h] at hk
        cases hk
    | _ => rfl
  | keyFile file | closed c => rfl

end Origins

/-- The tag lists of the new keys have the last values of the tags set, and no tag was set for a
key that is still to come. -/
structure Collects (s : State) (set : Nat → List Tag) : Prop where
  holds : ∀ ref o k, s.keys.lookup ref = some ⟨o, .newCreated k⟩ →
    HoldsLast (k.tagList.map Entry.value) (set ref)
  fresh : ∀ ref, s.keys.next ≤ ref → set ref = []

theorem step_next {L : Limits} {s t : State} {a : Action} (hstep : step L s a = some t) :
    s.keys.next ≤ t.keys.next := by
  cases a with
  | call c call =>
    have heff := perform_effect L s c call
    rw [show (perform L s c call).map Prod.fst = some t from hstep] at heff
    rcases heff.newKeys with hkps | ⟨u, k, hkps, -, rfl⟩ | ⟨ref, k, tag, -, rfl⟩
    · exact hkps.next
    · exact le_succ_of_le hkps.next
    · exact le_refl _
  | keyFile file =>
    cases hstep
    unfold keyCreationPAHandler
    split
    · exact le_refl _
    · exact le_succ _
  | closed c => exact (KeepsNew.sessionClosed hstep).next

theorem collects_run {L : Limits} {s : State} (hrun : exec (step L) start actions = some s) :
    Collects s fun ref => settings L ref start actions := by
  induction actions using reverseRecOn generalizing s with
  | nil =>
    cases hrun
    constructor
    · intro ref o k hk
      cases hk
    · intro ref _
      rfl
  | append_singleton actions a ih =>
    rw [exec_append] at hrun
    obtain ⟨t, ht, hlast⟩ := Option.bind_eq_some_iff.1 hrun
    obtain ⟨u, hstep, hu⟩ := Option.bind_eq_some_iff.1 hlast
    cases hu
    obtain ⟨hhld, hfr⟩ := ih ht
    constructor
    · intro ref o k hk
      rw [settings_append ht]
      cases origin_step hstep hk with
      | created hnext htags hset =>
        rw [hset, htags, hfr ref hnext]
        exact .nil
      | kept hold hset =>
        rw [hset]
        simpa using hhld ref o k hold
      | set old tag hold htags hset =>
        rw [hset, htags]
        exact (hhld ref o old hold).setEntry _
    · intro ref hnext
      have hle := step_next hstep
      have hnone : t.keys.lookup ref = none := by
        cases hk : t.keys.lookup ref with
        | none => rfl
        | some k =>
          have hlt := RefMap.lookup_lt hk
          omega
      rw [settings_append ht, hfr ref (by omega), tagSet_of_none hnone]
      rfl

/-- The key is a new key of the client for a value of this kind. -/
def MayProvision (L : Limits) (s : State) (c ref : Nat) (kind : KeyKind) (p : Provisioning) : Prop :=
  kind.allows L p.keySize p.variety = true ∧
    ∃ o k, s.keys.lookup ref = some ⟨o, .newCreated k⟩ ∧ k.clientSessionRef = c ∧
      k.keyUsage.kind = kind

/-- A success means that the platform generated the key with the tags set last; a failure leaves
the key and its tags. -/
structure InForce (s : State) (ref : Nat) (set : List Tag) (out : State × Answer) : Prop where
  generated : out.2 = .result .ok → ∃ u g, out.1.uses = s.uses ++ [u] ∧
    u.request = .generate ref g ∧ HoldsLast g.tags set
  failed : out.2 ≠ .result .ok → out.1.keys.lookup ref = s.keys.lookup ref

section Provision

variable {L : Limits} {s : State} {c ref : Nat} {kind : KeyKind} {p : Provisioning}

theorem provision_of_not (h : ¬ MayProvision L s c ref kind p) :
    (s.provision L c ref kind p).2 ≠ .result .ok ∧ (s.provision L c ref kind p).1 = s := by
  unfold provision
  split
  · exact ⟨by simp, rfl⟩
  next hallw =>
    split
    iterate 2 exact ⟨by simp, rfl⟩
    next o k hk =>
      split
      · exact ⟨by simp, rfl⟩
      next hmay =>
        obtain ⟨hcl, hkind⟩ := not_or.1 hmay
        exact absurd ⟨not_not.1 hallw, o, k, hk, not_not.1 hcl, not_not.1 hkind⟩ h

theorem provision_of_may (h : MayProvision L s c ref kind p) :
    (s.provision L c ref kind p).2 = .result p.generated ∧
      ∃ u g, (s.provision L c ref kind p).1.uses = s.uses ++ [u] ∧
        u.request = .generate ref g ∧ g.tags = [] ∧
        (p.generated ≠ .ok → (s.provision L c ref kind p).1.keys = s.keys) := by
  obtain ⟨hallw, o, k, hk, hcl, hkind⟩ := h
  unfold provision
  rw [if_neg (not_not.2 hallw), hk]
  dsimp only
  rw [if_neg (not_or.2 ⟨not_not.2 hcl, not_not.2 hkind⟩)]
  split
  next hok => exact ⟨by rw [hok], _, _, rfl, rfl, rfl, fun hne => absurd hok hne⟩
  exact ⟨rfl, _, _, rfl, rfl, rfl, fun _ => rfl⟩

theorem inForce_provision_iff (set : List Tag) :
    InForce s ref set (s.provision L c ref kind p) ↔
      (MayProvision L s c ref kind p → p.generated = .ok → set = []) := by
  by_cases hmay : MayProvision L s c ref kind p
  · obtain ⟨hansw, u, g, huses, hreq, htags, hkeys⟩ := provision_of_may hmay
    constructor
    · intro hforc _ hok
      obtain ⟨u', g', huses', hreq', hhld⟩ := hforc.generated (by rw [hansw, hok])
      rw [huses'] at huses
      obtain rfl : u' = u := by simpa using huses
      rw [hreq] at hreq'
      cases hreq'
      rw [htags] at hhld
      exact hhld.eq_nil
    · intro hnone
      constructor
      · intro hok
        rw [hansw] at hok
        rw [hnone hmay (by simpa using hok)]
        exact ⟨u, g, huses, hreq, htags ▸ .nil⟩
      · intro hfail
        rw [hkeys fun hok => hfail (by rw [hansw, hok])]
  · obtain ⟨hansw, hsame⟩ := provision_of_not hmay
    constructor
    · intro _ h
      exact absurd h hmay
    · intro _
      exact ⟨fun hok => absurd hok hansw, fun _ => by rw [hsame]⟩

/-- In every run the tag list of a new key has the last values, but a provisioning of a key is
right about them just if there are none or it fails. -/
theorem attributes_inForce_iff {actions : List Action}
    (hrun : exec (step L) start actions = some s) :
    (∀ o k, s.keys.lookup ref = some ⟨o, .newCreated k⟩ →
      HoldsLast (k.tagList.map Entry.value) (settings L ref start actions)) ∧
    (InForce s ref (settings L ref start actions) (s.provisionKeyValue L c ref p kind) ↔
      (MayProvision L s c ref kind p → p.generated = .ok →
        settings L ref start actions = [])) := by
  rw [State.provisionKeyValue_eq]
  exact ⟨(collects_run hrun).holds ref, inForce_provision_iff _⟩

end Provision

/-- A client creates a key and allows ten uses. -/
def restrictedKey : List Action :=
  [.call 1 (.createKey (some "app".toList) "key".toList (some ⟨.aes, .both⟩) .notFound none),
   .call 1 (.setKeyAttribute 0 (.maxUsesPerBoot 10))]

def aesValue : Provisioning := ⟨0, 1, [], .ok, some 7⟩

theorem attributes_inForce_restrictedKey : ∃ s,
    exec (step exampleLimits) start restrictedKey = some s ∧
    (∀ o k, s.keys.lookup 0 = some ⟨o, .newCreated k⟩ →
      HoldsLast (k.tagList.map Entry.value) (settings exampleLimits 0 start restrictedKey)) ∧
    (InForce s 0 (settings exampleLimits 0 start restrictedKey)
        (s.provisionKeyValue exampleLimits 1 0 aesValue .aes) ↔
      (MayProvision exampleLimits s 1 0 .aes aesValue → aesValue.generated = .ok →
        settings exampleLimits 0 start restrictedKey = [])) :=
  ⟨_, rfl, attributes_inForce_iff rfl⟩

/-- The key is generated for any number of uses. -/
theorem attributes_lost : ∃ s, exec (step exampleLimits) start restrictedKey = some s ∧
    settings exampleLimits 0 start restrictedKey = [.maxUsesPerBoot 10] ∧
    ¬ InForce s 0 (settings exampleLimits 0 start restrictedKey)
      (s.provisionKeyValue exampleLimits 1 0 aesValue .aes) := by
  refine ⟨_, rfl, rfl, ?_⟩
  rw [State.provisionKeyValue_eq, inForce_provision_iff]
  intro hnone
  cases hnone ⟨rfl, _, _, rfl, rfl, rfl⟩ rfl

end TelAF.KeyStore
