import TelAF.ReportRuns
import TelAF.SnapshotTriggers

/-!
# Attribution of snapshots

An entry belongs to the request that was created with it, and the address stands for the
request as long as it is in use. Three paths release the request of a snapshot and leave its
entry behind: a refusal for want of a handler, an answer whose data is refused, and the end
of the service. What is collected next at that address is stored for the DTC of the entry.
-/

namespace TelAF.SnapshotTriggers
open TransitionRuns DemConfiguration DemDatabase List Option Database

/-- Snapshots are stored for the DTC whose trigger has created the request, entries are erased
once, and each entry's request is in use. -/
structure Attributed (s : Svr) : Prop where
  stored : ∀ x ∈ s.stored, ∃ item ∈ s.triggers,
    item.request = x.request ∧ item.dtcCode = x.dtcCode
  once : (s.erased.map SnapshotItem.request).Nodup
  live : ∀ item ∈ s.triggeredList, item.request ∈ s.live.map ReadDIDRxMsg.ref

def SnapshotRequest (s : Svr) (msg : ReadDIDRxMsg) : Prop :=
  msg.ref ∈ s.triggers.map SnapshotItem.request
deriving Decidable

/-- A request for a snapshot finds a handler, its answer has the configured values of DIDs that
were asked for and room for the fault code, and the service does not end before that. -/
def InOrder (c : TriggerConf) (s : Svr) : Action → Prop
  | .rxReadDIDEvent => ∀ msg ∈ s.readDIDEvent.head?, SnapshotRequest s msg → s.hasReadHandler
  | .sendReadDIDResp ref _ data => ∀ msg ∈ s.readDIDMsgList, msg.ref = ref →
      ∀ item ∈ s.triggers, item.request = ref →
        (snapshotDids c msg.readDID item.supplierFaultCode data).isSome
  | .removeSvc => ∀ msg ∈ s.readDIDMsgList, ¬ SnapshotRequest s msg
  | .clientDisconnection sessionRef => s.service.map DataIDSvc.sessionRef = some sessionRef →
      ∀ msg ∈ s.readDIDMsgList, ¬ SnapshotRequest s msg
  | _ => True

instance decidableInOrder (c : TriggerConf) : DecidableRel (InOrder c) := fun _ a => by
  cases a <;> unfold InOrder <;> infer_instance

/-- The entries are those of the snapshot requests in use, at the addresses of these. -/
structure Linked (s : Svr) : Prop where
  ptrs : (s.live.map ReadDIDRxMsg.ptr).Nodup
  refs : (s.live.map ReadDIDRxMsg.ref).Nodup
  liveFresh : ∀ msg ∈ s.live, msg.ref < s.nextRef
  triggersFresh : ∀ item ∈ s.triggers, item.request < s.nextRef
  once : ((s.erased ++ s.triggeredList).map SnapshotItem.request).Nodup
  made : ∀ item ∈ s.erased ++ s.triggeredList, item ∈ s.triggers
  stored : ∀ x ∈ s.stored, ∃ item ∈ s.triggers,
    item.request = x.request ∧ item.dtcCode = x.dtcCode
  entry : ∀ item ∈ s.triggeredList, ∃ msg ∈ s.live,
    msg.ref = item.request ∧ msg.ptr = item.msgPtr
  request : ∀ msg ∈ s.live, ∀ item ∈ s.triggers, item.request = msg.ref →
    msg.sa = 0 ∧ msg.ta = 0 ∧ item ∈ s.triggeredList

theorem linked_newSvr (db : Database) : Linked (newSvr db) := by
  constructor <;> simp [newSvr, Svr.live, Svr.readDIDMsgList]

section
variable {c : TriggerConf} {s t : Svr} {msg msg' : ReadDIDRxMsg} {item : SnapshotItem}

section

variable (h : Linked s)
include h

theorem Linked.attributed : Attributed s := by
  constructor
  · exact h.stored
  · have hall := h.once
    rw [map_append] at hall
    exact hall.of_append_left
  intro item hitem
  obtain ⟨msg, hmsg, href, _⟩ := h.entry item hitem
  rw [← href]
  exact mem_map_of_mem hmsg

theorem Linked.eq_of_ref (hmsg : msg ∈ s.live) (hmsg' : msg' ∈ s.live)
    (heq : msg.ref = msg'.ref) : msg = msg' := inj_on_of_nodup_map h.refs hmsg hmsg' heq

theorem Linked.eq_of_ptr (hmsg : msg ∈ s.live) (hmsg' : msg' ∈ s.live)
    (heq : msg.ptr = msg'.ptr) : msg = msg' := inj_on_of_nodup_map h.ptrs hmsg hmsg' heq

theorem Linked.eq_of_request {item' : SnapshotItem}
    (hitem : item ∈ s.triggeredList) (hitem' : item' ∈ s.triggeredList)
    (heq : item.request = item'.request) : item = item' := by
  have hall := h.once
  rw [map_append] at hall
  exact inj_on_of_nodup_map hall.of_append_right hitem hitem' heq

/-- The address leads from a request in use to the entry made for it. -/
theorem Linked.request_of_ptr (hmsg : msg ∈ s.live)
    (hitem : item ∈ s.triggeredList) (hptr : item.msgPtr = msg.ptr) : item.request = msg.ref := by
  obtain ⟨msg', hmsg', href, hptr'⟩ := h.entry item hitem
  have heq : msg' = msg := h.eq_of_ptr hmsg' hmsg (hptr'.trans hptr)
  rw [← href, heq]

theorem Linked.entry_of_request (hmsg : msg ∈ s.live) (hreq : SnapshotRequest s msg) :
    ∃ item ∈ s.triggeredList, item.request = msg.ref ∧ item.msgPtr = msg.ptr := by
  obtain ⟨item, hitem, href⟩ := mem_map.1 hreq
  have hent := (h.request msg hmsg item hitem href).2.2
  obtain ⟨msg', hmsg', href', hptr⟩ := h.entry item hent
  have heq : msg' = msg := h.eq_of_ref hmsg' hmsg (href'.trans href)
  rw [heq] at hptr
  exact ⟨item, hent, href, hptr.symm⟩

end

structure SameEntries (s t : Svr) : Prop where
  triggeredList : t.triggeredList = s.triggeredList
  triggers : t.triggers = s.triggers
  erased : t.erased = s.erased
  stored : t.stored = s.stored
  nextRef : t.nextRef = s.nextRef

theorem linked_of_sameEntries (h : Linked s) (hsame : SameEntries s t)
    (hsub : t.live.Subperm s.live) (hattr : Attributed t) : Linked t := by
  have hmem : ∀ msg ∈ t.live, msg ∈ s.live := hsub.subset
  constructor
  · obtain ⟨kept, hperm, hkept⟩ := hsub
    exact (hperm.map _).nodup (h.ptrs.sublist (hkept.map _))
  · obtain ⟨kept, hperm, hkept⟩ := hsub
    exact (hperm.map _).nodup (h.refs.sublist (hkept.map _))
  · intro msg hmsg
    rw [hsame.nextRef]
    exact h.liveFresh msg (hmem msg hmsg)
  · rw [hsame.triggers, hsame.nextRef]
    exact h.triggersFresh
  · rw [hsame.erased, hsame.triggeredList]
    exact h.once
  · rw [hsame.erased, hsame.triggeredList, hsame.triggers]
    exact h.made
  · exact hattr.stored
  · intro item hitem
    obtain ⟨msg, hmsg, href⟩ := mem_map.1 (hattr.live item hitem)
    rw [hsame.triggeredList] at hitem
    obtain ⟨msg', hmsg', href', hptr⟩ := h.entry item hitem
    have heq : msg' = msg := h.eq_of_ref hmsg' (hmem msg hmsg) (href'.trans href.symm)
    rw [heq] at hptr
    exact ⟨msg, hmsg, href, hptr⟩
  · intro msg hmsg
    rw [hsame.triggers, hsame.triggeredList]
    exact h.request msg (hmem msg hmsg)

theorem attributed_iff_kept (h : Linked s) (hsame : SameEntries s t)
    (hsub : t.live.Subperm s.live) :
    Attributed t ↔ ∀ msg ∈ s.live, SnapshotRequest s msg → msg ∈ t.live := by
  constructor
  · intro hattr msg hmsg hreq
    obtain ⟨item, hitem, href, _⟩ := h.entry_of_request hmsg hreq
    rw [← hsame.triggeredList] at hitem
    obtain ⟨msg', hmsg', href'⟩ := mem_map.1 (hattr.live item hitem)
    have heq : msg' = msg := h.eq_of_ref (hsub.subset hmsg') hmsg (href'.trans href)
    rwa [← heq]
  intro hkept
  constructor
  · rw [hsame.stored, hsame.triggers]
    exact h.stored
  · rw [hsame.erased]
    exact h.attributed.once
  intro item hitem
  rw [hsame.triggeredList] at hitem
  obtain ⟨msg, hmsg, href, _⟩ := h.entry item hitem
  have hmade := h.made item (mem_append_right _ hitem)
  have hreq : SnapshotRequest s msg := by
    unfold SnapshotRequest
    rw [href]
    exact mem_map_of_mem hmade
  rw [← href]
  exact mem_map_of_mem (hkept msg hmsg hreq)

structure StepSpec (s t : Svr) (ok : Prop) : Prop where
  iff : Attributed t ↔ ok
  linked : Attributed t → Linked t

theorem stepSpec_of_linked {ok : Prop} (h : Linked t) (hok : ok) : StepSpec s t ok :=
  ⟨iff_of_true h.attributed hok, fun _ => h⟩

theorem stepSpec_perm {ok : Prop} (h : Linked s) (hsame : SameEntries s t)
    (hperm : t.live.Perm s.live) (hok : ok) : StepSpec s t ok := by
  constructor
  · apply iff_of_true _ hok
    apply (attributed_iff_kept h hsame hperm.subperm).2
    exact fun msg hmsg _ => hperm.mem_iff.2 hmsg
  · exact linked_of_sameEntries h hsame hperm.subperm

theorem stepSpec_released (h : Linked s) (hsame : SameEntries s t)
    (hperm : s.live.Perm (msg :: t.live)) : StepSpec s t (¬ SnapshotRequest s msg) := by
  have hsub : t.live.Subperm s.live := (subperm_cons_self).trans hperm.symm.subperm
  have hmsg : msg ∈ s.live := hperm.mem_iff.2 mem_cons_self
  have hnot : msg ∉ t.live := by
    have hnd := (hperm.map ReadDIDRxMsg.ref).nodup h.refs
    rw [map_cons, nodup_cons] at hnd
    exact fun hin => hnd.1 (mem_map_of_mem hin)
  refine ⟨?_, linked_of_sameEntries h hsame hsub⟩
  rw [attributed_iff_kept h hsame hsub]
  constructor
  · exact fun hkept hreq => hnot (hkept msg hmsg hreq)
  intro hreq msg' hmsg' hreq'
  rcases mem_cons.1 (hperm.mem_iff.1 hmsg') with heq | hin
  · rw [heq] at hreq'
    exact absurd hreq' hreq
  · exact hin

structure Created (s t : Svr) (msg : ReadDIDRxMsg) (entry : Option SnapshotItem) : Prop where
  live : t.live.Perm (msg :: s.live)
  free : s.Free msg.ptr
  ref : msg.ref = s.nextRef
  nextRef : t.nextRef = s.nextRef + 1
  item : ∀ item ∈ entry, item.request = msg.ref ∧ item.msgPtr = msg.ptr ∧
    msg.sa = 0 ∧ msg.ta = 0
  triggeredList : t.triggeredList = s.triggeredList ++ entry.toList
  triggers : t.triggers = s.triggers ++ entry.toList
  erased : t.erased = s.erased
  stored : t.stored = s.stored

theorem linked_of_created {entry : Option SnapshotItem} (h : Linked s)
    (hnew : Created s t msg entry) : Linked t := by
  have hmem : ∀ msg', msg' ∈ t.live ↔ msg' = msg ∨ msg' ∈ s.live := by
    intro msg'
    rw [hnew.live.mem_iff, mem_cons]
  have hfr : ∀ item ∈ s.triggers, item.request ≠ msg.ref := by
    intro item hitem
    have hlt := h.triggersFresh item hitem
    rw [hnew.ref]
    omega
  have hent : ∀ item, item ∈ entry.toList ↔ item ∈ entry := fun _ => mem_toList
  constructor
  · apply (hnew.live.map _).nodup_iff.2
    rw [map_cons, nodup_cons]
    exact ⟨hnew.free.1, h.ptrs⟩
  · apply (hnew.live.map _).nodup_iff.2
    rw [map_cons, nodup_cons]
    refine ⟨?_, h.refs⟩
    intro hin
    obtain ⟨msg', hmsg', href⟩ := mem_map.1 hin
    have hlt := h.liveFresh msg' hmsg'
    rw [href, hnew.ref] at hlt
    omega
  · intro msg' hmsg'
    rw [hnew.nextRef]
    rcases (hmem msg').1 hmsg' with rfl | hold
    · rw [hnew.ref]
      omega
    · have hlt := h.liveFresh msg' hold
      omega
  · intro item hitem
    rw [hnew.nextRef]
    rw [hnew.triggers, mem_append, hent] at hitem
    rcases hitem with hold | hin
    · have hlt := h.triggersFresh item hold
      omega
    · rw [(hnew.item item hin).1, hnew.ref]
      omega
  · rw [hnew.erased, hnew.triggeredList, ← append_assoc, map_append]
    apply List.Nodup.append h.once
    · cases entry with
      | none => exact nodup_nil
      | some item => exact nodup_singleton _
    intro request hold hin
    obtain ⟨item, hitem, rfl⟩ := mem_map.1 hold
    obtain ⟨item', hitem', heq⟩ := mem_map.1 hin
    apply hfr item (h.made item hitem)
    rw [← heq, (hnew.item item' ((hent _).1 hitem')).1]
  · intro item hitem
    rw [hnew.erased, hnew.triggeredList, ← append_assoc, mem_append] at hitem
    rw [hnew.triggers, mem_append]
    exact hitem.imp (h.made item) id
  · intro x hx
    rw [hnew.stored] at hx
    obtain ⟨item, hitem, heq⟩ := h.stored x hx
    rw [hnew.triggers]
    exact ⟨item, mem_append_left _ hitem, heq⟩
  · intro item hitem
    rw [hnew.triggeredList, mem_append, hent] at hitem
    rcases hitem with hold | hin
    · obtain ⟨msg', hmsg', heq⟩ := h.entry item hold
      exact ⟨msg', (hmem msg').2 (Or.inr hmsg'), heq⟩
    · obtain ⟨href, hptr, _⟩ := hnew.item item hin
      exact ⟨msg, (hmem msg).2 (Or.inl rfl), href.symm, hptr.symm⟩
  intro msg' hmsg' item hitem href
  rw [hnew.triggeredList, mem_append, hent]
  rw [hnew.triggers, mem_append, hent] at hitem
  rcases (hmem msg').1 hmsg' with rfl | hold
  · rcases hitem with hitem | hin
    · exact absurd href (hfr item hitem)
    · exact ⟨(hnew.item item hin).2.2.1, (hnew.item item hin).2.2.2, Or.inr hin⟩
  rcases hitem with hitem | hin
  · obtain ⟨hsa, hta, hlstd⟩ := h.request msg' hold item hitem href
    exact ⟨hsa, hta, Or.inl hlstd⟩
  have hlt := h.liveFresh msg' hold
  rw [← href, (hnew.item item hin).1, hnew.ref] at hlt
  omega

/-- A request is released and its entry erased, for the snapshot that answers it. -/
structure Collected (s t : Svr) (msg : ReadDIDRxMsg) (item : SnapshotItem) : Prop where
  live : s.live.Perm (msg :: t.live)
  listed : item ∈ s.triggeredList
  request : item.request = msg.ref
  nextRef : t.nextRef = s.nextRef
  triggeredList : t.triggeredList = s.triggeredList.erase item
  triggers : t.triggers = s.triggers
  erased : t.erased = s.erased ++ [item]
  stored : ∃ dids, t.stored = s.stored ++ [⟨msg.ref, item.dtcCode, dids⟩]

theorem linked_of_collected (h : Linked s) (hend : Collected s t msg item) : Linked t := by
  have hmem : ∀ msg' ∈ t.live, msg' ∈ s.live :=
    fun msg' hmsg' => hend.live.mem_iff.2 (mem_cons_of_mem _ hmsg')
  have hrefs : msg.ref ∉ t.live.map ReadDIDRxMsg.ref := by
    have hnd := (hend.live.map ReadDIDRxMsg.ref).nodup h.refs
    rw [map_cons, nodup_cons] at hnd
    exact hnd.1
  have hperm : (s.erased ++ s.triggeredList).Perm (t.erased ++ t.triggeredList) := by
    rw [hend.erased, hend.triggeredList, append_assoc]
    exact (perm_cons_erase hend.listed).append_left _
  have hoth : ∀ item' ∈ t.triggeredList, item'.request ≠ item.request := by
    have hall := h.once
    rw [map_append] at hall
    have hnd := ((perm_cons_erase hend.listed).map SnapshotItem.request).nodup
      hall.of_append_right
    rw [map_cons, nodup_cons] at hnd
    intro item' hitem' heq
    rw [hend.triggeredList] at hitem'
    apply hnd.1
    rw [← heq]
    exact mem_map_of_mem hitem'
  have hmade := h.made item (mem_append_right _ hend.listed)
  obtain ⟨dids, hstd⟩ := hend.stored
  constructor
  · exact ((hend.live.map _).nodup h.ptrs).of_cons
  · exact ((hend.live.map _).nodup h.refs).of_cons
  · intro msg' hmsg'
    rw [hend.nextRef]
    exact h.liveFresh msg' (hmem msg' hmsg')
  · rw [hend.triggers, hend.nextRef]
    exact h.triggersFresh
  · exact (hperm.map _).nodup h.once
  · intro item' hitem'
    rw [hend.triggers]
    exact h.made item' (hperm.mem_iff.2 hitem')
  · intro x hx
    rw [hstd, mem_append, mem_singleton] at hx
    rw [hend.triggers]
    rcases hx with hold | rfl
    · exact h.stored x hold
    · exact ⟨item, hmade, hend.request, rfl⟩
  · intro item' hitem'
    have hlstd : item' ∈ s.triggeredList := by
      rw [hend.triggeredList] at hitem'
      exact mem_of_mem_erase hitem'
    obtain ⟨msg', hmsg', href, hptr⟩ := h.entry item' hlstd
    refine ⟨msg', ?_, href, hptr⟩
    rcases mem_cons.1 (hend.live.mem_iff.1 hmsg') with rfl | hin
    · exact absurd (href.symm.trans hend.request.symm) (hoth item' hitem')
    · exact hin
  intro msg' hmsg' item' hitem' href
  rw [hend.triggers] at hitem'
  obtain ⟨hsa, hta, hlstd⟩ := h.request msg' (hmem msg' hmsg') item' hitem' href
  refine ⟨hsa, hta, ?_⟩
  have hne : item' ≠ item := by
    rintro rfl
    apply hrefs
    rw [← hend.request, href]
    exact mem_map_of_mem hmsg'
  rw [hend.triggeredList]
  exact (mem_erase_of_ne hne).2 hlstd

theorem StepSpec.congr {ok ok' : Prop} (h : StepSpec s t ok) (hiff : ok ↔ ok') :
    StepSpec s t ok' := ⟨h.iff.trans hiff, h.linked⟩

theorem SameEntries.refl (s : Svr) : SameEntries s s := ⟨rfl, rfl, rfl, rfl, rfl⟩

theorem service_of_delivered (hmsg : msg ∈ s.readDIDMsgList) : s.service ≠ none := by
  intro hnone
  unfold Svr.readDIDMsgList at hmsg
  rw [hnone] at hmsg
  exact not_mem_nil hmsg

theorem service_of_handler (hhdl : s.hasReadHandler) : s.service ≠ none := by
  intro hnone
  unfold Svr.hasReadHandler at hhdl
  rw [hnone] at hhdl
  cases hhdl

theorem live_setReadDIDMsgList (hserv : s.service ≠ none) (msgs : List ReadDIDRxMsg) :
    (s.setReadDIDMsgList msgs).live = s.readDIDEvent ++ msgs := by
  obtain ⟨svc, hsvc⟩ := ne_none_iff_exists'.1 hserv
  simp [Svr.live, Svr.readDIDMsgList, Svr.setReadDIDMsgList, hsvc]

theorem spec_indicateToDataIdSvc (h : Linked s) {ptr : Nat} (hfree : s.Free ptr)
    (dtcCode : DtcCode) (dids : List Nat) (supplierFaultCode : List UInt8) :
    StepSpec s (indicateToDataIdSvc c s dtcCode dids supplierFaultCode ptr) True := by
  unfold indicateToDataIdSvc
  split_ifs
  · exact stepSpec_of_linked h trivial
  · exact stepSpec_perm h ⟨rfl, rfl, rfl, rfl, rfl⟩ (List.Perm.refl _) trivial
  · apply stepSpec_of_linked _ trivial
    apply @linked_of_created s _ ⟨ptr, s.nextRef, 0, 0, dids⟩
      (some ⟨dtcCode, ptr, supplierFaultCode, s.nextRef⟩) h
    constructor
    · exact (perm_append_singleton _ _).append_right _
    · exact hfree
    · rfl
    · rfl
    · intro item hitem
      cases hitem
      exact ⟨rfl, rfl, rfl, rfl⟩
    all_goals rfl
  · exact stepSpec_of_linked h trivial

theorem spec_udsMsgHandler (h : Linked s) {ptr : Nat} (hfree : s.Free ptr) (sa ta : Nat)
    (msg : List UInt8) : StepSpec s (udsMsgHandler s sa ta msg ptr) True := by
  unfold udsMsgHandler
  split_ifs
  · exact stepSpec_perm h ⟨rfl, rfl, rfl, rfl, rfl⟩ (List.Perm.refl _) trivial
  apply stepSpec_of_linked _ trivial
  apply @linked_of_created s _ ⟨ptr, s.nextRef, sa, ta, readDIDs msg⟩ none h
  constructor
  · exact (perm_append_singleton _ _).append_right _
  · exact hfree
  · rfl
  · rfl
  · intro item hitem
    cases hitem
  iterate 2 exact (append_nil _).symm
  · rfl
  · rfl

theorem spec_rxReadDIDEventHandler (h : Linked s) :
    StepSpec s (rxReadDIDEventHandler s) (InOrder c s .rxReadDIDEvent) := by
  unfold rxReadDIDEventHandler InOrder
  rcases hevs : s.readDIDEvent with _ | ⟨msg, rest⟩
  · exact stepSpec_of_linked h fun _ hmsg => nomatch hmsg
  have hlive : s.live = msg :: (rest ++ s.readDIDMsgList) := by
    unfold Svr.live
    rw [hevs]
    rfl
  by_cases hhdl : s.hasReadHandler
  · dsimp only
    rw [if_pos (show Svr.hasReadHandler { s with readDIDEvent := rest } from hhdl)]
    refine stepSpec_perm h ⟨rfl, rfl, rfl, rfl, rfl⟩ ?_ ?_
    · rw [@live_setReadDIDMsgList { s with readDIDEvent := rest }
        (service_of_handler hhdl), hlive]
      rw [← append_assoc]
      exact perm_append_singleton _ _
    · exact fun _ _ _ => hhdl
  · dsimp only
    rw [if_neg (show ¬ Svr.hasReadHandler { s with readDIDEvent := rest } from hhdl)]
    have hreld : s.live.Perm (msg :: (rest ++ s.readDIDMsgList)) := by rw [hlive]
    refine StepSpec.congr (stepSpec_released h ⟨rfl, rfl, rfl, rfl, rfl⟩ hreld) ?_
    simp [hhdl]

/-- The application's answer releases the request that it names. -/
theorem perm_answered (hmsg : msg ∈ s.readDIDMsgList) (hsame : t.readDIDEvent = s.readDIDEvent)
    (hserv : t.service = s.service) :
    s.live.Perm (msg :: (t.setReadDIDMsgList (t.readDIDMsgList.erase msg)).live) := by
  have hlist : t.readDIDMsgList = s.readDIDMsgList := by
    unfold Svr.readDIDMsgList
    rw [hserv]
  have hsome : t.service ≠ none := by
    rw [hserv]
    exact service_of_delivered hmsg
  rw [live_setReadDIDMsgList hsome, hsame, hlist]
  exact ((perm_cons_erase hmsg).append_left _).trans perm_middle

section

variable (h : Linked s)
include h

/-- An answer that stores nothing must not be one to a request for a snapshot. -/
theorem spec_answered (hmsg : msg ∈ s.readDIDMsgList) (hsame : SameEntries s t)
    (hev : t.readDIDEvent = s.readDIDEvent) (hserv : t.service = s.service) :
    StepSpec s (t.setReadDIDMsgList (t.readDIDMsgList.erase msg)) (¬ SnapshotRequest s msg) :=
  stepSpec_released h ⟨hsame.1, hsame.2, hsame.3, hsame.4, hsame.5⟩
    (perm_answered hmsg hev hserv)

theorem spec_internalAnswer (hmsg : msg ∈ s.readDIDMsgList) (data : List UInt8) :
    let t := storeDidsAsSnapshot c s data msg
    StepSpec s (t.setReadDIDMsgList (t.readDIDMsgList.erase msg))
      (∀ item ∈ s.triggers, item.request = msg.ref →
        (snapshotDids c msg.readDID item.supplierFaultCode data).isSome) := by
  have hlive : msg ∈ s.live := mem_append_right _ hmsg
  unfold storeDidsAsSnapshot
  cases hitem : s.triggeredList.find? (·.msgPtr = msg.ptr) with
  | none =>
    have hnot : ¬ SnapshotRequest s msg := by
      intro hreq
      obtain ⟨item, hlstd, _, hptr⟩ := h.entry_of_request hlive hreq
      have hnone := find?_eq_none.1 hitem item hlstd
      simp [hptr] at hnone
    refine (spec_answered h hmsg (SameEntries.refl s) rfl rfl).congr (iff_of_true hnot ?_)
    intro item hmade hreq
    exact absurd (mem_map.2 ⟨item, hmade, hreq⟩) hnot
  | some item =>
    have hlstd : item ∈ s.triggeredList := mem_of_find?_eq_some hitem
    have hptr : item.msgPtr = msg.ptr := by simpa using find?_some hitem
    have hreq : item.request = msg.ref := h.request_of_ptr hlive hlstd hptr
    have hmade : item ∈ s.triggers := h.made item (mem_append_right _ hlstd)
    dsimp only
    cases hdids : snapshotDids c msg.readDID item.supplierFaultCode data with
    | none =>
      refine (spec_answered h hmsg (SameEntries.refl s) rfl rfl).congr (iff_of_false ?_ ?_)
      · exact not_not.2 (mem_map.2 ⟨item, hmade, hreq⟩)
      intro hok
      have hsome := hok item hmade hreq
      rw [hdids] at hsome
      cases hsome
    | some dids =>
      apply stepSpec_of_linked
      · exact linked_of_collected h ⟨perm_answered hmsg rfl rfl, hlstd, hreq, rfl, rfl,
          rfl, rfl, dids, rfl⟩
      intro item' hmade' hreq'
      have hlstd' := (h.request msg hlive item' hmade' hreq').2.2
      have heq : item' = item := h.eq_of_request hlstd' hlstd (hreq'.trans hreq.symm)
      rw [heq, hdids]
      rfl

theorem spec_sendReadDIDResp (ref : Nat) (errCode : UInt8) (data : List UInt8) :
    StepSpec s (sendReadDIDResp c s ref errCode data)
      (InOrder c s (.sendReadDIDResp ref errCode data)) := by
  unfold sendReadDIDResp
  cases hfind : s.readDIDMsgList.find? (·.ref = ref) with
  | none =>
    apply stepSpec_of_linked h
    intro msg hmsg href
    have hnot := find?_eq_none.1 hfind msg hmsg
    simp [href] at hnot
  | some msg =>
    have hmsg : msg ∈ s.readDIDMsgList := mem_of_find?_eq_some hfind
    have href : msg.ref = ref := by simpa using find?_some hfind
    have hlive : msg ∈ s.live := mem_append_right _ hmsg
    -- the reference names one request
    have honly : ∀ P : ReadDIDRxMsg → Prop,
        P msg ↔ ∀ msg' ∈ s.readDIDMsgList, msg'.ref = ref → P msg' := by
      intro P
      constructor
      · intro hP msg' hmsg' href'
        rwa [h.eq_of_ref (mem_append_right _ hmsg') hlive (href'.trans href.symm)]
      · exact fun hall => hall msg hmsg href
    rw [← href] at honly ⊢
    dsimp only
    split_ifs with hinte
    · exact (spec_internalAnswer h hmsg data).congr (honly fun msg' => ∀ item ∈ s.triggers,
        item.request = msg.ref → (snapshotDids c msg'.readDID item.supplierFaultCode data).isSome)
    have hsame : SameEntries s (s.sendResp msg errCode data) := ⟨rfl, rfl, rfl, rfl, rfl⟩
    refine (spec_answered h hmsg hsame rfl rfl).congr (iff_of_true ?_ ?_)
    · intro hreq
      obtain ⟨item, hmade, heq⟩ := mem_map.1 hreq
      obtain ⟨hsa, hta, _⟩ := h.request msg hlive item hmade heq
      exact hinte ⟨hta, hsa⟩
    · intro msg' _ _ item hmade heq
      obtain ⟨hsa, hta, _⟩ := h.request msg hlive item hmade heq
      exact absurd ⟨hta, hsa⟩ hinte

theorem spec_removeSvc :
    StepSpec s (removeSvc s) (∀ msg ∈ s.readDIDMsgList, ¬ SnapshotRequest s msg) := by
  have hsame : SameEntries s (removeSvc s) := ⟨rfl, rfl, rfl, rfl, rfl⟩
  have hlive : (removeSvc s).live = s.readDIDEvent := append_nil _
  have hsub : (removeSvc s).live.Subperm s.live := by
    rw [hlive]
    exact (sublist_append_left _ _).subperm
  refine ⟨?_, linked_of_sameEntries h hsame hsub⟩
  rw [attributed_iff_kept h hsame hsub, hlive]
  have hdisj : ∀ msg ∈ s.readDIDMsgList, msg ∉ s.readDIDEvent := by
    have hnd := h.refs.of_map
    intro msg hmsg hev
    exact (disjoint_of_nodup_append hnd) hev hmsg
  constructor
  · intro hkept msg hmsg hreq
    exact hdisj msg hmsg (hkept msg (mem_append_right _ hmsg) hreq)
  intro hnot msg hmsg hreq
  rcases mem_append.1 hmsg with hev | hdlv
  · exact hev
  · exact absurd hreq (hnot msg hdlv)

theorem spec_onClientDisconnection (sessionRef : Nat) :
    StepSpec s (onClientDisconnection s sessionRef)
      (InOrder c s (.clientDisconnection sessionRef)) := by
  unfold onClientDisconnection InOrder
  split_ifs with hownr
  · exact (spec_removeSvc h).congr (by simp [hownr])
  · exact stepSpec_of_linked h fun h => absurd h hownr

end

theorem live_getService (sessionRef : Nat) : (getService s sessionRef).live = s.live := by
  unfold getService Svr.live Svr.readDIDMsgList
  cases hserv : s.service with
  | none => rfl
  | some svc => simp [hserv]

theorem live_setReadDIDHandler (registered : Bool) :
    (setReadDIDHandler s registered).live = s.live := by
  unfold setReadDIDHandler Svr.live Svr.readDIDMsgList
  cases s.service <;> rfl

theorem sameEntries_getService (sessionRef : Nat) : SameEntries s (getService s sessionRef) := by
  unfold getService
  cases s.service <;> exact ⟨rfl, rfl, rfl, rfl, rfl⟩

/-- After one step the state is attributed if and only if the step was in order. -/
theorem step_spec (h : Linked s) (a : Action) (hstep : step c s a = some t) :
    StepSpec s t (InOrder c s a) := by
  cases a with
  | triggerSnapshot dtcCode dids supplierFaultCode ptr =>
    obtain ⟨hfree, ⟨⟩⟩ := ite_none_right_eq_some.1 hstep
    exact spec_indicateToDataIdSvc h hfree _ _ _
  | readDIDRequest sa ta msg ptr =>
    obtain ⟨hfree, ⟨⟩⟩ := ite_none_right_eq_some.1 hstep
    exact spec_udsMsgHandler h hfree _ _ _
  | rxReadDIDEvent =>
    cases hstep
    exact spec_rxReadDIDEventHandler h
  | sendReadDIDResp ref errCode data =>
    cases hstep
    exact spec_sendReadDIDResp h ref errCode data
  | getService sessionRef =>
    cases hstep
    apply stepSpec_perm h (sameEntries_getService sessionRef) _ trivial
    rw [live_getService]
  | addRxReadDIDMsgHandler | removeRxReadDIDMsgHandler =>
    cases hstep
    refine stepSpec_perm h ⟨rfl, rfl, rfl, rfl, rfl⟩ ?_ trivial
    rw [live_setReadDIDHandler]
  | removeSvc =>
    cases hstep
    exact spec_removeSvc h
  | clientDisconnection sessionRef =>
    cases hstep
    exact spec_onClientDisconnection h sessionRef

end

variable {c : TriggerConf}

theorem inOrder_of_disabled {s : Svr} {a : Action} (hnone : step c s a = none) : InOrder c s a := by
  cases a with
  | triggerSnapshot dtcCode dids supplierFaultCode ptr | readDIDRequest sa ta msg ptr => trivial
  | _ => cases hnone

/-- Every state of a run is attributed if and only if every step of the run is in order. -/
theorem attributed_run_iff (c : TriggerConf) (db : Database) (as : List Action) :
    (∀ bs, bs <+: as → ∀ t, exec (step c) (newSvr db) bs = some t → Attributed t) ↔
      Meets (step c) (InOrder c) (newSvr db) as := by
  have hstart := linked_newSvr db
  rw [← meets_iff_reached hstart.attributed]
  refine meets_congr ?_ ?_ hstart
  · intro s a h
    cases hstep : step c s a with
    | none => exact iff_of_true (fun _ hsome => nomatch hsome) (inOrder_of_disabled hstep)
    | some t =>
      rw [← (step_spec h a hstep).iff]
      simp
  · intro s a t h hattributed hstep
    exact (step_spec h a hstep).linked (hattributed t hstep)

section Rows
open DemSnapshots Store ReportRuns KeyedTable

def rowsOf (d : DtcCode) (db : Database) : List SnapshotEntity :=
  db.snapshots.rows.filter (·.dtc = d)

variable {d d' : DtcCode} {db : Database} (hne : d' ≠ d)
include hne

theorem rowsOf_updateSnapshot {row : SnapshotEntity} (hrow : row.dtc = d')
    (hid : ∀ r ∈ rowsOf d db, r.id ≠ row.id) :
    rowsOf d (updateSnapshot db row).1 = rowsOf d db := by
  unfold updateSnapshot
  rcases write_cases db fun db => { db with snapshots := db.snapshots.update row } with heq | heq
  all_goals rw [heq]
  · rfl
  unfold rowsOf at hid ⊢
  rw [Table.rows_update]
  generalize db.snapshots.rows = rows at hid ⊢
  induction rows with
  | nil => rfl
  | cons r rest ih => grind

theorem rowsOf_setDID (rn : Nat) (s : Database × EntityObject) (info : DIDInfo) :
    rowsOf d (setDID d' rn s info).1.1 = rowsOf d s.1 := by
  unfold setDID
  split
  · unfold addSnapshot
    dsimp only
    split_ifs with hkey
    · rfl
    rcases write_cases s.1 _ with heq | heq
    all_goals rw [heq]
    · rfl
    · unfold rowsOf
      rw [Table.rows_add hkey]
      simp [hne]
  · rename_i r repetitive hcons
    have hr : r ∈ s.1.snapshots.rows ∧ _ := mem_filter.1 (hcons ▸ mem_cons_self ..)
    have hid : ∀ r' ∈ rowsOf d s.1, r'.id ≠ r.id := by
      intro r' hr' hid
      obtain ⟨hmem, hd⟩ := mem_filter.1 hr'
      rw [inj_on_of_nodup_map s.1.snapshots.nodup hmem hr.1 hid, (of_decide_eq_true hr.2).1] at hd
      exact hne (of_decide_eq_true hd)
    apply thenDo_invariant (P := fun t : Database × EntityObject => rowsOf d t.1 = rowsOf d s.1)
    · exact rowsOf_updateSnapshot hne rfl hid
    intro t ht
    refine foldlRecOn (motive := fun db => rowsOf d db = rowsOf d s.1) repetitive _ ht ?_
    intro db hdb _ _
    exact (rowsOf_updateSnapshot hne rfl (hdb ▸ hid)).trans hdb

theorem rowsOf_setSnapshotData (c : SnapshotConf) (dids : List DIDInfo) :
    rowsOf d (setSnapshotData c d' db dids).1 = rowsOf d db := by
  have hrec : ∀ rn db, rowsOf d (setDIDRecord d' rn db dids).1 = rowsOf d db := fun rn db =>
    forEach_invariant (P := fun s : Database × EntityObject => rowsOf d s.1 = rowsOf d db)
      (fun s info _ hs => (rowsOf_setDID hne rn s info).trans hs) rfl
  unfold setSnapshotData
  repeat' split
  any_goals simp only [fst_orFault, hrec]
  apply thenDo_invariant (P := fun t => rowsOf d t = rowsOf d db)
  all_goals simp +contextual only [fst_orFault, hrec, implies_true]

end Rows

/-- What is in storage after the snapshots have been stored one after the other. -/
def storedIn (c : TriggerConf) (db : Database) (stored : List Stored) : Database :=
  stored.foldl (fun db x =>
    (DemSnapshots.Store.setSnapshotData c.toSnapshotConf x.dtcCode db x.dids).1) db

/-- A step stores snapshots for the codes of entries, and entries are made by triggers. -/
structure StoresEntries (c : TriggerConf) (s t : Svr) : Prop where
  triggers : s.triggers ⊆ t.triggers
  made : ∀ item ∈ t.triggeredList, item ∈ s.triggeredList ∨ item ∈ t.triggers
  stored : ∃ new, t.stored = s.stored ++ new ∧ t.db = storedIn c s.db new ∧
    ∀ x ∈ new, ∃ item ∈ s.triggeredList, item.dtcCode = x.dtcCode

theorem storesEntries_of_same (htrg : t.triggers = s.triggers)
    (hents : t.triggeredList = s.triggeredList) (hstd : t.stored = s.stored)
    (hdb : t.db = s.db) : StoresEntries c s t where
  triggers := htrg ▸ Subset.refl _
  made item hitem := .inl (hents ▸ hitem)
  stored := ⟨[], by rw [hstd, append_nil], hdb, by simp⟩

theorem storesEntries_indicateToDataIdSvc (dtcCode : DtcCode) (dids : List Nat)
    (supplierFaultCode : List UInt8) (ptr : Nat) :
    StoresEntries c s (indicateToDataIdSvc c s dtcCode dids supplierFaultCode ptr) := by
  unfold indicateToDataIdSvc
  split_ifs
  any_goals exact storesEntries_of_same rfl rfl rfl rfl
  refine ⟨subset_append_left _ _, fun item hitem => ?_, [], by simp, rfl, by simp⟩
  exact (mem_append.1 hitem).imp id (mem_append_right _)

theorem storesEntries_storeDidsAsSnapshot (data : List UInt8) (msg : ReadDIDRxMsg) :
    StoresEntries c s (storeDidsAsSnapshot c s data msg) := by
  unfold storeDidsAsSnapshot
  cases hfind : s.triggeredList.find? (·.msgPtr = msg.ptr) with
  | none => exact storesEntries_of_same rfl rfl rfl rfl
  | some item =>
    dsimp only
    cases snapshotDids c msg.readDID item.supplierFaultCode data with
    | none => exact storesEntries_of_same rfl rfl rfl rfl
    | some dids =>
      refine ⟨Subset.refl _, fun _ hitem => .inl (mem_of_mem_erase hitem), _, rfl, rfl, ?_⟩
      intro x hx
      exact ⟨item, mem_of_find?_eq_some hfind, by rw [mem_singleton.1 hx]⟩

theorem step_storesEntries {s t : Svr} (a : Action) (hstep : step c s a = some t) :
    StoresEntries c s t := by
  cases a with
  | triggerSnapshot dtcCode dids supplierFaultCode ptr =>
    obtain ⟨_, ⟨⟩⟩ := ite_none_right_eq_some.1 hstep
    exact storesEntries_indicateToDataIdSvc dtcCode dids supplierFaultCode ptr
  | readDIDRequest sa ta msg ptr =>
    obtain ⟨_, ⟨⟩⟩ := ite_none_right_eq_some.1 hstep
    unfold udsMsgHandler
    split_ifs <;> exact storesEntries_of_same rfl rfl rfl rfl
  | rxReadDIDEvent =>
    cases hstep
    unfold rxReadDIDEventHandler
    cases s.readDIDEvent with
    | nil => exact storesEntries_of_same rfl rfl rfl rfl
    | cons msg rest =>
      dsimp only
      split_ifs <;> exact storesEntries_of_same rfl rfl rfl rfl
  | sendReadDIDResp ref errCode data =>
    cases hstep
    unfold sendReadDIDResp
    cases s.readDIDMsgList.find? (·.ref = ref) with
    | none => exact storesEntries_of_same rfl rfl rfl rfl
    | some msg =>
      dsimp only
      split_ifs
      · obtain ⟨htrg, hmade, hstd⟩ := storesEntries_storeDidsAsSnapshot (c := c) data msg
        exact ⟨htrg, hmade, hstd⟩
      · exact storesEntries_of_same rfl rfl rfl rfl
  | getService sessionRef =>
    cases hstep
    unfold getService
    cases s.service <;> exact storesEntries_of_same rfl rfl rfl rfl
  | clientDisconnection sessionRef =>
    cases hstep
    unfold onClientDisconnection
    split_ifs <;> exact storesEntries_of_same rfl rfl rfl rfl
  | _ =>
    cases hstep
    exact storesEntries_of_same rfl rfl rfl rfl

/-- The storage holds what the answers wrote for codes that were triggered, and nothing else. -/
structure Triggered (c : TriggerConf) (db : Database) (s : Svr) : Prop where
  storage : s.db = storedIn c db s.stored
  made : ∀ item ∈ s.triggeredList, item ∈ s.triggers
  stored : ∀ x ∈ s.stored, ∃ item ∈ s.triggers, item.dtcCode = x.dtcCode

theorem triggered_step {db : Database} {s t : Svr} {a : Action} (h : Triggered c db s)
    (hstep : step c s a = some t) : Triggered c db t := by
  obtain ⟨htrg, hmade, new, hnew, hdb, hent⟩ := step_storesEntries a hstep
  constructor
  · have hbef := h.storage
    unfold storedIn at hdb hbef ⊢
    rw [hnew, foldl_append, ← hbef, hdb]
  · exact fun item hitem => (hmade item hitem).elim (fun hold => htrg (h.made item hold)) id
  · rw [hnew]
    intro x hx
    obtain hold | hadd := mem_append.1 hx
    · obtain ⟨item, hitem, hcode⟩ := h.stored x hold
      exact ⟨item, htrg hitem, hcode⟩
    · obtain ⟨item, hitem, hcode⟩ := hent x hadd
      exact ⟨item, htrg (h.made item hitem), hcode⟩

theorem triggered_run {db : Database} {as : List Action} {t : Svr}
    (hrun : exec (step c) (newSvr db) as = some t) : Triggered c db t :=
  exec_invariant_of_step (fun _ _ _ h hstep => triggered_step h hstep)
    ⟨rfl, by simp [newSvr], by simp [newSvr]⟩ hrun

/-- The rows of a DTC that no snapshot was triggered for are as they were. -/
theorem untriggered_run {db : Database} {as : List Action} {t : Svr} {d : DtcCode}
    (hrun : exec (step c) (newSvr db) as = some t)
    (hd : ∀ item ∈ t.triggers, item.dtcCode ≠ d) :
    rowsOf d t.db = rowsOf d db := by
  have htriggered := triggered_run hrun
  rw [htriggered.storage]
  refine foldlRecOn (motive := fun u => rowsOf d u = rowsOf d db) t.stored _ rfl ?_
  intro u hu x hx
  obtain ⟨item, hitem, hcode⟩ := htriggered.stored x hx
  exact (rowsOf_setSnapshotData (hcode ▸ hd item hitem) _ _).trans hu

theorem twoCodes_sorted : List.Pairwise (· < ·) ([0x100, 0x200] : List DtcCode) := by simp

/-- Two DTCs with a record of the first occurrence, and DIDs of one byte. -/
def twoDtcSnapshots : TriggerConf :=
  { noEvents with
    dtcCodes := [0x100, 0x200]
    dtcCodes_sorted := twoCodes_sorted
    one_dtc := by simp [noEvents]
    freezeFrames := fun _ => ["firstOccurrence"]
    recordNumber := fun _ => some 1
    maxReadDidSize := 10
    didValueSize := fun _ => 1 }

def answered : List Action :=
  [.getService 1, .addRxReadDIDMsgHandler, .triggerSnapshot 0x100 [0xF190] [] 7, .rxReadDIDEvent,
    .sendReadDIDResp 0 0 [0xF1, 0x90, 5]]

theorem untriggered_run_answered :
    ∃ t, exec (step twoDtcSnapshots) (newSvr (newDatabase twoDtcSnapshots.toDemConf)) answered = some t ∧
      rowsOf 0x200 t.db = [] ∧ rowsOf 0x100 t.db ≠ [] := by
  have hrun : (exec (step twoDtcSnapshots)
      (newSvr (newDatabase twoDtcSnapshots.toDemConf)) answered).any
      (fun t => (∀ item ∈ t.triggers, item.dtcCode ≠ 0x200) ∧ rowsOf 0x100 t.db ≠ []) = true := by
    decide +kernel
  obtain ⟨t, ht, h⟩ := (Option.any_eq_true _ _).1 hrun
  obtain ⟨hd, hrows⟩ := of_decide_eq_true h
  exact ⟨t, ht, untriggered_run ht hd, hrows⟩

/-- The answer to the request for 0x100 is one byte. The request for 0x200 gets the address of
the first one, and its snapshot is stored for 0x100. -/
def reusedAddress : List Action :=
  [.getService 1, .addRxReadDIDMsgHandler, .triggerSnapshot 0x100 [0xF190] [] 7, .rxReadDIDEvent,
    .sendReadDIDResp 0 0 [0xF1], .triggerSnapshot 0x200 [0xF190] [] 7, .rxReadDIDEvent,
    .sendReadDIDResp 1 0 [0xF1, 0x90, 5]]

theorem attributed_reusedAddress :
    ∃ t, exec (step twoDtcSnapshots)
        (newSvr (Database.newDatabase twoDtcSnapshots.toDemConf)) reusedAddress = some t ∧
      ¬ Attributed t ∧ DemSnapshots.Store.getDIDRecord 0x100 1 t.db = [⟨0xF190, [5]⟩] := by
  have hrun : (exec (step twoDtcSnapshots)
      (newSvr (Database.newDatabase twoDtcSnapshots.toDemConf)) reusedAddress).any
      (fun t => (¬ ∀ x ∈ t.stored, ∃ item ∈ t.triggers,
        item.request = x.request ∧ item.dtcCode = x.dtcCode) ∧
        DemSnapshots.Store.getDIDRecord 0x100 1 t.db = [⟨0xF190, [5]⟩]) = true := by
    decide +kernel
  obtain ⟨t, ht, h⟩ := (Option.any_eq_true _ _).1 hrun
  obtain ⟨hstored, hrecord⟩ := of_decide_eq_true h
  exact ⟨t, ht, fun hattributed => hstored hattributed.stored, hrecord⟩

end TelAF.SnapshotTriggers
