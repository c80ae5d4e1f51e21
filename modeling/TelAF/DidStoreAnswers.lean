import TelAF.DidStore
import TelAF.TransitionRuns

/-!
# Answers of the DID store belong to their calls

Nothing but the counter ties an answer to a call, and the counter is looked at only when a
callback starts. What is stored and posted after that reaches whichever call waits then. So a
call gets its own answer if it gives up only when nothing of it is under way any more, and if
one callback at most gets past the lookup for it.
-/

namespace TelAF.DidStore
open TransitionRuns Function List Option

/-- The plugin has confirmed the call, and delivered the record if it is a read. -/
def Confirmed (delivered : List Delivery) (c : Call) (record : List UInt8) : Prop :=
  ∃ d ∈ delivered, d.kind = c.kind ∧ d.call = c.number ∧ d.dataId = c.dataId ∧
    d.result = positiveResponse ∧ (c.kind = .read → d.record = some record)

/-- Successful calls return what the plugin has delivered for them, and each request is passed
on from an object that is in use, for the call that has filled it and still waits. -/
structure Honest (s : Store) : Prop where
  returned : ∀ r ∈ s.returned, ∀ record ∈ r.record, Confirmed s.delivered r.call record
  executed : ∀ e ∈ s.executed, e.live = true ∧ e.late = false ∧ e.request.call = e.call

def Service.call? : Service → Option Call
  | .idle => none
  | .waiting c | .woken c _ | .cleaned c => some c

def Service.waiting? : Service → Option Call
  | .waiting c => some c
  | _ => none

/-- A call times out while nothing of it is queued or about to be posted, and a callback that
finds its counter is the first answer to the call that waits, and for that call. -/
def InTime (s : Store) : Action → Prop
  | .timeout => ∀ c ∈ s.service.waiting?, (s.sides c.kind).queue = [] ∧
      (s.sides c.kind).found = [] ∧ (s.sides c.kind).stored = []
  | .callback kind i _ _ => ∀ r ∈ (s.sides kind).taken[i]?,
      r.cnt ≠ 0 → ((s.sides kind).reqCntRef.lookup r.cnt).isSome = true →
      (s.sides kind).found = [] ∧ (s.sides kind).stored = [] ∧
        (s.sides kind).semaphore = some 0 ∧
        ∃ c ∈ s.service.waiting?, c.kind = kind ∧ c.number = r.call
  | _ => True

instance : DecidableRel InTime := fun _ a => by cases a <;> unfold InTime <;> infer_instance

structure Drained (side : Side) : Prop where
  queue : side.queue = []
  found : side.found = []
  stored : side.stored = []

structure Quiet (side : Side) : Prop extends Drained side where
  semaphore : side.semaphore = none ∨ side.semaphore = some 0
  reqCntRef : side.reqCntRef = []
  live : side.live = []
  lock : side.lock = false

structure Attached (side : Side) (c : Call) : Prop where
  reqCntRef : side.reqCntRef = [(side.callPluginCnt, c.ptr)]
  live : side.live = [c.ptr]
  request : (side.objects c.ptr).call = c.number ∧ (side.objects c.ptr).dataId = c.dataId
  taken : ∀ r ∈ side.taken, r.call = c.number → r.dataId = c.dataId

/-- The stored result is the one of the call. -/
def Answered (delivered : List Delivery) (c : Call) (side : Side) : Prop :=
  side.result = positiveResponse → Confirmed delivered c side.didData

/-- How far the answer of a call is: its request is queued, with the plugin or lost, or its
answer is found, stored or posted. -/
inductive Awaits (delivered : List Delivery) (c : Call) (side : Side) : Prop
  | queued (hque : side.queue = [(c.ptr, c.number)]) (hfnd : side.found = [])
      (hstd : side.stored = []) (hsem : side.semaphore = some 0)
      (hnew : ∀ r ∈ side.taken, r.call ≠ c.number)
  | passed (hdrn : Drained side) (hsem : side.semaphore = some 0)
  | found (a : Answer) (hque : side.queue = []) (hfnd : side.found = [a])
      (hstd : side.stored = []) (hsem : side.semaphore = some 0)
      (ha : a.result = positiveResponse →
        Confirmed delivered c (a.record.getD side.didData))
  | stored (a : Answer) (hque : side.queue = []) (hfnd : side.found = [])
      (hstd : side.stored = [a]) (hsem : side.semaphore = some 0)
      (hansd : Answered delivered c side)
  | posted (hdrn : Drained side) (hsem : side.semaphore = some 1)
      (hansd : Answered delivered c side)

/-- What holds of the direction of a call while it is under way. -/
def Stage (side : Side) (delivered : List Delivery) (timedOut : List Nat) : Service → Prop
  | .idle => True
  | .waiting c => Attached side c ∧ side.lock = false ∧ c.number ∉ timedOut ∧
      Awaits delivered c side
  | .woken c ok => Attached side c ∧ Drained side ∧ side.semaphore = some 0 ∧
      (ok = true → Answered delivered c side)
  | .cleaned c => side.reqCntRef = [] ∧ side.live = [] ∧ Drained side ∧
      side.semaphore = some 0 ∧ Answered delivered c side

structure Inv (s : Store) : Prop where
  quiet : ∀ kind, (∀ c ∈ s.service.call?, c.kind ≠ kind) → Quiet (s.sides kind)
  stage : ∀ c ∈ s.service.call?, Stage (s.sides c.kind) s.delivered s.timedOut s.service
  takenBefore : ∀ kind, ∀ r ∈ (s.sides kind).taken, r.call < s.calls
  timedOutBefore : ∀ n ∈ s.timedOut, n < s.calls
  startedBefore : ∀ c ∈ s.service.call?, c.number < s.calls
  honest : Honest s

section
variable {setup : Setup} {s t : Store} {c : Call} {kind : Kind} {side : Side}

@[simp] theorem setSide_sides_self : (s.setSide kind side).sides kind = side :=
  update_self ..

theorem setSide_sides_of_ne {kind' : Kind} (h : kind' ≠ kind) :
    (s.setSide kind side).sides kind' = s.sides kind' := update_of_ne h ..

variable {delivered more : List Delivery}

theorem Confirmed.mono {record : List UInt8}
    (h : Confirmed delivered c record) : Confirmed (delivered ++ more) c record := by
  obtain ⟨d, hd, hrest⟩ := h
  exact ⟨d, mem_append_left more hd, hrest⟩

theorem Awaits.mono (h : Awaits delivered c side) : Awaits (delivered ++ more) c side := by
  cases h with
  | queued hque hfnd hstd hsem hnew => exact .queued hque hfnd hstd hsem hnew
  | passed hdrn hsem => exact .passed hdrn hsem
  | found a hque hfnd hstd hsem ha =>
    exact .found a hque hfnd hstd hsem fun hres => (ha hres).mono
  | stored a hque hfnd hstd hsem hansd =>
    exact .stored a hque hfnd hstd hsem fun hres => (hansd hres).mono
  | posted hdrn hsem hansd =>
    exact .posted hdrn hsem fun hres => (hansd hres).mono

theorem Stage.mono {timedOut : List Nat} {service : Service}
    (h : Stage side delivered timedOut service) :
    Stage side (delivered ++ more) timedOut service := by
  cases service with
  | idle => trivial
  | waiting c => exact ⟨h.1, h.2.1, h.2.2.1, h.2.2.2.mono⟩
  | woken c ok => exact ⟨h.1, h.2.1, h.2.2.1, fun hok hres => (h.2.2.2 hok hres).mono⟩
  | cleaned c =>
    obtain ⟨hmap, hlive, hdrn, hsem, hansd⟩ := h
    exact ⟨hmap, hlive, hdrn, hsem, fun hres => (hansd hres).mono⟩

theorem Inv.deliver (h : Inv s) (d : Delivery) :
    Inv { s with delivered := s.delivered ++ [d] } := by
  refine { h with stage := ?_, honest := ⟨?_, h.honest.executed⟩ }
  · intro c hc
    exact (h.stage c hc).mono
  · intro r hr record hrec
    exact (h.honest.returned r hr record hrec).mono

theorem nextCnt_of_empty (h : side.reqCntRef = []) : side.nextCnt = side.callPluginCnt := by
  unfold Side.nextCnt
  rw [h]
  rfl

section

variable (h : Inv s)
include h

/-- A direction changes while its call is under way, and the other one has none. -/
theorem Inv.update {service : Service} {calls : Nat} {timedOut : List Nat}
    (hc : service.call? = some c) (hoth : ∀ kind, kind ≠ c.kind → Quiet (s.sides kind))
    (hstg : Stage side s.delivered timedOut service)
    (htkn : ∀ r ∈ side.taken, r.call < calls) (hcal : s.calls ≤ calls)
    (htime : ∀ n ∈ timedOut, n < calls) (hnum : c.number < calls) :
    Inv { s.setSide c.kind side with
      service := service
      calls := calls
      timedOut := timedOut } := by
  have hself : ((s.setSide c.kind side).sides c.kind) = side := setSide_sides_self
  constructor
  · intro kind hkind
    have hne : kind ≠ c.kind := fun heq => hkind c hc heq.symm
    rw [setSide_sides_of_ne hne]
    exact hoth kind hne
  · intro c' hc'
    have heq : c = c' := some.inj (hc.symm.trans hc')
    subst heq
    rw [hself]
    exact hstg
  · intro kind r hr
    by_cases hkind : kind = c.kind
    · subst hkind
      rw [hself] at hr
      exact htkn r hr
    · rw [setSide_sides_of_ne hkind] at hr
      exact Nat.lt_of_lt_of_le (h.takenBefore kind r hr) hcal
  · exact htime
  · intro c' hc'
    have heq : c = c' := some.inj (hc.symm.trans hc')
    subst heq
    exact hnum
  · exact ⟨h.honest.returned, h.honest.executed⟩

theorem Inv.others (hc : s.service.call? = some c) :
    ∀ kind, kind ≠ c.kind → Quiet (s.sides kind) := by
  intro kind hkind
  apply h.quiet
  intro c' hc'
  have heq : c = c' := some.inj (hc.symm.trans hc')
  subst heq
  exact hkind.symm

theorem inv_call {dataId : UInt16} {data : List UInt8} {ptr : Ptr}
    (hidle : s.service = .idle) : Inv { s.setSide kind
        ((s.sides kind).prepare s.calls dataId data ptr) with
      service := .waiting ⟨kind, s.calls, dataId, ptr⟩
      calls := s.calls + 1 } := by
  have hqui : ∀ kind, Quiet (s.sides kind) := by
    intro kind
    apply h.quiet
    intro c hc
    rw [hidle] at hc
    cases hc
  have hcnt := nextCnt_of_empty (hqui kind).reqCntRef
  have hfr : s.calls ∉ s.timedOut := fun hmem => Nat.lt_irrefl _ (h.timedOutBefore _ hmem)
  apply h.update (c := ⟨kind, s.calls, dataId, ptr⟩) rfl
  · exact fun kind _ => hqui kind
  · refine ⟨?_, (hqui kind).lock, hfr, ?_⟩
    · constructor
      · unfold Side.prepare
        rw [(hqui kind).reqCntRef]
        rfl
      · unfold Side.prepare
        rw [(hqui kind).live]
        rfl
      · unfold Side.prepare
        dsimp only
        rw [update_self]
        exact ⟨rfl, rfl⟩
      · intro r hr hcall
        exact absurd hcall (Nat.ne_of_lt (h.takenBefore kind r hr))
    · apply Awaits.queued
      · unfold Side.prepare
        rw [(hqui kind).queue]
        rfl
      · exact (hqui kind).found
      · exact (hqui kind).stored
      · unfold Side.prepare
        rcases (hqui kind).semaphore with hnone | hzero
        · rw [hnone]
          rfl
        · rw [hzero]
          rfl
      · exact fun r hr => Nat.ne_of_lt (h.takenBefore kind r hr)
  · exact fun r hr => Nat.lt_succ_of_lt (h.takenBefore kind r hr)
  · exact Nat.le_succ _
  · exact fun n hn => Nat.lt_succ_of_lt (h.timedOutBefore n hn)
  · exact Nat.lt_succ_self _

theorem inv_wake {n : Nat} (hwait : s.service = .waiting c)
    (hsem : (s.sides c.kind).semaphore = some (n + 1)) : Inv { s.setSide c.kind
        { s.sides c.kind with semaphore := some n, lock := true } with
      service := .woken c true } := by
  have hcall : s.service.call? = some c := by rw [hwait]; rfl
  have hstg := h.stage c hcall
  rw [hwait] at hstg
  obtain ⟨hatt, _, _, hawts⟩ := hstg
  have hpstd : Drained (s.sides c.kind) ∧ n = 0 ∧ Answered s.delivered c (s.sides c.kind) := by
    cases hawts with
    | posted hdrn hone hansd =>
      rw [hone] at hsem
      cases hsem
      exact ⟨hdrn, rfl, hansd⟩
    | queued _ _ _ hzero | passed _ hzero | found _ _ _ _ hzero | stored _ _ _ _ hzero =>
      rw [hzero] at hsem
      cases hsem
  obtain ⟨hdrn, rfl, hansd⟩ := hpstd
  apply @Inv.update s c _ h _ s.calls s.timedOut rfl (h.others hcall)
  · exact ⟨⟨hatt.reqCntRef, hatt.live, hatt.request, hatt.taken⟩,
      ⟨hdrn.queue, hdrn.found, hdrn.stored⟩, rfl, fun _ => hansd⟩
  · exact h.takenBefore c.kind
  · exact Nat.le_refl _
  · exact h.timedOutBefore
  · exact h.startedBefore c hcall

theorem inv_timeout (hwait : s.service = .waiting c)
    (hsem : (s.sides c.kind).semaphore = some 0) (hdrn : Drained (s.sides c.kind)) :
    Inv { s.setSide c.kind { s.sides c.kind with lock := true } with
      service := .woken c false
      timedOut := s.timedOut ++ [c.number] } := by
  have hcall : s.service.call? = some c := by rw [hwait]; rfl
  have hstg := h.stage c hcall
  rw [hwait] at hstg
  obtain ⟨hatt, _⟩ := hstg
  apply @Inv.update s c _ h _ s.calls _ rfl (h.others hcall)
  · exact ⟨⟨hatt.reqCntRef, hatt.live, hatt.request, hatt.taken⟩,
      ⟨hdrn.queue, hdrn.found, hdrn.stored⟩, hsem, nofun⟩
  · exact h.takenBefore c.kind
  · exact Nat.le_refl _
  · intro n hn
    rcases mem_append.1 hn with hold | hnew
    · exact h.timedOutBefore n hold
    · rw [mem_singleton.1 hnew]
      exact h.startedBefore c hcall
  · exact h.startedBefore c hcall

end

/-- The request leaves the map and the pool has its object back. -/
theorem release_attached (h : Attached side c) :
    (side.release c.ptr).reqCntRef = [] ∧ (side.release c.ptr).live = [] := by
  unfold Side.release
  rw [h.reqCntRef, h.live]
  simp

theorem inv_cleanup (h : Inv s) (hwoke : s.service = .woken c true) :
    Inv { s.setSide c.kind ((s.sides c.kind).release c.ptr) with service := .cleaned c } := by
  have hcall : s.service.call? = some c := by rw [hwoke]; rfl
  have hstg := h.stage c hcall
  rw [hwoke] at hstg
  obtain ⟨hatt, hdrn, hsem, hansd⟩ := hstg
  obtain ⟨hmap, hlive⟩ := release_attached hatt
  apply @Inv.update s c _ h _ s.calls s.timedOut rfl (h.others hcall)
  · exact ⟨hmap, hlive, ⟨hdrn.queue, hdrn.found, hdrn.stored⟩, hsem, hansd rfl⟩
  · exact h.takenBefore c.kind
  · exact Nat.le_refl _
  · exact h.timedOutBefore
  · exact h.startedBefore c hcall

theorem inv_return (h : Inv s) (hcall : s.service.call? = some c) (hqui : Quiet side)
    (htkn : side.taken = (s.sides c.kind).taken) {record : Option (List UInt8)}
    (hrec : ∀ r ∈ record, Confirmed s.delivered c r) : Inv { s.setSide c.kind side with
      service := .idle
      returned := s.returned ++ [⟨c, record⟩] } := by
  constructor
  · intro kind _
    by_cases hkind : kind = c.kind
    · subst hkind
      rw [setSide_sides_self]
      exact hqui
    · rw [setSide_sides_of_ne hkind]
      exact h.others hcall kind hkind
  · nofun
  · intro kind r hr
    by_cases hkind : kind = c.kind
    · subst hkind
      rw [setSide_sides_self, htkn] at hr
      exact h.takenBefore _ r hr
    · rw [setSide_sides_of_ne hkind] at hr
      exact h.takenBefore kind r hr
  · exact h.timedOutBefore
  · nofun
  · refine ⟨?_, h.honest.executed⟩
    intro r hr found hfnd
    rcases mem_append.1 hr with hold | hnew
    · exact h.honest.returned r hold found hfnd
    · rw [mem_singleton.1 hnew] at hfnd ⊢
      exact hrec found hfnd

/-- Only the direction of a call that waits has anything under way. -/
theorem Inv.busy (h : Inv s) (hbusy : ¬ Drained (s.sides kind)) :
    ∃ c, s.service = .waiting c ∧ c.kind = kind ∧ Attached (s.sides kind) c ∧
      (s.sides kind).lock = false ∧ c.number ∉ s.timedOut ∧
      Awaits s.delivered c (s.sides kind) := by
  have hcur : ∃ c ∈ s.service.call?, c.kind = kind := by
    by_contra hnone
    apply hbusy
    apply Quiet.toDrained
    apply h.quiet
    exact fun c hc hkind => hnone ⟨c, hc, hkind⟩
  obtain ⟨c, hc, rfl⟩ := hcur
  have hstg := h.stage c hc
  cases hsvc : s.service with
  | idle =>
    rw [hsvc] at hc
    cases hc
  | waiting c' =>
    rw [hsvc] at hc hstg
    cases hc
    exact ⟨c, rfl, rfl, hstg⟩
  | woken c' ok =>
    rw [hsvc] at hc hstg
    cases hc
    exact absurd hstg.2.1 hbusy
  | cleaned c' =>
    rw [hsvc] at hc hstg
    cases hc
    exact absurd hstg.2.2.1 hbusy

theorem Inv.await (h : Inv s) (hwait : s.service = .waiting c) (hatt : Attached side c)
    (hlock : side.lock = false) (hawts : Awaits s.delivered c side)
    (htkn : ∀ r ∈ side.taken, r.call < s.calls) : Inv (s.setSide c.kind side) := by
  have hcall : s.service.call? = some c := by rw [hwait]; rfl
  have hstg := h.stage c hcall
  rw [hwait] at hstg
  have hupda := @Inv.update s c side h (.waiting c) s.calls s.timedOut rfl (h.others hcall)
      ⟨hatt, hlock, hstg.2.2.1, hawts⟩ htkn
    (Nat.le_refl _) h.timedOutBefore (h.startedBefore c hcall)
  rw [← hwait] at hupda
  exact hupda

theorem conditionNotCorrect_ne : conditionNotCorrect ≠ positiveResponse := by decide

theorem Inv.execute (h : Inv s) {e : Execution}
    (he : e.live = true ∧ e.late = false ∧ e.request.call = e.call) :
    Inv { s with executed := s.executed ++ [e] } := by
  refine { h with honest := ⟨h.honest.returned, ?_⟩ }
  intro e' he'
  rcases mem_append.1 he' with hold | hnew
  · exact h.honest.executed e' hold
  · rw [mem_singleton.1 hnew]
    exact he

theorem inv_handleReadWriteReq {ptr : Ptr} {call : Nat} {rest : List (Ptr × Nat)} (h : Inv s)
    (hque : (s.sides kind).queue = (ptr, call) :: rest) (accepts : Bool) :
    Inv (handleReadWriteReq setup s kind accepts ptr call
      { s.sides kind with queue := rest }) := by
  have hbusy : ¬ Drained (s.sides kind) := by
    intro hdrn
    rw [hdrn.queue] at hque
    cases hque
  obtain ⟨c, hwait, rfl, hatt, hlock, hfr, hawts⟩ := h.busy hbusy
  cases hawts with
  | passed hdrn | posted hdrn => exact absurd hdrn hbusy
  | found _ hempty | stored _ hempty =>
    rw [hempty] at hque
    cases hque
  | queued hown hfnd hstd hsem hnew =>
    rw [hown] at hque
    cases hque
    have hlive : c.ptr ∈ (s.sides c.kind).live := by
      rw [hatt.live]
      exact mem_singleton_self _
    have hlost : ∀ result : UInt8, Inv (s.setSide c.kind
        { s.sides c.kind with queue := [], result := result }) := by
      intro result
      apply h.await hwait
      · exact { hatt with }
      · exact hlock
      · exact .passed ⟨rfl, hfnd, hstd⟩ hsem
      · exact h.takenBefore c.kind
    have htak : ∀ r ∈ (s.sides c.kind).taken ++ [(s.sides c.kind).objects c.ptr],
        r.call < s.calls := by
      intro r hr
      rcases mem_append.1 hr with hold | hnewe
      · exact h.takenBefore c.kind r hold
      · rw [mem_singleton.1 hnewe, hatt.request.1]
        exact h.startedBefore c (by rw [hwait]; rfl)
    have htake : ∀ r ∈ (s.sides c.kind).taken ++ [(s.sides c.kind).objects c.ptr],
        r.call = c.number → r.dataId = c.dataId := by
      intro r hr hcall
      rcases mem_append.1 hr with hold | hnewe
      · exact absurd hcall (hnew r hold)
      · rw [mem_singleton.1 hnewe]
        exact hatt.request.2
    have hexec := h.execute (e := ⟨c.kind, c.number, (s.sides c.kind).objects c.ptr,
      decide (c.ptr ∈ (s.sides c.kind).live), decide (c.number ∈ s.timedOut)⟩)
      ⟨decide_eq_true hlive, decide_eq_false hfr, hatt.request.1⟩
    unfold handleReadWriteReq
    by_cases hplug : setup.didStorInf = true
    swap
    · rw [if_pos (by simp [hplug])]
      exact hlost _
    rw [if_neg (by simp [hplug]), if_neg (by simp [hlock])]
    cases accepts with
    | true =>
      refine hexec.await (c := c) hwait ?_ hlock ?_ htak
      · exact { hatt with taken := htake }
      · exact .passed ⟨rfl, hfnd, hstd⟩ hsem
    | false =>
      refine hexec.await (c := c) hwait ?_ hlock ?_ (h.takenBefore c.kind)
      · exact { hatt with }
      apply Awaits.found ⟨((s.sides c.kind).objects c.ptr).call, conditionNotCorrect, none⟩ rfl
      · change (s.sides c.kind).found ++ _ = _
        rw [hfnd]
        rfl
      · exact hstd
      · exact hsem
      · intro hres
        exact absurd hres conditionNotCorrect_ne

variable {dataRec : Option (List UInt8)}

/-- A positive result is stored only with the record that came with it. -/
theorem outcome_positive {result : UInt8}
    (h : (outcome setup kind dataRec result).1 = positiveResponse) :
    result = positiveResponse ∧
      (kind = .read → dataRec.isSome = true ∧ (outcome setup kind dataRec result).2 = dataRec) := by
  cases kind with
  | read =>
    unfold outcome didReadCb at h ⊢
    dsimp only at h ⊢
    rcases dataRec with _ | bytes
    · exact absurd h conditionNotCorrect_ne
    dsimp only at h ⊢
    split_ifs at h ⊢ with hlength hoth hposi
    iterate 2 exact absurd h conditionNotCorrect_ne
    · exact ⟨h, fun _ => ⟨rfl, rfl⟩⟩
    · exact absurd h hposi
  | write =>
    unfold outcome didWriteCb at h
    dsimp only at h
    split_ifs at h
    · exact absurd h conditionNotCorrect_ne
    · exact ⟨h, nofun⟩

theorem inv_callback {i : Nat} {request : Request} {result : UInt8}
    (h : Inv s) (hreq : (s.sides kind).taken[i]? = some request)
    (hinti : InTime s (.callback kind i dataRec result)) :
    Inv (callback setup s kind request dataRec result) := by
  have hdlv := h.deliver ⟨kind, request.call, request.dataId, dataRec, result⟩
  unfold callback
  dsimp only
  by_cases hlost : request.cnt = 0 ∨ ((s.sides kind).reqCntRef.lookup request.cnt).isNone = true
  · rw [if_pos hlost]
    exact hdlv
  rw [if_neg hlost]
  push Not at hlost
  have hsome : ((s.sides kind).reqCntRef.lookup request.cnt).isSome = true := by
    rw [← not_isNone, Bool.eq_false_iff.2 hlost.2]
    rfl
  obtain ⟨hfnd, hstd, hsem, c, hc, rfl, hnum⟩ := hinti request hreq hlost.1 hsome
  have hwait : s.service = .waiting c := by
    cases hsvc : s.service <;> rw [hsvc] at hc <;> cases hc
    rfl
  have hmem := mem_of_getElem? hreq
  have hstg := h.stage c (by rw [hwait]; rfl)
  rw [hwait] at hstg
  obtain ⟨hatt, hlock, _, hawts⟩ := hstg
  have hque : (s.sides c.kind).queue = [] := by
    cases hawts with
    | queued _ _ _ _ hnew => exact absurd hnum.symm (hnew request hmem)
    | passed hdrn | posted hdrn => exact hdrn.queue
    | found _ hempty | stored _ hempty => exact hempty
  refine hdlv.await (c := c) hwait ?_ hlock ?_ (h.takenBefore c.kind)
  · exact { hatt with }
  refine .found ⟨request.call, (outcome setup c.kind dataRec result).1,
    (outcome setup c.kind dataRec result).2⟩ hque ?_ hstd hsem ?_
  · change (s.sides c.kind).found ++ _ = _
    rw [hfnd]
    rfl
  intro hposi
  obtain ⟨hres, hread⟩ := outcome_positive hposi
  refine ⟨_, mem_append_right _ (mem_singleton_self _), rfl, hnum.symm,
    hatt.taken request hmem hnum.symm, hres, ?_⟩
  intro hkind
  obtain ⟨hsom, hsame⟩ := hread hkind
  obtain ⟨bytes, rfl⟩ := isSome_iff_exists.1 hsom
  rw [hsame]
  rfl

theorem inv_store {i : Nat} {a : Answer} (h : Inv s) (ha : (s.sides kind).found[i]? = some a) :
    Inv (s.setSide kind { (s.sides kind).store a with
      found := (s.sides kind).found.eraseIdx i
      stored := (s.sides kind).stored ++ [a] }) := by
  have hmem := mem_of_getElem? ha
  have hbusy : ¬ Drained (s.sides kind) := by
    intro hdrn
    rw [hdrn.found] at hmem
    cases hmem
  obtain ⟨c, hwait, rfl, hatt, hlock, _, hawts⟩ := h.busy hbusy
  cases hawts with
  | passed hdrn | posted hdrn => exact absurd hdrn hbusy
  | queued _ hempty | stored _ _ hempty =>
    rw [hempty] at hmem
    cases hmem
  | found own hque hfnd hstd hsem hown =>
    rw [hfnd] at ha
    obtain ⟨rfl, rfl⟩ : i = 0 ∧ own = a := by
      cases i with
      | zero => exact ⟨rfl, some.inj ha⟩
      | succ i => cases ha
    refine h.await hwait ?_ hlock ?_ (h.takenBefore c.kind)
    · exact { hatt with }
    refine .stored own hque ?_ ?_ hsem hown
    · dsimp only
      rw [hfnd]
      rfl
    · dsimp only
      rw [hstd]
      rfl

theorem inv_post {i : Nat} {a : Answer} (h : Inv s) (ha : (s.sides kind).stored[i]? = some a) :
    Inv (s.setSide kind { s.sides kind with
      stored := (s.sides kind).stored.eraseIdx i
      semaphore := (s.sides kind).semaphore.map (· + 1) }) := by
  have hmem := mem_of_getElem? ha
  have hbusy : ¬ Drained (s.sides kind) := by
    intro hdrn
    rw [hdrn.stored] at hmem
    cases hmem
  obtain ⟨c, hwait, rfl, hatt, hlock, _, hawts⟩ := h.busy hbusy
  cases hawts with
  | passed hdrn | posted hdrn => exact absurd hdrn hbusy
  | queued _ _ hempty | found _ _ _ hempty =>
    rw [hempty] at hmem
    cases hmem
  | stored own hque hfnd hstd hsem hansd =>
    rw [hstd] at ha
    have hi : i = 0 := by
      cases i with
      | zero => rfl
      | succ i => cases ha
    subst hi
    refine h.await hwait ?_ hlock ?_ (h.takenBefore c.kind)
    · exact { hatt with }
    refine .posted ⟨hque, hfnd, ?_⟩ ?_ hansd
    · dsimp only
      rw [hstd]
      rfl
    · dsimp only
      rw [hsem]
      rfl

theorem inv_init : Inv init := by
  constructor
  · intro kind _
    exact ⟨⟨rfl, rfl, rfl⟩, Or.inl rfl, rfl, rfl, rfl⟩
  · nofun
  · nofun
  · nofun
  · nofun
  · exact ⟨nofun, nofun⟩

theorem inv_step {a : Action} (h : Inv s) (hinti : InTime s a)
    (hstep : step setup s a = some t) : Inv t := by
  unfold step at hstep
  split at hstep
  case h_1 kind dataId data ptr hidle =>
    dsimp only at hstep
    split_ifs at hstep
    cases hstep
    exact inv_call h hidle
  case h_2 c hwait =>
    dsimp only at hstep
    split at hstep
    · next n hsem =>
      cases hstep
      exact inv_wake h hwait hsem
    · cases hstep
  case h_3 c hwait =>
    dsimp only at hstep
    split_ifs at hstep with hsem
    cases hstep
    obtain ⟨hque, hfnd, hstd⟩ := hinti c (by rw [hwait]; rfl)
    exact inv_timeout h hwait hsem ⟨hque, hfnd, hstd⟩
  case h_4 c hwoke =>
    cases hstep
    exact inv_cleanup h hwoke
  case h_5 c hwoke =>
    cases hstep
    have hcall : s.service.call? = some c := by rw [hwoke]; rfl
    have hstg := h.stage c hcall
    rw [hwoke] at hstg
    obtain ⟨hatt, hdrn, _, _⟩ := hstg
    obtain ⟨hmap, hlive⟩ := release_attached hatt
    apply inv_return h hcall
    · exact ⟨⟨hdrn.queue, hdrn.found, hdrn.stored⟩, Or.inl rfl, hmap, hlive, rfl⟩
    · rfl
    · nofun
  case h_6 c hcleaned =>
    cases hstep
    have hcall : s.service.call? = some c := by rw [hcleaned]; rfl
    have hstg := h.stage c hcall
    rw [hcleaned] at hstg
    obtain ⟨hmap, hlive, hdrn, hsem, hansd⟩ := hstg
    apply inv_return h hcall
    · exact ⟨⟨hdrn.queue, hdrn.found, hdrn.stored⟩, Or.inr hsem, hmap, hlive, rfl⟩
    · rfl
    intro record hrec
    split_ifs at hrec with hres
    · cases hrec
      exact hansd hres
    · cases hrec
  case h_7 kind accepts =>
    dsimp only at hstep
    split at hstep
    · cases hstep
    next ptr call rest hque =>
    cases hstep
    exact inv_handleReadWriteReq h hque accepts
  case h_8 kind i dataRec result =>
    obtain ⟨request, hreq, rfl⟩ := map_eq_some_iff.1 hstep
    exact inv_callback h hreq hinti
  case h_9 kind i =>
    obtain ⟨a, ha, rfl⟩ := map_eq_some_iff.1 hstep
    exact inv_store h ha
  case h_10 kind i =>
    obtain ⟨a, ha, rfl⟩ := map_eq_some_iff.1 hstep
    exact inv_post h ha
  case h_11 => cases hstep

/-- Every successful call has its own answer, and no request is passed on after its call has
given up. -/
theorem honest_run {as : List Action} (hok : Meets (step setup) InTime init as)
    (hrun : exec (step setup) init as = some s) : Honest s := by
  have hinv : Inv s := exec_invariant (fun s a t h hintime hstep => inv_step h hintime hstep)
    inv_init hok hrun
  exact hinv.honest

end

/-- A read that is queued, taken by the plugin and answered. -/
def answeredRead (dataId : UInt16) (record : List UInt8) : List Action :=
  [.call .read dataId [] 0, .handleReadWriteReq .read true, .callback .read 0 (some record) 0,
    .store .read 0, .post .read 0]

theorem honest_run_read : ∃ s, exec (step ⟨true, 256⟩) init
      (answeredRead 0xF190 [1, 2, 3] ++ [.wake, .cleanup, .finish]) = some s ∧ Honest s := by
  obtain ⟨s, hrun⟩ := Option.isSome_iff_exists.1 (show (exec (step ⟨true, 256⟩) init
    (answeredRead 0xF190 [1, 2, 3] ++ [.wake, .cleanup, .finish])).isSome = true by decide +kernel)
  exact ⟨s, hrun, honest_run (by decide +kernel) hrun⟩

/-- The plugin calls back twice; the second answer is that of the next read, whose own request
is still queued. -/
theorem stale_answer_returned : ∃ s, exec (step ⟨true, 256⟩) init
      (answeredRead 0xF190 [1, 2, 3] ++ [.callback .read 0 (some [1, 2, 3]) 0, .store .read 0,
        .post .read 0, .wake, .cleanup, .finish, .call .read 0xF191 [] 0, .wake, .cleanup,
        .finish]) = some s ∧
      s.returned.getLast? = some ⟨⟨.read, 1, 0xF191, 0⟩, some [1, 2, 3]⟩ ∧
      s.delivered.map Delivery.dataId = [0xF190, 0xF190] := by
  obtain ⟨s, hrun, hall⟩ := (Option.any_eq_true _ _).1 (show (exec (step ⟨true, 256⟩) init
      (answeredRead 0xF190 [1, 2, 3] ++ [.callback .read 0 (some [1, 2, 3]) 0, .store .read 0,
        .post .read 0, .wake, .cleanup, .finish, .call .read 0xF191 [] 0, .wake, .cleanup,
        .finish])).any (fun s => decide (s.returned.getLast? = some ⟨⟨.read, 1, 0xF191, 0⟩,
          some [1, 2, 3]⟩ ∧ s.delivered.map Delivery.dataId = [0xF190, 0xF190])) = true by
    decide +kernel)
  exact ⟨s, hrun, of_decide_eq_true hall⟩

end TelAF.DidStore
