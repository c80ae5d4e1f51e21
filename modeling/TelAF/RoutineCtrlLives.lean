import TelAF.RoutineCtrl

/-!
# The lives of the requests

What the service did with a request is a list of acts. Told apart for each request, the list has one
of a few forms: the request waits, it was refused, it is with the service it was delivered to, or it
was answered or released from there. The owner of a request is not part of its object: it is looked
up again when the request is answered, and where another service is found the forms are left.
-/

namespace TelAF.RoutineCtrl

open TransitionRuns State List Option

def Act.isAbout (msg : Nat) : Act → Bool
  | .delivered m .. => decide (m = msg)
  | .responded m .. => decide (m = msg)
  | .refused m .. => decide (m = some msg)
  | .unlinked m _ => decide (m = msg)
  | .released m _ => decide (m = msg)

def story (acts : List Act) (msg : Nat) : List Act := acts.filter (Act.isAbout msg)

theorem story_append (acts as : List Act) (msg : Nat) :
    story (acts ++ as) msg = story acts msg ++ story as msg := filter_append ..

def AllAbout (msg : Nat) (as : List Act) : Prop :=
  ∀ a ∈ as, ∀ m, a.isAbout m = decide (m = msg)

variable {as : List Act}

theorem AllAbout.story_self {msg : Nat} (h : AllAbout msg as) : story as msg = as :=
  filter_eq_self.2 fun a ha => by simp [h a ha msg]

theorem AllAbout.story_other {msg m : Nat} (h : AllAbout msg as) (hne : m ≠ msg) :
    story as m = [] :=
  filter_eq_nil_iff.2 fun a ha => by simp [h a ha m, hne]

namespace State

variable (s : State)

def box (svc : Nat) : List Nat := ((s.svcRefMap.lookup svc).map Svc.reqMsgList).getD []

def sessionOf (svc : Nat) : Option Nat := (s.svcRefMap.lookup svc).map Svc.sessionRef

end State

inductive Life (s : State) (msg : Nat) : List Act → Prop where
  | waiting (queued : msg ∈ s.rxReqEvent) (present : (s.reqMsgRefMap.lookup msg).isSome) : Life s msg []
  /-- The request is in the list of the service it was delivered to. -/
  | held (svc session : Nat) (type : CtrlType) (owner : s.sessionOf svc = some session)
      (listed : msg ∈ s.box svc) (present : (s.reqMsgRefMap.lookup msg).isSome) :
      Life s msg [.delivered msg svc session type]
  | refused (addr : AddrInfo) (nrc : Nat) (gone : s.reqMsgRefMap.lookup msg = none) :
      Life s msg [.refused (some msg) addr nrc, .released msg none]
  /-- The session released the request, or removed its service, or went. -/
  | dropped (svc session : Nat) (type : CtrlType) (gone : s.reqMsgRefMap.lookup msg = none) :
      Life s msg [.delivered msg svc session type, .unlinked msg svc, .released msg (some session)]
  | answered (svc session : Nat) (type : CtrlType) (addr : AddrInfo) (r : Response)
      (gone : s.reqMsgRefMap.lookup msg = none) :
      Life s msg [.delivered msg svc session type, .responded msg session addr r, .unlinked msg svc,
        .released msg (some session)]

theorem Life.frame {s s' : State} {msg : Nat} (h : Life s msg as)
    (hque : msg ∈ s.rxReqEvent → msg ∈ s'.rxReqEvent)
    (hmsg : s'.reqMsgRefMap.lookup msg = s.reqMsgRefMap.lookup msg)
    (hbox : ∀ svc session, msg ∈ s.box svc → s.sessionOf svc = some session →
      msg ∈ s'.box svc ∧ s'.sessionOf svc = some session) : Life s' msg as := by
  cases h with
  | waiting queued present => exact .waiting (hque queued) (by rw [hmsg]; exact present)
  | held svc session type owner listed present =>
    obtain ⟨hlstd, hownr⟩ := hbox svc session listed owner
    exact .held svc session type hownr hlstd (by rw [hmsg]; exact present)
  | refused addr nrc gone => exact .refused addr nrc (by rw [hmsg]; exact gone)
  | dropped svc session type gone => exact .dropped svc session type (by rw [hmsg]; exact gone)
  | answered svc session type addr r gone =>
    exact .answered svc session type addr r (by rw [hmsg]; exact gone)

/-- Every request has one of the lives, and a service has the requests that were delivered to it. -/
structure Told (s : State) : Prop where
  life : ∀ msg, msg < s.reqMsgRefMap.next → Life s msg (story s.acts msg)
  listed : ∀ svc msg, msg ∈ s.box svc →
    ∃ session type, story s.acts msg = [.delivered msg svc session type]

/-- With what is known of the requests that wait, and of those to come. -/
structure Sound (s : State) : Prop extends Told s where
  queue : s.rxReqEvent.Nodup
  queued : ∀ msg ∈ s.rxReqEvent, msg < s.reqMsgRefMap.next ∧ story s.acts msg = []
  boxes : ∀ svc, (s.box svc).Nodup
  fresh : ∀ msg, s.reqMsgRefMap.next ≤ msg → story s.acts msg = []

variable {rest : List Nat}

namespace Sound

variable {s s' : State} {msg svc : Nat}

theorem frame (h : Sound s) (hacts : s'.acts = s.acts) (hque : s'.rxReqEvent = s.rxReqEvent)
    (hmsgs : s'.reqMsgRefMap = s.reqMsgRefMap) (hbox : ∀ svc, s'.box svc = s.box svc)
    (hsess : ∀ svc session, s.box svc ≠ [] → s.sessionOf svc = some session →
      s'.sessionOf svc = some session) : Sound s' where
  life := by
    intro msg hmsg
    rw [hmsgs] at hmsg
    rw [hacts]
    refine (h.life msg hmsg).frame (by rw [hque]; exact id) (by rw [hmsgs]) ?_
    intro svc session hlstd hownr
    exact ⟨by rw [hbox]; exact hlstd, hsess svc session (ne_nil_of_mem hlstd) hownr⟩
  listed := by
    intro svc msg hlstd
    rw [hbox] at hlstd
    rw [hacts]
    exact h.listed svc msg hlstd
  queue := by
    rw [hque]
    exact h.queue
  queued := by
    rw [hque, hmsgs, hacts]
    exact h.queued
  boxes := by
    intro svc
    rw [hbox]
    exact h.boxes svc
  fresh := by
    rw [hmsgs, hacts]
    exact h.fresh

/-- A request leaves its service and ends, while the others stay where they are. -/
theorem ends (h : Sound s) (hmsg : msg ∈ s.box svc) (as : List Act) (habou : AllAbout msg as)
    (hacts : s'.acts = s.acts ++ as) (hque : s'.rxReqEvent = s.rxReqEvent)
    (hmsgs : s'.reqMsgRefMap = s.reqMsgRefMap.erase msg)
    (hbox : ∀ other, s'.box other = if other = svc then (s.box svc).erase msg else s.box other)
    (hsess : ∀ other, s'.sessionOf other = s.sessionOf other)
    (hlife : ∀ session type, s.sessionOf svc = some session → s'.reqMsgRefMap.lookup msg = none →
      Life s' msg (.delivered msg svc session type :: as)) : Sound s' := by
  obtain ⟨session, type, hstor⟩ := h.listed svc msg hmsg
  have hoth : ∀ m, m ≠ msg → story s'.acts m = story s.acts m := by
    intro m hne
    rw [hacts, story_append, habou.story_other hne, append_nil]
  have hself : story s'.acts msg = .delivered msg svc session type :: as := by
    rw [hacts, story_append, habou.story_self, hstor, singleton_append]
  have hgone : s'.reqMsgRefMap.lookup msg = none := by rw [hmsgs, RefMap.lookup_erase, if_pos rfl]
  have hnext : s'.reqMsgRefMap.next = s.reqMsgRefMap.next := by
    rw [hmsgs]
    rfl
  have hlt : msg < s.reqMsgRefMap.next := by
    by_contra hge
    rw [h.fresh msg (by omega)] at hstor
    cases hstor
  have hwts : msg ∉ s.rxReqEvent := by
    intro hqd
    rw [(h.queued msg hqd).2] at hstor
    cases hstor
  have hmem : ∀ other m, m ≠ msg → (m ∈ s'.box other ↔ m ∈ s.box other) := by
    intro other m hne
    rw [hbox]
    split
    · rename_i heq
      rw [heq, mem_erase_of_ne hne]
    · exact Iff.rfl
  have hout : ∀ other, msg ∉ s'.box other := by
    intro other hin
    rw [hbox] at hin
    split at hin
    · exact (h.boxes svc).not_mem_erase hin
    rename_i hne
    obtain ⟨session', type', hstor'⟩ := h.listed other msg hin
    rw [hstor] at hstor'
    simp only [cons.injEq, Act.delivered.injEq] at hstor'
    exact hne hstor'.1.2.1.symm
  have hlive := h.life msg hlt
  rw [hstor] at hlive
  refine ⟨⟨?_, ?_⟩, ?_, ?_, ?_, ?_⟩
  · intro m hm
    by_cases heq : m = msg
    · subst heq
      rw [hself]
      cases hlive with
      | held _ _ _ owner => exact hlife session type owner hgone
    rw [hoth m heq]
    refine (h.life m (hnext ▸ hm)).frame (by rw [hque]; exact id) ?_ ?_
    · rw [hmsgs, RefMap.lookup_erase, if_neg heq]
    · intro other session' hin hownr
      exact ⟨(hmem other m heq).2 hin, by rw [hsess]; exact hownr⟩
  · intro other m hin
    have hne : m ≠ msg := fun heq => hout other (heq ▸ hin)
    rw [hoth m hne]
    exact h.listed other m ((hmem other m hne).1 hin)
  · rw [hque]
    exact h.queue
  · intro m hm
    rw [hque] at hm
    have hne : m ≠ msg := fun heq => hwts (heq ▸ hm)
    rw [hnext, hoth m hne]
    exact h.queued m hm
  · intro other
    rw [hbox]
    split
    · exact (h.boxes svc).erase msg
    · exact h.boxes other
  · intro m hm
    rw [hnext] at hm
    have hne : m ≠ msg := by omega
    rw [hoth m hne]
    exact h.fresh m hm

theorem takes (h : Sound s) (hfst : s.rxReqEvent = msg :: rest) (as : List Act)
    (habou : AllAbout msg as) (hacts : s'.acts = s.acts ++ as) (hque : s'.rxReqEvent = rest)
    (hnext : s'.reqMsgRefMap.next = s.reqMsgRefMap.next)
    (hmsgs : ∀ m, m ≠ msg → s'.reqMsgRefMap.lookup m = s.reqMsgRefMap.lookup m)
    (hbox : ∀ svc m, m ≠ msg → (m ∈ s'.box svc ↔ m ∈ s.box svc))
    (hboxe : ∀ svc, msg ∉ s.box svc → (s'.box svc).Nodup)
    (hsess : ∀ other, s'.sessionOf other = s.sessionOf other) (hlife : Life s' msg as)
    (hlstd : ∀ svc, msg ∉ s.box svc → msg ∈ s'.box svc →
      ∃ session type, as = [.delivered msg svc session type]) : Sound s' := by
  have hqd := h.queued msg (by simp [hfst])
  have hoth : ∀ m, m ≠ msg → story s'.acts m = story s.acts m := by
    intro m hne
    rw [hacts, story_append, habou.story_other hne, append_nil]
  have hself : story s'.acts msg = as := by
    rw [hacts, story_append, habou.story_self, hqd.2, nil_append]
  have hnd := h.queue
  rw [hfst] at hnd
  have hrest : ∀ m ∈ rest, m ≠ msg := fun m hm heq => (nodup_cons.1 hnd).1 (heq ▸ hm)
  have hfree : ∀ svc, msg ∉ s.box svc := by
    intro svc hin
    obtain ⟨session, type, hstor⟩ := h.listed svc msg hin
    rw [hqd.2] at hstor
    cases hstor
  refine ⟨⟨?_, ?_⟩, ?_, ?_, ?_, ?_⟩
  · intro m hm
    by_cases heq : m = msg
    · subst heq
      rw [hself]
      exact hlife
    rw [hoth m heq]
    refine (h.life m (hnext ▸ hm)).frame ?_ (hmsgs m heq) ?_
    · rw [hque, hfst]
      exact fun hin => (mem_cons.1 hin).resolve_left heq
    · intro svc session hin hownr
      exact ⟨(hbox svc m heq).2 hin, by rw [hsess]; exact hownr⟩
  · intro svc m hin
    by_cases heq : m = msg
    · subst heq
      rw [hself]
      exact hlstd svc (hfree svc) hin
    · rw [hoth m heq]
      exact h.listed svc m ((hbox svc m heq).1 hin)
  · rw [hque]
    exact (nodup_cons.1 hnd).2
  · intro m hm
    rw [hque] at hm
    rw [hnext, hoth m (hrest m hm)]
    exact h.queued m (by simp [hfst, hm])
  · exact fun svc => hboxe svc (hfree svc)
  · intro m hm
    rw [hnext] at hm
    have hne : m ≠ msg := by omega
    rw [hoth m hne]
    exact h.fresh m hm

end Sound

variable {f : Svc → Svc} {handlers : RefMap ReqHandler} {client : Nat}

section Boxes

variable {s : State} {svc other msg : Nat} {msgs : RefMap ReqMsg}

theorem box_modify {acts : List Act} {queue : List Nat} :
    (mk (s.svcRefMap.modify svc f) handlers msgs queue acts).box other =
      if other = svc then ((s.svcRefMap.lookup svc).map fun p => (f p).reqMsgList).getD []
      else s.box other := by
  unfold box
  rw [RefMap.lookup_modify]
  by_cases heq : other = svc
  · subst heq
    simp [Function.comp_def]
  · simp [heq]

theorem sessionOf_modify {acts : List Act}
    {queue : List Nat} (hf : ∀ p, (f p).sessionRef = p.sessionRef) :
    (mk (s.svcRefMap.modify svc f) handlers msgs queue acts).sessionOf other =
      s.sessionOf other := by
  unfold sessionOf
  rw [RefMap.lookup_modify]
  split
  · cases s.svcRefMap.lookup other with
    | none => rfl
    | some p => simp [hf]
  · rfl

theorem box_removeMsg : (s.removeMsg msg svc client).box other =
    if other = svc then (s.box svc).erase msg else s.box other := by
  unfold removeMsg unlink freeMsg
  rw [box_modify]
  split
  · unfold box
    cases s.svcRefMap.lookup svc with
    | none | some p => rfl
  · rfl

theorem sessionOf_removeMsg : (s.removeMsg msg svc client).sessionOf other = s.sessionOf other :=
  sessionOf_modify fun _ => rfl

end Boxes

namespace Sound

variable {s : State} {msg svc : Nat}

section

variable (h : Sound s)
include h

theorem removeMsg (hmsg : msg ∈ s.box svc)
    (hown : s.sessionOf svc = some client) : Sound (s.removeMsg msg svc client) := by
  refine h.ends hmsg [.unlinked msg svc, .released msg (some client)] ?_ ?_ rfl rfl
    (fun _ => box_removeMsg) (fun _ => sessionOf_removeMsg) ?_
  · intro a ha m
    simp only [mem_cons, not_mem_nil, or_false] at ha
    rcases ha with rfl | rfl
    all_goals simp [Act.isAbout, eq_comm]
  · simp [State.removeMsg, State.unlink, State.freeMsg]
  · intro session type hownr hgone
    rw [hown] at hownr
    cases hownr
    exact .dropped svc client type hgone

theorem responds (hmsg : msg ∈ s.box svc)
    (hown : s.sessionOf svc = some client) (addr : AddrInfo) (r : Response) :
    Sound ((s.act [.responded msg client addr r]).removeMsg msg svc client) := by
  refine h.ends hmsg [.responded msg client addr r, .unlinked msg svc,
    .released msg (some client)] ?_ ?_ rfl rfl (fun _ => box_removeMsg)
    (fun _ => sessionOf_removeMsg) ?_
  · intro a ha m
    simp only [mem_cons, not_mem_nil, or_false] at ha
    rcases ha with rfl | rfl | rfl
    all_goals simp [Act.isAbout, eq_comm]
  · simp [State.removeMsg, State.unlink, State.freeMsg, State.act]
  · intro session type hownr hgone
    rw [hown] at hownr
    cases hownr
    exact .answered svc client type addr r hgone

theorem popAll {list : List Nat} (hlist : s.box svc = list)
    (hown : list ≠ [] → s.sessionOf svc = some client) :
    Sound (list.foldl (fun s msg => s.removeMsg msg svc client) s) ∧
      (list.foldl (fun s msg => s.removeMsg msg svc client) s).box svc = [] := by
  induction list generalizing s with
  | nil => exact ⟨h, hlist⟩
  | cons msg rest ih =>
    have hsess := hown (by simp)
    apply ih
    · exact h.removeMsg (by simp [hlist]) hsess
    · rw [box_removeMsg, if_pos rfl, hlist, erase_cons_head]
    intro _
    rw [sessionOf_removeMsg]
    exact hsess

/-- A new request, with an object or refused before it has one. -/
theorem udsMsgHandler (cfg : Config) (status : Nat → Bool) (addr : AddrInfo)
    (sid subFunc routineId : Nat) :
    Sound (s.udsMsgHandler cfg status addr sid subFunc routineId) := by
  unfold State.udsMsgHandler
  split
  · exact h
  split
  · rename_i errCode _
    have hstor : ∀ m, story (s.sendNRCResp none addr errCode).acts m = story s.acts m := by
      intro m
      simp [State.sendNRCResp, State.act, story, Act.isAbout]
    refine ⟨⟨?_, ?_⟩, h.queue, ?_, h.boxes, ?_⟩
    · intro m hm
      rw [hstor]
      exact (h.life m hm).frame id rfl fun _ _ hin hownr => ⟨hin, hownr⟩
    · intro svc m hin
      rw [hstor]
      exact h.listed svc m hin
    · intro m hm
      rw [hstor]
      exact h.queued m hm
    · intro m hm
      rw [hstor]
      exact h.fresh m hm
  have hnew := h.fresh s.reqMsgRefMap.next (Nat.le_refl _)
  have hnoti : s.reqMsgRefMap.next ∉ s.rxReqEvent := by
    intro hin
    have hlt := (h.queued _ hin).1
    omega
  refine ⟨⟨?_, h.listed⟩, ?_, ?_, h.boxes, ?_⟩
  · intro m hm
    by_cases heq : m = s.reqMsgRefMap.next
    · subst heq
      rw [hnew]
      exact .waiting (by simp) (by simp)
    have hlt : m < s.reqMsgRefMap.next := by
      simp only [RefMap.next_create] at hm
      omega
    refine (h.life m hlt).frame (fun hin => mem_append_left _ hin) ?_
      fun _ _ hin hownr => ⟨hin, hownr⟩
    rw [RefMap.lookup_create, if_neg heq]
  · exact nodup_append.2 ⟨h.queue, by simp, by
      intro m hm other hoth heq
      rw [mem_singleton.1 hoth] at heq
      exact hnoti (heq ▸ hm)⟩
  · intro m hm
    rcases mem_append.1 hm with hold | hlast
    · exact ⟨Nat.lt_succ_of_lt (h.queued m hold).1, (h.queued m hold).2⟩
    · rw [mem_singleton.1 hlast]
      exact ⟨Nat.lt_succ_self _, hnew⟩
  · intro m hm
    exact h.fresh m (Nat.le_of_succ_le hm)

theorem refuses (hfst : s.rxReqEvent = msg :: rest)
    (addr : AddrInfo) (nrc : Nat) : Sound ({ s with rxReqEvent := rest }.refuse msg addr nrc) := by
  refine h.takes hfst [.refused (some msg) addr.reply nrc, .released msg none] ?_ ?_ rfl rfl
    ?_ (fun _ _ _ => Iff.rfl) (fun svc _ => h.boxes svc) (fun _ => rfl) ?_ ?_
  · intro a ha m
    simp only [mem_cons, not_mem_nil, or_false] at ha
    rcases ha with rfl | rfl
    all_goals simp [Act.isAbout, eq_comm]
  · simp [refuse, sendNRCResp, act, freeMsg]
  · intro m hne
    exact (RefMap.lookup_erase (m := s.reqMsgRefMap)).trans (if_neg hne)
  · exact .refused _ nrc ((RefMap.lookup_erase (m := s.reqMsgRefMap)).trans (if_pos rfl))
  · intro svc hout hin
    exact absurd hin hout

theorem delivers (hfst : s.rxReqEvent = msg :: rest) {p : Svc}
    (hp : s.svcRefMap.lookup svc = some p) (hmsg : (s.reqMsgRefMap.lookup msg).isSome)
    (type : CtrlType) : Sound ({ s with rxReqEvent := rest }.deliver msg svc p type) := by
  have hbox : ∀ other, ({ s with rxReqEvent := rest }.deliver msg svc p type).box other =
      if other = svc then s.box svc ++ [msg] else s.box other := by
    intro other
    unfold deliver
    rw [box_modify]
    split
    · simp [box, hp]
    · rfl
  have hsess : ∀ other,
      ({ s with rxReqEvent := rest }.deliver msg svc p type).sessionOf other = s.sessionOf other :=
    fun _ => sessionOf_modify fun _ => rfl
  refine h.takes hfst [.delivered msg svc p.sessionRef type] ?_ rfl rfl rfl
    (fun _ _ => rfl) ?_ ?_ hsess ?_ ?_
  · intro a ha m
    rw [mem_singleton.1 ha]
    simp [Act.isAbout, eq_comm]
  · intro other m hne
    rw [hbox]
    split
    · rename_i heq
      subst heq
      simp [hne]
    · exact Iff.rfl
  · intro other hout
    rw [hbox]
    split
    · rename_i heq
      subst heq
      exact nodup_append.2 ⟨h.boxes other, by simp, by
        intro m hm m' hm' heq
        rw [mem_singleton.1 hm'] at heq
        exact hout (heq ▸ hm)⟩
    · exact h.boxes other
  · refine .held svc p.sessionRef type ?_ ?_ hmsg
    · rw [hsess]
      simp [sessionOf, hp]
    · rw [hbox]
      simp
  · intro other hout hin
    rw [hbox] at hin
    split at hin
    · rename_i heq
      subst heq
      exact ⟨p.sessionRef, type, rfl⟩
    · exact absurd hin hout

theorem rxReqEventHandler : Sound s.rxReqEventHandler := by
  unfold State.rxReqEventHandler
  split
  · exact h
  rename_i msg rest hfst
  have hqd := h.queued msg (by simp [hfst])
  have hlife := h.life msg hqd.1
  rw [hqd.2] at hlife
  have hpres : (s.reqMsgRefMap.lookup msg).isSome := by
    cases hlife with
    | waiting _ present => exact present
  dsimp only
  split
  · rename_i hnone
    rw [hnone] at hpres
    cases hpres
  rename_i m hm
  unfold State.handleReq
  split
  · exact h.refuses hfst _ _
  split
  · exact h.refuses hfst _ _
  rename_i p hp
  split
  · exact h.refuses hfst _ _
  split
  · exact h.refuses hfst _ _
  · exact h.delivers hfst hp hpres _

theorem modifySvc
    (hlist : ∀ p, (f p).reqMsgList = p.reqMsgList)
    (hsess : ∀ p, (f p).sessionRef = p.sessionRef) :
    Sound { s with svcRefMap := s.svcRefMap.modify svc f, reqHandlerRefMap := handlers } := by
  refine h.frame rfl rfl rfl ?_ ?_
  · intro other
    rw [box_modify]
    split
    · rename_i heq
      simp only [hlist, heq, box]
    · rfl
  · intro other session _ hownr
    rw [sessionOf_modify hsess]
    exact hownr

theorem findOrCreateService (cfg : Config) (client identifier : Nat) :
    Sound (s.findOrCreateService cfg client identifier).2 := by
  unfold State.findOrCreateService
  split
  swap
  · exact h
  split
  · exact h
  refine h.frame rfl rfl rfl ?_ ?_
  · intro other
    unfold State.box
    rw [RefMap.lookup_create]
    split
    · rename_i heq
      simp [heq]
    · rfl
  · intro other session _ hownr
    obtain ⟨p, hp, rfl⟩ := map_eq_some_iff.1 hownr
    unfold State.sessionOf
    rw [RefMap.lookup_create_of_some hp]
    rfl

theorem addRxReqMsgHandler (handl : Option Nat) (contextPtr : Nat) :
    Sound (s.addRxReqMsgHandler svc handl contextPtr).2 := by
  unfold State.addRxReqMsgHandler
  split
  · split
    · exact h
    · exact h.modifySvc (fun _ => rfl) (fun _ => rfl)
  · exact h

theorem removeRxReqMsgHandler (handlerRef : Nat) : Sound (s.removeRxReqMsgHandler handlerRef) := by
  unfold State.removeRxReqMsgHandler
  split
  · exact h
  · exact h.modifySvc (fun _ => rfl) (fun _ => rfl)

theorem setVlanId (vlanId : Nat) (isVlanIdValid : Bool) :
    Sound (s.setVlanId svc vlanId isVlanIdValid).2 := by
  unfold State.setVlanId
  split
  · exact h
  split
  · exact h
  split
  · exact h
  split
  · exact h
  · exact h.modifySvc (fun _ => rfl) (fun _ => rfl)

theorem removeRoutineCtrlSvc (hown : s.box svc ≠ [] → s.sessionOf svc = some client) :
    Sound (s.removeRoutineCtrlSvc client svc).2 := by
  unfold State.removeRoutineCtrlSvc
  split
  · exact h
  rename_i p hp
  have hlist : s.box svc = p.reqMsgList := by simp [State.box, hp]
  obtain ⟨hpopp, hemp⟩ := h.popAll hlist (by rw [← hlist]; exact hown)
  refine hpopp.frame rfl rfl rfl ?_ ?_
  · intro other
    unfold State.box at hemp ⊢
    rw [RefMap.lookup_erase]
    split
    · rename_i heq
      rw [heq, hemp]
      rfl
    · rfl
  · intro other session hfull hownr
    have hne : other ≠ svc := fun heq => hfull (heq ▸ hemp)
    unfold State.sessionOf at hownr ⊢
    rw [RefMap.lookup_erase, if_neg hne]
    exact hownr

end

variable {other session : Nat}

theorem sessionOf_popAll {list : List Nat} :
    (list.foldl (fun s msg => s.removeMsg msg svc client) s).sessionOf other =
      s.sessionOf other := by
  induction list generalizing s with
  | nil => rfl
  | cons msg rest ih =>
    rw [foldl_cons, ih]
    exact sessionOf_removeMsg

theorem sessionOf_removeRoutineCtrlSvc
    (h : (s.removeRoutineCtrlSvc client svc).2.sessionOf other = some session) :
    s.sessionOf other = some session := by
  unfold State.removeRoutineCtrlSvc at h
  split at h
  · exact h
  rename_i p _
  have hpop : (p.reqMsgList.foldl (fun s msg => s.removeMsg msg svc client) s).sessionOf other =
      s.sessionOf other := sessionOf_popAll
  rw [← hpop]
  obtain ⟨q, hq, rfl⟩ := map_eq_some_iff.1 h
  exact map_eq_some_iff.2 ⟨q, (RefMap.lookup_of_erase hq).2, rfl⟩

theorem sessionOf_servicesOf (hin : svc ∈ s.servicesOf session) :
    s.sessionOf svc = some session := by
  obtain ⟨e, he, rfl⟩ := mem_map.1 hin
  obtain ⟨hent, hsess⟩ := mem_filter.1 he
  unfold sessionOf
  rw [RefMap.lookup_eq_some_iff.2 hent]
  exact congrArg some (of_decide_eq_true hsess)

theorem sessionOf_of_box (hbox : s.box svc ≠ []) :
    ∃ session, s.sessionOf svc = some session := by
  unfold box at hbox
  unfold sessionOf
  cases hp : s.svcRefMap.lookup svc with
  | none => simp [hp] at hbox
  | some p => exact ⟨p.sessionRef, rfl⟩

theorem onClientDisconnection (h : Sound s) (session : Nat) :
    Sound (s.onClientDisconnection session) := by
  unfold State.onClientDisconnection
  have hown : ∀ svc ∈ s.servicesOf session, ∀ other, s.sessionOf svc = some other →
      other = session := by
    intro svc hin other hoth
    rw [sessionOf_servicesOf hin] at hoth
    exact (some.inj hoth).symm
  generalize s.servicesOf session = services at hown
  induction services generalizing s with
  | nil => exact h
  | cons svc rest ih =>
    apply ih
    · apply h.removeRoutineCtrlSvc
      intro hbox
      obtain ⟨other, hoth⟩ := sessionOf_of_box hbox
      rw [hoth, hown svc (by simp) other hoth]
    · intro svc' hin other hoth
      exact hown svc' (mem_cons_of_mem _ hin) other (sessionOf_removeRoutineCtrlSvc hoth)

end Sound

/-- The request that a session answers or releases is with the service that is found for it, and the
service is one of the session. -/
def State.OwnRequest (s : State) (client : Nat) (reqMsgRef : Option Nat) : Prop :=
  ∀ msg ∈ reqMsgRef, ∀ m ∈ s.reqMsgRefMap.lookup msg,
    ∀ svc ∈ s.getServiceObj m.routineId m.addrInfo.vlanId,
      msg ∈ s.box svc ∧ s.sessionOf svc = some client
deriving Decidable

def Careful (s : State) : Event → Prop
  | .sendResp client reqMsgRef _ _ backend => backend = .ok → s.OwnRequest client reqMsgRef
  | .releaseMsg client reqMsgRef => s.OwnRequest client reqMsgRef
  | .removeSvc client svcRef => s.box svcRef ≠ [] → s.sessionOf svcRef = some client
  | _ => True

instance : DecidableRel Careful := fun s e => by
  cases e
  all_goals
    unfold Careful
    infer_instance

section Runs

variable (cfg : Config)

structure Kept (s : State) (e : Event) : Prop where
  told : Told (s.step cfg e)
  /-- A request gets an object that waits, or one negative response and no object. -/
  received : ∀ status addr subFunc routineId, e = .request status addr svcId subFunc routineId →
    (s.step cfg e).acts = s.acts ∧ s.reqMsgRefMap.next ∈ (s.step cfg e).rxReqEvent ∨
      ∃ errCode, (s.step cfg e).acts = s.acts ++ [.refused none addr.reply errCode] ∧
        (s.step cfg e).reqMsgRefMap.next = s.reqMsgRefMap.next

def watch (s : State) (e : Event) : Option State := some (s.step cfg e)

variable {cfg} {s : State} {reqMsgRef : Option Nat}

theorem Sound.sendRoutineCtrlResp (h : Sound s) {nrc : Nat}
    {data : List UInt8} {backend : Result} (hown : backend = .ok → s.OwnRequest client reqMsgRef) :
    Sound (s.sendRoutineCtrlResp client reqMsgRef nrc data backend).2 := by
  unfold State.sendRoutineCtrlResp
  split
  · exact h
  rename_i msg
  split
  · exact h
  rename_i m hm
  split
  · exact h
  rename_i svc hsvc
  split
  · obtain ⟨hmsg, hsess⟩ := hown rfl msg rfl m hm svc hsvc
    exact h.responds hmsg hsess _ _
  · exact h

theorem Sound.releaseRoutineCtrlMsg (h : Sound s)
    (hown : s.OwnRequest client reqMsgRef) : Sound (s.releaseRoutineCtrlMsg client reqMsgRef).2 := by
  unfold State.releaseRoutineCtrlMsg
  split
  · exact h
  rename_i msg
  split
  · exact h
  rename_i m hm
  split
  · exact h
  rename_i svc hsvc
  obtain ⟨hmsg, hsess⟩ := hown msg rfl m hm svc hsvc
  exact h.removeMsg hmsg hsess

theorem Sound.step (h : Sound s) {e : Event} (hcare : Careful s e) : Sound (s.step cfg e) := by
  cases e with
  | request status addr sid subFunc routineId =>
    exact h.udsMsgHandler cfg status addr sid subFunc routineId
  | rxReqEvent => exact h.rxReqEventHandler
  | getService client identifier => exact h.findOrCreateService cfg client identifier
  | setVlanId svcRef vlanId isVlanIdValid => exact h.setVlanId vlanId isVlanIdValid
  | addHandler svcRef handl contextPtr => exact h.addRxReqMsgHandler handl contextPtr
  | removeHandler handlerRef => exact h.removeRxReqMsgHandler handlerRef
  | sendResp client reqMsgRef nrc data backend => exact h.sendRoutineCtrlResp hcare
  | releaseMsg client reqMsgRef => exact h.releaseRoutineCtrlMsg hcare
  | removeSvc client svcRef => exact h.removeRoutineCtrlSvc hcare
  | clientDisconnects sessionRef => exact h.onClientDisconnection sessionRef

theorem Sound.kept (h : Sound s) {e : Event} (hcare : Careful s e) : Kept cfg s e := by
  refine ⟨(h.step hcare).toTold, ?_⟩
  rintro status addr subFunc routineId rfl
  simp only [State.step, State.udsMsgHandler, ne_eq, not_true_eq_false, if_false]
  split
  · rename_i errCode _
    exact Or.inr ⟨errCode, rfl, rfl⟩
  · exact Or.inl ⟨rfl, by simp⟩

theorem init_sound : Sound init where
  life := fun _ hmsg => nomatch hmsg
  listed := fun _ _ hin => nomatch hin
  queue := nodup_nil
  queued := fun _ hin => nomatch hin
  boxes := fun _ => nodup_nil
  fresh := fun _ _ => rfl

variable (cfg)

/-- In every run in which sessions answer their own requests, while these are found with their
services, every request has one of the lives. -/
theorem lives_run (events : List Event) (hcare : Meets (watch cfg) Careful State.init events) :
    Meets (watch cfg) (Kept cfg) State.init events := by
  refine Meets.of_invariant Sound ?_ ?_ init_sound hcare
  · intro s e h hcare
    exact h.kept hcare
  intro s e t h hcare hstep
  cases hstep
  exact h.step hcare

end Runs

/-! Two clients have a service for the same routine. -/

def oneRoutine : Config where
  hasRoutineEntry := fun identifier => identifier = 0x0203
  routineEnableConditions := fun _ => none
  nrcByConditionId := fun _ => none

def requestOn (vlanId subFunc : Nat) : Event :=
  .request (fun _ => true) ⟨0x0e80, 0x0201, 0, vlanId, "eth0".toList⟩ svcId subFunc 0x0203

/-- One client serves VLAN 5 and the other VLAN 6; the requests are answered, released and refused,
and one goes with its client. -/
def twoVlans : List Event :=
  [.getService 1 0x0203, .setVlanId 0 5 true, .addHandler 0 (some 0) 0,
    .getService 2 0x0203, .setVlanId 1 6 true, .addHandler 1 (some 0) 0,
    requestOn 5 1, requestOn 6 2, requestOn 5 9, requestOn 7 1, requestOn 6 3,
    .rxReqEvent, .rxReqEvent, .rxReqEvent, .rxReqEvent, .rxReqEvent,
    .sendResp 1 (some 0) 0 [] .fault, .sendResp 1 (some 0) 0x22 [] .ok, .releaseMsg 2 (some 1),
    .clientDisconnects 2]

theorem lives_run_twoVlans : Meets (watch oneRoutine) (Kept oneRoutine) State.init twoVlans :=
  lives_run oneRoutine twoVlans (by decide +kernel)

/-- The client that registered first asks for the VLAN only while the other one has a request. -/
def laterVlan : List Event :=
  [.getService 1 0x0203, .getService 2 0x0203, .setVlanId 1 5 true, .addHandler 1 (some 0) 0,
    requestOn 5 1, .rxReqEvent, .setVlanId 0 5 true]

/-- The request is taken out of the list of another service, and stays in its own. -/
theorem not_lives_run :
    ¬ ∀ (cfg : Config) (events : List Event),
      Meets (watch cfg) (Kept cfg) State.init events := by
  intro h
  have hrun := h oneRoutine (laterVlan ++ [.sendResp 2 (some 0) 0 [] .ok])
  have hlast := ((meets_append.1 hrun).2 _ rfl).1.told
  obtain ⟨session, type, hstory⟩ := hlast.listed 1 0 (by decide +kernel)
  refine absurd (congrArg List.length hstory) ?_
  rw [List.length_singleton]
  decide +kernel

end TelAF.RoutineCtrl
