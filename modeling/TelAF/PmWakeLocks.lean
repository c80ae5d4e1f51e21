import TelAF.PmService
import TelAF.RefSums

/-!
# The accounting of wake locks

The total of the service is the sum of the counts of the wake sources as long as it does not reach
its end, the platform resumes when it must, and a session that closes leaves no source of another
session of its process.
-/

namespace TelAF.PmService

open TransitionRuns State RefMap Function

def State.acquiredSum (s : State) : Nat := s.wakeSrcs.total fun _ ws => ws.acquired.toNat

/-- Whether the call counts the source, and not only answers. -/
def State.acquires (s : State) (session wsRef : Nat) : Bool :=
  match s.wakeSrcs.lookup wsRef with
  | none => false
  | some ws =>
    (s.powerMode = .normal ∨ s.isClientMPMS session) ∧ (ws.isRef ∨ ws.acquired = 0) ∧
      ws.acquired + 1 ≠ 0

structure Accounted (I : Interface) (s : State) (a : Action) : Prop where
  sum : (perform I s a).state.totalWakeupSrc.toNat = (perform I s a).state.acquiredSum
  own : ∀ session, a = .disconnect session →
    (perform I s a).state.wakeSrcs.entries =
      s.wakeSrcs.entries.filter fun e => e.2.name.session ≠ session
  failed : ∀ session wsRef paRst, a = .stayAwake session wsRef paRst →
    (perform I s a).result ≠ .ok →
    (perform I s a).state.wakeSrcs = s.wakeSrcs ∧
      (perform I s a).state.totalWakeupSrc = s.totalWakeupSrc
  released : s.totalWakeupSrc ≠ 0 → (perform I s a).state.totalWakeupSrc = 0 →
    (perform I s a).state.stateEvents = s.stateEvents ++ [.allWakelocksReleased]
  awake : s.powerMode = .normal → s.totalWakeupSrc ≠ 0 → ∀ machineName,
    .setPowerStateAsMaster .suspend machineName ∉ (perform I s a).messages

/-- The total is not at its end and the platform resumes, when a source is acquired; the process
of a closing session has wake sources of that session only. -/
def Careful (s : State) : Action → Prop
  | .stayAwake session wsRef paRst => s.acquires session wsRef = true →
      s.totalWakeupSrc.toNat + 1 < 2 ^ 32 ∧ (s.currentState = .resume ∨ paRst = .ok)
  | .disconnect session => ∀ client ∈ s.clients session, ∀ e ∈ s.wakeSrcs.entries,
      e.2.pid = client.pid → e.2.name.session = session
  | _ => True

/-- The total is right, and every wake source is of a session that is stored, with its process. -/
structure Counted (s : State) : Prop where
  sum : s.totalWakeupSrc.toNat = s.acquiredSum
  owner : ∀ ref ws, s.wakeSrcs.lookup ref = some ws →
    ∃ client, s.clients ws.name.session = some client ∧ client.pid = ws.pid

variable {s t : State} {ref : Nat} {ws : WakeSrc}
variable {n : BitVec 32}

theorem toNat_add_one (h : n + 1 ≠ 0) : (n + 1).toNat = n.toNat + 1 := by bv_omega

theorem acquired_le (hsum : s.totalWakeupSrc.toNat = s.acquiredSum)
    (hws : s.wakeSrcs.lookup ref = some ws) : ws.acquired.toNat ≤ s.totalWakeupSrc.toNat := by
  rw [hsum]
  exact le_total (w := fun _ ws => ws.acquired.toNat) hws

/-- A new count of one source changes the sum by the difference. -/
theorem acquiredSum_setAcquired (hws : s.wakeSrcs.lookup ref = some ws) (n : BitVec 32) :
    (s.setAcquired ref n).acquiredSum + ws.acquired.toNat = s.acquiredSum + n.toNat := by
  exact total_modify (w := fun _ ws => ws.acquired.toNat) hws _

/-- What relaxing a source leaves: fewer counts of that source and of the total, by the same
number, and an event if the total is zero. -/
structure Relaxed (s : State) (ref : Nat) (ws : WakeSrc) (rest : BitVec 32) (t : State) : Prop where
  wakeSrcs : t.wakeSrcs = (s.setAcquired ref rest).wakeSrcs
  total : t.totalWakeupSrc.toNat + ws.acquired.toNat = s.totalWakeupSrc.toNat + rest.toNat
  clients : t.clients = s.clients
  events : t.stateEvents =
    if t.totalWakeupSrc = 0 then s.stateEvents ++ [.allWakelocksReleased] else s.stateEvents

theorem checkReleased_relaxed {rest : BitVec 32}
    (hwake : t.wakeSrcs = (s.setAcquired ref rest).wakeSrcs)
    (htot : t.totalWakeupSrc.toNat + ws.acquired.toNat = s.totalWakeupSrc.toNat + rest.toNat)
    (hcls : t.clients = s.clients) (hevs : t.stateEvents = s.stateEvents) :
    Relaxed s ref ws rest t.checkReleased := by
  unfold checkReleased
  split
  · rename_i hzero
    refine ⟨hwake, htot, hcls, ?_⟩
    rw [if_pos hzero, hevs]
  · rename_i hzero
    refine ⟨hwake, htot, hcls, ?_⟩
    rw [if_neg hzero, hevs]

theorem relax_relaxed (hws : s.wakeSrcs.lookup ref = some ws)
    (hle : ws.acquired.toNat ≤ s.totalWakeupSrc.toNat) (hacqd : ws.acquired ≠ 0) :
    Relaxed s ref ws (if ws.isRef then ws.acquired - 1 else 0) (s.relax ref).state := by
  unfold relax
  rw [hws]
  dsimp only
  rw [if_neg hacqd]
  cases hisRe : ws.isRef with
  | true =>
    rw [if_pos rfl, if_pos rfl]
    have htot : (s.totalWakeupSrc - 1).toNat + ws.acquired.toNat =
        s.totalWakeupSrc.toNat + (ws.acquired - 1).toNat := by
      bv_omega
    split
    · rename_i hrest
      have hnonz : s.totalWakeupSrc - 1 ≠ 0 := by bv_omega
      refine ⟨rfl, htot, rfl, ?_⟩
      exact (if_neg hnonz).symm
    · exact checkReleased_relaxed rfl htot rfl rfl
  | false =>
    rw [if_neg Bool.false_ne_true]
    refine checkReleased_relaxed rfl ?_ rfl rfl
    bv_omega

/-- What the removal of sources leaves: the other sources, a total without the removed counts,
and an event if the total became zero. -/
structure Removed (s : State) (refs : List Nat) (t : State) : Prop where
  wakeSrcs : t.wakeSrcs.entries = s.wakeSrcs.entries.filter fun e => e.1 ∉ refs
  sum : t.totalWakeupSrc.toNat = t.acquiredSum
  clients : t.clients = s.clients
  events : t.stateEvents =
    if s.totalWakeupSrc ≠ 0 ∧ t.totalWakeupSrc = 0 then
      s.stateEvents ++ [.allWakelocksReleased] else s.stateEvents
  decreased : s.totalWakeupSrc = 0 → t.totalWakeupSrc = 0

theorem erase_entries (m : RefMap WakeSrc) (ref : Nat) :
    (m.erase ref).entries = m.entries.filter fun e => e.1 ∉ [ref] := by
  apply List.filter_congr
  intro e _
  simp

theorem Removed.one (hsum : s.totalWakeupSrc.toNat = s.acquiredSum)
    (hws : s.wakeSrcs.lookup ref = some ws) : Removed s [ref] (s.removeWakeSrc ref) := by
  have hle := acquired_le hsum hws
  have herase : (s.wakeSrcs.erase ref).total (fun _ ws => ws.acquired.toNat) + ws.acquired.toNat =
      s.acquiredSum := total_erase hws
  unfold removeWakeSrc
  rw [hws]
  dsimp only
  by_cases hzero : ws.acquired = 0
  · rw [if_neg (not_not.2 hzero)]
    refine ⟨erase_entries .., ?_, rfl, ?_, id⟩
    · change s.totalWakeupSrc.toNat = (s.wakeSrcs.erase ref).total fun _ ws => ws.acquired.toNat
      bv_omega
    · exact (if_neg fun h => h.1 h.2).symm
  rw [if_pos hzero]
  have hlook : (s.uncount ref).wakeSrcs.lookup ref = some { ws with isRef := false } := by
    unfold uncount
    rw [lookup_modify_self, hws]
    rfl
  have hrlx := relax_relaxed hlook hle hzero
  rw [if_neg Bool.false_ne_true] at hrlx
  have hmap : ((s.uncount ref).relax ref).state.wakeSrcs.erase ref = s.wakeSrcs.erase ref := by
    rw [hrlx.wakeSrcs]
    exact (erase_modify _).trans (erase_modify _)
  have htot : _ = s.totalWakeupSrc.toNat + _ := hrlx.total
  dsimp only at htot
  refine ⟨?_, ?_, hrlx.clients, ?_, ?_⟩
  · dsimp only
    rw [hmap, erase_entries]
  · unfold acquiredSum
    rw [hmap]
    bv_omega
  · have hs : s.totalWakeupSrc ≠ 0 := by bv_omega
    simp only [hs, ne_eq, not_false_eq_true, true_and]
    exact hrlx.events
  · intro hs
    bv_omega

theorem Removed.trans {u : State} {refs others : List Nat} (h : Removed s refs t)
    (h' : Removed t others u) : Removed s (refs ++ others) u := by
  refine ⟨?_, h'.sum, h'.clients.trans h.clients, ?_, h'.decreased ∘ h.decreased⟩
  · rw [h'.wakeSrcs, h.wakeSrcs, List.filter_filter]
    apply List.filter_congr
    intro e _
    simp [Bool.and_comm]
  rw [h'.events, h.events]
  by_cases hs : s.totalWakeupSrc = 0
  · have ht := h.decreased hs
    rw [if_neg (fun hne => hne.1 ht), if_neg (fun hne => hne.1 hs), if_neg (fun hne => hne.1 hs)]
  by_cases ht : t.totalWakeupSrc = 0
  · have hu := h'.decreased ht
    rw [if_neg (fun hne => hne.1 ht), if_pos ⟨hs, ht⟩, if_pos ⟨hs, hu⟩]
  rw [if_neg (fun hzero : s.totalWakeupSrc ≠ 0 ∧ t.totalWakeupSrc = 0 => ht hzero.2)]
  by_cases hu : u.totalWakeupSrc = 0
  · rw [if_pos ⟨ht, hu⟩, if_pos ⟨hs, hu⟩]
  · rw [if_neg (fun hzero => hu hzero.2), if_neg (fun hzero => hu hzero.2)]

theorem Removed.foldl (refs : List Nat) (hsum : s.totalWakeupSrc.toNat = s.acquiredSum)
    (hnd : refs.Nodup) (hrefs : ∀ ref ∈ refs, ∃ ws, s.wakeSrcs.lookup ref = some ws) :
    Removed s refs (refs.foldl removeWakeSrc s) := by
  induction refs generalizing s with
  | nil =>
    refine ⟨?_, hsum, rfl, ?_, id⟩
    · simp
    · exact (if_neg fun h => h.1 h.2).symm
  | cons ref rest ih =>
    obtain ⟨hnew, hrest⟩ := List.nodup_cons.1 hnd
    obtain ⟨ws, hws⟩ := hrefs ref List.mem_cons_self
    have hfst := Removed.one hsum hws
    apply hfst.trans (ih hfst.sum hrest _)
    intro other hoth
    obtain ⟨ws', hws'⟩ := hrefs other (List.mem_cons_of_mem ref hoth)
    have hne : other ≠ ref := fun heq => hnew (heq ▸ hoth)
    refine ⟨ws', lookup_eq_some_iff.2 ?_⟩
    rw [hfst.wakeSrcs]
    exact List.mem_filter.2 ⟨lookup_eq_some_iff.1 hws', by simpa using hne⟩

structure Accounts (s : State) (o : Outcome) : Prop where
  counted : Counted o.state
  released : s.totalWakeupSrc ≠ 0 → o.state.totalWakeupSrc = 0 →
    o.state.stateEvents = s.stateEvents ++ [.allWakelocksReleased]
  awake : s.powerMode = .normal → s.totalWakeupSrc ≠ 0 → ∀ machineName,
    .setPowerStateAsMaster .suspend machineName ∉ o.messages

section Calls

variable {o : Outcome} {session : Nat} {paRst : PaResult}

structure Kept (s : State) (o : Outcome) : Prop where
  wakeSrcs : o.state.wakeSrcs = s.wakeSrcs
  total : o.state.totalWakeupSrc = s.totalWakeupSrc
  clients : o.state.clients = s.clients
  awake : s.powerMode = .normal → s.totalWakeupSrc ≠ 0 → ∀ machineName,
    .setPowerStateAsMaster .suspend machineName ∉ o.messages

theorem Kept.refl (s : State) (r : Result) : Kept s { state := s, result := r } :=
  ⟨rfl, rfl, rfl, fun _ _ _ => List.not_mem_nil⟩

theorem Counted.accounts_of_kept (h : Counted s) (hkept : Kept s o) : Accounts s o := by
  refine ⟨⟨?_, ?_⟩, fun hs ho => absurd (hkept.total ▸ ho) hs, hkept.awake⟩
  · unfold acquiredSum
    rw [hkept.total, hkept.wakeSrcs]
    exact h.sum
  · rw [hkept.wakeSrcs, hkept.clients]
    exact h.owner

theorem Counted.accounts_refl (h : Counted s) (r : Result) :
    Accounts s { state := s, result := r } :=
  h.accounts_of_kept (.refl s r)

theorem setAsMaster_kept (state : PowerState) (machineName : Name)
    (hawak : state = .suspend → s.powerMode = .lowPower ∨ s.totalWakeupSrc = 0) :
    Kept s (s.setPowerStateAsMaster state machineName paRst) := by
  have hmsgs : s.powerMode = .normal → s.totalWakeupSrc ≠ 0 → ∀ other,
      .setPowerStateAsMaster .suspend other ∉
        (s.setPowerStateAsMaster state machineName paRst).messages := by
    intro hmode htot other hmem
    cases List.mem_singleton.1 hmem
    rcases hawak rfl with hlow | hzero
    · rw [hmode] at hlow
      cases hlow
    · exact htot hzero
  unfold setPowerStateAsMaster at hmsgs ⊢
  dsimp only at hmsgs ⊢
  split <;> exact ⟨rfl, rfl, rfl, hmsgs⟩

theorem setPowerState_kept (s : State) (state : PowerState) (machineName : Name) (paRst : PaResult) :
    Kept s (s.setPowerState state machineName paRst) := by
  unfold setPowerState
  cases state with
  | suspend =>
    dsimp only
    split
    · exact setAsMaster_kept _ _ fun _ => ‹_›
    · exact .refl s .ok
  | resume | shutdown => exact setAsMaster_kept _ _ fun h => nomatch h
  | restart =>
    exact ⟨rfl, rfl, rfl, fun _ _ _ => List.not_mem_nil⟩
  | _ => exact .refl s .badParameter

section

variable (h : Counted s)
include h

theorem Counted.newWakeupSource (I : Interface) (session options : Nat) (tag : Name) :
    Accounts s (s.newWakeupSource I session options tag) := by
  unfold State.newWakeupSource
  split
  · exact h.accounts_refl .ok
  rcases hcl : s.clients session with _ | client
  · exact h.accounts_refl .ok
  dsimp only
  split
  · exact h.accounts_refl .ok
  refine ⟨⟨?_, ?_⟩, fun hs ho => absurd ho hs, fun _ _ _ => List.not_mem_nil⟩
  · unfold State.acquiredSum
    rw [total_create]
    exact h.sum
  intro ref ws hws
  rcases lookup_create_cases hws with ⟨-, rfl⟩ | hold
  · exact ⟨client, hcl, rfl⟩
  · exact h.owner ref ws hold

theorem setAcquired_owner {ref : Nat} {n : BitVec 32} {r : Nat} {ws : WakeSrc}
    (hws : (s.setAcquired ref n).wakeSrcs.lookup r = some ws) :
    ∃ client, s.clients ws.name.session = some client ∧ client.pid = ws.pid := by
  unfold setAcquired at hws
  rw [lookup_modify] at hws
  split at hws
  · obtain ⟨old, hold, rfl⟩ := Option.map_eq_some_iff.1 hws
    exact h.owner r old hold
  · exact h.owner r ws hws

theorem Counted.relax (ref : Nat) : Accounts s (s.relax ref) := by
  rcases hws : s.wakeSrcs.lookup ref with _ | ws
  · unfold State.relax
    rw [hws]
    exact h.accounts_refl .badParameter
  by_cases hzero : ws.acquired = 0
  · unfold State.relax
    rw [hws]
    dsimp only
    rw [if_pos hzero]
    exact h.accounts_refl .ok
  have hrlx := relax_relaxed hws (acquired_le h.sum hws) hzero
  have hcnt := acquiredSum_setAcquired hws (if ws.isRef then ws.acquired - 1 else 0)
  have htot := hrlx.total
  have hsum := h.sum
  refine ⟨⟨?_, ?_⟩, ?_, ?_⟩
  · unfold State.acquiredSum at hcnt ⊢
    rw [hrlx.wakeSrcs]
    unfold State.acquiredSum at hsum
    omega
  · rw [hrlx.wakeSrcs, hrlx.clients]
    exact fun r ws hws => setAcquired_owner h hws
  · intro _ ht
    rw [hrlx.events, if_pos ht]
  intro _ _ _
  unfold State.relax
  rw [hws]
  dsimp only
  (repeat' split) <;> exact List.not_mem_nil

/-- The source that is acquired and the total are counted together. -/
theorem Counted.increaseTotal (hws : s.wakeSrcs.lookup ref = some ws)
    (hroom : ws.acquired + 1 ≠ 0) (htot : s.totalWakeupSrc.toNat + 1 < 2 ^ 32)
    (hresu : s.currentState = .resume ∨ paRst = .ok) :
    Accounts s ((s.setAcquired ref (ws.acquired + 1)).increaseTotal paRst) ∧
      ((s.setAcquired ref (ws.acquired + 1)).increaseTotal paRst).result = .ok := by
  have hnext : s.totalWakeupSrc + 1 ≠ 0 := by bv_omega
  have hcntd : Counted { s.setAcquired ref (ws.acquired + 1) with
      totalWakeupSrc := s.totalWakeupSrc + 1 } := by
    refine ⟨?_, fun r w hw => setAcquired_owner h hw⟩
    have hcnt := acquiredSum_setAcquired hws (ws.acquired + 1)
    have hone := toNat_add_one hroom
    have hadd := toNat_add_one hnext
    have hsum := h.sum
    change (s.totalWakeupSrc + 1).toNat = (s.setAcquired ref (ws.acquired + 1)).acquiredSum
    omega
  have haccs : ∀ {o : Outcome}, Counted o.state →
      o.state.totalWakeupSrc = s.totalWakeupSrc + 1 →
      (∀ machineName, .setPowerStateAsMaster .suspend machineName ∉ o.messages) → Accounts s o :=
    fun ho hinc hmsgs => ⟨ho, fun _ hzero => absurd (hinc ▸ hzero) hnext, fun _ _ => hmsgs⟩
  have hfull : (s.setAcquired ref (ws.acquired + 1)).totalWakeupSrc + 1 ≠ 0 := hnext
  unfold State.increaseTotal
  rw [if_neg hfull]
  dsimp only
  split
  · rename_i hst
    have hok : paRst = .ok := hresu.resolve_left hst
    have hkept := setPowerState_kept { s.setAcquired ref (ws.acquired + 1) with
      totalWakeupSrc := s.totalWakeupSrc + 1 } .resume "ALL_MACHINES".toList paRst
    refine ⟨haccs (hcntd.accounts_of_kept hkept).counted hkept.total ?_, ?_⟩
    · simp [State.setPowerState, State.setPowerStateAsMaster]
    · subst hok
      rfl
  · exact ⟨haccs hcntd rfl fun _ => List.not_mem_nil, rfl⟩

theorem Counted.stayAwake (hcare : s.acquires session ref = true →
      s.totalWakeupSrc.toNat + 1 < 2 ^ 32 ∧ (s.currentState = .resume ∨ paRst = .ok)) :
    Accounts s (s.stayAwake session ref paRst) ∧
      ((s.stayAwake session ref paRst).result ≠ .ok →
        (s.stayAwake session ref paRst).state.wakeSrcs = s.wakeSrcs ∧
          (s.stayAwake session ref paRst).state.totalWakeupSrc = s.totalWakeupSrc) := by
  have hsame : ∀ r, Accounts s { state := s, result := r } ∧ (r ≠ .ok →
      s.wakeSrcs = s.wakeSrcs ∧ s.totalWakeupSrc = s.totalWakeupSrc) :=
    fun r => ⟨h.accounts_refl r, fun _ => ⟨rfl, rfl⟩⟩
  unfold State.acquires at hcare
  unfold State.stayAwake
  rcases hws : s.wakeSrcs.lookup ref with _ | ws
  · exact hsame .badParameter
  rw [hws] at hcare
  dsimp only at hcare ⊢
  split
  · exact hsame .notPermitted
  rename_i hperm
  split
  · exact hsame .ok
  rename_i hfst
  split
  · exact hsame .fault
  rename_i hroom
  have hacqs : (s.powerMode = .normal ∨ s.isClientMPMS session = true) ∧
      (ws.isRef = true ∨ ws.acquired = 0) ∧ ws.acquired + 1 ≠ 0 := by
    refine ⟨?_, ?_, hroom⟩
    · cases hmode : s.powerMode with
      | normal => exact .inl rfl
      | lowPower => exact .inr (not_not.1 fun hmpms => hperm ⟨hmode, hmpms⟩)
    · cases hisRe : ws.isRef with
      | true => exact .inl rfl
      | false => exact .inr (not_not.1 fun hacqd => hfst ⟨hisRe, hacqd⟩)
  obtain ⟨htot, hresu⟩ := hcare (decide_eq_true hacqs)
  obtain ⟨haccs, hok⟩ := h.increaseTotal hws hroom htot hresu
  exact ⟨haccs, fun hfail => absurd hok hfail⟩

/-- Selected by their process, the sources of the session go and no others. -/
theorem Counted.wakeSrcsOf {client : Client} (hcl : s.clients session = some client)
    (hcare : ∀ e ∈ s.wakeSrcs.entries, e.2.pid = client.pid → e.2.name.session = session)
    {e : Nat × WakeSrc} (he : e ∈ s.wakeSrcs.entries) :
    e.1 ∈ s.wakeSrcsOf client.pid ↔ e.2.name.session = session := by
  have hlook := lookup_eq_some_iff.2 he
  constructor
  · intro hmem
    obtain ⟨other, hoth, hsame⟩ := List.mem_map.1 hmem
    obtain ⟨hin, hpid⟩ := List.mem_filter.1 hoth
    have heq : some e.2 = some other.2 := by
      rw [← hlook, ← lookup_eq_some_iff.2 hin, hsame]
    rw [Option.some.inj heq]
    exact hcare other hin (of_decide_eq_true hpid)
  · intro hsess
    obtain ⟨owner, hownr, hpid⟩ := h.owner e.1 e.2 hlook
    rw [hsess, hcl] at hownr
    cases hownr
    exact List.mem_map.2 ⟨e, List.mem_filter.2 ⟨he, decide_eq_true hpid.symm⟩, rfl⟩

theorem Counted.clientDisconnected
    (hcare : ∀ client ∈ s.clients session, ∀ e ∈ s.wakeSrcs.entries,
      e.2.pid = client.pid → e.2.name.session = session) :
    Accounts s (s.clientDisconnected session) ∧
      (s.clientDisconnected session).state.wakeSrcs.entries =
        s.wakeSrcs.entries.filter fun e => e.2.name.session ≠ session := by
  unfold State.clientDisconnected
  dsimp only
  cases hcl : s.clients session with
  | none =>
    refine ⟨h.accounts_of_kept ⟨rfl, rfl, rfl, fun _ _ _ => List.not_mem_nil⟩, ?_⟩
    refine (List.filter_eq_self.2 fun e he => ?_).symm
    apply decide_eq_true
    intro hsess
    obtain ⟨owner, hownr, -⟩ := h.owner e.1 e.2 (lookup_eq_some_iff.2 he)
    rw [hsess, hcl] at hownr
    cases hownr
  | some client =>
    have hown := fun e he => h.wakeSrcsOf hcl (hcare client hcl) (e := e) he
    have hrmvd := Removed.foldl (s.wakeSrcsOf client.pid) (s := { s with
        handlers := s.handlers.filterRefs fun _ h => h.session ≠ session
        clients := update s.clients session none }) h.sum
      (s.wakeSrcs.nodup.sublist (List.filter_sublist.map Prod.fst)) (by
        intro ref href
        obtain ⟨e, he, rfl⟩ := List.mem_map.1 href
        exact ⟨e.2, lookup_eq_some_iff.2 (List.mem_of_mem_filter he)⟩)
    have hents := hrmvd.wakeSrcs.trans (List.filter_congr (q := fun e =>
      decide (e.2.name.session ≠ session)) fun e he => decide_eq_decide.2 (not_congr (hown e he)))
    refine ⟨⟨⟨hrmvd.sum, ?_⟩, ?_, fun _ _ _ => List.not_mem_nil⟩, hents⟩
    · intro ref ws hws
      have hmem := (congrArg ((ref, ws) ∈ ·) hents).mp (lookup_eq_some_iff.1 hws)
      obtain ⟨hin, hoth⟩ := List.mem_filter.1 hmem
      have hne : ws.name.session ≠ session := of_decide_eq_true hoth
      obtain ⟨owner, hownr, hpid⟩ := h.owner ref ws (lookup_eq_some_iff.2 hin)
      refine ⟨owner, (congrFun hrmvd.clients ws.name.session).trans ?_, hpid⟩
      exact (update_of_ne hne _ _).trans hownr
    · intro hs ht
      exact hrmvd.events.trans (if_pos ⟨hs, ht⟩)

theorem Counted.clientConnected (session : Nat) (client : Client) :
    Accounts s (s.clientConnected session client) := by
  unfold State.clientConnected
  cases hsess : s.clients session with
  | some _ => exact h.accounts_refl .ok
  | none =>
    refine ⟨⟨h.sum, ?_⟩, fun hs ht => absurd ht hs, fun _ _ _ => List.not_mem_nil⟩
    intro ref ws hws
    obtain ⟨owner, hownr, hpid⟩ := h.owner ref ws hws
    have hne : ws.name.session ≠ session := by
      intro heq
      rw [heq, hsess] at hownr
      cases hownr
    refine ⟨owner, ?_, hpid⟩
    dsimp only
    rw [update_of_ne hne]
    exact hownr

end

/-- Telling the handlers of a state touches the acknowledgements only. -/
theorem notify_kept (state : PowerState) (handlers : List ApiHandler) (o : Outcome) :
    (handlers.foldl (notify state) o).state.wakeSrcs = o.state.wakeSrcs ∧
      (handlers.foldl (notify state) o).state.totalWakeupSrc = o.state.totalWakeupSrc ∧
      (handlers.foldl (notify state) o).state.clients = o.state.clients := by
  induction handlers generalizing o with
  | nil => exact ⟨rfl, rfl, rfl⟩
  | cons h rest ih =>
    obtain ⟨hwake, htot, hcls⟩ := ih (notify state o h)
    rw [List.foldl_cons, hwake, htot, hcls]
    unfold notify
    split <;> exact ⟨rfl, rfl, rfl⟩

theorem notify_messages (state : PowerState) (handlers : List ApiHandler) (o : Outcome)
    {state' : PowerState} {machineName : Name}
    (h : .setPowerStateAsMaster state' machineName ∈ (handlers.foldl (notify state) o).messages) :
    .setPowerStateAsMaster state' machineName ∈ o.messages := by
  induction handlers generalizing o with
  | nil => exact h
  | cons handler rest ih =>
    have hnoti := ih _ h
    unfold notify at hnoti
    split at hnoti
    · exact hnoti
    · simpa using hnoti

theorem not_mem_sendAck (state state' : PowerState) (answer : Ack) (machineName : Name) :
    .setPowerStateAsMaster state machineName ∉ sendAckToPaLayer state' answer := by
  unfold sendAckToPaLayer
  split
  · exact List.not_mem_nil
  · simp

theorem handleStateChangedAckNeeded_kept (s : State) (state : PowerState) :
    Kept s (s.handleStateChangedAckNeeded state) := by
  unfold handleStateChangedAckNeeded
  split
  · exact ⟨rfl, rfl, rfl, fun _ _ _ => not_mem_sendAck _ _ _ _⟩
  obtain ⟨hwake, htot, hcls⟩ :=
    notify_kept state s.handlers.values { state := s.resetCollection state }
  refine ⟨hwake, htot, hcls, fun _ _ machineName hmem => ?_⟩
  exact List.not_mem_nil (notify_messages state _ _ hmem)

theorem sendStateChangeAck_kept (s : State) (ref : Nat) (state : PowerState) (vmId : NadVm)
    (ackType : ClientAck) : Kept s (s.sendStateChangeAck ref state vmId ackType) := by
  have hcntd : Kept s { state := s.countAck } := by
    unfold countAck
    dsimp only
    split <;> exact ⟨rfl, rfl, rfl, fun _ _ _ => List.not_mem_nil⟩
  unfold sendStateChangeAck
  (repeat' split) <;> first
    | exact hcntd
    | exact .refl s .ok
    | exact ⟨rfl, rfl, rfl, fun _ _ _ => not_mem_sendAck _ _ _ _⟩
    | exact ⟨rfl, rfl, rfl, fun _ _ _ => by simp⟩

end Calls

theorem Counted.perform {I : Interface} {a : Action} (h : Counted s) (hcare : Careful s a) :
    Accounts s (perform I s a) := by
  cases a with
  | connect session client => exact h.clientConnected session client
  | disconnect session => exact (h.clientDisconnected hcare).1
  | newWakeupSource session options tag => exact h.newWakeupSource I session options tag
  | stayAwake session wsRef paRst => exact (h.stayAwake hcare).1
  | relax wsRef => exact h.relax wsRef
  | setPowerState state machineName paRst =>
    exact h.accounts_of_kept (setPowerState_kept s state machineName paRst)
  | setPowerMode mode =>
    cases mode <;> exact h.accounts_of_kept ⟨rfl, rfl, rfl, fun _ _ _ => List.not_mem_nil⟩
  | addStateChangeExHandler session =>
    apply h.accounts_of_kept
    change Kept s (s.addStateChangeExHandler session)
    unfold addStateChangeExHandler
    split <;> exact ⟨rfl, rfl, rfl, fun _ _ _ => List.not_mem_nil⟩
  | removeStateChangeExHandler handlerRef | restartTimerExpired =>
    exact h.accounts_of_kept ⟨rfl, rfl, rfl, fun _ _ _ => List.not_mem_nil⟩
  | powerStateUpdate state =>
    cases state <;> exact h.accounts_of_kept ⟨rfl, rfl, rfl, fun _ _ _ => List.not_mem_nil⟩
  | handleStateEvent =>
    apply h.accounts_of_kept
    unfold PmService.perform
    rcases s.stateEvents with _ | ⟨state, rest⟩
    · exact .refl s .ok
    obtain ⟨hwake, htot, hcls, hawak⟩ :=
      handleStateChangedAckNeeded_kept { s with stateEvents := rest } state
    exact ⟨hwake, htot, hcls, hawak⟩
  | sendStateChangeAck session ref state vmId ackType =>
    exact h.accounts_of_kept (sendStateChangeAck_kept s ref state vmId ackType)

theorem Counted.accounted {I : Interface} {a : Action} (h : Counted s) (hcare : Careful s a) :
    Accounted I s a := by
  have haccs := h.perform (I := I) hcare
  refine ⟨haccs.counted.sum, ?_, ?_, haccs.released, haccs.awake⟩
  · rintro session rfl
    exact (h.clientDisconnected hcare).2
  · rintro session wsRef paRst rfl
    exact (h.stayAwake hcare).2

theorem counted_start (mode : PowerMode) : Counted (start mode) := ⟨rfl, fun _ _ h => nomatch h⟩

/-- In every careful run each step keeps to the accounting. -/
theorem accounted_run {I : Interface} {mode : PowerMode} {actions : List Action}
    (hcare : Meets (step I) Careful (start mode) actions) :
    Meets (step I) (Accounted I) (start mode) actions := by
  apply Meets.of_invariant Counted _ _ (counted_start mode) hcare
  · exact fun s a h hok => h.accounted hok
  intro s a t h hok hstep
  unfold step at hstep
  split at hstep
  · cases hstep
    exact (h.perform hok).counted
  · cases hstep

def someInterface : Interface := ⟨31, 1⟩

/-- A counted and an uncounted source, a suspend that waits for them, and a client that goes
without relaxing. -/
def twoSources : List Action :=
  [.connect 1 ⟨10, "app".toList⟩, .connect 2 ⟨11, "other".toList⟩,
   .newWakeupSource 1 1 "counted".toList, .newWakeupSource 2 0 "single".toList,
   .stayAwake 1 0 .ok, .stayAwake 1 0 .ok, .stayAwake 2 1 .ok, .stayAwake 2 1 .fault,
   .setPowerState .suspend "PVM".toList .ok, .relax 1, .disconnect 1, .handleStateEvent,
   .setPowerState .suspend "PVM".toList .ok, .stayAwake 2 1 .ok]

instance (s : State) : DecidablePred (Careful s) := by
  rintro ⟨⟩ <;> unfold Careful <;> infer_instance

theorem accounted_twoSources :
    Meets (step someInterface) (Accounted someInterface) (start .normal) twoSources :=
  accounted_run (by decide +kernel)

/-- A process with two sessions closes one of them. -/
def twoSessions : List Action :=
  [.connect 1 ⟨10, "app".toList⟩, .connect 2 ⟨10, "app".toList⟩,
   .newWakeupSource 2 0 "lock".toList, .stayAwake 2 0 .ok, .disconnect 1]

theorem accounting_fails :
    ¬ ∀ I mode actions, Meets (step I) (Accounted I) (start mode) actions := by
  intro h
  have hlast := (h someInterface .normal twoSessions).2 _ rfl
  have hown := ((((hlast.2 _ rfl).2 _ rfl).2 _ rfl).1).own 1 rfl
  revert hown
  decide +kernel

end TelAF.PmService
