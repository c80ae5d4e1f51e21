import Mathlib.Order.Basic
import Mathlib.Data.List.Nodup
import Mathlib.Data.List.Flatten

/-!
# Configuration of the diagnostic event manager

The part of the generated diagnostic configuration that the event server and its
database read: the events with their debounce algorithms and enable conditions,
and the DTCs with the events assigned to them. The maps of the configuration are
their keys in ascending order together with a function on keys.
-/

namespace TelAF.DemConfiguration

open List

abbrev DtcCode := Nat
abbrev EventId := Nat
abbrev CycleId := Nat

/-- What happens to a started debounce when the enable condition drops. -/
inductive DebounceResetStatus where
  | freeze
  | reset
deriving DecidableEq

/-- The parameters of counter based debouncing, within the ranges that
`InitEventContext` enforces. -/
structure CounterBasedConfig where
  decrementStepSize : Int
  incrementStepSize : Int
  failedThreshold : Int
  passedThreshold : Int
  jumpDown : Bool
  jumpUp : Bool
  jumpDownValue : Int
  jumpUpValue : Int
  fdcThreshold : Int
  decrement_range : 1 ≤ decrementStepSize ∧ decrementStepSize < 32768
  increment_range : 1 ≤ incrementStepSize ∧ incrementStepSize < 32768
  failed_range : 1 ≤ failedThreshold ∧ failedThreshold < 32768
  passed_range : -32768 ≤ passedThreshold ∧ passedThreshold < 0
  jumpDown_range : -32768 ≤ jumpDownValue ∧ jumpDownValue < 32768
  jumpUp_range : -32768 ≤ jumpUpValue ∧ jumpUpValue < 32768
  fdc_range : 1 ≤ fdcThreshold ∧ fdcThreshold < 32768

/-- The intervals of a time based debounce are left to its timers. -/
inductive Debounce where
  | monitorInternal
  | counterBased (config : CounterBasedConfig)
  | timeBased

structure EnableConditionData where
  andConditions : List UInt8
  orConditions : List UInt8

structure EventEntry where
  mnemonic : String
  operationCycle : CycleId
  confirmationThreshold : UInt8
  debounce : Debounce
  debounceBehavior : DebounceResetStatus
  enableCondition : EnableConditionData

inductive OccurrenceCounterProcessing where
  | testFailedBit
  | confirmedDtc

/-- `eventIds` and `dtcCodes` are the keys of the two maps. The generator numbers the
events by their distinct mnemonics, and lists each of them under one DTC. -/
structure DemConf where
  eventIds : List EventId
  event : EventId → EventEntry
  dtcCodes : List DtcCode
  dtcEvents : DtcCode → List EventId
  occurrenceCounterProcessing : OccurrenceCounterProcessing
  eventIds_sorted : eventIds.Pairwise (· < ·)
  dtcCodes_sorted : dtcCodes.Pairwise (· < ·)
  mnemonic_inj : ∀ e ∈ eventIds, ∀ e' ∈ eventIds, (event e).mnemonic = (event e').mnemonic → e = e'
  one_dtc : ∀ d ∈ dtcCodes, ∀ d' ∈ dtcCodes, ∀ e ∈ dtcEvents d, e ∈ dtcEvents d' → d = d'

variable (c : DemConf)

/-- The events of a DTC that are configured, in the order of the map of events. -/
def getEventNodes (d : DtcCode) : List EventId := c.eventIds.filter (· ∈ c.dtcEvents d)

/-- The events with a context, in the order in which `EventConfiguration` creates them. -/
def eventCtxList : List EventId := c.dtcCodes.flatMap (getEventNodes c)

/-- The DTCs with a context: the first event of a DTC creates it. -/
def dtcCtxList : List DtcCode := c.dtcCodes.filter (getEventNodes c · ≠ [])

def dtcCode (e : EventId) : DtcCode := (c.dtcCodes.find? (e ∈ getEventNodes c ·)).getD 0

/-- The generated code counts the operation cycles by the events, into one byte. -/
def maxNumOfOperCycle : Nat := c.eventIds.length % 256

variable {c} {d : DtcCode} {e : EventId}

theorem mem_getEventNodes : e ∈ getEventNodes c d ↔ e ∈ c.eventIds ∧
      e ∈ c.dtcEvents d := by
  simp [getEventNodes]

theorem mem_eventCtxList : e ∈ eventCtxList c ↔
      ∃ d ∈ c.dtcCodes, e ∈ getEventNodes c d := by
  simp [eventCtxList]

theorem mem_dtcCtxList : d ∈ dtcCtxList c ↔ d ∈ c.dtcCodes ∧
      ∃ e, e ∈ getEventNodes c d := by
  rw [dtcCtxList, mem_filter, decide_eq_true_eq, ne_eq, eq_nil_iff_forall_not_mem]
  simp

theorem dtcCode_eq (hd : d ∈ c.dtcCodes) (he : e ∈ getEventNodes c d) : dtcCode c e = d := by
  unfold dtcCode
  cases hfind : c.dtcCodes.find? (e ∈ getEventNodes c ·) with
  | none =>
    rw [find?_eq_none] at hfind
    exact absurd (decide_eq_true he) (hfind d hd)
  | some d' =>
    have hd' : d' ∈ c.dtcCodes := mem_of_find?_eq_some hfind
    have he' : e ∈ getEventNodes c d' := by simpa using find?_some hfind
    exact c.one_dtc d' hd' d hd e (mem_getEventNodes.1 he').2 (mem_getEventNodes.1 he).2

/-- The context of an event refers to a DTC with a context, and that DTC lists the event. -/
theorem dtcCode_spec (he : e ∈ eventCtxList c) :
    dtcCode c e ∈ dtcCtxList c ∧ e ∈ getEventNodes c (dtcCode c e) := by
  obtain ⟨d, hd, hnode⟩ := mem_eventCtxList.1 he
  rw [dtcCode_eq hd hnode]
  exact ⟨mem_dtcCtxList.2 ⟨hd, e, hnode⟩, hnode⟩

theorem mem_eventCtxList_of_node (hd : d ∈ dtcCtxList c)
    (he : e ∈ getEventNodes c d) : e ∈ eventCtxList c :=
  mem_eventCtxList.2 ⟨d, (mem_dtcCtxList.1 hd).1, he⟩

theorem dtcCode_of_node (hd : d ∈ dtcCtxList c) (he : e ∈ getEventNodes c d) : dtcCode c e = d :=
  dtcCode_eq (mem_dtcCtxList.1 hd).1 he

theorem eventCtxList_mnemonic_inj {e' : EventId} (he : e ∈ eventCtxList c)
    (he' : e' ∈ eventCtxList c) (h : (c.event e).mnemonic = (c.event e').mnemonic) : e = e' := by
  obtain ⟨d, hd, hnode⟩ := mem_eventCtxList.1 he
  obtain ⟨d', hd', hnode'⟩ := mem_eventCtxList.1 he'
  exact c.mnemonic_inj e (mem_getEventNodes.1 hnode).1 e' (mem_getEventNodes.1 hnode').1 h

theorem dtcCtxList_nodup : (dtcCtxList c).Nodup :=
  List.Nodup.filter _ (c.dtcCodes_sorted.imp fun h => Nat.ne_of_lt h)

theorem getEventNodes_nodup (d : DtcCode) : (getEventNodes c d).Nodup :=
  List.Nodup.filter _ (c.eventIds_sorted.imp fun h => Nat.ne_of_lt h)

theorem eventCtxList_nodup : (eventCtxList c).Nodup := by
  have hcode : c.dtcCodes.Nodup := c.dtcCodes_sorted.imp fun h => Nat.ne_of_lt h
  rw [eventCtxList, nodup_flatMap]
  refine ⟨fun d _ => getEventNodes_nodup d, ?_⟩
  apply List.Pairwise.imp_of_mem (R := fun d d' => d ≠ d') ?_ hcode
  intro d d' hd hd' hne e he he'
  exact hne (c.one_dtc d hd d' hd' e (mem_getEventNodes.1 he).2 (mem_getEventNodes.1 he').2)

/-- No event is configured. -/
def noEvents : DemConf where
  eventIds := []
  event := fun _ => ⟨"", 0, 0, .monitorInternal, .freeze, ⟨[], []⟩⟩
  dtcCodes := []
  dtcEvents := fun _ => []
  occurrenceCounterProcessing := .testFailedBit
  eventIds_sorted := .nil
  dtcCodes_sorted := .nil
  mnemonic_inj := by simp
  one_dtc := by simp

end TelAF.DemConfiguration
