import TelAF.FwSyncRuns

/-!
# The two synchronisations against each other

Both synchronisations are to come out the same way, to fail where a partition cannot be
synchronised, and to have copied, on a success, all used blocks of each partition to its partner,
both with the same copies. This holds exactly if both run into a failure that they report, or if
the partitions of the banks match.
-/

namespace TelAF.FwUpdate

open TransitionRuns List

variable (d : Device)

/-- A partition of the booted bank and the one of the other bank that stands for it. -/
def Partner (bank : Bank) (p q : Partition) : Prop :=
  p ∈ d.partitions ∧ p.bank = bank ∧ q ∈ d.partitions ∧ isInactive bank q = true ∧
    q.isUbi = p.isUbi ∧ q.name = otherName d.layout p ∧ p.name = otherName d.layout q

def goodBlocks (name : Name) : List Nat :=
  let info := (d.flash.getMtdInfo name).2
  (List.range (info.size / info.eraseSize)).filter fun j => d.flash.checkMtdGoodBlock name j = (0, true)

/-- Whether the first page of the block is written. -/
def isUsed (name : Name) (j : Nat) : Bool :=
  let info := (d.flash.getMtdInfo name).2
  d.flash.readMtdPage name (j * (info.eraseSize / info.writeSize)) ≠ flashPageErased

/-- A copy of so many bytes takes all used blocks of the partition. -/
def Covers (p : Partition) (n : Nat) : Prop :=
  if p.isUbi then (d.flash.getUbiVolumeInfo p.name).2 ≤ n
  else ∀ j ∈ (goodBlocks d p.name).drop (n / (d.flash.getMtdInfo p.name).2.eraseSize),
    isUsed d p.name j = false

/-- Each partition of the other bank with a partner has received all used blocks of it. -/
def Complete (copies : List Copy) : Prop :=
  ∀ bank, d.booted = some bank → ∀ p q, Partner d bank p q →
    ∃ n, ⟨p.isUbi, p.name, q.name, n⟩ ∈ copies ∧ Covers d p n

/-- A partition of the other bank that cannot be sized or copied. -/
def UnfitDestination (q : Partition) : Prop :=
  ∀ n, destinationSize d q = .bytes n → copied d (copyTo d q (n / flashPageSize)) = false

structure Agreement : Prop where
  performed : (performBankSync d).1 = .success → Complete d (performBankSync d).2
  refused : ∀ bank, d.booted = some bank →
    ∀ p ∈ d.partitions, p.bank = bank → UnfitSource d p →
    (performBankSync d).1 = .fail
  synced : ∀ actions t o, exec (syncStep d) .initial actions = some t → t.outcome = some o →
    o = (performBankSync d).1 ∧
      (o = .success → Complete d t.copies ∧ ∀ c, c ∈ t.copies ↔ c ∈ (performBankSync d).2) ∧
      ∀ bank, d.booted = some bank → ∀ q ∈ d.partitions, isInactive bank q = true →
        UnfitDestination d q → o = .fail

/-- One of the partitions of the booted bank cannot be sized, closed or copied. -/
def PerformFails (bank : Bank) : Prop := ∃ p ∈ d.partitions, p.bank = bank ∧ UnfitSource d p

/-- The partitions of the other bank that can be sized, with their pages. -/
def sizedPartitions (bank : Bank) : List (Partition × Nat) := plan d bank d.partitions

/-- An MTD partition cannot be closed; or none can be sized and what is in the buffer does not name
a partition that can be copied; or one that can be sized cannot be copied, and there is a page in
total or the first one cannot be copied. -/
def SyncFails (bank : Bank) : Prop :=
  NotClosed d bank d.partitions ∨
    (sizedPartitions d bank = [] ∧
      ∀ p ∈ d.partitions, p.name = d.buffer → copied d (copyTo d p 0) = false) ∨
    ∃ x ∈ sizedPartitions d bank, copied d (copyOf d x) = false ∧
      (totalPages (sizedPartitions d bank) % 2 ^ 32 ≠ 0 ∨ (sizedPartitions d bank).head? = some x)

/-- Both can be sized, with as many bytes in whole pages, and be copied, with no used block after
an erased one. -/
def Matched (p q : Partition) : Prop :=
  ∃ n m, sourceSize d p = .bytes n ∧ destinationSize d q = .bytes m ∧
    m / flashPageSize * flashPageSize = n ∧
    copied d ⟨p.isUbi, p.name, q.name, n⟩ = true ∧ Covers d p n

/-- Each partition of either bank has a partner that it matches, and there is a page to copy. -/
structure Fits (bank : Bank) : Prop where
  sources : ∀ p ∈ d.partitions, p.bank = bank → ∃ q, Partner d bank p q ∧ Matched d p q
  destinations : ∀ q ∈ d.partitions, isInactive bank q = true →
    ∃ p, Partner d bank p q ∧ Matched d p q
  pages : totalPages (sizedPartitions d bank) % 2 ^ 32 ≠ 0

def SyncsAlike : Prop :=
  ∀ bank, d.booted = some bank → d.listed = true →
    (PerformFails d bank ∧ SyncFails d bank) ∨ Fits d bank

variable {d}
variable {bank : Bank}

theorem bankSync_known (hboot : d.booted = some bank) (hlstd : d.listed = true) :
    performBankSync d = performBankSyncFrom d bank d.partitions [] := by
  simp [performBankSync, hboot, hlstd]

theorem bankSync_success (hboot : d.booted = some bank)
    (hlstd : d.listed = true) (hfit : ¬ PerformFails d bank) :
    performBankSync d = (.success, d.partitions.filterMap (sourceCopy d bank)) := by
  rw [bankSync_known hboot hlstd, performBankSyncFrom_success d bank _ [] hfit]
  rfl

theorem bankSync_fail (hboot : d.booted = some bank)
    (hlstd : d.listed = true) (hunfi : PerformFails d bank) : (performBankSync d).1 = .fail := by
  rw [bankSync_known hboot hlstd]
  exact performBankSyncFrom_fail d bank _ [] hunfi

/-- The verdict is a failure exactly if the synchronisation finds one that it reports. -/
theorem verdict_fail_iff (hboot : d.booted = some bank)
    (hlstd : d.listed = true) : verdict d = .fail ↔ SyncFails d bank := by
  by_cases hclsd : NotClosed d bank d.partitions
  · simp [verdict, hboot, hclsd, SyncFails]
  rw [verdict_eq hboot hlstd hclsd]
  unfold SyncFails sizedPartitions
  simp only [hclsd, false_or]
  cases hplan : plan d bank d.partitions with
  | nil =>
    cases hfind : d.partitions.find? (fun p => decide (p.name = d.buffer)) with
    | none =>
      have hnone := find?_eq_none.1 hfind
      simp only [planVerdict, hfind, true_iff, true_and]
      left
      intro p hp hname
      exact absurd (decide_eq_true hname) (hnone p hp)
    | some p =>
      have hname : p.name = d.buffer := by simpa using find?_some hfind
      have hmem : p ∈ d.partitions := mem_of_find?_eq_some hfind
      have honly : ∀ q ∈ d.partitions, q.name = d.buffer → q = p := by
        intro q hq hqnam
        have hfin := find_name d.partitions (nodup_names d.layout) hq
        rw [hqnam, hfind] at hfin
        exact (Option.some.inj hfin).symm
      simp only [planVerdict, hfind, true_and, not_mem_nil, false_and, exists_false, or_false]
      constructor
      · intro hfail q hq hqnam
        rw [honly q hq hqnam]
        by_contra hgood
        rw [Bool.not_eq_false] at hgood
        rw [if_pos hgood] at hfail
        cases hfail
      · intro hbad
        have hp := hbad p hmem hname
        rw [hp]
        rfl
  | cons x rest =>
    simp only [planVerdict, reduceCtorEq, false_and, false_or, head?_cons, Option.some.injEq]
    by_cases hzero : totalPages (x :: rest) % 2 ^ 32 = 0
    · simp only [hzero, if_true, ne_eq, not_true_eq_false, false_or]
      cases hgood : copied d (copyOf d x) with
      | true =>
        simp only [if_true, reduceCtorEq, false_iff]
        intro h
        obtain ⟨y, -, hy, rfl⟩ := h
        rw [hgood] at hy
        cases hy
      | false =>
        simp only [Bool.false_eq_true, if_false, true_iff]
        exact ⟨x, mem_cons_self, hgood, rfl⟩
    simp only [hzero, if_false, ne_eq, not_false_eq_true, true_or, and_true]
    constructor
    · intro hfail
      by_contra hnone
      rw [if_pos] at hfail
      · cases hfail
      intro y hy
      by_contra hbad
      exact hnone ⟨y, hy, Bool.eq_false_iff.2 hbad⟩
    · intro h
      obtain ⟨y, hy, hbad⟩ := h
      rw [if_neg]
      intro hall
      rw [hall y hy] at hbad
      cases hbad

variable {s : Sync}

theorem round_step (hcrsh : s.crashed = false) (hruns : s.running = true) :
    syncStep d s .syncPartition = some (syncPartition d s) := by
  simp [syncStep, hcrsh, hruns]

theorem ends_of_round (hcrsh : s.crashed = false) (hruns : s.running = true)
    (hout : ∃ o, (syncPartition d s).outcome = some o) :
    ∃ actions t, exec (syncStep d) s actions = some t ∧ ∃ o, t.outcome = some o := by
  refine ⟨[.syncPartition], syncPartition d s, ?_, hout⟩
  simp [round_step hcrsh hruns]

theorem ends_of_running {done todo : List (Partition × Nat)}
    (h : Synced d (plan d bank d.partitions) s done todo) (hcrsh : s.crashed = false)
    (hruns : s.running = true) (hflag : ¬ s.context.paused ∧ ¬ s.context.cancel) :
    ∃ actions t, exec (syncStep d) s actions = some t ∧ ∃ o, t.outcome = some o := by
  induction todo generalizing s done with
  | nil =>
    apply ends_of_round hcrsh hruns
    unfold syncPartition
    cases done with
    | nil =>
      have hima : s.context.images = [] := h.images
      rw [hima]
      dsimp only [getImageForUpdate]
      rw [if_neg (by decide), if_pos hflag]
      cases d.partitions.find? (fun p => decide (p.name = d.buffer)) with
      | none => exact ⟨_, outcome_stop_fail hcrsh⟩
      | some p =>
        have htot : s.context.totalPage = 0 := by
          rw [h.total, ← h.split]
          rfl
        dsimp only [syncImage]
        split_ifs
        · rw [imageCopied, if_pos htot]
          exact ⟨.crashed, rfl⟩
        · exact ⟨_, outcome_stop_fail hcrsh⟩
    | cons y rest =>
      have hdone : (getImageForUpdate s.context.images d.buffer).1 = true := by
        rw [h.images]
        exact getImageForUpdate_done _ (by simp) _
      dsimp only
      rw [if_pos hdone]
      exact ⟨_, outcome_stop_success hcrsh⟩
  | cons x rest ih =>
    have himag := syncPartition_todo h hflag
    rw [syncImage_todo h] at himag
    by_cases hgood : copied d (copyOf d x) = true
    · rw [if_pos hgood, imageCopied] at himag
      by_cases hzero : s.context.totalPage = 0
      · apply ends_of_round hcrsh hruns
        rw [himag, if_pos hzero]
        exact ⟨.crashed, rfl⟩
      rw [if_neg hzero] at himag
      obtain ⟨actions, t, hrun, hout⟩ := ih (h.image hgood hzero) hcrsh hruns hflag
      refine ⟨.syncPartition :: actions, t, ?_, hout⟩
      rw [exec_cons, round_step hcrsh hruns, himag]
      exact hrun
    · apply ends_of_round hcrsh hruns
      rw [himag, if_neg hgood]
      exact ⟨_, outcome_stop_fail hcrsh⟩

theorem verdict_reached (d : Device) :
    ∃ actions t, exec (syncStep d) .initial actions = some t ∧ t.outcome = some (verdict d) := by
  have hsta : syncStep d .initial .startSync = some (startSync d .initial) := by
    simp [syncStep, Sync.initial]
  have hends : ∃ actions t, exec (syncStep d) .initial actions = some t ∧
      ∃ o, t.outcome = some o := by
    by_cases hgoes : ∃ bank, d.booted = some bank ∧ d.listed = true ∧
        ¬ NotClosed d bank d.partitions
    · obtain ⟨bank, hboot, hlstd, hclsd⟩ := hgoes
      obtain ⟨hsynd, hruns, hsame, hpaus, hcanc⟩ :=
        startSync_goes (s := .initial) hboot hlstd hclsd
      obtain ⟨actions, t, hrun, hout⟩ := ends_of_running hsynd hsame hruns
        ⟨by simp [hpaus], by simp [hcanc]⟩
      refine ⟨.startSync :: actions, t, ?_, hout⟩
      exact hrun
    have hfls : ∀ bank, d.booted = some bank → d.listed = true →
        NotClosed d bank d.partitions := by
      intro bank hboot hlstd
      by_contra hclsd
      exact hgoes ⟨bank, hboot, hlstd, hclsd⟩
    obtain ⟨-, t, hsame, hstop⟩ := startSync_fails (s := .initial) hfls
    refine ⟨[.startSync], startSync d .initial, ?_, .fail, ?_⟩
    · simp [hsta]
    · rw [hstop]
      exact outcome_stop_fail hsame
  obtain ⟨actions, t, hrun, o, hout⟩ := hends
  refine ⟨actions, t, hrun, ?_⟩
  rw [hout, (outcome_run d hrun hout).1]

theorem agreement_of_fail (hpfm : (performBankSync d).1 = .fail) (hverd : verdict d = .fail) :
    Agreement d where
  performed := by
    intro hsucc
    rw [hpfm] at hsucc
    cases hsucc
  refused := fun _ _ _ _ _ _ => hpfm
  synced := by
    intro actions t o hrun hout
    have ho : o = .fail := (outcome_run d hrun hout).1.trans hverd
    refine ⟨ho.trans hpfm.symm, ?_, fun _ _ _ _ _ _ => ho⟩
    intro hsucc
    rw [ho] at hsucc
    cases hsucc

theorem verdict_success (hboot : d.booted = some bank) (hlstd : d.listed = true)
    (hverd : verdict d = .success) : totalPages (sizedPartitions d bank) % 2 ^ 32 ≠ 0 := by
  by_cases hclsd : NotClosed d bank d.partitions
  · simp [verdict, hboot, hclsd] at hverd
  rw [verdict_eq hboot hlstd hclsd] at hverd
  unfold sizedPartitions
  intro hzero
  cases hplan : plan d bank d.partitions with
  | nil =>
    rw [hplan, planVerdict] at hverd
    split at hverd
    · cases hverd
    · split_ifs at hverd
  | cons x rest =>
    rw [hplan] at hverd hzero
    rw [planVerdict] at hverd
    split_ifs at hverd

theorem mem_sourceCopies {c : Copy} :
    c ∈ d.partitions.filterMap (sourceCopy d bank) ↔
      ∃ p ∈ d.partitions, p.bank = bank ∧ ∃ n, sourceSize d p = .bytes n ∧
        c = copyFrom d p n := by
  rw [mem_filterMap]
  constructor
  · intro h
    obtain ⟨p, hp, hcopy⟩ := h
    unfold sourceCopy at hcopy
    by_cases hbank : p.bank = bank
    · rw [if_pos hbank] at hcopy
      cases hsize : sourceSize d p with
      | bytes n =>
        rw [hsize] at hcopy
        exact ⟨p, hp, hbank, n, hsize, (Option.some.inj hcopy).symm⟩
      | unreadable | notClosed => simp [hsize] at hcopy
    · simp [hbank] at hcopy
  · intro h
    obtain ⟨p, hp, hbank, n, hsize, rfl⟩ := h
    exact ⟨p, hp, by simp [sourceCopy, hbank, hsize]⟩

variable {p : Partition}

theorem eq_of_name {q : Partition} (hp : p ∈ d.partitions) (hq : q ∈ d.partitions)
    (hname : p.name = q.name) : p = q := by
  have hfind := find_name d.partitions (nodup_names d.layout) hp
  rw [hname, find_name d.partitions (nodup_names d.layout) hq] at hfind
  exact (Option.some.inj hfind).symm

theorem copyOf_matched {q : Partition} (hpart : Partner d bank p q) {n m : Nat}
    (hbyt : m / flashPageSize * flashPageSize = n) :
    copyOf d (q, m / flashPageSize) = copyFrom d p n := by
  obtain ⟨-, -, -, -, hkind, hname, hsrc⟩ := hpart
  simp only [copyOf, copyTo, copyFrom, Copy.mk.injEq]
  exact ⟨hkind, hsrc.symm, hname, hbyt⟩

variable {x : Partition × Nat}

section Fits

variable {bank : Bank} (h : Fits d bank)
include h

theorem Fits.not_performFails : ¬ PerformFails d bank := by
  intro hfls
  obtain ⟨p, hp, hbank, hunfi⟩ := hfls
  obtain ⟨q, hpart, n, m, hsize, -, hbyt, hcopd, -⟩ := h.sources p hp hbank
  have hbad := hunfi n hsize
  rw [copyFrom, ← hpart.2.2.2.2.2.1, hcopd] at hbad
  cases hbad

theorem Fits.destination (hx : x ∈ sizedPartitions d bank) :
    ∃ p n, p ∈ d.partitions ∧ p.bank = bank ∧ sourceSize d p = .bytes n ∧
      copyOf d x = copyFrom d p n ∧ copied d (copyOf d x) = true := by
  obtain ⟨hmem, hinac, k, hk, hpage⟩ := (mem_plan d).1 hx
  obtain ⟨p, hpart, n, m, hsize, hdest, hbyt, hcopd, -⟩ :=
    h.destinations x.1 hmem hinac
  have hkm : k = m := by
    rw [hk] at hdest
    exact Sized.bytes.inj hdest
  have hsame : copyOf d x = copyFrom d p n := by
    rw [← copyOf_matched hpart hbyt, ← hkm, ← hpage]
  refine ⟨p, n, hpart.1, hpart.2.1, hsize, hsame, ?_⟩
  rw [hsame, copyFrom, ← hpart.2.2.2.2.2.1]
  exact hcopd

theorem Fits.not_notClosed : ¬ NotClosed d bank d.partitions := by
  intro hbad
  obtain ⟨q, hq, hinac, -, hsize⟩ := hbad
  obtain ⟨p, -, n, m, -, hdest, -⟩ := h.destinations q hq hinac
  rw [hsize] at hdest
  cases hdest

theorem Fits.verdict (hboot : d.booted = some bank) (hlstd : d.listed = true) :
    verdict d = .success := by
  rw [verdict_eq hboot hlstd h.not_notClosed]
  apply planVerdict_success
  · intro hemp
    apply h.pages
    rw [sizedPartitions, hemp]
    rfl
  · intro x hx
    obtain ⟨p, n, -, -, -, -, hcopd⟩ := h.destination hx
    exact hcopd
  · exact h.pages

theorem Fits.copies (c : Copy) :
    c ∈ (sizedPartitions d bank).map (copyOf d) ↔
      c ∈ d.partitions.filterMap (sourceCopy d bank) := by
  rw [mem_sourceCopies]
  constructor
  · intro hc
    obtain ⟨x, hx, rfl⟩ := mem_map.1 hc
    obtain ⟨p, n, hp, hbank, hsize, hsame, -⟩ := h.destination hx
    exact ⟨p, hp, hbank, n, hsize, hsame⟩
  intro hc
  obtain ⟨p, hp, hbank, n, hsize, rfl⟩ := hc
  obtain ⟨q, hpart, n', m, hsize', hdest, hbyt, -⟩ := h.sources p hp hbank
  have hn : n' = n := by
    rw [hsize] at hsize'
    exact (Sized.bytes.inj hsize').symm
  rw [← copyOf_matched hpart (hn ▸ hbyt)]
  apply mem_map_of_mem
  exact (mem_plan d).2 ⟨hpart.2.2.1, hpart.2.2.2.1, m, hdest, rfl⟩

theorem Fits.complete (hboot : d.booted = some bank) :
    Complete d (d.partitions.filterMap (sourceCopy d bank)) := by
  intro bank' hboot' p q hpart
  obtain rfl : bank' = bank := by
    rw [hboot] at hboot'
    exact (Option.some.inj hboot').symm
  obtain ⟨q', hpart', n, m, hsize, -, -, -, hcove⟩ := h.sources p hpart.1 hpart.2.1
  refine ⟨n, mem_sourceCopies.2 ⟨p, hpart.1, hpart.2.1, n, hsize, ?_⟩, hcove⟩
  rw [copyFrom, ← hpart.2.2.2.2.2.1]

theorem Fits.agreement (hboot : d.booted = some bank) (hlstd : d.listed = true) :
    Agreement d := by
  have hpfm := bankSync_success hboot hlstd h.not_performFails
  constructor
  · intro _
    rw [hpfm]
    exact h.complete hboot
  · intro bank' hboot' p hp hbank hunfi
    obtain rfl : bank' = bank := by
      rw [hboot] at hboot'
      exact (Option.some.inj hboot').symm
    exact absurd ⟨p, hp, hbank, hunfi⟩ h.not_performFails
  intro actions t o hrun hout
  obtain ⟨ho, hcops⟩ := outcome_run d hrun hout
  have hsucc : o = .success := ho.trans (h.verdict hboot hlstd)
  obtain ⟨bank', hboot', hcops⟩ := hcops hsucc
  obtain rfl : bank' = bank := by
    rw [hboot] at hboot'
    exact (Option.some.inj hboot').symm
  have hsame : ∀ c, c ∈ t.copies ↔ c ∈ (performBankSync d).2 := by
    intro c
    rw [hcops, hpfm]
    exact h.copies c
  refine ⟨hsucc.trans (by rw [hpfm]), fun _ => ⟨?_, hsame⟩, ?_⟩
  · intro bank'' hboot'' p q hpart
    obtain ⟨n, hmem, hcove⟩ := h.complete hboot bank'' hboot'' p q hpart
    refine ⟨n, (hsame _).2 ?_, hcove⟩
    rw [hpfm]
    exact hmem
  intro bank'' hboot'' q hq hinac hunfi
  obtain rfl : bank'' = bank' := by
    rw [hboot] at hboot''
    exact (Option.some.inj hboot'').symm
  obtain ⟨p, hpart, n, m, -, hdest, hbyt, hcopd, -⟩ := h.destinations q hq hinac
  have hbad := hunfi m hdest
  change copied d (copyOf d (q, m / flashPageSize)) = false at hbad
  rw [copyOf_matched hpart hbyt, copyFrom, ← hpart.2.2.2.2.2.1, hcopd] at hbad
  cases hbad

end Fits

section Agreement

variable {bank : Bank} (h : Agreement d) (hboot : d.booted = some bank)
variable (hlstd : d.listed = true) (hfit : ¬ PerformFails d bank)
include h hboot hlstd hfit

/-- A pair with the same copy matches, for it has received all used blocks. -/
theorem Agreement.matched {n : Nat} (hp : p ∈ d.partitions)
    (hbank : p.bank = bank) (hsize : sourceSize d p = .bytes n)
    (hx : x ∈ sizedPartitions d bank) (hsame : copyOf d x = copyFrom d p n)
    (hcopd : copied d (copyFrom d p n) = true) : Partner d bank p x.1 ∧ Matched d p x.1 := by
  have hpfm := bankSync_success hboot hlstd hfit
  obtain ⟨hmem, hinac, m, hdest, hpage⟩ := (mem_plan d).1 hx
  simp only [copyOf, copyTo, copyFrom, Copy.mk.injEq] at hsame
  obtain ⟨hkind, hsrc, hname, hbyt⟩ := hsame
  have hpart : Partner d bank p x.1 := ⟨hp, hbank, hmem, hinac, hkind, hname, hsrc.symm⟩
  have hcomp := h.performed (by rw [hpfm]) bank hboot p x.1 hpart
  rw [hpfm] at hcomp
  obtain ⟨n', hcopy, hcove⟩ := hcomp
  obtain ⟨p', hp', -, n'', hsize', hcopy⟩ := mem_sourceCopies.1 hcopy
  simp only [copyFrom, Copy.mk.injEq] at hcopy
  obtain rfl : p = p' := eq_of_name hp hp' hcopy.2.1
  have hn : n' = n := by
    rw [hcopy.2.2.2]
    rw [hsize] at hsize'
    exact (Sized.bytes.inj hsize').symm
  refine ⟨hpart, n, m, hsize, hdest, ?_, ?_, hn ▸ hcove⟩
  · rw [← hpage]
    exact hbyt
  · rw [hname]
    exact hcopd

theorem Agreement.fits : Fits d bank := by
  have hpfm := bankSync_success hboot hlstd hfit
  obtain ⟨actions, t, hrun, hout⟩ := verdict_reached d
  obtain ⟨hverd, hcops, hunfi⟩ := h.synced actions t _ hrun hout
  have hsucc : verdict d = .success := by rw [hverd, hpfm]
  obtain ⟨-, hsame⟩ := hcops hsucc
  obtain ⟨bank', hboot', hplan⟩ := (outcome_run d hrun hout).2 hsucc
  obtain rfl : bank' = bank := by
    rw [hboot] at hboot'
    exact (Option.some.inj hboot').symm
  have hsrc : ∀ p ∈ d.partitions, p.bank = bank' →
      ∃ n, sourceSize d p = .bytes n ∧ copied d (copyFrom d p n) = true := by
    intro p hp hbank
    by_contra hnone
    apply hfit
    refine ⟨p, hp, hbank, ?_⟩
    intro n hsize
    rw [← Bool.not_eq_true]
    exact fun hcopd => hnone ⟨n, hsize, hcopd⟩
  constructor
  · intro p hp hbank
    obtain ⟨n, hsize, hcopd⟩ := hsrc p hp hbank
    have hcopy : copyFrom d p n ∈ t.copies := by
      rw [hsame, hpfm]
      exact mem_sourceCopies.2 ⟨p, hp, hbank, n, hsize, rfl⟩
    rw [hplan] at hcopy
    obtain ⟨x, hx, heq⟩ := mem_map.1 hcopy
    exact ⟨x.1, h.matched hboot hlstd hfit hp hbank hsize hx heq hcopd⟩
  · intro q hq hinac
    have hq' : ∃ m, destinationSize d q = .bytes m := by
      by_contra hnone
      have hbad : verdict d = .fail := by
        apply hunfi bank' hboot q hq hinac
        exact fun m hsize => absurd ⟨m, hsize⟩ hnone
      rw [hsucc] at hbad
      cases hbad
    obtain ⟨m, hdest⟩ := hq'
    have hx : (q, m / flashPageSize) ∈ sizedPartitions d bank' :=
      (mem_plan d).2 ⟨hq, hinac, m, hdest, rfl⟩
    have hcopy : copyOf d (q, m / flashPageSize) ∈ t.copies := by
      rw [hplan]
      exact mem_map_of_mem hx
    rw [hsame, hpfm] at hcopy
    obtain ⟨p, hp, hbank, n, hsize, heq⟩ := mem_sourceCopies.1 hcopy
    obtain ⟨n', hsize', hcopd⟩ := hsrc p hp hbank
    obtain rfl : n' = n := by
      rw [hsize] at hsize'
      exact (Sized.bytes.inj hsize').symm
    exact ⟨p, h.matched hboot hlstd hfit hp hbank hsize hx heq hcopd⟩
  · exact verdict_success hboot hlstd hsucc

end Agreement

/-- The synchronisations agree exactly if both run into a failure that they report, or if the
partitions of the banks match. -/
theorem syncs_agree_iff (d : Device) : Agreement d ↔ SyncsAlike d := by
  constructor
  · intro h bank hboot hlstd
    by_cases hfails : PerformFails d bank
    · left
      refine ⟨hfails, (verdict_fail_iff hboot hlstd).1 ?_⟩
      obtain ⟨actions, t, hrun, hout⟩ := verdict_reached d
      rw [(h.synced actions t _ hrun hout).1]
      exact bankSync_fail hboot hlstd hfails
    · right
      exact h.fits hboot hlstd hfails
  · intro h
    rcases hboot : d.booted with _ | bank
    · exact agreement_of_fail (by simp [performBankSync, hboot]) (by simp [verdict, hboot])
    by_cases hlstd : d.listed = true
    · obtain ⟨hperform, hsync⟩ | hfits := h bank hboot hlstd
      · exact agreement_of_fail (bankSync_fail hboot hlstd hperform)
          ((verdict_fail_iff hboot hlstd).2 hsync)
      · exact hfits.agreement hboot hlstd
    · exact agreement_of_fail (by simp [performBankSync, hboot, hlstd])
        (by simp [verdict, hboot, hlstd])

def oneBlockUsed : MtdInfo where
  size := 0x80000
  eraseSize := 0x40000
  writeSize := 0x1000
  erase_pos := by decide
  write_pos := by decide

/-- Nothing fails but for the volume that cannot be opened. -/
def lockedFlash (locked : Name) : Flash where
  openUbiVolume name := if name = locked then -1 else 0
  getUbiVolumeInfo _ := (0, 0x3E000)
  closeUbiVolume _ := 0
  copyUbiVolume _ _ _ _ := 0
  openMtd _ := 0
  getMtdInfo _ := (0, oneBlockUsed)
  checkMtdGoodBlock _ _ := (0, true)
  readMtdPage _ page := if page = 0 then 0 else flashPageErased
  closeMtd _ := 0
  copyMtd _ _ _ := 0

def lockedDevice : Device where
  layout :=
    { mtd := ["boot".toList, "boot_b".toList]
      ubi := ["rootfs_a".toList, "rootfs_b".toList]
      nameMaxBytes := 32
      nodup := by decide }
  listed := true
  booted := some .a
  booted_known := by decide
  flash := lockedFlash "rootfs_b".toList
  buffer := []

/-- The volume of the other bank cannot be opened and is left out, and the synchronisation is
reported as a success. -/
theorem skipped_volume : ¬ ∀ d, Agreement d := by
  intro hagree
  have hrun : (exec (syncStep lockedDevice) .initial [.startSync, .syncPartition, .syncPartition]).map
      Sync.outcome = some (some .success) := by decide +kernel
  obtain ⟨t, hrun, hout⟩ := Option.map_eq_some_iff.1 hrun
  obtain ⟨-, -, hunfit⟩ := (hagree lockedDevice).synced _ t _ hrun hout
  have hlocked : destinationSize lockedDevice ⟨"rootfs_b".toList, .b, true⟩ = .unreadable := by
    decide +kernel
  have hbad := hunfit .a rfl ⟨"rootfs_b".toList, .b, true⟩ (by decide +kernel) (by decide)
    (fun n hsize => by rw [hlocked] at hsize; cases hsize)
  cases hbad

end TelAF.FwUpdate
