import Mathlib.Algebra.BigOperators.Group.List.Basic
import TelAF.FwSync

/-!
# How synchronisations come out

The synchronisation from the booted bank fails if one of its partitions cannot be sized, closed
or copied. The one to the other bank follows a plan, the partitions that can be sized with their
pages. However often it is paused, it comes out as its plan says, and a success has copied all of
the plan.
-/

namespace TelAF.FwUpdate

open TransitionRuns Sync List Option Prod Bool

variable (d : Device)

/-- The partition cannot be sized, closed or copied. -/
def UnfitSource (p : Partition) : Prop :=
  ∀ n, sourceSize d p = .bytes n → copied d (copyFrom d p n) = false

def sourceCopy (bank : Bank) (p : Partition) : Option Copy :=
  if p.bank = bank then
    match sourceSize d p with
    | .bytes n => some (copyFrom d p n)
    | .unreadable | .notClosed => none
  else none

theorem performBankSyncFrom_fail (bank : Bank) (partitions : List Partition) (copies : List Copy)
    (hunfi : ∃ p ∈ partitions, p.bank = bank ∧ UnfitSource d p) :
    (performBankSyncFrom d bank partitions copies).1 = .fail := by
  induction partitions generalizing copies with
  | nil =>
    obtain ⟨p, hp, -⟩ := hunfi
    exact absurd hp not_mem_nil
  | cons p rest ih =>
    unfold performBankSyncFrom
    by_cases hbank : p.bank = bank
    · rw [if_pos hbank]
      cases hsize : sourceSize d p with
      | unreadable | notClosed => rfl
      | bytes n =>
        dsimp only
        by_cases hcopd : copied d (copyFrom d p n) = true
        · rw [if_pos hcopd]
          apply ih
          obtain ⟨q, hq, hqban, hunfi⟩ := hunfi
          obtain rfl | hq := mem_cons.1 hq
          · rw [hunfi n hsize] at hcopd
            cases hcopd
          · exact ⟨q, hq, hqban, hunfi⟩
        · rw [if_neg hcopd]
    · rw [if_neg hbank]
      apply ih
      obtain ⟨q, hq, hqban, hunfi⟩ := hunfi
      obtain rfl | hq := mem_cons.1 hq
      · exact absurd hqban hbank
      · exact ⟨q, hq, hqban, hunfi⟩

theorem performBankSyncFrom_success (bank : Bank) (partitions : List Partition)
    (copies : List Copy) (hfit : ¬ ∃ p ∈ partitions, p.bank = bank ∧ UnfitSource d p) :
    performBankSyncFrom d bank partitions copies =
      (.success, copies ++ partitions.filterMap (sourceCopy d bank)) := by
  induction partitions generalizing copies with
  | nil => simp [performBankSyncFrom]
  | cons p rest ih =>
    have hrest : ¬ ∃ p ∈ rest, p.bank = bank ∧ UnfitSource d p := by
      intro hunfi
      obtain ⟨q, hq, hunfi⟩ := hunfi
      exact hfit ⟨q, mem_cons_of_mem p hq, hunfi⟩
    by_cases hbank : p.bank = bank
    · have hp : ∃ n, sourceSize d p = .bytes n ∧ copied d (copyFrom d p n) = true := by
        by_contra hnone
        apply hfit
        refine ⟨p, mem_cons_self, hbank, ?_⟩
        intro n hsize
        cases hcopd : copied d (copyFrom d p n) with
        | false => rfl
        | true => exact absurd ⟨n, hsize, hcopd⟩ hnone
      obtain ⟨n, hsize, hcopd⟩ := hp
      have hcopy : sourceCopy d bank p = some (copyFrom d p n) := by simp [sourceCopy, hbank, hsize]
      simp [performBankSyncFrom, hbank, hsize, hcopd, ih _ hrest, hcopy]
    · have hcopy : sourceCopy d bank p = none := by simp [sourceCopy, hbank]
      simp [performBankSyncFrom, hbank, ih _ hrest, hcopy]

def destinationPages (bank : Bank) (p : Partition) : Option (Partition × Nat) :=
  if isInactive bank p then
    match destinationSize d p with
    | .bytes n => some (p, n / flashPageSize)
    | .unreadable | .notClosed => none
  else none

/-- The partitions that can be sized, with their pages. -/
def plan (bank : Bank) (partitions : List Partition) : List (Partition × Nat) :=
  partitions.filterMap (destinationPages d bank)

def planned (x : Partition × Nat) : Planned := (x.1.name, x.2)

def totalPages (xs : List (Partition × Nat)) : Nat := (xs.map Prod.snd).sum

/-- An MTD partition that is read but cannot be closed. -/
def NotClosed (bank : Bank) (partitions : List Partition) : Prop :=
  ∃ p ∈ partitions, isInactive bank p = true ∧ p.isUbi = false ∧
    destinationSize d p = .notClosed
deriving Decidable

theorem destinationPages_some {bank : Bank} {p : Partition} {x : Partition × Nat} :
    destinationPages d bank p = some x ↔ isInactive bank p = true ∧
      ∃ n, destinationSize d p = .bytes n ∧ x = (p, n / flashPageSize) := by
  unfold destinationPages
  by_cases hinac : isInactive bank p = true
  · rw [if_pos hinac]
    cases hsize : destinationSize d p <;> simp [hinac, eq_comm]
  · rw [if_neg hinac]
    simp [hinac]

theorem mem_plan {bank : Bank} {partitions : List Partition} {x : Partition × Nat} :
    x ∈ plan d bank partitions ↔ x.1 ∈ partitions ∧ isInactive bank x.1 = true ∧
      ∃ n, destinationSize d x.1 = .bytes n ∧ x.2 = n / flashPageSize := by
  rw [plan, mem_filterMap]
  constructor
  · intro h
    obtain ⟨p, hp, hpag⟩ := h
    obtain ⟨hinac, n, hsize, rfl⟩ := (destinationPages_some d).1 hpag
    exact ⟨hp, hinac, n, hsize, rfl⟩
  · intro h
    obtain ⟨hp, hinac, n, hsize, hpag⟩ := h
    refine ⟨x.1, hp, (destinationPages_some d).2 ⟨hinac, n, hsize, ?_⟩⟩
    rw [← hpag]

theorem partitions_plan (bank : Bank) (partitions : List Partition) :
    ((plan d bank partitions).map fst).Sublist partitions := by
  induction partitions with
  | nil => exact List.Sublist.slnil
  | cons p rest ih =>
    rw [plan, filterMap_cons]
    cases hpag : destinationPages d bank p with
    | none => exact ih.cons p
    | some x =>
      obtain ⟨-, n, -, rfl⟩ := (destinationPages_some d).1 hpag
      exact ih.cons_cons p

theorem nodup_planned (bank : Bank) (partitions : List Partition)
    (hnd : (partitions.map Partition.name).Nodup) :
    (((plan d bank partitions).map planned).map fst).Nodup := by
  have hsub := ((partitions_plan d bank partitions).map Partition.name).nodup hnd
  simpa [Function.comp_def, planned] using hsub

theorem initImages_notClosed (bank : Bank) (partitions : List Partition) (images : List Image)
    (total : Nat) (hbad : NotClosed d bank partitions) :
    (initImages d bank partitions images total).2 = none := by
  induction partitions generalizing images total with
  | nil =>
    obtain ⟨p, hp, -⟩ := hbad
    exact absurd hp not_mem_nil
  | cons p rest ih =>
    have hrest : (isInactive bank p = true → p.isUbi = false → destinationSize d p ≠ .notClosed) →
        NotClosed d bank rest := by
      intro hgood
      obtain ⟨q, hq, hinac, hmtd, hsize⟩ := hbad
      obtain rfl | hq := mem_cons.1 hq
      · exact absurd hsize (hgood hinac hmtd)
      · exact ⟨q, hq, hinac, hmtd, hsize⟩
    unfold initImages
    by_cases hinac : isInactive bank p = true
    · rw [if_pos hinac]
      cases hsize : destinationSize d p with
      | bytes n | unreadable => exact ih _ _ (hrest fun _ _ h => by rw [hsize] at h; cases h)
      | notClosed =>
        by_cases hubi : p.isUbi = true
        · rw [if_pos hubi]
          exact ih _ _ (hrest fun _ hmtd => by rw [hubi] at hmtd; cases hmtd)
        · rw [if_neg hubi]
    · rw [if_neg hinac]
      exact ih _ _ (hrest fun h => absurd h hinac)

theorem initImages_planned (bank : Bank) (partitions : List Partition)
    (before : List (Partition × Nat)) (hgood : ¬ NotClosed d bank partitions)
    (hnd : (((before ++ plan d bank partitions).map planned).map fst).Nodup) :
    initImages d bank partitions (progress [] (before.map planned)) (totalPages before % 2 ^ 32) =
      (progress [] ((before ++ plan d bank partitions).map planned),
        some (totalPages (before ++ plan d bank partitions) % 2 ^ 32)) := by
  induction partitions generalizing before with
  | nil => simp [initImages, plan]
  | cons p rest ih =>
    have hrest : ¬ NotClosed d bank rest := by
      intro h
      obtain ⟨q, hq, hbad⟩ := h
      exact hgood ⟨q, mem_cons_of_mem p hq, hbad⟩
    have hskip : destinationPages d bank p = none →
        plan d bank (p :: rest) = plan d bank rest := by
      intro hnone
      rw [plan, filterMap_cons, hnone]
      rfl
    unfold initImages
    by_cases hinac : isInactive bank p = true
    · rw [if_pos hinac]
      cases hsize : destinationSize d p with
      | bytes n =>
        have hsome : destinationPages d bank p = some (p, n / flashPageSize) :=
          (destinationPages_some d).2 ⟨hinac, n, hsize, rfl⟩
        have hplan : plan d bank (p :: rest) = (p, n / flashPageSize) :: plan d bank rest := by
          rw [plan, filterMap_cons, hsome]
          rfl
        have hspl : before ++ plan d bank (p :: rest) =
            (before ++ [(p, n / flashPageSize)]) ++ plan d bank rest := by
          rw [hplan, append_assoc, singleton_append]
        have hnew : (planned (p, n / flashPageSize)).1 ∉ (before.map planned).map fst := by
          rw [hplan, map_append, map_append] at hnd
          intro hmem
          exact (nodup_append.1 hnd).2.2 _ hmem _ mem_cons_self rfl
        have hset := plan_image (before.map planned) (planned (p, n / flashPageSize)) hnew
        have htot : (totalPages before % 2 ^ 32 + n / flashPageSize) % 2 ^ 32 =
            totalPages (before ++ [(p, n / flashPageSize)]) % 2 ^ 32 := by
          simp [totalPages]
        rw [hspl] at hnd ⊢
        have hih := ih (before ++ [(p, n / flashPageSize)]) hrest hnd
        rw [map_append] at hih
        dsimp only [planned] at hset ⊢
        rw [hset, htot]
        exact hih
      | unreadable =>
        have hnone : destinationPages d bank p = none := by
          simp [destinationPages, hsize]
        rw [hskip hnone] at hnd ⊢
        exact ih before hrest hnd
      | notClosed =>
        have hnone : destinationPages d bank p = none := by
          simp [destinationPages, hsize]
        have hubi : p.isUbi = true := by
          cases hubi : p.isUbi with
          | true => rfl
          | false => exact absurd ⟨p, mem_cons_self, hinac, hubi, hsize⟩ hgood
        rw [hskip hnone] at hnd ⊢
        rw [if_pos hubi]
        exact ih before hrest hnd
    · have hnone : destinationPages d bank p = none := by simp [destinationPages, hinac]
      rw [if_neg hinac]
      rw [hskip hnone] at hnd ⊢
      exact ih before hrest hnd

def copyOf (x : Partition × Nat) : Copy := copyTo d x.1 x.2

/-- Without an image the buffer is taken for a name, and with nothing but empty images the percent
is divided by zero. -/
def planVerdict : List (Partition × Nat) → Outcome
  | [] =>
    match d.partitions.find? (·.name = d.buffer) with
    | none => .fail
    | some p => if copied d (copyTo d p 0) then .crashed else .fail
  | x :: rest =>
    if totalPages (x :: rest) % 2 ^ 32 = 0 then
      if copied d (copyOf d x) then .crashed else .fail
    else if ∀ y ∈ x :: rest, copied d (copyOf d y) = true then .success
    else .fail

def verdict : Outcome :=
  match d.booted with
  | none => .fail
  | some bank =>
    if ¬ d.listed then .fail
    else if NotClosed d bank d.partitions then .fail
    else planVerdict d (plan d bank d.partitions)

structure Synced (xs : List (Partition × Nat)) (s : Sync) (done todo : List (Partition × Nat)) :
    Prop where
  split : done ++ todo = xs
  images : s.context.images = progress (done.map planned) (todo.map planned)
  total : s.context.totalPage = totalPages xs % 2 ^ 32
  copies : s.copies = done.map (copyOf d)
  copied : ∀ x ∈ done, copied d (copyOf d x) = true
  some_page : done ≠ [] → totalPages xs % 2 ^ 32 ≠ 0

/-- A synchronisation that goes on or is paused. -/
def Goes (s : Sync) : Prop := s.running = true ∨ s.state = .syncPaused

/-- It came out as it had to, and a success has copied the plan. -/
def Ended (s : Sync) (o : Outcome) : Prop :=
  o = verdict d ∧ (o = .success →
    ∃ bank, d.booted = some bank ∧ s.copies = (plan d bank d.partitions).map (copyOf d))

structure SyncInv (s : Sync) : Prop where
  goes : s.crashed = false → Goes s → ∃ bank, d.booted = some bank ∧ d.listed = true ∧
    ¬ NotClosed d bank d.partitions ∧
      ∃ done todo, Synced d (plan d bank d.partitions) s done todo
  ended : ∀ o, s.outcome = some o → Ended d s o

theorem syncInv_initial : SyncInv d .initial where
  goes := by simp [Goes, initial]
  ended := by simp [outcome, initial]

variable {t : Sync}

section Steps

variable {d} {s : Sync}

/-! ### Stops -/

section

variable (hcrsh : s.crashed = false)
include hcrsh

theorem outcome_stop_fail : (s.stop .syncFail).outcome = some .fail := by
  simp [outcome, stop, updateProgress, hcrsh]

theorem outcome_stop_success : (s.stop .syncSuccess).outcome = some .success := by
  simp [outcome, stop, updateProgress, hcrsh]

theorem SyncInv.fail (hverd : verdict d = .fail) : SyncInv d (s.stop .syncFail) where
  goes := by simp [Goes, stop, updateProgress]
  ended := by
    intro o ho
    rw [outcome_stop_fail hcrsh] at ho
    cases ho
    exact ⟨hverd.symm, fun h => by cases h⟩

theorem SyncInv.cancelled : SyncInv d (s.stop .cancelled) where
  goes := by simp [Goes, stop, updateProgress]
  ended := by simp [outcome, stop, updateProgress, hcrsh]

end

theorem SyncInv.crash (hverd : verdict d = .crashed) : SyncInv d s.crash where
  goes := fun hnot => by cases hnot
  ended := by
    intro o ho
    cases ho
    exact ⟨hverd.symm, fun h => by cases h⟩

variable {xs : List (Partition × Nat)}
variable {done todo : List (Partition × Nat)}

/-- The context is kept when the synchronisation is paused or resumed. -/
theorem Synced.congr (h : Synced d xs s done todo) (himag : t.context.images = s.context.images)
    (htot : t.context.totalPage = s.context.totalPage) (hcops : t.copies = s.copies) :
    Synced d xs t done todo where
  split := h.split
  images := himag.trans h.images
  total := htot.trans h.total
  copies := hcops.trans h.copies
  copied := h.copied
  some_page := h.some_page

/-! ### Verdicts of plans -/

theorem planVerdict_fail {x : Partition × Nat} (hbad : copied d (copyOf d x) = false)
    (hpage : done ≠ [] → totalPages (done ++ x :: todo) % 2 ^ 32 ≠ 0) :
    planVerdict d (done ++ x :: todo) = .fail := by
  rcases done with _ | ⟨y, rest⟩
  · simp [planVerdict, hbad]
  have hsome := hpage (by simp)
  rw [cons_append] at hsome ⊢
  have hnot : ¬ ∀ z ∈ y :: (rest ++ x :: todo), copied d (copyOf d z) = true := by
    intro hall
    have hx := hall x (by simp)
    rw [hbad] at hx
    cases hx
  rw [planVerdict, if_neg hsome, if_neg hnot]

theorem planVerdict_crashed {x : Partition × Nat} (hgood : copied d (copyOf d x) = true)
    (hpage : done ≠ [] → totalPages (done ++ x :: todo) % 2 ^ 32 ≠ 0)
    (hzero : totalPages (done ++ x :: todo) % 2 ^ 32 = 0) :
    planVerdict d (done ++ x :: todo) = .crashed := by
  cases done with
  | nil =>
    rw [nil_append] at hzero ⊢
    rw [planVerdict, if_pos hzero, if_pos hgood]
  | cons y rest => exact absurd hzero (hpage (by simp))

theorem planVerdict_success (hsome : xs ≠ [])
    (hall : ∀ x ∈ xs, copied d (copyOf d x) = true) (hpage : totalPages xs % 2 ^ 32 ≠ 0) :
    planVerdict d xs = .success := by
  cases xs with
  | nil => exact absurd rfl hsome
  | cons x rest => rw [planVerdict, if_neg hpage, if_pos hall]

theorem verdict_eq {bank : Bank} (hboot : d.booted = some bank) (hlstd : d.listed = true)
    (hclsd : ¬ NotClosed d bank d.partitions) :
    verdict d = planVerdict d (plan d bank d.partitions) := by
  simp [verdict, hboot, hlstd, hclsd]

/-! ### Rounds of the loop -/

theorem find_name (partitions : List Partition) (hnd : (partitions.map Partition.name).Nodup)
    {p : Partition} (hp : p ∈ partitions) :
    partitions.find? (fun q => decide (q.name = p.name)) = some p := by
  induction partitions with
  | nil => exact absurd hp not_mem_nil
  | cons q rest ih =>
    rw [map_cons, nodup_cons] at hnd
    obtain rfl | hp := mem_cons.1 hp
    · simp
    have hne : q.name ≠ p.name := by
      intro hname
      exact hnd.1 (hname ▸ mem_map_of_mem hp)
    rw [find?_cons_of_neg (by simp [hne])]
    exact ih hnd.2 hp

section Round

variable {bank : Bank} {done todo : List (Partition × Nat)} {x : Partition × Nat}

section

variable (h : Synced d (plan d bank d.partitions) s done (x :: todo))
include h

theorem syncPartition_todo (hflag : ¬ s.context.paused ∧ ¬ s.context.cancel) :
    syncPartition d s = syncImage d s x.1 := by
  have hnext : getImageForUpdate s.context.images d.buffer = (false, x.1.name) := by
    rw [h.images]
    exact getImageForUpdate_todo _ _ (planned x) _
  have hplan : x ∈ plan d bank d.partitions := by
    rw [← h.split]
    simp
  have hmem : x.1 ∈ d.partitions := ((mem_plan d).1 hplan).1
  have hfind := find_name d.partitions (nodup_names d.layout) hmem
  unfold syncPartition
  rw [hnext]
  dsimp only
  rw [if_neg (by decide), if_pos hflag, hfind]

theorem syncImage_todo :
    syncImage d s x.1 =
      if copied d (copyOf d x) then imageCopied d s x.1 x.2 else s.stop .syncFail := by
  have hnd := nodup_planned d bank d.partitions (nodup_names d.layout)
  rw [← h.split, map_append] at hnd
  have hpag : getImagePageNumber s.context.images x.1.name = x.2 := by
    rw [h.images]
    exact getImagePageNumber_progress _ _ (planned x) hnd
  unfold syncImage
  rw [hpag]
  rfl

theorem Synced.image
    (hgood : FwUpdate.copied d (copyOf d x) = true) (hpage : s.context.totalPage ≠ 0) :
    Synced d (plan d bank d.partitions)
      (imageSynced { s with copies := s.copies ++ [copyOf d x] } x.1 x.2) (done ++ [x]) todo where
  split := by rw [← h.split, append_assoc, singleton_append]
  images := by
    have hnd := nodup_planned d bank d.partitions (nodup_names d.layout)
    rw [← h.split, map_append] at hnd
    change setImageStatus s.context.images x.1.name true = _
    rw [h.images, map_append]
    exact update_image _ _ (planned x) hnd
  total := h.total
  copies := by
    change s.copies ++ [copyOf d x] = _
    rw [h.copies, map_append, map_singleton]
  copied := by
    intro y hy
    obtain hy | hy := mem_append.1 hy
    · exact h.copied y hy
    · rw [mem_singleton.1 hy]
      exact hgood
  some_page := fun _ => h.total ▸ hpage

end

variable (hboot : d.booted = some bank) (hlstd : d.listed = true)
variable (hclsd : ¬ NotClosed d bank d.partitions) (hcrsh : s.crashed = false)
include hboot hlstd hclsd hcrsh

/-- The next image is copied, unless the copy fails or the percent cannot be computed. -/
theorem SyncInv.image (h : Synced d (plan d bank d.partitions) s done (x :: todo))
    (hruns : s.running = true) : SyncInv d (syncImage d s x.1) := by
  have hverd := verdict_eq hboot hlstd hclsd
  rw [← h.split] at hverd
  have hpage := h.some_page
  rw [← h.split] at hpage
  rw [syncImage_todo h]
  by_cases hgood : copied d (copyOf d x) = true
  · rw [if_pos hgood, imageCopied]
    by_cases hzero : s.context.totalPage = 0
    · rw [if_pos hzero]
      apply SyncInv.crash
      rw [hverd]
      apply planVerdict_crashed hgood hpage
      rw [h.split, ← h.total]
      exact hzero
    · rw [if_neg hzero]
      refine ⟨fun _ _ => ⟨bank, hboot, hlstd, hclsd, done ++ [x], todo, ?_⟩, ?_⟩
      · exact h.image hgood hzero
      · intro o ho
        simp [outcome, imageSynced, updateProgress, hcrsh, hruns] at ho
  · rw [if_neg hgood]
    apply SyncInv.fail hcrsh
    rw [hverd]
    exact planVerdict_fail (eq_false_iff.2 hgood) hpage

theorem SyncInv.noImage (h : Synced d (plan d bank d.partitions) s [] []) :
    SyncInv d (match d.partitions.find? (·.name = d.buffer) with
      | none => s.stop .syncFail
      | some p => syncImage d s p) := by
  have hemp : plan d bank d.partitions = [] := h.split.symm
  have himag : s.context.images = [] := h.images
  have hverd := verdict_eq hboot hlstd hclsd
  rw [hemp] at hverd
  cases hfind : d.partitions.find? (fun p => decide (p.name = d.buffer)) with
  | none =>
    apply SyncInv.fail hcrsh
    rw [hverd, planVerdict, hfind]
  | some p =>
    have hnoPa : getImagePageNumber s.context.images p.name = 0 := by rw [himag]; rfl
    have htot : s.context.totalPage = 0 := by
      rw [h.total, hemp]
      rfl
    dsimp only
    unfold syncImage
    rw [hnoPa]
    by_cases hgood : copied d (copyTo d p 0) = true
    · rw [if_pos hgood, imageCopied, if_pos htot]
      apply SyncInv.crash
      rw [hverd, planVerdict, hfind]
      exact if_pos hgood
    · rw [if_neg hgood]
      apply SyncInv.fail hcrsh
      rw [hverd, planVerdict, hfind]
      exact if_neg hgood

theorem SyncInv.round (h : Synced d (plan d bank d.partitions) s done todo)
    (hruns : s.running = true) : SyncInv d (syncPartition d s) := by
  have hverd := verdict_eq hboot hlstd hclsd
  have hstop : SyncInv d (s.stop .syncPaused) := by
    refine ⟨fun _ _ => ⟨bank, hboot, hlstd, hclsd, done, todo, ?_⟩, ?_⟩
    · exact h.congr rfl rfl rfl
    · simp [outcome, stop, updateProgress, hcrsh]
  cases todo with
  | nil =>
    unfold syncPartition
    cases done with
    | nil =>
      have himag : s.context.images = [] := h.images
      rw [himag]
      dsimp only [getImageForUpdate]
      by_cases hflag : ¬ s.context.paused ∧ ¬ s.context.cancel
      · rw [if_pos hflag]
        exact SyncInv.noImage hboot hlstd hclsd hcrsh h
      rw [if_neg hflag]
      by_cases hcanc : s.context.cancel = true
      · rw [if_pos hcanc]
        exact SyncInv.cancelled hcrsh
      · rw [if_neg hcanc]
        exact hstop
    | cons y rest =>
      have hdone : (getImageForUpdate s.context.images d.buffer).1 = true := by
        rw [h.images]
        exact getImageForUpdate_done _ (by simp) _
      have hall : y :: rest = plan d bank d.partitions := by rw [← h.split, append_nil]
      dsimp only
      rw [if_pos hdone]
      refine ⟨by simp [Goes, stop, updateProgress], ?_⟩
      intro o ho
      rw [outcome_stop_success hcrsh] at ho
      cases ho
      refine ⟨?_, fun _ => ⟨bank, hboot, ?_⟩⟩
      · rw [hverd, ← hall]
        have hpage := h.some_page (by simp)
        rw [← hall] at hpage
        exact (planVerdict_success (by simp) h.copied hpage).symm
      · rw [← hall]
        exact h.copies
  | cons x rest =>
    by_cases hflag : ¬ s.context.paused ∧ ¬ s.context.cancel
    · rw [syncPartition_todo h hflag]
      exact SyncInv.image hboot hlstd hclsd hcrsh h hruns
    have hnext : getImageForUpdate s.context.images d.buffer = (false, x.1.name) := by
      rw [h.images]
      exact getImageForUpdate_todo _ _ (planned x) _
    unfold syncPartition
    rw [hnext]
    dsimp only
    rw [if_neg (by decide), if_neg hflag]
    by_cases hcanc : s.context.cancel = true
    · rw [if_pos hcanc]
      exact SyncInv.cancelled hcrsh
    · rw [if_neg hcanc]
      exact hstop

end Round

/-! ### The other steps -/

theorem startSync_goes {bank : Bank} (hboot : d.booted = some bank) (hlstd : d.listed = true)
    (hclsd : ¬ NotClosed d bank d.partitions) :
    Synced d (plan d bank d.partitions) (startSync d s) [] (plan d bank d.partitions) ∧
      (startSync d s).running = true ∧ (startSync d s).crashed = s.crashed ∧
      (startSync d s).context.paused = false ∧ (startSync d s).context.cancel = false := by
  have hnd := nodup_planned d bank d.partitions (nodup_names d.layout)
  have hinit := initImages_planned d bank d.partitions [] hclsd hnd
  change initImages d bank d.partitions [] 0 = _ at hinit
  have hsta : startSync d s = { s.started.setImages (progress []
      ((plan d bank d.partitions).map planned)) (totalPages (plan d bank d.partitions) % 2 ^ 32) with
        running := true } := by
    simp [FwUpdate.startSync, hboot, hlstd, hinit]
  rw [hsta]
  refine ⟨?_, rfl, rfl, rfl, rfl⟩
  exact {
    split := rfl
    images := rfl
    total := rfl
    copies := rfl
    copied := fun x hx => absurd hx not_mem_nil
    some_page := fun hnot => absurd rfl hnot }

theorem startSync_fails
    (hfls : ∀ bank, d.booted = some bank → d.listed = true → NotClosed d bank d.partitions) :
    verdict d = .fail ∧ ∃ t : Sync, t.crashed = s.crashed ∧
      startSync d s = t.stop .syncFail := by
  rcases hboot : d.booted with _ | bank
  · refine ⟨by simp [verdict, hboot], s.started, rfl, ?_⟩
    simp [FwUpdate.startSync, hboot]
  by_cases hlstd : d.listed = true
  · have hbad := hfls bank hboot hlstd
    have hnone := initImages_notClosed d bank d.partitions [] 0 hbad
    obtain ⟨images, hinit⟩ : ∃ images, initImages d bank d.partitions [] 0 = (images, none) :=
      ⟨_, Prod.ext rfl hnone⟩
    refine ⟨by simp [verdict, hboot, hbad], s.started.setImages images 0, rfl, ?_⟩
    simp [FwUpdate.startSync, hboot, hlstd, hinit]
  · refine ⟨by simp [verdict, hboot, hlstd], s.started, rfl, ?_⟩
    simp [FwUpdate.startSync, hboot, hlstd]

theorem SyncInv.startSync (hcrsh : s.crashed = false) : SyncInv d (startSync d s) := by
  by_cases hgoes : ∃ bank, d.booted = some bank ∧ d.listed = true ∧
    ¬ NotClosed d bank d.partitions
  · obtain ⟨bank, hboot, hlstd, hclsd⟩ := hgoes
    obtain ⟨hsynd, hruns, hsame, -, -⟩ := startSync_goes (s := s) hboot hlstd hclsd
    refine ⟨fun _ _ => ⟨bank, hboot, hlstd, hclsd, [], _, hsynd⟩, ?_⟩
    intro o ho
    simp [outcome, hsame, hcrsh, hruns] at ho
  have hfls : ∀ bank, d.booted = some bank → d.listed = true →
      NotClosed d bank d.partitions := by
    intro bank hboot hlstd
    by_contra hclsd
    exact hgoes ⟨bank, hboot, hlstd, hclsd⟩
  obtain ⟨hverd, t, hsame, hstop⟩ := startSync_fails (s := s) hfls
  rw [hstop]
  exact SyncInv.fail (hsame.trans hcrsh) hverd

variable (h : SyncInv d s)
include h

/-- Only flags change, or the report says that it was cancelled. -/
theorem SyncInv.flags (hcrsh : t.crashed = s.crashed)
    (hgoes : Goes t → Goes s) (himag : t.context.images = s.context.images)
    (htot : t.context.totalPage = s.context.totalPage) (hcops : t.copies = s.copies)
    (hout : t.outcome = s.outcome ∨ t.outcome = none) : SyncInv d t where
  goes := by
    intro hnot hgo
    obtain ⟨bank, hboot, hlstd, hclsd, done, todo, hsynd⟩ :=
      h.goes (hcrsh ▸ hnot) (hgoes hgo)
    exact ⟨bank, hboot, hlstd, hclsd, done, todo, hsynd.congr himag htot hcops⟩
  ended := by
    intro o ho
    obtain hsame | hnone := hout
    · rw [hsame] at ho
      obtain ⟨hverd, hsucc⟩ := h.ended o ho
      exact ⟨hverd, fun hs => hcops ▸ hsucc hs⟩
    · rw [hnone] at ho
      cases ho

theorem SyncInv.pauseSync : SyncInv d (pauseSync s) := by
  unfold FwUpdate.pauseSync
  split_ifs
  · exact h
  · exact h.flags rfl id rfl rfl rfl (.inl rfl)

theorem SyncInv.cancelSync (hcrsh : s.crashed = false) : SyncInv d (cancelSync s) := by
  unfold FwUpdate.cancelSync
  by_cases hidle : s.state ≠ .synchronizing ∧ s.state ≠ .syncPaused
  · rw [if_pos hidle]
    exact h
  rw [if_neg hidle]
  by_cases hpaus : s.state = .syncPaused
  · rw [if_pos hpaus]
    refine h.flags rfl (fun _ => .inr hpaus) rfl rfl rfl (.inr ?_)
    simp [outcome, updateProgress, hcrsh]
  · rw [if_neg hpaus]
    exact h.flags rfl id rfl rfl rfl (.inl rfl)

theorem SyncInv.resumeSync (hcrsh : s.crashed = false)
    (hpaus : s.state = .syncPaused) : SyncInv d (resumeSync s) := by
  refine h.flags rfl (fun _ => .inr hpaus) rfl rfl rfl (.inr ?_)
  simp [outcome, FwUpdate.resumeSync, hcrsh]

end Steps

theorem syncInv_step {s : Sync} {a : SyncAction} (h : SyncInv d s)
    (hstep : syncStep d s a = some t) : SyncInv d t := by
  cases a with
  | startSync =>
    obtain ⟨⟨hcrsh, -⟩, ⟨⟩⟩ := ite_none_right_eq_some.1 hstep
    exact SyncInv.startSync (eq_false_iff.2 hcrsh)
  | syncPartition =>
    obtain ⟨⟨hcrsh, hruns⟩, ⟨⟩⟩ := ite_none_right_eq_some.1 hstep
    have haliv : s.crashed = false := eq_false_iff.2 hcrsh
    obtain ⟨bank, hboot, hlstd, hclsd, done, todo, hsynd⟩ := h.goes haliv (.inl hruns)
    exact SyncInv.round hboot hlstd hclsd haliv hsynd hruns
  | pauseSync =>
    obtain ⟨hcrsh, ⟨⟩⟩ := ite_none_left_eq_some.1 hstep
    exact h.pauseSync
  | cancelSync =>
    obtain ⟨hcrsh, ⟨⟩⟩ := ite_none_left_eq_some.1 hstep
    exact h.cancelSync (eq_false_iff.2 hcrsh)
  | resumeSync =>
    obtain ⟨⟨hcrsh, -, hpaus⟩, ⟨⟩⟩ := ite_none_right_eq_some.1 hstep
    exact h.resumeSync (eq_false_iff.2 hcrsh) hpaus

/-- However often it is paused, a synchronisation comes out as its plan says. -/
theorem outcome_run {actions : List SyncAction} {o : Outcome}
    (hrun : exec (syncStep d) .initial actions = some t) (hende : t.outcome = some o) :
    Ended d t o :=
  (exec_invariant_of_step (fun _ _ _ h hstep => syncInv_step d h hstep)
    (syncInv_initial d) hrun).ended o hende

end TelAF.FwUpdate
