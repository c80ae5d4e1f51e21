import Mathlib.Data.List.Basic
import Mathlib.Data.List.Nodup

/-!
# The deletion of a CAN interface

The frames and the handlers of all interfaces share two lists. The loops over them stop at the first
that belongs to the interface, and the socket is closed through its monitor and once more. So an
interface with a monitor, which every handler brings, or with two frames is not deleted as it
should.
-/

namespace TelAF.CanService

open List

/-- A frame or a handler, as far as a deletion looks at it. -/
structure Item where
  ref : Nat
  canInfRef : Nat
deriving DecidableEq

/-- An interface. Its monitor, if there is one, watches its socket. -/
structure CanInf where
  canInfRef : Nat
  sockFd : Nat
  fdMonitorRef : Option Nat
  sessionRef : Nat
  watches : ∀ fd ∈ fdMonitorRef, fd = sockFd

inductive Result where
  | ok
  | badParameter

/-- The service, and the descriptors that have been closed. -/
structure Can where
  canInfs : List CanInf
  canFrameList : List Item
  canHandlerList : List Item
  closed : List Nat
  nodup : (canInfs.map CanInf.canInfRef).Nodup

/-- The loop starts at the tail and ends with the first item that it removes. -/
def removeLast (canInfRef : Nat) (items : List Item) : List Item :=
  (items.reverse.eraseP fun item => item.canInfRef = canInfRef).reverse

def CanInf.closes (inf : CanInf) : List Nat := inf.fdMonitorRef.toList ++ [inf.sockFd]

def deleteCanInf (s : Can) (canInfRef : Nat) : Can × Result :=
  match s.canInfs.find? fun inf => inf.canInfRef = canInfRef with
  | none => (s, .badParameter)
  | some inf => ({
      canInfs := s.canInfs.filter fun other => other.canInfRef ≠ canInfRef
      canFrameList := removeLast canInfRef s.canFrameList
      canHandlerList := removeLast canInfRef s.canHandlerList
      closed := s.closed ++ inf.closes
      nodup := s.nodup.sublist (List.filter_sublist.map _) }, .ok)

/-- The interfaces of the session are deleted one after the other. -/
def onClientDisconnection (s : Can) (sessionRef : Nat) : Can :=
  (s.canInfs.filter fun inf => inf.sessionRef = sessionRef).foldl
    (fun s inf => (deleteCanInf s inf.canInfRef).1) s

def ownedBy (canInfRef : Nat) (items : List Item) : List Item :=
  items.filter fun item => item.canInfRef = canInfRef

/-- The interfaces are gone, with what the deletions leave of their items and the descriptors they
close. -/
structure Leaves (left : List Item → List Item) (closes : CanInf → List Nat) (s t : Can)
    (infs : List CanInf) :
    Prop where
  canInfs : t.canInfs = s.canInfs.filter fun inf => inf.canInfRef ∉ infs.map CanInf.canInfRef
  frames : ∀ ref, ownedBy ref t.canFrameList = if ref ∈ infs.map CanInf.canInfRef
    then left (ownedBy ref s.canFrameList) else ownedBy ref s.canFrameList
  handlers : ∀ ref, ownedBy ref t.canHandlerList = if ref ∈ infs.map CanInf.canInfRef
    then left (ownedBy ref s.canHandlerList) else ownedBy ref s.canHandlerList
  closed : t.closed = s.closed ++ infs.flatMap closes

/-- Nothing is left that belonged to the interfaces, and each of their sockets has been closed
once. -/
abbrev Deleted : Can → Can → List CanInf → Prop := Leaves (fun _ => []) fun inf => [inf.sockFd]

/-- No monitor, and at most one frame and one handler. -/
structure Can.Plain (s : Can) (inf : CanInf) : Prop where
  unwatched : inf.fdMonitorRef = none
  frames : (ownedBy inf.canInfRef s.canFrameList).length ≤ 1
  handlers : (ownedBy inf.canInfRef s.canHandlerList).length ≤ 1

theorem filter_eraseP {α : Type} {p q : α → Bool} {l : List α}
    (h : ∀ a, p a = true → q a = false) :
    (l.eraseP p).filter q = l.filter q := by
  induction l with
  | nil => rfl
  | cons a l ih => grind

theorem filter_eraseP_self {α : Type} {p : α → Bool} {l : List α} :
    (l.eraseP p).filter p = (l.filter p).tail := by
  induction l with
  | nil => rfl
  | cons a l ih => grind

theorem ownedBy_removeLast {ref other : Nat} {items : List Item} :
    ownedBy other (removeLast ref items) =
      if other = ref then (ownedBy ref items).dropLast else ownedBy other items := by
  unfold ownedBy removeLast
  rw [filter_reverse]
  split_ifs with heq
  · subst heq
    rw [filter_eraseP_self, filter_reverse, tail_reverse, reverse_reverse]
  · rw [filter_eraseP (by grind), filter_reverse, reverse_reverse]

theorem find_of_mem {s : Can} {inf : CanInf} (h : inf ∈ s.canInfs) :
    s.canInfs.find? (fun other => other.canInfRef = inf.canInfRef) = some inf := by
  rcases hfind : s.canInfs.find? (fun other => other.canInfRef = inf.canInfRef) with _ | found
  · simpa using find?_eq_none.1 hfind inf h
  · have hsame : found.canInfRef = inf.canInfRef := by simpa using find?_some hfind
    rw [hfind, inj_on_of_nodup_map s.nodup (mem_of_find?_eq_some hfind) h hsame]

variable {infs : List CanInf}

theorem leaves_foldl {s : Can} (hlive : ∀ inf ∈ infs, inf ∈ s.canInfs)
    (hnd : (infs.map CanInf.canInfRef).Nodup) : Leaves dropLast CanInf.closes s
      (infs.foldl (fun s inf => (deleteCanInf s inf.canInfRef).1) s) infs := by
  induction infs generalizing s with
  | nil => exact ⟨by simp, by simp, by simp, by simp⟩
  | cons inf rest ih =>
    obtain ⟨hnew, hrest⟩ := nodup_cons.1 hnd
    obtain ⟨u, hu⟩ : ∃ u, u = (deleteCanInf s inf.canInfRef).1 := ⟨_, rfl⟩
    have hdlt := hu
    simp only [deleteCanInf, find_of_mem (hlive inf mem_cons_self)] at hdlt
    have haft := ih (s := u) (fun other hoth => by
      have hne : other.canInfRef ≠ inf.canInfRef := fun heq => hnew (heq ▸ mem_map_of_mem hoth)
      simp [hdlt, hlive other (mem_cons_of_mem _ hoth), hne]) hrest
    rw [foldl_cons, ← hu]
    constructor
    · rw [haft.canInfs, hdlt]
      simp only [filter_filter, map_cons, mem_cons]
      grind
    · intro ref
      rw [haft.frames, hdlt, ownedBy_removeLast]
      grind
    · intro ref
      rw [haft.handlers, hdlt, ownedBy_removeLast]
      grind
    · rw [haft.closed, hdlt, flatMap_cons, append_assoc]

theorem length_le_closes (infs : List CanInf) :
    infs.length ≤ (infs.flatMap CanInf.closes).length := by
  induction infs with
  | nil => exact Nat.le_refl _
  | cons inf rest ih =>
    simp only [flatMap_cons, length_append, CanInf.closes, length_cons, length_nil]
    omega

theorem closes_iff :
    infs.flatMap CanInf.closes = infs.flatMap (fun inf => [inf.sockFd]) ↔
      ∀ inf ∈ infs, inf.fdMonitorRef = none := by
  induction infs with
  | nil => simp
  | cons inf rest ih =>
    rw [forall_mem_cons, ← ih]
    have hlength := length_le_closes rest
    cases hmoni : inf.fdMonitorRef with
    | none => simp [CanInf.closes, hmoni]
    | some fd =>
      refine ⟨fun h => ?_, fun h => nomatch h.1⟩
      have hleng := congrArg length h
      have hsock : (rest.flatMap fun inf => [inf.sockFd]).length = rest.length := by simp
      simp only [flatMap_cons, length_append, CanInf.closes, hmoni, Option.toList, length_cons,
        length_nil, hsock] at hleng
      omega

theorem deleted_iff {s t : Can} (h : Leaves dropLast CanInf.closes s t infs) :
    Deleted s t infs ↔ ∀ inf ∈ infs, s.Plain inf := by
  have hsht {items : List Item} : items.dropLast = [] ↔ items.length ≤ 1 := by
    rw [← length_eq_zero_iff, length_dropLast]
    omega
  constructor
  · intro hdel inf hinf
    have hin : inf.canInfRef ∈ infs.map CanInf.canInfRef := mem_map_of_mem hinf
    have hfram := (h.frames inf.canInfRef).symm.trans (hdel.frames _)
    have hhand := (h.handlers inf.canInfRef).symm.trans (hdel.handlers _)
    rw [if_pos hin, if_pos hin] at hfram hhand
    refine ⟨closes_iff.1 (append_cancel_left (h.closed.symm.trans hdel.closed)) inf hinf, ?_, ?_⟩
    · exact hsht.1 hfram
    · exact hsht.1 hhand
  intro hplai
  refine ⟨h.canInfs, fun ref => ?_, fun ref => ?_, ?_⟩
  · rw [h.frames]
    split_ifs with hin
    · obtain ⟨inf, hinf, rfl⟩ := mem_map.1 hin
      exact hsht.2 (hplai inf hinf).frames
    · rfl
  · rw [h.handlers]
    split_ifs with hin
    · obtain ⟨inf, hinf, rfl⟩ := mem_map.1 hin
      exact hsht.2 (hplai inf hinf).handlers
    · rfl
  · rw [h.closed, closes_iff.2 fun inf hinf => (hplai inf hinf).unwatched]

/-- A call deletes its interface, and a client that goes those of its session, exactly if they are
plain. -/
theorem deletion_complete_iff (s : Can) :
    (∀ inf ∈ s.canInfs, Deleted s (deleteCanInf s inf.canInfRef).1 [inf] ↔ s.Plain inf) ∧
    ∀ sessionRef, Deleted s (onClientDisconnection s sessionRef)
        (s.canInfs.filter fun inf => inf.sessionRef = sessionRef) ↔
      ∀ inf ∈ s.canInfs, inf.sessionRef = sessionRef → s.Plain inf := by
  constructor
  · intro inf hinf
    exact (deleted_iff (@leaves_foldl [inf] _ (by simpa using hinf) (List.nodup_singleton _))).trans
      List.forall_mem_singleton
  intro sessionRef
  refine (deleted_iff (leaves_foldl (fun inf hinf => List.mem_of_mem_filter hinf)
    (s.nodup.sublist (List.filter_sublist.map _)))).trans ?_
  simp [List.mem_filter]

/-- A client that goes takes each interface of its session, one of the frames and of the handlers of
each, and nothing of other sessions. -/
theorem onClientDisconnection_leaves (s : Can) (sessionRef : Nat) :
    Leaves dropLast CanInf.closes s (onClientDisconnection s sessionRef)
      (s.canInfs.filter fun inf => inf.sessionRef = sessionRef) :=
  leaves_foldl (fun _ hinf => mem_of_mem_filter hinf) (s.nodup.sublist (filter_sublist.map _))

/-- An interface with two frames. -/
def twoFrames : Can :=
  ⟨[⟨1, 7, none, 0, nofun⟩], [⟨1, 1⟩, ⟨2, 1⟩], [], [], List.nodup_singleton _⟩

theorem frame_stays : ¬ Deleted twoFrames (deleteCanInf twoFrames 1).1 twoFrames.canInfs :=
  fun h => absurd (h.frames 1) (by decide)

end TelAF.CanService
