import TelAF.FwPartitions

/-!
# The contexts of installs and synchronisations

A context stands in the configuration tree: the requests to pause and to cancel, the numbers of
pages, and a node for each image with its pages and whether it is updated. The next image is the
first one that is not updated.
-/

namespace TelAF.FwUpdate

open List

structure Image where
  name : Name
  updated : Bool
  pageNum : Nat

structure Context where
  paused : Bool
  cancel : Bool
  totalPage : Nat
  updatedPage : Nat
  images : List Image

def Context.clean : Context := ⟨false, false, 0, 0, []⟩

def setImage (images : List Image) (name : Name) (change : Image → Image) : List Image :=
  match images with
  | [] => [change ⟨name, false, 0⟩]
  | image :: rest =>
    if image.name = name then change image :: rest else image :: setImage rest name change

def setImageStatus (images : List Image) (name : Name) (updated : Bool) : List Image :=
  setImage images name fun image => { image with updated := updated }

def setImagePageNumber (images : List Image) (name : Name) (pageNum : Nat) : List Image :=
  setImage images name fun image => { image with pageNum := pageNum }

def getImagePageNumber (images : List Image) (name : Name) : Nat :=
  match images.find? (·.name = name) with
  | none => 0
  | some image => image.pageNum

/-- Says whether all images are updated, with the name of the one it stopped at. Without an image
it says no, and the name stays what it was. -/
def getImageForUpdate : List Image → Name → Bool × Name
  | [], name => (false, name)
  | [image], _ => (image.updated, image.name)
  | image :: next :: rest, _ =>
    if image.updated then getImageForUpdate (next :: rest) image.name else (false, image.name)

/-- An image of a plan: its name and its pages. -/
abbrev Planned := Name × Nat

def imageOf (updated : Bool) (p : Planned) : Image := ⟨p.1, updated, p.2⟩

/-- The images of a plan, where the first ones are updated. -/
def progress (done todo : List Planned) : List Image :=
  done.map (imageOf true) ++ todo.map (imageOf false)

theorem setImage_of_not_mem (images : List Image) (name : Name) (change : Image → Image)
    (hnew : ∀ image ∈ images, image.name ≠ name) :
    setImage images name change = images ++ [change ⟨name, false, 0⟩] := by
  induction images with
  | nil => rfl
  | cons image rest ih =>
    have hne : image.name ≠ name := hnew image mem_cons_self
    have hrest := ih fun other hoth => hnew other (mem_cons_of_mem image hoth)
    rw [setImage, if_neg hne, hrest, cons_append]

theorem setImage_append (before after : List Image) (image : Image) (change : Image → Image)
    (hnew : ∀ other ∈ before, other.name ≠ image.name) :
    setImage (before ++ image :: after) image.name change = before ++ change image :: after := by
  induction before with
  | nil => simp [setImage]
  | cons other rest ih =>
    have hne : other.name ≠ image.name := hnew other mem_cons_self
    have hrest := ih fun o ho => hnew o (mem_cons_of_mem other ho)
    rw [cons_append, setImage, if_neg hne, hrest, cons_append]

theorem names_progress (done todo : List Planned) (name : Name)
    (hnew : name ∉ (done ++ todo).map Prod.fst) :
    ∀ image ∈ progress done todo, image.name ≠ name := by
  intro image himag hname
  apply hnew
  simp only [progress, mem_append, mem_map] at himag
  obtain ⟨p, hp, rfl⟩ | ⟨p, hp, rfl⟩ := himag
  · exact mem_map.2 ⟨p, mem_append_left todo hp, hname⟩
  · exact mem_map.2 ⟨p, mem_append_right done hp, hname⟩

theorem plan_image (plan : List Planned) (p : Planned) (hnew : p.1 ∉ plan.map Prod.fst) :
    setImagePageNumber (setImageStatus (progress [] plan) p.1 false) p.1 p.2 =
      progress [] (plan ++ [p]) := by
  have hfr : ∀ image ∈ progress [] plan, image.name ≠ p.1 := names_progress [] plan p.1 hnew
  rw [setImageStatus, setImage_of_not_mem _ _ _ hfr, setImagePageNumber,
    setImage_append (progress [] plan) [] ⟨p.1, false, 0⟩ _ hfr]
  simp [progress, imageOf]

section

variable (done todo : List Planned)
include done todo

theorem update_image (p : Planned) (hnd : ((done ++ p :: todo).map Prod.fst).Nodup) :
    setImageStatus (progress done (p :: todo)) p.1 true = progress (done ++ [p]) todo := by
  have hfr : ∀ image ∈ done.map (imageOf true), image.name ≠ p.1 := by
    intro image himag hname
    obtain ⟨q, hq, rfl⟩ := mem_map.1 himag
    rw [map_append] at hnd
    have hapar := (nodup_append.1 hnd).2.2
    exact hapar q.1 (mem_map_of_mem hq) p.1 mem_cons_self hname
  change setImage (_ ++ imageOf false p :: _) (imageOf false p).name _ = _
  rw [setImage_append _ _ _ _ hfr]
  simp [progress, imageOf]

theorem getImagePageNumber_progress (p : Planned)
    (hnd : ((done ++ p :: todo).map Prod.fst).Nodup) :
    getImagePageNumber (progress done (p :: todo)) p.1 = p.2 := by
  have hfr : (done.map (imageOf true)).find? (fun image => decide (image.name = p.1)) = none := by
    rw [find?_eq_none]
    intro image himag hname
    obtain ⟨q, hq, rfl⟩ := mem_map.1 himag
    rw [map_append] at hnd
    have hapar := (nodup_append.1 hnd).2.2
    exact hapar q.1 (mem_map_of_mem hq) p.1 mem_cons_self (of_decide_eq_true hname)
  simp [getImagePageNumber, progress, hfr, imageOf]

theorem getImageForUpdate_todo (p : Planned) (name : Name) :
    getImageForUpdate (progress done (p :: todo)) name = (false, p.1) := by
  induction done generalizing name with
  | nil =>
    cases todo with
    | nil | cons q rest => rfl
  | cons d done ih =>
    cases done with
    | nil | cons e rest => simpa [progress, getImageForUpdate, imageOf] using ih d.1

end

theorem getImageForUpdate_done (done : List Planned) (hsome : done ≠ []) (name : Name) :
    (getImageForUpdate (progress done []) name).1 = true := by
  induction done generalizing name with
  | nil => exact absurd rfl hsome
  | cons d rest ih =>
    cases rest with
    | nil => rfl
    | cons e rest => simpa [progress, getImageForUpdate, imageOf] using ih (by simp) d.1

end TelAF.FwUpdate
