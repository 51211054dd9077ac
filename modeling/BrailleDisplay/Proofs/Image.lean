import BrailleDisplay.Image
import Mathlib.Data.List.Induction
import Mathlib.Tactic.SplitIfs

/-!
# The image and its history

An image is used through three calls: cells are written to an area, and the image is marked as dirty
or clean. The calls alone decide what it holds. Each area holds the cells last accepted for it, and
beside them the same cells as the display wants them; the two rows stay in step. The image is dirty
if since it was last marked clean it was marked dirty or cells were accepted that the area did not
show yet.
-/
namespace BrailleDisplay

/-! ## Two rows in step -/

namespace Region

/-- The display is given what the host asked for. -/
def InStep (region : Region) : Prop := region.native = region.cells.map Cell.toDevice

/-- A region that was written. -/
def showing (cells : List Cell) : Region := ⟨cells, cells.map Cell.toDevice, true⟩

theorem inStep_showing (cells : List Cell) : (showing cells).InStep := rfl

theorem inStep_blank (count : Nat) : (blank count).InStep := by
  have zero : Cell.toDevice 0 = 0 := by decide
  simp [InStep, blank, blankRow, zero]

/-- If no row is shorter than the others, both are overwritten to the end. -/
theorem overwrite_eq {cells native new : List Cell} (same : native.length = cells.length)
    (fits : new.length = cells.length) :
    overwrite cells native new = (new, new.map Cell.toDevice) := by
  induction cells generalizing native new with
  | nil =>
    obtain rfl := List.eq_nil_of_length_eq_zero same
    obtain rfl := List.eq_nil_of_length_eq_zero fits
    rfl
  | cons cell cells ih =>
    obtain ⟨_, native, rfl⟩ := List.exists_cons_of_length_eq_add_one same
    obtain ⟨first, new, rfl⟩ := List.exists_cons_of_length_eq_add_one fits
    simp only [overwrite, ih (Nat.succ.inj same) (Nat.succ.inj fits), List.map_cons]

namespace InStep

variable {region : Region} {cells : List Cell} (h : region.InStep)
include h

theorem length_native : region.native.length = region.cells.length := by
  rw [h, List.length_map]

/-- Cells that fit replace both rows. -/
theorem update_eq (fits : cells.length = region.cells.length) :
    region.update cells = showing cells := by
  simp only [update, overwrite_eq h.length_native fits, showing]

theorem eq_of_shows (shown : region.shows cells = true) : region = showing cells := by
  obtain ⟨own, native, written⟩ := region
  simp only [shows, Bool.and_eq_true, beq_iff_eq] at shown
  obtain ⟨rfl, rfl⟩ := shown
  rw [showing, ← h]

end InStep

end Region

/-- In both areas the display is given what the host asked for. -/
def Image.InStep (image : Image) : Prop := ∀ area, (image.region area).InStep

/-! ## Writing -/

theorem Image.length_of_write {before after : Image} {area : Area} {cells : List Cell}
    (h : before.write area cells = .ok after) :
    cells.length = (before.region area).cells.length := by
  unfold write at h
  split_ifs at h with length <;> exact not_not.mp length

theorem Image.write_of_length_eq {image : Image} (inStep : image.InStep) {area : Area}
    {cells : List Cell} (fits : cells.length = (image.region area).cells.length) :
    image.write area cells = if (image.region area).shows cells then .ok image
      else .ok { image.withRegion area (.showing cells) with dirty := true } := by
  rw [write, if_neg (not_not.mpr fits), (inStep area).update_eq fits]

/-- A write that is accepted is shown in its area and leaves the other one alone. -/
theorem Image.region_write {before after : Image} (inStep : before.InStep) {area : Area}
    {cells : List Cell} (h : before.write area cells = .ok after) (other : Area) :
    after.region other = if other = area then .showing cells else before.region other := by
  rw [write_of_length_eq inStep (length_of_write h)] at h
  split_ifs at h with shown <;> cases h
  · split_ifs with same
    · rw [same]
      exact (inStep area).eq_of_shows shown
    · rfl
  · cases area <;> cases other <;> rfl

theorem Image.inStep_write {before after : Image} (inStep : before.InStep) {area : Area}
    {cells : List Cell} (h : before.write area cells = .ok after) : after.InStep := by
  intro other
  rw [region_write inStep h]
  split_ifs
  · exact Region.inStep_showing cells
  · exact inStep other

/-- What becomes of a write depends on the regions alone. -/
theorem Image.write_regions {first second : Image}
    (regions : ∀ area, first.region area = second.region area) (area : Area) (cells : List Cell) :
    (∃ mismatch, first.write area cells = .error mismatch ∧
      second.write area cells = .error mismatch) ∨
    ∃ first' second', first.write area cells = .ok first' ∧ second.write area cells = .ok second' ∧
      ∀ other, first'.region other = second'.region other := by
  have other (region : Region) (dirty : Bool) (other : Area) :
      { first.withRegion area region with dirty }.region other =
        { second.withRegion area region with dirty }.region other := by
    have same := regions other
    cases area <;> cases other <;> first | rfl | exact same
  unfold Image.write
  rw [← regions area]
  split_ifs
  · exact .inl ⟨_, rfl, rfl⟩
  · exact .inr ⟨_, _, rfl, rfl, regions⟩
  · exact .inr ⟨_, _, rfl, rfl, other _ true⟩

/-- Cells that are accepted leave the image clean only if they were shown already. -/
theorem Image.shows_of_write {before after : Image} {area : Area} {cells : List Cell}
    (h : before.write area cells = .ok after) (clean : after.dirty = false) :
    after = before ∧ (before.region area).written = true ∧ (before.region area).cells = cells := by
  unfold Image.write at h
  split_ifs at h with length shown
  · cases h
    simpa [Region.shows] using shown
  · cases h
    cases clean

/-- A blank image is clean, and no area of it was written. -/
theorem Image.blank_eq {model : Model} {image : Image} (h : Image.blank model = .ok image) :
    image.dirty = false ∧ ∀ area, image.region area = .blank (model.cellsIn area) := by
  unfold blank blankRegion at h
  split_ifs at h with main status
  · cases h
    exact ⟨rfl, fun area => by cases area <;> rfl⟩
  all_goals cases h

/-- The cells of a region if they were written. -/
def Region.written? (region : Region) : Option (List Cell) :=
  if region.written then some region.cells else none

theorem Region.written?_eq_some_iff {region : Region} {cells : List Cell} :
    region.written? = some cells ↔ region.shows cells = true := by
  simp [written?, shows]

/-- Asking for cells that are there already changes nothing. -/
theorem Image.write_written {image : Image} {area : Area} {cells : List Cell}
    (h : (image.region area).written? = some cells) : image.write area cells = .ok image := by
  have shown := Region.written?_eq_some_iff.mp h
  have same : (image.region area).cells = cells := by
    simp only [Region.shows, Bool.and_eq_true, beq_iff_eq] at shown
    exact shown.2
  rw [write, if_neg (not_not.mpr (by rw [same])), if_pos shown]

/-! ## Making an image -/

/-- The areas are checked one after the other, the main one first. -/
theorem Image.blank_eq_ite (model : Model) : blank model =
    if model.columns ≤ 80 then
      if model.statusCells ≤ 4 then
        .ok { main := .blank (model.cellsIn .main), status := .blank (model.cellsIn .status) }
      else .error ⟨4, model.statusCells.toNat⟩
    else .error ⟨80, model.columns.toNat⟩ := by
  have main : model.columns ≤ 80 ↔ model.cellsIn .main ≤ Area.main.capacity :=
    UInt8.le_iff_toNat_le
  have status : model.statusCells ≤ 4 ↔ model.cellsIn .status ≤ Area.status.capacity :=
    UInt8.le_iff_toNat_le
  unfold blank blankRegion
  simp only [main, status]
  split_ifs <;> rfl

/-! ## Calls -/

/-- A call on an image. -/
inductive ImageCall where
  | write (area : Area) (cells : List Cell)
  | markDirty
  | markClean
  deriving Repr, DecidableEq

/-- Makes a call. A write that is refused leaves the image as it is. -/
def Image.call (image : Image) : ImageCall → Except CellMismatch Unit × Image
  | .write area cells =>
    match image.write area cells with
    | .ok next => (.ok (), next)
    | .error mismatch => (.error mismatch, image)
  | .markDirty => (.ok (), image.markDirty)
  | .markClean => (.ok (), image.markClean)

/-- Makes calls one after the other. -/
def Image.replay (image : Image) (calls : List ImageCall) : Image :=
  calls.foldl (fun image call => (image.call call).2) image

theorem Image.replay_concat (image : Image) (calls : List ImageCall) (last : ImageCall) :
    image.replay (calls ++ [last]) = ((image.replay calls).call last).2 := by
  simp only [replay, List.foldl_append, List.foldl_cons, List.foldl_nil]

theorem Image.region_markDirty (image : Image) (area : Area) :
    image.markDirty.region area = image.region area := by
  cases area <;> rfl

theorem Image.region_markClean (image : Image) (area : Area) :
    image.markClean.region area = image.region area := by
  cases area <;> rfl

/-- The cells that a call gets accepted for an area. -/
def ImageCall.accepted? (model : Model) (area : Area) : ImageCall → Option (List Cell)
  | .write target cells =>
    if target = area ∧ cells.length = model.cellsIn area then some cells else none
  | _ => none

/-- The cells accepted for an area, in order. -/
def acceptedIn (model : Model) (area : Area) (calls : List ImageCall) : List (List Cell) :=
  calls.filterMap (ImageCall.accepted? model area)

/-- After other calls, the call asks for something that the display has not been given. -/
def ImageCall.Dirties (model : Model) (before : List ImageCall) : ImageCall → Prop
  | .write area cells =>
    cells.length = model.cellsIn area ∧ (acceptedIn model area before).getLast? ≠ some cells
  | .markDirty => True
  | .markClean => False

/-- Such a call was made and the image not marked clean since. -/
def Dirtied (model : Model) (calls : List ImageCall) : Prop :=
  ∃ before call after, calls = before ++ call :: after ∧ call.Dirties model before ∧
    .markClean ∉ after

/-- What calls leave in an area of a blank image. -/
def regionAfter (model : Model) (area : Area) (calls : List ImageCall) : Region :=
  match (acceptedIn model area calls).getLast? with
  | some cells => .showing cells
  | none => .blank (model.cellsIn area)

theorem acceptedIn_concat (model : Model) (area : Area) (calls : List ImageCall)
    (last : ImageCall) : acceptedIn model area (calls ++ [last]) =
      acceptedIn model area calls ++ (last.accepted? model area).toList := by
  rw [acceptedIn, List.filterMap_append]
  cases accepted : last.accepted? model area <;> simp [acceptedIn, accepted]

theorem length_of_mem_acceptedIn {model : Model} {area : Area} {calls : List ImageCall}
    {cells : List Cell} (accepted : cells ∈ acceptedIn model area calls) :
    cells.length = model.cellsIn area := by
  obtain ⟨call, _, given⟩ := List.mem_filterMap.mp accepted
  unfold ImageCall.accepted? at given
  split at given
  · split_ifs at given with fits
    cases given
    exact fits.2
  · cases given

theorem dirtied_concat {model : Model} {calls : List ImageCall} {last : ImageCall} :
    Dirtied model (calls ++ [last]) ↔
      last.Dirties model calls ∨ last ≠ .markClean ∧ Dirtied model calls := by
  constructor
  · rintro ⟨before, call, after, split, dirties, unclean⟩
    rcases List.eq_nil_or_concat after with rfl | ⟨earlier, final, rfl⟩
    · obtain ⟨rfl, same⟩ := List.append_inj' split rfl
      cases same
      exact .inl dirties
    · rw [List.concat_eq_append, ← List.cons_append, ← List.append_assoc] at split
      obtain ⟨rfl, same⟩ := List.append_inj' split rfl
      cases same
      simp only [List.concat_eq_append, List.mem_append, List.mem_singleton, not_or] at unclean
      exact .inr ⟨Ne.symm unclean.2, before, call, earlier, rfl, dirties, unclean.1⟩
  · rintro (dirties | ⟨unclean, before, call, after, rfl, dirties, unclean'⟩)
    · exact ⟨calls, last, [], rfl, dirties, List.not_mem_nil⟩
    · refine ⟨before, call, after ++ [last], by simp, dirties, ?_⟩
      simp [unclean', Ne.symm unclean]

/-! ## What calls leave -/

theorem shows_regionAfter {model : Model} {area : Area} {calls : List ImageCall}
    {cells : List Cell} : (regionAfter model area calls).shows cells = true ↔
      (acceptedIn model area calls).getLast? = some cells := by
  unfold regionAfter
  split <;> simp_all [Region.shows, Region.showing, Region.blank]

theorem length_regionAfter (model : Model) (area : Area) (calls : List ImageCall) :
    (regionAfter model area calls).cells.length = model.cellsIn area := by
  unfold regionAfter
  split
  · next cells last => exact length_of_mem_acceptedIn (List.mem_of_getLast? last)
  · exact List.length_replicate

theorem cells_regionAfter (model : Model) (area : Area) (calls : List ImageCall) :
    (regionAfter model area calls).cells =
      (acceptedIn model area calls).getLast?.getD (blankRow (model.cellsIn area)) := by
  unfold regionAfter
  split
  · next last => rw [last]; rfl
  · next none => rw [none]; rfl

/-- The display is given the last accepted row as it wants it. -/
theorem native_regionAfter (model : Model) (area : Area) (calls : List ImageCall) :
    (regionAfter model area calls).native =
      ((acceptedIn model area calls).getLast?.map (·.map Cell.toDevice)).getD
        (blankRow (model.cellsIn area)) := by
  unfold regionAfter
  split
  · next last => rw [last]; rfl
  · next none => rw [none]; rfl

theorem inStep_regionAfter (model : Model) (area : Area) (calls : List ImageCall) :
    (regionAfter model area calls).InStep := by
  unfold regionAfter
  split
  · next cells _ => exact Region.inStep_showing cells
  · exact Region.inStep_blank _

theorem regionAfter_concat (model : Model) (area : Area) (calls : List ImageCall)
    (last : ImageCall) : regionAfter model area (calls ++ [last]) =
      (last.accepted? model area).elim (regionAfter model area calls) .showing := by
  rw [regionAfter, acceptedIn_concat]
  cases last.accepted? model area with
  | none => rw [Option.toList_none, List.append_nil]; rfl
  | some cells => rw [Option.toList_some, List.getLast?_concat]; rfl

/-- The image is what the calls made of a blank one. -/
structure Image.Follows (model : Model) (calls : List ImageCall) (image : Image) : Prop where
  region : ∀ area, image.region area = regionAfter model area calls
  dirty : image.dirty = true ↔ Dirtied model calls

namespace Image.Follows

variable {model : Model} {calls : List ImageCall} {image : Image}

/-- A new image is blank and clean. -/
theorem of_blank (built : Image.blank model = .ok image) : Follows model [] image := by
  obtain ⟨clean, blank⟩ := Image.blank_eq built
  refine ⟨fun area => (blank area).trans rfl, ?_⟩
  rw [clean]
  exact iff_of_false nofun fun ⟨_, _, _, split, _⟩ => by simp at split

theorem length_eq (h : Follows model calls image) (area : Area) :
    (image.region area).cells.length = model.cellsIn area := by
  rw [h.region, length_regionAfter]

/-- Whatever was called, the two rows of each area are in step. -/
theorem inStep (h : Follows model calls image) : image.InStep := by
  intro area
  rw [h.region]
  exact inStep_regionAfter model area calls

/-- A write of another number of cells is refused and leaves the image as it is. -/
theorem refuse (h : Follows model calls image) {area : Area} {cells : List Cell}
    (misfit : cells.length ≠ model.cellsIn area) :
    image.call (.write area cells) = (.error ⟨model.cellsIn area, cells.length⟩, image) ∧
      Follows model (calls ++ [.write area cells]) image := by
  have refused : image.write area cells = .error ⟨model.cellsIn area, cells.length⟩ := by
    rw [Image.write, h.length_eq, if_pos misfit]
  have ignored (other : Area) :
      (ImageCall.write area cells).accepted? model other = none := by
    have misfit' : ¬ (area = other ∧ cells.length = model.cellsIn other) :=
      fun both => misfit (both.1 ▸ both.2)
    exact if_neg misfit'
  refine ⟨by simp only [Image.call, refused], fun other => ?_, ?_⟩
  · rw [regionAfter_concat, ignored, h.region]
    rfl
  · rw [h.dirty, dirtied_concat]
    simp [ImageCall.Dirties, misfit]

/-- A write of the right number of cells is accepted, and makes the image dirty if the area does not
show them yet. -/
theorem accept (h : Follows model calls image) {area : Area} {cells : List Cell}
    (fits : cells.length = model.cellsIn area) :
    ∃ next, image.call (.write area cells) = (.ok (), next) ∧
      Follows model (calls ++ [.write area cells]) next := by
  have region (other : Area) : regionAfter model other (calls ++ [.write area cells]) =
      if other = area then .showing cells else image.region other := by
    rw [regionAfter_concat, h.region, ImageCall.accepted?]
    by_cases same : other = area
    · rw [if_pos same, if_pos ⟨same.symm, same ▸ fits⟩]
      rfl
    · rw [if_neg same, if_neg fun both => same both.1.symm]
      rfl
  have dirties : (ImageCall.write area cells).Dirties model calls ↔
      ¬ (image.region area).shows cells = true := by
    rw [h.region, shows_regionAfter, ImageCall.Dirties, and_iff_right fits]
  have write := Image.write_of_length_eq h.inStep (fits.trans (h.length_eq area).symm)
  obtain ⟨next, written⟩ : ∃ next, image.write area cells = .ok next := by
    rw [write]
    split_ifs <;> exact ⟨_, rfl⟩
  refine ⟨next, by simp only [Image.call, written], fun other => ?_, ?_⟩
  · rw [region, Image.region_write h.inStep written]
  · rw [write] at written
    split_ifs at written with shown <;> cases written
    · rw [h.dirty, dirtied_concat, dirties]
      simp [shown]
    · rw [dirtied_concat, dirties]
      exact iff_of_true rfl (.inl shown)

theorem call (h : Follows model calls image) (call : ImageCall) :
    Follows model (calls ++ [call]) (image.call call).2 := by
  cases call with
  | write area cells =>
    by_cases fits : cells.length = model.cellsIn area
    · obtain ⟨next, made, follows⟩ := h.accept fits
      rwa [made]
    · obtain ⟨made, follows⟩ := h.refuse fits
      rwa [made]
  | markDirty =>
    refine ⟨fun area => ?_, ?_⟩
    · rw [regionAfter_concat]
      exact (region_markDirty image area).trans (h.region area)
    · rw [dirtied_concat]
      exact iff_of_true rfl (.inl trivial)
  | markClean =>
    refine ⟨fun area => ?_, ?_⟩
    · rw [regionAfter_concat]
      exact (region_markClean image area).trans (h.region area)
    · rw [dirtied_concat]
      exact iff_of_false nofun (by simp [ImageCall.Dirties])

/-- Whatever calls are made on a blank image, it is what they made of it. -/
theorem replay (built : Image.blank model = .ok image) (calls : List ImageCall) :
    Follows model calls (image.replay calls) := by
  induction calls using List.reverseRecOn with
  | nil => exact of_blank built
  | append_singleton calls last ih =>
    rw [replay_concat]
    exact ih.call last

/-- The first row counts as new even if it is blank. -/
example : (Image.blank .modular20).toOption.map (fun image =>
    (image.replay [.write .status [0, 0, 0, 0]]).dirty) = some true := by decide

end Image.Follows

end BrailleDisplay
