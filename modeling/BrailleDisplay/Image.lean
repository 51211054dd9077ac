import BrailleDisplay.Model

/-!
# The image of a display

`Image` holds the cells that the host wants shown, beside the same cells as the display wants them,
and whether the display still has to be told. What a display shows before it was ever written to is
unknown, so the first write to an area counts as a change even if its cells are blank.
-/
namespace BrailleDisplay

/-- The two groups of cells of a display. -/
inductive Area where
  | main | status
  deriving Repr, DecidableEq

/-- The most cells that an area can have. -/
def Area.capacity : Area → Nat
  | .main => maxMainCells
  | .status => maxStatusCells

/-- How many cells a model has in an area. -/
def Model.cellsIn (model : Model) : Area → Nat
  | .main => model.columns.toNat
  | .status => model.statusCells.toNat

/-- A number of cells that does not fit. -/
structure CellMismatch where
  expected : Nat
  actual : Nat
  deriving Repr, DecidableEq

/-- The cells of one area, kept twice, and whether the host ever wrote them. -/
structure Region where
  /-- What the host asked for. -/
  cells : List Cell
  /-- What the display is given. -/
  native : List Cell
  written : Bool := false
  deriving Repr, DecidableEq

namespace Region

def blank (count : Nat) : Region := ⟨blankRow count, blankRow count, false⟩

/-- Whether writing `cells` would change nothing. -/
def shows (region : Region) (cells : List Cell) : Bool :=
  region.written && region.cells == cells

/-- Overwrites two rows side by side with new cells, the second one in device dot order, as far as
there are places in both rows. -/
def overwrite : List Cell → List Cell → List Cell → List Cell × List Cell
  | _ :: cells, _ :: native, new :: later =>
    let (cells, native) := overwrite cells native later
    (new :: cells, new.toDevice :: native)
  | cells, native, _ => (cells, native)

/-- The region after the host has written `cells`. -/
def update (region : Region) (cells : List Cell) : Region :=
  let (cells, native) := overwrite region.cells region.native cells
  ⟨cells, native, true⟩

end Region

structure Image where
  main : Region
  status : Region
  /-- The display has not been given these cells. -/
  dirty : Bool := false
  deriving Repr, DecidableEq

namespace Image

def region (image : Image) : Area → Region
  | .main => image.main
  | .status => image.status

def withRegion (image : Image) (area : Area) (region : Region) : Image :=
  match area with
  | .main => { image with main := region }
  | .status => { image with status := region }

/-- An unwritten area of a model. The number of cells is checked against the area's capacity. -/
def blankRegion (model : Model) (area : Area) : Except CellMismatch Region :=
  if model.cellsIn area ≤ area.capacity then .ok (.blank (model.cellsIn area))
  else .error ⟨area.capacity, model.cellsIn area⟩

/-- The clean image of a display that was never written to. -/
def blank (model : Model) : Except CellMismatch Image := do
  let main ← blankRegion model .main
  let status ← blankRegion model .status
  return ⟨main, status, false⟩

/-- Asks for new cells in one area. Asking for the cells that are there already changes nothing. -/
def write (image : Image) (area : Area) (cells : List Cell) : Except CellMismatch Image :=
  if cells.length ≠ (image.region area).cells.length then
    .error ⟨(image.region area).cells.length, cells.length⟩
  else if (image.region area).shows cells then .ok image
  else .ok { image.withRegion area ((image.region area).update cells) with dirty := true }

def markDirty (image : Image) : Image := { image with dirty := true }

def markClean (image : Image) : Image := { image with dirty := false }

/-- The frame that shows this image. -/
def frame? (envelope : Envelope) (image : Image) : Option Frame :=
  envelope.frame? image.status.native image.main.native

end Image

end BrailleDisplay
