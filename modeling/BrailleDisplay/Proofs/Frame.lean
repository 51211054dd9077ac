import BrailleDisplay.Image
import Mathlib.Data.List.Basic
import Mathlib.Tactic.SplitIfs

/-!
# Reading frames back

A frame has no length field, but a display knows its own size: between the header and the trailer
stand the status cells and then the main cells, each with its dots where the device has them.
`Model.cellsOf?` reads a frame this way. It accepts exactly the frames of a full set of cells, so a
frame and its cells determine each other.
-/
namespace BrailleDisplay

namespace Cell

theorem toHost_toDevice (cell : Cell) : toHost (toDevice cell) = cell := by
  have every : ∀ number : Fin 256, toHost (toDevice (.ofFin number)) = .ofFin number := by
    decide +kernel
  exact every cell.toFin

theorem toDevice_toHost (cell : Cell) : toDevice (toHost cell) = cell := by
  have every : ∀ number : Fin 256, toDevice (toHost (.ofFin number)) = .ofFin number := by
    decide +kernel
  exact every cell.toFin

theorem map_toHost_map_toDevice (cells : List Cell) :
    (cells.map toDevice).map toHost = cells := by
  simp [Function.comp_def, toHost_toDevice]

theorem map_toDevice_map_toHost (cells : List Cell) :
    (cells.map toHost).map toDevice = cells := by
  simp [Function.comp_def, toDevice_toHost]

end Cell

/-- The bytes between the header and the trailer of a frame. -/
def Envelope.unwrap? (envelope : Envelope) (frame : List UInt8) : Option (List UInt8) :=
  (frame.dropPrefix? envelope.header).bind (·.dropSuffix? envelope.trailer)

theorem Envelope.unwrap?_eq_some_iff {envelope : Envelope} {frame body : List UInt8} :
    envelope.unwrap? frame = some body ↔
      frame = envelope.header ++ body ++ envelope.trailer := by
  simp [unwrap?, Option.bind_eq_some_iff, List.dropPrefix?_eq_some_iff,
    List.dropSuffix?_eq_some_iff]

theorem splitAt_eq_iff {cells status main : List Cell} {first second : Nat} :
    cells.length = first + second ∧ cells.splitAt first = (status, main) ↔
      cells = status ++ main ∧ status.length = first ∧ main.length = second := by
  rw [List.splitAt_eq, Prod.mk.injEq]
  constructor
  · rintro ⟨length, rfl, rfl⟩
    simp
    omega
  · rintro ⟨rfl, rfl, rfl⟩
    simp

namespace Model

/-- The status and the main cells that a frame shows on a display of this model. -/
def cellsOf? (model : Model) (frame : List UInt8) : Option (List Cell × List Cell) :=
  (model.envelope.unwrap? frame).bind fun body =>
    if body.length = model.cellsIn .status + model.cellsIn .main then
      some ((body.map Cell.toHost).splitAt (model.cellsIn .status))
    else none

/-- A frame shows these cells exactly if it is the one that is built for them. -/
theorem cellsOf?_eq_some_iff {model : Model} {frame : List UInt8} {status main : List Cell} :
    model.cellsOf? frame = some (status, main) ↔
      frame = model.envelope.wrap (status.map Cell.toDevice) (main.map Cell.toDevice) ∧
        status.length = model.cellsIn .status ∧ main.length = model.cellsIn .main := by
  have read : model.cellsOf? frame = some (status, main) ↔
      ∃ body, model.envelope.unwrap? frame = some body ∧
        body.map Cell.toHost = status ++ main ∧ status.length = model.cellsIn .status ∧
          main.length = model.cellsIn .main := by
    simp [cellsOf?, Option.bind_eq_some_iff, ← splitAt_eq_iff]
  rw [read]
  constructor
  · rintro ⟨body, unwrapped, cells, sizes⟩
    refine ⟨?_, sizes⟩
    rw [Envelope.unwrap?_eq_some_iff.mp unwrapped, ← Cell.map_toDevice_map_toHost body, cells]
    simp [Envelope.wrap]
  · rintro ⟨rfl, sizes⟩
    refine ⟨(status ++ main).map Cell.toDevice, ?_, Cell.map_toHost_map_toDevice _, sizes⟩
    rw [Envelope.unwrap?_eq_some_iff]
    simp [Envelope.wrap]

end Model

end BrailleDisplay
