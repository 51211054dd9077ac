/-!
# Cells

A braille cell is one byte with a bit for each raised dot. The host gives dots 1 to 8 the bits 0
to 7. The displays put the odd ones of the first six dots before the even ones, so dots 2 to 5 sit
on other bits; `toDevice` and `toHost` move between the two orders.
-/
namespace BrailleDisplay

/-- One braille cell: a set of raised dots. -/
abbrev Cell := UInt8

namespace Cell

/-- The device bit of each host bit, from host bit 0 on. -/
def wiring : List UInt8 := [0, 3, 1, 4, 2, 5, 6, 7]

/-- The cell whose only raised dot sits on the given bit. -/
def bit (number : UInt8) : Cell := 1 <<< number

/-- Dots that are raised in `cell`, each moved from its first bit in `wires` to its second. -/
def rewire (wires : List (UInt8 × UInt8)) (cell : Cell) : Cell :=
  wires.foldl
    (fun moved wire => if cell &&& bit wire.1 = 0 then moved else moved ||| bit wire.2) 0

/-- The pairs of host bit and device bit. -/
def wires : List (UInt8 × UInt8) :=
  [0, 1, 2, 3, 4, 5, 6, 7].zip wiring

/-- The device's byte for a cell in host dot order. -/
def toDevice (cell : Cell) : Cell :=
  rewire wires cell

/-- The cell in host dot order that a device's byte shows. -/
def toHost (cell : Cell) : Cell :=
  rewire (wires.map Prod.swap) cell

end Cell

/-- A row of cells without a raised dot. -/
def blankRow (count : Nat) : List Cell :=
  List.replicate count 0

end BrailleDisplay
