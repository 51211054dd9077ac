import BrailleDisplay.Cell

/-!
# Cell frames

A frame carries all cells of a display at once: an opening header, the status cells, the main
cells and a closing trailer, in this order and with nothing between them. It has no length field
and no checksum, as a display knows its own size. A frame that would outgrow the largest display
is refused.
-/
namespace BrailleDisplay

/-- The most main cells of any display. -/
def maxMainCells : Nat := 80

/-- The most status cells of any display. -/
def maxStatusCells : Nat := 4

/-- The longest header, trailer or stop sequence. -/
def maxEnvelope : Nat := 2

/-- The bytes that a model wants around its cells. -/
structure Envelope where
  header : List UInt8 := []
  trailer : List UInt8 := []
  deriving Repr, DecidableEq

namespace Frame

/-- The most bytes in a frame. -/
def capacity : Nat := maxEnvelope + maxStatusCells + maxMainCells + maxEnvelope

end Frame

/-- One complete cell update, ready for the line. -/
structure Frame where
  bytes : List UInt8
  length_le : bytes.length ≤ Frame.capacity
  deriving Repr, DecidableEq

/-- The bytes around and of the given cells, which are in device dot order. -/
def Envelope.wrap (envelope : Envelope) (status main : List Cell) : List UInt8 :=
  envelope.header ++ status ++ main ++ envelope.trailer

/-- The frame of the given cells, if it fits. -/
def Envelope.frame? (envelope : Envelope) (status main : List Cell) : Option Frame :=
  if h : (envelope.wrap status main).length ≤ Frame.capacity then
    some ⟨envelope.wrap status main, h⟩
  else none

namespace Frame

def length (frame : Frame) : Nat := frame.bytes.length

def isEmpty (frame : Frame) : Bool := frame.bytes.isEmpty

end Frame

theorem Envelope.bytes_of_frame? {envelope : Envelope} {status main : List Cell} {frame : Frame}
    (h : envelope.frame? status main = some frame) : frame.bytes = envelope.wrap status main := by
  unfold Envelope.frame? at h
  split at h
  · cases h; rfl
  · cases h

theorem Envelope.frame?_eq_none_iff (envelope : Envelope) (status main : List Cell) :
    envelope.frame? status main = none ↔
      Frame.capacity < (envelope.wrap status main).length := by
  unfold Envelope.frame?
  split <;> simp <;> omega

end BrailleDisplay
