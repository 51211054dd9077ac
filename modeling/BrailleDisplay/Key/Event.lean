/-!
# Key events

A display with separate keys reports each press and each release as one byte. The high bit marks a
release. The other seven bits are the key's code: routing keys, one above each main cell, start at
`routingBase`; keys beside the status cells start at `statusBase`; front keys have the codes below
`frontLimit`. A code that lies in two ranges belongs to the first of them in this order.
-/
namespace BrailleDisplay

/-- How many main and status cells a display has. -/
structure Geometry where
  columns : UInt8
  statusCells : UInt8
  deriving Repr, DecidableEq

/-- One key of a display. -/
inductive Key where
  | routing (column : UInt8)
  | status (index : UInt8)
  | front (bit : UInt8)
  deriving Repr, DecidableEq

/-- One press or release. -/
structure KeyEvent where
  key : Key
  released : Bool
  deriving Repr, DecidableEq

namespace Key

def routingBase : UInt8 := 0x20

def statusBase : UInt8 := 0x70

def frontLimit : UInt8 := 0x20

/-- Whether `code` is one of the `count` codes from `first` on. The sum is taken in `Nat`, so a
range that runs past the last byte is cut off there and does not wrap around. -/
def inRange (first count code : UInt8) : Bool :=
  first.toNat ≤ code.toNat && code.toNat < first.toNat + count.toNat

/-- The key that has the given seven-bit code. -/
def ofCode? (geometry : Geometry) (code : UInt8) : Option Key :=
  if inRange routingBase geometry.columns code then some (.routing (code - routingBase))
  else if inRange statusBase geometry.statusCells code then some (.status (code - statusBase))
  else if code < frontLimit then some (.front code)
  else none

/-- The code under which a key reports. -/
def code : Key → UInt8
  | .routing column => routingBase + column
  | .status index => statusBase + index
  | .front bit => bit

end Key

namespace KeyEvent

/-- Set in the byte of a release. -/
def releaseBit : UInt8 := 0x80

/-- Reads a byte of a display with the given geometry. -/
def ofByte? (geometry : Geometry) (byte : UInt8) : Option KeyEvent :=
  (Key.ofCode? geometry (byte &&& ~~~releaseBit)).map
    fun key => ⟨key, byte &&& releaseBit != 0⟩

/-- The byte that reports an event. -/
def toByte (event : KeyEvent) : UInt8 :=
  if event.released then event.key.code ||| releaseBit else event.key.code

end KeyEvent

end BrailleDisplay
