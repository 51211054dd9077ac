/-!
# Chords

Front keys that are held together form a chord, kept as one 32-bit set with a bit for each key.
A routing or status key may join the held front keys; it acts when it is pressed.
-/
namespace BrailleDisplay

/-- A set of front keys. -/
abbrev FrontKeys := UInt32

/-- The set of the one front key with this bit number, which is taken modulo 32. -/
def frontKey (bit : UInt8) : FrontKeys :=
  1 <<< (bit.toUInt32 % 32)

/-- Keys that are down at the same time. -/
structure Chord where
  front : FrontKeys := 0
  column : Option UInt8 := none
  status : Option UInt8 := none
  deriving Repr, DecidableEq

namespace Chord

/-- Some front key is down, and no routing or status key is being pressed. -/
def isFrontOnly (chord : Chord) : Bool :=
  chord.front != 0 && chord.column.isNone && chord.status.isNone

end Chord

/-- Whether front keys give commands or type dots. -/
inductive InputMode where
  | commands | dots
  deriving Repr, DecidableEq

/-- What the host is doing with the commands. -/
inductive InputContext where
  | normal | menu
  deriving Repr, DecidableEq

end BrailleDisplay
