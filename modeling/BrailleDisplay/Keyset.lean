import BrailleDisplay.Keyset.BrailleStar

/-!
# Keysets

A keyset says which command each chord gives. The Braille Wave shares the keys of the Modular
displays.
-/
namespace BrailleDisplay

inductive Keyset where
  | modular | brailleWave | brailleStar
  deriving Repr, DecidableEq

namespace Keyset

/-- The command that a chord gives, and the input mode after it. A chord without a meaning gives
no command; nor does one that switches the mode. -/
def resolve : Keyset → Chord → InputMode → Option Command × InputMode
  | .modular | .brailleWave => Modular.resolve
  | .brailleStar => BrailleStar.resolve

end Keyset

end BrailleDisplay
