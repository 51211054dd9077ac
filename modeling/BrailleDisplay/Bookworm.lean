import BrailleDisplay.Command
import BrailleDisplay.Key.Chord

/-!
# The Bookworm's buttons

The Bookworm has four buttons and reports the ones that are down as one byte on each change. Such
a byte is a command by itself; which one depends on whether the preferences menu is open.
-/
namespace BrailleDisplay.Bookworm

def backward : UInt8 := 0x01
def escape : UInt8 := 0x02
def enter : UInt8 := 0x04
def forward : UInt8 := 0x08

/-- Buttons while the preferences menu is open. -/
def menuTable : List (UInt8 × Command) :=
  [ (backward, .perform .fullWindowLeft),
    (forward, .perform .fullWindowRight),
    (escape, .perform .prefLoad),
    (escape ||| backward, .perform .menuPrevSetting),
    (escape ||| forward, .perform .menuNextSetting),
    (enter, .perform .prefMenu),
    (enter ||| backward, .perform .menuPrevItem),
    (enter ||| forward, .perform .menuNextItem),
    (escape ||| enter, .perform .prefSave),
    (escape ||| enter ||| backward, .perform .menuFirstItem),
    (escape ||| enter ||| forward, .perform .menuLastItem),
    (backward ||| forward, .noop),
    (backward ||| forward ||| escape, .noop),
    (backward ||| forward ||| enter, .noop) ]

/-- Buttons everywhere else. -/
def normalTable : List (UInt8 × Command) :=
  [ (backward, .perform .fullWindowLeft),
    (forward, .perform .fullWindowRight),
    (escape, .perform .cursorTracking),
    (escape ||| backward, .perform .back),
    (escape ||| forward, .perform .displayMode),
    (enter, .atColumn .route 0),
    (enter ||| backward, .perform .lineUp),
    (enter ||| forward, .perform .lineDown),
    (escape ||| enter, .perform .prefMenu),
    (escape ||| enter ||| backward, .perform .lineBegin),
    (escape ||| enter ||| forward, .perform .lineEnd),
    (backward ||| forward, .perform .help),
    (backward ||| forward ||| escape, .perform .cursorSize),
    (backward ||| forward ||| enter, .perform .freeze) ]

/-- The buttons that have a meaning in a context. -/
def table : InputContext → List (UInt8 × Command)
  | .normal => normalTable
  | .menu => menuTable

/-- The command of a reported set of buttons. -/
def resolve? (context : InputContext) (byte : UInt8) : Option Command :=
  (table context).lookup byte

end BrailleDisplay.Bookworm
