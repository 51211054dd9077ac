import BrailleDisplay.Bookworm
import BrailleDisplay.Frame
import BrailleDisplay.Key.Event
import BrailleDisplay.Keyset
import BrailleDisplay.Signal

/-!
# Display models

The family of displays is closed: one whose identifier is not in `Model.registry` cannot be driven.
-/
namespace BrailleDisplay

/-- How a display reports its keys. -/
inductive Panel where
  /-- One byte for each press and release; chords are read through a keyset. -/
  | chords (keyset : Keyset)
  /-- The Bookworm's four buttons. -/
  | bookworm
  deriving Repr, DecidableEq

/-- What is known of a kind of display. -/
structure Model where
  name : String
  /-- The byte that follows the announcement. -/
  identifier : UInt8
  columns : UInt8
  statusCells : UInt8
  /-- The host's help page on this display's keys. -/
  helpPage : UInt8
  panel : Panel
  envelope : Envelope := { header := Signal.frameStart }
  /-- Sent once when the session closes. -/
  stop : List UInt8 := []
  deriving Repr, DecidableEq

namespace Model

def geometry (model : Model) : Geometry := ⟨model.columns, model.statusCells⟩

def keyset? (model : Model) : Option Keyset :=
  match model.panel with
  | .chords keyset => some keyset
  | .bookworm => none

def modular20 : Model where
  name := "Modular 20+4"
  identifier := 0x80
  columns := 20
  statusCells := 4
  helpPage := 0
  panel := .chords .modular

def modular40 : Model where
  name := "Modular 40+4"
  identifier := 0x89
  columns := 40
  statusCells := 4
  helpPage := 0
  panel := .chords .modular

def modular80 : Model where
  name := "Modular 80+4"
  identifier := 0x88
  columns := 80
  statusCells := 4
  helpPage := 0
  panel := .chords .modular

def brailleWave : Model where
  name := "Braille Wave"
  identifier := 0x05
  columns := 40
  statusCells := 0
  helpPage := 0
  panel := .chords .brailleWave

def bookworm : Model where
  name := "Bookworm"
  identifier := 0x90
  columns := 8
  statusCells := 0
  helpPage := 1
  panel := .bookworm
  envelope := { header := Signal.frameStart, trailer := Signal.bookwormFrameEnd }
  stop := Signal.bookwormStop

def braillino : Model where
  name := "Braillino"
  identifier := 0x72
  columns := 20
  statusCells := 0
  helpPage := 2
  panel := .chords .brailleStar

def brailleStar40 : Model where
  name := "Braille Star 40"
  identifier := 0x74
  columns := 40
  statusCells := 0
  helpPage := 2
  panel := .chords .brailleStar

def brailleStar80 : Model where
  name := "Braille Star 80"
  identifier := 0x78
  columns := 80
  statusCells := 0
  helpPage := 2
  panel := .chords .brailleStar

/-- Every display that can be driven. -/
def registry : List Model :=
  [ modular20, modular40, modular80, brailleWave, bookworm, braillino, brailleStar40,
    brailleStar80 ]

/-- The display that reports the given identifier. -/
def find? (identifier : UInt8) : Option Model :=
  registry.find? (·.identifier == identifier)

end Model

end BrailleDisplay
