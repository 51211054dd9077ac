import BrailleDisplay.Model

/-!
# The keyboard of a display

`Keyboard` is what is known of a display's keys while bytes come in. Front keys gather into a chord
that is interpreted once, when the first of its keys is let go. A routing or status key acts as
soon as it is pressed, together with the front keys held at that moment, and uses their chord up.
-/
namespace BrailleDisplay

/-- Keys that are down, and the front keys whose chord is still to be interpreted. -/
structure Keyboard where
  held : Chord := {}
  pending : Option FrontKeys := none
  mode : InputMode := .commands
  deriving Repr, DecidableEq

/-- What a byte from the keys turned out to be. -/
inductive Keystroke where
  | command (command : Command)
  /-- A key event that gives nothing. -/
  | absorbed
  /-- Not a key event of this display. -/
  | unrecognized
  deriving Repr, DecidableEq

namespace Keyboard

/-- Forgets every key; the input mode stays. -/
def clear (keyboard : Keyboard) : Keyboard :=
  { keyboard with held := {}, pending := none }

/-- Forgets the routing or status key of the last event. -/
def endPress (keyboard : Keyboard) : Keyboard :=
  { keyboard with held := { front := keyboard.held.front } }

/-- A routing or status key goes down with the front keys in `chord`. It uses up their chord, and
gives a command even where the keyset knows none. -/
def pressCell (keyset : Keyset) (keyboard : Keyboard) (chord : Chord) : Keystroke × Keyboard :=
  let (command, mode) := keyset.resolve chord keyboard.mode
  (.command (command.getD .noop), { held := chord, pending := none, mode })

/-- A front key goes down: the keys now held are the chord to be interpreted. -/
def pressFront (keyboard : Keyboard) (bit : UInt8) : Keystroke × Keyboard :=
  let front := keyboard.held.front ||| frontKey bit
  (.command .noop, { keyboard with held := { front }, pending := some front })

/-- A front key goes up. The pending chord, if there is one, is interpreted now. -/
def releaseFront (keyset : Keyset) (keyboard : Keyboard) (bit : UInt8) : Keystroke × Keyboard :=
  let held : Chord := { front := keyboard.held.front &&& ~~~frontKey bit }
  match keyboard.pending with
  | none => (.absorbed, { keyboard with held })
  | some front =>
    let (command, mode) := keyset.resolve { front } keyboard.mode
    (command.elim .absorbed .command, { held, pending := none, mode })

/-- Takes one event of a key. -/
def event (keyset : Keyset) (keyboard : Keyboard) : KeyEvent → Keystroke × Keyboard
  | ⟨.front bit, false⟩ => keyboard.pressFront bit
  | ⟨.front bit, true⟩ => releaseFront keyset keyboard bit
  | ⟨.routing column, false⟩ =>
    pressCell keyset keyboard { front := keyboard.held.front, column := some column }
  | ⟨.status index, false⟩ =>
    pressCell keyset keyboard { front := keyboard.held.front, status := some index }
  | ⟨_, true⟩ => (.absorbed, keyboard)

/-- Takes one byte from a display with separate keys. -/
def decodeChord (geometry : Geometry) (keyset : Keyset) (keyboard : Keyboard) (byte : UInt8) :
    Keystroke × Keyboard :=
  match KeyEvent.ofByte? geometry byte with
  | none => (.unrecognized, keyboard.endPress)
  | some keyEvent => event keyset keyboard.endPress keyEvent

/-- Takes one byte from the keys of a connected display. -/
def decode (model : Model) (context : InputContext) (keyboard : Keyboard) (byte : UInt8) :
    Keystroke × Keyboard :=
  match model.panel with
  | .chords keyset => decodeChord model.geometry keyset keyboard byte
  | .bookworm => ((Bookworm.resolve? context byte).elim .unrecognized .command, keyboard)

/-- Interprets the held front keys once more. Once they have given a command this way, letting them
go gives none. -/
def repeatHeld (model : Model) (keyboard : Keyboard) : Option Command × Keyboard :=
  match model.keyset? with
  | none => (none, keyboard)
  | some keyset =>
    if keyboard.held.isFrontOnly then
      let (command, mode) := keyset.resolve keyboard.held keyboard.mode
      let pending := if command.isSome then none else keyboard.pending
      (command, { keyboard with mode, pending })
    else (none, keyboard)

end Keyboard

end BrailleDisplay
