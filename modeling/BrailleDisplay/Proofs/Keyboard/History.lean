import BrailleDisplay.Keyboard
import BrailleDisplay.Proofs.Key.Chord
import BrailleDisplay.Proofs.Key.Event
import Mathlib.Data.List.Induction
import Mathlib.Tactic.SplitIfs

/-!
# The keyboard and its history

A keyboard is used through three calls: bytes are decoded, the held chord is repeated, and every key
is forgotten. `Keyboard.replay` lists what each call was, seen from outside. This list alone
decides which keys are held and whether letting a front key go gives a command: the chord is then
the set of front keys held just before.
-/
namespace BrailleDisplay

/-- A call on a keyboard. -/
inductive KeyCall where
  | decode (context : InputContext) (byte : UInt8)
  | repeatHeld
  | clear
  deriving Repr, DecidableEq

/-- What a call was. -/
inductive KeyMark where
  /-- The byte reported a key event. -/
  | key (event : KeyEvent)
  /-- The byte was not one of this display's keys. -/
  | stray (byte : UInt8)
  | repeated (command : Option Command)
  | cleared
  deriving Repr, DecidableEq

namespace KeyMark

/-- A byte was decoded, or every key forgotten. -/
def isInput : KeyMark → Bool
  | .repeated _ => false
  | _ => true

/-- The mark says whether the front key with this bit number is down. -/
def concerns (bit : UInt8) : KeyMark → Bool
  | .key event => event.key == .front bit
  | .cleared => true
  | _ => false

/-- The mark says whether a chord is to be interpreted: a front key was used, a routing or status
key used the chord up, or so did a repetition. -/
def decides : KeyMark → Bool
  | .key ⟨.front _, _⟩ => true
  | .key ⟨_, released⟩ => !released
  | .repeated command => command.isSome
  | .stray _ => false
  | .cleared => true

/-- A front key went down. -/
def isFrontPress : KeyMark → Bool
  | .key ⟨.front _, false⟩ => true
  | _ => false

end KeyMark

/-- The last mark of a kind. -/
def lastMark (kind : KeyMark → Bool) (marks : List KeyMark) : Option KeyMark :=
  (marks.filter kind).getLast?

/-- The last mark that says whether a chord is to be interpreted is a press of a front key. -/
def chordDue (marks : List KeyMark) : Bool :=
  (lastMark KeyMark.decides marks).any KeyMark.isFrontPress

namespace Keyboard

/-- Makes a call and says what it was. -/
def call (model : Model) (keyboard : Keyboard) : KeyCall → KeyMark × Keyboard
  | .decode context byte =>
    ((KeyEvent.ofByte? model.geometry byte).elim (.stray byte) .key,
      (keyboard.decode model context byte).2)
  | .repeatHeld =>
    let (command, keyboard) := keyboard.repeatHeld model
    (.repeated command, keyboard)
  | .clear => (.cleared, keyboard.clear)

/-- Makes calls on a new keyboard. -/
def replay (model : Model) (calls : List KeyCall) : List KeyMark × Keyboard :=
  calls.foldl (fun (marks, keyboard) call =>
    (marks ++ [(keyboard.call model call).1], (keyboard.call model call).2)) ([], {})

theorem replay_concat (model : Model) (calls : List KeyCall) (last : KeyCall) :
    replay model (calls ++ [last]) =
      ((replay model calls).1 ++ [((replay model calls).2.call model last).1],
        ((replay model calls).2.call model last).2) := by
  simp only [replay, List.foldl_append, List.foldl_cons, List.foldl_nil]

end Keyboard

theorem lastMark_concat (kind : KeyMark → Bool) (marks : List KeyMark) (mark : KeyMark) :
    lastMark kind (marks ++ [mark]) = if kind mark then some mark else lastMark kind marks := by
  unfold lastMark
  split_ifs with h <;> simp [List.filter_append, h]

theorem chordDue_concat (marks : List KeyMark) (mark : KeyMark) :
    chordDue (marks ++ [mark]) = if mark.decides then mark.isFrontPress else chordDue marks := by
  rw [chordDue, lastMark_concat]
  split_ifs
  · rfl
  · rfl

/-! ## What the history says -/

/-- The keys held are those that the history says are down. -/
structure HeldBy (marks : List KeyMark) (held : Chord) : Prop where
  front (bit : UInt8) : bit < 32 → (Holds held.front bit ↔
    lastMark (KeyMark.concerns bit) marks = some (.key ⟨.front bit, false⟩))
  column (column : UInt8) : held.column = some column ↔
    lastMark KeyMark.isInput marks = some (.key ⟨.routing column, false⟩)
  status (index : UInt8) : held.status = some index ↔
    lastMark KeyMark.isInput marks = some (.key ⟨.status index, false⟩)
  single : held.column = none ∨ held.status = none

/-- The keyboard is what the history makes of it. -/
structure Recalls (marks : List KeyMark) (keyboard : Keyboard) : Prop where
  held : HeldBy marks keyboard.held
  pending : keyboard.pending = if chordDue marks then some keyboard.held.front else none

/-- What a key event gives and the input mode after it, by the keys held and the history. -/
def Keyboard.answer (keyset : Keyset) (marks : List KeyMark) (keyboard : Keyboard) :
    KeyEvent → Keystroke × InputMode
  | ⟨.front _, false⟩ => (.command .noop, keyboard.mode)
  | ⟨.routing column, false⟩ =>
    let (command, mode) :=
      keyset.resolve { front := keyboard.held.front, column := some column } keyboard.mode
    (.command (command.getD .noop), mode)
  | ⟨.status index, false⟩ =>
    let (command, mode) :=
      keyset.resolve { front := keyboard.held.front, status := some index } keyboard.mode
    (.command (command.getD .noop), mode)
  | ⟨.front _, true⟩ =>
    if chordDue marks then
      let (command, mode) := keyset.resolve { front := keyboard.held.front } keyboard.mode
      (command.elim .absorbed .command, mode)
    else (.absorbed, keyboard.mode)
  | ⟨_, true⟩ => (.absorbed, keyboard.mode)

theorem recalls_new : Recalls [] {} where
  held := ⟨fun bit _ => by simp [not_holds_zero, lastMark], by simp [lastMark],
    by simp [lastMark], .inl rfl⟩
  pending := rfl

/-! ## Calls -/

/-- After a decoded byte, or once every key is forgotten, the last mark alone says which routing
or status key is being pressed. -/
theorem HeldBy.input {marks : List KeyMark} {held next : Chord} {mark : KeyMark}
    (h : HeldBy marks held) (input : mark.isInput = true)
    (front : ∀ bit < 32, Holds next.front bit ↔
      if mark.concerns bit then mark = .key ⟨.front bit, false⟩ else Holds held.front bit)
    (column : ∀ column, next.column = some column ↔ mark = .key ⟨.routing column, false⟩)
    (status : ∀ index, next.status = some index ↔ mark = .key ⟨.status index, false⟩)
    (single : next.column = none ∨ next.status = none) : HeldBy (marks ++ [mark]) next := by
  refine ⟨?_, ?_, ?_, single⟩
  · intro bit small
    rw [front bit small, lastMark_concat]
    split_ifs
    · rw [Option.some.injEq]
    · exact h.front bit small
  · intro other
    rw [column, lastMark_concat, if_pos input, Option.some.injEq]
  · intro index
    rw [status, lastMark_concat, if_pos input, Option.some.injEq]

/-- A mark that presses no key and lets no front key go leaves the front keys as they are. -/
theorem HeldBy.endPress {marks : List KeyMark} {held : Chord} {mark : KeyMark}
    (h : HeldBy marks held) (input : mark.isInput = true)
    (unconcerned : ∀ bit, mark.concerns bit = false)
    (released : ∀ key, mark ≠ .key ⟨key, false⟩) :
    HeldBy (marks ++ [mark]) { front := held.front } := by
  refine h.input input ?_ ?_ ?_ (.inl rfl)
  · intro bit _
    simp [unconcerned bit]
  · intro column
    simp [released (.routing column)]
  · intro index
    simp [released (.status index)]

namespace Keyboard

theorem held_releaseFront (keyboard : Keyboard) (keyset : Keyset) (bit : UInt8) :
    (keyboard.releaseFront keyset bit).2.held =
      { front := keyboard.held.front &&& ~~~frontKey bit } := by
  unfold releaseFront
  split <;> rfl

theorem held_repeatHeld (keyboard : Keyboard) (model : Model) :
    (keyboard.repeatHeld model).2.held = keyboard.held := by
  unfold repeatHeld
  split
  · rfl
  · split_ifs <;> rfl

theorem pending_releaseFront (keyboard : Keyboard) (keyset : Keyset) (bit : UInt8) :
    (keyboard.releaseFront keyset bit).2.pending = none := by
  unfold releaseFront
  split
  · assumption
  · rfl

end Keyboard

namespace Recalls

variable {marks : List KeyMark} {keyboard : Keyboard}

theorem pressFront (h : Recalls marks keyboard) {bit : UInt8} (small : bit < 32) :
    Recalls (marks ++ [.key ⟨.front bit, false⟩]) (keyboard.pressFront bit).2 := by
  refine ⟨h.held.input rfl ?_ (by simp [Keyboard.pressFront]) (by simp [Keyboard.pressFront])
    (.inl rfl), ?_⟩
  · intro other small'
    rw [Keyboard.pressFront, holds_press small small', KeyMark.concerns]
    by_cases same : bit = other
    · simp [same]
    · simp [same, Ne.symm same]
  · simp [Keyboard.pressFront, chordDue_concat, KeyMark.decides, KeyMark.isFrontPress]

theorem releaseFront (h : Recalls marks keyboard) (keyset : Keyset) {bit : UInt8}
    (small : bit < 32) :
    Recalls (marks ++ [.key ⟨.front bit, true⟩]) (keyboard.releaseFront keyset bit).2 := by
  have held := keyboard.held_releaseFront keyset bit
  have pending := keyboard.pending_releaseFront keyset bit
  refine ⟨held ▸ h.held.input rfl ?_ (by simp) (by simp) (.inl rfl), ?_⟩
  · intro other small'
    rw [holds_release small small', KeyMark.concerns]
    by_cases same : bit = other
    · simp [same]
    · simp [same, Ne.symm same]
  · simp [pending, chordDue_concat, KeyMark.decides, KeyMark.isFrontPress]

theorem pressCell (h : Recalls marks keyboard) (keyset : Keyset) {key : Key} {chord : Chord}
    (cell : ∀ bit, key ≠ .front bit) (front : chord.front = keyboard.held.front)
    (column : ∀ column, chord.column = some column ↔ key = .routing column)
    (status : ∀ index, chord.status = some index ↔ key = .status index)
    (single : chord.column = none ∨ chord.status = none) :
    Recalls (marks ++ [.key ⟨key, false⟩]) (keyboard.pressCell keyset chord).2 := by
  have unconcerned (bit : UInt8) : (KeyMark.key ⟨key, false⟩).concerns bit = false := by
    cases key with
    | front other => exact absurd rfl (cell other)
    | routing | status => rfl
  refine ⟨h.held.input rfl ?_ ?_ ?_ single, ?_⟩
  · intro bit _
    rw [if_neg (by simp [unconcerned bit]), Keyboard.pressCell, front]
  · simpa [Keyboard.pressCell] using column
  · simpa [Keyboard.pressCell] using status
  · cases key with
    | front other => exact absurd rfl (cell other)
    | routing | status =>
      simp [Keyboard.pressCell, chordDue_concat, KeyMark.decides, KeyMark.isFrontPress]

/-- The last press ends with this byte, which changes nothing else. -/
theorem endPress (h : Recalls marks keyboard) {mark : KeyMark} (input : mark.isInput = true)
    (undecided : mark.decides = false) (unconcerned : ∀ bit, mark.concerns bit = false)
    (released : ∀ key, mark ≠ .key ⟨key, false⟩) :
    Recalls (marks ++ [mark]) keyboard.endPress := by
  refine ⟨h.held.endPress input unconcerned released, ?_⟩
  simpa [Keyboard.endPress, chordDue_concat, undecided] using h.pending

theorem event (h : Recalls marks keyboard) (keyset : Keyset) {event : KeyEvent}
    (small : ∀ bit, event.key = .front bit → bit < 32) :
    Recalls (marks ++ [.key event]) (Keyboard.event keyset keyboard.endPress event).2 := by
  match event with
  | ⟨.front bit, false⟩ => exact h.pressFront (small bit rfl)
  | ⟨.front bit, true⟩ => exact h.releaseFront keyset (small bit rfl)
  | ⟨.routing column, false⟩ =>
    exact h.pressCell keyset nofun rfl (by simp) (by simp) (.inr rfl)
  | ⟨.status index, false⟩ =>
    exact h.pressCell keyset nofun rfl (by simp) (by simp) (.inl rfl)
  | ⟨.routing column, true⟩ => exact h.endPress rfl rfl (fun _ => rfl) (by simp)
  | ⟨.status index, true⟩ => exact h.endPress rfl rfl (fun _ => rfl) (by simp)

/-- A key event gives what the history says. -/
theorem event_eq (h : Recalls marks keyboard) (keyset : Keyset) (event : KeyEvent) :
    ((Keyboard.event keyset keyboard.endPress event).1,
      (Keyboard.event keyset keyboard.endPress event).2.mode) =
        keyboard.answer keyset marks event := by
  match event with
  | ⟨.front bit, false⟩ | ⟨.routing column, false⟩ | ⟨.status index, false⟩
  | ⟨.routing column, true⟩ | ⟨.status index, true⟩ => rfl
  | ⟨.front bit, true⟩ =>
    have pending : keyboard.endPress.pending = _ := h.pending
    simp only [Keyboard.event, Keyboard.releaseFront, Keyboard.answer, pending]
    split_ifs <;> rfl

theorem clear (h : Recalls marks keyboard) : Recalls (marks ++ [.cleared]) keyboard.clear := by
  refine ⟨h.held.input rfl ?_ (by simp [Keyboard.clear]) (by simp [Keyboard.clear])
    (.inl rfl), ?_⟩
  · intro bit _
    simp [Keyboard.clear, not_holds_zero, KeyMark.concerns]
  · simp [Keyboard.clear, chordDue_concat, KeyMark.decides, KeyMark.isFrontPress]

/-- A repetition leaves the keys alone, and uses the chord up if it gives a command. -/
theorem repeatHeld (h : Recalls marks keyboard) (model : Model) :
    Recalls (marks ++ [.repeated (keyboard.repeatHeld model).1]) (keyboard.repeatHeld model).2 := by
  have held := keyboard.held_repeatHeld model
  have pending : (keyboard.repeatHeld model).2.pending =
      if (keyboard.repeatHeld model).1.isSome then none else keyboard.pending := by
    unfold Keyboard.repeatHeld
    split
    · rfl
    · split_ifs <;> simp_all
  refine ⟨held ▸ ⟨?_, ?_, ?_, h.held.single⟩, ?_⟩
  · intro bit small
    rw [lastMark_concat]
    exact h.held.front bit small
  · intro column
    rw [lastMark_concat]
    exact h.held.column column
  · intro index
    rw [lastMark_concat]
    exact h.held.status index
  · rw [pending, held, h.pending]
    generalize (keyboard.repeatHeld model).1 = command
    cases command with
    | none => simp [chordDue_concat, KeyMark.decides]
    | some command => simp [chordDue_concat, KeyMark.decides, KeyMark.isFrontPress]

theorem call (h : Recalls marks keyboard) {model : Model} {keyset : Keyset}
    (panel : model.panel = .chords keyset) (call : KeyCall) :
    Recalls (marks ++ [(keyboard.call model call).1]) (keyboard.call model call).2 := by
  cases call with
  | repeatHeld => exact h.repeatHeld model
  | clear => exact h.clear
  | decode context byte =>
    simp only [Keyboard.call, Keyboard.decode, panel, Keyboard.decodeChord]
    cases found : KeyEvent.ofByte? model.geometry byte with
    | none => exact h.endPress rfl rfl (fun _ => rfl) nofun
    | some event =>
      refine h.event keyset ?_
      intro bit front
      obtain ⟨key, released⟩ := event
      cases front
      exact (KeyEvent.code_of_ofByte? found).2

end Recalls

namespace Keyboard

theorem recalls_replay {model : Model} {keyset : Keyset} (panel : model.panel = .chords keyset)
    (calls : List KeyCall) : Recalls (replay model calls).1 (replay model calls).2 := by
  induction calls using List.reverseRecOn with
  | nil => exact recalls_new
  | append_singleton calls last ih =>
    rw [replay_concat]
    exact ih.call panel last

/-- A key event is always recognized. -/
theorem event_ne_unrecognized (keyset : Keyset) (keyboard : Keyboard) (keyEvent : KeyEvent) :
    (event keyset keyboard keyEvent).1 ≠ .unrecognized := by
  match keyEvent with
  | ⟨.front bit, false⟩ | ⟨.routing column, false⟩ | ⟨.status index, false⟩
  | ⟨.routing column, true⟩ | ⟨.status index, true⟩ => exact nofun
  | ⟨.front bit, true⟩ =>
    simp only [event, releaseFront]
    split
    · exact nofun
    · cases (keyset.resolve _ keyboard.mode).1 <;> exact nofun

/-- A byte that is no key event ends the last press at most. -/
theorem decode_stray {keyboard : Keyboard} {model : Model} {context : InputContext} {byte : UInt8}
    (stray : (keyboard.decode model context byte).1 = .unrecognized) :
    (keyboard.decode model context byte).2 = keyboard ∨
      (keyboard.decode model context byte).2 = keyboard.endPress := by
  unfold decode at stray ⊢
  cases panel : model.panel with
  | bookworm => exact .inl rfl
  | chords keyset =>
    simp only [panel, decodeChord] at stray ⊢
    cases found : KeyEvent.ofByte? model.geometry byte with
    | none => exact .inr rfl
    | some event =>
      rw [found] at stray
      exact absurd stray (event_ne_unrecognized keyset _ event)

/-- After any calls on a new keyboard of a display with separate keys, the keys held are those
that the history says are down, a byte is told to be no key event exactly if it is none, and any
other byte gives what the history says. A front key that goes up interprets a chord exactly if one
is due, and that chord is the set of front keys held until then. -/
theorem decode_agrees_with_history {model : Model} {keyset : Keyset}
    (panel : model.panel = .chords keyset) (calls : List KeyCall) :
    let marks := (replay model calls).1
    let keyboard := (replay model calls).2
    HeldBy marks keyboard.held ∧
    ∀ context byte,
      ((keyboard.decode model context byte).1 = .unrecognized ↔
        KeyEvent.ofByte? model.geometry byte = none) ∧
      ∀ event, KeyEvent.ofByte? model.geometry byte = some event →
        ((keyboard.decode model context byte).1, (keyboard.decode model context byte).2.mode) =
          keyboard.answer keyset marks event := by
  intro marks keyboard
  have recalls : Recalls marks keyboard := recalls_replay panel calls
  refine ⟨recalls.held, ?_⟩
  intro context byte
  simp only [decode, panel, decodeChord]
  cases found : KeyEvent.ofByte? model.geometry byte with
  | none => exact ⟨by simp, nofun⟩
  | some event =>
    refine ⟨iff_of_false (event_ne_unrecognized keyset _ event) nofun, ?_⟩
    intro other same
    cases same
    exact recalls.event_eq keyset event

/-- With `b1` and `up` held, letting `up` go gives the command of both. -/
theorem decode_agrees_with_history_chord : Model.modular40.panel = .chords .modular ∧
    ((replay Model.modular40 [.decode .normal 0x03, .decode .normal 0x04]).2.decode
      Model.modular40 .normal 0x84).1 = .command (.perform .lineBegin) := by
  have panel : Model.modular40.panel = .chords .modular := rfl
  have agrees := decode_agrees_with_history panel [.decode .normal 0x03, .decode .normal 0x04]
  have answered := (agrees.2 .normal 0x84).2 ⟨.front 0x04, true⟩ (by decide)
  exact ⟨panel, (congrArg Prod.fst answered).trans (by decide)⟩

end Keyboard

end BrailleDisplay
