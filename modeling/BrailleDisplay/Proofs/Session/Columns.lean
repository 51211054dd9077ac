import BrailleDisplay.Proofs.Session.Intake
import BrailleDisplay.Proofs.Session.Opened
import BrailleDisplay.Proofs.Session.Unseen

/-!
# Columns of commands

A command that names a column names the one whose routing key has just been pressed. Keysets take a
column from the chord alone, chords of front keys have none, and a press gives one only if it lies
on the display. So neither a release nor a repetition gives such a command, and no session ever
answers with a column that its display does not have.
-/
namespace BrailleDisplay

/-- The column that a command names. Function keys are counted by columns, too. -/
def Command.column? : Command → Option UInt8
  | .atColumn _ column => some column
  | .typeKey (.function number) => some number
  | _ => none

/-! ## Keysets -/

/-- What is looked up is an entry of the table. -/
theorem of_lookup {α β : Type} [BEq α] [LawfulBEq α] {table : List (α × β)} {key : α} {value : β}
    {P : β → Prop} (all : ∀ entry ∈ table, P entry.2) (found : table.lookup key = some value) :
    P value := by
  obtain ⟨before, after, rfl, _⟩ := List.lookup_eq_some_iff.mp found
  exact all (key, value) (by simp)

namespace Modular

theorem column_resolveFront {front : FrontKeys} {mode : InputMode} {command : Command}
    (given : (resolveFront front mode).1 = some command) : command.column? = none := by
  have listed (found : (frontTable.lookup front).map Command.perform = some command) :
      command.column? = none := by
    obtain ⟨action, _, rfl⟩ := Option.map_eq_some_iff.mp found
    rfl
  have typed (found : typed? front = some command) : command.column? = none := by
    unfold typed? at found
    split_ifs at found <;> cases found <;> rfl
  unfold resolveFront at given
  split_ifs at given
  cases mode with
  | commands => exact listed given
  | dots =>
    rcases Option.or_eq_some_iff.mp given with found | ⟨_, found⟩
    · exact typed found
    · exact listed found

theorem column_resolve {chord : Chord} {mode : InputMode} {command : Command} {column : UInt8}
    (given : (resolve chord mode).1 = some command) (named : command.column? = some column) :
    chord.column = some column := by
  unfold resolve at given
  split at given
  · next pressed _ held =>
    obtain ⟨action, _, rfl⟩ := Option.map_eq_some_iff.mp given
    exact held.trans named
  · obtain ⟨action, _, rfl⟩ := Option.map_eq_some_iff.mp given
    cases named
  · rw [column_resolveFront given] at named
    cases named

end Modular

namespace BrailleStar

theorem column_rocker? {chord : Chord} {command : Command} {column : UInt8}
    (given : rocker? chord = some command) (named : command.column? = some column) :
    chord.column = some column := by
  unfold rocker? at given
  split at given
  · next pressed _ held =>
    split_ifs at given
    · cases given
      exact held.trans named
    · obtain ⟨action, _, rfl⟩ := Option.map_eq_some_iff.mp given
      exact held.trans named
  · cases given
  · have unnamed : command.column? = none :=
      of_lookup (P := fun command => command.column? = none) (by decide) given
    rw [unnamed] at named
    cases named

theorem column_resolve {chord : Chord} {mode : InputMode} {command : Command} {column : UInt8}
    (given : (resolve chord mode).1 = some command) (named : command.column? = some column) :
    chord.column = some column := by
  unfold resolve at given
  split at given
  · next rocked =>
    cases given
    exact column_rocker? rocked named
  · split_ifs at given
    have held : (asModular chord).column = some column := Modular.column_resolve given named
    exact held

end BrailleStar

/-- A keyset takes the column of a command from the chord. -/
theorem Keyset.column_resolve {keyset : Keyset} {chord : Chord} {mode : InputMode}
    {command : Command} {column : UInt8} (given : (keyset.resolve chord mode).1 = some command)
    (named : command.column? = some column) : chord.column = some column := by
  cases keyset with
  | modular | brailleWave => exact Modular.column_resolve given named
  | brailleStar => exact BrailleStar.column_resolve given named

/-- The Bookworm has one command that names a column, the first one. -/
theorem Bookworm.column_resolve? {context : InputContext} {byte column : UInt8} {command : Command}
    (given : resolve? context byte = some command) (named : command.column? = some column) :
    column = 0 := by
  have first : command.column?.all (· == 0) = true := by
    refine of_lookup (P := fun command => command.column?.all (· == 0) = true) ?_ given
    cases context <;> decide
  rw [named] at first
  exact eq_of_beq first

/-! ## Keyboards -/

namespace Keyboard

variable {keyboard : Keyboard} {command : Command} {column : UInt8}

theorem column_pressCell {keyset : Keyset} {chord : Chord}
    (given : (keyboard.pressCell keyset chord).1 = .command command)
    (named : command.column? = some column) : chord.column = some column := by
  have given : (keyset.resolve chord keyboard.mode).1.getD .noop = command :=
    Keystroke.command.inj given
  cases resolved : (keyset.resolve chord keyboard.mode).1 with
  | none =>
    rw [resolved] at given
    cases given
    cases named
  | some other =>
    rw [resolved] at given
    cases given
    exact Keyset.column_resolve resolved named

/-- Letting a front key go gives no command that names a column. -/
theorem column_releaseFront {keyset : Keyset} {bit : UInt8}
    (given : (releaseFront keyset keyboard bit).1 = .command command) :
    command.column? ≠ some column := by
  intro named
  unfold releaseFront at given
  split at given
  · cases given
  · next front _ =>
    cases resolved : (keyset.resolve { front } keyboard.mode).1 with
    | none => simp [resolved] at given
    | some other =>
      obtain rfl : other = command := by simpa [resolved] using given
      cases Keyset.column_resolve resolved named

/-- Only the press of a routing key gives a command that names a column, its own. -/
theorem column_event {keyset : Keyset} {keyEvent : KeyEvent}
    (given : (event keyset keyboard keyEvent).1 = .command command)
    (named : command.column? = some column) : keyEvent = ⟨.routing column, false⟩ := by
  match keyEvent with
  | ⟨.front bit, false⟩ =>
    cases given
    cases named
  | ⟨.front bit, true⟩ => exact absurd named (column_releaseFront given)
  | ⟨.routing pressed, false⟩ =>
    cases column_pressCell given named
    rfl
  | ⟨.status index, false⟩ => cases column_pressCell given named
  | ⟨.routing _, true⟩ | ⟨.status _, true⟩ => cases given

/-- On any display with separate keys, a command that names a column comes from the press of the
routing key there. -/
theorem column_decode {model : Model} {keyset : Keyset} (panel : model.panel = .chords keyset)
    {context : InputContext} {byte : UInt8}
    (given : (keyboard.decode model context byte).1 = .command command)
    (named : command.column? = some column) :
    KeyEvent.ofByte? model.geometry byte = some ⟨.routing column, false⟩ := by
  simp only [decode, panel, decodeChord] at given
  cases found : KeyEvent.ofByte? model.geometry byte with
  | none =>
    rw [found] at given
    cases given
  | some keyEvent =>
    rw [found] at given
    rw [column_event given named]

theorem column_repeatHeld {model : Model} (given : (keyboard.repeatHeld model).1 = some command) :
    command.column? ≠ some column := by
  intro named
  unfold repeatHeld at given
  split at given
  · cases given
  · split_ifs at given with alone
    · have held := Keyset.column_resolve given named
      simp [Chord.isFrontOnly, held] at alone

end Keyboard

/-! ## Sessions -/

theorem Model.cellsIn_pos {model : Model} (h : model ∈ Model.registry) :
    0 < model.cellsIn .main := by
  revert model
  decide

namespace Session

variable {T : Type} {command : Command} {column : UInt8}

theorem column_autorepeat {s : Session T} (given : s.autorepeat.1 = some command) :
    command.column? ≠ some column := by
  have repeated : (s.keyboard.repeatHeld s.model).1 = some command := by
    unfold autorepeat at given
    dsimp only at given
    split_ifs at given <;> exact given
  exact Keyboard.column_repeatHeld repeated

variable [Transport T]

theorem Intake.model_eq {s stop : Session T} {taken : List (Heard T)} (h : s.Intake taken stop) :
    ∀ heard ∈ taken, heard.session.model = s.model := by
  induction h with
  | nil => exact List.forall_mem_nil _
  | @cons s rest stop byte more read later ih =>
    obtain ⟨_, hearing⟩ := hearing_hear read
    obtain ⟨transport, rfl⟩ := readByte_eq read
    refine List.forall_mem_cons.mpr ⟨rfl, fun heard inside => ?_⟩
    exact (ih heard inside).trans hearing.model_eq

/-- A command that names a column comes from the last byte that the poll reads. -/
theorem column_poll {s : Session T} {elapsed : UInt32} (given : (s.poll elapsed).1 = some command)
    (named : command.column? = some column) :
    ∃ before byte, bytesIn (s.events (.poll elapsed)) = before ++ [byte] ∧
      ∃ (keyboard : Keyboard) (context : InputContext),
        (keyboard.decode s.model context byte).1 = .command command := by
  obtain ⟨taken, drains⟩ := (s.tick elapsed).exists_drains false
  rw [poll_eq] at given
  cases drained : (s.tick elapsed).drain false with
  | mk outcome t =>
    rw [drained] at drains given
    cases drains with
    | @key others last answer t intake _ answers =>
      obtain ⟨calls, journal, heard, _⟩ := intake.calls
      have handed := (poll_read drained journal).1
      obtain rfl : answer = some command := given
      have model : last.session.model = s.model := intake.model_eq last (by simp)
      have decoded := answers.2
      refine ⟨others.map Heard.byte, last.byte, ?_, last.session.keyboard, last.session.context, ?_⟩
      · rw [handed, heard, List.map_append, List.map_singleton]
      · rw [← model]
        cases keystroke : (last.session.keyboard.decode last.session.model last.session.context
            last.byte).1 with
        | command other =>
          rw [keystroke] at decoded
          cases decoded
          rfl
        | absorbed | unrecognized =>
          rw [keystroke] at decoded
          cases decoded
    | dry any =>
      cases any with
      | true => exact absurd named (column_autorepeat given)
      | false => exact absurd named (column_autorepeat given)

/-- Commands stay on the display. On any display with separate keys, whatever its keyboard has been
through, a byte that gives a command naming a column is the press of the routing key there, which
lies on the display. So after any operations on a session with a supported display, a poll answers
with such a command only if the column is one of the main cells; unless the display is a Bookworm,
the last byte that the poll has read is the press of the routing key there. A repetition never gives
such a command. -/
theorem columns_stay_on_display {s : Session T} (supported : s.model ∈ Model.registry)
    (operations : List (Operation T)) (elapsed : UInt32) :
    let session := (s.run operations).2
    (∀ command column, (session.poll elapsed).1 = some command → command.column? = some column →
      column.toNat < s.model.cellsIn .main ∧
      (s.model.panel ≠ .bookworm → ∃ before,
        bytesIn (session.events (.poll elapsed)) = before ++ [0x20 + column] ∧
        KeyEvent.ofByte? s.model.geometry (0x20 + column) = some ⟨.routing column, false⟩)) ∧
    (∀ command column, session.autorepeat.1 = some command → command.column? ≠ some column) ∧
    ∀ (model : Model) keyset, model.panel = .chords keyset →
      ∀ (keyboard : Keyboard) context byte command column,
        (keyboard.decode model context byte).1 = .command command →
        command.column? = some column →
        column < model.columns ∧ byte = 0x20 + column ∧
        KeyEvent.ofByte? model.geometry byte = some ⟨.routing column, false⟩ := by
  intro session
  have same : session.model = s.model := (run_path s operations []).model_eq
  have pressed (model : Model) keyset (panel : model.panel = .chords keyset) (keyboard : Keyboard)
      context byte command column
      (given : (keyboard.decode model context byte).1 = .command command)
      (named : command.column? = some column) : column < model.columns ∧ byte = 0x20 + column ∧
        KeyEvent.ofByte? model.geometry byte = some ⟨.routing column, false⟩ := by
    have found := Keyboard.column_decode panel given named
    obtain ⟨on, number⟩ := KeyEvent.routing_of_ofByte? found
    refine ⟨on, ?_, found⟩
    have bound := byte.toNat_lt
    rw [← UInt8.toNat_inj, UInt8.toNat_add, number]
    exact (Nat.mod_eq_of_lt (number ▸ bound)).symm
  refine ⟨?_, fun _ _ => column_autorepeat, pressed⟩
  intro command column given named
  obtain ⟨before, byte, handed, keyboard, context, decoded⟩ := column_poll given named
  rw [same] at decoded
  cases panel : s.model.panel with
  | chords keyset =>
    obtain ⟨on, rfl, found⟩ := pressed _ _ panel _ _ _ _ _ decoded named
    exact ⟨UInt8.lt_iff_toNat_lt.mp on, fun _ => ⟨before, handed, found⟩⟩
  | bookworm =>
    have resolved : Bookworm.resolve? context byte = some command := by
      simp only [Keyboard.decode, panel] at decoded
      cases given : Bookworm.resolve? context byte with
      | none => simp [given] at decoded
      | some other => simpa [given] using decoded
    obtain rfl := Bookworm.column_resolve? resolved named
    exact ⟨Model.cellsIn_pos supported, fun other => absurd rfl other⟩

/-- With the left rocker held at both ends, the last routing key of a Braille Star is its last
function key. -/
theorem columns_stay_on_display_function : ∃ opened : Session ScriptedTransport,
    connect ⟨{ replies := [[0xFE, 0xFE, 0x74]] }, []⟩ {} = .ok opened ∧
    opened.model ∈ Model.registry ∧
    let s := (opened.run [.device (·.receive [0x0C, 0x14, 0x47, 0xC7]), .poll 5, .poll 5]).2
    (s.poll 5).1 = some (.typeKey (.function 39)) ∧ 39 < opened.model.cellsIn .main ∧
    ∃ before, bytesIn (s.events (.poll 5)) = before ++ [0x47] := by
  let operations : List (Operation ScriptedTransport) :=
    [.device (·.receive [0x0C, 0x14, 0x47, 0xC7]), .poll 5, .poll 5]
  obtain ⟨opened, connected⟩ := exists_connect (T := ScriptedTransport)
    ⟨{ replies := [[0xFE, 0xFE, 0x74]] }, []⟩ {} (by decide +kernel)
  have supported : opened.model ∈ Model.registry := (fits_of_connect connected).supported
  have separate : decide (opened.model.panel ≠ .bookworm) = true :=
    of_connect connected (fun s => decide (s.model.panel ≠ .bookworm)) (by decide +kernel)
  have given : ((opened.run operations).2.poll 5).1 = some (.typeKey (.function 39)) :=
    of_connect connected (fun s => ((s.run operations).2.poll 5).1) (by decide +kernel)
  obtain ⟨below, press⟩ :=
    (columns_stay_on_display supported operations 5).1 _ 39 given rfl
  obtain ⟨before, handed, _⟩ := press (of_decide_eq_true separate)
  exact ⟨opened, connected, supported, given, below, before, handed⟩

end Session

end BrailleDisplay
