import BrailleDisplay.Proofs.Session.Path

/-!
# Typing

The part of a session that its keys act on, and what bytes from the keys do to it. While a session
is connected this is all that reading and repeating do to it, whatever else the session has to
see to. Writing leaves it alone.
-/
namespace BrailleDisplay

/-- What a keystroke makes of its byte. -/
def Keystroke.reaction : Keystroke → Session.Reaction
  | .command given => .key (some given)
  | .absorbed => .key none
  | .unrecognized => .unexpected

/-- What the keys of a display act on. -/
structure Typing where
  model : Model
  config : Config
  context : InputContext
  keyboard : Keyboard
  countdown : UInt8

namespace Typing

/-- Takes one byte from the keys. -/
def press (typing : Typing) (byte : UInt8) : Keystroke × Typing :=
  let (keystroke, keyboard) := typing.keyboard.decode typing.model typing.context byte
  (keystroke, { typing with keyboard })

/-- Takes bytes up to the first key event, whose command is given, and leaves the rest. -/
def take (typing : Typing) : List UInt8 → Option (Option Command) × Typing × List UInt8
  | [] => (none, typing, [])
  | byte :: bytes =>
    match typing.press byte with
    | (.command command, typing) => (some (some command), typing, bytes)
    | (.absorbed, typing) => (some none, typing, bytes)
    | (.unrecognized, typing) => typing.take bytes

/-- Counts down to the next repetition of the held chord and repeats it when it is due. -/
def autorepeat (typing : Typing) : Option Command × Typing :=
  let typing := { typing with countdown := countDown typing.countdown }
  if typing.countdown ≠ 0 then (none, typing)
  else
    let (command, keyboard) := typing.keyboard.repeatHeld typing.model
    let countdown :=
      if command.isSome then typing.config.repeatInterval else typing.config.repeatDelay
    (command, { typing with keyboard, countdown })

/-- What a poll does with the bytes that wait for it. -/
def poll (typing : Typing) (waiting : List UInt8) : Option Command × Typing × List UInt8 :=
  match typing.take waiting with
  | (some command, typing, rest) =>
    (command, { typing with countdown := typing.config.repeatDelay }, rest)
  | (none, typing, rest) => (typing.autorepeat.1, typing.autorepeat.2, rest)

variable {typing : Typing} {byte : UInt8} {bytes : List UInt8}

/-- The first key event is where taking ends. -/
theorem take_key {command : Option Command}
    (key : (typing.press byte).1.reaction = .key command) :
    typing.take (byte :: bytes) = (some command, (typing.press byte).2, bytes) := by
  rw [take]
  cases pressed : typing.press byte with
  | mk keystroke next =>
    rw [pressed] at key
    cases keystroke with
    | command | absorbed => cases key; rfl
    | unrecognized => cases key

theorem take_other (other : ∀ command, (typing.press byte).1.reaction ≠ .key command) :
    typing.take (byte :: bytes) = (typing.press byte).2.take bytes := by
  rw [take]
  cases pressed : typing.press byte with
  | mk keystroke next =>
    rw [pressed] at other
    cases keystroke with
    | command | absorbed => exact absurd rfl (other _)
    | unrecognized => rfl

end Typing

namespace Session

variable {T : Type}

def typing (s : Session T) : Typing :=
  ⟨s.model, s.config, s.context, s.keyboard, s.countdown⟩

theorem autorepeat_connected {s : Session T} (connected : s.link.state.isConnected = true) :
    s.autorepeat.1 = s.typing.autorepeat.1 ∧ s.autorepeat.2.typing = s.typing.autorepeat.2 := by
  unfold autorepeat Typing.autorepeat
  dsimp only [typing]
  by_cases waiting : countDown s.countdown ≠ 0
  · simp only [if_pos waiting, and_self]
  · simp only [if_neg waiting, if_pos connected, and_self]

theorem autorepeat_apart {s : Session T} (apart : s.link.state.isConnected = false) :
    s.autorepeat.1 = none ∧ s.autorepeat.2.keyboard = s.keyboard := by
  unfold autorepeat
  dsimp only
  by_cases waiting : countDown s.countdown ≠ 0
  · simp only [if_pos waiting, and_self]
  · simp only [if_neg waiting, apart, Bool.false_eq_true, if_false, and_self]

/-- While the session is connected, a byte that is no acknowledgement comes from the keys. -/
theorem hearInState_connected {s : Session T} (connected : s.link.state.isConnected = true)
    {byte : UInt8} (taken : byte ≠ Signal.taken) (takenMore : byte ≠ Signal.takenMore) :
    s.hearInState byte = s.hearKey byte := by
  unfold hearInState
  cases state : s.link.state with
  | writing => rw [if_neg takenMore, if_neg taken]
  | ready => rfl
  | off | resetting | identifying => simp [state, LinkState.isConnected] at connected

/-- An acknowledgement concerns the link alone. -/
theorem hearInState_acknowledged {s : Session T} (writing : s.link.state = .writing) {byte : UInt8}
    (acknowledged : byte = Signal.taken ∨ byte = Signal.takenMore) :
    (s.hearInState byte).1 = .handled ∧ (s.hearInState byte).2.typing = s.typing ∧
      (s.hearInState byte).2.link.state = .ready := by
  have ready : (s.link.apply .acknowledged).state = .ready := by
    rw [Link.apply_acknowledged writing, Link.state_enter]
  unfold hearInState
  rw [writing]
  dsimp only
  rcases acknowledged with rfl | rfl
  · exact ⟨rfl, rfl, ready⟩
  · exact ⟨rfl, rfl, ready⟩

variable [Transport T]

theorem typing_transmit (s : Session T) : s.transmit.typing = s.typing := by
  unfold transmit
  split
  · rfl
  · next frame _ =>
    obtain ⟨accepted, transport, sent⟩ := s.send_eq frame.bytes
    rw [sent]
    cases accepted == some frame.bytes.length <;> rfl

theorem typing_probe (s : Session T) : s.probe.typing = s.typing := by
  obtain ⟨accepted, transport, sent⟩ := s.send_eq [Signal.describe]
  unfold probe
  rw [sent]
  cases accepted == some [Signal.describe].length <;> rfl

theorem typing_flush (s : Session T) : s.flush.typing = s.typing := by
  unfold flush
  split_ifs
  · exact s.typing_transmit
  · rfl

theorem typing_recover (s : Session T) : s.recover.typing = s.typing := by
  cases s.recovery with
  | rest same => rw [same]
  | giveUp _ _ _ given => rw [given]; rfl
  | probe _ probed => rw [probed, typing_probe]
  | again _ _ _ sent => exact sent ▸ typing_transmit { s with image := s.image.markDirty }

theorem typing_write (s : Session T) (area : Area) (cells : List Cell) :
    (s.perform (.write area cells)).2.typing = s.typing := by
  cases written : s.image.write area cells with
  | error mismatch => rw [perform_refused written]
  | ok image =>
    cases area with
    | main =>
      rw [perform_write (write_main written)]
      exact typing_flush { s with image }
    | status =>
      rw [perform_write (write_status written)]
      rfl

end Session

end BrailleDisplay
