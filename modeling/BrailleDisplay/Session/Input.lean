import BrailleDisplay.Session.Basic
import BrailleDisplay.Signal

/-!
# What a session hears

Each byte is a signal of the link or belongs to the keys, depending on the link's state. `drain`
reads bytes until one of them is a key event or nothing more comes.
-/
namespace BrailleDisplay.Session

variable {T : Type}

/-- What became of a byte. -/
inductive Reaction where
  /-- It concerned the link. -/
  | handled
  /-- It was a key event, which may give a command. -/
  | key (command : Option Command)
  /-- It means nothing in this state. -/
  | unexpected
  deriving Repr, DecidableEq

/-- Gives a byte to the keyboard. -/
def hearKey (session : Session T) (byte : UInt8) : Reaction × Session T :=
  let (keystroke, keyboard) := session.keyboard.decode session.model session.context byte
  let reaction := match keystroke with
    | .command command => .key (some command)
    | .absorbed => .key none
    | .unrecognized => .unexpected
  (reaction, { session with keyboard })

/-- Takes a byte that is neither an announcement nor a confirmed fault. -/
def hearInState (session : Session T) (byte : UInt8) : Reaction × Session T :=
  match session.link.state with
  | .off => (.handled, session)
  | .resetting => (.unexpected, session)
  | .identifying =>
    if byte = session.model.identifier then
      (.handled, { session with
        keyboard := session.keyboard.clear, image := session.image.markDirty }.apply .identified)
    else (.unexpected, session)
  | .writing =>
    if byte = Signal.takenMore then
      (.handled, { session with image := session.image.markDirty }.apply .acknowledged)
    else if byte = Signal.taken then (.handled, session.apply .acknowledged)
    else session.hearKey byte
  | .ready => session.hearKey byte

variable [Transport T]

/-- Takes one byte. A fault report counts only if nothing follows it in time. -/
def hear (session : Session T) (byte : UInt8) : Reaction × Session T :=
  if byte = Signal.fault ∧ session.link.state ≠ .off then
    match session.awaitMore with
    | (true, session) => session.hearInState byte
    | (false, session) => (.handled, session.apply .disconnected)
  else if byte = Signal.announce then (.handled, session.apply .announced)
  else session.hearInState byte

theorem backlog_hearInState (session : Session T) (byte : UInt8) :
    (session.hearInState byte).2.backlog = session.backlog := by
  unfold hearInState
  split <;> (try split) <;> (try split) <;> rfl

theorem backlog_hear (session : Session T) (byte : UInt8) :
    (session.hear byte).2.backlog ≤ session.backlog := by
  have hm := session.backlog_awaitMore
  unfold hear
  split
  · split
    · next rest h => rw [backlog_hearInState]; rwa [h] at hm
    · next rest h => rwa [h] at hm
  · split
    · exact Nat.le_refl _
    · exact Nat.le_of_eq (backlog_hearInState session byte)

/-- How reading came to its end. -/
inductive Drained where
  /-- With a key event. -/
  | key (command : Option Command)
  /-- With nothing more to read; whether anything was read before. -/
  | dry (heard : Bool)
  deriving Repr, DecidableEq

/-- Takes bytes until one of them is a key event or none comes. A failed read ends the link. -/
def drain (session : Session T) (heard : Bool) : Drained × Session T :=
  match _read : session.readByte with
  | (.error _, rest) => (.dry heard, rest.apply .faulted)
  | (.ok none, rest) => (.dry heard, rest)
  | (.ok (some byte), rest) =>
    match (rest.hear byte).1 with
    | .key command => (.key command, (rest.hear byte).2)
    | .handled | .unexpected => (rest.hear byte).2.drain true
termination_by session.backlog
decreasing_by
  all_goals
    have := backlog_readByte _read
    have := backlog_hear rest byte
    omega

end BrailleDisplay.Session
