import BrailleDisplay.Session.Opening
import BrailleDisplay.Session.Poll

/-!
# Runs

The operations that a host may perform on a session, and whole runs of them. Between two of the
host's operations the display may act: it changes the transport from outside, for instance by
sending bytes.
-/
namespace BrailleDisplay

inductive Operation (T : Type) where
  | poll (elapsed : UInt32)
  | write (area : Area) (cells : List Cell)
  | setContext (context : InputContext)
  /-- The display acts on the transport. -/
  | device (act : T → T)

/-- What an operation answers. -/
inductive Outcome where
  | polled (command : Option Command)
  | done
  | refused (mismatch : CellMismatch)
  deriving Repr, DecidableEq

namespace Session

variable {T : Type}

/-- Changes the transport from outside. -/
def onTransport (session : Session T) (act : T → T) : Session T :=
  { session with line := { session.line with transport := act session.line.transport } }

variable [Transport T]

def perform (session : Session T) : Operation T → Outcome × Session T
  | .poll elapsed =>
    let (command, session) := session.poll elapsed
    (.polled command, session)
  | .write area cells =>
    match session.write area cells with
    | .ok session => (.done, session)
    | .error mismatch => (.refused mismatch, session)
  | .setContext context => (.done, session.setContext context)
  | .device act => (.done, session.onTransport act)

/-- Performs operations one after the other and lists their outcomes. -/
def run (session : Session T) : List (Operation T) → List Outcome × Session T
  | [] => ([], session)
  | operation :: operations =>
    let (outcome, session) := session.perform operation
    let (outcomes, session) := session.run operations
    (outcome :: outcomes, session)

end Session

end BrailleDisplay
