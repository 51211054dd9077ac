import BrailleDisplay.Config
import BrailleDisplay.Image
import BrailleDisplay.Keyboard
import BrailleDisplay.Line
import BrailleDisplay.Link

/-!
# Sessions

A session drives one display over one line: it keeps the link up, shows the host's cells and turns
key bytes into commands. Here are its state and the steps on the line that all its parts share.
-/
namespace BrailleDisplay

structure Session (T : Type) where
  line : Line T
  model : Model
  config : Config
  link : Link
  image : Image
  keyboard : Keyboard := {}
  context : InputContext := .normal
  /-- Polls until a held chord is repeated. -/
  countdown : UInt8

namespace Session

variable {T : Type}

/-- Moves the link on. -/
def apply (session : Session T) (event : LinkEvent) : Session T :=
  { session with link := session.link.apply event }

/-- Tells the session what the host is doing. -/
def setContext (session : Session T) (context : InputContext) : Session T :=
  { session with context }

/-- The calls made since the journal was last taken, and the session without them. -/
def takeJournal (session : Session T) : List Entry × Session T :=
  (session.line.journal, { session with line := { session.line with journal := [] } })

variable [Transport T]

/-- Reads one byte within the configured time. -/
def readByte (session : Session T) : Except TransportFault (Option UInt8) × Session T :=
  let (answer, line) := session.line.readByte session.link.state session.config.readTimeout
  (answer, { session with line })

/-- Writes bytes; whether all of them were accepted. -/
def send (session : Session T) (data : List UInt8) : Bool × Session T :=
  let (sent, line) := session.line.send session.link.state data
  (sent, { session with line })

/-- Whether another byte follows a fault report in time. -/
def awaitMore (session : Session T) : Bool × Session T :=
  let (more, line) := session.line.await session.link.state session.config.disconnectGrace
  (more, { session with line })

/-- How many bytes are waiting to be read. -/
def backlog (session : Session T) : Nat := session.line.backlog

theorem backlog_awaitMore (session : Session T) :
    session.awaitMore.2.backlog ≤ session.backlog :=
  session.line.backlog_await session.link.state session.config.disconnectGrace

theorem backlog_readByte {session rest : Session T} {byte : UInt8}
    (h : session.readByte = (.ok (some byte), rest)) : rest.backlog < session.backlog := by
  simp only [readByte, Prod.mk.injEq] at h
  obtain ⟨ha, rfl⟩ := h
  exact Line.backlog_readByte (Prod.ext ha rfl)

end Session

end BrailleDisplay
