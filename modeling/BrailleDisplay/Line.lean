import BrailleDisplay.Link.State
import BrailleDisplay.Text.Hex
import BrailleDisplay.Transport

/-!
# The line to a display

`Line` is a transport with a journal of the calls made on it, in order, each with its answer and
the link state in which it was made. All of a session's traffic goes through a line, so the journal
shows everything that was read and written.
-/
namespace BrailleDisplay

/-- One call on the transport and how it ended. -/
inductive Call where
  | reset (settings : LineSettings) (done : Bool)
  /-- No bytes are noted if the read failed. -/
  | read (limit : Nat) (timeout : UInt32) (bytes : Option (List UInt8))
  /-- No number is noted if the write failed. -/
  | write (data : List UInt8) (accepted : Option Nat)
  | await (timeout : UInt32) (readable : Bool)
  deriving Repr, DecidableEq

/-- The call in words. -/
def Call.text : Call → String
  | .reset settings done => "reset " ++ settings.text ++ (if done then ": ok" else ": fail")
  | .read limit timeout bytes =>
    "read " ++ toString limit ++ "@" ++ toString timeout.toNat ++ ": "
      ++ bytes.elim "fail" Hex.encode
  | .write data accepted => "write " ++ Hex.encode data ++ ": " ++ accepted.elim "fail" toString
  | .await timeout readable => "await " ++ toString timeout.toNat ++ ": " ++ toString readable

/-- A call and the link state in which it was made. -/
structure Entry where
  state : LinkState
  call : Call
  deriving Repr, DecidableEq

structure Line (T : Type) where
  transport : T
  journal : List Entry := []

namespace Line

variable {T : Type}

/-- The line with the transport after a call, which is noted. -/
def after (line : Line T) (state : LinkState) (call : Call) (transport : T) : Line T :=
  { transport, journal := line.journal ++ [⟨state, call⟩] }

variable [Transport T]

def reset (line : Line T) (state : LinkState) (settings : LineSettings) :
    Except TransportFault Unit × Line T :=
  let (answer, transport) := Transport.reset line.transport settings
  (answer, line.after state (.reset settings answer.toOption.isSome) transport)

def read (line : Line T) (state : LinkState) (limit : Nat) (timeout : UInt32) :
    Except TransportFault (List UInt8) × Line T :=
  let (answer, transport) := Transport.read line.transport limit timeout
  (answer, line.after state (.read limit timeout answer.toOption) transport)

/-- Reads one byte; none if nothing comes in time. -/
def readByte (line : Line T) (state : LinkState) (timeout : UInt32) :
    Except TransportFault (Option UInt8) × Line T :=
  let (answer, rest) := line.read state 1 timeout
  (answer.map List.head?, rest)

/-- Writes bytes; whether all of them were accepted. -/
def send (line : Line T) (state : LinkState) (data : List UInt8) : Bool × Line T :=
  let (answer, transport) := Transport.write line.transport data
  (answer.toOption == some data.length,
    line.after state (.write data answer.toOption) transport)

def await (line : Line T) (state : LinkState) (timeout : UInt32) : Bool × Line T :=
  let (readable, transport) := Transport.awaitReadable line.transport timeout
  (readable, line.after state (.await timeout readable) transport)

/-- How many bytes are waiting to be read. -/
def backlog (line : Line T) : Nat := Transport.backlog line.transport

theorem backlog_read {line rest : Line T} {state : LinkState} {limit : Nat} {timeout : UInt32}
    {bytes : List UInt8} (h : line.read state limit timeout = (.ok bytes, rest)) :
    bytes.length + rest.backlog ≤ line.backlog := by
  simp only [read, Prod.mk.injEq] at h
  obtain ⟨answer, rfl⟩ := h
  exact Transport.backlog_read (Prod.ext answer rfl)

theorem backlog_readByte {line rest : Line T} {state : LinkState} {timeout : UInt32} {byte : UInt8}
    (h : line.readByte state timeout = (.ok (some byte), rest)) : rest.backlog < line.backlog := by
  cases hr : line.read state 1 timeout with
  | mk answer next =>
    cases answer with
    | error fault => simp [readByte, hr, Except.map] at h
    | ok bytes =>
      simp only [readByte, hr, Except.map, Prod.mk.injEq, Except.ok.injEq] at h
      obtain ⟨hb, rfl⟩ := h
      have := backlog_read hr
      have := List.length_pos_of_mem (List.mem_of_mem_head? hb)
      omega

theorem backlog_await (line : Line T) (state : LinkState) (timeout : UInt32) :
    (line.await state timeout).2.backlog ≤ line.backlog :=
  Transport.backlog_awaitReadable line.transport timeout

end Line

end BrailleDisplay
