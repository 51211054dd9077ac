import BrailleDisplay.Signal
import BrailleDisplay.Transport

/-!
# Scripted transports

A scripted transport has input waiting and may be told in advance how calls of each kind end. Each
call takes the next entry for its kind; without one, it goes well. A describe request that is
accepted brings in the next of the prepared replies.
-/
namespace BrailleDisplay

/-- How a scripted read ends. -/
inductive ReadFate where
  | fine | failed | timedOut
  deriving Repr, DecidableEq

structure ScriptedTransport where
  /-- Bytes that can be read now. -/
  incoming : List UInt8 := []
  /-- What each accepted describe request brings in. -/
  replies : List (List UInt8) := []
  /-- Whether each reset goes well. -/
  resets : List Bool := []
  /-- How many bytes each write accepts; none if it fails. -/
  writes : List (Option Nat) := []
  reads : List ReadFate := []
  /-- What each wait for input answers. -/
  awaits : List Bool := []
  /-- The most bytes that one read gives; zero sets no bound. -/
  chunk : Nat := 0
  deriving Repr, DecidableEq

/-- More script for a transport: every list is added after what is left of it. -/
structure Script where
  incoming : List UInt8 := []
  replies : List (List UInt8) := []
  resets : List Bool := []
  writes : List (Option Nat) := []
  reads : List ReadFate := []
  awaits : List Bool := []
  /-- The new bound on one read, if there is one. -/
  chunk : Option Nat := none
  deriving Repr, DecidableEq

namespace ScriptedTransport

def extend (t : ScriptedTransport) (script : Script) : ScriptedTransport where
  incoming := t.incoming ++ script.incoming
  replies := t.replies ++ script.replies
  resets := t.resets ++ script.resets
  writes := t.writes ++ script.writes
  reads := t.reads ++ script.reads
  awaits := t.awaits ++ script.awaits
  chunk := script.chunk.getD t.chunk

/-- Adds bytes to the waiting input. -/
def receive (t : ScriptedTransport) (bytes : List UInt8) : ScriptedTransport :=
  { t with incoming := t.incoming ++ bytes }

def reset (t : ScriptedTransport) : Except TransportFault Unit × ScriptedTransport :=
  let rest := { t with resets := t.resets.tail }
  if t.resets.head?.getD true then (.ok (), { rest with incoming := [] })
  else (.error ⟨"reset"⟩, rest)

/-- How many bytes a read may give. -/
def readLimit (t : ScriptedTransport) (limit : Nat) : Nat :=
  if t.chunk = 0 then limit else min limit t.chunk

def read (t : ScriptedTransport) (limit : Nat) :
    Except TransportFault (List UInt8) × ScriptedTransport :=
  let rest := { t with reads := t.reads.tail }
  match t.reads.head?.getD .fine with
  | .failed => (.error ⟨"read"⟩, rest)
  | .timedOut => (.ok [], rest)
  | .fine =>
    let taken := t.readLimit limit
    (.ok (t.incoming.take taken), { rest with incoming := t.incoming.drop taken })

/-- The effect of a write of which `accepted` bytes were taken. -/
def answer (t : ScriptedTransport) (data : List UInt8) (accepted : Nat) : ScriptedTransport :=
  if data = [Signal.describe] ∧ accepted = 1 then
    { t with incoming := t.incoming ++ t.replies.head?.getD [], replies := t.replies.tail }
  else t

def write (t : ScriptedTransport) (data : List UInt8) :
    Except TransportFault Nat × ScriptedTransport :=
  let rest := { t with writes := t.writes.tail }
  match t.writes.head?.getD (some data.length) with
  | none => (.error ⟨"write"⟩, rest)
  | some accepted => (.ok accepted, rest.answer data accepted)

def awaitReadable (t : ScriptedTransport) : Bool × ScriptedTransport :=
  (t.awaits.head?.getD (!t.incoming.isEmpty), { t with awaits := t.awaits.tail })

theorem readLimit_le (t : ScriptedTransport) (limit : Nat) : t.readLimit limit ≤ limit := by
  unfold readLimit
  split <;> omega

/-- What a read gives is taken off the front of the waiting input. -/
theorem incoming_read {t rest : ScriptedTransport} {limit : Nat} {bytes : List UInt8}
    (h : t.read limit = (.ok bytes, rest)) :
    t.incoming = bytes ++ rest.incoming ∧ bytes.length ≤ limit := by
  have := t.readLimit_le limit
  unfold read at h
  split at h
  · cases h
  · cases h
    exact ⟨rfl, Nat.zero_le _⟩
  · cases h
    exact ⟨(List.take_append_drop _ _).symm, by rw [List.length_take]; omega⟩

instance : Transport ScriptedTransport where
  reset t _ := t.reset
  read t limit _ := t.read limit
  write := write
  awaitReadable t _ := t.awaitReadable
  backlog t := t.incoming.length
  length_read_le h := (incoming_read h).2
  backlog_read h := Nat.le_of_eq (by rw [(incoming_read h).1, List.length_append])
  backlog_awaitReadable _ _ := Nat.le_refl _

end ScriptedTransport

end BrailleDisplay
