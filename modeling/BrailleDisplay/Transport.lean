import BrailleDisplay.Transport.Settings

/-!
# Transports

A transport is the byte stream to a display, a value that answers four kinds of call; each call
yields an answer and the transport after it. Nothing else is assumed of the answers than that a
read keeps to its limit and hands over only bytes that were waiting. `backlog` counts those: a read
that gives something lowers it, so reading until nothing comes ends.
-/
namespace BrailleDisplay

/-- Why a call failed. -/
structure TransportFault where
  message : String
  deriving Repr, DecidableEq

class Transport (T : Type) where
  /-- Applies the settings and throws waiting input away. -/
  reset : T → LineSettings → Except TransportFault Unit × T
  /-- Reads at most `limit` bytes and waits at most `timeout` milliseconds for the first. -/
  read : T → (limit : Nat) → (timeout : UInt32) → Except TransportFault (List UInt8) × T
  /-- Writes bytes and says how many were accepted. -/
  write : T → List UInt8 → Except TransportFault Nat × T
  /-- Waits at most `timeout` milliseconds for input. -/
  awaitReadable : T → (timeout : UInt32) → Bool × T
  /-- How many bytes are waiting to be read. -/
  backlog : T → Nat
  length_read_le {before after : T} {limit : Nat} {timeout : UInt32} {bytes : List UInt8} :
    read before limit timeout = (.ok bytes, after) → bytes.length ≤ limit
  backlog_read {before after : T} {limit : Nat} {timeout : UInt32} {bytes : List UInt8} :
    read before limit timeout = (.ok bytes, after) →
      bytes.length + backlog after ≤ backlog before
  backlog_awaitReadable (before : T) (timeout : UInt32) :
    backlog (awaitReadable before timeout).2 ≤ backlog before

end BrailleDisplay
