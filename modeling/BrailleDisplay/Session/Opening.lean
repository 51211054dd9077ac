import BrailleDisplay.Session.Basic
import BrailleDisplay.Signal

/-!
# Opening a session

A session opens once a display has identified itself. Each attempt resets the transport, sends a
describe request and reads the reply: two announcement bytes and an identifier. A failing reset, or
a display that is not known, ends the matter; any other trouble leads to the next attempt.
-/
namespace BrailleDisplay

/-- Why a session did not open. -/
inductive OpenError where
  | transport (fault : TransportFault)
  /-- No attempt got a proper reply. -/
  | noResponse
  | unknownModel (identifier : UInt8)
  | cellMismatch (mismatch : CellMismatch)
  deriving Repr, DecidableEq

namespace Line

variable {T : Type} [Transport T]

/-- Reads until `missing` bytes are there or nothing more comes. -/
def collect (line : Line T) (state : LinkState) (timeout : UInt32) :
    (missing : Nat) → Except TransportFault (List UInt8) × Line T
  | 0 => (.ok [], line)
  | missing + 1 =>
    match line.read state (missing + 1) timeout with
    | (.error fault, rest) => (.error fault, rest)
    | (.ok [], rest) => (.ok [], rest)
    | (.ok (byte :: bytes), rest) =>
      let (more, rest) := rest.collect state timeout (missing - bytes.length)
      (more.map (byte :: bytes ++ ·), rest)

/-- The bytes of a full reply to a describe request. -/
def replyLength : Nat := 3

/-- The identifier that a reply to a describe request names. -/
def identifier? : List UInt8 → Option UInt8
  | [first, second, identifier] =>
    if first = Signal.announce ∧ second = Signal.announce then some identifier else none
  | _ => none

/-- Asks the display to identify itself. -/
def identify (line : Line T) (config : Config) : Option UInt8 × Line T :=
  match line.send .off [Signal.describe] with
  | (false, line) => (none, line)
  | (true, line) =>
    match line.await .off config.identifyWait with
    | (false, line) => (none, line)
    | (true, line) =>
      match line.collect .off config.readTimeout replyLength with
      | (.error _, line) => (none, line)
      | (.ok reply, line) => (identifier? reply, line)

/-- Resets the transport and asks, up to the given number of times. -/
def handshake (config : Config) : (attempts : Nat) → Line T → Except OpenError UInt8 × Line T
  | 0, line => (.error .noResponse, line)
  | attempts + 1, line =>
    match line.reset .off config.serial with
    | (.error fault, line) => (.error (.transport fault), line)
    | (.ok (), line) =>
      match line.identify config with
      | (some identifier, line) => (.ok identifier, line)
      | (none, line) => handshake config attempts line

end Line

/-- How often opening asks before it gives up. -/
def Config.attempts (config : Config) : Nat := max 1 config.openAttempts.toNat

/-- A session that did not open hands its line back. -/
structure Refusal (T : Type) where
  error : OpenError
  line : Line T

namespace Session

variable {T : Type}

/-- A new session with an identified display: nothing is shown, and no key is down. -/
def start (line : Line T) (config : Config) (identifier : UInt8) : Except OpenError (Session T) :=
  match Model.find? identifier with
  | none => .error (.unknownModel identifier)
  | some model =>
    match Image.blank model with
    | .error mismatch => .error (.cellMismatch mismatch)
    | .ok image =>
      .ok { line, model, config, image, link := ({} : Link).apply .opened,
            countdown := config.repeatDelay }

/-- Finds the display on a line and starts a session with it. -/
def connect [Transport T] (line : Line T) (config : Config) : Except (Refusal T) (Session T) :=
  match line.handshake config config.attempts with
  | (.error error, line) => .error ⟨error, line⟩
  | (.ok identifier, line) => (start line config identifier).mapError (⟨·, line⟩)

end Session

end BrailleDisplay
