import BrailleDisplay.Session.Basic
import BrailleDisplay.Signal

/-!
# What a session writes

A frame goes out when the link is ready and the display's image has changed; the next one waits for
the acknowledgement. When a poll has read nothing and a timeout has run out, a frame is sent again
or a describe request is sent, as often as the configuration allows.
-/
namespace BrailleDisplay.Session

variable {T : Type} [Transport T]

/-- Sends the image as it is now. -/
def transmit (session : Session T) : Session T :=
  match session.image.frame? session.model.envelope with
  | none => session
  | some frame =>
    match session.send frame.bytes with
    | (true, session) => { session with image := session.image.markClean }.apply .frameSent
    | (false, session) => session.apply .faulted

/-- Sends the image if it has changed and the link is ready. -/
def flush (session : Session T) : Session T :=
  if session.image.dirty ∧ session.link.state.acceptsFrames then session.transmit else session

/-- Sends a describe request. -/
def probe (session : Session T) : Session T :=
  match session.send [Signal.describe] with
  | (true, session) => session.apply .probed
  | (false, session) => session.apply .faulted

/-- Whether the link was retried more often than the configuration allows. -/
def exhausted (session : Session T) : Bool :=
  session.config.maxRetries < session.link.retries

/-- Acts on a timeout of the present state. A frame that is not acknowledged is sent again; after
too many retries the display is asked to identify itself, and after too many requests the link is
given up. -/
def recover (session : Session T) : Session T :=
  match session.link.state with
  | .off | .ready => session
  | .resetting =>
    if session.link.elapsed ≤ session.config.resettingTimeout then session
    else if session.exhausted then session.apply .exhausted
    else session.probe
  | .identifying =>
    if session.link.elapsed ≤ session.config.identifyingTimeout then session
    else session.probe
  | .writing =>
    if session.link.elapsed ≤ session.config.writingTimeout then session
    else if session.exhausted then session.probe
    else { session with image := session.image.markDirty }.transmit

/-- Shows new cells. Main cells go out at once if the link is ready; status cells go with the next
frame. -/
def write (session : Session T) (area : Area) (cells : List Cell) :
    Except CellMismatch (Session T) := do
  let image ← session.image.write area cells
  let written := { session with image }
  return match area with
    | .main => written.flush
    | .status => written

/-- Ends the session and hands the line back. -/
def close (session : Session T) : Line T :=
  if session.model.stop.isEmpty then session.line
  else (session.send session.model.stop).2.line

end BrailleDisplay.Session
