/-!
# Link states

The states of the link to a display and the events that move it. `next?` is the whole table: an
event without an entry is ignored, and an event that leads back to the same state counts as a
retry.
-/
namespace BrailleDisplay

inductive LinkState where
  /-- There is no link. -/
  | off
  /-- A describe request was sent; nothing has come back. -/
  | resetting
  /-- The display has announced itself; its identifier is to follow. -/
  | identifying
  /-- Nothing is under way. -/
  | ready
  /-- A frame was sent and is not acknowledged yet. -/
  | writing
  deriving Repr, DecidableEq

inductive LinkEvent where
  /-- Opening the session identified the display. -/
  | opened
  /-- The display announced itself. -/
  | announced
  /-- The display named the identifier of the session's model. -/
  | identified
  /-- The display took the last frame. -/
  | acknowledged
  | frameSent
  /-- A describe request was sent. -/
  | probed
  /-- The display reported a fault and went quiet. -/
  | disconnected
  /-- The transport failed. -/
  | faulted
  /-- The display did not answer any of the describe requests. -/
  | exhausted
  deriving Repr, DecidableEq

namespace LinkEvent

/-- Whether the event gives the link up. -/
def isFailure : LinkEvent → Bool
  | .disconnected | .faulted | .exhausted => true
  | _ => false

end LinkEvent

namespace LinkState

/-- Whether the display is identified and its keys are listened to. -/
def isConnected : LinkState → Bool
  | .ready | .writing => true
  | _ => false

/-- Whether a new frame may be sent. -/
def acceptsFrames : LinkState → Bool
  | .ready => true
  | _ => false

/-- The state that an event leads to. -/
def next? : LinkState → LinkEvent → Option LinkState
  | .off, .opened => some .ready
  | _, .announced => some .identifying
  | .identifying, .identified => some .ready
  | .ready, .frameSent | .writing, .frameSent => some .writing
  | .writing, .acknowledged => some .ready
  | .resetting, .probed | .identifying, .probed | .writing, .probed => some .resetting
  | .off, .disconnected => none
  | _, .disconnected | _, .faulted | _, .exhausted => some .off
  | _, _ => none

end LinkState

end BrailleDisplay
