import BrailleDisplay.Link.State
import BrailleDisplay.Saturating

/-!
# The link

`Link` adds to the state of the link how long it has been in it and how often it was entered again
without leaving. Timeouts and giving up are decided on these two numbers.
-/
namespace BrailleDisplay

structure Link where
  state : LinkState := .off
  /-- Milliseconds since the state was last entered. -/
  elapsed : UInt32 := 0
  /-- How often the state was entered again since it was reached. -/
  retries : UInt8 := 0
  deriving Repr, DecidableEq

namespace Link

/-- Lets time pass. -/
def tick (link : Link) (elapsed : UInt32) : Link :=
  { link with elapsed := addCapped link.elapsed elapsed }

/-- Enters a state, which is a retry if the link is in it already. -/
def enter (link : Link) (state : LinkState) : Link :=
  { state, elapsed := 0, retries := if state = link.state then countUp link.retries else 0 }

/-- Takes an event, and tells which state it led to. -/
def advance (link : Link) (event : LinkEvent) : Option LinkState × Link :=
  match link.state.next? event with
  | some state => (some state, link.enter state)
  | none => (none, link)

/-- Takes an event. -/
def apply (link : Link) (event : LinkEvent) : Link :=
  match link.state.next? event with
  | some state => link.enter state
  | none => link

end Link

end BrailleDisplay
