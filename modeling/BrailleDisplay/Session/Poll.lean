import BrailleDisplay.Session.Input
import BrailleDisplay.Session.Output

/-!
# Polling

The host polls a session at regular times. A poll lets time pass on the link and reads what has
come in. If it meets a key event it answers with that. Otherwise it acts on timeouts, unless bytes
came in, and lets a held chord repeat. Before it answers it sends cells that still have to go out.
-/
namespace BrailleDisplay.Session

variable {T : Type} [Transport T]

/-- Counts down to the next repetition of the held chord and repeats it when it is due. -/
def autorepeat (session : Session T) : Option Command × Session T :=
  let session := { session with countdown := countDown session.countdown }
  if session.countdown ≠ 0 then (none, session)
  else if session.link.state.isConnected then
    let (command, keyboard) := session.keyboard.repeatHeld session.model
    let countdown :=
      if command.isSome then session.config.repeatInterval else session.config.repeatDelay
    (command, { session with keyboard, countdown })
  else (none, { session with countdown := session.config.repeatDelay })

/-- Lets time pass on the link. -/
def tick (session : Session T) (elapsed : UInt32) : Session T :=
  { session with link := session.link.tick elapsed }

/-- Lets `elapsed` milliseconds pass and fetches the next command. -/
def poll (session : Session T) (elapsed : UInt32) : Option Command × Session T :=
  match (session.tick elapsed).drain false with
  | (.key command, session) =>
    (command, { session with countdown := session.config.repeatDelay }.flush)
  | (.dry true, session) => session.flush.autorepeat
  | (.dry false, session) => session.recover.flush.autorepeat

end BrailleDisplay.Session
