import BrailleDisplay.Transport.Settings

/-!
# Configurations

The timing and the patience of a session. Durations are in milliseconds; a default is what the
displays were designed around.
-/
namespace BrailleDisplay

structure Config where
  /-- Applied before each attempt to open. -/
  serial : LineSettings := {}
  /-- How often opening asks the display to identify itself; zero counts as one. -/
  openAttempts : UInt8 := 3
  /-- How long opening waits for the display to answer. -/
  identifyWait : UInt32 := 1000
  /-- How long a read waits for its first byte. -/
  readTimeout : UInt32 := 100
  /-- How soon after a fault report another byte has to come for the report to be ignored. -/
  disconnectGrace : UInt32 := 10
  /-- How long after a describe request another one is sent. -/
  resettingTimeout : UInt32 := 3000
  /-- How long to wait for the identifier. -/
  identifyingTimeout : UInt32 := 1000
  /-- How long to wait for an acknowledgement. -/
  writingTimeout : UInt32 := 1000
  /-- How many retries are made before giving up. -/
  maxRetries : UInt8 := 3
  /-- Polls before a held chord is repeated. -/
  repeatDelay : UInt8 := 10
  /-- Polls from one repetition to the next. -/
  repeatInterval : UInt8 := 3
  deriving Repr, DecidableEq

end BrailleDisplay
