import BrailleDisplay.Config.Reading
import BrailleDisplay.Session.Run
import BrailleDisplay.Transport.Script
import BrailleDisplay.Proofs.Session.History
import BrailleDisplay.Proofs.Session.Step
import BrailleDisplay.Proofs.Session.Path
import BrailleDisplay.Proofs.Session.Opened
import BrailleDisplay.Proofs.Session.Delivery
import BrailleDisplay.Proofs.Session.Pacing
import BrailleDisplay.Proofs.Session.DeadLink
import BrailleDisplay.Proofs.Frame
import BrailleDisplay.Proofs.Key.Chord
import BrailleDisplay.Proofs.Keyboard.History
import BrailleDisplay.Proofs.Session.Reading
import BrailleDisplay.Proofs.Session.Schedule
import BrailleDisplay.Proofs.Session.Loss
import BrailleDisplay.Proofs.Session.Typing
import BrailleDisplay.Proofs.Session.Identification
import BrailleDisplay.Proofs.Session.Isolation
import BrailleDisplay.Proofs.Session.Forgetting
import BrailleDisplay.Proofs.Keyset.BrailleStar
import BrailleDisplay.Proofs.Key.Event
import BrailleDisplay.Proofs.Keyboard.Simulation
import BrailleDisplay.Proofs.Session.Handshake
import BrailleDisplay.Proofs.Session.Keys
import BrailleDisplay.Proofs.Session.Frames
import BrailleDisplay.Proofs.Session.Causes
import BrailleDisplay.Proofs.Session.Reannouncement
import BrailleDisplay.Proofs.Keyset.Mode
import BrailleDisplay.Proofs.Session.Autorepeat
import BrailleDisplay.Proofs.Keyset.Dots
import BrailleDisplay.Proofs.Session.Intake
import BrailleDisplay.Proofs.Keyboard.Mode
import BrailleDisplay.Proofs.Session.Mode
import BrailleDisplay.Proofs.Session.Image
import BrailleDisplay.Proofs.Session.Chunks
import BrailleDisplay.Proofs.Session.Columns
import BrailleDisplay.Proofs.Session.Probes
import BrailleDisplay.Proofs.Session.Strays
import BrailleDisplay.Proofs.Link.History
import BrailleDisplay.Proofs.Config.Datum
import BrailleDisplay.Proofs.Config.Reading
import BrailleDisplay.Proofs.Config.Layout
