import BrailleDisplay.Proofs.Session.History
import Mathlib.Logic.Relation

/-!
# Steps of a session

An `Execution` is a session together with what has happened to it. `Step` lists everything that a
session ever does at once, each with the conditions under which it does it, and with the events
that it leaves in the history. What the transport answers is left open, so a step can be
taken with any transport afterwards. `Proofs.Session.Path` shows that every operation is a path of
such steps; a property that every step keeps is therefore kept by every run.
-/
namespace BrailleDisplay

/-- The session after a call, which leaves the given transport. -/
def Session.after {T : Type} (session : Session T) (call : Call) (transport : T) : Session T :=
  { session with line := session.line.after session.link.state call transport }

theorem Session.retries_le {T : Type} {s : Session T} (h : s.exhausted = false) :
    s.link.retries ≤ s.config.maxRetries :=
  UInt8.not_lt.mp (of_decide_eq_false h)

/-- A describe request is due: a timeout has run out, and the retries do not ask for anything
else. -/
def Session.ProbeDue {T : Type} (s : Session T) : Prop :=
  s.link.state = .resetting ∧ s.config.resettingTimeout < s.link.elapsed ∧ s.exhausted = false ∨
  s.link.state = .identifying ∧ s.config.identifyingTimeout < s.link.elapsed ∨
  s.link.state = .writing ∧ s.config.writingTimeout < s.link.elapsed ∧ s.exhausted = true

theorem Session.ProbeDue.state {T : Type} {s : Session T} (due : s.ProbeDue) :
    s.link.state = .resetting ∨ s.link.state = .identifying ∨ s.link.state = .writing :=
  due.imp And.left (.imp And.left And.left)

theorem Session.ProbeDue.waits {T : Type} {s : Session T} (due : s.ProbeDue) :
    s.link.state ≠ .off ∧ s.link.state ≠ .ready := by
  rcases due.state with state | state | state <;> simp [state]

@[simp] theorem Session.link_apply {T : Type} (session : Session T) (event : LinkEvent) :
    (session.apply event).link = session.link.apply event := rfl

structure Execution (T : Type) where
  session : Session T
  history : List Event := []

namespace Execution

variable {T : Type}

/-- The link state. -/
def state (x : Execution T) : LinkState := x.session.link.state

def map (x : Execution T) (f : Session T → Session T) : Execution T :=
  { x with session := f x.session }

@[simp] theorem state_map (x : Execution T) (f : Session T → Session T) :
    (x.map f).state = (f x.session).link.state := rfl

def note (x : Execution T) (event : Event) : Execution T :=
  { x with history := x.history ++ [event] }

def call (x : Execution T) (call : Call) (transport : T) : Execution T where
  session := x.session.after call transport
  history := x.history ++ [.called ⟨x.state, call⟩]

def read (x : Execution T) (bytes : Option (List UInt8)) (transport : T) : Execution T :=
  x.call (.read 1 x.session.config.readTimeout bytes) transport

def await (x : Execution T) (readable : Bool) (transport : T) : Execution T :=
  x.call (.await x.session.config.disconnectGrace readable) transport

def write (x : Execution T) (data : List UInt8) (accepted : Option Nat) (transport : T) :
    Execution T :=
  x.call (.write data accepted) transport

@[simp] theorem link_read (x : Execution T) (bytes : Option (List UInt8)) (transport : T) :
    (x.read bytes transport).session.link = x.session.link := rfl

@[simp] theorem link_await (x : Execution T) (readable : Bool) (transport : T) :
    (x.await readable transport).session.link = x.session.link := rfl

@[simp] theorem link_write (x : Execution T) (data : List UInt8) (accepted : Option Nat)
    (transport : T) : (x.write data accepted transport).session.link = x.session.link := rfl

/-- The last poll has just found nothing to read. -/
def Idle (x : Execution T) : Prop :=
  ∃ before elapsed link limit timeout,
    x.history = before ++
      [.polled elapsed link, .called ⟨link.state, .read limit timeout (some [])⟩] ∧
    x.session.link = link.tick elapsed

/-- A frame may go out: because the link is ready and the image has changed, or because the last
one was not acknowledged in time and may be sent again. -/
def FrameDue (x : Execution T) : Prop :=
  x.session.image.dirty = true ∧ x.state = .ready ∨
  x.Idle ∧ x.state = .writing ∧ x.session.config.writingTimeout < x.session.link.elapsed ∧
    x.session.exhausted = false

/-- A describe request may go out. -/
def ProbeDue (x : Execution T) : Prop := x.Idle ∧ x.session.ProbeDue

theorem FrameDue.state_eq {x : Execution T} (due : x.FrameDue) :
    x.state = .ready ∨ x.state = .writing := by
  rcases due with ⟨_, ready⟩ | ⟨_, writing, _⟩
  · exact .inl ready
  · exact .inr writing

theorem ProbeDue.state_eq {x : Execution T} (due : x.ProbeDue) :
    x.state = .resetting ∨ x.state = .identifying ∨ x.state = .writing :=
  due.2.state

theorem FrameDue.retries_le {x : Execution T} (due : x.FrameDue) :
    x.state = .ready ∨
      x.state = .writing ∧ x.session.link.retries ≤ x.session.config.maxRetries := by
  rcases due with ⟨_, ready⟩ | ⟨_, writing, _, left⟩
  · exact .inl ready
  · exact .inr ⟨writing, Session.retries_le left⟩

theorem ProbeDue.retries_le {x : Execution T} (due : x.ProbeDue) :
    x.state = .resetting ∧ x.session.link.retries ≤ x.session.config.maxRetries ∨
      x.state = .identifying ∨ x.state = .writing := by
  obtain ⟨_, ⟨resetting, _, left⟩ | ⟨identifying, _⟩ | ⟨writing, _⟩⟩ := due
  · exact .inl ⟨resetting, Session.retries_le left⟩
  · exact .inr (.inl identifying)
  · exact .inr (.inr writing)

/-- A byte is read. If it could be a fault report, more bytes are waited for and come, after which
there is a second transport. -/
def hear (x : Execution T) (byte : UInt8) (transport : T) : Option T → Execution T
  | none => x.read (some [byte]) transport
  | some later => (x.read (some [byte]) transport).await true later

/-- More bytes are waited for exactly if the byte could be a fault report. -/
def Awaits (x : Execution T) (byte : UInt8) (later : Option T) : Prop :=
  later.isSome = true ↔ byte = Signal.fault ∧ x.state ≠ .off

section

variable (x : Execution T) (byte : UInt8) (transport : T) (later : Option T)

@[simp] theorem model_hear : (x.hear byte transport later).session.model = x.session.model := by
  cases later <;> rfl

@[simp] theorem config_hear : (x.hear byte transport later).session.config = x.session.config := by
  cases later <;> rfl

@[simp] theorem link_hear : (x.hear byte transport later).session.link = x.session.link := by
  cases later <;> rfl

@[simp] theorem image_hear : (x.hear byte transport later).session.image = x.session.image := by
  cases later <;> rfl

@[simp] theorem keyboard_hear :
    (x.hear byte transport later).session.keyboard = x.session.keyboard := by
  cases later <;> rfl

theorem history_hear : ∃ awaits,
    (x.hear byte transport later).history = x.history ++
      .called ⟨x.state, .read 1 x.session.config.readTimeout (some [byte])⟩ :: awaits ∧
    ∀ event ∈ awaits, ∃ timeout, event = .called ⟨x.state, .await timeout true⟩ := by
  cases later with
  | none => exact ⟨[], rfl, nofun⟩
  | some later =>
    refine ⟨[.called ⟨x.state, .await _ true⟩], List.append_assoc _ _ _, ?_⟩
    intro event h
    exact ⟨_, List.mem_singleton.mp h⟩

/-- A byte is read without a frame being written or time passing. -/
theorem heard_hear : ∃ events,
    (x.hear byte transport later).history = x.history ++ events ∧
    (∀ event ∈ events, event.During x.state ∧ event.elapsed? = none ∧ event.frame? = none) ∧
    ∃ event ∈ events, event.heard? = some (x.state, byte) := by
  obtain ⟨awaits, history, waited⟩ := x.history_hear byte transport later
  refine ⟨_, history, ?_, _, List.mem_cons_self, rfl⟩
  intro event h
  rcases List.mem_cons.mp h with rfl | h
  · exact ⟨rfl, rfl, rfl⟩
  · obtain ⟨timeout, rfl⟩ := waited event h
    exact ⟨rfl, rfl, rfl⟩

end

end Execution

open Execution

/-- One step of a session. -/
inductive Step {T : Type} : Execution T → Execution T → Prop where
  /-- The host polls. -/
  | poll (x : Execution T) (elapsed : UInt32) :
      Step x ((x.note (.polled elapsed x.session.link)).map (·.tick elapsed))
  /-- The host's cells are accepted. -/
  | accept (x : Execution T) {area : Area} {cells : List Cell} {image : Image}
      (written : x.session.image.write area cells = .ok image) :
      Step x ((x.note (.shown area cells)).map ({ · with image }))
  /-- Something happens that concerns neither the link nor the cells nor the keys. -/
  | aside (x : Execution T) (transport : T) (context : InputContext) (countdown : UInt8) :
      Step x (x.map fun s => { s with line := { s.line with transport }, context, countdown })
  | repeatChord (x : Execution T) (connected : x.state.isConnected = true) :
      Step x (x.map fun s => { s with keyboard := (s.keyboard.repeatHeld s.model).2 })
  | readFails (x : Execution T) (transport : T) :
      Step x ((x.read none transport).map (·.apply .faulted))
  | readNothing (x : Execution T) (transport : T) : Step x (x.read (some []) transport)
  /-- A fault report is read that nothing follows. -/
  | fault (x : Execution T) (first second : T) (up : x.state ≠ .off) :
      Step x (((x.read (some [Signal.fault]) first).await false second).map
        (·.apply .disconnected))
  | announce (x : Execution T) (transport : T) :
      Step x ((x.hear Signal.announce transport none).map (·.apply .announced))
  | identify (x : Execution T) (transport : T) {later : Option T}
      (awaits : x.Awaits x.session.model.identifier later) (awaited : x.state = .identifying)
      (plain : x.session.model.identifier ≠ Signal.announce) :
      Step x ((x.hear x.session.model.identifier transport later).map fun s =>
        { s with keyboard := s.keyboard.clear, image := s.image.markDirty }.apply .identified)
  | acknowledge (x : Execution T) (transport : T) (writing : x.state = .writing) :
      Step x ((x.hear Signal.taken transport none).map (·.apply .acknowledged))
  /-- The last frame is acknowledged and another one asked for. -/
  | acknowledgeMore (x : Execution T) (transport : T) (writing : x.state = .writing) :
      Step x ((x.hear Signal.takenMore transport none).map fun s =>
        { s with image := s.image.markDirty }.apply .acknowledged)
  | key (x : Execution T) (transport : T) {byte : UInt8} {later : Option T}
      (awaits : x.Awaits byte later) (connected : x.state.isConnected = true)
      (plain : byte ≠ Signal.announce)
      (other : x.state = .writing → byte ≠ Signal.taken ∧ byte ≠ Signal.takenMore) :
      Step x ((x.hear byte transport later).map fun s => (s.hearKey byte).2)
  /-- A byte is read that means nothing in this state. -/
  | ignore (x : Execution T) (transport : T) {byte : UInt8} {later : Option T}
      (awaits : x.Awaits byte later) (apart : x.state.isConnected = false)
      (plain : byte ≠ Signal.announce)
      (other : x.state = .identifying → byte ≠ x.session.model.identifier) :
      Step x (x.hear byte transport later)
  | frame (x : Execution T) (transport : T) {frame : Frame} (due : x.FrameDue)
      (built : x.session.image.frame? x.session.model.envelope = some frame) :
      Step x ((x.write frame.bytes (some frame.bytes.length) transport).map fun s =>
        { s with image := s.image.markClean }.apply .frameSent)
  | frameFails (x : Execution T) (transport : T) {frame : Frame} {accepted : Option Nat}
      (due : x.FrameDue)
      (built : x.session.image.frame? x.session.model.envelope = some frame)
      (cut : accepted ≠ some frame.bytes.length) :
      Step x ((x.write frame.bytes accepted transport).map fun s =>
        { s with image := s.image.markDirty }.apply .faulted)
  /-- The frame that is due would be too long. -/
  | refuse (x : Execution T) (due : x.FrameDue)
      (built : x.session.image.frame? x.session.model.envelope = none) :
      Step x (x.map fun s => { s with image := s.image.markDirty })
  | probe (x : Execution T) (transport : T) (due : x.ProbeDue) :
      Step x ((x.write [Signal.describe] (some 1) transport).map (·.apply .probed))
  | probeFails (x : Execution T) (transport : T) {accepted : Option Nat} (due : x.ProbeDue)
      (cut : accepted ≠ some 1) :
      Step x ((x.write [Signal.describe] accepted transport).map (·.apply .faulted))
  /-- Too many describe requests went unanswered. -/
  | giveUp (x : Execution T) (idle : x.Idle) (resetting : x.state = .resetting)
      (late : x.session.config.resettingTimeout < x.session.link.elapsed)
      (exhausted : x.session.exhausted = true) :
      Step x (x.map (·.apply .exhausted))

theorem Step.grows {T : Type} {x y : Execution T} (step : Step x y) :
    ∃ events, y.history = x.history ++ events := by
  cases step
  case aside | repeatChord | refuse | giveUp => exact ⟨[], (List.append_nil _).symm⟩
  case fault first second _ => exact ⟨_, List.append_assoc _ _ _⟩
  case announce transport | acknowledge transport _ | acknowledgeMore transport _ => exact ⟨_, rfl⟩
  case identify transport later _ _ _ =>
    obtain ⟨_, history, _⟩ := x.history_hear x.session.model.identifier transport later
    exact ⟨_, history⟩
  case key transport byte later _ _ _ _ | ignore transport byte later _ _ _ _ =>
    obtain ⟨_, history, _⟩ := x.history_hear byte transport later
    exact ⟨_, history⟩
  all_goals exact ⟨_, rfl⟩

/-- Any number of steps. -/
abbrev Path {T : Type} : Execution T → Execution T → Prop := Relation.ReflTransGen Step

theorem Path.keeps {T : Type} {x y : Execution T} (path : Path x y) {P : Execution T → Prop}
    (step : ∀ {x y : Execution T}, Step x y → P x → P y) (h : P x) : P y := by
  induction path with
  | refl => exact h
  | tail _ last ih => exact step last ih

end BrailleDisplay
