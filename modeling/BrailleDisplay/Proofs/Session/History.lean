import BrailleDisplay.Session.Run

/-!
# The history of a run

`Session.history` lists what happens in a run, in order: the host's polls, the cells that it gets
accepted and every call on the transport, with the link state in which the call is made. The calls
are those that the run adds to the journal. Frames, bytes heard, cells shown and the time that has
passed are read off the events alone, so a statement about them does not look into the session.
-/
namespace BrailleDisplay

inductive Event where
  /-- The host polls. The link is the one that the poll finds, before the time passes. -/
  | polled (elapsed : UInt32) (link : Link)
  /-- The host's cells for an area are accepted. -/
  | shown (area : Area) (cells : List Cell)
  | called (entry : Entry)
  deriving Repr, DecidableEq

/-- A cell frame that was handed to the transport, and how much of it was accepted. -/
structure Dispatch where
  frame : List UInt8
  accepted : Option Nat
  deriving Repr, DecidableEq

/-- The transport took the frame in full. -/
def Dispatch.Complete (dispatch : Dispatch) : Prop :=
  dispatch.accepted = some dispatch.frame.length

instance (dispatch : Dispatch) : Decidable dispatch.Complete :=
  inferInstanceAs (Decidable (_ = _))

namespace Event

/-- The byte that a read handed over, and the link state in which it was read. -/
def heard? : Event → Option (LinkState × UInt8)
  | .called ⟨state, .read _ _ (some (byte :: _))⟩ => some (state, byte)
  | _ => none

def isWrite : Event → Bool
  | .called ⟨_, .write _ _⟩ => true
  | _ => false

/-- Every write that is not a describe request hands over a cell frame. -/
def frame? : Event → Option Dispatch
  | .called ⟨_, .write data accepted⟩ =>
    if data = [Signal.describe] then none else some ⟨data, accepted⟩
  | _ => none

/-- The cells accepted for an area. -/
def shown? (area : Area) : Event → Option (List Cell)
  | .shown target cells => if target = area then some cells else none
  | _ => none

/-- The time that a poll lets pass. -/
def elapsed? : Event → Option UInt32
  | .polled elapsed _ => some elapsed
  | _ => none

/-- A read that succeeds and hands over nothing. -/
def isEmptyRead : Event → Bool
  | .called ⟨_, .read _ _ (some [])⟩ => true
  | _ => false

/-- What is handed over to be written. -/
def written? : Event → Option (List UInt8)
  | .called ⟨_, .write data _⟩ => some data
  | _ => none

def isFailedRead : Event → Bool
  | .called ⟨_, .read _ _ none⟩ => true
  | _ => false

/-- A write that fails, or of which another number of bytes is reported than was handed over. -/
def isCutWrite : Event → Bool
  | .called ⟨_, .write data accepted⟩ => accepted != some data.length
  | _ => false

/-- The link is in the given state where the event notes one. -/
def During (state : LinkState) : Event → Prop
  | .polled _ link => link.state = state
  | .shown _ _ => True
  | .called entry => entry.state = state

/-- The link state that the event notes. -/
def state? : Event → Option LinkState
  | .polled _ link => some link.state
  | .shown _ _ => none
  | .called entry => some entry.state

/-- The display names the identifier of the model while it is awaited. -/
def Identifies (model : Model) (event : Event) : Prop :=
  event.heard? = some (.identifying, model.identifier)

/-- The display acknowledges the last frame. -/
def Acknowledges (event : Event) : Prop :=
  event.heard? = some (.writing, Signal.taken) ∨ event.heard? = some (.writing, Signal.takenMore)

end Event

/-- The time that a poll lets pass. -/
def Operation.elapsed? {T : Type} : Operation T → Option UInt32
  | .poll elapsed => some elapsed
  | _ => none

/-- The host shows cells. -/
def Operation.isWrite {T : Type} : Operation T → Bool
  | .write _ _ => true
  | _ => false

/-- The cell frames of a history, in order. -/
def framesIn (events : List Event) : List Dispatch := events.filterMap Event.frame?

/-- What the host got accepted for an area, in order. -/
def shownIn (area : Area) (events : List Event) : List (List Cell) :=
  events.filterMap (Event.shown? area)

/-- The cells last accepted for an area of a model; before the first ones it is blank. -/
def lastShown (model : Model) (area : Area) (events : List Event) : List Cell :=
  (shownIn area events).getLast?.getD (blankRow (model.cellsIn area))

/-- The frame that shows what was last accepted. -/
def frameOf (model : Model) (events : List Event) : List UInt8 :=
  model.envelope.wrap ((lastShown model .status events).map Cell.toDevice)
    ((lastShown model .main events).map Cell.toDevice)

/-- The time that passes, held at the largest duration when the sum does not fit. -/
def timeIn (events : List Event) : UInt32 := (events.filterMap Event.elapsed?).foldl addCapped 0

def writesIn (events : List Event) : Nat := events.countP Event.isWrite

/-- Everything that is written, in order. -/
def writtenIn (events : List Event) : List (List UInt8) := events.filterMap Event.written?

/-- The bytes that were read, in order, each with the link state in which it was read. -/
def heardIn (events : List Event) : List (LinkState × UInt8) := events.filterMap Event.heard?

def bytesIn (events : List Event) : List UInt8 := (heardIn events).map Prod.snd

/-- The last frame of a history and what has happened since. -/
def sinceFrame (events : List Event) : Option (Dispatch × List Event) :=
  events.foldl (fun last event =>
    match event.frame? with
    | some sent => some (sent, [])
    | none => last.map fun (sent, since) => (sent, since ++ [event])) none

/-- Every event of a history is allowed by what has happened before it. -/
def Throughout (Allowed : List Event → Event → Prop) (events : List Event) : Prop :=
  ∀ before event after, events = before ++ event :: after → Allowed before event

/-- No byte arrives. -/
def Silent (events : List Event) : Prop := ∀ event ∈ events, event.heard? = none

instance (events : List Event) : Decidable (Silent events) :=
  inferInstanceAs (Decidable (∀ event ∈ events, _))

namespace Session

variable {T : Type}

/-- The calls made from one session to a later one. -/
def callsUntil (before after : Session T) : List Entry :=
  after.line.journal.drop before.line.journal.length

/-- What an operation is to the history, apart from its calls. -/
def heading (session : Session T) : Operation T → Outcome → List Event
  | .poll elapsed, _ => [.polled elapsed session.link]
  | .write area cells, .done => [.shown area cells]
  | _, _ => []

variable [Transport T]

/-- What happens while an operation is performed. -/
def events (session : Session T) (operation : Operation T) : List Event :=
  session.heading operation (session.perform operation).1 ++
    (session.callsUntil (session.perform operation).2).map .called

/-- What happens while operations are performed one after the other. -/
def history (session : Session T) : List (Operation T) → List Event
  | [] => []
  | operation :: operations =>
    session.events operation ++ (session.perform operation).2.history operations

end Session

/-! ## Longer histories -/

theorem framesIn_append (before after : List Event) :
    framesIn (before ++ after) = framesIn before ++ framesIn after :=
  List.filterMap_append

theorem shownIn_append (area : Area) (before after : List Event) :
    shownIn area (before ++ after) = shownIn area before ++ shownIn area after :=
  List.filterMap_append

theorem timeIn_append (before after : List Event) :
    timeIn (before ++ after) =
      (after.filterMap Event.elapsed?).foldl addCapped (timeIn before) := by
  simp only [timeIn, List.filterMap_append, List.foldl_append]

theorem writesIn_append (before after : List Event) :
    writesIn (before ++ after) = writesIn before + writesIn after :=
  List.countP_append

theorem heardIn_append (before after : List Event) :
    heardIn (before ++ after) = heardIn before ++ heardIn after :=
  List.filterMap_append

theorem bytesIn_append (before after : List Event) :
    bytesIn (before ++ after) = bytesIn before ++ bytesIn after := by
  rw [bytesIn, heardIn_append, List.map_append, ← bytesIn, ← bytesIn]

theorem heardIn_of_silent {events : List Event} (silent : Silent events) : heardIn events = [] :=
  List.filterMap_eq_nil_iff.mpr silent

theorem silent_append {before after : List Event} :
    Silent (before ++ after) ↔ Silent before ∧ Silent after :=
  List.forall_mem_append

theorem sinceFrame_frame {event : Event} {sent : Dispatch} (h : event.frame? = some sent)
    (before : List Event) : sinceFrame (before ++ [event]) = some (sent, []) := by
  simp only [sinceFrame, List.foldl_append, List.foldl_cons, List.foldl_nil, h]

theorem sinceFrame_other {event : Event} (h : event.frame? = none) (before : List Event) :
    sinceFrame (before ++ [event]) =
      (sinceFrame before).map fun (sent, since) => (sent, since ++ [event]) := by
  simp only [sinceFrame, List.foldl_append, List.foldl_cons, List.foldl_nil, h]

theorem sinceFrame_append (before : List Event) {more : List Event}
    (unframed : ∀ event ∈ more, event.frame? = none) :
    sinceFrame (before ++ more) =
      (sinceFrame before).map fun (sent, since) => (sent, since ++ more) := by
  induction more generalizing before with
  | nil => simp
  | cons event more ih =>
    obtain ⟨none, unframed⟩ := List.forall_mem_cons.mp unframed
    rw [List.append_cons, ih (before ++ [event]) unframed, sinceFrame_other none, Option.map_map]
    congr 1
    funext ⟨sent, since⟩
    simp

theorem Throughout.concat {Allowed : List Event → Event → Prop} {events : List Event}
    {event : Event} (h : Throughout Allowed events) (last : Allowed events event) :
    Throughout Allowed (events ++ [event]) := by
  intro before other after split
  rcases List.eq_nil_or_concat after with rfl | ⟨earlier, final, rfl⟩
  · obtain ⟨rfl, same⟩ := List.append_inj' split rfl
    cases same
    exact last
  · rw [List.concat_eq_append, ← List.cons_append, ← List.append_assoc] at split
    exact h before other earlier (List.append_inj' split rfl).1

theorem Throughout.extend {Allowed : List Event → Event → Prop} {events more : List Event}
    (h : Throughout Allowed events)
    (next : ∀ between event after, more = between ++ event :: after →
      Allowed (events ++ between) event) : Throughout Allowed (events ++ more) := by
  induction more generalizing events with
  | nil => rwa [List.append_nil]
  | cons event more ih =>
    have first := next [] event more rfl
    rw [List.append_nil] at first
    rw [List.append_cons]
    refine ih (h.concat first) ?_
    rintro between other after rfl
    rw [← List.append_cons]
    exact next (event :: between) other after rfl

theorem Throughout.append {Allowed : List Event → Event → Prop} {events more : List Event}
    (h : Throughout Allowed events) (free : ∀ before, ∀ event ∈ more, Allowed before event) :
    Throughout Allowed (events ++ more) :=
  h.extend fun _ event _ split => free _ event (by simp [split])

namespace Session

variable {T : Type} [Transport T]

theorem history_append (s : Session T) (before after : List (Operation T)) :
    s.history (before ++ after) = s.history before ++ (s.run before).2.history after := by
  induction before generalizing s with
  | nil => rfl
  | cons operation before ih =>
    rw [List.cons_append, history, history, ih, List.append_assoc]
    rfl

theorem history_singleton (s : Session T) (operation : Operation T) :
    s.history [operation] = s.events operation :=
  List.append_nil _

end Session

end BrailleDisplay
