import BrailleDisplay.Proofs.Session.Loss
import BrailleDisplay.Proofs.Session.Typing

/-!
# The keys do not see the display traffic

While a session stays connected, what its polls answer is a function of the bytes that the keys
send, of the input context and of how often the host polls: `Typing.trace`. Frames, the
acknowledgements between the bytes of the keys, timeouts and the time itself have no part in it.
So two runs on different transports answer alike if only the keys send the same.
-/
namespace BrailleDisplay

/-- The bytes that the keys send: those that wait to be read, and those that arrive before each of
the next polls. -/
structure Supply where
  waiting : List UInt8 := []
  coming : List (List UInt8) := []
  deriving Repr, DecidableEq

namespace Supply

/-- What arrives before a poll joins the bytes that wait. -/
def arrive : Supply → Supply
  | ⟨waiting, []⟩ => ⟨waiting, []⟩
  | ⟨waiting, bytes :: coming⟩ => ⟨waiting ++ bytes, coming⟩

/-- A byte is read: an acknowledgement, which the display sends while a frame waits for it, or else
the first of the bytes that wait. -/
def hand? (supply : Supply) (state : LinkState) (byte : UInt8) : Option Supply :=
  if byte = Signal.taken ∨ byte = Signal.takenMore then
    if state = .writing then some supply else none
  else if supply.waiting.head? = some byte then some { supply with waiting := supply.waiting.tail }
  else none

/-- What is left of the supply after an event. Reading hands nothing over only if nothing waits. -/
def next? (supply : Supply) : Event → Option Supply
  | .polled _ _ => some supply.arrive
  | .called ⟨_, .read _ _ (some [])⟩ => if supply.waiting = [] then some supply else none
  | .called ⟨state, .read _ _ (some (byte :: _))⟩ => supply.hand? state byte
  | _ => some supply

/-- What is left after some events, if these read nothing but what is supplied. -/
def after? (supply : Supply) : List Event → Option Supply
  | [] => some supply
  | event :: events => (supply.next? event).bind (·.after? events)

/-- None of the bytes concerns the link. -/
def Plain (supply : Supply) : Prop :=
  ∀ byte ∈ supply.waiting ++ supply.coming.flatten, byte ≠ Signal.fault ∧ byte ≠ Signal.announce

instance (supply : Supply) : Decidable supply.Plain :=
  inferInstanceAs (Decidable (∀ byte ∈ supply.waiting ++ supply.coming.flatten, _))

theorem after?_append (supply : Supply) (before after : List Event) :
    supply.after? (before ++ after) = (supply.after? before).bind (·.after? after) := by
  induction before generalizing supply with
  | nil => rfl
  | cons event before ih =>
    simp only [List.cons_append, after?, Option.bind_assoc, ih]

/-- Only polls and reads touch the supply. -/
theorem after?_of_unread (supply : Supply) {events : List Event}
    (unread : ∀ event ∈ events, supply.next? event = some supply) :
    supply.after? events = some supply := by
  induction events with
  | nil => rfl
  | cons event events ih =>
    obtain ⟨first, rest⟩ := List.forall_mem_cons.mp unread
    rw [after?, first, Option.bind_some, ih rest]

theorem next?_of_isWrite (supply : Supply) {event : Event} (write : event.isWrite = true) :
    supply.next? event = some supply := by
  unfold Event.isWrite at write
  split at write
  · rfl
  · cases write

theorem hand?_eq_some {supply later : Supply} {state : LinkState} {byte : UInt8} :
    supply.hand? state byte = some later ↔
      ((byte = Signal.taken ∨ byte = Signal.takenMore) ∧ state = .writing ∧ later = supply) ∨
      ¬ (byte = Signal.taken ∨ byte = Signal.takenMore) ∧
        ∃ rest, supply.waiting = byte :: rest ∧ later = { supply with waiting := rest } := by
  unfold hand?
  split_ifs with acknowledged writing next
  · simp [acknowledged, writing, eq_comm]
  · simp [acknowledged, writing]
  · obtain ⟨rest, waiting⟩ := List.head?_eq_some_iff.mp next
    simp [acknowledged, waiting, eq_comm]
  · refine iff_of_false nofun ?_
    rintro (⟨acknowledges, _⟩ | ⟨_, rest, waiting, _⟩)
    · exact acknowledged acknowledges
    · exact next (by rw [waiting]; rfl)

theorem Plain.arrive {supply : Supply} (h : supply.Plain) : supply.arrive.Plain := by
  obtain ⟨waiting, coming⟩ := supply
  cases coming with
  | nil => exact h
  | cons bytes coming => simpa [Plain, Supply.arrive] using h

theorem Plain.rest {supply : Supply} (h : supply.Plain) {byte : UInt8} {rest : List UInt8}
    (waiting : supply.waiting = byte :: rest) :
    (byte ≠ Signal.fault ∧ byte ≠ Signal.announce) ∧ Plain { supply with waiting := rest } := by
  rw [Plain, waiting] at h
  exact List.forall_mem_cons.mp h

end Supply

/-- What a poll answers, and what it leaves of the keys. -/
structure Typed where
  command : Option Command
  keyboard : Keyboard
  countdown : UInt8
  deriving Repr, DecidableEq

/-- What the keys see of the host. -/
inductive Beat where
  | poll
  | context (context : InputContext)
  deriving Repr, DecidableEq

/-- What the polls of a run do, as the keys and the host alone determine it. -/
def Typing.trace (typing : Typing) (supply : Supply) : List Beat → List Typed
  | [] => []
  | .context context :: beats => { typing with context }.trace supply beats
  | .poll :: beats =>
    let (command, typing, waiting) := typing.poll supply.arrive.waiting
    ⟨command, typing.keyboard, typing.countdown⟩ ::
      typing.trace ⟨waiting, supply.arrive.coming⟩ beats

variable {T : Type}

def Operation.beat? : Operation T → Option Beat
  | .poll _ => some .poll
  | .setContext context => some (.context context)
  | .write _ _ | .device _ => none

section

variable [Transport T]

/-- What the polls of a run do. -/
def Session.typed (s : Session T) : List (Operation T) → List Typed
  | [] => []
  | .poll elapsed :: operations =>
    let (command, s) := s.poll elapsed
    ⟨command, s.keyboard, s.countdown⟩ :: s.typed operations
  | operation :: operations => (s.perform operation).2.typed operations

/-- The session is connected at first and after each operation. -/
def Session.staysConnected (s : Session T) : List (Operation T) → Bool
  | [] => s.link.state.isConnected
  | operation :: operations =>
    s.link.state.isConnected && (s.perform operation).2.staysConnected operations

end

/-- The key event that reading ended with. -/
def Session.Drained.key? : Session.Drained → Option (Option Command)
  | .key command => some command
  | .dry _ => none

namespace Session

/-- A byte that is read while the session is connected is an acknowledgement, or it comes from the
keys. -/
theorem Hearing.typing {s t : Session T} {byte : UInt8} {reaction : Reaction} {calls : List Entry}
    (h : s.Hearing byte reaction t calls) (connected : s.link.state.isConnected = true)
    {supply later : Supply} (plain : supply.Plain)
    (fed : supply.after? (calls.map .called) = some later) :
    t.link.state.isConnected = true ∧
      (reaction = .handled ∧ t.typing = s.typing ∧ later = supply ∨
        ∃ rest, supply.waiting = byte :: rest ∧ later = { supply with waiting := rest } ∧
          t.typing = (s.typing.press byte).2 ∧ reaction = (s.typing.press byte).1.reaction) := by
  have handed : ∃ middle, supply.hand? s.link.state byte = some middle := by
    cases h <;> exact ⟨_, (Option.bind_eq_some_iff.mp fed).choose_spec.1⟩
  obtain ⟨middle, handed⟩ := handed
  have known := Supply.hand?_eq_some.mp handed
  have unlinked : byte ≠ Signal.fault ∧ byte ≠ Signal.announce := by
    rcases known with ⟨rfl | rfl, _⟩ | ⟨_, rest, waiting, _⟩
    · decide
    · decide
    · exact (plain.rest waiting).1
  cases h with
  | confirmed _ _ fault | cancelled _ _ fault => exact absurd fault unlinked.1
  | announced _ announce => exact absurd announce unlinked.2
  | plain transport _ _ heard =>
    simp only [List.map_singleton, Supply.after?, Supply.next?, readEntry, handed,
      Option.bind_some, Option.some.injEq] at fed
    subst fed
    rcases known with ⟨acknowledges, writing, rfl⟩ | ⟨unacknowledged, rest, waiting, rfl⟩
    · have handled := hearInState_acknowledged (s := s.readOne byte transport) writing acknowledges
      rw [heard] at handled
      obtain ⟨handled, same, ready⟩ := handled
      exact ⟨congrArg LinkState.isConnected ready, .inl ⟨handled, same, rfl⟩⟩
    · obtain ⟨taken, takenMore⟩ := not_or.mp unacknowledged
      have pressed := hearInState_connected (s := s.readOne byte transport) connected taken takenMore
      rw [heard] at pressed
      obtain ⟨reacted, same⟩ := Prod.mk.inj pressed
      rw [reacted, same]
      exact ⟨connected, .inr ⟨rest, waiting, rfl, rfl, rfl⟩⟩

theorem Reading.typing {s t : Session T} {heard : Bool} {outcome : Drained} {calls : List Entry}
    (h : s.Reading heard outcome t calls) (connected : s.link.state.isConnected = true)
    {supply later : Supply} (plain : supply.Plain)
    (fed : supply.after? (calls.map .called) = some later) :
    t.link.state = .off ∨ t.link.state.isConnected = true ∧ later.Plain ∧
      later.coming = supply.coming ∧
      s.typing.take supply.waiting = (outcome.key?, t.typing, later.waiting) := by
  induction h generalizing supply with
  | failed s heard transport => exact .inl (by simp)
  | nothing s heard transport =>
    simp only [List.map_singleton, Supply.after?, Supply.next?] at fed
    split_ifs at fed with empty
    · cases fed
      exact .inr ⟨connected, plain, rfl, by rw [empty]; rfl⟩
    · cases fed
  | key heard hearing =>
    obtain ⟨connected', ⟨handled, _⟩ | ⟨rest, waiting, rfl, same, reacted⟩⟩ :=
      hearing.typing connected plain fed
    · cases handled
    · refine .inr ⟨connected', (plain.rest waiting).2, rfl, ?_⟩
      rw [waiting, Typing.take_key reacted.symm, same]
      rfl
  | other heard hearing unkeyed later ih =>
    rw [List.map_append, Supply.after?_append] at fed
    obtain ⟨middle, fed, rest⟩ := Option.bind_eq_some_iff.mp fed
    obtain ⟨connected', ⟨handled, same, rfl⟩ | ⟨bytes, waiting, rfl, same, reacted⟩⟩ :=
      hearing.typing connected plain fed
    · rw [← same]
      exact ih connected' plain rest
    · rcases ih connected' (plain.rest waiting).2 rest with off | ⟨up, plain', coming, taken⟩
      · exact .inl off
      · refine .inr ⟨up, plain', coming, ?_⟩
        rw [waiting, Typing.take_other (reacted ▸ unkeyed), ← same]
        exact taken

variable [Transport T]

/-- A poll that leaves the session connected does to its keys what their bytes say. -/
theorem poll_typing {s : Session T} (connected : s.link.state.isConnected = true)
    {elapsed : UInt32} {supply later : Supply} (plain : supply.Plain)
    (fed : supply.after? (s.events (.poll elapsed)) = some later)
    (up : (s.poll elapsed).2.link.state.isConnected = true) :
    later.Plain ∧ later.coming = supply.arrive.coming ∧
      s.typing.poll supply.arrive.waiting =
        ((s.poll elapsed).1, (s.poll elapsed).2.typing, later.waiting) := by
  have reading := (s.tick elapsed).reading_drain false
  have down := s.poll_down_iff elapsed
  have writes := (s.poll_sends elapsed).writes
  rw [events_poll] at fed
  have repeated {t u : Session T} (same : u.typing = t.typing)
      (still : u.autorepeat.2.link.state.isConnected = true) (rest : List UInt8) :
      (t.typing.autorepeat.1, t.typing.autorepeat.2, rest) =
        (u.autorepeat.1, u.autorepeat.2.typing, rest) := by
    rw [autorepeat_link] at still
    obtain ⟨answer, left⟩ := autorepeat_connected still
    rw [answer, left, same]
  unfold poll at up down fed writes ⊢
  cases drained : (s.tick elapsed).drain false with
  | mk outcome t =>
    simp only [drained] at reading down writes fed up ⊢
    rw [List.cons_append, Supply.after?, Supply.next?, Option.bind_some,
      Supply.after?_append] at fed
    obtain ⟨middle, read, written⟩ := Option.bind_eq_some_iff.mp fed
    rw [Supply.after?_of_unread _ fun event inside =>
      middle.next?_of_isWrite (writes event inside)] at written
    cases written
    rcases reading.typing connected plain.arrive read with off | ⟨_, plain', coming, taken⟩
    · have lost := down.mpr (.inl off)
      rw [lost] at up
      cases up
    · refine ⟨plain', coming, ?_⟩
      have taken : s.typing.take supply.arrive.waiting = _ := taken
      rw [Typing.poll, taken]
      match outcome with
      | .key command =>
        have flushed := typing_flush { t with countdown := t.config.repeatDelay }
        exact congrArg (fun typing => (command, typing, later.waiting)) flushed.symm
      | .dry true => exact repeated t.typing_flush up _
      | .dry false => exact repeated (t.recover.typing_flush.trans t.typing_recover) up _

/-- Only a poll reads. -/
theorem after?_unpolled (s : Session T) {operation : Operation T}
    (unpolled : operation.elapsed? = none) (supply : Supply) :
    supply.after? (s.events operation) = some supply := by
  obtain ⟨sends, _⟩ := s.perform_unpolled unpolled
  refine supply.after?_of_unread ?_
  intro event inside
  rcases s.events_unpolled unpolled event inside with ⟨area, cells, rfl⟩ | ⟨entry, call, rfl⟩
  · rfl
  · exact supply.next?_of_isWrite (sends.writes _ (List.mem_map_of_mem call))

theorem staysConnected_first {s : Session T} {operations : List (Operation T)}
    (h : s.staysConnected operations = true) : s.link.state.isConnected = true := by
  cases operations with
  | nil => exact h
  | cons => exact (Bool.and_eq_true_iff.mp h).1

/-- What the polls of a run do is determined by the keys and the host alone. -/
theorem typed_eq_trace {s : Session T} {operations : List (Operation T)} {supply : Supply}
    (plain : supply.Plain) (fed : (supply.after? (s.history operations)).isSome = true)
    (up : s.staysConnected operations = true) :
    s.typed operations = s.typing.trace supply (operations.filterMap Operation.beat?) := by
  induction operations generalizing s supply with
  | nil => rfl
  | cons operation operations ih =>
    obtain ⟨connected, up⟩ := Bool.and_eq_true_iff.mp up
    rw [history, Supply.after?_append] at fed
    cases operation with
    | poll elapsed =>
      cases read : supply.after? (s.events (.poll elapsed)) with
      | none =>
        rw [read] at fed
        cases fed
      | some later =>
        rw [read] at fed
        obtain ⟨plain', coming, polled⟩ :=
          poll_typing connected plain read (staysConnected_first up)
        have rest := ih plain' fed up
        have same : later = ⟨later.waiting, supply.arrive.coming⟩ := by rw [← coming]
        rw [same] at rest
        have beats : (Operation.poll elapsed :: operations).filterMap Operation.beat? =
            .poll :: operations.filterMap Operation.beat? := rfl
        rw [beats, Typing.trace, polled, typed]
        exact congrArg (_ :: ·) rest
    | write area cells =>
      rw [after?_unpolled s rfl] at fed
      have rest := ih plain fed up
      rw [typing_write] at rest
      exact rest
    | setContext context =>
      rw [after?_unpolled s rfl] at fed
      exact ih plain fed up
    | device act =>
      rw [after?_unpolled s rfl] at fed
      exact ih plain fed up

/-- What the keys do does not depend on the display traffic. Two sessions that the keys find alike
are run on transports of any kind, with the same polls and contexts and with the same bytes from
the keys. If both stay connected, their polls answer alike and leave the keys alike, whatever else
was shown, sent and acknowledged, and however much time passed. -/
theorem typing_ignores_display {U : Type} [Transport U] {s : Session T} {u : Session U}
    (same : s.typing = u.typing) {operations : List (Operation T)}
    {others : List (Operation U)}
    (beats : operations.filterMap Operation.beat? = others.filterMap Operation.beat?)
    {supply : Supply} (plain : supply.Plain)
    (fed : (supply.after? (s.history operations)).isSome = true)
    (fed' : (supply.after? (u.history others)).isSome = true)
    (up : s.staysConnected operations = true) (up' : u.staysConnected others = true) :
    s.typed operations = u.typed others := by
  rw [typed_eq_trace plain fed up, typed_eq_trace plain fed' up', same, beats]

/-- A key is pressed and let go on an idle display, and on one that takes two frames meanwhile. -/
theorem typing_ignores_display_frames : ∃ opened : Session ScriptedTransport,
    connect ⟨{ replies := [[0xFE, 0xFE, 0x80]] }, []⟩ {} = .ok opened ∧
    let idle : List (Operation ScriptedTransport) :=
      [.device (·.receive [0x20]), .poll 5, .device (·.receive [0xA0]), .poll 5]
    let busy : List (Operation ScriptedTransport) :=
      [.write .main (List.replicate 20 3), .device (·.receive [0x7E, 0x20]), .poll 900,
        .write .main (List.replicate 20 5), .device (·.receive [0x7E, 0xA0]), .poll 2]
    writesIn (opened.history idle) = 0 ∧ writesIn (opened.history busy) = 2 ∧
    opened.typed idle = opened.typed busy := by
  let idle : List (Operation ScriptedTransport) :=
    [.device (·.receive [0x20]), .poll 5, .device (·.receive [0xA0]), .poll 5]
  let busy : List (Operation ScriptedTransport) :=
    [.write .main (List.replicate 20 3), .device (·.receive [0x7E, 0x20]), .poll 900,
      .write .main (List.replicate 20 5), .device (·.receive [0x7E, 0xA0]), .poll 2]
  let supply : Supply := { coming := [[0x20], [0xA0]] }
  obtain ⟨opened, connected⟩ := exists_connect (T := ScriptedTransport)
    ⟨{ replies := [[0xFE, 0xFE, 0x80]] }, []⟩ {} (by decide +kernel)
  have fed : (supply.after? (opened.history idle)).isSome = true :=
    of_connect connected (fun s => (supply.after? (s.history idle)).isSome) (by decide +kernel)
  have fed' : (supply.after? (opened.history busy)).isSome = true :=
    of_connect connected (fun s => (supply.after? (s.history busy)).isSome) (by decide +kernel)
  have up : opened.staysConnected idle = true :=
    of_connect connected (fun s => s.staysConnected idle) (by decide +kernel)
  have up' : opened.staysConnected busy = true :=
    of_connect connected (fun s => s.staysConnected busy) (by decide +kernel)
  have unwritten : writesIn (opened.history idle) = 0 :=
    of_connect connected (fun s => writesIn (s.history idle)) (by decide +kernel)
  have written : writesIn (opened.history busy) = 2 :=
    of_connect connected (fun s => writesIn (s.history busy)) (by decide +kernel)
  exact ⟨opened, connected, unwritten, written,
    typing_ignores_display rfl rfl (by decide +kernel) fed fed' up up'⟩

end Session

end BrailleDisplay
