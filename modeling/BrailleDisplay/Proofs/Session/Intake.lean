import Mathlib.Data.List.Forall2
import BrailleDisplay.Proofs.Session.Loss
import BrailleDisplay.Proofs.Session.Reading
import BrailleDisplay.Proofs.Session.Typing
import BrailleDisplay.Transport.Script

/-!
# Where the bytes go

On a transport that keeps its input in a queue, polling takes bytes off the front of the queue, one
read for each byte. It takes them up to the first key event, or until a read hands nothing over, and
leaves the others where they are. So over a whole run every byte that comes in is dealt with once
and in its turn, and every key event is answered by one poll.
-/
namespace BrailleDisplay

/-- A transport whose input waits in a queue. A read that goes well takes its bytes off the front,
and nothing else takes any. Bytes that come in while something is written join at the end. -/
class InputQueue (T : Type) [Transport T] where
  /-- The bytes that wait to be read. -/
  queue : T → List UInt8
  queue_read {before after : T} {limit : Nat} {timeout : UInt32} {bytes : List UInt8} :
    Transport.read before limit timeout = (.ok bytes, after) → queue before = bytes ++ queue after
  queue_read_error {before after : T} {limit : Nat} {timeout : UInt32} {fault : TransportFault} :
    Transport.read before limit timeout = (.error fault, after) → queue after = queue before
  queue_await (before : T) (timeout : UInt32) :
    queue (Transport.awaitReadable before timeout).2 = queue before
  queue_write (before : T) (data : List UInt8) :
    queue before <+: queue (Transport.write before data).2

open InputQueue (queue)

/-- Whatever the display does, the bytes that wait go on waiting. -/
def Operation.Appends {T : Type} [Transport T] [InputQueue T] : Operation T → Prop
  | .device act => ∀ t, queue t <+: queue (act t)
  | _ => True

/-- A read, however it ends. -/
def Event.isRead : Event → Bool
  | .called ⟨_, .read _ _ _⟩ => true
  | _ => false

def readsIn (events : List Event) : Nat := events.countP Event.isRead

theorem readsIn_append (before after : List Event) :
    readsIn (before ++ after) = readsIn before + readsIn after :=
  List.countP_append

theorem readsIn_of_writes {events : List Event} (writes : ∀ event ∈ events, event.isWrite = true) :
    readsIn events = 0 := by
  refine List.countP_eq_zero.mpr fun event inside => ?_
  have write := writes event inside
  unfold Event.isWrite at write
  split at write
  · exact nofun
  · cases write

namespace Session

variable {T : Type}

theorem Hearing.readsIn_eq {s t : Session T} {byte : UInt8} {reaction : Reaction}
    {calls : List Entry} (h : s.Hearing byte reaction t calls) :
    readsIn (calls.map .called) = 1 := by
  cases h <;> rfl

section

variable [Transport T]

/-! ## Bytes for the keyboard -/

/-- The session is connected, and the byte is no signal of the link. -/
def ReachesKeyboard (s : Session T) (byte : UInt8) : Prop :=
  s.link.state.isConnected = true ∧ byte ≠ Signal.announce ∧
    (byte = Signal.fault → s.awaitMore.1 = true) ∧
    (s.link.state = .writing → byte ≠ Signal.taken ∧ byte ≠ Signal.takenMore)

omit [Transport T] in
theorem hearInState_key_iff (s : Session T) (byte : UInt8) (command : Option Command) :
    (s.hearInState byte).1 = .key command ↔
      s.link.state.isConnected = true ∧
      (s.link.state = .writing → byte ≠ Signal.taken ∧ byte ≠ Signal.takenMore) ∧
      (s.keyboard.decode s.model s.context byte).1.reaction = .key command := by
  have pressed : (s.hearKey byte).1 = (s.keyboard.decode s.model s.context byte).1.reaction := rfl
  unfold hearInState
  cases s.link.state with
  | off | resetting => simp [LinkState.isConnected]
  | identifying => split_ifs <;> simp [LinkState.isConnected]
  | ready => simp [LinkState.isConnected, pressed]
  | writing => split_ifs <;> simp_all [LinkState.isConnected]

/-- A byte is a key event exactly if it reaches the keyboard and is one there. -/
theorem hear_key_iff (s : Session T) (byte : UInt8) (command : Option Command) :
    (s.hear byte).1 = .key command ↔ s.ReachesKeyboard byte ∧
      (s.keyboard.decode s.model s.context byte).1.reaction = .key command := by
  obtain ⟨more, transport, awaited⟩ := s.awaitMore_eq
  unfold hear ReachesKeyboard
  rw [awaited]
  split
  · next act =>
    have plain : byte ≠ Signal.announce := by
      rw [act.1]
      decide
    cases more with
    | true => simp [hearInState_key_iff, plain, and_assoc, after]
    | false => simp [act.1]
  · next act =>
    split
    · next announce => simp [announce]
    · next plain =>
      have unawaited (connected : s.link.state.isConnected = true) : byte ≠ Signal.fault := by
        intro fault
        refine act ⟨fault, fun off => ?_⟩
        rw [off] at connected
        cases connected
      rw [hearInState_key_iff]
      grind

end

/-! ## Reading the queue -/

/-- A byte that was read, and the session that has just read it. -/
structure Heard (T : Type) where
  session : Session T
  byte : UInt8

/-- The keyboard is reached and takes the byte for a key event, which gives this command or none. -/
def Heard.Answers [Transport T] (heard : Heard T) (command : Option Command) : Prop :=
  let s := heard.session
  s.ReachesKeyboard heard.byte ∧
    (s.keyboard.decode s.model s.context heard.byte).1.reaction = .key command

/-- The byte is not a key event. -/
def Heard.Unkeyed [Transport T] (heard : Heard T) : Prop := ∀ command, ¬ heard.Answers command

/-- From the first session to the last, bytes are read one after the other, and each of them is
dealt with before the next one is read. -/
inductive Intake [Transport T] : Session T → List (Heard T) → Session T → Prop where
  | nil (s : Session T) : Intake s [] s
  | cons {s rest stop : Session T} {byte : UInt8} {more : List (Heard T)}
      (read : s.readByte = (.ok (some byte), rest)) (later : Intake (rest.hear byte).2 more stop) :
      Intake s (⟨rest, byte⟩ :: more) stop

/-- Where bytes are no longer taken because a read fails or hands nothing over. -/
inductive Dries [Transport T] (s : Session T) : Session T → Prop where
  | failed {fault : TransportFault} {rest : Session T} (read : s.readByte = (.error fault, rest)) :
      Dries s (rest.apply .faulted)
  | nothing {rest : Session T} (read : s.readByte = (.ok none, rest)) : Dries s rest

/-- Bytes are taken up to the first key event, or until a read hands nothing over. -/
inductive Drains [Transport T] (s : Session T) : List (Heard T) → Drained → Session T → Prop where
  | key {others : List (Heard T)} {last : Heard T} {command : Option Command} {t : Session T}
      (intake : s.Intake (others ++ [last]) t) (only : ∀ heard ∈ others, heard.Unkeyed)
      (answers : last.Answers command) : Drains s (others ++ [last]) (.key command) t
  | dry {taken : List (Heard T)} {stop t : Session T} (any : Bool) (intake : s.Intake taken stop)
      (only : ∀ heard ∈ taken, heard.Unkeyed) (dries : stop.Dries t) : Drains s taken (.dry any) t

section

variable [Transport T]

theorem Drains.cons {s rest t : Session T} {byte : UInt8} {taken : List (Heard T)}
    {outcome : Drained} (read : s.readByte = (.ok (some byte), rest))
    (unkeyed : ∀ command, (rest.hear byte).1 ≠ .key command)
    (later : (rest.hear byte).2.Drains taken outcome t) :
    s.Drains (⟨rest, byte⟩ :: taken) outcome t := by
  have first : (⟨rest, byte⟩ : Heard T).Unkeyed := fun command answers =>
    unkeyed command ((hear_key_iff rest byte command).mpr answers)
  cases later with
  | key intake only answers =>
    exact .key (.cons read intake) (List.forall_mem_cons.mpr ⟨first, only⟩) answers
  | dry any intake only dries =>
    exact .dry any (.cons read intake) (List.forall_mem_cons.mpr ⟨first, only⟩) dries

theorem exists_drains (s : Session T) (before : Bool) :
    ∃ taken, s.Drains taken (s.drain before).1 (s.drain before).2 := by
  fun_induction drain s before with
  | case1 s before fault rest read =>
    exact ⟨[], .dry before (.nil s) (List.forall_mem_nil _) (.failed read)⟩
  | case2 s before rest read =>
    exact ⟨[], .dry before (.nil s) (List.forall_mem_nil _) (.nothing read)⟩
  | case3 s before byte rest read command key =>
    have intake : s.Intake ([] ++ [⟨rest, byte⟩]) (rest.hear byte).2 := .cons read (.nil _)
    have answers := (hear_key_iff rest byte command).mp key
    exact ⟨_, .key intake (List.forall_mem_nil _) answers⟩
  | case4 s before byte rest read handled ih =>
    obtain ⟨taken, drains⟩ := ih
    exact ⟨_, drains.cons read (by simp [handled])⟩
  | case5 s before byte rest read unexpected ih =>
    obtain ⟨taken, drains⟩ := ih
    exact ⟨_, drains.cons read (by simp [unexpected])⟩

/-! ## What the history shows -/

/-- The calls show the bytes taken, each with the link state in which it was read, and one read for
each. -/
theorem Intake.calls {s stop : Session T} {taken : List (Heard T)} (h : s.Intake taken stop) :
    ∃ calls, stop.line.journal = s.line.journal ++ calls ∧
      bytesIn (calls.map .called) = taken.map Heard.byte ∧
      readsIn (calls.map .called) = taken.length := by
  induction h with
  | nil s => exact ⟨[], (List.append_nil _).symm, rfl, rfl⟩
  | cons read later ih =>
    obtain ⟨calls, hearing⟩ := hearing_hear read
    obtain ⟨more, journal, heard, reads⟩ := ih
    refine ⟨calls ++ more, ?_, ?_, ?_⟩
    · rw [journal, hearing.journal, List.append_assoc]
    · rw [List.map_append, bytesIn_append, heard, bytesIn, hearing.heardIn_eq]
      rfl
    · rw [List.map_append, readsIn_append, reads, hearing.readsIn_eq, List.length_cons,
        Nat.add_comm]

theorem Dries.calls {s t : Session T} (h : s.Dries t) :
    ∃ entry, t.line.journal = s.line.journal ++ [entry] ∧
      bytesIn [.called entry] = [] ∧ readsIn [.called entry] = 1 := by
  cases h with
  | failed read | nothing read =>
    obtain ⟨transport, rfl⟩ := readByte_eq read
    exact ⟨_, rfl, rfl, rfl⟩

/-- A poll makes no other reads than those of draining. -/
theorem poll_read {s t : Session T} {elapsed : UInt32} {outcome : Drained} {calls : List Entry}
    (drained : (s.tick elapsed).drain false = (outcome, t))
    (journal : t.line.journal = s.line.journal ++ calls) :
    bytesIn (s.events (.poll elapsed)) = bytesIn (calls.map .called) ∧
      readsIn (s.events (.poll elapsed)) = readsIn (calls.map .called) := by
  have heard := (s.heardIn_poll elapsed).1
  have written := readsIn_of_writes (s.poll_sends elapsed).writes
  have events := s.events_poll elapsed
  rw [drained] at heard written events
  have read : (s.tick elapsed).callsUntil t = calls := callsUntil_of_journal journal
  rw [read] at heard events
  refine ⟨congrArg (List.map Prod.snd) heard, ?_⟩
  rw [events, readsIn_append, written]
  rfl

/-- Only a poll is handed bytes. -/
theorem bytesIn_unpolled (s : Session T) {operation : Operation T}
    (unpolled : operation.elapsed? = none) : bytesIn (s.events operation) = [] := by
  have silent : Silent (s.events operation) := by
    intro event inside
    rcases s.events_unpolled unpolled event inside with ⟨_, _, rfl⟩ | ⟨entry, called, rfl⟩
    · rfl
    · have write := (s.perform_unpolled unpolled).1.writes _ (List.mem_map_of_mem called)
      exact Event.heard?_of_isWrite write
  rw [bytesIn, heardIn_of_silent silent, List.map_nil]

/-! ## The queue -/

variable [InputQueue T]

/-- The bytes that wait to be read. -/
def waiting (s : Session T) : List UInt8 := queue s.line.transport

/-- A byte that is read is the first one that waited. -/
theorem waiting_readByte {s rest : Session T} {answer : Except TransportFault (Option UInt8)}
    (read : s.readByte = (answer, rest)) :
    s.waiting = answer.toOption.join.toList ++ rest.waiting := by
  cases given : Transport.read s.line.transport 1 s.config.readTimeout with
  | mk bytes transport =>
    have same : s.readByte = (bytes.map List.head?,
        s.after (.read 1 s.config.readTimeout bytes.toOption) transport) := by
      simp only [readByte, Line.readByte, Line.read, given]
      rfl
    obtain ⟨rfl, rfl⟩ := Prod.mk.inj (read.symm.trans same)
    cases bytes with
    | error fault => exact (InputQueue.queue_read_error given).symm
    | ok bytes =>
      have short := Transport.length_read_le given
      rw [waiting, InputQueue.queue_read given]
      cases bytes with
      | nil => rfl
      | cons byte more =>
        have single : more = [] := by simpa using short
        rw [single]
        rfl

/-- Dealing with a byte takes no other one. -/
theorem waiting_hear (s : Session T) (byte : UInt8) : (s.hear byte).2.waiting = s.waiting := by
  have awaited : s.awaitMore.2.waiting = s.waiting := InputQueue.queue_await _ _
  unfold hear
  split
  · split
    · next rest more =>
      rw [more] at awaited
      exact (congrArg (queue ·.transport) (rest.hearInState_line byte)).trans awaited
    · next rest none =>
      rw [none] at awaited
      exact awaited
  · split
    · rfl
    · exact congrArg (queue ·.transport) (s.hearInState_line byte)

/-- What is taken is the front of the queue, in order. -/
theorem Intake.waiting {s stop : Session T} {taken : List (Heard T)} (h : s.Intake taken stop) :
    s.waiting = taken.map Heard.byte ++ stop.waiting := by
  induction h with
  | nil s => rfl
  | cons read later ih =>
    rw [waiting_readByte read, ← waiting_hear, ih]
    rfl

theorem Dries.waiting {s t : Session T} (h : s.Dries t) : s.waiting = t.waiting := by
  cases h with
  | failed read | nothing read => exact waiting_readByte read

theorem waiting_send (s : Session T) (data : List UInt8) :
    s.waiting <+: (s.send data).2.waiting :=
  InputQueue.queue_write _ _

theorem waiting_transmit (s : Session T) : s.waiting <+: s.transmit.waiting := by
  unfold transmit
  split
  · exact List.prefix_rfl
  · next frame _ =>
    have sent := s.waiting_send frame.bytes
    split
    · next rest whole => rwa [whole] at sent
    · next rest cut => rwa [cut] at sent

theorem waiting_probe (s : Session T) : s.waiting <+: s.probe.waiting := by
  have sent := s.waiting_send [Signal.describe]
  unfold probe
  split
  · next rest whole => rwa [whole] at sent
  · next rest cut => rwa [cut] at sent

theorem waiting_flush (s : Session T) : s.waiting <+: s.flush.waiting := by
  unfold flush
  split
  · exact s.waiting_transmit
  · exact List.prefix_rfl

theorem waiting_recover (s : Session T) : s.waiting <+: s.recover.waiting := by
  cases s.recovery with
  | rest same =>
    have kept : s.recover.waiting = s.waiting := congrArg waiting same
    exact kept ▸ List.prefix_rfl
  | giveUp _ _ _ given => rw [given]; exact List.prefix_rfl
  | probe _ probed => rw [probed]; exact s.waiting_probe
  | again _ _ _ sent =>
    rw [sent]
    exact waiting_transmit { s with image := s.image.markDirty }

theorem waiting_autorepeat (s : Session T) : s.autorepeat.2.waiting = s.waiting :=
  congrArg (fun line => queue line.transport) s.autorepeat_line

/-- Once a poll has read, the bytes that are left go on waiting. -/
theorem waiting_poll (s : Session T) (elapsed : UInt32) :
    ((s.tick elapsed).drain false).2.waiting <+: (s.poll elapsed).2.waiting := by
  unfold poll
  cases (s.tick elapsed).drain false with
  | mk outcome t =>
    match outcome with
    | .key command => exact waiting_flush { t with countdown := t.config.repeatDelay }
    | .dry true =>
      dsimp only
      rw [waiting_autorepeat]
      exact t.waiting_flush
    | .dry false =>
      dsimp only
      rw [waiting_autorepeat]
      exact t.waiting_recover.trans t.recover.waiting_flush

/-- Only a poll takes bytes. -/
theorem waiting_perform (s : Session T) {operation : Operation T} (appends : operation.Appends)
    (unpolled : operation.elapsed? = none) :
    s.waiting <+: (s.perform operation).2.waiting := by
  cases operation with
  | poll elapsed => cases unpolled
  | setContext context => exact List.prefix_rfl
  | device act => exact appends s.line.transport
  | write area cells =>
    cases written : s.image.write area cells with
    | error mismatch =>
      have kept : (s.perform (.write area cells)).2 = s := by rw [perform_refused written]
      exact kept.symm ▸ List.prefix_rfl
    | ok image =>
      cases area with
      | main =>
        rw [perform_write (write_main written)]
        exact waiting_flush { s with image }
      | status =>
        rw [perform_write (write_status written)]
        exact List.prefix_rfl

/-! ## Polls -/

/-- What has joined the queue from one session to another, if none was taken from it. -/
def joined (before after : Session T) : List UInt8 := after.waiting.drop before.waiting.length

/-- The bytes that come in during an operation. While a poll reads, none do. -/
def arrivals (s : Session T) : Operation T → List UInt8
  | .poll elapsed => ((s.tick elapsed).drain false).2.joined (s.poll elapsed).2
  | operation => s.joined (s.perform operation).2

theorem waiting_joined {before after : Session T} (kept : before.waiting <+: after.waiting) :
    after.waiting = before.waiting ++ before.joined after := by
  obtain ⟨more, same⟩ := kept
  rw [joined, ← same, List.drop_left]

/-- A poll takes these bytes. -/
structure Takes (s : Session T) (elapsed : UInt32) (taken : List (Heard T)) : Prop where
  /-- They are the front of the queue, and the other bytes go on waiting in their order. -/
  queued : ∃ rest, s.waiting = taken.map Heard.byte ++ rest ∧
    (s.poll elapsed).2.waiting = rest ++ s.arrivals (.poll elapsed)
  /-- They are the bytes that the transport hands over. -/
  handed : bytesIn (s.events (.poll elapsed)) = taken.map Heard.byte
  /-- There is one read more than bytes that wait, at most. -/
  bounded : readsIn (s.events (.poll elapsed)) ≤ s.waiting.length + 1
  /-- Each of them is dealt with in its turn, and none but the last is a key event. If that is one,
  it is what the poll answers. If not, one more read fails or hands nothing over. -/
  ends : ∃ stop, (s.tick elapsed).Intake taken stop ∧
    ((∃ others last, taken = others ++ [last] ∧ (∀ heard ∈ others, heard.Unkeyed) ∧
        last.Answers (s.poll elapsed).1 ∧ readsIn (s.events (.poll elapsed)) = taken.length) ∨
      (∀ heard ∈ taken, heard.Unkeyed) ∧
        (stop.readByte.1 = .ok none ∨ ∃ fault, stop.readByte.1 = .error fault) ∧
        readsIn (s.events (.poll elapsed)) = taken.length + 1)

theorem exists_takes (s : Session T) (elapsed : UInt32) : ∃ taken, s.Takes elapsed taken := by
  have kept : (s.poll elapsed).2.waiting =
      ((s.tick elapsed).drain false).2.waiting ++ s.arrivals (.poll elapsed) :=
    waiting_joined (s.waiting_poll elapsed)
  obtain ⟨taken, drains⟩ := (s.tick elapsed).exists_drains false
  cases drained : (s.tick elapsed).drain false with
  | mk outcome t =>
    rw [drained] at kept drains
    refine ⟨taken, ?_⟩
    cases drains with
    | @key others last command _ intake only answers =>
      have front : s.waiting = _ := intake.waiting
      obtain ⟨calls, journal, heard, reads⟩ := intake.calls
      obtain ⟨handed, read⟩ := poll_read drained journal
      have polled : (s.poll elapsed).1 = command := by simp only [poll, drained]
      have count : readsIn (s.events (.poll elapsed)) = (others ++ [last]).length :=
        read.trans reads
      exact {
        queued := ⟨_, front, kept⟩
        handed := handed.trans heard
        bounded := by rw [count, front]; simp
        ends := ⟨t, intake, .inl ⟨others, last, rfl, only, polled ▸ answers, count⟩⟩ }
    | @dry _ stop _ any intake only dries =>
      have front : s.waiting = _ := intake.waiting
      obtain ⟨calls, journal, heard, reads⟩ := intake.calls
      obtain ⟨entry, last, unheard, one⟩ := dries.calls
      obtain ⟨handed, read⟩ := poll_read drained
        (last.trans ((congrArg (· ++ [entry]) journal).trans (List.append_assoc _ _ _)))
      have count : readsIn (s.events (.poll elapsed)) = taken.length + 1 := by
        rw [read, List.map_append, readsIn_append, reads]
        exact congrArg _ one
      have bytes : bytesIn (s.events (.poll elapsed)) = taken.map Heard.byte := by
        rw [handed, List.map_append, bytesIn_append, heard]
        exact (congrArg _ unheard).trans (List.append_nil _)
      have nothing : stop.readByte.1 = .ok none ∨ ∃ fault, stop.readByte.1 = .error fault := by
        cases dries with
        | failed read => exact .inr ⟨_, congrArg Prod.fst read⟩
        | nothing read => exact .inl (congrArg Prod.fst read)
      rw [dries.waiting] at front
      exact {
        queued := ⟨_, front, kept⟩
        handed := bytes
        bounded := by rw [count, front]; simp
        ends := ⟨stop, intake, .inr ⟨only, nothing, count⟩⟩ }

/-! ## Runs -/

/-- The polls of a run, each with the session that it finds. -/
def polls (s : Session T) : List (Operation T) → List (Session T × UInt32)
  | [] => []
  | .poll elapsed :: operations => (s, elapsed) :: (s.poll elapsed).2.polls operations
  | operation :: operations => (s.perform operation).2.polls operations

/-- The bytes that come in during a run, in order. -/
def arrivalsDuring (s : Session T) : List (Operation T) → List UInt8
  | [] => []
  | operation :: operations =>
    s.arrivals operation ++ (s.perform operation).2.arrivalsDuring operations

/-- What waits and what comes in during an operation is what the operation is handed and what waits
after it. -/
theorem waiting_arrivals (s : Session T) {operation : Operation T}
    (appends : operation.Appends) :
    s.waiting ++ s.arrivals operation =
      bytesIn (s.events operation) ++ (s.perform operation).2.waiting := by
  cases unpolled : operation.elapsed? with
  | none =>
    have kept := waiting_joined (s.waiting_perform appends unpolled)
    rw [s.bytesIn_unpolled unpolled, List.nil_append, kept]
    cases operation with
    | poll elapsed => cases unpolled
    | write | setContext | device => rfl
  | some elapsed =>
    cases operation with
    | poll elapsed =>
      obtain ⟨taken, takes⟩ := s.exists_takes elapsed
      obtain ⟨rest, front, kept⟩ := takes.queued
      rw [front, takes.handed, List.append_assoc]
      exact congrArg _ kept.symm
    | write | setContext | device => cases unpolled

/-- The bytes that the polls of a run take are all that it is handed. -/
theorem exists_rounds (s : Session T) (operations : List (Operation T)) :
    ∃ rounds : List (List (Heard T)),
      List.Forall₂ (fun poll taken => poll.1.Takes poll.2 taken) (s.polls operations) rounds ∧
      bytesIn (s.history operations) = rounds.flatten.map Heard.byte := by
  induction operations generalizing s with
  | nil => exact ⟨[], .nil, rfl⟩
  | cons operation operations ih =>
    obtain ⟨rounds, takes, handed⟩ := ih (s.perform operation).2
    rw [history, bytesIn_append, handed]
    cases operation with
    | poll elapsed =>
      obtain ⟨taken, first⟩ := s.exists_takes elapsed
      refine ⟨taken :: rounds, .cons first takes, ?_⟩
      rw [first.handed, List.flatten_cons, List.map_append]
    | write | setContext | device =>
      refine ⟨rounds, takes, ?_⟩
      rw [s.bytesIn_unpolled rfl, List.nil_append]

/-- Polling loses, repeats and reorders no byte. Each poll takes the front of the queue up to the
first key event, which is its answer, or until a read hands nothing over; it reads at most once more
than there are bytes. Over a run, the bytes that the polls take are, in order, those that waited and
those that came in, apart from the ones that still wait. -/
theorem bytes_are_taken_in_order (s : Session T) (operations : List (Operation T))
    (appends : ∀ operation ∈ operations, operation.Appends) :
    ∃ rounds : List (List (Heard T)),
      List.Forall₂ (fun poll taken => poll.1.Takes poll.2 taken) (s.polls operations) rounds ∧
      bytesIn (s.history operations) = rounds.flatten.map Heard.byte ∧
      s.waiting ++ s.arrivalsDuring operations =
        rounds.flatten.map Heard.byte ++ (s.run operations).2.waiting := by
  obtain ⟨rounds, takes, handed⟩ := s.exists_rounds operations
  refine ⟨rounds, takes, handed, ?_⟩
  rw [← handed]
  clear handed takes rounds
  induction operations generalizing s with
  | nil => exact List.append_nil _
  | cons operation operations ih =>
    obtain ⟨first, appends⟩ := List.forall_mem_cons.mp appends
    have kept := ih (s.perform operation).2 appends
    calc s.waiting ++ (s.arrivals operation ++ (s.perform operation).2.arrivalsDuring operations)
      _ = bytesIn (s.events operation) ++ ((s.perform operation).2.waiting ++
            (s.perform operation).2.arrivalsDuring operations) := by
        rw [← List.append_assoc, s.waiting_arrivals first, List.append_assoc]
      _ = bytesIn (s.history (operation :: operations)) ++
            ((s.perform operation).2.run operations).2.waiting := by
        rw [kept, history, bytesIn_append, List.append_assoc]

end

end Session

namespace ScriptedTransport

theorem prefix_answer (t : ScriptedTransport) (data : List UInt8) (accepted : Nat) :
    t.incoming <+: (t.answer data accepted).incoming := by
  unfold answer
  split
  · exact List.prefix_append _ _
  · exact List.prefix_rfl

theorem prefix_write (t : ScriptedTransport) (data : List UInt8) :
    t.incoming <+: (t.write data).2.incoming := by
  cases fate : t.writes.head?.getD (some data.length) with
  | none => simp only [write, fate, List.prefix_rfl]
  | some accepted =>
    simp only [write, fate]
    exact prefix_answer { t with writes := t.writes.tail } data accepted

theorem incoming_read_error {t rest : ScriptedTransport} {limit : Nat} {fault : TransportFault}
    (h : t.read limit = (.error fault, rest)) : rest.incoming = t.incoming := by
  unfold read at h
  split at h <;> cases h
  rfl

instance : InputQueue ScriptedTransport where
  queue := incoming
  queue_read h := (incoming_read h).1
  queue_read_error h := incoming_read_error h
  queue_await _ _ := rfl
  queue_write := prefix_write

theorem queue_receive (t : ScriptedTransport) (bytes : List UInt8) :
    queue t <+: queue (t.receive bytes) :=
  List.prefix_append _ _

end ScriptedTransport

/-- Two polls answer the press and the release of a front key. What came in between them goes on
waiting. -/
theorem Session.bytes_are_taken_in_order_rocker : ∃ opened : Session ScriptedTransport,
    connect ⟨{ replies := [[0xFE, 0xFE, 0x80]] }, []⟩ {} = .ok opened ∧
    let operations : List (Operation ScriptedTransport) :=
      [.device (·.receive [0x04, 0x84]), .write .main (List.replicate 20 3), .poll 5,
        .device (·.receive [0x7E, 0x05]), .poll 5]
    ∃ rounds : List (List (Heard ScriptedTransport)),
      List.Forall₂ (fun poll taken => poll.1.Takes poll.2 taken) (opened.polls operations) rounds ∧
      rounds.flatten.map Heard.byte = [0x04, 0x84] ∧
      opened.waiting ++ opened.arrivalsDuring operations = [0x04, 0x84, 0x7E, 0x05] ∧
      (opened.run operations).2.waiting = [0x7E, 0x05] := by
  let operations : List (Operation ScriptedTransport) :=
    [.device (·.receive [0x04, 0x84]), .write .main (List.replicate 20 3), .poll 5,
      .device (·.receive [0x7E, 0x05]), .poll 5]
  have appends : ∀ operation ∈ operations, operation.Appends := by
    simp [operations, Operation.Appends, ScriptedTransport.queue_receive]
  obtain ⟨opened, connected⟩ := exists_connect (T := ScriptedTransport)
    ⟨{ replies := [[0xFE, 0xFE, 0x80]] }, []⟩ {} (by decide +kernel)
  have handed : bytesIn (opened.history operations) = [0x04, 0x84] :=
    of_connect connected (fun s => bytesIn (s.history operations)) (by decide +kernel)
  have left : (opened.run operations).2.waiting = [0x7E, 0x05] :=
    of_connect connected (fun s => (s.run operations).2.waiting) (by decide +kernel)
  obtain ⟨rounds, takes, bytes, kept⟩ := bytes_are_taken_in_order opened operations appends
  rw [handed] at bytes
  rw [← bytes, left] at kept
  exact ⟨opened, connected, rounds, takes, bytes.symm, kept, left⟩

end BrailleDisplay
