import BrailleDisplay.Proofs.Keyboard.History
import BrailleDisplay.Proofs.Session.Reading
import BrailleDisplay.Proofs.Session.Typing
import BrailleDisplay.Proofs.Session.Writes

/-!
# What a session does not see

A session knows its transport by the answers to its calls, and polls read one byte at a time. It
does not look back at the calls that it made. Its countdown counts for a repetition only, which
needs a front key that is held, and the press of a front key starts the countdown anew. `vary`
changes a session in these three respects. Every part of a poll but the repetition commutes with it,
and whole operations do while the countdown idles.
-/
namespace BrailleDisplay

variable {T : Type}

/-- What an operation shows to the host and to the display. -/
structure Glimpse where
  outcome : Outcome
  calls : List Entry
  state : LinkState
  mode : InputMode
  deriving Repr, DecidableEq

/-- A change of the transport that does not show in the answers to the calls of a session. -/
structure Unseen [Transport T] (change : T → T) : Prop where
  read (t : T) (timeout : UInt32) :
    Transport.read (change t) 1 timeout = (Transport.read t 1 timeout).map id change
  write (t : T) (data : List UInt8) :
    Transport.write (change t) data = (Transport.write t data).map id change
  await (t : T) (timeout : UInt32) :
    Transport.awaitReadable (change t) timeout = (Transport.awaitReadable t timeout).map id change

theorem unseen_id [Transport T] : Unseen (id : T → T) :=
  ⟨fun _ _ => rfl, fun _ _ => rfl, fun _ _ => rfl⟩

/-- The operation turns the first change of the transport into the second. -/
def Operation.Carries (before after : T → T) : Operation T → Prop
  | .device act => ∀ t, act (before t) = after (act t)
  | _ => after = before

theorem Operation.carries_id (operation : Operation T) : operation.Carries id id := by
  cases operation <;> simp [Carries]

/-- The line with its transport changed and with other calls before its own. -/
def Line.vary (line : Line T) (change : T → T) (past : List Entry) : Line T where
  transport := change line.transport
  journal := past ++ line.journal

namespace Session

/-- What operations show, one after the other. -/
def glimpses [Transport T] (s : Session T) : List (Operation T) → List Glimpse
  | [] => []
  | operation :: operations =>
    let (outcome, t) := s.perform operation
    ⟨outcome, s.callsUntil t, t.link.state, t.keyboard.mode⟩ :: t.glimpses operations

/-- The session with its transport changed, with other calls before its own, and with another
countdown. -/
def vary (s : Session T) (change : T → T) (past : List Entry) (countdown : UInt8) : Session T :=
  { s with line := s.line.vary change past, countdown }

/-- The countdown does not show: it is the session's own, or no front key is held. -/
def Idles (s : Session T) (countdown : UInt8) : Prop :=
  countdown = s.countdown ∨ s.keyboard.held.front = 0

/-! ## What sees no change -/

section

variable (s : Session T) (change : T → T) (past : List Entry) (countdown : UInt8)

@[simp] theorem link_vary : (s.vary change past countdown).link = s.link := rfl

@[simp] theorem model_vary : (s.vary change past countdown).model = s.model := rfl

@[simp] theorem config_vary : (s.vary change past countdown).config = s.config := rfl

@[simp] theorem image_vary : (s.vary change past countdown).image = s.image := rfl

@[simp] theorem keyboard_vary : (s.vary change past countdown).keyboard = s.keyboard := rfl

@[simp] theorem callsUntil_vary (t : Session T) (change' : T → T) (later : UInt8) :
    (s.vary change past countdown).callsUntil (t.vary change' past later) = s.callsUntil t := by
  simp [callsUntil, vary, Line.vary]

theorem apply_vary (event : LinkEvent) :
    (s.vary change past countdown).apply event = (s.apply event).vary change past countdown := rfl

theorem hearInState_vary (byte : UInt8) :
    (s.vary change past countdown).hearInState byte =
      (s.hearInState byte).map id (·.vary change past countdown) := by
  cases state : s.link.state with
  | off | resetting | ready =>
    simp only [hearInState, link_vary, state]
    rfl
  | identifying =>
    by_cases named : byte = s.model.identifier
    · simp [hearInState, state, named, vary, apply]
    · simp [hearInState, state, named]
  | writing =>
    simp only [hearInState, link_vary, state]
    split_ifs <;> rfl

end

section

variable [Transport T] {change : T → T} (unseen : Unseen change) (s : Session T)
  (past : List Entry) (countdown : UInt8)
include unseen

theorem readByte_vary :
    (s.vary change past countdown).readByte = s.readByte.map id (·.vary change past countdown) := by
  simp [readByte, Line.readByte, Line.read, Line.after, vary, Line.vary, unseen.read]

theorem awaitMore_vary : (s.vary change past countdown).awaitMore =
    s.awaitMore.map id (·.vary change past countdown) := by
  simp [awaitMore, Line.await, Line.after, vary, Line.vary, unseen.await]

theorem send_vary (data : List UInt8) : (s.vary change past countdown).send data =
    (s.send data).map id (·.vary change past countdown) := by
  simp [send, Line.send, Line.after, vary, Line.vary, unseen.write]

theorem hear_vary (byte : UInt8) : (s.vary change past countdown).hear byte =
    (s.hear byte).map id (·.vary change past countdown) := by
  simp only [hear, link_vary, awaitMore_vary unseen]
  split
  · obtain ⟨more, transport, awaited⟩ := s.awaitMore_eq
    rw [awaited]
    cases more with
    | true => exact hearInState_vary _ change past countdown byte
    | false => rfl
  · split
    · rfl
    · exact hearInState_vary s change past countdown byte

theorem close_vary : (s.vary change past countdown).close = s.close.vary change past := by
  unfold close
  simp only [model_vary, send_vary unseen]
  split_ifs <;> rfl

theorem transmit_vary :
    (s.vary change past countdown).transmit = s.transmit.vary change past countdown := by
  simp only [transmit, image_vary, model_vary]
  split
  · rfl
  · next frame _ =>
    obtain ⟨accepted, transport, sent⟩ := s.send_eq frame.bytes
    rw [send_vary unseen, sent]
    cases accepted == some frame.bytes.length <;> rfl

theorem flush_vary :
    (s.vary change past countdown).flush = s.flush.vary change past countdown := by
  unfold flush
  by_cases wanted : s.image.dirty ∧ s.link.state.acceptsFrames
  · simp [wanted, transmit_vary unseen]
  · simp [wanted]

theorem probe_vary :
    (s.vary change past countdown).probe = s.probe.vary change past countdown := by
  obtain ⟨accepted, transport, sent⟩ := s.send_eq [Signal.describe]
  simp only [probe, send_vary unseen, sent]
  cases accepted == some [Signal.describe].length <;> rfl

theorem recover_vary :
    (s.vary change past countdown).recover = s.recover.vary change past countdown := by
  have exhausted : (s.vary change past countdown).exhausted = s.exhausted := rfl
  have again := transmit_vary unseen { s with image := s.image.markDirty } past countdown
  simp only [recover, link_vary, config_vary, exhausted, probe_vary unseen]
  split
  · rfl
  · rfl
  · by_cases early : s.link.elapsed ≤ s.config.resettingTimeout
    · simp [early]
    · cases used : s.exhausted <;> simp [early, apply_vary]
  · by_cases early : s.link.elapsed ≤ s.config.identifyingTimeout <;> simp [early]
  · by_cases early : s.link.elapsed ≤ s.config.writingTimeout
    · simp [early]
    · cases used : s.exhausted
      · simp only [early, if_false, Bool.false_eq_true, ← again]
        rfl
      · simp [early]

theorem drain_vary (heard : Bool) : (s.vary change past countdown).drain heard =
    (s.drain heard).map id (·.vary change past countdown) := by
  fun_induction drain s heard with
  | case1 s heard fault rest h =>
    rw [drain_eq, readByte_vary unseen, h]
    rfl
  | case2 s heard rest h =>
    rw [drain_eq, readByte_vary unseen, h]
    rfl
  | case3 s heard byte rest h command key =>
    rw [drain_eq, readByte_vary unseen, h]
    simp [hear_vary unseen, key]
  | case4 s heard byte rest h handled ih =>
    rw [drain_eq, readByte_vary unseen, h]
    simp [hear_vary unseen, handled, ih]
  | case5 s heard byte rest h unexpected ih =>
    rw [drain_eq, readByte_vary unseen, h]
    simp [hear_vary unseen, unexpected, ih]

end

/-! ## The countdown while no front key is held -/

/-- A byte that is no key event leaves the front keys as they are. -/
theorem front_decode {keyboard : Keyboard} {model : Model} {context : InputContext} {byte : UInt8}
    (stray : (keyboard.decode model context byte).1 = .unrecognized) :
    (keyboard.decode model context byte).2.held.front = keyboard.held.front := by
  rcases Keyboard.decode_stray stray with kept | ended
  · rw [kept]
  · rw [ended]
    rfl

/-- The keyboard does not recognize a byte that it takes for no key event. -/
theorem decode_of_unkeyed {s : Session T} {byte : UInt8}
    (unkeyed : ∀ command, (s.hearKey byte).1 ≠ .key command) :
    (s.keyboard.decode s.model s.context byte).1 = .unrecognized := by
  unfold hearKey at unkeyed
  cases decoded : s.keyboard.decode s.model s.context byte with
  | mk keystroke keyboard =>
    rw [decoded] at unkeyed
    cases keystroke with
    | unrecognized => rfl
    | command command => exact absurd rfl (unkeyed (some command))
    | absorbed => exact absurd rfl (unkeyed none)

theorem Idles.keep {s t : Session T} {countdown : UInt8} (h : s.Idles countdown)
    (own : t.countdown = s.countdown)
    (front : t.keyboard.held.front = s.keyboard.held.front ∨ t.keyboard.held.front = 0) :
    t.Idles countdown := by
  rcases h with rfl | released
  · exact .inl own.symm
  · exact .inr (front.elim (·.trans released) id)

/-- A byte that is no key event presses no front key. -/
theorem Idles.hearInState {s : Session T} {countdown : UInt8} (h : s.Idles countdown) {byte : UInt8}
    (unkeyed : ∀ command, (s.hearInState byte).1 ≠ .key command) :
    (s.hearInState byte).2.Idles countdown := by
  cases heard : s.hearInState byte with
  | mk reaction t =>
    rw [heard] at unkeyed
    cases treats_of_hearInState heard with
    | ignored | acknowledged | acknowledgedMore => exact h
    | identified => exact h.keep rfl (.inr rfl)
    | keyed => exact h.keep rfl (.inl (front_decode (decode_of_unkeyed unkeyed)))

variable [Transport T]

theorem Idles.hear {s : Session T} {countdown : UInt8} (h : s.Idles countdown) {byte : UInt8}
    (unkeyed : ∀ command, (s.hear byte).1 ≠ .key command) : (s.hear byte).2.Idles countdown := by
  obtain ⟨more, transport, awaited⟩ := s.awaitMore_eq
  unfold Session.hear at unkeyed ⊢
  split_ifs at unkeyed ⊢
  · rw [awaited] at unkeyed ⊢
    cases more with
    | true => exact Idles.hearInState (s := s.after _ transport) h unkeyed
    | false => exact h
  · exact h
  · exact h.hearInState unkeyed

theorem Idles.readByte {s rest : Session T} {countdown : UInt8} (h : s.Idles countdown)
    {answer : Except TransportFault (Option UInt8)} (read : s.readByte = (answer, rest)) :
    rest.Idles countdown := by
  obtain ⟨transport, rfl⟩ := readByte_eq read
  exact h

/-- Reading that ends without a key event presses no front key. -/
theorem Idles.drain {s : Session T} {countdown : UInt8} (h : s.Idles countdown) {heard any : Bool}
    (dry : (s.drain heard).1 = .dry any) : (s.drain heard).2.Idles countdown := by
  fun_induction Session.drain s heard with
  | case1 s heard fault rest read =>
    have still : rest.Idles countdown := h.readByte read
    exact still
  | case2 s heard rest read => exact h.readByte read
  | case3 => cases dry
  | case4 s heard byte rest read handled ih =>
    exact ih ((h.readByte read).hear (by simp [handled])) dry
  | case5 s heard byte rest read unexpected ih =>
    exact ih ((h.readByte read).hear (by simp [unexpected])) dry

omit [Transport T] in
/-- While no front key is held, nothing is repeated. -/
theorem autorepeat_released {s : Session T} (released : s.keyboard.held.front = 0) :
    ∃ countdown, s.autorepeat = (none, { s with countdown }) := by
  have unheld : s.keyboard.repeatHeld s.model = (none, s.keyboard) := by
    unfold Keyboard.repeatHeld
    split
    · rfl
    · simp [Chord.isFrontOnly, released]
  unfold autorepeat
  simp only [unheld]
  split_ifs <;> exact ⟨_, rfl⟩

omit [Transport T] in
theorem autorepeat_vary {s : Session T} {countdown : UInt8} (idles : s.Idles countdown)
    (change : T → T) (past : List Entry) :
    ∃ later, (s.vary change past countdown).autorepeat =
      s.autorepeat.map id (·.vary change past later) ∧ s.autorepeat.2.Idles later := by
  rcases idles with rfl | released
  · refine ⟨s.autorepeat.2.countdown, ?_, .inl rfl⟩
    unfold autorepeat
    dsimp only [vary]
    split_ifs <;> rfl
  · obtain ⟨own, answered⟩ := autorepeat_released released
    obtain ⟨later, varied⟩ := autorepeat_released (s := s.vary change past countdown) released
    rw [varied, answered]
    exact ⟨later, rfl, .inr released⟩

omit [Transport T] in
theorem Idles.of_typing {s t : Session T} {countdown : UInt8} (h : s.Idles countdown)
    (same : t.typing = s.typing) : t.Idles countdown :=
  h.keep (congrArg Typing.countdown same) (.inl (congrArg (·.keyboard.held.front) same))

/-! ## Whole operations -/

/-- What a poll does once it has read. -/
def settle : Drained × Session T → Option Command × Session T
  | (.key command, s) => (command, { s with countdown := s.config.repeatDelay }.flush)
  | (.dry true, s) => s.flush.autorepeat
  | (.dry false, s) => s.recover.flush.autorepeat

theorem poll_eq (s : Session T) (elapsed : UInt32) :
    s.poll elapsed = settle ((s.tick elapsed).drain false) := by
  unfold poll settle
  rcases (s.tick elapsed).drain false with ⟨_ | (_ | _), _⟩ <;> rfl

section

variable {change : T → T} (unseen : Unseen change)
include unseen

theorem settle_vary {s : Session T} {outcome : Drained} {countdown : UInt8}
    (idles : (∃ any, outcome = .dry any) → s.Idles countdown) (past : List Entry) :
    ∃ later, settle (outcome, s.vary change past countdown) =
      (settle (outcome, s)).map id (·.vary change past later) ∧
        (settle (outcome, s)).2.Idles later := by
  match outcome with
  | .key command =>
    -- A key event sets both countdowns anew.
    refine ⟨s.config.repeatDelay, ?_, .inl ?_⟩
    · have flushed := flush_vary unseen { s with countdown := s.config.repeatDelay } past
        s.config.repeatDelay
      exact congrArg (Prod.mk command) flushed
    · have same := typing_flush { s with countdown := s.config.repeatDelay }
      exact (congrArg Typing.countdown same).symm
  | .dry true =>
    obtain ⟨later, same, idles⟩ :=
      autorepeat_vary ((idles ⟨_, rfl⟩).of_typing s.typing_flush) change past
    exact ⟨later, by rw [settle, flush_vary unseen, same]; rfl, idles⟩
  | .dry false =>
    have typing : s.recover.flush.typing = s.typing :=
      s.recover.typing_flush.trans s.typing_recover
    obtain ⟨later, same, idles⟩ :=
      autorepeat_vary ((idles ⟨_, rfl⟩).of_typing typing) change past
    exact ⟨later, by rw [settle, recover_vary unseen, flush_vary unseen, same]; rfl, idles⟩

theorem settle_drain_vary {s : Session T} {countdown : UInt8} (idles : s.Idles countdown)
    (past : List Entry) (heard : Bool) :
    ∃ later, settle ((s.vary change past countdown).drain heard) =
      (settle (s.drain heard)).map id (·.vary change past later) ∧
        (settle (s.drain heard)).2.Idles later := by
  rw [drain_vary unseen]
  refine settle_vary unseen ?_ past
  rintro ⟨any, dry⟩
  exact idles.drain dry

theorem poll_vary {s : Session T} {countdown : UInt8} (idles : s.Idles countdown)
    (past : List Entry) (elapsed : UInt32) :
    ∃ later, (s.vary change past countdown).poll elapsed =
      (s.poll elapsed).map id (·.vary change past later) ∧ (s.poll elapsed).2.Idles later := by
  simp only [poll_eq]
  exact settle_drain_vary unseen (s := s.tick elapsed) idles past false

theorem write_vary (s : Session T) (past : List Entry) (countdown : UInt8) (area : Area)
    (cells : List Cell) : (s.vary change past countdown).write area cells =
      (s.write area cells).map (·.vary change past countdown) := by
  cases written : s.image.write area cells with
  | error mismatch =>
    rw [write_error written, write_error (s := s.vary change past countdown) written]
    rfl
  | ok image =>
    cases area with
    | main =>
      rw [write_main written, write_main (s := s.vary change past countdown) written]
      exact congrArg _ (flush_vary unseen { s with image } past countdown)
    | status =>
      rw [write_status written, write_status (s := s.vary change past countdown) written]
      rfl

/-- An operation that carries one change into another does the same to a session and to the changed
session. -/
theorem perform_vary {s : Session T} {countdown : UInt8} (idles : s.Idles countdown)
    (past : List Entry) {operation : Operation T} {changeAfter : T → T}
    (carries : operation.Carries change changeAfter) :
    ∃ later, (s.vary change past countdown).perform operation =
      (s.perform operation).map id (·.vary changeAfter past later) ∧
        (s.perform operation).2.Idles later := by
  cases operation with
  | poll elapsed =>
    obtain rfl : changeAfter = change := carries
    obtain ⟨later, same, idles⟩ := poll_vary unseen idles past elapsed
    exact ⟨later, by simp only [perform, same]; rfl, idles⟩
  | write area cells =>
    obtain rfl : changeAfter = change := carries
    refine ⟨countdown, ?_, idles.of_typing (typing_write s area cells)⟩
    simp only [perform, write_vary unseen]
    cases s.write area cells <;> rfl
  | setContext context =>
    obtain rfl : changeAfter = change := carries
    exact ⟨countdown, rfl, idles⟩
  | device act =>
    refine ⟨countdown, ?_, idles⟩
    simp only [perform, onTransport, vary, Line.vary, Prod.map_apply, id]
    rw [carries]

end

/-! ## Runs -/

/-- None of these changes shows in what a session calls, and the operations carry each of them into
another one of these. -/
structure AlwaysUnseen (Change : (T → T) → Prop) (operations : List (Operation T)) : Prop where
  unseen {change : T → T} : Change change → Unseen change
  carried {change : T → T} : Change change → ∀ operation ∈ operations,
    ∃ changeAfter, Change changeAfter ∧ operation.Carries change changeAfter

theorem alwaysUnseen_id (operations : List (Operation T)) : AlwaysUnseen (· = id) operations where
  unseen same := same ▸ unseen_id
  carried same operation _ := ⟨id, rfl, same ▸ operation.carries_id⟩

/-- Neither a change of the transport nor the calls made before nor the countdown of a session that
idles ever show. -/
theorem run_vary {Change : (T → T) → Prop} {operations : List (Operation T)}
    (always : AlwaysUnseen Change operations) {change : T → T} (changed : Change change)
    {s : Session T} {countdown : UInt8} (idles : s.Idles countdown) (past : List Entry) :
    (s.vary change past countdown).glimpses operations = s.glimpses operations ∧
      ∃ changeAfter later, Change changeAfter ∧
        ((s.vary change past countdown).run operations).2 =
          (s.run operations).2.vary changeAfter past later := by
  induction operations generalizing s change countdown with
  | nil => exact ⟨rfl, change, countdown, changed, rfl⟩
  | cons operation operations ih =>
    obtain ⟨changeAfter, changed', carries⟩ := always.carried changed operation List.mem_cons_self
    obtain ⟨later, same, still⟩ := perform_vary (always.unseen changed) idles past carries
    have rest : AlwaysUnseen Change operations :=
      ⟨always.unseen, fun changed other inside =>
        always.carried changed other (List.mem_cons_of_mem _ inside)⟩
    obtain ⟨shown, left⟩ := ih rest changed' still
    constructor
    · simp only [glimpses, same, Prod.map_fst, Prod.map_snd, id, callsUntil_vary, link_vary,
        keyboard_vary, shown]
    · simpa only [run, same, Prod.map_fst, Prod.map_snd] using left

end Session

end BrailleDisplay
