import BrailleDisplay.Proofs.Session.DeadLink
import BrailleDisplay.Proofs.Session.Reading
import BrailleDisplay.Transport.Script

/-!
# How a link is lost

An operation leaves the link down for one of four reasons, and for no other: a read fails, a write
is cut short, a fault report is confirmed and the display does not announce itself afterwards, or
the describe requests are used up. Reading decides the first and the third reason, the single write
at the end of an operation the second.
-/
namespace BrailleDisplay

variable {T : Type}

/-- The display announces itself. -/
def Event.announces (event : Event) : Bool := event.heard?.any (·.2 == Signal.announce)

/-- The display does not announce itself. -/
def Unannounced (events : List Event) : Prop := ∀ event ∈ events, event.announces = false

instance (events : List Event) : Decidable (Unannounced events) :=
  inferInstanceAs (Decidable (∀ event ∈ events, _))

/-- A fault report is read that nothing follows in time, and that no announcement makes up for. -/
def FaultStands (config : Config) (events : List Event) : Prop :=
  ∃ before state after, state ≠ .off ∧ Unannounced after ∧
    events = before ++ .called ⟨state, .read 1 config.readTimeout (some [Signal.fault])⟩ ::
      .called ⟨state, .await config.disconnectGrace false⟩ :: after

/-- The reasons for which an operation loses the link. -/
inductive Session.LosesLink [Transport T] (s : Session T) (operation : Operation T) : Prop where
  | readFailed (failed : ∃ event ∈ s.events operation, event.isFailedRead = true)
  | writeCut (cut : ∃ event ∈ s.events operation, event.isCutWrite = true)
  | faultStands (stands : FaultStands s.config (s.events operation))
  /-- A poll hears nothing once the describe requests are used up. -/
  | exhausted {elapsed : UInt32} (polled : operation = .poll elapsed)
      (silent : Silent (s.events operation)) (resetting : s.link.state = .resetting)
      (late : s.config.resettingTimeout < (s.link.tick elapsed).elapsed)
      (used : s.config.maxRetries < s.link.retries)

theorem Event.isWrite_of_isCutWrite {event : Event} (cut : event.isCutWrite = true) :
    event.isWrite = true := by
  unfold isCutWrite at cut
  split at cut
  · rfl
  · cases cut

theorem Event.heard?_of_isWrite {event : Event} (write : event.isWrite = true) :
    event.heard? = none := by
  unfold isWrite at write
  split at write
  · rfl
  · cases write

theorem Event.not_isWrite_of_isFailedRead {event : Event} (failed : event.isFailedRead = true) :
    event.isWrite = false := by
  unfold isFailedRead at failed
  split at failed
  · rfl
  · cases failed

theorem writtenIn_of_unwritten {events : List Event}
    (unwritten : ∀ event ∈ events, event.isWrite = false) : writtenIn events = [] := by
  refine List.filterMap_eq_nil_iff.mpr ?_
  intro event inside
  have read := unwritten event inside
  unfold Event.written?
  split
  · cases read
  · rfl

/-! ## Confirmed fault reports -/

section

variable {config : Config} {event : Event} {events : List Event}

theorem unannounced_cons :
    Unannounced (event :: events) ↔ event.announces = false ∧ Unannounced events :=
  List.forall_mem_cons

theorem not_faultStands_nil : ¬ FaultStands config [] := by
  rintro ⟨before, state, after, _, _, same⟩
  simp at same

theorem faultStands_cons : FaultStands config (event :: events) ↔
    (∃ state after, state ≠ .off ∧ Unannounced after ∧
      event = .called ⟨state, .read 1 config.readTimeout (some [Signal.fault])⟩ ∧
      events = .called ⟨state, .await config.disconnectGrace false⟩ :: after) ∨
    FaultStands config events := by
  constructor
  · rintro ⟨before, state, after, up, unannounced, same⟩
    cases before with
    | nil =>
      obtain ⟨read, rest⟩ := List.cons.inj same
      exact .inl ⟨state, after, up, unannounced, read, rest⟩
    | cons _ before => exact .inr ⟨before, state, after, up, unannounced, (List.cons.inj same).2⟩
  · rintro (⟨state, after, up, unannounced, rfl, rfl⟩ | ⟨before, state, after, up, unannounced, rfl⟩)
    · exact ⟨[], state, after, up, unannounced, rfl⟩
    · exact ⟨event :: before, state, after, up, unannounced, rfl⟩

/-- Only the reading of a fault report begins a confirmed one. -/
theorem faultStands_cons_of_ne
    (other : ∀ state limit timeout, state ≠ .off →
      event ≠ .called ⟨state, .read limit timeout (some [Signal.fault])⟩) :
    FaultStands config (event :: events) ↔ FaultStands config events := by
  rw [faultStands_cons]
  refine or_iff_right ?_
  rintro ⟨state, after, up, _, read, _⟩
  exact other _ _ _ up read

/-- A fault report that is confirmed stands as long as no announcement follows. -/
theorem faultStands_confirmed {state : LinkState} (up : state ≠ .off) :
    FaultStands config
      (.called ⟨state, .read 1 config.readTimeout (some [Signal.fault])⟩ ::
        .called ⟨state, .await config.disconnectGrace false⟩ :: events) ↔
      FaultStands config events ∨ Unannounced events := by
  rw [faultStands_cons, faultStands_cons_of_ne (by simp), or_comm]
  refine or_congr_right ⟨?_, ?_⟩
  · rintro ⟨_, after, _, unannounced, _, rest⟩
    rwa [(List.cons.inj rest).2]
  · intro unannounced
    exact ⟨state, events, up, unannounced, rfl, rfl⟩

/-- What is written afterwards confirms no fault report, and makes up for none. -/
theorem faultStands_append_writes {writes : List Event}
    (written : ∀ event ∈ writes, event.isWrite = true) :
    FaultStands config (events ++ writes) ↔ FaultStands config events := by
  have unannounced : Unannounced writes := by
    intro event inside
    rw [Event.announces, Event.heard?_of_isWrite (written event inside)]
    rfl
  induction events with
  | nil =>
    refine iff_of_false ?_ not_faultStands_nil
    rintro ⟨before, state, after, _, _, same⟩
    have read : .called ⟨state, .read 1 config.readTimeout (some [Signal.fault])⟩ ∈ writes := by
      rw [← List.nil_append writes, same]
      exact List.mem_append_right _ List.mem_cons_self
    have write := written _ read
    cases write
  | cons event events ih =>
    rw [List.cons_append, faultStands_cons, faultStands_cons]
    refine or_congr ⟨?_, ?_⟩ ih
    · rintro ⟨state, after, up, calm, read, rest⟩
      cases events with
      | nil =>
        have write := written (.called ⟨state, .await config.disconnectGrace false⟩) (by simp_all)
        cases write
      | cons await events =>
        obtain ⟨rfl, rfl⟩ := List.cons.inj rest
        exact ⟨state, events, up, (List.forall_mem_append.mp calm).1, read, rfl⟩
    · rintro ⟨state, after, up, calm, read, rfl⟩
      exact ⟨state, after ++ writes, up, List.forall_mem_append.mpr ⟨calm, unannounced⟩, read, rfl⟩

end

namespace Session

/-! ## Reading -/

theorem hearInState_off_iff (s : Session T) (byte : UInt8) :
    (s.hearInState byte).2.link.state = .off ↔ s.link.state = .off := by
  cases heard : s.hearInState byte with
  | mk reaction t =>
    cases treats_of_hearInState heard with
    | ignored | keyed => exact Iff.rfl
    | identified state => simp [state, Link.apply_identified state]
    | acknowledged state | acknowledgedMore state => simp [state, Link.apply_acknowledged state]

theorem config_hearInState (s : Session T) (byte : UInt8) :
    (s.hearInState byte).2.config = s.config :=
  (s.treats_hearInState byte).frame.2.2.1

theorem Hearing.config_eq {s t : Session T} {byte : UInt8} {reaction : Reaction}
    {calls : List Entry} (h : s.Hearing byte reaction t calls) : t.config = s.config := by
  cases h with
  | confirmed | announced => rfl
  | cancelled first second _ _ heard | plain _ _ _ heard =>
    exact (congrArg (·.2.config) heard).symm.trans (config_hearInState _ byte)

theorem model_hearInState (s : Session T) (byte : UInt8) :
    (s.hearInState byte).2.model = s.model :=
  (s.treats_hearInState byte).frame.2.1

theorem Hearing.model_eq {s t : Session T} {byte : UInt8} {reaction : Reaction}
    {calls : List Entry} (h : s.Hearing byte reaction t calls) : t.model = s.model := by
  cases h with
  | confirmed | announced => rfl
  | cancelled first second _ _ heard | plain _ _ _ heard =>
    exact (congrArg (·.2.model) heard).symm.trans (model_hearInState _ byte)

/-- What one byte has to do with the link being down afterwards. -/
theorem Hearing.down_iff {s t : Session T} {byte : UInt8} {reaction : Reaction}
    {calls : List Entry} (h : s.Hearing byte reaction t calls) (later : List Event) :
    FaultStands s.config (calls.map Event.called ++ later) ∨
        s.link.state = .off ∧ Unannounced (calls.map Event.called ++ later) ↔
      FaultStands s.config later ∨ t.link.state = .off ∧ Unannounced later := by
  cases h with
  | confirmed first second fault up =>
    subst fault
    have down : (((s.readOne Signal.fault first).after (.await s.config.disconnectGrace false)
        second).apply .disconnected).link.state = .off := by
      rw [link_apply]
      exact congrArg Link.state (Link.apply_disconnected up)
    simp only [up, down, false_and, or_false, true_and]
    exact faultStands_confirmed up
  | cancelled first second fault up heard =>
    have stays : t.link.state ≠ .off := by
      rw [← congrArg (·.2.link.state) heard]
      exact mt (hearInState_off_iff _ byte).mp up
    simp only [up, stays, false_and, or_false]
    refine faultStands_cons.trans ((or_iff_right ?_).trans (faultStands_cons_of_ne ?_))
    · rintro ⟨_, _, _, _, _, rest⟩
      simp [awaitEntry] at rest
    · simp [awaitEntry]
  | announced transport announce =>
    have stays : ((s.readOne byte transport).apply .announced).link.state ≠ .off := by
      rw [link_apply, Link.apply_announced]
      nofun
    have announces : ¬ Unannounced ([s.readEntry byte].map .called ++ later) := by
      subst announce
      simp [unannounced_cons, Event.announces, readEntry, Event.heard?]
    simp only [stays, announces, false_and, and_false, or_false]
    exact faultStands_cons_of_ne (by simp [readEntry, announce, Signal.announce, Signal.fault])
  | plain transport unannounced unawaited heard =>
    have same : t.link.state = .off ↔ s.link.state = .off := by
      rw [← congrArg (·.2.link.state) heard]
      exact hearInState_off_iff _ byte
    have stands : FaultStands s.config ([s.readEntry byte].map .called ++ later) ↔
        FaultStands s.config later := by
      refine faultStands_cons_of_ne ?_
      intro state limit timeout up read
      simp only [readEntry, Event.called.injEq, Entry.mk.injEq, Call.read.injEq, Option.some.injEq,
        List.cons.injEq] at read
      exact up (read.1.symm.trans (unawaited read.2.2.2.1))
    have quiet : (Event.called (s.readEntry byte)).announces = false := by
      simp [Event.announces, readEntry, Event.heard?, unannounced]
    rw [stands, same]
    simp only [List.map_singleton, List.singleton_append, unannounced_cons, quiet, true_and]

theorem Hearing.not_failed {s t : Session T} {byte : UInt8} {reaction : Reaction}
    {calls : List Entry} (h : s.Hearing byte reaction t calls) :
    ∀ event ∈ calls.map Event.called, event.isFailedRead = false := by
  cases h <;> simp [readEntry, awaitEntry, Event.isFailedRead]

/-- When reading ends, the link is down exactly if a read failed, or a fault report stands, or the
link was down before and the display has not announced itself. -/
theorem Reading.down_iff {s t : Session T} {heard : Bool} {outcome : Drained}
    {calls : List Entry} (h : s.Reading heard outcome t calls) :
    t.link.state = .off ↔
      (∃ event ∈ calls.map Event.called, event.isFailedRead = true) ∨
        FaultStands s.config (calls.map Event.called) ∨
          s.link.state = .off ∧ Unannounced (calls.map Event.called) := by
  induction h with
  | failed s heard transport =>
    refine iff_of_true (by simp) (.inl ⟨_, List.mem_singleton_self _, rfl⟩)
  | nothing s heard transport =>
    have unread : ¬ FaultStands s.config
        [.called ⟨s.link.state, .read 1 s.config.readTimeout (some [])⟩] :=
      mt (faultStands_cons_of_ne (by simp)).mp not_faultStands_nil
    simp [unread, Event.isFailedRead, Unannounced, Event.announces, Event.heard?, after]
  | key heard hearing =>
    have step := hearing.down_iff []
    rw [List.append_nil, or_iff_right not_faultStands_nil] at step
    rw [step]
    have whole := hearing.not_failed
    have calm : Unannounced [] := List.forall_mem_nil _
    simp only [calm, and_true]
    refine (or_iff_right ?_).symm
    rintro ⟨event, inside, failed⟩
    simp [whole event inside] at failed
  | other heard hearing unkeyed later ih =>
    have whole := hearing.not_failed
    rw [ih, hearing.config_eq, List.map_append, ← hearing.down_iff]
    refine or_congr_left ⟨?_, ?_⟩
    · rintro ⟨event, inside, failed⟩
      exact ⟨event, List.mem_append_right _ inside, failed⟩
    · rintro ⟨event, inside, failed⟩
      rcases List.mem_append.mp inside with now | next
      · simp [whole event now] at failed
      · exact ⟨event, next, failed⟩

/-! ## Writing -/

/-- Between two sessions a write is cut short. -/
def Cuts (s t : Session T) : Prop :=
  ∃ entry ∈ s.callsUntil t, (Event.called entry).isCutWrite = true

/-- The last describe request is overdue. -/
def GivesUp (s : Session T) : Prop :=
  s.link.state = .resetting ∧ s.config.resettingTimeout < s.link.elapsed ∧ s.exhausted = true

/-- Where nothing but a single write is added to the journal, that is the one that is cut. -/
theorem cuts_iff {s t : Session T} {data : List UInt8} {accepted : Option Nat}
    (journal : t.line.journal = s.line.journal ++ [⟨s.link.state, .write data accepted⟩]) :
    s.Cuts t ↔ accepted ≠ some data.length := by
  rw [Cuts, callsUntil_of_journal journal]
  simp [Event.isCutWrite]

theorem not_cuts {s t : Session T} (journal : t.line.journal = s.line.journal) : ¬ s.Cuts t := by
  rw [Cuts, callsUntil_of_journal (journal.trans (List.append_nil _).symm)]
  simp

theorem cuts_of_journal {s t u v : Session T} (first : s.line.journal = t.line.journal)
    (last : u.line.journal = v.line.journal) : s.Cuts u ↔ t.Cuts v := by
  rw [Cuts, Cuts, callsUntil, callsUntil, first, last]

theorem Sends.writes {s t : Session T} (h : s.Sends t) :
    ∀ event ∈ (s.callsUntil t).map Event.called, event.isWrite = true := by
  cases h with
  | nothing journal => simp [Session.callsUntil, journal]
  | once entry journal write => simp [Session.callsUntil, journal, write]

variable [Transport T]

theorem transmit_down_iff (s : Session T) :
    s.transmit.link.state = .off ↔ s.link.state = .off ∨ s.Cuts s.transmit := by
  cases built : s.image.frame? s.model.envelope with
  | none =>
    have same : s.transmit = s := by rw [transmit, built]
    rw [same, or_iff_left (not_cuts rfl)]
  | some frame =>
    obtain ⟨accepted, transport, sent⟩ := transmit_eq built
    have cuts : s.Cuts s.transmit ↔ accepted ≠ some frame.bytes.length := by
      refine cuts_iff ?_
      rw [sent]
      split_ifs <;> rfl
    rw [cuts, sent]
    split_ifs with whole
    · rw [or_iff_left (not_not_intro whole)]
      exact s.link.state_apply_frameSent_off
    · simp [whole]

theorem probe_down_iff (s : Session T) :
    s.probe.link.state = .off ↔ s.link.state = .off ∨ s.Cuts s.probe := by
  obtain ⟨accepted, transport, sent⟩ := s.probe_eq
  have cuts : s.Cuts s.probe ↔ accepted ≠ some [Signal.describe].length := by
    refine cuts_iff ?_
    rw [sent]
    split_ifs <;> rfl
  rw [cuts, sent]
  split_ifs with whole
  · exact s.link.state_apply_probed_off.trans (or_iff_left (not_not_intro whole)).symm
  · simp [whole]

theorem flush_down_iff (s : Session T) :
    s.flush.link.state = .off ↔ s.link.state = .off ∨ s.Cuts s.flush := by
  unfold flush
  split_ifs
  · exact s.transmit_down_iff
  · exact (or_iff_left (not_cuts rfl)).symm

theorem recover_down_iff (s : Session T) :
    s.recover.link.state = .off ↔ s.link.state = .off ∨ s.Cuts s.recover ∨ s.GivesUp := by
  by_cases gives : s.GivesUp
  · obtain ⟨resetting, late, exhausted⟩ := gives
    rw [recover_resetting resetting late, if_pos exhausted]
    exact iff_of_true (by simp) (.inr (.inr ⟨resetting, late, exhausted⟩))
  · rw [or_iff_left gives]
    cases s.recovery with
    | rest same => rw [same, or_iff_left (not_cuts rfl)]
    | giveUp resetting late exhausted => exact absurd ⟨resetting, late, exhausted⟩ gives
    | probe _ probed => rw [probed, probe_down_iff]
    | again _ _ _ sent => rw [sent]; exact transmit_down_iff { s with image := s.image.markDirty }

/-- What is written after a timeout is written once, by recovery or by the flush. -/
theorem recover_flush_down_iff (s : Session T) :
    s.recover.flush.link.state = .off ↔
      s.link.state = .off ∨ s.Cuts s.recover.flush ∨ s.GivesUp := by
  cases s.sends_recover with
  | nothing journal =>
    rw [flush_down_iff, recover_down_iff, or_iff_right (not_cuts journal),
      cuts_of_journal journal rfl]
    grind
  | once entry journal write busy => rw [flush_of_ne busy, recover_down_iff]

/-- After reading, a poll loses the link by a write that is cut short, or by giving it up. -/
theorem poll_down_iff (s : Session T) (elapsed : UInt32) :
    let t := ((s.tick elapsed).drain false).2
    (s.poll elapsed).2.link.state = .off ↔ t.link.state = .off ∨ t.Cuts (s.poll elapsed).2 ∨
      ((s.tick elapsed).drain false).1 = .dry false ∧ t.GivesUp := by
  unfold poll
  cases (s.tick elapsed).drain false with
  | mk outcome t =>
    have repeated (u : Session T) : t.Cuts u.autorepeat.2 ↔ t.Cuts u :=
      cuts_of_journal rfl (congrArg Line.journal (autorepeat_line u))
    match outcome with
    | .key command =>
      simp only [reduceCtorEq, false_and, or_false]
      exact flush_down_iff { t with countdown := t.config.repeatDelay }
    | .dry true =>
      simp only [Drained.dry.injEq, reduceCtorEq, false_and, or_false, autorepeat_link, repeated]
      exact flush_down_iff t
    | .dry false =>
      simp only [true_and, autorepeat_link, repeated]
      exact recover_flush_down_iff t

/-! ## Operations -/

/-- Reads fail, and fault reports are confirmed, while a poll reads. -/
theorem read_down_iff {s t : Session T} (up : s.link.state ≠ .off) {elapsed : UInt32}
    {outcome : Drained} (drained : (s.tick elapsed).drain false = (outcome, t)) :
    t.link.state = .off ↔
      (∃ event ∈ s.events (.poll elapsed), event.isFailedRead = true) ∨
        FaultStands s.config (s.events (.poll elapsed)) := by
  have reading := (s.tick elapsed).reading_drain false
  have writes := (s.poll_sends elapsed).writes
  have events := s.events_poll elapsed
  simp only [drained] at reading writes events
  have read : t.link.state = .off ↔
      (∃ event ∈ ((s.tick elapsed).callsUntil t).map Event.called, event.isFailedRead = true) ∨
        FaultStands s.config (((s.tick elapsed).callsUntil t).map .called) := by
    rw [reading.down_iff]
    refine or_congr_right (or_iff_left ?_)
    rintro ⟨off, _⟩
    exact up off
  rw [read, events, List.cons_append, faultStands_cons_of_ne (by simp),
    faultStands_append_writes writes]
  refine or_congr_left ⟨?_, ?_⟩
  · rintro ⟨event, inside, failed⟩
    exact ⟨event, List.mem_cons_of_mem _ (List.mem_append_left _ inside), failed⟩
  · rintro ⟨event, inside, failed⟩
    rcases List.mem_cons.mp inside with rfl | inside
    · cases failed
    · rcases List.mem_append.mp inside with read | written
      · exact ⟨event, read, failed⟩
      · have unwritten := Event.not_isWrite_of_isFailedRead failed
        rw [writes event written] at unwritten
        cases unwritten

/-- What is cut in a poll is cut after reading. -/
theorem cut_in_poll_iff (s : Session T) (elapsed : UInt32) :
    (∃ event ∈ s.events (.poll elapsed), event.isCutWrite = true) ↔
      ((s.tick elapsed).drain false).2.Cuts (s.poll elapsed).2 := by
  have unwritten := s.unwritten_poll elapsed
  rw [events_poll]
  constructor
  · rintro ⟨event, inside, cut⟩
    rcases List.mem_append.mp inside with read | written
    · have write := Event.isWrite_of_isCutWrite cut
      rw [unwritten event read] at write
      cases write
    · obtain ⟨entry, call, rfl⟩ := List.mem_map.mp written
      exact ⟨entry, call, cut⟩
  · rintro ⟨entry, inside, cut⟩
    exact ⟨_, List.mem_append_right _ (List.mem_map_of_mem inside), cut⟩

/-- A poll hears what it reads, and writes what it calls for afterwards. -/
theorem heardIn_poll (s : Session T) (elapsed : UInt32) :
    let t := ((s.tick elapsed).drain false).2
    heardIn (s.events (.poll elapsed)) = heardIn (((s.tick elapsed).callsUntil t).map .called) ∧
      writtenIn (s.events (.poll elapsed)) =
        writtenIn ((t.callsUntil (s.poll elapsed).2).map .called) := by
  have writes := (s.poll_sends elapsed).writes
  have unwritten := writtenIn_of_unwritten (s.unwritten_poll elapsed)
  have unheard := heardIn_of_silent fun event inside =>
    Event.heard?_of_isWrite (writes event inside)
  rw [events_poll, heardIn_append, writtenIn, List.filterMap_append]
  constructor
  · rw [unheard, List.append_nil]
    rfl
  · exact congrArg (· ++ _) unwritten

/-- A poll that reads no byte makes no call that hands one over. -/
theorem silent_of_dry {s t : Session T} {elapsed : UInt32}
    (drained : (s.tick elapsed).drain false = (.dry false, t)) :
    Silent (s.events (.poll elapsed)) := by
  have writes := (s.poll_sends elapsed).writes
  rw [events_poll, silent_append]
  refine ⟨?_, fun event written => Event.heard?_of_isWrite (writes event written)⟩
  rw [drained]
  rcases drain_silent drained with ⟨transport, rfl⟩ | ⟨transport, rfl⟩
  · rw [callsUntil_of_journal rfl]
    simp [Silent, Event.heard?]
  · rw [callsUntil_of_journal rfl]
    simp [Silent, Event.heard?]

theorem poll_loses_iff {s : Session T} (up : s.link.state ≠ .off) (elapsed : UInt32) :
    (s.poll elapsed).2.link.state = .off ↔ s.LosesLink (.poll elapsed) := by
  have cut := s.cut_in_poll_iff elapsed
  have down := s.poll_down_iff elapsed
  cases drained : (s.tick elapsed).drain false with
  | mk outcome t =>
    have read := read_down_iff up drained
    simp only [drained] at cut down
    constructor
    · intro off
      rcases down.mp off with off | cuts | ⟨rfl, resetting, late, exhausted⟩
      · rcases read.mp off with failed | stands
        · exact .readFailed failed
        · exact .faultStands stands
      · exact .writeCut (cut.mpr cuts)
      · rcases drain_silent drained with ⟨transport, rfl⟩ | ⟨transport, rfl⟩
        · simp at resetting
        · exact .exhausted rfl (silent_of_dry drained) resetting late (of_decide_eq_true exhausted)
    · intro lost
      cases lost with
      | readFailed failed => exact down.mpr (.inl (read.mpr (.inl failed)))
      | faultStands stands => exact down.mpr (.inl (read.mpr (.inr stands)))
      | writeCut cuts => exact down.mpr (.inr (.inl (cut.mp cuts)))
      | exhausted polled silent resetting late used =>
        cases polled
        obtain ⟨found, polled⟩ := poll_silent silent
        simp only [drained] at found polled
        rw [polled, autorepeat_link, recover_flush_down_iff]
        rcases found with ⟨transport, rfl⟩ | ⟨transport, rfl⟩
        · exact .inl (by simp)
        · exact .inr (.inr ⟨resetting, late, decide_eq_true used⟩)

/-- An operation other than a poll makes at most one call, which is a write. It takes the link down
by that alone, and makes no call if the link is down already. -/
theorem perform_unpolled (s : Session T) {operation : Operation T}
    (unpolled : operation.elapsed? = none) :
    let t := (s.perform operation).2
    s.Sends t ∧ (t.link.state = .off ↔ s.link.state = .off ∨ s.Cuts t) ∧
      (s.link.state = .off → t.line.journal = s.line.journal) := by
  have unmoved {t : Session T} (line : t.line.journal = s.line.journal) (link : t.link = s.link) :
      s.Sends t ∧ (t.link.state = .off ↔ s.link.state = .off ∨ s.Cuts t) ∧
        (s.link.state = .off → t.line.journal = s.line.journal) := by
    refine ⟨.nothing line, ?_, fun _ => line⟩
    rw [link, or_iff_left (not_cuts line)]
  cases operation with
  | poll elapsed => cases unpolled
  | write area cells =>
    cases written : s.image.write area cells with
    | error mismatch =>
      rw [perform_refused written]
      exact unmoved rfl rfl
    | ok image =>
      cases area with
      | status =>
        rw [perform_write (write_status written)]
        exact unmoved rfl rfl
      | main =>
        rw [perform_write (write_main written)]
        have shown : s.Sends { s with image } := .nothing rfl
        refine ⟨shown.flush, flush_down_iff { s with image }, ?_⟩
        intro off
        have unflushed : { s with image }.flush = { s with image } :=
          flush_of_ne (by simp [off])
        rw [unflushed]
  | setContext context => exact unmoved rfl rfl
  | device act => exact unmoved rfl rfl

/-- Apart from its calls, an operation other than a poll shows cells at most. -/
theorem events_unpolled (s : Session T) {operation : Operation T}
    (unpolled : operation.elapsed? = none) :
    ∀ event ∈ s.events operation, (∃ area cells, event = .shown area cells) ∨
      ∃ entry ∈ s.callsUntil (s.perform operation).2, .called entry = event := by
  intro event inside
  rcases List.mem_append.mp inside with head | call
  · cases operation with
    | poll elapsed => cases unpolled
    | write area cells =>
      generalize (s.perform (.write area cells)).1 = outcome at head
      cases outcome with
      | done => exact .inl ⟨area, cells, List.mem_singleton.mp head⟩
      | _ => cases head
    | _ => cases head
  · exact .inr (List.mem_map.mp call)

theorem unpolled_loses_iff {s : Session T} (up : s.link.state ≠ .off) {operation : Operation T}
    (unpolled : operation.elapsed? = none) :
    (s.perform operation).2.link.state = .off ↔ s.LosesLink operation := by
  obtain ⟨sends, down, _⟩ := s.perform_unpolled unpolled
  have unread : ∀ event ∈ s.events operation, event.heard? = none ∧ event.isFailedRead = false := by
    intro event inside
    rcases s.events_unpolled unpolled event inside with ⟨area, cells, rfl⟩ | ⟨entry, call, rfl⟩
    · exact ⟨rfl, rfl⟩
    · have write := sends.writes _ (List.mem_map_of_mem call)
      refine ⟨Event.heard?_of_isWrite write, Decidable.byContradiction ?_⟩
      intro failed
      have unwritten := Event.not_isWrite_of_isFailedRead (Bool.of_not_eq_false failed)
      rw [write] at unwritten
      cases unwritten
  rw [down, or_iff_right up]
  constructor
  · rintro ⟨entry, inside, cut⟩
    exact .writeCut ⟨_, List.mem_append_right _ (List.mem_map_of_mem inside), cut⟩
  · intro lost
    cases lost with
    | readFailed failed =>
      obtain ⟨event, inside, failed⟩ := failed
      rw [(unread event inside).2] at failed
      cases failed
    | writeCut cut =>
      obtain ⟨event, inside, cut⟩ := cut
      rcases s.events_unpolled unpolled event inside with ⟨area, cells, rfl⟩ | ⟨entry, call, rfl⟩
      · cases cut
      · exact ⟨entry, call, cut⟩
    | faultStands stands =>
      obtain ⟨before, state, after, _, _, same⟩ := stands
      have read := (unread (.called ⟨state, .read 1 s.config.readTimeout (some [Signal.fault])⟩)
        (by simp [same])).1
      cases read
    | exhausted polled =>
      subst polled
      cases unpolled

/-- While the link is down, a poll that hears no announcement only reads. -/
theorem poll_down {s : Session T} (off : s.link.state = .off) {elapsed : UInt32}
    (unannounced : Unannounced (s.events (.poll elapsed))) :
    (s.poll elapsed).2.link.state = .off ∧
      (s.poll elapsed).2.line.journal = ((s.tick elapsed).drain false).2.line.journal := by
  have reading := (s.tick elapsed).reading_drain false
  rw [events_poll] at unannounced
  have calm := (List.forall_mem_append.mp (unannounced_cons.mp unannounced).2).1
  have down := reading.down_iff.mpr (.inr (.inr ⟨off, calm⟩))
  unfold poll
  cases drained : (s.tick elapsed).drain false with
  | mk outcome t =>
    simp only [drained] at down
    have busy : t.link.state ≠ .ready := by simp [down]
    match outcome with
    | .key command =>
      have unflushed : { t with countdown := t.config.repeatDelay }.flush = _ := flush_of_ne busy
      simp only [unflushed, and_true]
      exact down
    | .dry true =>
      simp only [flush_of_ne busy, autorepeat_link, autorepeat_line, and_true]
      exact down
    | .dry false =>
      simp only [recover_off down, flush_of_ne busy, autorepeat_link, autorepeat_line, and_true]
      exact down

/-- An operation finds the link up and loses it exactly for one of the four reasons. If it finds the
link down and hears no announcement, the link stays down and nothing is written. -/
theorem link_is_lost_for_a_reason (s : Session T) (operation : Operation T) :
    (s.link.state ≠ .off →
      ((s.perform operation).2.link.state = .off ↔ s.LosesLink operation)) ∧
    (s.link.state = .off → Unannounced (s.events operation) →
      (s.perform operation).2.link.state = .off ∧ writtenIn (s.events operation) = []) := by
  by_cases unpolled : operation.elapsed? = none
  · refine ⟨fun up => unpolled_loses_iff up unpolled, ?_⟩
    intro off _
    obtain ⟨_, down, journal⟩ := s.perform_unpolled unpolled
    refine ⟨down.mpr (.inl off), writtenIn_of_unwritten ?_⟩
    intro event inside
    rcases s.events_unpolled unpolled event inside with ⟨area, cells, rfl⟩ | ⟨entry, call, _⟩
    · rfl
    · simp [callsUntil, journal off] at call
  · cases operation with
    | poll elapsed =>
      refine ⟨fun up => poll_loses_iff up elapsed, ?_⟩
      intro off unannounced
      obtain ⟨down, journal⟩ := poll_down off unannounced
      refine ⟨down, writtenIn_of_unwritten ?_⟩
      rw [events_poll, callsUntil_of_journal (journal.trans (List.append_nil _).symm), List.map_nil,
        List.append_nil]
      exact s.unwritten_poll elapsed
    | _ => exact absurd rfl unpolled

/-- A fault report that nothing follows takes the link down, and cells are not written then. -/
theorem link_is_lost_for_a_reason_fault : ∃ opened : Session ScriptedTransport,
    connect ⟨{ replies := [[0xFE, 0xFE, 0x80]] }, []⟩ {} = .ok opened ∧
    let session := (opened.run [.device (·.receive [0x06])]).2
    let lost := (session.perform (.poll 5)).2
    session.link.state ≠ .off ∧ session.LosesLink (.poll 5) ∧ lost.link.state = .off ∧
    writtenIn (lost.events (.write .main (List.replicate 20 3))) = [] := by
  let before : List (Operation ScriptedTransport) := [.device (·.receive [0x06])]
  let write : Operation ScriptedTransport := .write .main (List.replicate 20 3)
  obtain ⟨opened, connected⟩ := exists_connect (T := ScriptedTransport)
    ⟨{ replies := [[0xFE, 0xFE, 0x80]] }, []⟩ {} (by decide +kernel)
  have up : (opened.run before).2.link.state = .ready :=
    of_connect connected (fun s => (s.run before).2.link.state) (by decide +kernel)
  have up : (opened.run before).2.link.state ≠ .off := by simp [up]
  have off : ((opened.run before).2.perform (.poll 5)).2.link.state = .off :=
    of_connect connected (fun s => ((s.run before).2.perform (.poll 5)).2.link.state)
      (by decide +kernel)
  have calm : decide (Unannounced (((opened.run before).2.perform (.poll 5)).2.events write)) =
      true :=
    of_connect connected
      (fun s => decide (Unannounced (((s.run before).2.perform (.poll 5)).2.events write)))
      (by decide +kernel)
  have lost := ((link_is_lost_for_a_reason (opened.run before).2 (.poll 5)).1 up).mp off
  have quiet := (link_is_lost_for_a_reason ((opened.run before).2.perform (.poll 5)).2 write).2 off
    (of_decide_eq_true calm)
  exact ⟨opened, connected, up, lost, off, quiet.2⟩

end Session

end BrailleDisplay
