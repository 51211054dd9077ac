import BrailleDisplay.Proofs.Session.DeadLink

/-!
# The schedule of recovery

A link that waits for an acknowledgement, on a transport that works but hands nothing over, is taken
through a fixed sequence: the frame is written again, then describe requests, then the link is
given up. `Remedy.next` says what each timeout brings, by its number alone. The retries that a
link counts start anew when its state changes, so `Schedule.Governs` ties them to the number of
timeouts that have run out in all.
-/
namespace BrailleDisplay

/-- What is done when a timeout runs out. -/
inductive Remedy where
  | frame | probe | giveUp
  deriving Repr, DecidableEq

namespace Remedy

/-- The remedy for the timeout with this number, counted from 1. The retries are counted in one
byte, so if 255 of them are allowed they are never used up. -/
def next (maxRetries number : Nat) : Remedy :=
  if maxRetries = 255 ∨ number ≤ maxRetries + 1 then .frame
  else if number ≤ 2 * maxRetries + 3 then .probe
  else .giveUp

/-- The link state in which a remedy leaves the link. -/
def state : Remedy → LinkState
  | .frame => .writing
  | .probe => .resetting
  | .giveUp => .off

/-- What a remedy writes. -/
def written (frame : List UInt8) : Remedy → List (List UInt8)
  | .frame => [frame]
  | .probe => [[Signal.describe]]
  | .giveUp => []

variable {maxRetries number : Nat}

theorem next_eq_frame :
    next maxRetries number = .frame ↔ maxRetries = 255 ∨ number ≤ maxRetries + 1 := by
  unfold next
  split_ifs <;> grind

theorem next_eq_probe : next maxRetries number = .probe ↔
    maxRetries ≠ 255 ∧ maxRetries + 1 < number ∧ number ≤ 2 * maxRetries + 3 := by
  unfold next
  split_ifs <;> grind

theorem next_eq_giveUp :
    next maxRetries number = .giveUp ↔ maxRetries ≠ 255 ∧ 2 * maxRetries + 3 < number := by
  unfold next
  split_ifs <;> grind

theorem state_injective (first second : Remedy) (same : first.state = second.state) :
    first = second := by
  cases first <;> cases second <;> first | rfl | cases same

end Remedy

/-- The timeout that is in force in a link state. -/
def Config.timeoutIn (config : Config) : LinkState → Option UInt32
  | .resetting => some config.resettingTimeout
  | .identifying => some config.identifyingTimeout
  | .writing => some config.writingTimeout
  | .off | .ready => none

/-- How many timeouts have run out, and how much time has passed since the last one did. -/
structure Schedule where
  expiries : Nat := 0
  clock : UInt32 := 0
  deriving Repr, DecidableEq

namespace Schedule

/-- The link state that a schedule is in. Before the first timeout a frame was sent, too. -/
def state (maxRetries : UInt8) (schedule : Schedule) : LinkState :=
  (Remedy.next maxRetries.toNat schedule.expiries).state

/-- The timeout in force runs out when this much more time passes. -/
def expires (config : Config) (schedule : Schedule) (elapsed : UInt32) : Bool :=
  (config.timeoutIn (schedule.state config.maxRetries)).any (· < addCapped schedule.clock elapsed)

/-- Lets time pass. -/
def pass (config : Config) (schedule : Schedule) (elapsed : UInt32) : Schedule :=
  if schedule.expires config elapsed then ⟨schedule.expiries + 1, 0⟩
  else { schedule with clock := addCapped schedule.clock elapsed }

/-- The schedule after polls that let these times pass. -/
def after (config : Config) (ticks : List UInt32) : Schedule := ticks.foldl (pass config) {}

/-- The link is where the schedule has it. -/
structure Governs (maxRetries : UInt8) (schedule : Schedule) (link : Link) : Prop where
  state : link.state = schedule.state maxRetries
  clock : link.elapsed = schedule.clock
  writing : link.state = .writing → link.retries.toNat = min schedule.expiries 255
  resetting : link.state = .resetting →
    link.retries.toNat + maxRetries.toNat + 2 = schedule.expiries

end Schedule

/-- The transport works, but hands nothing over. -/
def Unanswered (events : List Event) : Prop :=
  ∀ event ∈ events, event.heard? = none ∧ event.isFailedRead = false ∧ event.isCutWrite = false

instance (events : List Event) : Decidable (Unanswered events) :=
  inferInstanceAs (Decidable (∀ event ∈ events, _))

theorem unanswered_append {before after : List Event} :
    Unanswered (before ++ after) ↔ Unanswered before ∧ Unanswered after :=
  List.forall_mem_append

theorem Unanswered.whole {state : LinkState} {data : List UInt8} {accepted : Option Nat}
    (h : Unanswered [.called ⟨state, .write data accepted⟩]) : accepted = some data.length := by
  simpa [Event.isCutWrite] using (h _ List.mem_cons_self).2.2

theorem Unanswered.silent {events : List Event} (h : Unanswered events) : Silent events :=
  fun event inside => (h event inside).1

/-! ## The link on its schedule -/

namespace Schedule

variable {maxRetries : UInt8} {schedule : Schedule} {link : Link}

/-- The first timeout is still to come. -/
theorem governs_new (maxRetries : UInt8) : Governs maxRetries {} ⟨.writing, 0, 0⟩ where
  state := by simp [Schedule.state, Remedy.next_eq_frame.mpr, Remedy.state]
  clock := rfl
  writing _ := rfl
  resetting := nofun

/-- The next timeout brings a remedy, which leaves the link on the schedule if the retries fit. -/
theorem governs_enter {remedy : Remedy}
    (next : Remedy.next maxRetries.toNat (schedule.expiries + 1) = remedy)
    (frame : remedy = .frame →
      (link.enter .writing).retries.toNat = min (schedule.expiries + 1) 255)
    (probe : remedy = .probe →
      (link.enter .resetting).retries.toNat + maxRetries.toNat + 2 = schedule.expiries + 1) :
    Governs maxRetries ⟨schedule.expiries + 1, 0⟩ (link.enter remedy.state) := by
  refine ⟨?_, rfl, ?_, ?_⟩
  · rw [Schedule.state, next, Link.state_enter]
  · intro writing
    obtain rfl := Remedy.state_injective _ .frame writing
    exact frame rfl
  · intro resetting
    obtain rfl := Remedy.state_injective _ .probe resetting
    exact probe rfl

theorem Governs.next_eq (h : Governs maxRetries schedule link) (remedy : Remedy)
    (state : link.state = remedy.state) : Remedy.next maxRetries.toNat schedule.expiries = remedy :=
  Remedy.state_injective _ _ (h.state.symm.trans state)

/-- A frame is written again as long as retries are left. -/
theorem Governs.frameAgain (h : Governs maxRetries schedule link)
    (writing : link.state = .writing) (left : link.retries ≤ maxRetries) :
    Remedy.next maxRetries.toNat (schedule.expiries + 1) = .frame ∧
      Governs maxRetries ⟨schedule.expiries + 1, 0⟩ (link.enter .writing) := by
  have retries := h.writing writing
  have left : link.retries.toNat ≤ maxRetries.toNat := UInt8.le_iff_toNat_le.mp left
  have small := maxRetries.toNat_lt
  have frame : Remedy.next maxRetries.toNat (schedule.expiries + 1) = .frame := by
    rw [Remedy.next_eq_frame]
    omega
  refine ⟨frame, governs_enter frame ?_ nofun⟩
  intro _
  rw [Link.retries_enter_of_eq writing.symm, toNat_countUp, UInt8.size]
  omega

/-- Then the first describe request is written. -/
theorem Governs.firstProbe (h : Governs maxRetries schedule link)
    (writing : link.state = .writing) (exhausted : maxRetries < link.retries) :
    Remedy.next maxRetries.toNat (schedule.expiries + 1) = .probe ∧
      Governs maxRetries ⟨schedule.expiries + 1, 0⟩ (link.enter .resetting) := by
  have retries := h.writing writing
  have used := Remedy.next_eq_frame.mp (h.next_eq .frame writing)
  have exhausted : maxRetries.toNat < link.retries.toNat := UInt8.lt_iff_toNat_lt.mp exhausted
  have probe : Remedy.next maxRetries.toNat (schedule.expiries + 1) = .probe := by
    rw [Remedy.next_eq_probe]
    omega
  refine ⟨probe, governs_enter probe nofun ?_⟩
  intro _
  rw [Link.retries_enter_of_ne (by simp [writing]), UInt8.toNat_zero]
  omega

/-- A describe request is written again as long as retries are left. -/
theorem Governs.probeAgain (h : Governs maxRetries schedule link)
    (resetting : link.state = .resetting) (left : link.retries ≤ maxRetries) :
    Remedy.next maxRetries.toNat (schedule.expiries + 1) = .probe ∧
      Governs maxRetries ⟨schedule.expiries + 1, 0⟩ (link.enter .resetting) := by
  have retries := h.resetting resetting
  have probed := Remedy.next_eq_probe.mp (h.next_eq .probe resetting)
  have left : link.retries.toNat ≤ maxRetries.toNat := UInt8.le_iff_toNat_le.mp left
  have small := maxRetries.toNat_lt
  have probe : Remedy.next maxRetries.toNat (schedule.expiries + 1) = .probe := by
    rw [Remedy.next_eq_probe]
    omega
  refine ⟨probe, governs_enter probe nofun ?_⟩
  intro _
  rw [Link.retries_enter_of_eq resetting.symm, toNat_countUp, UInt8.size]
  omega

/-- After the last describe request the link is given up. -/
theorem Governs.giveUp (h : Governs maxRetries schedule link)
    (resetting : link.state = .resetting) (exhausted : maxRetries < link.retries) :
    Remedy.next maxRetries.toNat (schedule.expiries + 1) = .giveUp ∧
      Governs maxRetries ⟨schedule.expiries + 1, 0⟩ (link.enter .off) := by
  have retries := h.resetting resetting
  have probed := Remedy.next_eq_probe.mp (h.next_eq .probe resetting)
  have exhausted : maxRetries.toNat < link.retries.toNat := UInt8.lt_iff_toNat_lt.mp exhausted
  have giveUp : Remedy.next maxRetries.toNat (schedule.expiries + 1) = .giveUp := by
    rw [Remedy.next_eq_giveUp]
    omega
  exact ⟨giveUp, governs_enter giveUp nofun nofun⟩

theorem Governs.ne_ready (h : Governs maxRetries schedule link) : link.state ≠ .ready := by
  rw [h.state, Schedule.state]
  cases Remedy.next maxRetries.toNat schedule.expiries <;> nofun

/-- Time that passes without a timeout changes the clock only. -/
theorem Governs.tick (h : Governs maxRetries schedule link) (elapsed : UInt32) :
    Governs maxRetries { schedule with clock := addCapped schedule.clock elapsed }
      (link.tick elapsed) where
  state := h.state
  clock := congrArg (addCapped · elapsed) h.clock
  writing := h.writing
  resetting := h.resetting

end Schedule

variable {T : Type} [Transport T]

namespace Session

/-! ## Recovery on a transport that works -/

/-- The frame is sent again, and accepted. -/
theorem transmit_unanswered {s : Session T} (fits : s.Fits) (writing : s.link.state = .writing)
    (quiet : Unanswered ((s.callsUntil s.transmit).map .called)) :
    writtenIn ((s.callsUntil s.transmit).map .called) = [s.frameBytes] ∧
      s.transmit.link = s.link.enter .writing := by
  obtain ⟨frame, built⟩ := fits.frame_built
  obtain ⟨accepted, transport, sent⟩ := transmit_eq built
  have bytes : frame.bytes = s.frameBytes := Envelope.bytes_of_frame? built
  have calls : s.callsUntil s.transmit = [⟨s.link.state, .write frame.bytes accepted⟩] := by
    rw [sent]
    split_ifs <;> exact callsUntil_of_journal rfl
  rw [calls] at quiet ⊢
  rw [if_pos quiet.whole] at sent
  constructor
  · rw [bytes]
    rfl
  · rw [sent]
    exact Link.apply_frameSent (.inr writing)

/-- A describe request is sent, and accepted. -/
theorem probe_unanswered {s : Session T}
    (waiting : s.link.state = .resetting ∨ s.link.state = .identifying ∨ s.link.state = .writing)
    (quiet : Unanswered ((s.callsUntil s.probe).map .called)) :
    writtenIn ((s.callsUntil s.probe).map .called) = [[Signal.describe]] ∧
      s.probe.link = s.link.enter .resetting := by
  obtain ⟨accepted, transport, sent⟩ := s.probe_eq
  have calls : s.callsUntil s.probe = [⟨s.link.state, .write [Signal.describe] accepted⟩] := by
    rw [sent]
    split_ifs <;> exact callsUntil_of_journal rfl
  rw [calls] at quiet ⊢
  have whole : accepted = some 1 := quiet.whole
  rw [if_pos whole] at sent
  constructor
  · rfl
  · rw [sent]
    exact Link.apply_probed waiting

theorem recover_early {s : Session T}
    (early : (s.config.timeoutIn s.link.state).any (· < s.link.elapsed) = false) :
    s.recover = s := by
  unfold recover
  cases state : s.link.state <;> simp_all [Config.timeoutIn]

/-- When a timeout runs out, the next remedy of the schedule is carried out. -/
theorem recover_on_schedule {s : Session T} (fits : s.Fits) {schedule : Schedule}
    (governs : schedule.Governs s.config.maxRetries s.link)
    (late : (s.config.timeoutIn s.link.state).any (· < s.link.elapsed) = true)
    (quiet : Unanswered ((s.callsUntil s.recover).map .called)) :
    writtenIn ((s.callsUntil s.recover).map .called) =
        (Remedy.next s.config.maxRetries.toNat (schedule.expiries + 1)).written s.frameBytes ∧
      Schedule.Governs s.config.maxRetries ⟨schedule.expiries + 1, 0⟩ s.recover.link := by
  cases state : s.link.state with
  | off | ready => simp [state, Config.timeoutIn] at late
  | identifying =>
    have other := governs.state.symm.trans state
    unfold Schedule.state at other
    cases remedy : Remedy.next s.config.maxRetries.toNat schedule.expiries <;>
      simp [remedy, Remedy.state] at other
  | writing =>
    simp only [state, Config.timeoutIn, Option.any_some, decide_eq_true_eq] at late
    rw [recover_writing state late] at quiet ⊢
    split_ifs at quiet ⊢ with exhausted
    · obtain ⟨next, governs⟩ := governs.firstProbe state (of_decide_eq_true exhausted)
      obtain ⟨written, link⟩ := probe_unanswered (.inr (.inr state)) quiet
      exact ⟨written.trans (by rw [next]; rfl), link ▸ governs⟩
    · obtain ⟨next, governs⟩ := governs.frameAgain state (retries_le (by simpa using exhausted))
      have again : ({ s with image := s.image.markDirty } : Session T).Fits :=
        fits.of_regions rfl fun _ => rfl
      obtain ⟨written, link⟩ := transmit_unanswered again state quiet
      exact ⟨written.trans (by rw [next]; rfl), link ▸ governs⟩
  | resetting =>
    simp only [state, Config.timeoutIn, Option.any_some, decide_eq_true_eq] at late
    rw [recover_resetting state late] at quiet ⊢
    split_ifs at quiet ⊢ with exhausted
    · obtain ⟨next, governs⟩ := governs.giveUp state (of_decide_eq_true exhausted)
      have calls : s.callsUntil (s.apply .exhausted) = [] :=
        callsUntil_of_journal (List.append_nil _).symm
      rw [calls, link_apply, Link.apply_exhausted]
      exact ⟨by rw [next]; rfl, governs⟩
    · obtain ⟨next, governs⟩ := governs.probeAgain state (retries_le (by simpa using exhausted))
      obtain ⟨written, link⟩ := probe_unanswered (.inl state) quiet
      exact ⟨written.trans (by rw [next]; rfl), link ▸ governs⟩

/-- A poll that nothing answers finds nothing to read, and acts on the timeout in force. -/
theorem poll_unanswered {s : Session T} {elapsed : UInt32}
    (quiet : Unanswered (s.events (.poll elapsed))) :
    ∃ transport,
      let t := (s.tick elapsed).after (.read 1 s.config.readTimeout (some [])) transport
      (s.poll elapsed).2 = t.recover.flush.autorepeat.2 ∧
      s.events (.poll elapsed) =
        .polled elapsed s.link :: .called ⟨s.link.state, .read 1 s.config.readTimeout (some [])⟩ ::
          (t.callsUntil (s.poll elapsed).2).map .called := by
  obtain ⟨found, polled⟩ := poll_silent quiet.silent
  have events := s.events_poll elapsed
  rcases found with ⟨transport, failed⟩ | ⟨transport, nothing⟩
  · rw [failed] at events
    have read : .called ⟨s.link.state, .read 1 s.config.readTimeout none⟩ ∈
        s.events (.poll elapsed) := by
      rw [events, callsUntil_of_journal rfl]
      exact List.mem_append_left _ (List.mem_cons_of_mem _ List.mem_cons_self)
    exact absurd (quiet _ read).2.1 nofun
  · rw [nothing] at events polled
    rw [callsUntil_of_journal rfl] at events
    exact ⟨transport, polled, events⟩

/-- A poll that nothing answers keeps to the schedule. -/
theorem poll_on_schedule {s : Session T} (fits : s.Fits) {schedule : Schedule}
    (governs : schedule.Governs s.config.maxRetries s.link) {elapsed : UInt32}
    (quiet : Unanswered (s.events (.poll elapsed))) :
    writtenIn (s.events (.poll elapsed)) =
        (if schedule.expires s.config elapsed then
          (Remedy.next s.config.maxRetries.toNat (schedule.expiries + 1)).written s.frameBytes
        else []) ∧
      (schedule.pass s.config elapsed).Governs s.config.maxRetries (s.poll elapsed).2.link := by
  obtain ⟨transport, polled, events⟩ := poll_unanswered quiet
  generalize found :
    (s.tick elapsed).after (.read 1 s.config.readTimeout (some [])) transport = t at polled events
  have config : t.config = s.config := found ▸ rfl
  have fits' : t.Fits := found ▸ fits.of_regions rfl fun _ => rfl
  have ticked : Schedule.Governs t.config.maxRetries
      { schedule with clock := addCapped schedule.clock elapsed } t.link :=
    found ▸ governs.tick elapsed
  have late : (t.config.timeoutIn t.link.state).any (· < t.link.elapsed) =
      schedule.expires s.config elapsed := by
    rw [ticked.state, ticked.clock, config]
    rfl
  -- Nothing is left for the flush, so what recovery writes is all that is written.
  have busy : t.recover.link.state ≠ .ready := recover_ne_ready ticked.ne_ready
  rw [flush_of_ne busy] at polled
  have calls : t.callsUntil (s.poll elapsed).2 = t.callsUntil t.recover := by
    rw [callsUntil, polled, autorepeat_line, callsUntil]
  rw [calls] at events
  have written : writtenIn (s.events (.poll elapsed)) =
      writtenIn ((t.callsUntil t.recover).map .called) := by
    rw [events]
    rfl
  rw [written, polled, autorepeat_link, Schedule.pass]
  split_ifs with expired
  · rw [events] at quiet
    have rest := (List.forall_mem_cons.mp (List.forall_mem_cons.mp quiet).2).2
    have recovered := recover_on_schedule fits' ticked (late.trans expired) rest
    rwa [config, show t.frameBytes = s.frameBytes from found ▸ rfl] at recovered
  · have same : t.recover = t := recover_early (late.trans (by simpa using expired))
    rw [same, callsUntil_of_journal (List.append_nil _).symm]
    exact ⟨rfl, config ▸ ticked⟩

/-- Operations that nothing answers, and among which the host shows no cells, keep to the
schedule. -/
theorem run_on_schedule {s : Session T} (fits : s.Fits) {schedule : Schedule}
    (governs : schedule.Governs s.config.maxRetries s.link) {operations : List (Operation T)}
    (unwritten : ∀ operation ∈ operations, operation.isWrite = false)
    (quiet : Unanswered (s.history operations)) :
    ((operations.filterMap Operation.elapsed?).foldl (Schedule.pass s.config) schedule).Governs
      s.config.maxRetries (s.run operations).2.link := by
  induction operations generalizing s schedule with
  | nil => exact governs
  | cons operation operations ih =>
    obtain ⟨hidden, unwritten'⟩ := List.forall_mem_cons.mp unwritten
    obtain ⟨now, later⟩ := unanswered_append.mp quiet
    have path := perform_path s operation []
    have fits' : (s.perform operation).2.Fits := path.fits fits
    have config : (s.perform operation).2.config = s.config := path.config_eq
    cases operation with
    | poll elapsed =>
      have rest := ih fits' (config ▸ (poll_on_schedule fits governs now).2) unwritten' later
      rwa [config] at rest
    | write area cells => cases hidden
    | setContext context => exact ih fits' governs unwritten' later
    | device act => exact ih fits' governs unwritten' later

/-- A display that goes silent is dealt with on an exact schedule. A session has just sent a frame;
then nothing is handed over, every call on the transport goes well, and the host shows no cells.
Whatever the time between the polls, the link is then where the schedule has it. The poll that lets
the timeout in force run out carries out the next remedy, and no other poll writes anything. -/
theorem recovery_follows_schedule {line : Line T} {config : Config} {opened : Session T}
    (h : connect line config = .ok opened) (before operations : List (Operation T))
    (elapsed : UInt32) (sent : (opened.run before).2.link = ⟨.writing, 0, 0⟩)
    (unwritten : ∀ operation ∈ operations, operation.isWrite = false)
    (quiet : Unanswered ((opened.run before).2.history (operations ++ [.poll elapsed]))) :
    let session := ((opened.run before).2.run operations).2
    let schedule := Schedule.after config (operations.filterMap Operation.elapsed?)
    let remedy := Remedy.next config.maxRetries.toNat (schedule.expiries + 1)
    session.link.state = schedule.state config.maxRetries ∧
    (schedule.expires config elapsed = true →
      writtenIn (session.events (.poll elapsed)) = remedy.written session.frameBytes ∧
      (session.poll elapsed).2.link.state = remedy.state) ∧
    (schedule.expires config elapsed = false →
      writtenIn (session.events (.poll elapsed)) = [] ∧
      (session.poll elapsed).2.link.state = session.link.state) := by
  intro session schedule remedy
  rw [history_append, history_singleton, unanswered_append] at quiet
  obtain ⟨earlier, now⟩ := quiet
  have reached := run_path opened before []
  have path := run_path (opened.run before).2 operations []
  have fits : (opened.run before).2.Fits := reached.fits (fits_of_connect h)
  have configured : (opened.run before).2.config = config :=
    reached.config_eq.trans (connect_eq h).2.1
  have same : session.config = config := path.config_eq.trans configured
  have governs : schedule.Governs config.maxRetries session.link := by
    have start := sent ▸ Schedule.governs_new (opened.run before).2.config.maxRetries
    have governs := run_on_schedule fits start unwritten earlier
    rwa [configured] at governs
  have polled := poll_on_schedule (path.fits fits) (same ▸ governs) now
  rw [same] at polled
  obtain ⟨written, next⟩ := polled
  refine ⟨governs.state, ?_, ?_⟩
  · intro expired
    rw [if_pos expired] at written
    rw [Schedule.pass, if_pos expired] at next
    exact ⟨written, next.state⟩
  · intro early
    rw [if_neg (by simp [early])] at written
    rw [Schedule.pass, if_neg (by simp [early])] at next
    exact ⟨written, next.state.trans governs.state.symm⟩

/-- If three retries are allowed, the fifth timeout brings the first describe request. -/
theorem recovery_follows_schedule_fifth : ∃ opened : Session ScriptedTransport,
    connect ⟨{ replies := [[0xFE, 0xFE, 0x80]] }, []⟩ {} = .ok opened ∧
    let waiting := (opened.run [.write .main (List.replicate 20 3)]).2
    let session := (waiting.run (List.replicate 8 (.poll 600))).2
    waiting.link = ⟨.writing, 0, 0⟩ ∧ session.link.state = .writing ∧
    Unanswered (waiting.history (List.replicate 8 (.poll 600) ++ [.poll 1001])) ∧
    writtenIn (session.events (.poll 1001)) = [[0xFF]] ∧
    (session.poll 1001).2.link.state = .resetting := by
  let before : List (Operation ScriptedTransport) := [.write .main (List.replicate 20 3)]
  let polls : List (Operation ScriptedTransport) := List.replicate 8 (.poll 600)
  obtain ⟨opened, connected⟩ := exists_connect (T := ScriptedTransport)
    ⟨{ replies := [[0xFE, 0xFE, 0x80]] }, []⟩ {} (by decide +kernel)
  have sent : (opened.run before).2.link = ⟨.writing, 0, 0⟩ :=
    of_connect connected (fun s => (s.run before).2.link) (by decide +kernel)
  have quiet : decide (Unanswered ((opened.run before).2.history (polls ++ [.poll 1001]))) = true :=
    of_connect connected
      (fun s => decide (Unanswered ((s.run before).2.history (polls ++ [.poll 1001]))))
      (by decide +kernel)
  have quiet := of_decide_eq_true quiet
  obtain ⟨state, expired, _⟩ :=
    recovery_follows_schedule connected before polls 1001 sent (by decide) quiet
  have probed := expired (by decide)
  exact ⟨opened, connected, sent, state.trans (by decide), quiet, probed⟩

end Session

end BrailleDisplay
