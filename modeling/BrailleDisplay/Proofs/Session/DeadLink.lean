import BrailleDisplay.Proofs.Session.Opened
import BrailleDisplay.Proofs.Session.Writes
import BrailleDisplay.Transport.Script

/-!
# Dead links

When no byte arrives any more, each write brings the link closer to being given up. `Link.budget`
bounds the writes that are left: a frame and its repetitions, then the describe requests. No step
on a silent link raises the sum of the writes made and the budget, and a poll that outlasts
every timeout writes something or gives the link up.
-/
namespace BrailleDisplay

variable {T : Type}

/-- The writes that a link can still take if nothing is heard on it. -/
def Link.budget (maxRetries : UInt8) (link : Link) : Nat :=
  match link.state with
  | .off => 0
  | .resetting => maxRetries.toNat + 1 - link.retries.toNat
  | .identifying => maxRetries.toNat + 2
  | .writing => (maxRetries.toNat + 1 - link.retries.toNat) + (maxRetries.toNat + 2)
  | .ready => 2 * maxRetries.toNat + 4

def Execution.budget (x : Execution T) : Nat := x.session.link.budget x.session.config.maxRetries

theorem Link.budget_le (maxRetries : UInt8) (link : Link) :
    link.budget maxRetries ≤ 2 * maxRetries.toNat + 4 := by
  unfold budget
  cases link.state <;> simp only <;> omega

theorem Link.budget_lt_of_ne {maxRetries : UInt8} {link : Link} (h : link.state ≠ .ready) :
    link.budget maxRetries < 2 * maxRetries.toNat + 4 := by
  unfold budget
  cases state : link.state with
  | ready => exact absurd state h
  | off | resetting | identifying | writing => simp only; omega

theorem Link.budget_off {maxRetries : UInt8} {link : Link} (h : link.state = .off) :
    link.budget maxRetries = 0 := by simp only [budget, h]

/-- A write that waits for something to come back leaves room for one write less. -/
theorem Link.budget_enter_writing {maxRetries : UInt8} {link : Link}
    (h : link.state = .ready ∨ link.state = .writing ∧ link.retries ≤ maxRetries)
    (bound : maxRetries ≤ 254) :
    (link.enter .writing).budget maxRetries + 1 ≤ link.budget maxRetries := by
  have bound : maxRetries.toNat ≤ 254 := UInt8.le_iff_toNat_le.mp bound
  rcases h with ready | ⟨writing, left⟩
  · rw [budget, state_enter, retries_enter_of_ne (by simp [ready]), budget, ready]
    simp only [UInt8.toNat_zero]
    omega
  · have left : link.retries.toNat ≤ maxRetries.toNat := UInt8.le_iff_toNat_le.mp left
    rw [budget, state_enter, retries_enter_of_eq writing.symm, budget, writing]
    simp only [toNat_countUp, UInt8.size]
    omega

theorem Link.budget_enter_resetting {maxRetries : UInt8} {link : Link}
    (h : link.state = .resetting ∧ link.retries ≤ maxRetries ∨
      link.state = .identifying ∨ link.state = .writing)
    (bound : maxRetries ≤ 254) :
    (link.enter .resetting).budget maxRetries + 1 ≤ link.budget maxRetries := by
  have bound : maxRetries.toNat ≤ 254 := UInt8.le_iff_toNat_le.mp bound
  rcases h with ⟨resetting, left⟩ | identifying | writing
  · have left : link.retries.toNat ≤ maxRetries.toNat := UInt8.le_iff_toNat_le.mp left
    rw [budget, state_enter, retries_enter_of_eq resetting.symm, budget, resetting]
    simp only [toNat_countUp, UInt8.size]
    omega
  · rw [budget, state_enter, retries_enter_of_ne (by simp [identifying]), budget, identifying]
    simp only [UInt8.toNat_zero]
    omega
  · rw [budget, state_enter, retries_enter_of_ne (by simp [writing]), budget, writing]
    simp only [UInt8.toNat_zero]
    omega

/-- The time is longer than every timeout of a link. -/
def Config.Outlasted (config : Config) (elapsed : UInt32) : Prop :=
  config.writingTimeout < elapsed ∧ config.resettingTimeout < elapsed ∧
    config.identifyingTimeout < elapsed

instance (config : Config) (elapsed : UInt32) : Decidable (config.Outlasted elapsed) :=
  inferInstanceAs (Decidable (_ ∧ _))

/-- The operation is a poll that lets every timeout run out. -/
def Operation.outlasts (config : Config) : Operation T → Bool
  | .poll elapsed => config.Outlasted elapsed
  | _ => false

theorem lt_addCapped {limit elapsed : UInt32} (h : limit < elapsed) (before : UInt32) :
    limit < addCapped before elapsed := by
  have h : limit.toNat < elapsed.toNat := UInt32.lt_iff_toNat_lt.mp h
  have := elapsed.toNat_lt
  rw [UInt32.lt_iff_toNat_lt, toNat_addCapped, UInt32.size]
  omega

theorem Config.Outlasted.tick {config : Config} {elapsed : UInt32} (h : config.Outlasted elapsed)
    (link : Link) : config.Outlasted (link.tick elapsed).elapsed :=
  ⟨lt_addCapped h.1 _, lt_addCapped h.2.1 _, lt_addCapped h.2.2 _⟩

/-! ## Steps on a silent link -/

/-- What a step does to a link on which nothing is heard, and how often it writes. -/
inductive SilentMove (x y : Execution T) : Prop where
  | kept (state : y.state = x.state) (retries : y.session.link.retries = x.session.link.retries)
      (writes : writesIn y.history = writesIn x.history)
  | fell (state : y.state = .off) (writes : writesIn y.history = writesIn x.history)
  | failed (due : x.FrameDue ∨ x.ProbeDue) (state : y.state = .off)
      (writes : writesIn y.history = writesIn x.history + 1)
  | framed (due : x.FrameDue) (link : y.session.link = x.session.link.enter .writing)
      (writes : writesIn y.history = writesIn x.history + 1)
  | probed (due : x.ProbeDue) (link : y.session.link = x.session.link.enter .resetting)
      (writes : writesIn y.history = writesIn x.history + 1)

theorem not_silent_hear (x : Execution T) (byte : UInt8) (transport : T) (later : Option T) :
    ¬ Silent (x.hear byte transport later).history := by
  intro silent
  obtain ⟨events, history, _, event, inside, heard⟩ := x.heard_hear byte transport later
  have unheard := silent event (history ▸ List.mem_append_right _ inside)
  rw [heard] at unheard
  cases unheard

theorem Step.silent_of {x y : Execution T} (step : Step x y) (silent : Silent y.history) :
    Silent x.history := by
  obtain ⟨events, history⟩ := step.grows
  rw [history, silent_append] at silent
  exact silent.1

theorem Step.silent_move {x y : Execution T} (step : Step x y) (silent : Silent y.history) :
    SilentMove x y := by
  cases step
  case identify transport later _ _ _ => exact absurd silent (not_silent_hear x _ transport later)
  case key transport byte later _ _ _ _ => exact absurd silent (not_silent_hear x _ transport later)
  case ignore transport byte later _ _ _ _ =>
    exact absurd silent (not_silent_hear x _ transport later)
  case announce transport => exact absurd silent (not_silent_hear x _ transport none)
  case acknowledge transport _ => exact absurd silent (not_silent_hear x _ transport none)
  case acknowledgeMore transport _ => exact absurd silent (not_silent_hear x _ transport none)
  case fault first second _ =>
    exact absurd (silent_append.mp silent).1 (not_silent_hear x Signal.fault first none)
  case poll => exact .kept rfl rfl (writesIn_append _ _)
  case accept => exact .kept rfl rfl (writesIn_append _ _)
  case aside | repeatChord | refuse => exact .kept rfl rfl rfl
  case readFails => exact .fell (by simp) (writesIn_append _ _)
  case readNothing => exact .kept rfl rfl (writesIn_append _ _)
  case giveUp => exact .fell (by simp) rfl
  case frame transport frame due built =>
    exact .framed due (Link.apply_frameSent due.state_eq) (writesIn_append _ _)
  case frameFails transport frame accepted due built cut =>
    exact .failed (.inl due) (by simp) (writesIn_append _ _)
  case probe transport due =>
    exact .probed due (Link.apply_probed due.state_eq) (writesIn_append _ _)
  case probeFails transport accepted due cut =>
    exact .failed (.inr due) (by simp) (writesIn_append _ _)

/-- A silent link stays down once it is, and it does not become ready. -/
theorem Step.silent_state {x y : Execution T} (step : Step x y) (silent : Silent y.history) :
    (x.state = .off → y.state = .off) ∧ (x.state ≠ .ready → y.state ≠ .ready) := by
  cases step.silent_move silent with
  | kept state => rw [state]; exact ⟨id, id⟩
  | fell state => rw [state]; exact ⟨fun _ => rfl, nofun⟩
  | failed _ state => rw [state]; exact ⟨fun _ => rfl, nofun⟩
  | framed due link =>
    have state : y.state = .writing := congrArg Link.state link
    refine ⟨?_, by simp [state]⟩
    intro off
    rcases due.state_eq with h | h <;> simp [h] at off
  | probed due link =>
    have state : y.state = .resetting := congrArg Link.state link
    refine ⟨?_, by simp [state]⟩
    intro off
    rcases due.state_eq with h | h | h <;> simp [h] at off

/-- Whatever a step on a silent link writes, it pays for out of the budget. -/
theorem Step.budget_le {x y : Execution T} (step : Step x y) (silent : Silent y.history)
    (bound : x.session.config.maxRetries ≤ 254) :
    writesIn y.history + y.budget ≤ writesIn x.history + x.budget := by
  have config : y.session.config = x.session.config := step.config_eq
  cases step.silent_move silent with
  | kept state retries writes =>
    have same : y.budget = x.budget := by
      simp only [Execution.state] at state
      simp only [Execution.budget, Link.budget, state, retries, config]
    omega
  | fell state writes =>
    have none : y.budget = 0 := Link.budget_off state
    omega
  | failed due state writes =>
    have none : y.budget = 0 := Link.budget_off state
    have some : 1 ≤ x.budget := by
      rcases due with due | due
      · exact Nat.le_of_add_left_le (Link.budget_enter_writing due.retries_le bound)
      · exact Nat.le_of_add_left_le (Link.budget_enter_resetting due.retries_le bound)
    omega
  | framed due link writes =>
    have less := Link.budget_enter_writing due.retries_le bound
    rw [← link] at less
    simp only [Execution.budget, config]
    omega
  | probed due link writes =>
    have less := Link.budget_enter_resetting due.retries_le bound
    rw [← link] at less
    simp only [Execution.budget, config]
    omega

theorem Path.silent_state {x y : Execution T} (path : Path x y) (silent : Silent y.history) :
    (x.state = .off → y.state = .off) ∧ (x.state ≠ .ready → y.state ≠ .ready) := by
  induction path with
  | refl => exact ⟨id, id⟩
  | tail _ last ih =>
    obtain ⟨off, ready⟩ := ih (last.silent_of silent)
    obtain ⟨off', ready'⟩ := last.silent_state silent
    exact ⟨fun h => off' (off h), fun h => ready' (ready h)⟩

theorem Path.budget_le {x y : Execution T} (path : Path x y) (silent : Silent y.history)
    (bound : x.session.config.maxRetries ≤ 254) :
    writesIn y.history + y.budget ≤ writesIn x.history + x.budget := by
  induction path with
  | refl => exact Nat.le_refl _
  | tail path last ih =>
    have before := ih (last.silent_of silent)
    have step := last.budget_le silent (Path.config_eq path ▸ bound)
    omega

namespace Session

variable [Transport T]

/-! ## Polls on a silent link -/

/-- Reading that ends without a byte ends at the first read. -/
theorem drain_quiet {s rest : Session T} {outcome : Drained} (h : s.drain false = (outcome, rest))
    (quiet : Silent ((s.callsUntil rest).map .called)) : outcome = .dry false := by
  rw [drain] at h
  split at h
  · exact (congrArg Prod.fst h).symm
  · exact (congrArg Prod.fst h).symm
  · next byte middle read =>
    have hearing := listens_hear middle byte
    have later : middle.Listens rest := by
      split at h
      · cases h
        exact hearing
      · have draining := listens_drain (middle.hear byte).2 true
        rw [h] at draining
        exact hearing.trans draining
      · have draining := listens_drain (middle.hear byte).2 true
        rw [h] at draining
        exact hearing.trans draining
    obtain ⟨transport, rfl⟩ := readByte_eq read
    obtain ⟨calls, journal, _⟩ := later
    -- The byte is in the journal, and stays there.
    have first :
        ⟨s.link.state, .read 1 s.config.readTimeout (some [byte])⟩ ∈ s.callsUntil rest := by
      rw [callsUntil, journal]
      simp [after, Line.after, Except.toOption]
    exact absurd (quiet _ (List.mem_map_of_mem first)) nofun

/-- A silent poll finds nothing to read, and goes on to the timeouts. -/
theorem poll_silent {s : Session T} {elapsed : UInt32}
    (silent : Silent (s.events (.poll elapsed))) :
    let t := ((s.tick elapsed).drain false).2
    ((∃ transport,
        t = ((s.tick elapsed).after (.read 1 s.config.readTimeout none) transport).apply .faulted) ∨
      ∃ transport,
        t = (s.tick elapsed).after (.read 1 s.config.readTimeout (some [])) transport) ∧
    (s.poll elapsed).2 = t.recover.flush.autorepeat.2 := by
  rw [events_poll] at silent
  have quiet := (silent_append.mp (List.forall_mem_cons.mp silent).2).1
  unfold poll
  cases drained : (s.tick elapsed).drain false with
  | mk outcome rest =>
    rw [drained] at quiet
    obtain rfl := drain_quiet drained quiet
    exact ⟨drain_silent drained, rfl⟩

theorem journal_probe_ne (s : Session T) : s.probe.line.journal ≠ s.line.journal := by
  obtain ⟨accepted, transport, sent⟩ := s.send_eq [Signal.describe]
  unfold probe
  rw [sent]
  cases accepted == some [Signal.describe].length <;> simp [apply, after, Line.after]

theorem journal_transmit_ne {s : Session T} (fits : s.Fits) :
    s.transmit.line.journal ≠ s.line.journal := by
  obtain ⟨frame, built⟩ := fits.frame_built
  obtain ⟨accepted, transport, sent⟩ := s.send_eq frame.bytes
  unfold transmit
  rw [built]
  simp only [sent]
  cases accepted == some frame.bytes.length <;> simp [apply, after, Line.after]

/-- Once every timeout has run out, something is written or the link is given up. -/
theorem recover_late {s : Session T} (fits : s.Fits) (ready : s.link.state ≠ .ready)
    (late : s.config.Outlasted s.link.elapsed) :
    s.recover.link.state = .off ∨ s.recover.line.journal ≠ s.line.journal := by
  obtain ⟨writing, resetting, identifying⟩ := late
  cases s.recovery with
  | rest same early =>
    rcases early with off | state | early | early | early
    · exact .inl (by rw [same, off])
    · exact absurd state ready
    · exact absurd early (UInt32.not_le.mpr resetting)
    · exact absurd early (UInt32.not_le.mpr identifying)
    · exact absurd early (UInt32.not_le.mpr writing)
  | giveUp _ _ _ given => exact .inl (by simp [given])
  | probe _ probed =>
    rw [probed]
    exact .inr (journal_probe_ne s)
  | again _ _ _ sent =>
    have again : ({ s with image := s.image.markDirty } : Session T).Fits :=
      fits.of_regions rfl fun _ => rfl
    rw [sent]
    exact .inr (journal_transmit_ne again)

/-- A silent poll that outlasts every timeout writes something or gives the link up. -/
theorem writesIn_long_poll {s : Session T} (fits : s.Fits) (ready : s.link.state ≠ .ready)
    {elapsed : UInt32} (long : s.config.Outlasted elapsed)
    (silent : Silent (s.events (.poll elapsed))) :
    (s.poll elapsed).2.link.state = .off ∨ 1 ≤ writesIn (s.events (.poll elapsed)) := by
  have split := s.events_poll elapsed
  obtain ⟨found, polled⟩ := poll_silent silent
  generalize ((s.tick elapsed).drain false).2 = t at found polled split
  have resting (off : t.recover.link.state = .off) : (s.poll elapsed).2.link.state = .off := by
    rw [polled, autorepeat_link, flush_of_ne (by simp [off]), off]
  rcases found with ⟨transport, found⟩ | ⟨transport, found⟩
  · have off : t.link.state = .off := by simp [found]
    exact .inl (resting (by rw [recover_off off, off]))
  · have fits' : t.Fits := found ▸ fits.of_regions rfl fun _ => rfl
    have ready' : t.link.state ≠ .ready := found ▸ ready
    have late : t.config.Outlasted t.link.elapsed := found ▸ long.tick s.link
    rcases recover_late fits' ready' late with off | written
    · exact .inl (resting off)
    · cases sends_recover t with
      | nothing journal => exact absurd journal written
      | once entry journal write busy =>
        have last : (s.poll elapsed).2.line.journal = t.line.journal ++ [entry] := by
          rw [polled, autorepeat_line, flush_of_ne busy, journal]
        have one : writesIn [.called entry] = 1 := by simp [writesIn, write]
        rw [split, callsUntil_of_journal last, writesIn_append, List.map_singleton, one]
        exact .inr (Nat.le_add_left _ _)

/-! ## Runs on a silent link -/

theorem run_off {s : Session T} (off : s.link.state = .off) (operations : List (Operation T))
    (silent : Silent (s.history operations)) : (s.run operations).2.link.state = .off := by
  have path := run_path s operations []
  exact (path.silent_state silent).1 off

/-- As long as the link is not given up, every poll that outlasts the timeouts writes something. -/
theorem outlasted_le_writes {s : Session T} (fits : s.Fits) (ready : s.link.state ≠ .ready)
    {operations : List (Operation T)} (silent : Silent (s.history operations))
    (up : (s.run operations).2.link.state ≠ .off) :
    operations.countP (·.outlasts s.config) ≤ writesIn (s.history operations) := by
  induction operations generalizing s with
  | nil => exact Nat.zero_le _
  | cons operation operations ih =>
    obtain ⟨now, later⟩ := silent_append.mp silent
    -- The link is not given up before the end, and silence does not make it ready either.
    have path := perform_path s operation []
    have fits' : (s.perform operation).2.Fits := path.fits fits
    have config : (s.perform operation).2.config = s.config := path.config_eq
    have ready' : (s.perform operation).2.link.state ≠ .ready := (path.silent_state now).2 ready
    have rest := ih fits' ready' later up
    rw [config] at rest
    have first :
        (if operation.outlasts s.config then 1 else 0) ≤ writesIn (s.events operation) := by
      split_ifs with long
      · cases operation with
        | poll elapsed =>
          rcases writesIn_long_poll fits ready (of_decide_eq_true long) now with off | writes
          · exact absurd (run_off off operations later) up
          · exact writes
        | _ => cases long
      · exact Nat.zero_le _
    rw [List.countP_cons, history, writesIn_append]
    omega

theorem writes_le_budget {s : Session T} (bound : s.config.maxRetries ≤ 254)
    {operations : List (Operation T)} (silent : Silent (s.history operations)) :
    writesIn (s.history operations) ≤ s.link.budget s.config.maxRetries := by
  have paid := (run_path s operations []).budget_le silent bound
  have none : writesIn [] = 0 := rfl
  simp only [Execution.budget, List.nil_append] at paid
  omega

/-- A dead link does not keep a session busy. If no byte arrives during a run, at most
`2 * maxRetries + 4` writes are made. If the session waits for an answer at the beginning, as many
polls that outlast every timeout suffice to give the link up. -/
theorem dead_link_is_given_up {line : Line T} {config : Config} {opened : Session T}
    (h : connect line config = .ok opened) (bound : config.maxRetries ≤ 254)
    (before operations : List (Operation T))
    (silent : Silent ((opened.run before).2.history operations)) :
    let session := (opened.run before).2
    let most := 2 * config.maxRetries.toNat + 4
    writesIn (session.history operations) ≤ most ∧
    (session.link.state = .writing ∨ session.link.state = .resetting ∨
        session.link.state = .identifying →
      most ≤ operations.countP (·.outlasts config) →
      (session.run operations).2.link.state = .off) := by
  intro session most
  have reached := run_path opened before []
  have fits : session.Fits := reached.fits (fits_of_connect h)
  have same : session.config = config := reached.config_eq.trans (connect_eq h).2.1
  have writes : writesIn (session.history operations) ≤
      session.link.budget session.config.maxRetries := writes_le_budget (same ▸ bound) silent
  rw [same] at writes
  refine ⟨Nat.le_trans writes (Link.budget_le _ _), ?_⟩
  intro waiting enough
  have ready : session.link.state ≠ .ready := by
    rcases waiting with h | h | h <;> simp [h]
  have less : session.link.budget config.maxRetries < most := Link.budget_lt_of_ne ready
  refine Decidable.byContradiction ?_
  intro up
  have long := outlasted_le_writes fits ready silent up
  rw [same] at long
  omega

/-- A display that never answers its first frame is given up after ten long polls. -/
theorem dead_link_is_given_up_after_frame : ∃ opened : Session ScriptedTransport,
    connect ⟨{ replies := [[0xFE, 0xFE, 0x80]] }, []⟩ {} = .ok opened ∧
    (opened.run [.write .main (List.replicate 20 3)]).2.link.state = .writing ∧
    ((opened.run [.write .main (List.replicate 20 3)]).2.run
      (List.replicate 10 (.poll 5000))).2.link.state = .off := by
  let before : List (Operation ScriptedTransport) := [.write .main (List.replicate 20 3)]
  let polls : List (Operation ScriptedTransport) := List.replicate 10 (.poll 5000)
  obtain ⟨opened, connected⟩ := exists_connect (T := ScriptedTransport)
    ⟨{ replies := [[0xFE, 0xFE, 0x80]] }, []⟩ {} (by decide +kernel)
  have silent : decide (Silent ((opened.run before).2.history polls)) = true :=
    of_connect connected (fun s => decide (Silent ((s.run before).2.history polls)))
      (by decide +kernel)
  have waiting : (opened.run before).2.link.state = .writing :=
    of_connect connected (fun s => (s.run before).2.link.state) (by decide +kernel)
  have given_up := (dead_link_is_given_up connected (by decide) before polls
    (of_decide_eq_true silent)).2 (.inl waiting) (by decide)
  exact ⟨opened, connected, waiting, given_up⟩

end Session

end BrailleDisplay
