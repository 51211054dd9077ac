import BrailleDisplay.Proofs.Session.Opened
import BrailleDisplay.Proofs.Session.Writes
import BrailleDisplay.Transport.Script

/-!
# Frames wait for an answer

Between two frames the display has acknowledged the first or has identified itself again, or the
first is overdue. What has happened since the last frame decides where the link can be: as long as
neither answer has come, the link waits for one or is down, and while it waits its clock
shows the time since the frame. A frame that failed takes the link down at once.
-/
namespace BrailleDisplay

variable {T : Type}

/-- What a step does to the link, as far as the frames on it are concerned. -/
inductive LinkMove (x y : Execution T) : Prop where
  | passed (elapsed : UInt32) (link : y.session.link = x.session.link.tick elapsed)
      (history : y.history = x.history ++ [.polled elapsed x.session.link])
  | kept (link : y.session.link = x.session.link) (events : List Event)
      (history : y.history = x.history ++ events)
      (quiet : ∀ event ∈ events,
        event.During x.state ∧ event.elapsed? = none ∧ event.frame? = none)
  | fell (down : y.state.isConnected = false) (events : List Event)
      (history : y.history = x.history ++ events)
      (unframed : ∀ event ∈ events, event.frame? = none)
  | identified (events : List Event) (history : y.history = x.history ++ events)
      (unframed : ∀ event ∈ events, event.frame? = none)
      (named : ∃ event ∈ events, event.Identifies x.session.model)
  | acknowledged (writing : x.state = .writing) (events : List Event)
      (history : y.history = x.history ++ events)
      (unframed : ∀ event ∈ events, event.frame? = none)
      (answered : ∃ event ∈ events, event.Acknowledges)
  | framed (due : x.FrameDue) (sent : Dispatch) (event : Event)
      (history : y.history = x.history ++ [event]) (frame : event.frame? = some sent)
      (during : event.During x.state)
      (outcome : y.state = .off ∨ sent.Complete ∧ y.session.link = x.session.link.enter .writing)

theorem Step.link_move {x y : Execution T} (step : Step x y) (fits : x.session.Fits) :
    LinkMove x y := by
  have quietly (link : y.session.link = x.session.link) (call : Call)
      (history : y.history = x.history ++ [.called ⟨x.state, call⟩])
      (unframed : (Event.called ⟨x.state, call⟩).frame? = none) : LinkMove x y :=
    .kept link [.called ⟨x.state, call⟩] history
      (List.forall_mem_singleton.mpr ⟨rfl, rfl, unframed⟩)
  have falling (down : y.state.isConnected = false) (call : Call)
      (history : y.history = x.history ++ [.called ⟨x.state, call⟩])
      (unframed : (Event.called ⟨x.state, call⟩).frame? = none) : LinkMove x y :=
    .fell down _ history (List.forall_mem_singleton.mpr unframed)
  have hearing (byte : UInt8) (transport : T) (later : Option T)
      (link : y.session.link = x.session.link)
      (history : y.history = (x.hear byte transport later).history) : LinkMove x y := by
    obtain ⟨events, heard, quiet, _⟩ := x.heard_hear byte transport later
    exact .kept link events (history.trans heard) quiet
  have answering (writing : x.state = .writing) (byte : UInt8) (transport : T)
      (taken : byte = Signal.taken ∨ byte = Signal.takenMore)
      (history : y.history = (x.hear byte transport none).history) : LinkMove x y := by
    obtain ⟨events, heard, quiet, event, inside, read⟩ := x.heard_hear byte transport none
    rw [writing] at read
    refine .acknowledged writing events (history.trans heard) (fun e h => (quiet e h).2.2)
      ⟨event, inside, ?_⟩
    rcases taken with rfl | rfl
    · exact .inl read
    · exact .inr read
  cases step
  case poll elapsed => exact .passed elapsed rfl rfl
  case accept area cells image written =>
    exact .kept rfl _ rfl (List.forall_mem_singleton.mpr ⟨trivial, rfl, rfl⟩)
  case aside | repeatChord | refuse => exact .kept rfl [] (List.append_nil _).symm nofun
  case readFails => exact falling (by simp [LinkState.isConnected]) _ rfl rfl
  case readNothing => exact quietly rfl _ rfl rfl
  case fault first second up =>
    obtain ⟨events, heard, quiet, _⟩ := x.heard_hear Signal.fault first none
    refine .fell ?_ (events ++ [_]) ((congrArg (· ++ _) heard).trans (List.append_assoc _ _ _)) ?_
    · rw [Execution.state_map, Session.link_apply, Execution.link_await, Execution.link_read,
        Link.apply_disconnected up]
      rfl
    · exact List.forall_mem_append.mpr
        ⟨fun e h => (quiet e h).2.2, List.forall_mem_singleton.mpr rfl⟩
  case announce transport =>
    obtain ⟨events, heard, quiet, _⟩ := x.heard_hear Signal.announce transport none
    exact .fell (by simp [LinkState.isConnected]) events heard fun e h => (quiet e h).2.2
  case identify transport later _ awaited _ =>
    obtain ⟨events, heard, quiet, event, inside, read⟩ :=
      x.heard_hear x.session.model.identifier transport later
    rw [awaited] at read
    exact .identified events heard (fun e h => (quiet e h).2.2) ⟨event, inside, read⟩
  case acknowledge transport writing =>
    exact answering writing _ transport (.inl rfl) rfl
  case acknowledgeMore transport writing =>
    exact answering writing _ transport (.inr rfl) rfl
  case key transport byte later _ _ _ _ =>
    exact hearing byte transport later (x.link_hear _ _ _) rfl
  case ignore transport byte later _ _ _ _ =>
    exact hearing byte transport later (x.link_hear _ _ _) rfl
  case frame transport frame due built =>
    refine .framed due ⟨frame.bytes, some frame.bytes.length⟩ _ rfl ?_ rfl (.inr ⟨rfl, ?_⟩)
    · simp [Event.frame?, fits.frame_ne_describe built]
    · exact Link.apply_frameSent due.state_eq
  case frameFails transport frame accepted due built cut =>
    refine .framed due ⟨frame.bytes, accepted⟩ _ rfl ?_ rfl (.inl ?_)
    · simp [Event.frame?, fits.frame_ne_describe built]
    · simp
  case probe transport due =>
    refine falling ?_ _ rfl (by simp [Event.frame?])
    rw [Execution.state_map, Session.link_apply, Execution.link_write,
      Link.apply_probed due.state_eq]
    rfl
  case probeFails => exact falling (by simp [LinkState.isConnected]) _ rfl (by simp [Event.frame?])
  case giveUp => exact .fell (by simp [LinkState.isConnected]) [] (List.append_nil _).symm nofun

/-! ## Since the last frame -/

/-- The second frame repeats the first, for which no answer has come in time: the link has waited
for it all along, and the poll that writes the second frame has read nothing. -/
def Overdue (config : Config) (between : List Event) (second : Event) : Prop :=
  (∀ event ∈ between, event.During .writing) ∧ second.During .writing ∧
  config.writingTimeout < timeIn between ∧
  ∃ earlier elapsed link read, between = earlier ++ [.polled elapsed link, read] ∧
    read.isEmptyRead = true ∧ link.retries ≤ config.maxRetries

/-- One frame may follow another after what has happened between them. -/
structure Paced (model : Model) (config : Config) (first : Dispatch) (between : List Event)
    (second : Event) : Prop where
  answered : (∃ event ∈ between, event.Acknowledges) ∨
    (∃ event ∈ between, event.Identifies model) ∨ Overdue config between second
  recovered : ¬ first.Complete → ∃ event ∈ between, event.Identifies model

/-- A frame keeps its distance from the last one. -/
def KeepsPace (model : Model) (config : Config) (before : List Event) (event : Event) : Prop :=
  event.frame?.isSome = true → ∀ sent between, sinceFrame before = some (sent, between) →
    Paced model config sent between event

/-- The link waits for the answer to a frame, and has done so since the frame. -/
structure Waiting (x : Execution T) (since : List Event) : Prop where
  state : x.state = .writing
  during : ∀ event ∈ since, event.During .writing
  clock : x.session.link.elapsed = timeIn since

/-- Where the link can be after a frame. -/
inductive Since (x : Execution T) (sent : Dispatch) (since : List Event) : Prop where
  | identified (h : ∃ event ∈ since, event.Identifies x.session.model)
  | down (h : x.state.isConnected = false)
  | acknowledged (complete : sent.Complete) (h : ∃ event ∈ since, event.Acknowledges)
  | waiting (complete : sent.Complete) (h : Waiting x since)

/-- An answer stays an answer. Only a link that is down, or waits, has to be looked at again. -/
theorem Since.extend {x y : Execution T} {sent : Dispatch} {since events : List Event}
    (h : Since x sent since) (model : y.session.model = x.session.model)
    (down : x.state.isConnected = false → y.state.isConnected = false)
    (waiting : sent.Complete → Waiting x since → Since y sent (since ++ events)) :
    Since y sent (since ++ events) := by
  cases h with
  | identified h =>
    obtain ⟨event, inside, named⟩ := h
    exact .identified ⟨event, List.mem_append_left _ inside, model ▸ named⟩
  | down h => exact .down (down h)
  | acknowledged complete h =>
    obtain ⟨event, inside, answered⟩ := h
    exact .acknowledged complete ⟨event, List.mem_append_left _ inside, answered⟩
  | waiting complete h => exact waiting complete h

theorem Waiting.passed {x y : Execution T} {since : List Event} (h : Waiting x since)
    {elapsed : UInt32} (link : y.session.link = x.session.link.tick elapsed) :
    Waiting y (since ++ [.polled elapsed x.session.link]) := by
  refine ⟨?_, List.forall_mem_append.mpr ⟨h.during, ?_⟩, ?_⟩
  · rw [Execution.state, link]
    exact h.state
  · exact List.forall_mem_singleton.mpr h.state
  · rw [link, timeIn_append, ← h.clock]
    rfl

theorem Waiting.kept {x y : Execution T} {since events : List Event} (h : Waiting x since)
    (link : y.session.link = x.session.link)
    (quiet : ∀ event ∈ events, event.During x.state ∧ event.elapsed? = none ∧ event.frame? = none) :
    Waiting y (since ++ events) := by
  refine ⟨?_, List.forall_mem_append.mpr ⟨h.during, ?_⟩, ?_⟩
  · rw [Execution.state, link]
    exact h.state
  · intro event inside
    exact h.state ▸ (quiet event inside).1
  · have timeless : events.filterMap Event.elapsed? = [] :=
      List.filterMap_eq_nil_iff.mpr fun event inside => (quiet event inside).2.1
    rw [link, timeIn_append, timeless, h.clock]
    rfl

/-- The history keeps its pace, and the link is where the events since the last frame put it. -/
structure Timed (x : Execution T) : Prop where
  fits : x.session.Fits
  since (sent : Dispatch) (since : List Event) :
    sinceFrame x.history = some (sent, since) → Since x sent since
  paced : Throughout (KeepsPace x.session.model x.session.config) x.history

theorem Timed.keepsPace {x : Execution T} (h : Timed x) (due : x.FrameDue) {event : Event}
    (during : event.During x.state) :
    KeepsPace x.session.model x.session.config x.history event := by
  intro _ sent between found
  cases h.since sent between found with
  | identified named => exact ⟨.inr (.inl named), fun _ => named⟩
  | down down => rcases due.state_eq with state | state <;> rw [state] at down <;> cases down
  | acknowledged complete answered => exact ⟨.inl answered, absurd complete⟩
  | waiting complete waiting =>
    refine ⟨.inr (.inr ⟨waiting.during, waiting.state ▸ during, ?_⟩), absurd complete⟩
    -- The link is not ready while it waits, so the frame is due because no answer has come in time.
    rcases due with ⟨_, ready⟩ | ⟨idle, _, late, retry⟩
    · exact absurd (waiting.state.symm.trans ready) nofun
    · obtain ⟨before, elapsed, link, limit, timeout, history, ticked⟩ := idle
      rw [history, sinceFrame_append before (by simp [Event.frame?])] at found
      obtain ⟨⟨_, earlier⟩, _, same⟩ := Option.map_eq_some_iff.mp found
      refine ⟨waiting.clock ▸ late, earlier, elapsed, link, _, (Prod.mk.inj same).2.symm, rfl, ?_⟩
      have left := Session.retries_le retry
      rwa [ticked] at left

theorem Timed.step {x y : Execution T} (step : Step x y) (h : Timed x) : Timed y := by
  have fits := step.fits h.fits
  have model := step.model_eq
  have config := step.config_eq
  have unframed (events : List Event) (history : y.history = x.history ++ events)
      (unframed : ∀ event ∈ events, event.frame? = none)
      (keeps : ∀ sent since, Since x sent since → Since y sent (since ++ events)) : Timed y := by
    refine ⟨fits, ?_, ?_⟩
    · intro sent since found
      rw [history, sinceFrame_append _ unframed] at found
      obtain ⟨⟨_, earlier⟩, before, same⟩ := Option.map_eq_some_iff.mp found
      cases same
      exact keeps _ earlier (h.since _ _ before)
    · rw [history, model, config]
      refine h.paced.append ?_
      intro before event inside frame
      rw [unframed event inside] at frame
      cases frame
  cases step.link_move h.fits with
  | passed elapsed link history =>
    have state : y.state = x.state := (congrArg Link.state link).trans (Link.state_tick _ _)
    refine unframed _ history (by simp [Event.frame?]) ?_
    intro sent since h
    refine h.extend model (state ▸ id) ?_
    intro complete waiting
    exact .waiting complete (waiting.passed link)
  | kept link events history quiet =>
    have state : y.state = x.state := congrArg Link.state link
    refine unframed events history (fun e inside => (quiet e inside).2.2) ?_
    intro sent since h
    refine h.extend model (state ▸ id) ?_
    intro complete waiting
    exact .waiting complete (waiting.kept link quiet)
  | fell down events history quiet => exact unframed events history quiet fun _ _ _ => .down down
  | identified events history quiet named =>
    obtain ⟨event, inside, named⟩ := named
    exact unframed events history quiet fun _ _ _ =>
      .identified ⟨event, List.mem_append_right _ inside, model ▸ named⟩
  | acknowledged writing events history quiet answered =>
    obtain ⟨event, inside, answered⟩ := answered
    refine unframed events history quiet fun sent since h => h.extend model ?_ ?_
    · intro down
      rw [writing] at down
      cases down
    · intro complete _
      exact .acknowledged complete ⟨event, List.mem_append_right _ inside, answered⟩
  | framed due sent event history frame during outcome =>
    refine ⟨fits, ?_, ?_⟩
    · intro last since found
      rw [history, sinceFrame_frame frame] at found
      cases found
      rcases outcome with off | ⟨complete, link⟩
      · exact .down (off ▸ rfl)
      · -- The frame starts the clock, and nothing has happened since.
        refine .waiting complete ⟨?_, nofun, ?_⟩
        · rw [Execution.state, link, Link.state_enter]
        · rw [link, Link.elapsed_enter]
          rfl
    · rw [history, model, config]
      exact h.paced.concat (h.keepsPace due during)

namespace Session

/-- The frames of an opened session keep their pace, whatever is done with it. A poll writes at most
once, after everything that it reads; so does a write to the main cells, if the link is ready;
a write to the status cells never does. -/
theorem frames_keep_pace [Transport T] {line : Line T} {config : Config} {opened : Session T}
    (h : connect line config = .ok opened) (operations : List (Operation T)) :
    let session := (opened.run operations).2
    (∀ before first between second after sent,
      opened.history operations = before ++ first :: (between ++ second :: after) →
      first.frame? = some sent → second.frame?.isSome = true → framesIn between = [] →
      Paced opened.model config sent between second) ∧
    (∀ elapsed, writesIn (session.events (.poll elapsed)) ≤ 1 ∧
      ∀ event ∈ (session.events (.poll elapsed)).dropLast, event.isWrite = false) ∧
    (∀ cells, writesIn (session.events (.write .main cells)) ≤ 1 ∧
      (session.link.state ≠ .ready → writesIn (session.events (.write .main cells)) = 0)) ∧
    ∀ cells, writesIn (session.events (.write .status cells)) = 0 := by
  intro session
  obtain ⟨_, config_eq, _⟩ := connect_eq h
  have start : Timed (⟨opened, []⟩ : Execution T) :=
    ⟨fits_of_connect h, nofun, fun before event after split => by simp at split⟩
  have path := run_path opened operations []
  have timed : Timed ⟨session, opened.history operations⟩ := path.keeps Timed.step start
  have model : session.model = opened.model := path.model_eq
  have config : session.config = config := path.config_eq.trans config_eq
  refine ⟨?_, session.writesIn_poll, session.writesIn_write_main, session.writesIn_write_status⟩
  intro before first between second after sent split frame next apart
  have since : sinceFrame (before ++ first :: between) = some (sent, between) := by
    rw [List.append_cons, sinceFrame_append _ (List.filterMap_eq_nil_iff.mp apart),
      sinceFrame_frame frame]
    rfl
  rw [← model, ← config]
  exact timed.paced (before ++ first :: between) second after (split.trans (by simp)) next
    sent between since

/-- A frame that stays unanswered for two seconds is sent again, and rightly so. -/
theorem frames_keep_pace_unanswered : ∃ opened : Session ScriptedTransport,
    connect ⟨{ replies := [[0xFE, 0xFE, 0x80]] }, []⟩ {} = .ok opened ∧
    ∃ before first between second,
      opened.history [.write .main (List.replicate 20 3), .poll 2000] =
        before ++ first :: (between ++ [second]) ∧
      first.frame? = second.frame? ∧ second.frame?.isSome = true ∧ Overdue {} between second := by
  let frame := frameOf Model.modular20 [.shown .main (List.replicate 20 3)]
  let between : List Event :=
    [.polled 2000 ⟨.writing, 0, 0⟩, .called ⟨.writing, .read 1 100 (some [])⟩]
  let operations : List (Operation ScriptedTransport) :=
    [.write .main (List.replicate 20 3), .poll 2000]
  obtain ⟨opened, connected⟩ := exists_connect (T := ScriptedTransport)
    ⟨{ replies := [[0xFE, 0xFE, 0x80]] }, []⟩ {} (by decide +kernel)
  have history : opened.history operations = [.shown .main (List.replicate 20 3)] ++
      .called ⟨.ready, .write frame (some 25)⟩ ::
        (between ++ [.called ⟨.writing, .write frame (some 25)⟩]) :=
    of_connect connected (fun s => s.history operations) (by decide +kernel)
  have paced := (frames_keep_pace connected operations).1 _ _ between _ [] ⟨frame, some 25⟩
    history (by decide) (by decide) rfl
  refine ⟨opened, connected, _, _, between, _, history, by decide, by decide, ?_⟩
  have silent : Silent between := by decide
  rcases paced.answered with ⟨event, inside, answered⟩ | ⟨event, inside, named⟩ | overdue
  · rw [Event.Acknowledges, silent event inside] at answered
    rcases answered with answered | answered <;> cases answered
  · rw [Event.Identifies, silent event inside] at named
    cases named
  · exact overdue

end Session

end BrailleDisplay
