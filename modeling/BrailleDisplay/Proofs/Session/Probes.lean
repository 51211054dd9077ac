import BrailleDisplay.Proofs.Session.Frames
import BrailleDisplay.Proofs.Session.Identification
import BrailleDisplay.Proofs.Session.Schedule

/-!
# Describe requests are spaced

The link waits for the display after a describe request or a frame was taken and after the display
has announced itself. As long as it waits, its clock shows the time since it began to. So a describe
request, which is written only when a timeout has run out, keeps its distance from what came before
it: from the last describe request, from an announcement, or, once the display has identified
itself, from the frames.
-/
namespace BrailleDisplay

variable {T : Type}

namespace Event

/-- The state in which the link waits for the display after this event. -/
def awaited? : Event → Option LinkState
  | .called ⟨_, .read _ _ (some (byte :: _))⟩ =>
    if byte = Signal.announce then some .identifying else none
  | .called ⟨_, .write data accepted⟩ =>
    if accepted = some data.length then
      some (if data = [Signal.describe] then .resetting else .writing)
    else none
  | _ => none

/-- A describe request is taken. -/
def Asks (event : Event) : Prop :=
  ∃ state, event = .called ⟨state, .write [Signal.describe] (some 1)⟩

theorem asks_iff {event : Event} : event.Asks ↔ event.awaited? = some .resetting := by
  constructor
  · rintro ⟨state, rfl⟩
    rfl
  · intro h
    unfold awaited? at h
    split at h
    · split_ifs at h
      cases h
    · next state data accepted =>
      split_ifs at h with whole describe
      · subst describe whole
        exact ⟨state, rfl⟩
      · cases h
    · cases h

instance (event : Event) : Decidable event.Asks := decidable_of_iff _ asks_iff.symm

theorem announces_iff {event : Event} :
    event.announces = true ↔ event.awaited? = some .identifying := by
  constructor
  · intro announces
    obtain ⟨⟨state, byte⟩, read, announce⟩ := (Option.any_eq_true _ _).mp announces
    obtain rfl := beq_iff_eq.mp announce
    unfold heard? at read
    split at read
    · cases read
      rfl
    · cases read
  · intro h
    unfold awaited? at h
    split at h
    · split_ifs at h with announce
      subst announce
      rfl
    · split_ifs at h <;> cases h
    · cases h

theorem not_asks {event : Event} (h : event.awaited? = none) : ¬ event.Asks := by
  intro asks
  rw [asks_iff, h] at asks
  cases asks

end Event

/-- No stop sequence can be taken for a describe request. -/
theorem Model.describe_not_mem_stop {model : Model} (h : model ∈ Model.registry) :
    [Signal.describe] ∉ if model.stop = [] then [] else [model.stop] := by
  revert model
  decide

/-- What has happened since the link last came to wait in this state. -/
def WaitsSince (state : LinkState) (history since : List Event) : Prop :=
  ∃ before entry, history = before ++ entry :: since ∧ entry.awaited? = some state ∧
    ∀ event ∈ since, event.During state ∧ event.awaited? = none

/-- A describe request may follow another after what has happened between them. -/
inductive Spaced (model : Model) (config : Config) (between : List Event) : Prop where
  /-- The first one went unanswered. -/
  | unanswered (late : config.resettingTimeout < timeIn between)
  /-- The display has announced itself and has then failed to name its identifier in time. -/
  | announced (earlier since : List Event) (announce : Event)
      (split : between = earlier ++ announce :: since) (announces : announce.announces = true)
      (last : Unannounced since) (late : config.identifyingTimeout < timeIn since)
  | identified (named : ∃ event ∈ between, event.Identifies model)

/-! ## Steps -/

/-- What a step does to the link, as far as its waiting is concerned. -/
inductive WaitMove (x y : Execution T) : Prop where
  | passed (elapsed : UInt32) (link : y.session.link = x.session.link.tick elapsed)
      (history : y.history = x.history ++ [.polled elapsed x.session.link])
  | kept (link : y.session.link = x.session.link) (events : List Event)
      (history : y.history = x.history ++ events)
      (quiet : ∀ event ∈ events,
        event.During x.state ∧ event.elapsed? = none ∧ event.awaited? = none)
  | entered (state : LinkState) (link : y.session.link = x.session.link.enter state) (event : Event)
      (history : y.history = x.history ++ [event]) (awaited : event.awaited? = some state)
      (due : state = .resetting ∧ x.ProbeDue ∨ state = .identifying ∨
        state = .writing ∧ x.FrameDue)
  | rested (events : List Event) (history : y.history = x.history ++ events)
      (unawaited : ∀ event ∈ events, event.awaited? = none)
      (state : y.state = .off ∨
        y.state = .ready ∧
          (x.state = .writing ∨ ∃ event ∈ events, event.Identifies x.session.model))

/-- A byte that is no announcement does not make the link wait anew. -/
theorem unawaited_hear (x : Execution T) {byte : UInt8} (plain : byte ≠ Signal.announce)
    (transport : T) (later : Option T) : ∃ events,
      (x.hear byte transport later).history = x.history ++ events ∧
      (∀ event ∈ events, event.During x.state ∧ event.elapsed? = none ∧ event.awaited? = none) ∧
      ∃ event ∈ events, event.heard? = some (x.state, byte) := by
  obtain ⟨awaits, history, waited⟩ := x.history_hear byte transport later
  refine ⟨_, history, ?_, _, List.mem_cons_self, rfl⟩
  intro event inside
  rcases List.mem_cons.mp inside with rfl | inside
  · exact ⟨rfl, rfl, if_neg plain⟩
  · obtain ⟨timeout, rfl⟩ := waited event inside
    exact ⟨rfl, rfl, rfl⟩

theorem Step.wait_move {x y : Execution T} (step : Step x y) (fits : x.session.Fits) :
    WaitMove x y := by
  have resting {events : List Event} (history : y.history = x.history ++ events)
      (unawaited : ∀ event ∈ events, event.awaited? = none) (off : y.state = .off) : WaitMove x y :=
    .rested events history unawaited (.inl off)
  have hearing {byte : UInt8} (plain : byte ≠ Signal.announce) (transport : T) (later : Option T)
      (link : y.session.link = x.session.link)
      (history : y.history = (x.hear byte transport later).history) : WaitMove x y := by
    obtain ⟨events, heard, quiet, _⟩ := unawaited_hear x plain transport later
    exact .kept link events (history.trans heard) quiet
  have answering {byte : UInt8} (plain : byte ≠ Signal.announce) (transport : T)
      (writing : x.state = .writing) (link : y.session.link = x.session.link.apply .acknowledged)
      (history : y.history = (x.hear byte transport none).history) : WaitMove x y := by
    obtain ⟨events, heard, quiet, _⟩ := unawaited_hear x plain transport none
    rw [Link.apply_acknowledged writing] at link
    exact .rested events (history.trans heard) (fun e h => (quiet e h).2.2)
      (.inr ⟨congrArg Link.state link, .inl writing⟩)
  cases step
  case poll elapsed => exact .passed elapsed rfl rfl
  case accept area cells image written =>
    exact .kept rfl _ rfl (List.forall_mem_singleton.mpr ⟨trivial, rfl, rfl⟩)
  case aside | repeatChord | refuse => exact .kept rfl [] (List.append_nil _).symm nofun
  case readFails => exact resting rfl (List.forall_mem_singleton.mpr rfl) (by simp)
  case readNothing => exact .kept rfl _ rfl (List.forall_mem_singleton.mpr ⟨rfl, rfl, rfl⟩)
  case fault first second up =>
    have off : (x.session.link.apply .disconnected).state = .off := by
      rw [Link.apply_disconnected up, Link.state_enter]
    exact resting (List.append_assoc _ [_] [_])
      (List.forall_mem_cons.mpr ⟨rfl, List.forall_mem_singleton.mpr rfl⟩) off
  case announce transport =>
    exact .entered .identifying (Link.apply_announced _) _ rfl rfl (.inr (.inl rfl))
  case identify transport later _ awaited plain =>
    obtain ⟨events, heard, quiet, event, inside, read⟩ := unawaited_hear x plain transport later
    have link := x.link_hear x.session.model.identifier transport later
    have ready : ((x.hear x.session.model.identifier transport later).session.link.apply
        .identified).state = .ready := by
      rw [link, Link.apply_identified awaited, Link.state_enter]
    rw [awaited] at read
    exact .rested events heard (fun e h => (quiet e h).2.2)
      (.inr ⟨ready, .inr ⟨event, inside, read⟩⟩)
  case acknowledge transport writing => exact answering (by decide) transport writing rfl rfl
  case acknowledgeMore transport writing => exact answering (by decide) transport writing rfl rfl
  case key transport byte later _ _ plain _ =>
    exact hearing plain transport later (x.link_hear _ _ _) rfl
  case ignore transport byte later _ _ plain _ =>
    exact hearing plain transport later (x.link_hear _ _ _) rfl
  case frame transport frame due built =>
    refine .entered .writing (Link.apply_frameSent due.state_eq) _ rfl ?_ (.inr (.inr ⟨rfl, due⟩))
    simp [Event.awaited?, fits.frame_ne_describe built]
  case frameFails transport frame accepted due built cut =>
    exact resting rfl (List.forall_mem_singleton.mpr (if_neg cut)) (by simp)
  case probe transport due =>
    exact .entered .resetting (Link.apply_probed due.state_eq) _ rfl rfl (.inl ⟨rfl, due⟩)
  case probeFails transport accepted due cut =>
    exact resting rfl (List.forall_mem_singleton.mpr (if_neg cut)) (by simp)
  case giveUp => exact resting (List.append_nil _).symm nofun (by simp)

/-! ## Since the link came to wait -/

theorem WaitsSince.extend {state : LinkState} {history since more : List Event}
    (h : WaitsSince state history since)
    (quiet : ∀ event ∈ more, event.During state ∧ event.awaited? = none) :
    WaitsSince state (history ++ more) (since ++ more) := by
  obtain ⟨before, entry, rfl, awaited, waited⟩ := h
  refine ⟨before, entry, ?_, awaited, List.forall_mem_append.mpr ⟨waited, quiet⟩⟩
  rw [List.append_assoc, List.cons_append]

theorem waitsSince_concat {state : LinkState} {event : Event}
    (awaited : event.awaited? = some state) (history : List Event) :
    WaitsSince state (history ++ [event]) [] :=
  ⟨history, event, rfl, awaited, nofun⟩

/-- The link came to wait with the first event or after it. -/
theorem WaitsSince.last {state : LinkState} {before between since : List Event} {first : Event}
    (h : WaitsSince state (before ++ first :: between) since) (entered : first.awaited? ≠ none) :
    first.awaited? = some state ∧ since = between ∨
      ∃ earlier entry, between = earlier ++ entry :: since ∧ entry.awaited? = some state := by
  obtain ⟨past, entry, split, awaited, quiet⟩ := h
  rcases List.append_eq_append_iff.mp split with ⟨middle, rfl, rest⟩ | ⟨middle, rfl, rest⟩
  · rcases middle with _ | ⟨other, middle⟩
    · cases rest
      exact .inl ⟨awaited, rfl⟩
    · cases rest
      exact .inr ⟨middle, entry, rfl, awaited⟩
  · rcases middle with _ | ⟨other, middle⟩
    · cases rest
      exact .inl ⟨awaited, rfl⟩
    · cases rest
      exact absurd (quiet first (by simp)).2 entered

/-- After every describe request that was taken, the display has identified itself. -/
def Renewed (model : Model) (history : List Event) : Prop :=
  ∀ before asked after, history = before ++ asked :: after → asked.Asks →
    ∃ event ∈ after, event.Identifies model

theorem Renewed.append {model : Model} {history more : List Event}
    (h : (∃ event ∈ more, event.Identifies model) ∨ Renewed model history)
    (unasked : ∀ event ∈ more, ¬ event.Asks) : Renewed model (history ++ more) := by
  intro before asked after split asks
  rcases List.append_eq_append_iff.mp split with ⟨middle, rfl, rest⟩ | ⟨middle, past, rest⟩
  · exact absurd asks (unasked asked (by simp [rest]))
  · rcases middle with _ | ⟨other, middle⟩
    · rw [List.nil_append] at rest
      exact absurd asks (unasked asked (rest ▸ List.mem_cons_self))
    · obtain ⟨rfl, rfl⟩ := List.cons.inj rest
      rcases h with ⟨event, inside, named⟩ | renewed
      · exact ⟨event, List.mem_append_right _ inside, named⟩
      · obtain ⟨event, inside, named⟩ := renewed before asked middle past asks
        exact ⟨event, List.mem_append_left _ inside, named⟩

/-- A describe request keeps its distance from the last one. -/
def KeepsApart (model : Model) (config : Config) (before : List Event) (event : Event) : Prop :=
  event.Asks → ∀ earlier first between, before = earlier ++ first :: between → first.Asks →
    (∀ event ∈ between, ¬ event.Asks) → Spaced model config between

/-- While the link waits, its clock shows the time since it began to, and the describe requests in
the history are spaced. -/
structure Patient (x : Execution T) : Prop where
  fits : x.session.Fits
  clock : x.state ≠ .off → x.state ≠ .ready →
    ∃ since, WaitsSince x.state x.history since ∧ x.session.link.elapsed = timeIn since
  renewed : x.state.isConnected = true → Renewed x.session.model x.history
  spaced : Throughout (KeepsApart x.session.model x.session.config) x.history

/-- A describe request that is due keeps its distance. -/
theorem Patient.keepsApart {x : Execution T} (h : Patient x) (due : x.ProbeDue) (event : Event) :
    KeepsApart x.session.model x.session.config x.history event := by
  intro _ earlier first between split asks apart
  have entered := Event.asks_iff.mp asks
  obtain ⟨since, waits, clock⟩ := h.clock due.2.waits.1 due.2.waits.2
  rcases due.2 with ⟨(resetting : x.state = _), late, _⟩ | ⟨(identifying : x.state = _), late⟩ |
    ⟨(writing : x.state = _), _⟩
  · rw [split, resetting] at waits
    rcases waits.last (by simp [entered]) with ⟨_, rfl⟩ | ⟨_, entry, rfl, awaited⟩
    · exact .unanswered (clock ▸ late)
    · exact absurd (Event.asks_iff.mpr awaited) (apart entry (by simp))
  · rw [split, identifying] at waits
    have quiet := waits
    rcases waits.last (by simp [entered]) with ⟨same, _⟩ | ⟨before, entry, split, awaited⟩
    · rw [entered] at same
      cases same
    · refine .announced before since entry split (Event.announces_iff.mpr awaited) ?_ (clock ▸ late)
      obtain ⟨_, _, _, _, quiet⟩ := quiet
      intro event inside
      refine Bool.eq_false_iff.mpr fun announces => ?_
      rw [Event.announces_iff, (quiet event inside).2] at announces
      cases announces
  · exact .identified (h.renewed (by rw [writing]; rfl) earlier first between split asks)

theorem WaitsSince.clock {x y : Execution T} {events : List Event}
    (h : ∃ since, WaitsSince x.state x.history since ∧ x.session.link.elapsed = timeIn since)
    (state : y.state = x.state) (history : y.history = x.history ++ events)
    (quiet : ∀ event ∈ events, event.During x.state ∧ event.awaited? = none)
    (elapsed : y.session.link.elapsed =
      (events.filterMap Event.elapsed?).foldl addCapped x.session.link.elapsed) :
    ∃ since, WaitsSince y.state y.history since ∧ y.session.link.elapsed = timeIn since := by
  obtain ⟨since, waits, clock⟩ := h
  rw [state, history, elapsed, clock]
  exact ⟨since ++ events, waits.extend quiet, (timeIn_append since events).symm⟩

theorem Patient.step {x y : Execution T} (step : Step x y) (h : Patient x) : Patient y := by
  have model := step.model_eq
  have unasked {events : List Event} (history : y.history = x.history ++ events)
      (unasked : ∀ event ∈ events, ¬ event.Asks)
      (clock : y.state ≠ .off → y.state ≠ .ready →
        ∃ since, WaitsSince y.state y.history since ∧ y.session.link.elapsed = timeIn since)
      (renewed : y.state.isConnected = true →
        (∃ event ∈ events, event.Identifies x.session.model) ∨ x.state.isConnected = true) :
      Patient y := by
    refine ⟨step.fits h.fits, clock, ?_, ?_⟩
    · intro connected
      rw [history, model]
      exact .append ((renewed connected).imp_right h.renewed) unasked
    · rw [history, model, step.config_eq]
      exact h.spaced.append fun _ event inside asks => absurd asks (unasked event inside)
  cases step.wait_move h.fits with
  | passed elapsed link history =>
    have state : y.state = x.state := (congrArg Link.state link).trans (Link.state_tick _ _)
    refine unasked history (List.forall_mem_singleton.mpr (Event.not_asks rfl)) ?_
      fun up => .inr (state ▸ up)
    intro up busy
    exact WaitsSince.clock (h.clock (state ▸ up) (state ▸ busy)) state history
      (List.forall_mem_singleton.mpr ⟨rfl, rfl⟩) (congrArg Link.elapsed link)
  | kept link events history quiet =>
    have state : y.state = x.state := congrArg Link.state link
    have timeless : events.filterMap Event.elapsed? = [] :=
      List.filterMap_eq_nil_iff.mpr fun event inside => (quiet event inside).2.1
    refine unasked history (fun event inside => Event.not_asks (quiet event inside).2.2) ?_
      fun up => .inr (state ▸ up)
    intro up busy
    refine WaitsSince.clock (h.clock (state ▸ up) (state ▸ busy)) state history ?_ ?_
    · exact fun event inside => ⟨(quiet event inside).1, (quiet event inside).2.2⟩
    · rw [timeless, link]
      rfl
  | entered state link event history awaited due =>
    have entered : y.state = state := congrArg Link.state link
    have clock : ∃ since, WaitsSince y.state y.history since ∧
        y.session.link.elapsed = timeIn since := by
      rw [entered, history, link]
      exact ⟨[], waitsSince_concat awaited x.history, rfl⟩
    have other (plain : state ≠ .resetting) : ∀ event' ∈ [event], ¬ event'.Asks := by
      refine List.forall_mem_singleton.mpr fun asks => plain ?_
      exact Option.some.inj (awaited.symm.trans (Event.asks_iff.mp asks))
    rcases due with ⟨rfl, due⟩ | rfl | ⟨rfl, due⟩
    · refine ⟨step.fits h.fits, fun _ _ => clock, ?_, ?_⟩
      · intro connected
        rw [entered] at connected
        cases connected
      · rw [history, model, step.config_eq]
        exact h.spaced.concat (h.keepsApart due event)
    · refine unasked history (other nofun) (fun _ _ => clock) ?_
      intro connected
      rw [entered] at connected
      cases connected
    · exact unasked history (other nofun) (fun _ _ => clock) fun _ => .inr due.connected
  | rested events history unawaited state =>
    refine unasked history (fun event inside => Event.not_asks (unawaited event inside)) ?_ ?_
    · intro up busy
      rcases state with off | ⟨ready, _⟩
      · exact absurd off up
      · exact absurd ready busy
    · intro connected
      rcases state with off | ⟨_, writing | named⟩
      · rw [off] at connected
        cases connected
      · exact .inr (by rw [writing]; rfl)
      · exact .inl named

/-! ## The poll that writes a describe request -/

namespace Session

/-- Between two sessions no describe request is written. -/
def Unprobed (s t : Session T) : Prop :=
  ∀ entry ∈ s.callsUntil t, ∀ accepted, entry.call ≠ .write [Signal.describe] accepted

theorem Unprobed.of_journal {s t u : Session T} (h : s.Unprobed t)
    (journal : u.line.journal = t.line.journal) : s.Unprobed u := by
  unfold Unprobed callsUntil at h ⊢
  rwa [journal]

theorem unprobed_refl (s : Session T) : s.Unprobed s := by
  simp [Unprobed, callsUntil]

variable [Transport T]

theorem Fits.unprobed_transmit {s : Session T} (fits : s.Fits) : s.Unprobed s.transmit := by
  obtain ⟨frame, built⟩ := fits.frame_built
  obtain ⟨accepted, transport, written⟩ := transmit_eq built
  have journal : s.transmit.line.journal =
      s.line.journal ++ [⟨s.link.state, .write frame.bytes accepted⟩] := by
    rw [written]
    split_ifs <;> rfl
  intro entry inside accepted'
  rw [callsUntil_of_journal journal] at inside
  obtain rfl := List.mem_singleton.mp inside
  simp [fits.frame_ne_describe built]

theorem Fits.unprobed_flush {s : Session T} (fits : s.Fits) : s.Unprobed s.flush := by
  unfold flush
  split_ifs
  · exact fits.unprobed_transmit
  · exact s.unprobed_refl

omit [Transport T] in
theorem ProbeDue.late {s : Session T} (due : s.ProbeDue) :
    ∃ timeout, s.config.timeoutIn s.link.state = some timeout ∧ timeout < s.link.elapsed := by
  rcases due with ⟨state, late, _⟩ | ⟨state, late⟩ | ⟨state, late, _⟩
  all_goals
    rw [state]
    exact ⟨_, rfl, late⟩

theorem unprobed_recover {s : Session T} (fits : s.Fits) :
    s.Unprobed s.recover.flush ∨ s.ProbeDue ∧ s.recover.flush = s.probe := by
  cases s.recovery with
  | rest same =>
    rw [same]
    exact .inl fits.unprobed_flush
  | giveUp _ _ _ given =>
    rw [given, flush_of_ne (by simp)]
    exact .inl (s.unprobed_refl.of_journal rfl)
  | probe due probed =>
    rw [flush_of_ne (recover_ne_ready due.waits.2)]
    exact .inr ⟨due, probed⟩
  | again writing _ _ sent =>
    have busy : s.link.state ≠ .ready := by simp [writing]
    have again : ({ s with image := s.image.markDirty } : Session T).Fits :=
      fits.of_regions rfl fun _ => rfl
    rw [flush_of_ne (recover_ne_ready busy), sent]
    exact .inl again.unprobed_transmit

/-- A poll writes a describe request only if it has read nothing and the request is due. -/
theorem poll_probe {s : Session T} (fits : s.Fits) (elapsed : UInt32) :
    ((s.tick elapsed).drain false).2.Unprobed (s.poll elapsed).2 ∨
      ∃ transport,
        let t := (s.tick elapsed).after (.read 1 s.config.readTimeout (some [])) transport
        ((s.tick elapsed).drain false).2 = t ∧ t.ProbeDue ∧
          (s.poll elapsed).2 = t.probe.autorepeat.2 := by
  have fits : ((s.tick elapsed).drain false).2.Fits :=
    Fits.reaches (x := ⟨s.tick elapsed, []⟩) (fits.of_regions rfl fun _ => rfl)
      (drain_reaches (s.tick elapsed) false [])
  unfold poll
  cases drained : (s.tick elapsed).drain false with
  | mk outcome t =>
    rw [drained] at fits
    match outcome with
    | .key command =>
      have reset : ({ t with countdown := t.config.repeatDelay } : Session T).Fits :=
        fits.of_regions rfl fun _ => rfl
      exact .inl reset.unprobed_flush
    | .dry true => exact .inl (fits.unprobed_flush.of_journal (congrArg _ (autorepeat_line _)))
    | .dry false =>
      rcases unprobed_recover fits with unprobed | ⟨due, probed⟩
      · exact .inl (unprobed.of_journal (congrArg _ (autorepeat_line _)))
      · rcases drain_silent drained with ⟨transport, rfl⟩ | ⟨transport, rfl⟩
        · -- The failed read has taken the link down.
          exact absurd (by simp) due.waits.1
        · exact .inr ⟨transport, rfl, due, congrArg (·.autorepeat.2) probed⟩

/-- The poll reads nothing and then writes a describe request, because the link has waited for
longer than it may in its state. -/
structure Probes (s : Session T) (past : List Event) (elapsed : UInt32) (accepted : Option Nat) :
    Prop where
  events : s.events (.poll elapsed) = [.polled elapsed s.link,
    .called ⟨s.link.state, .read 1 s.config.readTimeout (some [])⟩,
    .called ⟨s.link.state, .write [Signal.describe] accepted⟩]
  state : s.link.state = .identifying ∨
    s.link.state = .resetting ∧ s.link.retries ≤ s.config.maxRetries ∨
    s.link.state = .writing ∧ s.config.maxRetries < s.link.retries
  late : ∃ since timeout, WaitsSince s.link.state past since ∧
    s.config.timeoutIn s.link.state = some timeout ∧
    timeout < timeIn (since ++ [.polled elapsed s.link])
  taken : accepted = some 1 → (s.poll elapsed).2.link.state = .resetting ∧
    (s.poll elapsed).2.link.elapsed = 0
  refused : accepted ≠ some 1 → (s.poll elapsed).2.link.state = .off

/-- The calls of a poll that writes a describe request, and where they leave the link. -/
theorem events_probed {s t : Session T} {elapsed : UInt32} {transport : T}
    (read : t = (s.tick elapsed).after (.read 1 s.config.readTimeout (some [])) transport)
    (drained : ((s.tick elapsed).drain false).2 = t) (due : t.ProbeDue)
    (polled : (s.poll elapsed).2 = t.probe.autorepeat.2) :
    ∃ accepted, s.events (.poll elapsed) = [.polled elapsed s.link,
        .called ⟨s.link.state, .read 1 s.config.readTimeout (some [])⟩,
        .called ⟨s.link.state, .write [Signal.describe] accepted⟩] ∧
      (s.poll elapsed).2.link =
        t.link.enter (if accepted = some 1 then .resetting else .off) := by
  obtain ⟨accepted, transport', sent⟩ := t.probe_eq
  have state : t.link.state = s.link.state := by rw [read]; rfl
  have reads : (s.tick elapsed).callsUntil t =
      [⟨s.link.state, .read 1 s.config.readTimeout (some [])⟩] :=
    callsUntil_of_journal (by rw [read]; rfl)
  have writes : t.callsUntil (s.poll elapsed).2 =
      [⟨s.link.state, .write [Signal.describe] accepted⟩] := by
    refine callsUntil_of_journal ?_
    rw [polled, autorepeat_line, sent, ← state]
    split_ifs <;> rfl
  refine ⟨accepted, ?_, ?_⟩
  · rw [events_poll, drained, reads, writes]
    rfl
  · rw [polled, autorepeat_link, sent]
    split_ifs
    · exact Link.apply_probed due.state
    · exact Link.apply_faulted _

theorem probes_of_poll {s : Session T} {past : List Event} (h : Patient ⟨s, past⟩)
    {elapsed : UInt32} {state : LinkState} {accepted : Option Nat}
    (inside : .called ⟨state, .write [Signal.describe] accepted⟩ ∈ s.events (.poll elapsed)) :
    s.Probes past elapsed accepted ∧ state = s.link.state := by
  rcases poll_probe h.fits elapsed with unprobed | ⟨transport, drained, due, polled⟩
  · rw [events_poll] at inside
    rcases List.mem_append.mp inside with read | call
    · have unwritten := s.unwritten_poll elapsed _ read
      cases unwritten
    · obtain ⟨entry, inside, same⟩ := List.mem_map.mp call
      cases same
      exact absurd rfl (unprobed _ inside accepted)
  · obtain ⟨accepted', events, link⟩ := events_probed rfl drained due polled
    rw [events] at inside
    obtain ⟨rfl, rfl⟩ : state = s.link.state ∧ accepted = accepted' := by simpa using inside
    refine ⟨⟨events, ?_, ?_, ?_, ?_⟩, rfl⟩
    · rcases due with ⟨state, _, left⟩ | ⟨state, _⟩ | ⟨state, _, used⟩
      · exact .inr (.inl ⟨state, retries_le left⟩)
      · exact .inl state
      · exact .inr (.inr ⟨state, of_decide_eq_true used⟩)
    · obtain ⟨timeout, limit, late⟩ := due.late
      obtain ⟨since, waits, clock⟩ := h.clock due.waits.1 due.waits.2
      refine ⟨since, timeout, waits, limit, ?_⟩
      rw [timeIn_append, ← clock]
      exact late
    · rintro rfl
      rw [link]
      exact ⟨rfl, rfl⟩
    · intro cut
      rw [link, if_neg cut]
      rfl

theorem unprobed_unpolled {s : Session T} (fits : s.Fits) {operation : Operation T}
    (unpolled : operation.elapsed? = none) : s.Unprobed (s.perform operation).2 := by
  cases operation with
  | poll elapsed => cases unpolled
  | write area cells =>
    cases written : s.image.write area cells with
    | error mismatch =>
      rw [perform_refused written]
      exact s.unprobed_refl
    | ok image =>
      have shown : ({ s with image } : Session T).Fits :=
        (Step.accept ⟨s, []⟩ written).fits fits
      cases area with
      | main =>
        rw [perform_write (write_main written)]
        exact shown.unprobed_flush
      | status =>
        rw [perform_write (write_status written)]
        exact s.unprobed_refl
  | setContext context => exact s.unprobed_refl
  | device act => exact s.unprobed_refl

/-- Describe requests are justified and spaced. After any operations on an opened session, a
describe request is written only by a poll that has read nothing, and only because the link has
waited for too long since it came to wait in its state; if it is taken, the link waits anew, and
otherwise it is down. Closing writes none. Between one describe request that was taken and the next,
the first went unanswered, or an announcement was not followed by the identifier in time, or the
display has identified itself. -/
theorem describe_requests_are_spaced {line : Line T} {config : Config} {opened : Session T}
    (h : connect line config = .ok opened) (operations : List (Operation T)) :
    let session := (opened.run operations).2
    let past := opened.history operations
    (∀ operation state accepted,
      .called ⟨state, .write [Signal.describe] accepted⟩ ∈ session.events operation →
      ∃ elapsed, operation = .poll elapsed ∧ state = session.link.state ∧
        session.Probes past elapsed accepted) ∧
    (∃ calls, session.close.journal = session.line.journal ++ calls ∧
      [Signal.describe] ∉ writtenIn (calls.map .called)) ∧
    ∀ before first between second after, past = before ++ first :: (between ++ second :: after) →
      first.Asks → second.Asks → (∀ event ∈ between, ¬ event.Asks) →
      Spaced opened.model config between := by
  intro session past
  obtain ⟨supported, config_eq, link, _⟩ := connect_eq h
  have start : Patient (⟨opened, []⟩ : Execution T) := by
    refine ⟨fits_of_connect h, ?_, ?_, fun before event after split => by simp at split⟩
    · intro _ busy
      exact absurd (congrArg Link.state link) busy
    · intro _ before asked after split
      simp at split
  have path := run_path opened operations []
  have patient : Patient ⟨session, past⟩ := path.keeps Patient.step start
  have model : session.model = opened.model := path.model_eq
  have config : session.config = config := path.config_eq.trans config_eq
  refine ⟨?_, ?_, ?_⟩
  · intro operation state accepted inside
    cases polled : operation.elapsed? with
    | none =>
      rcases session.events_unpolled polled _ inside with ⟨_, _, ⟨⟩⟩ | ⟨entry, call, same⟩
      cases same
      exact absurd rfl (unprobed_unpolled patient.fits polled _ call accepted)
    | some elapsed =>
      cases operation with
      | poll elapsed =>
        obtain ⟨probes, same⟩ := probes_of_poll patient inside
        exact ⟨elapsed, rfl, same, probes⟩
      | _ => cases polled
  · obtain ⟨calls, journal, written⟩ := session.writtenIn_close
    refine ⟨calls, journal, ?_⟩
    rw [written, model]
    exact Model.describe_not_mem_stop supported
  · intro before first between second after split asks asks' apart
    rw [← model, ← config]
    exact patient.spaced (before ++ first :: between) second after (split.trans (by simp)) asks'
      before first between rfl asks apart

/-- The display announces itself twice and never names its identifier. The second request follows
one second after the second announcement, sooner than an unanswered one would. -/
theorem describe_requests_are_spaced_announced : ∃ opened : Session ScriptedTransport,
    connect ⟨{ replies := [[0xFE, 0xFE, 0x80]] }, []⟩ {} = .ok opened ∧
    let operations : List (Operation ScriptedTransport) := [.device (·.receive [0xFE]), .poll 1,
      .poll 1001, .device (·.receive [0xFE]), .poll 5]
    (opened.run operations).2.Probes (opened.history operations) 1001 (some 1) ∧
    ∃ before first between second,
      opened.history (operations ++ [.poll 1001]) = before ++ first :: (between ++ [second]) ∧
      first.Asks ∧ second.Asks ∧ timeIn between = 1006 ∧ Spaced opened.model {} between := by
  let operations : List (Operation ScriptedTransport) := [.device (·.receive [0xFE]), .poll 1,
    .poll 1001, .device (·.receive [0xFE]), .poll 5]
  let before : List Event := [.polled 1 ⟨.ready, 0, 0⟩,
    .called ⟨.ready, .read 1 100 (some [0xFE])⟩, .called ⟨.identifying, .read 1 100 (some [])⟩,
    .polled 1001 ⟨.identifying, 0, 0⟩, .called ⟨.identifying, .read 1 100 (some [])⟩]
  let between : List Event := [.polled 5 ⟨.resetting, 0, 0⟩,
    .called ⟨.resetting, .read 1 100 (some [0xFE])⟩, .called ⟨.identifying, .read 1 100 (some [])⟩,
    .polled 1001 ⟨.identifying, 0, 0⟩, .called ⟨.identifying, .read 1 100 (some [])⟩]
  let request : Event := .called ⟨.identifying, .write [Signal.describe] (some 1)⟩
  obtain ⟨opened, connected⟩ := exists_connect (T := ScriptedTransport)
    ⟨{ replies := [[0xFE, 0xFE, 0x80]] }, []⟩ {} (by decide +kernel)
  have history : opened.history (operations ++ [.poll 1001]) =
      before ++ request :: (between ++ [request]) :=
    of_connect connected (fun s => s.history (operations ++ [.poll 1001])) (by decide +kernel)
  have written : decide (request ∈ (opened.run operations).2.events (.poll 1001)) = true :=
    of_connect connected (fun s => decide (request ∈ (s.run operations).2.events (.poll 1001)))
      (by decide +kernel)
  have asks : request.Asks := ⟨_, rfl⟩
  obtain ⟨_, ⟨⟩, _, probes⟩ := (describe_requests_are_spaced connected operations).1 _ _ _
    (of_decide_eq_true written)
  exact ⟨opened, connected, probes, before, request, between, request, history, asks, asks,
    by decide, (describe_requests_are_spaced connected _).2.2 before request between request []
      history asks asks (by decide)⟩

end Session

end BrailleDisplay
