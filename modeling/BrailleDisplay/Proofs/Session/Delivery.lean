import BrailleDisplay.Proofs.Session.Opened
import BrailleDisplay.Transport.Script

/-!
# Cells reach the transport

The invariant behind delivery: a session that owes the display nothing has either never had
anything to show, or the last frame that it handed over was taken in full and shows what the host
last asked for. A frame that fails leaves the image dirty, so the cells in it are not lost.
-/
namespace BrailleDisplay

variable {T : Type}

/-- The event has no part in what is shown. -/
structure Event.Quiet (model : Model) (event : Event) : Prop where
  unshown (area : Area) : event.shown? area = none
  unframed : event.frame? = none
  unnamed : ¬ event.Identifies model

/-- What a step does to the image. -/
inductive ImageMove (x y : Execution T) : Prop where
  | accepted {area : Area} {cells : List Cell}
      (written : x.session.image.write area cells = .ok y.session.image)
      (history : y.history = x.history ++ [.shown area cells])
  | dirtied (image : y.session.image = x.session.image.markDirty) (events : List Event)
      (history : y.history = x.history ++ events)
      (unshown : ∀ event ∈ events, ∀ area, event.shown? area = none)
  | sent {frame : Frame} (state : LinkState)
      (built : x.session.image.frame? x.session.model.envelope = some frame)
      (image : y.session.image = x.session.image.markClean)
      (history : y.history =
        x.history ++ [.called ⟨state, .write frame.bytes (some frame.bytes.length)⟩])
  | kept (image : y.session.image = x.session.image) (events : List Event)
      (history : y.history = x.history ++ events)
      (quiet : ∀ event ∈ events, event.Quiet x.session.model)

theorem Model.identifier_of_mem {model : Model} (h : model ∈ Model.registry) :
    model.identifier ≠ Signal.announce ∧ model.identifier ≠ Signal.fault := by
  revert model
  decide

theorem Event.not_identifies {model : Model} {event : Event} (h : event.heard? = none) :
    ¬ event.Identifies model := by
  intro named
  rw [Identifies, h] at named
  cases named

/-- A call that hands over no frame and no identifier is quiet. -/
theorem Event.quiet_called {model : Model} {entry : Entry}
    (unframed : (Event.called entry).frame? = none)
    (unnamed : ¬ (Event.called entry).Identifies model) : (Event.called entry).Quiet model :=
  ⟨fun _ => rfl, unframed, unnamed⟩

/-- A byte that is not the identifier leaves the image alone. -/
theorem quiet_hear (x : Execution T) (byte : UInt8) (transport : T) (later : Option T)
    (other : x.state = .identifying → byte ≠ x.session.model.identifier) :
    ∃ events, (x.hear byte transport later).history = x.history ++ events ∧
      ∀ event ∈ events, event.Quiet x.session.model := by
  obtain ⟨awaits, history, waited⟩ := x.history_hear byte transport later
  refine ⟨_, history, ?_⟩
  intro event h
  rcases List.mem_cons.mp h with rfl | h
  · refine Event.quiet_called rfl ?_
    intro named
    simp only [Event.Identifies, Event.heard?, Option.some.injEq, Prod.mk.injEq] at named
    exact other named.1 named.2
  · obtain ⟨timeout, rfl⟩ := waited event h
    exact Event.quiet_called rfl (Event.not_identifies rfl)

/-- Hearing a byte shows no cells. -/
theorem unshown_hear (x : Execution T) (byte : UInt8) (transport : T) (later : Option T) :
    ∃ events, (x.hear byte transport later).history = x.history ++ events ∧
      ∀ event ∈ events, ∀ area, event.shown? area = none := by
  obtain ⟨awaits, history, waited⟩ := x.history_hear byte transport later
  refine ⟨_, history, ?_⟩
  intro event h area
  rcases List.mem_cons.mp h with rfl | h
  · rfl
  · obtain ⟨timeout, rfl⟩ := waited event h
    rfl

theorem Step.image_move {x y : Execution T} (step : Step x y) (fits : x.session.Fits) :
    ImageMove x y := by
  obtain ⟨announce, fault⟩ := Model.identifier_of_mem fits.supported
  have quietly (image : y.session.image = x.session.image) (event : Event)
      (history : y.history = x.history ++ [event]) (quiet : event.Quiet x.session.model) :
      ImageMove x y :=
    .kept image [event] history (List.forall_mem_singleton.mpr quiet)
  have hearing (byte : UInt8) (transport : T) (later : Option T)
      (other : x.state = .identifying → byte ≠ x.session.model.identifier)
      (image : y.session.image = x.session.image)
      (history : y.history = (x.hear byte transport later).history) : ImageMove x y := by
    obtain ⟨events, heard, quiet⟩ := quiet_hear x byte transport later other
    exact .kept image events (history.trans heard) quiet
  have dirtying (byte : UInt8) (transport : T) (later : Option T)
      (image : y.session.image = x.session.image.markDirty)
      (history : y.history = (x.hear byte transport later).history) : ImageMove x y := by
    obtain ⟨events, heard, unshown⟩ := unshown_hear x byte transport later
    exact .dirtied image events (history.trans heard) unshown
  cases step
  case poll elapsed => exact quietly rfl _ rfl ⟨fun _ => rfl, rfl, Event.not_identifies rfl⟩
  case accept written => exact .accepted written rfl
  case aside | repeatChord | giveUp =>
    exact .kept rfl [] (List.append_nil _).symm (List.forall_mem_nil _)
  case readFails | readNothing =>
    exact quietly rfl _ rfl (Event.quiet_called rfl (Event.not_identifies rfl))
  case fault first second up =>
    obtain ⟨events, heard, quiet⟩ := quiet_hear x Signal.fault first none fun _ => fault.symm
    refine .kept rfl (events ++ [_]) ((congrArg (· ++ _) heard).trans (List.append_assoc _ _ _))
      (List.forall_mem_append.mpr ⟨quiet, List.forall_mem_singleton.mpr ?_⟩)
    exact Event.quiet_called rfl (Event.not_identifies rfl)
  case announce transport => exact hearing _ transport none (fun _ => announce.symm) rfl rfl
  case identify transport later _ awaited _ =>
    exact dirtying _ transport later (by simp [Execution.map, Session.apply]) rfl
  case acknowledge transport writing =>
    exact hearing _ transport none (fun named => by simp [writing] at named) rfl rfl
  case acknowledgeMore transport writing => exact dirtying _ transport none rfl rfl
  case key transport byte later _ connected _ _ =>
    refine hearing byte transport later ?_ (x.image_hear _ _ _) rfl
    intro named
    rw [named] at connected
    cases connected
  case ignore transport byte later _ _ _ other =>
    exact hearing byte transport later other (x.image_hear _ _ _) rfl
  case frame transport frame due built => exact .sent x.state built rfl rfl
  case frameFails transport frame accepted due built cut =>
    exact .dirtied rfl [_] rfl (List.forall_mem_singleton.mpr fun _ => rfl)
  case refuse => exact .dirtied rfl [] (List.append_nil _).symm (List.forall_mem_nil _)
  case probe | probeFails =>
    exact quietly rfl _ rfl
      (Event.quiet_called (by simp [Event.frame?]) (Event.not_identifies rfl))

/-- Nothing was ever to be shown: the host wrote no cells, and the display never named itself
again. -/
def Untouched (model : Model) (events : List Event) : Prop :=
  (∀ area, shownIn area events = []) ∧ ∀ event ∈ events, ¬ event.Identifies model

/-- The last frame was taken in full and shows what the host last got accepted. -/
def Displayed (model : Model) (events : List Event) : Prop :=
  (framesIn events).getLast? = some ⟨frameOf model events, some (frameOf model events).length⟩

/-- The image is what the host last asked for, and a clean one is on the display. -/
structure Faithful (x : Execution T) : Prop where
  fits : x.session.Fits
  cells : ∀ area, (x.session.image.region area).cells = lastShown x.session.model area x.history
  written : ∀ area, (x.session.image.region area).written = true → shownIn area x.history ≠ []
  clean : x.session.image.dirty = false →
    Untouched x.session.model x.history ∨ Displayed x.session.model x.history

theorem shownIn_of_unshown {events more : List Event}
    (unshown : ∀ event ∈ more, ∀ area, event.shown? area = none) (area : Area) :
    shownIn area (events ++ more) = shownIn area events := by
  rw [shownIn_append, shownIn, shownIn, List.filterMap_eq_nil_iff.mpr fun e h => unshown e h area,
    List.append_nil]

theorem lastShown_of_unshown {events more : List Event} (model : Model)
    (unshown : ∀ event ∈ more, ∀ area, event.shown? area = none) (area : Area) :
    lastShown model area (events ++ more) = lastShown model area events := by
  rw [lastShown, shownIn_of_unshown unshown, lastShown]

theorem frameOf_of_unshown {events more : List Event} (model : Model)
    (unshown : ∀ event ∈ more, ∀ area, event.shown? area = none) :
    frameOf model (events ++ more) = frameOf model events := by
  rw [frameOf, lastShown_of_unshown model unshown, lastShown_of_unshown model unshown, frameOf]

theorem shownIn_shown (events : List Event) (area : Area) (cells : List Cell) :
    shownIn area (events ++ [.shown area cells]) = shownIn area events ++ [cells] := by
  simp [shownIn, Event.shown?]

theorem shownIn_shown_of_ne {area other : Area} (ne : other ≠ area) (events : List Event)
    (cells : List Cell) : shownIn other (events ++ [.shown area cells]) = shownIn other events := by
  simp [shownIn, Event.shown?, ne.symm]

theorem lastShown_shown (model : Model) (events : List Event) (area other : Area)
    (cells : List Cell) : lastShown model other (events ++ [.shown area cells]) =
      if other = area then cells else lastShown model other events := by
  split_ifs with same
  · rw [same, lastShown, shownIn_shown, List.getLast?_concat, Option.getD_some]
  · rw [lastShown, shownIn_shown_of_ne same, lastShown]

/-- The frame that is built shows what was last accepted. -/
theorem Faithful.frame_eq {x : Execution T} (h : Faithful x) {frame : Frame}
    (built : x.session.image.frame? x.session.model.envelope = some frame) :
    frame.bytes = frameOf x.session.model x.history := by
  have native (area : Area) : (x.session.image.region area).native =
      (lastShown x.session.model area x.history).map Cell.toDevice := by
    rw [h.fits.inStep area, h.cells]
  have status := native .status
  have main := native .main
  simp only [Image.region] at status main
  rw [Envelope.bytes_of_frame? built, frameOf, status, main]

theorem Faithful.accept {x y : Execution T} (h : Faithful x) (fits : y.session.Fits)
    (model : y.session.model = x.session.model) {area : Area} {cells : List Cell}
    (accepted : x.session.image.write area cells = .ok y.session.image)
    (history : y.history = x.history ++ [.shown area cells]) : Faithful y := by
  refine ⟨fits, ?_, ?_, ?_⟩
  · intro other
    rw [Image.region_write h.fits.inStep accepted, model, history, lastShown_shown, ← h.cells]
    split_ifs <;> rfl
  · intro other written
    rw [history]
    by_cases same : other = area
    · simp [same, shownIn_shown]
    · rw [Image.region_write h.fits.inStep accepted, if_neg same] at written
      rw [shownIn_shown_of_ne same]
      exact h.written other written
  · -- Only cells that were shown before leave the image clean, so something was written then.
    intro clean
    obtain ⟨image, written, shown⟩ := Image.shows_of_write accepted clean
    rw [image] at clean
    rcases h.clean clean with ⟨none, _⟩ | displayed
    · exact absurd (none area) (h.written area written)
    · have last (other : Area) : lastShown x.session.model other y.history =
          lastShown x.session.model other x.history := by
        rw [history, lastShown_shown]
        split_ifs with same
        · rw [same, ← shown, h.cells]
        · rfl
      have frames : framesIn y.history = framesIn x.history := by
        rw [history, framesIn_append]
        exact List.append_nil _
      rw [model]
      right
      rwa [Displayed, frameOf, last, last, ← frameOf, frames]

/-- Where no cells are accepted, only a clean image has to be looked at. -/
theorem Faithful.keep {x y : Execution T} (h : Faithful x) (fits : y.session.Fits)
    (model : y.session.model = x.session.model)
    (regions : ∀ area, y.session.image.region area = x.session.image.region area)
    {events : List Event} (history : y.history = x.history ++ events)
    (unshown : ∀ event ∈ events, ∀ area, event.shown? area = none)
    (clean : y.session.image.dirty = false →
      Untouched x.session.model y.history ∨ Displayed x.session.model y.history) :
    Faithful y := by
  refine ⟨fits, ?_, ?_, ?_⟩
  · intro area
    rw [regions, model, history, lastShown_of_unshown _ unshown]
    exact h.cells area
  · intro area
    rw [regions, history, shownIn_of_unshown unshown]
    exact h.written area
  · rw [model]
    exact clean

theorem Faithful.step {x y : Execution T} (step : Step x y) (h : Faithful x) : Faithful y := by
  have fits := step.fits h.fits
  have model := step.model_eq
  cases step.image_move h.fits with
  | accepted written history => exact h.accept fits model written history
  | dirtied image events history unshown =>
    refine h.keep fits model (fun area => by rw [image]; rfl) history unshown ?_
    intro clean
    rw [image] at clean
    cases clean
  | @sent frame state built image history =>
    have unshown : ∀ event ∈ [Event.called ⟨state, .write frame.bytes (some frame.bytes.length)⟩],
        ∀ area, event.shown? area = none :=
      List.forall_mem_singleton.mpr fun _ => rfl
    have named := h.fits.frame_ne_describe built
    refine h.keep fits model (fun area => by rw [image]; rfl) history unshown ?_
    intro _
    right
    rw [Displayed, history, frameOf_of_unshown _ unshown, framesIn_append, ← h.frame_eq built]
    simp [framesIn, Event.frame?, named]
  | kept image events history quiet =>
    have unshown : ∀ event ∈ events, ∀ area, event.shown? area = none := fun e h => (quiet e h).1
    refine h.keep fits model (fun area => by rw [image]) history unshown ?_
    intro clean
    rw [image] at clean
    rcases h.clean clean with ⟨none, unnamed⟩ | displayed
    · left
      refine ⟨?_, ?_⟩
      · intro area
        rw [history, shownIn_of_unshown unshown, none]
      · rw [history]
        exact List.forall_mem_append.mpr ⟨unnamed, fun e h => (quiet e h).unnamed⟩
    · right
      have unframed : framesIn events = [] :=
        List.filterMap_eq_nil_iff.mpr fun e h => (quiet e h).unframed
      rwa [Displayed, history, frameOf_of_unshown _ unshown, framesIn_append, unframed,
        List.append_nil]

namespace Session

/-! ## Flushing -/

/-- A session that is ready after a flush owes the display nothing. -/
theorem clean_of_flush [Transport T] {s : Session T} (fits : s.Fits)
    (ready : s.flush.link.state = .ready) : s.flush.image.dirty = false := by
  unfold flush at ready ⊢
  split_ifs at ready ⊢ with wanted
  · obtain ⟨frame, built⟩ := fits.frame_built
    obtain ⟨accepted, transport, sent⟩ := s.send_eq frame.bytes
    have idle : s.link.state = .ready := by
      have := wanted.2
      cases h : s.link.state <;> simp_all [LinkState.acceptsFrames]
    simp only [transmit, built, sent] at ready
    cases whole : accepted == some frame.bytes.length <;>
      simp [whole, apply, after, Link.apply_frameSent (.inl idle)] at ready
  · simpa [ready, LinkState.acceptsFrames] using wanted

theorem clean_of_poll [Transport T] {s : Session T} (fits : s.Fits) (elapsed : UInt32)
    (ready : (s.poll elapsed).2.link.state = .ready) : (s.poll elapsed).2.image.dirty = false := by
  obtain ⟨t, reached, flushed | repeated⟩ := poll_flushes s elapsed []
  · rw [flushed] at ready ⊢
    exact clean_of_flush (Fits.reaches (fits.of_regions rfl fun _ => rfl) reached) ready
  · rw [repeated, autorepeat_link] at ready
    rw [repeated, autorepeat_image]
    exact clean_of_flush (Fits.reaches (fits.of_regions rfl fun _ => rfl) reached) ready

theorem clean_of_write [Transport T] {s next : Session T} (fits : s.Fits) {cells : List Cell}
    (h : s.write .main cells = .ok next) (ready : next.link.state = .ready) :
    next.image.dirty = false := by
  cases written : s.image.write .main cells with
  | error mismatch => rw [write_error written] at h; cases h
  | ok image =>
    rw [write_main written] at h
    cases h
    have accepted : Step (⟨s, []⟩ : Execution T) _ := .accept ⟨s, []⟩ written
    exact clean_of_flush (accepted.fits fits) ready

/-! ## Whole runs -/

theorem faithful_of_connect [Transport T] {line : Line T} {config : Config} {s : Session T}
    (h : connect line config = .ok s) : Faithful (⟨s, []⟩ : Execution T) := by
  obtain ⟨_, _, _, built⟩ := connect_eq h
  obtain ⟨_, blank⟩ := Image.blank_eq built
  refine ⟨fits_of_connect h, ?_, ?_, ?_⟩
  · intro area
    rw [blank]
    rfl
  · intro area written
    rw [blank] at written
    cases written
  · intro _
    exact .inl ⟨fun _ => rfl, nofun⟩

/-- No cells are lost. After any operations on an opened session, an image that is clean was either
never touched, or the last frame was taken in full and shows what the host last got accepted. An
image that is dirty does not rest in the ready state: a poll, or a write to the main cells,
that ends there leaves it clean. -/
theorem cells_are_delivered [Transport T] {line : Line T} {config : Config} {opened : Session T}
    (h : connect line config = .ok opened) (operations : List (Operation T)) :
    let events := opened.history operations
    let session := (opened.run operations).2
    (session.image.dirty = false →
      Untouched opened.model events ∨ Displayed opened.model events) ∧
    (∀ elapsed, (session.poll elapsed).2.link.state = .ready →
      (session.poll elapsed).2.image.dirty = false) ∧
    ∀ cells next, session.write .main cells = .ok next → next.link.state = .ready →
      next.image.dirty = false := by
  have path := run_path opened operations []
  have model : (opened.run operations).2.model = opened.model := path.model_eq
  have faithful := path.keeps Faithful.step (faithful_of_connect h)
  refine ⟨?_, ?_, ?_⟩
  · intro clean
    rw [← model]
    exact faithful.clean clean
  · intro elapsed ready
    exact clean_of_poll faithful.fits elapsed ready
  · intro cells next done ready
    exact clean_of_write faithful.fits done ready

/-- The first frame of a Modular display fails. Once it has named itself again, it has the cells. -/
theorem cells_are_delivered_after_fault : ∃ opened : Session ScriptedTransport,
    connect ⟨{ replies := [[0xFE, 0xFE, 0x80]], writes := [some 1, none] }, []⟩ {} = .ok opened ∧
    Displayed opened.model (opened.history
      [.write .main (List.replicate 20 3), .device (·.receive [0xFE, 0x80]), .poll 5]) := by
  let operations : List (Operation ScriptedTransport) :=
    [.write .main (List.replicate 20 3), .device (·.receive [0xFE, 0x80]), .poll 5]
  obtain ⟨opened, connected⟩ := exists_connect (T := ScriptedTransport)
    ⟨{ replies := [[0xFE, 0xFE, 0x80]], writes := [some 1, none] }, []⟩ {} (by decide +kernel)
  have clean : (opened.run operations).2.image.dirty = false :=
    of_connect connected (fun s => (s.run operations).2.image.dirty) (by decide +kernel)
  have shown : shownIn .main (opened.history operations) = [List.replicate 20 3] :=
    of_connect connected (fun s => shownIn .main (s.history operations)) (by decide +kernel)
  rcases (cells_are_delivered connected operations).1 clean with ⟨none, _⟩ | displayed
  · exact absurd (shown.symm.trans (none .main)) nofun
  · exact ⟨opened, connected, displayed⟩

end Session

end BrailleDisplay
