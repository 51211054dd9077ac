import BrailleDisplay.Proofs.Session.Frames

/-!
# Frames have causes

No frame is sent for nothing. Since the frame before it the host has asked for other cells, the
display has asked for a frame or has named itself again; or the frame repeats one that was not
acknowledged in time. A cause may precede its frame by a long time, as the link may be down or
waiting; until then the image is dirty. The invariant is therefore that a dirty image
on a link that is up has a cause that no frame has followed.
-/
namespace BrailleDisplay

/-- The event calls for a frame: the host asks for cells that are not the ones it last asked for,
or the display wants a frame. -/
def CallsForFrame (model : Model) (before : List Event) (event : Event) : Prop :=
  (∃ area cells, event = .shown area cells ∧ (shownIn area before).getLast? ≠ some cells) ∨
    event.WantsFrame model

/-- Something has called for a frame since the last one. -/
def FrameOwed (model : Model) (events : List Event) : Prop :=
  ∃ before cause after, events = before ++ cause :: after ∧ CallsForFrame model before cause ∧
    framesIn after = []

/-- The event is part of a poll that has read nothing, on a link that has waited for the
acknowledgement of a frame for too long and may send it again. -/
def Repeats (config : Config) (before : List Event) (event : Event) : Prop :=
  ∃ earlier elapsed link read, before = earlier ++ [.polled elapsed link, read] ∧
    read.isEmptyRead = true ∧ link.state = .writing ∧
    config.writingTimeout < (link.tick elapsed).elapsed ∧ link.retries ≤ config.maxRetries ∧
    event.During .writing

/-- A frame is owed, or it is repeated. -/
def HasCause (model : Model) (config : Config) (before : List Event) (event : Event) : Prop :=
  event.frame?.isSome = true → FrameOwed model before ∨ Repeats config before event

theorem FrameOwed.append {model : Model} {events more : List Event} (h : FrameOwed model events)
    (unframed : framesIn more = []) : FrameOwed model (events ++ more) := by
  obtain ⟨before, cause, after, rfl, calls, none⟩ := h
  refine ⟨before, cause, after ++ more, by simp, calls, ?_⟩
  rw [framesIn_append, none, unframed, List.append_nil]

/-- What the display wants is owed as long as no frame follows. -/
theorem FrameOwed.of_wantsFrame {model : Model} {event : Event} {more : List Event}
    (inside : event ∈ more) (wants : event.WantsFrame model) (unframed : framesIn more = [])
    (events : List Event) : FrameOwed model (events ++ more) := by
  obtain ⟨before, after, rfl⟩ := List.append_of_mem inside
  refine ⟨events ++ before, event, after, by simp, .inr wants, ?_⟩
  have rest : framesIn [event] ++ framesIn after = [] := by
    rw [← framesIn_append]
    exact (List.append_eq_nil_iff.mp (framesIn_append before _ ▸ unframed)).2
  exact (List.append_eq_nil_iff.mp rest).2

theorem framesIn_of_asking {events : List Event}
    (asking : ∀ event ∈ events, ∀ data, event.written? = some data → data = [Signal.describe]) :
    framesIn events = [] := by
  refine List.filterMap_eq_nil_iff.mpr ?_
  intro event inside
  cases framed : event.frame? with
  | none => rfl
  | some sent =>
    obtain ⟨written, other⟩ := Event.written?_of_frame? framed
    exact absurd (asking event inside _ written) other

variable {T : Type}

/-- The regions hold what was last accepted, a frame is owed for a dirty image on a link that is
up, and all frames so far had a cause. -/
structure Prompted (x : Execution T) : Prop where
  fits : x.session.Fits
  recalled : ∀ area,
    (x.session.image.region area).written? = (shownIn area x.history).getLast?
  owed : x.Owes → FrameOwed x.session.model x.history
  caused : Throughout (HasCause x.session.model x.session.config) x.history

theorem Prompted.accept {x : Execution T} (h : Prompted x) {area : Area} {cells : List Cell}
    {image : Image} (written : x.session.image.write area cells = .ok image)
    (dirty : image.dirty = true) (connected : x.state.isConnected = true) :
    FrameOwed x.session.model (x.history ++ [.shown area cells]) := by
  by_cases shown : (x.session.image.region area).written? = some cells
  · rw [Image.write_written shown] at written
    cases written
    exact (h.owed ⟨connected, dirty⟩).append rfl
  · refine ⟨x.history, .shown area cells, [], rfl, .inl ⟨area, cells, rfl, ?_⟩, rfl⟩
    rwa [← h.recalled]

theorem Prompted.hasCause {x : Execution T} (h : Prompted x) (due : x.FrameDue) {event : Event}
    (during : event.During x.state) :
    HasCause x.session.model x.session.config x.history event := by
  intro _
  rcases due.owes with owes | ⟨idle, writing, late, left⟩
  · exact .inl (h.owed owes)
  · obtain ⟨before, elapsed, link, limit, timeout, history, ticked⟩ := idle
    have retries := Session.retries_le left
    have state : x.session.link.state = .writing := writing
    rw [ticked] at late retries state
    exact .inr ⟨before, elapsed, link, _, history, rfl, state, late, retries, writing ▸ during⟩

theorem Prompted.step {x y : Execution T} (step : Step x y) (h : Prompted x) : Prompted y := by
  have fits := step.fits h.fits
  have model := step.model_eq
  have config := step.config_eq
  cases step.frame_move h.fits with
  | @accepted area cells written state history =>
    refine ⟨fits, ?_, ?_, ?_⟩
    · intro other
      rw [history]
      by_cases same : other = area
      · rw [same, shownIn_shown, List.getLast?_concat, Image.region_write h.fits.inStep written,
          if_pos rfl]
        rfl
      · rw [shownIn_shown_of_ne same, Image.region_write h.fits.inStep written, if_neg same]
        exact h.recalled other
    · rintro ⟨connected, dirty⟩
      rw [state] at connected
      rw [model, history]
      exact h.accept written dirty connected
    · rw [model, config, history]
      exact h.caused.concat nofun
  | sent due built regions paid history =>
    refine ⟨fits, ?_, fun owes => absurd owes paid, ?_⟩
    · intro area
      rw [regions, history, shownIn_of_unshown (List.forall_mem_singleton.mpr fun _ => rfl)]
      exact h.recalled area
    · rw [model, config, history]
      exact h.caused.concat (h.hasCause due rfl)
  | other events history regions unshown asking owing =>
    have unframed := framesIn_of_asking asking
    refine ⟨fits, ?_, ?_, ?_⟩
    · intro area
      rw [regions, history, shownIn_of_unshown unshown]
      exact h.recalled area
    · intro owes
      rw [model, history]
      rcases owing owes with owed | ⟨event, inside, wants⟩
      · exact (h.owed owed).append unframed
      · exact .of_wantsFrame inside wants unframed x.history
    · rw [model, config, history]
      refine h.caused.append ?_
      intro before event inside framed
      rw [List.filterMap_eq_nil_iff.mp unframed event inside] at framed
      cases framed

namespace Session

variable [Transport T]

/-- Asking again for the main cells that were just accepted does nothing at all. -/
theorem write_main_again {s next : Session T} (fits : s.Fits) {cells : List Cell}
    (h : s.write .main cells = .ok next) : next.write .main cells = .ok next := by
  cases written : s.image.write .main cells with
  | error mismatch =>
    rw [write_error written] at h
    cases h
  | ok image =>
    have clean := clean_of_write fits h
    rw [write_main written] at h
    cases h
    have shown : (image.region .main).written? = some cells := by
      rw [Image.region_write fits.inStep written, if_pos rfl]
      rfl
    rw [← (flush_keeps { s with image }).2 .main] at shown
    rw [write_main (Image.write_written shown)]
    -- A flush leaves nothing for a second one: the link is busy or down, or the image is clean.
    generalize { s with image }.flush = next at clean ⊢
    by_cases ready : next.link.state = .ready
    · rw [flush, if_neg (by simp [clean ready])]
    · rw [flush_of_ne ready]

/-- No frame is redundant. In any run of an opened session, every frame has a cause since the frame
before it, or repeats a frame that was not acknowledged in time. And main cells that were just
accepted can be asked for again without any effect, whatever became of their frame. -/
theorem frames_have_causes {line : Line T} {config : Config} {opened : Session T}
    (h : connect line config = .ok opened) (operations : List (Operation T)) :
    Throughout (HasCause opened.model config) (opened.history operations) ∧
    ∀ cells next, (opened.run operations).2.write .main cells = .ok next →
      next.write .main cells = .ok next := by
  obtain ⟨_, same, _, built⟩ := connect_eq h
  obtain ⟨clean, blank⟩ := Image.blank_eq built
  have start : Prompted (⟨opened, []⟩ : Execution T) := by
    refine ⟨fits_of_connect h, ?_, ?_, fun before event after split => by simp at split⟩
    · intro area
      rw [blank]
      rfl
    · rintro ⟨_, dirty⟩
      rw [clean] at dirty
      cases dirty
  have path := run_path opened operations []
  have prompted := path.keeps Prompted.step start
  have model : (opened.run operations).2.model = opened.model := path.model_eq
  have config' : (opened.run operations).2.config = config := path.config_eq.trans same
  refine ⟨?_, fun cells next done => write_main_again prompted.fits done⟩
  rw [← model, ← config']
  exact prompted.caused

/-- Status cells wait for the first frame to be acknowledged. They are the cause of the second one,
during which other main cells are asked for twice. -/
theorem frames_have_causes_status : ∃ opened next : Session ScriptedTransport,
    connect ⟨{ replies := [[0xFE, 0xFE, 0x80]] }, []⟩ {} = .ok opened ∧
    let operations : List (Operation ScriptedTransport) := [.write .main (List.replicate 20 3),
      .write .status [1, 2, 3, 4], .device (·.receive [0x7E]), .poll 5]
    FrameOwed opened.model (opened.history operations).dropLast ∧
    (opened.run operations).2.write .main (List.replicate 20 5) = .ok next ∧
    next.write .main (List.replicate 20 5) = .ok next := by
  let operations : List (Operation ScriptedTransport) := [.write .main (List.replicate 20 3),
    .write .status [1, 2, 3, 4], .device (·.receive [0x7E]), .poll 5]
  let sent : Event :=
    .called ⟨.ready, .write ([0x01, 1, 8, 9, 2] ++ List.replicate 20 9) (some 25)⟩
  obtain ⟨opened, connected⟩ := exists_connect (T := ScriptedTransport)
    ⟨{ replies := [[0xFE, 0xFE, 0x80]] }, []⟩ {} (by decide +kernel)
  have last : opened.history operations = (opened.history operations).dropLast ++ [sent] :=
    of_decide_eq_true <| of_connect connected
      (fun s => decide (s.history operations = (s.history operations).dropLast ++ [sent]))
      (by decide +kernel)
  have accepted :
      ((opened.run operations).2.write .main (List.replicate 20 5)).toOption.isSome = true :=
    of_connect connected
      (fun s => ((s.run operations).2.write .main (List.replicate 20 5)).toOption.isSome)
      (by decide +kernel)
  obtain ⟨caused, again⟩ := frames_have_causes connected operations
  cases done : (opened.run operations).2.write .main (List.replicate 20 5) with
  | error mismatch =>
    rw [done] at accepted
    cases accepted
  | ok next =>
    refine ⟨opened, next, connected, ?_, done, again _ next done⟩
    rcases caused _ sent [] last (by decide) with owed | ⟨_, _, _, _, _, _, _, _, _, writing⟩
    · exact owed
    · cases writing

end Session

end BrailleDisplay
