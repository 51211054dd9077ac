import BrailleDisplay.Proofs.Image
import BrailleDisplay.Proofs.Session.Path

/-!
# Opened sessions

A session that was opened drives a display of the registry, and its image has the display's size.
Both stay so through every step. Hence its frames are never refused, and none of them can be taken
for a describe request.
-/
namespace BrailleDisplay

variable {T : Type}

theorem Model.header_of_mem {model : Model} (h : model ∈ Model.registry) :
    model.envelope.header = Signal.frameStart := by
  revert model
  decide

theorem Model.length_le_of_mem {model : Model} (h : model ∈ Model.registry) :
    model.envelope.header.length + model.cellsIn .status + model.cellsIn .main +
      model.envelope.trailer.length ≤ Frame.capacity := by
  revert model
  decide

namespace Session

/-- The session drives a display of the registry with an image of its size, whose rows are in
step. -/
structure Fits (s : Session T) : Prop where
  supported : s.model ∈ Model.registry
  sized : ∀ area, (s.image.region area).cells.length = s.model.cellsIn area
  inStep : s.image.InStep

theorem Fits.frame_built {s : Session T} (h : s.Fits) :
    ∃ frame, s.image.frame? s.model.envelope = some frame := by
  rw [← Option.ne_none_iff_exists', Image.frame?, ne_eq, Envelope.frame?_eq_none_iff]
  have length (area : Area) : (s.image.region area).native.length = s.model.cellsIn area :=
    (h.inStep area).length_native.trans (h.sized area)
  have status : s.image.status.native.length = s.model.cellsIn .status := length .status
  have main : s.image.main.native.length = s.model.cellsIn .main := length .main
  have := Model.length_le_of_mem h.supported
  simp only [Envelope.wrap, List.length_append, status, main]
  omega

/-- The bytes of the frame that shows the image as it is now. -/
def frameBytes (s : Session T) : List UInt8 :=
  s.model.envelope.wrap s.image.status.native s.image.main.native

theorem Fits.frame_ne_describe {s : Session T} (h : s.Fits) {frame : Frame}
    (built : s.image.frame? s.model.envelope = some frame) : frame.bytes ≠ [Signal.describe] := by
  rw [Envelope.bytes_of_frame? built, Envelope.wrap, Model.header_of_mem h.supported]
  simp [Signal.frameStart, Signal.describe]

theorem Fits.of_regions {s t : Session T} (h : s.Fits) (model : t.model = s.model)
    (regions : ∀ area, t.image.region area = s.image.region area) : t.Fits where
  supported := model ▸ h.supported
  sized area := by rw [regions, model]; exact h.sized area
  inStep area := by rw [regions]; exact h.inStep area

end Session

/-! ## Steps -/

namespace Step

variable {x y : Execution T}

theorem model_eq (step : Step x y) : y.session.model = x.session.model := by
  cases step
  case identify | key | ignore => exact x.model_hear _ _ _
  all_goals rfl

theorem config_eq (step : Step x y) : y.session.config = x.session.config := by
  cases step
  case identify | key | ignore => exact x.config_hear _ _ _
  all_goals rfl

theorem fits (step : Step x y) (h : x.session.Fits) : y.session.Fits := by
  have model := step.model_eq
  cases step
  case accept area cells image written =>
    refine ⟨h.supported, ?_, Image.inStep_write h.inStep written⟩
    intro other
    have sized := h.sized other
    change (image.region other).cells.length = x.session.model.cellsIn other
    rw [Image.region_write h.inStep written]
    split_ifs with same
    · rwa [Region.showing, Image.length_of_write written, ← same]
    · exact sized
  case identify =>
    exact h.of_regions model fun area => congrArg (·.markDirty.region area) (x.image_hear _ _ _)
  case key | ignore =>
    exact h.of_regions model fun area => congrArg (·.region area) (x.image_hear _ _ _)
  all_goals exact h.of_regions model fun area => rfl

end Step

section

variable {x y : Execution T}

theorem Path.model_eq (path : Path x y) : y.session.model = x.session.model :=
  path.keeps (P := fun z => z.session.model = x.session.model)
    (fun step h => step.model_eq.trans h) rfl

theorem Path.config_eq (path : Path x y) : y.session.config = x.session.config :=
  path.keeps (P := fun z => z.session.config = x.session.config)
    (fun step h => step.config_eq.trans h) rfl

theorem Path.fits (path : Path x y) (h : x.session.Fits) : y.session.Fits :=
  path.keeps Step.fits h

end

/-! ## Opening -/

namespace Session

/-- A new session is in the ready state, and its image is clean and was never written. -/
theorem start_eq {line : Line T} {config : Config} {identifier : UInt8} {s : Session T}
    (h : start line config identifier = .ok s) :
    s.model ∈ Model.registry ∧ s.config = config ∧ s.link = ⟨.ready, 0, 0⟩ ∧
      Image.blank s.model = .ok s.image := by
  unfold start at h
  split at h
  · cases h
  · next model found =>
    split at h
    · cases h
    · next image built =>
      cases h
      exact ⟨List.mem_of_find?_eq_some found, rfl, rfl, built⟩

theorem connect_eq [Transport T] {line : Line T} {config : Config} {s : Session T}
    (h : connect line config = .ok s) :
    s.model ∈ Model.registry ∧ s.config = config ∧ s.link = ⟨.ready, 0, 0⟩ ∧
      Image.blank s.model = .ok s.image := by
  unfold connect at h
  split at h
  · cases h
  · next identifier line _ =>
    cases started : start line config identifier with
    | error error => rw [started] at h; cases h
    | ok session =>
      rw [started] at h
      cases h
      exact start_eq started

end Session

/-- Whatever happens to an opened session, it fits its display. -/
theorem Session.fits_of_connect [Transport T] {line : Line T} {config : Config} {s : Session T}
    (h : connect line config = .ok s) : s.Fits := by
  obtain ⟨supported, _, _, built⟩ := connect_eq h
  have blank := (Image.blank_eq built).2
  refine ⟨supported, fun area => ?_, fun area => ?_⟩
  · simp [blank, Region.blank, blankRow]
  · rw [blank]
    exact Region.inStep_blank _

/-- What opening yields can be evaluated. -/
theorem Session.of_connect [Transport T] {line : Line T} {config : Config} {s : Session T}
    (h : connect line config = .ok s) {α : Type} (f : Session T → α) {value : α}
    (evaluated : (connect line config).toOption.map f = some value) : f s = value := by
  rw [h] at evaluated
  exact Option.some.inj evaluated

theorem Session.exists_connect [Transport T] (line : Line T) (config : Config)
    (evaluated : (connect line config).toOption.isSome = true) :
    ∃ s, connect line config = .ok s := by
  cases h : connect line config with
  | ok s => exact ⟨s, rfl⟩
  | error refusal => rw [h] at evaluated; cases evaluated

/-- Whatever is done with a session that fits its display, it still fits. -/
theorem Session.Fits.reaches {x : Execution T} {s : Session T} (h : x.session.Fits)
    (reached : x.Reaches s) : s.Fits :=
  reached.path.fits h

end BrailleDisplay
