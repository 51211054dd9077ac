import BrailleDisplay.Proofs.Keyboard.History
import BrailleDisplay.Proofs.Keyset.Mode

/-!
# The input mode and its history

Two kinds of call interpret front keys as a chord of their own: letting a front key go, if the chord
is due, and repeating. The input mode is the one that the last mode chord among these has switched
to. A chord with a routing or status key never switches it.
-/
namespace BrailleDisplay

theorem Chord.eq_front {chord : Chord} (alone : chord.isFrontOnly = true) :
    chord = { front := chord.front } := by
  obtain ⟨front, column, status⟩ := chord
  simp only [isFrontOnly, Bool.and_eq_true, Option.isNone_iff_eq_none] at alone
  obtain ⟨⟨_, rfl⟩, rfl⟩ := alone
  rfl

namespace Keyboard

/-- The front keys that a call interprets. -/
def interpreted? (model : Model) (marks : List KeyMark) (keyboard : Keyboard) :
    KeyCall → Option FrontKeys
  | .decode _ byte =>
    match KeyEvent.ofByte? model.geometry byte with
    | some ⟨.front _, true⟩ => if chordDue marks then some keyboard.held.front else none
    | _ => none
  | .repeatHeld => if keyboard.held.isFrontOnly then some keyboard.held.front else none
  | .clear => none

/-- The front keys that calls interpret, in order, after other calls on a new keyboard. -/
def chordsIn (model : Model) (before : List KeyCall) : List KeyCall → List FrontKeys
  | [] => []
  | call :: calls =>
    (interpreted? model (replay model before).1 (replay model before).2 call).toList ++
      chordsIn model (before ++ [call]) calls

theorem chordsIn_concat (model : Model) (before calls : List KeyCall) (last : KeyCall) :
    chordsIn model before (calls ++ [last]) = chordsIn model before calls ++
      (interpreted? model (replay model (before ++ calls)).1
        (replay model (before ++ calls)).2 last).toList := by
  induction calls generalizing before with
  | nil => simp [chordsIn]
  | cons call calls ih =>
    rw [List.cons_append, chordsIn, ih, chordsIn, ← List.append_cons, List.append_assoc]

/-! ## Key events -/

/-- Letting a front key go interprets the pending chord. -/
theorem mode_releaseFront (keyset : Keyset) (keyboard : Keyboard) (bit : UInt8) :
    (keyboard.releaseFront keyset bit).2.mode =
      (keyboard.pending.bind keyset.switch?).getD keyboard.mode := by
  unfold releaseFront
  cases keyboard.pending with
  | none => rfl
  | some front => exact keyset.mode_of_front front keyboard.mode

/-- Any other key event leaves the mode as it is. -/
theorem mode_event (keyset : Keyset) (keyboard : Keyboard) {event : KeyEvent}
    (kept : ∀ bit, event ≠ ⟨.front bit, true⟩) :
    (Keyboard.event keyset keyboard event).2.mode = keyboard.mode := by
  match event with
  | ⟨.front bit, true⟩ => exact absurd rfl (kept bit)
  | ⟨.front bit, false⟩ | ⟨.routing column, true⟩ | ⟨.status index, true⟩ => rfl
  | ⟨.routing column, false⟩ => exact Keyset.mode_of_unswitched (by simp)
  | ⟨.status index, false⟩ => exact Keyset.mode_of_unswitched (by simp)

/-- Letting a front key go switches the mode through the pending chord only, and gives no command
then. -/
theorem switches_of_releaseFront {keyset : Keyset} {keyboard : Keyboard} {bit : UInt8}
    (changed : (keyboard.releaseFront keyset bit).2.mode ≠ keyboard.mode) :
    (keyboard.releaseFront keyset bit).1 = .absorbed ∧
      keyboard.pending = some (keyset.modeChord (keyboard.releaseFront keyset bit).2.mode) := by
  unfold releaseFront at changed ⊢
  cases pending : keyboard.pending with
  | none =>
    rw [pending] at changed
    exact absurd rfl changed
  | some front =>
    rw [pending] at changed
    obtain ⟨target, same, switched⟩ := Keyset.switches_of_mode changed
    simp only [switched]
    exact ⟨rfl, congrArg (some ∘ Chord.front) same⟩

/-! ## Calls -/

variable {model : Model} {keyset : Keyset}

theorem mode_decode (panel : model.panel = .chords keyset) {marks : List KeyMark}
    {keyboard : Keyboard} (recalls : Recalls marks keyboard) (context : InputContext)
    (byte : UInt8) :
    (keyboard.decode model context byte).2.mode =
      ((interpreted? model marks keyboard (.decode context byte)).bind keyset.switch?).getD
        keyboard.mode := by
  simp only [decode, panel, decodeChord, interpreted?]
  cases KeyEvent.ofByte? model.geometry byte with
  | none => rfl
  | some event =>
    obtain ⟨key, released⟩ := event
    cases key with
    | front bit =>
      cases released with
      | true =>
        have pending : keyboard.endPress.pending = _ := recalls.pending
        exact pending ▸ mode_releaseFront keyset keyboard.endPress bit
      | false => rfl
    | routing | status => exact mode_event keyset keyboard.endPress (by simp)

theorem mode_repeatHeld (panel : model.panel = .chords keyset) (marks : List KeyMark)
    (keyboard : Keyboard) :
    (keyboard.repeatHeld model).2.mode =
      ((interpreted? model marks keyboard .repeatHeld).bind keyset.switch?).getD
        keyboard.mode := by
  have known : model.keyset? = some keyset := by rw [Model.keyset?, panel]
  simp only [repeatHeld, known, interpreted?]
  by_cases alone : keyboard.held.isFrontOnly = true
  · rw [if_pos alone, if_pos alone, Chord.eq_front alone]
    exact keyset.mode_of_front keyboard.held.front keyboard.mode
  · rw [if_neg alone, if_neg alone]
    rfl

/-- A byte switches the mode only if it lets a front key go. -/
theorem switches_of_decode {keyboard : Keyboard} {context : InputContext} {byte : UInt8}
    (changed : (keyboard.decode model context byte).2.mode ≠ keyboard.mode) :
    (keyboard.decode model context byte).1 = .absorbed ∧
      ∃ keyset bit, model.panel = .chords keyset ∧
        KeyEvent.ofByte? model.geometry byte = some ⟨.front bit, true⟩ ∧
        keyboard.pending =
          some (keyset.modeChord (keyboard.decode model context byte).2.mode) := by
  unfold decode at changed ⊢
  cases panel : model.panel with
  | bookworm =>
    rw [panel] at changed
    exact absurd rfl changed
  | chords keyset =>
    simp only [panel, decodeChord] at changed ⊢
    cases found : KeyEvent.ofByte? model.geometry byte with
    | none =>
      rw [found] at changed
      exact absurd rfl changed
    | some event =>
      simp only [found] at changed
      obtain ⟨bit, rfl⟩ : ∃ bit, event = ⟨.front bit, true⟩ := by
        by_contra none
        exact changed (mode_event keyset keyboard.endPress (not_exists.mp none))
      obtain ⟨absorbed, pending⟩ := switches_of_releaseFront changed
      exact ⟨absorbed, keyset, bit, rfl, rfl, pending⟩

/-- Repeating switches the mode only if a mode chord is held alone, and gives no command then. -/
theorem switches_of_repeatHeld {keyboard : Keyboard}
    (changed : (keyboard.repeatHeld model).2.mode ≠ keyboard.mode) :
    (keyboard.repeatHeld model).1 = none ∧ ∃ keyset, model.panel = .chords keyset ∧
      keyboard.held = { front := keyset.modeChord (keyboard.repeatHeld model).2.mode } := by
  unfold repeatHeld Model.keyset? at changed ⊢
  cases panel : model.panel with
  | bookworm =>
    rw [panel] at changed
    exact absurd rfl changed
  | chords keyset =>
    rw [panel] at changed
    by_cases alone : keyboard.held.isFrontOnly = true
    · simp only [if_pos alone] at changed ⊢
      obtain ⟨target, same, switched⟩ := Keyset.switches_of_mode changed
      rw [switched]
      exact ⟨rfl, keyset, rfl, same⟩
    · simp only [if_neg alone] at changed
      exact absurd rfl changed

/-- A call switches to the mode of the chord that it interprets, if that is a mode chord. -/
theorem mode_call (panel : model.panel = .chords keyset) {marks : List KeyMark}
    {keyboard : Keyboard} (recalls : Recalls marks keyboard) (call : KeyCall) :
    (keyboard.call model call).2.mode =
      ((interpreted? model marks keyboard call).bind keyset.switch?).getD keyboard.mode := by
  cases call with
  | decode context byte => exact mode_decode panel recalls context byte
  | repeatHeld => exact mode_repeatHeld panel marks keyboard
  | clear => rfl

/-- The mode is that of the last mode chord that was interpreted. -/
theorem mode_replay (panel : model.panel = .chords keyset) (calls : List KeyCall) :
    (replay model calls).2.mode =
      ((chordsIn model [] calls).filterMap keyset.switch?).getLast?.getD .commands := by
  induction calls using List.reverseRecOn with
  | nil => rfl
  | append_singleton calls last ih =>
    rw [replay_concat, mode_call panel (recalls_replay panel calls), ih, chordsIn_concat,
      List.nil_append, List.filterMap_append, List.getLast?_append]
    cases interpreted? model (replay model calls).1 (replay model calls).2 last with
    | none => rfl
    | some front => cases switched : keyset.switch? front <;> simp [switched]

example : (replay Model.modular40 [.decode .normal 0x03, .decode .normal 0x1F,
    .decode .normal 0x08, .repeatHeld, .clear]).2.mode = .dots := by decide

end Keyboard

end BrailleDisplay
