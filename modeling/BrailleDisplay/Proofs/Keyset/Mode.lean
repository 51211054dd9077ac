import BrailleDisplay.Proofs.Keyset.BrailleStar
import Mathlib.Tactic.ByContra

/-!
# Commands and the input mode

Each keyset has one chord for each input mode, which switches to it and gives no command. Any other
chord leaves the mode as it is. So a chord that gives a command can be repeated for as long as it is
held, and means the same every time.
-/
namespace BrailleDisplay

def Modular.modeChord : InputMode → FrontKeys
  | .commands => commandsChord
  | .dots => dotsChord

def BrailleStar.modeChord : InputMode → FrontKeys
  | .commands => Modular.b1 ||| Modular.b8 ||| spaceLeft
  | .dots => Modular.b1 ||| Modular.b8 ||| spaceRight

/-- The front keys that switch to a mode. -/
def Keyset.modeChord : Keyset → InputMode → FrontKeys
  | .modular | .brailleWave => Modular.modeChord
  | .brailleStar => BrailleStar.modeChord

/-- The mode that front keys switch to. -/
def Keyset.switch? (keyset : Keyset) (front : FrontKeys) : Option InputMode :=
  if front = keyset.modeChord .commands then some .commands
  else if front = keyset.modeChord .dots then some .dots
  else none

theorem Keyset.switch?_eq_some_iff {keyset : Keyset} {front : FrontKeys} {target : InputMode} :
    keyset.switch? front = some target ↔ front = keyset.modeChord target := by
  have apart : keyset.modeChord .dots ≠ keyset.modeChord .commands := by cases keyset <;> decide
  unfold switch?
  cases target with
  | commands => split_ifs <;> simp [*]
  | dots => split_ifs <;> simp_all [Ne.symm apart]

variable {chord : Chord} {mode target : InputMode} {command : Command}

theorem Modular.mode_of_unswitched
    (other : ∀ target, chord ≠ { front := Modular.modeChord target }) :
    (resolve chord mode).2 = mode := by
  obtain ⟨front, column, status⟩ := chord
  cases column with
  | some column => rfl
  | none =>
    cases status with
    | some index => rfl
    | none =>
      have commands : front ≠ commandsChord := by
        rintro rfl
        exact other .commands rfl
      have dots : front ≠ dotsChord := by
        rintro rfl
        exact other .dots rfl
      change (resolveFront front mode).2 = mode
      rw [resolveFront, if_neg commands, if_neg dots]
      cases mode <;> rfl

/-- Of shared keys, only the chords that switch the mode are read as Modular chords that do. -/
theorem BrailleStar.switches_of_asModular (shared : Shared chord.front)
    (read : asModular chord = { front := Modular.modeChord target }) :
    chord = { front := modeChord target } := by
  obtain ⟨front, column, status⟩ := chord
  simp only [asModular_eq, Chord.mk.injEq] at read
  obtain ⟨same, rfl, rfl⟩ := read
  have known : Shared (modeChord target) ∧
      modularFront (modeChord target) = Modular.modeChord target := by
    cases target <;> decide
  have front := modularFront_inj shared known.1 (same.trans known.2.symm)
  exact congrArg ({ front := · : Chord }) front

theorem BrailleStar.mode_of_unswitched
    (other : ∀ target, chord ≠ { front := modeChord target }) :
    (resolve chord mode).2 = mode := by
  by_cases shared : Shared chord.front
  · rw [resolve_shared shared]
    exact Modular.mode_of_unswitched fun target read =>
      other target (switches_of_asModular shared read)
  · rw [resolve_unshared shared]

namespace Keyset

variable {keyset : Keyset}

/-- A mode chord switches to its mode and gives no command. -/
theorem resolve_modeChord (keyset : Keyset) (target mode : InputMode) :
    keyset.resolve { front := keyset.modeChord target } mode = (none, target) := by
  cases keyset <;> cases target <;> cases mode <;> rfl

/-- Any other chord leaves the mode as it is. -/
theorem mode_of_unswitched (other : ∀ target, chord ≠ { front := keyset.modeChord target }) :
    (keyset.resolve chord mode).2 = mode := by
  cases keyset with
  | modular | brailleWave => exact Modular.mode_of_unswitched other
  | brailleStar => exact BrailleStar.mode_of_unswitched other

/-- Only mode chords change the mode. -/
theorem switches_of_mode (changed : (keyset.resolve chord mode).2 ≠ mode) :
    ∃ target, chord = { front := keyset.modeChord target } ∧
      keyset.resolve chord mode = (none, target) := by
  by_contra none
  refine changed (mode_of_unswitched ?_)
  rintro target rfl
  exact none ⟨target, rfl, resolve_modeChord keyset target mode⟩

/-- A chord that gives a command leaves the input mode as it is. -/
theorem mode_of_resolve (given : (keyset.resolve chord mode).1 = some command) :
    (keyset.resolve chord mode).2 = mode := by
  by_contra changed
  obtain ⟨target, _, switched⟩ := switches_of_mode changed
  rw [switched] at given
  cases given

/-- A chord of front keys switches to its mode, if it has one, and leaves the mode otherwise. -/
theorem mode_of_front (keyset : Keyset) (front : FrontKeys) (mode : InputMode) :
    (keyset.resolve { front } mode).2 = (keyset.switch? front).getD mode := by
  cases switched : keyset.switch? front with
  | some target => rw [switch?_eq_some_iff.mp switched, resolve_modeChord, Option.getD_some]
  | none =>
    refine mode_of_unswitched fun target same => ?_
    have found := switch?_eq_some_iff.mpr (congrArg Chord.front same)
    rw [switched] at found
    cases found

end Keyset

end BrailleDisplay
