import BrailleDisplay.Proofs.Key.Event
import BrailleDisplay.Proofs.Keyboard.History
import BrailleDisplay.Proofs.Keyset.BrailleStar

/-!
# The Braille Star as a Modular display

As long as only shared front keys are used, a Braille Star answers every call on its keyboard as a
Modular display does whose rocker is moved in place of the space bars. `asModular` gives the byte,
the call and the keyboard that stand for one of the Braille Star; each kind of call commutes with
it.
-/
namespace BrailleDisplay

open BrailleStar

/-- What a call on a keyboard answers. -/
inductive KeyAnswer where
  | decoded (keystroke : Keystroke)
  | repeated (command : Option Command)
  | cleared
  deriving Repr, DecidableEq

/-- What is seen of a keyboard after a call. -/
structure KeyView where
  answer : KeyAnswer
  mode : InputMode
  front : FrontKeys
  deriving Repr, DecidableEq

namespace Keyboard

/-- Makes a call. -/
def respond (model : Model) (keyboard : Keyboard) : KeyCall → KeyAnswer × Keyboard
  | .decode context byte =>
    let (keystroke, keyboard) := keyboard.decode model context byte
    (.decoded keystroke, keyboard)
  | .repeatHeld =>
    let (command, keyboard) := keyboard.repeatHeld model
    (.repeated command, keyboard)
  | .clear => (.cleared, keyboard.clear)

/-- What is seen of a keyboard, call by call. -/
def views (model : Model) (keyboard : Keyboard) : List KeyCall → List KeyView
  | [] => []
  | call :: calls =>
    let (answer, next) := keyboard.respond model call
    ⟨answer, next.mode, next.held.front⟩ :: next.views model calls

end Keyboard

/-! ## What stands for what -/

/-- The byte that a Modular display sends in place of one of the Braille Star. -/
def modularByte (byte : UInt8) : UInt8 :=
  if byte = 0x10 then 0x04
  else if byte = 0x90 then 0x84
  else if byte = 0x18 then 0x08
  else if byte = 0x98 then 0x88
  else byte

def KeyCall.asModular : KeyCall → KeyCall
  | .decode context byte => .decode context (modularByte byte)
  | call => call

/-- The front key that a call reports. -/
def KeyCall.front? (geometry : Geometry) : KeyCall → Option UInt8
  | .decode _ byte =>
    match KeyEvent.ofByte? geometry byte with
    | some ⟨.front bit, _⟩ => some bit
    | _ => none
  | _ => none

def KeyEvent.asModular : KeyEvent → KeyEvent
  | ⟨.front bit, released⟩ => ⟨.front (modularBit bit), released⟩
  | event => event

def KeyView.asModular (view : KeyView) : KeyView :=
  { view with front := modularFront view.front }

namespace Keyboard

def asModular (keyboard : Keyboard) : Keyboard :=
  { keyboard with
    held := BrailleStar.asModular keyboard.held
    pending := keyboard.pending.map modularFront }

/-- No front key but shared ones is held or waits to be interpreted. -/
structure OnShared (keyboard : Keyboard) : Prop where
  held : Shared keyboard.held.front
  pending (front : FrontKeys) : front ∈ keyboard.pending → Shared front

end Keyboard

/-! ## Bytes -/

theorem ofByte?_modularByte (geometry : Geometry) (byte : UInt8) :
    KeyEvent.ofByte? geometry (modularByte byte) =
      (KeyEvent.ofByte? geometry byte).map KeyEvent.asModular := by
  unfold modularByte
  split_ifs with left left' right right'
  · subst left; rfl
  · subst left'; rfl
  · subst right; rfl
  · subst right'; rfl
  · -- No other byte reports a space bar.
    cases found : KeyEvent.ofByte? geometry byte with
    | none => rfl
    | some event =>
      match event with
      | ⟨.routing column, released⟩ | ⟨.status index, released⟩ => rfl
      | ⟨.front bit, released⟩ =>
        have bound := byte.toNat_lt
        have apart : bit ≠ 0x10 ∧ bit ≠ 0x18 := by
          rw [(KeyEvent.code_of_ofByte? found).1]
          simp only [← UInt8.toNat_inj, KeyEvent.toNat_and_not_releaseBit, UInt8.reduceToNat,
            ne_eq] at left left' right right' ⊢
          omega
        simp [KeyEvent.asModular, modularBit, apart]

namespace Keyboard

/-! ## Events -/

section

variable {keyset : Keyset} (reads : keyset.resolve = Modular.resolve) {keyboard : Keyboard}

theorem OnShared.endPress (h : keyboard.OnShared) : keyboard.endPress.OnShared :=
  ⟨h.held, h.pending⟩

theorem clear_asModular (keyboard : Keyboard) :
    keyboard.asModular.clear = keyboard.clear.asModular := by
  have empty : modularFront 0 = 0 := by decide
  simp [clear, asModular, asModular_eq, empty]

theorem onShared_clear (keyboard : Keyboard) : keyboard.clear.OnShared := by
  have empty : Shared 0 := by decide
  exact ⟨empty, nofun⟩

theorem pressFront_asModular {bit : UInt8} (used : bit ∈ sharedBits) :
    keyboard.asModular.pressFront (modularBit bit) =
      (keyboard.pressFront bit).map id asModular := by
  have front := modularFront_press keyboard.held.front used
  simp [pressFront, asModular, asModular_eq, front]

include reads

theorem resolve_asModular (chord : Chord) (shared : Shared chord.front) (mode : InputMode) :
    keyset.resolve (BrailleStar.asModular chord) mode =
      Keyset.brailleStar.resolve chord mode := by
  rw [reads]
  exact (resolve_shared shared mode).symm

theorem releaseFront_asModular (h : keyboard.OnShared) {bit : UInt8} (used : bit ∈ sharedBits) :
    keyboard.asModular.releaseFront keyset (modularBit bit) =
      (keyboard.releaseFront .brailleStar bit).map id asModular := by
  have front := modularFront_release h.held used
  cases pending : keyboard.pending with
  | none => simp [releaseFront, asModular, asModular_eq, pending, front]
  | some chord =>
    have answer := resolve_asModular reads { front := chord } (h.pending chord pending)
      keyboard.mode
    rw [asModular_eq] at answer
    simp [releaseFront, asModular, asModular_eq, pending, front, answer]

theorem pressCell_asModular (chord : Chord) (shared : Shared chord.front) :
    keyboard.asModular.pressCell keyset (BrailleStar.asModular chord) =
      (keyboard.pressCell .brailleStar chord).map id asModular := by
  have answer := resolve_asModular reads chord shared keyboard.mode
  simp [pressCell, asModular, answer]

/-- The front key that an event reports is a shared one. -/
theorem event_asModular (h : keyboard.OnShared) {event : KeyEvent}
    (used : ∀ bit, event.key = .front bit → bit ∈ sharedBits) :
    Keyboard.event keyset keyboard.asModular event.asModular =
      (Keyboard.event .brailleStar keyboard event).map id asModular ∧
    (Keyboard.event .brailleStar keyboard event).2.OnShared := by
  match event with
  | ⟨.front bit, false⟩ =>
    have shared := h.held.press (used bit rfl)
    refine ⟨pressFront_asModular (used bit rfl), shared, ?_⟩
    intro front same
    cases same
    exact shared
  | ⟨.front bit, true⟩ =>
    have held := keyboard.held_releaseFront .brailleStar bit
    have pending := keyboard.pending_releaseFront .brailleStar bit
    exact ⟨releaseFront_asModular reads h (used bit rfl),
      held ▸ h.held.release (used bit rfl), pending ▸ nofun⟩
  | ⟨.routing column, false⟩ =>
    exact ⟨pressCell_asModular reads { front := keyboard.held.front, column := some column } h.held,
      h.held, nofun⟩
  | ⟨.status index, false⟩ =>
    exact ⟨pressCell_asModular reads { front := keyboard.held.front, status := some index } h.held,
      h.held, nofun⟩
  | ⟨.routing column, true⟩ | ⟨.status index, true⟩ => exact ⟨rfl, h⟩

/-! ## Calls -/

variable {star plain : Model} (panel : star.panel = .chords .brailleStar)
  (panel' : plain.panel = .chords keyset)
include panel panel'

theorem repeatHeld_asModular (h : keyboard.OnShared) :
    keyboard.asModular.repeatHeld plain = (keyboard.repeatHeld star).map id asModular ∧
      (keyboard.repeatHeld star).2.OnShared := by
  have only : keyboard.asModular.held.isFrontOnly = keyboard.held.isFrontOnly := by
    have empty : (modularFront keyboard.held.front != 0) = (keyboard.held.front != 0) := by
      rw [Bool.eq_iff_iff, bne_iff_ne, bne_iff_ne, ne_eq, modularFront_eq_zero_iff]
    simp [asModular, asModular_eq, Chord.isFrontOnly, empty]
  have answer : keyset.resolve keyboard.asModular.held keyboard.asModular.mode =
      Keyset.brailleStar.resolve keyboard.held keyboard.mode :=
    resolve_asModular reads keyboard.held h.held keyboard.mode
  unfold repeatHeld Model.keyset?
  rw [panel, panel', only]
  dsimp only
  rw [answer]
  cases keyboard.held.isFrontOnly with
  | false => exact ⟨rfl, h⟩
  | true =>
    simp only [if_true]
    cases (Keyset.brailleStar.resolve keyboard.held keyboard.mode).1 with
    | none => exact ⟨rfl, h.held, h.pending⟩
    | some command => exact ⟨rfl, h.held, nofun⟩

theorem respond_asModular (geometry : plain.geometry = star.geometry) (h : keyboard.OnShared)
    {call : KeyCall} (used : ∀ bit ∈ call.front? star.geometry, bit ∈ sharedBits) :
    keyboard.asModular.respond plain call.asModular =
      (keyboard.respond star call).map id asModular ∧ (keyboard.respond star call).2.OnShared := by
  cases call with
  | clear => exact ⟨congrArg _ (clear_asModular keyboard), onShared_clear keyboard⟩
  | repeatHeld =>
    obtain ⟨same, shared⟩ := repeatHeld_asModular reads panel panel' h
    refine ⟨?_, shared⟩
    simp only [KeyCall.asModular, respond, same]
    rfl
  | decode context byte =>
    have same : keyboard.asModular.decode plain context (modularByte byte) =
        (keyboard.decode star context byte).map id asModular ∧
          (keyboard.decode star context byte).2.OnShared := by
      simp only [decode, panel, panel', decodeChord, geometry, ofByte?_modularByte]
      cases found : KeyEvent.ofByte? star.geometry byte with
      | none => exact ⟨rfl, h.endPress⟩
      | some event =>
        refine event_asModular reads h.endPress fun bit front => used bit ?_
        obtain ⟨key, released⟩ := event
        cases front
        simp [KeyCall.front?, found]
    refine ⟨?_, same.2⟩
    simp only [KeyCall.asModular, respond, same.1]
    rfl

/-- What is seen of the Braille Star's keyboard is what is seen of the Modular display's. -/
theorem views_asModular (geometry : plain.geometry = star.geometry) (h : keyboard.OnShared)
    {calls : List KeyCall}
    (used : ∀ call ∈ calls, ∀ bit ∈ call.front? star.geometry, bit ∈ sharedBits) :
    keyboard.asModular.views plain (calls.map KeyCall.asModular) =
      (keyboard.views star calls).map KeyView.asModular := by
  induction calls generalizing keyboard with
  | nil => rfl
  | cons call calls ih =>
    obtain ⟨first, used⟩ := List.forall_mem_cons.mp used
    obtain ⟨same, shared⟩ := respond_asModular reads panel panel' geometry h first
    simp only [List.map_cons, views, same, Prod.map_fst, Prod.map_snd, id, ih shared used]
    rfl

end

/-- The Braille Star's keyset simulates the Modular one. A Braille Star and a display with the keys
of a Modular one have as many cells. On new keyboards, any calls that use no front key but shared
ones are answered alike on both, and after each of them the input modes agree and the front keys
held are those that stand for one another. A chord with any other front key does not change the
input mode and means the same in both modes: it gives a command exactly if it is a position of the
rockers. -/
theorem star_simulates_modular {star plain : Model} (panel : star.panel = .chords .brailleStar)
    (panel' : plain.panel = .chords .modular ∨ plain.panel = .chords .brailleWave)
    (columns : plain.columns = star.columns) (statusCells : plain.statusCells = star.statusCells) :
    (∀ calls : List KeyCall,
      (∀ call ∈ calls, ∀ bit ∈ call.front? star.geometry, bit ∈ sharedBits) →
        views plain {} (calls.map KeyCall.asModular) =
          (views star {} calls).map KeyView.asModular) ∧
    ∀ chord : Chord, ¬ Shared chord.front →
      (∀ mode, BrailleStar.resolve chord mode = (rocker? chord, mode)) ∧
        ((rocker? chord).isSome ↔ Rocks chord) := by
  have geometry : plain.geometry = star.geometry := by
    rw [Model.geometry, Model.geometry, columns, statusCells]
  have new : ({} : Keyboard) = Keyboard.asModular {} := by decide
  have shared : OnShared {} := onShared_clear {}
  constructor
  · intro calls used
    rcases panel' with panel' | panel'
    · exact new ▸ views_asModular rfl panel panel' geometry shared used
    · exact new ▸ views_asModular rfl panel panel' geometry shared used
  · intro chord unshared
    refine ⟨resolve_unshared unshared, rocker?_isSome_iff ?_⟩
    intro empty
    exact unshared (by rw [empty]; decide)

/-- Holding `b1`, `b8` and the right space bar starts dots mode on the Braille Star, as `b1`, `b8`
and `down` do on the Braille Wave, and a dot is typed. A rocker with `b1` gives nothing. -/
theorem star_simulates_modular_dots :
    let calls : List KeyCall :=
      [0x03, 0x1F, 0x18, 0x98, 0x83, 0x9F, 0x0F, 0x8F].map (KeyCall.decode .normal)
    views Model.brailleWave {} (calls.map KeyCall.asModular) =
      (views Model.brailleStar40 {} calls).map KeyView.asModular ∧
    ((views Model.brailleStar40 {} calls).getLast?.map KeyView.answer =
      some (.decoded (.command (.typeDots 1 false false)))) ∧
    (BrailleStar.resolve { front := leftTop ||| Modular.b1 } .dots).1 = none := by
  intro calls
  have panel : Model.brailleStar40.panel = .chords .brailleStar := rfl
  have panel' : Model.brailleWave.panel = .chords .brailleWave := rfl
  have simulates := star_simulates_modular panel (.inr panel') rfl rfl
  have used : ∀ call ∈ calls,
      (call.front? Model.brailleStar40.geometry).all (· ∈ sharedBits) = true :=
    List.all_iff_forall_prop.mp (by decide)
  have simulated := simulates.1 calls fun call made bit reported =>
    of_decide_eq_true ((Option.all_eq_true _ _).mp (used call made) bit reported)
  refine ⟨simulated, by decide, ?_⟩
  have apart := simulates.2 { front := leftTop ||| Modular.b1 } (by decide)
  rw [apart.1 .dots]
  decide

end Keyboard

end BrailleDisplay
