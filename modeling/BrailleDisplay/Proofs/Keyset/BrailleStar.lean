import BrailleDisplay.Keyset
import BrailleDisplay.Proofs.Key.Chord
import Mathlib.Data.Bool.AllAny
import Mathlib.Tactic.SplitIfs

/-!
# Chords on the Braille Star

No rocker chord is made of shared keys alone, so a chord of shared keys always means what its
Modular chord means. Any other chord means what the rocker tables say, and they list every position
of the rockers and nothing else.
-/
namespace BrailleDisplay.BrailleStar

/-- Every key held is one that is read as a Modular key. -/
def Shared (front : FrontKeys) : Prop := front &&& ~~~sharedKeys = 0

instance (front : FrontKeys) : Decidable (Shared front) := inferInstanceAs (Decidable (_ = _))

/-- The bit numbers of the shared keys. -/
def sharedBits : List UInt8 :=
  [0x03, 0x07, 0x0B, 0x0F, 0x13, 0x17, 0x1B, 0x1F, 0x10, 0x18]

/-- The bit number of the Modular key that a front key is read as. -/
def modularBit (bit : UInt8) : UInt8 :=
  if bit = 0x10 then 0x04 else if bit = 0x18 then 0x08 else bit

/-- The Modular keys that front keys are read as. -/
def modularFront (front : FrontKeys) : FrontKeys :=
  replaceKey spaceRight Modular.down (replaceKey spaceLeft Modular.up front)

theorem asModular_eq (chord : Chord) :
    asModular chord = { chord with front := modularFront chord.front } := rfl

/-! ## Chords of shared keys -/

theorem lt_of_mem_sharedBits {bit : UInt8} (h : bit ∈ sharedBits) : bit < 32 := by
  have small : ∀ bit ∈ sharedBits, bit < 32 := List.all_iff_forall_prop.mp (by decide)
  exact small bit h

/-- The ends of the Modular rocker are other keys here. -/
theorem rocker_of_mem_sharedBits {bit : UInt8} (h : bit ∈ sharedBits) :
    bit ≠ 0x04 ∧ bit ≠ 0x08 := by
  have apart : ∀ bit ∈ sharedBits, bit ≠ 0x04 ∧ bit ≠ 0x08 :=
    List.all_iff_forall_prop.mp (by decide)
  exact apart bit h

theorem modularBit_lt {bit : UInt8} (h : bit < 32) : modularBit bit < 32 := by
  unfold modularBit
  grind

theorem holds_sharedKeys {bit : UInt8} (h : bit < 32) :
    Holds sharedKeys bit ↔ bit ∈ sharedBits := by
  have keys : sharedKeys = keysOf sharedBits := by decide
  rw [keys, holds_keysOf (fun _ => lt_of_mem_sharedBits) h]

theorem shared_iff {front : FrontKeys} :
    Shared front ↔ ∀ bit < 32, Holds front bit → bit ∈ sharedBits := by
  refine within_iff.trans (forall₃_congr fun bit small _ => ?_)
  exact holds_sharedKeys small

theorem holds_replaceKey {old new bit : UInt8} (hold : old < 32) (hnew : new < 32) (h : bit < 32)
    (ne : new ≠ old) (front : FrontKeys) :
    Holds (replaceKey (frontKey old) (frontKey new) front) bit ↔
      bit ≠ old ∧ (Holds front bit ∨ bit = new ∧ Holds front old) := by
  unfold replaceKey
  split
  · next absent =>
    have absent : ¬ Holds front old := fun held => held absent
    grind
  · next held =>
    have held : Holds front old := held
    rw [holds_press hnew h, holds_release hold h]
    grind

theorem holds_modularFront {bit : UInt8} (h : bit < 32) (front : FrontKeys) :
    Holds (modularFront front) bit ↔ bit ≠ 0x10 ∧ bit ≠ 0x18 ∧
      (Holds front bit ∨ bit = 0x04 ∧ Holds front 0x10 ∨ bit = 0x08 ∧ Holds front 0x18) := by
  have left (other : UInt8) (h : other < 32) :
      Holds (replaceKey spaceLeft Modular.up front) other ↔
        other ≠ 0x10 ∧ (Holds front other ∨ other = 0x04 ∧ Holds front 0x10) :=
    holds_replaceKey (by decide) (by decide) h (by decide) front
  have right : Holds (modularFront front) bit ↔ bit ≠ 0x18 ∧
      (Holds (replaceKey spaceLeft Modular.up front) bit ∨
        bit = 0x08 ∧ Holds (replaceKey spaceLeft Modular.up front) 0x18) :=
    holds_replaceKey (by decide) (by decide) h (by decide) _
  rw [left bit h, left 0x18 (by decide)] at right
  refine right.trans ?_
  grind

theorem modularFront_eq_zero_iff {front : FrontKeys} : modularFront front = 0 ↔ front = 0 := by
  refine ⟨fun empty => ext_holds fun bit small => ?_, by rintro rfl; decide⟩
  refine iff_of_false (fun held => ?_) (not_holds_zero bit)
  have read : Holds (modularFront front) (modularBit bit) := by
    rw [holds_modularFront (modularBit_lt small)]
    unfold modularBit
    grind
  exact not_holds_zero _ (empty ▸ read)

/-- Pressing a shared key presses its Modular key. -/
theorem modularFront_press (front : FrontKeys) {bit : UInt8} (shared : bit ∈ sharedBits) :
    modularFront (front ||| frontKey bit) = modularFront front ||| frontKey (modularBit bit) := by
  have small := lt_of_mem_sharedBits shared
  have apart := rocker_of_mem_sharedBits shared
  refine ext_holds fun other h => ?_
  rw [holds_press (modularBit_lt small) h, holds_modularFront h, holds_modularFront h,
    holds_press small h, holds_press small (by decide), holds_press small (by decide)]
  clear shared small
  unfold modularBit
  grind

/-- Letting a shared key go lets its Modular key go, if no other keys are held. -/
theorem modularFront_release {front : FrontKeys} (shared : Shared front) {bit : UInt8}
    (used : bit ∈ sharedBits) :
    modularFront (front &&& ~~~frontKey bit) =
      modularFront front &&& ~~~frontKey (modularBit bit) := by
  have small := lt_of_mem_sharedBits used
  have apart := rocker_of_mem_sharedBits used
  have up : ¬ Holds front 0x04 := fun held => absurd (shared_iff.mp shared 0x04 (by decide) held)
    (by decide)
  have down : ¬ Holds front 0x08 := fun held => absurd (shared_iff.mp shared 0x08 (by decide) held)
    (by decide)
  refine ext_holds fun other h => ?_
  rw [holds_release (modularBit_lt small) h, holds_modularFront h, holds_modularFront h,
    holds_release small h, holds_release small (by decide), holds_release small (by decide)]
  clear shared used small
  unfold modularBit
  grind

theorem Shared.press {front : FrontKeys} (shared : Shared front) {bit : UInt8}
    (used : bit ∈ sharedBits) : Shared (front ||| frontKey bit) := by
  rw [shared_iff] at shared ⊢
  intro other small held
  rcases (holds_press (lt_of_mem_sharedBits used) small front).mp held with rfl | held
  · exact used
  · exact shared other small held

theorem Shared.release {front : FrontKeys} (shared : Shared front) {bit : UInt8}
    (used : bit ∈ sharedBits) : Shared (front &&& ~~~frontKey bit) := by
  rw [shared_iff] at shared ⊢
  intro other small held
  exact shared other small ((holds_release (lt_of_mem_sharedBits used) small front).mp held).2

/-- Which shared keys are held can be told from the Modular keys that they are read as. -/
theorem Shared.holds_iff {front : FrontKeys} (shared : Shared front) {bit : UInt8}
    (small : bit < 32) :
    Holds front bit ↔ bit ∈ sharedBits ∧ Holds (modularFront front) (modularBit bit) := by
  have used := shared_iff.mp shared
  have up : ¬ Holds front 0x04 := fun held => absurd (used 0x04 (by decide) held) (by decide)
  have down : ¬ Holds front 0x08 := fun held => absurd (used 0x08 (by decide) held) (by decide)
  rw [holds_modularFront (modularBit_lt small)]
  constructor
  · intro held
    have apart := rocker_of_mem_sharedBits (used bit small held)
    refine ⟨used bit small held, ?_⟩
    unfold modularBit
    grind
  · rintro ⟨inside, read⟩
    have apart := rocker_of_mem_sharedBits inside
    unfold modularBit at read
    grind

theorem modularFront_inj {first second : FrontKeys} (shared : Shared first)
    (shared' : Shared second) (same : modularFront first = modularFront second) :
    first = second := by
  refine ext_holds fun bit small => ?_
  rw [shared.holds_iff small, shared'.holds_iff small, same]

/-- No rocker chord is made of shared keys alone. -/
theorem rocker?_shared {chord : Chord} (shared : Shared chord.front) : rocker? chord = none := by
  have unlisted {α : Type} {table : List (FrontKeys × α)}
      (apart : ∀ entry ∈ table, ¬ Shared entry.1) : table.lookup chord.front = none := by
    rw [List.lookup_eq_none_iff]
    intro entry listed
    rw [bne_iff_ne]
    intro same
    exact apart entry listed (same ▸ shared)
  have middle : chord.front ≠ leftMiddle := by
    intro held
    rw [held] at shared
    exact absurd shared (by decide)
  unfold rocker?
  split
  · rw [if_neg middle, unlisted (List.all_iff_forall_prop.mp (by decide)), Option.map_none]
  · rfl
  · exact unlisted (List.all_iff_forall_prop.mp (by decide))

/-- A chord of shared keys means what its Modular chord means. -/
theorem resolve_shared {chord : Chord} (shared : Shared chord.front) (mode : InputMode) :
    resolve chord mode = Modular.resolve (asModular chord) mode := by
  unfold resolve
  rw [rocker?_shared shared]
  exact if_pos shared

/-! ## Other chords -/

/-- Only rocker keys are held, those of one rocker if a routing key is pressed with them, and no
status key is pressed. -/
def Rocks (chord : Chord) : Prop :=
  match chord.column, chord.status with
  | some _, _ => chord.front &&& ~~~leftMiddle = 0 ∨ chord.front &&& ~~~rightMiddle = 0
  | none, some _ => False
  | none, none => chord.front &&& ~~~(leftMiddle ||| rightMiddle) = 0

/-- Of some keys nothing but the chords listed can be held. -/
theorem mem_of_within {bits : List UInt8} (small : ∀ bit ∈ bits, bit < 32)
    {chords : List FrontKeys} (all : ∀ front ∈ subsets bits, front = 0 ∨ front ∈ chords)
    {front : FrontKeys} (held : front ≠ 0) (within : front &&& ~~~keysOf bits = 0) :
    front ∈ chords := by
  have listed : front ∈ subsets bits := mem_subsets small fun bit h kept =>
    (holds_keysOf small h).mp (within_iff.mp within bit h kept)
  exact (all front listed).resolve_left held

theorem rocker?_column {chord : Chord} {column : UInt8} (pressed : chord.column = some column) :
    (rocker? chord).isSome ↔ chord.front ∈ leftMiddle :: routingTable.map Prod.fst := by
  rw [rocker?, pressed, List.mem_cons]
  split_ifs <;> simp [List.lookup_isSome_iff, *]

theorem rocker?_front {chord : Chord} (unpressed : chord.column = none)
    (unpressed' : chord.status = none) :
    (rocker? chord).isSome ↔ chord.front ∈ frontTable.map Prod.fst := by
  simp [rocker?, unpressed, unpressed', List.lookup_isSome_iff]

/-- The rocker tables list every position of the rockers, and nothing else. -/
theorem rocker?_isSome_iff {chord : Chord} (held : chord.front ≠ 0) :
    (rocker? chord).isSome ↔ Rocks chord := by
  have left : leftMiddle = keysOf [0x0C, 0x14] := by decide
  have right : rightMiddle = keysOf [0x04, 0x08] := by decide
  have both : leftMiddle ||| rightMiddle = keysOf [0x0C, 0x14, 0x04, 0x08] := by decide
  unfold Rocks
  split
  · next column _ pressed =>
    have listed : ∀ front ∈ leftMiddle :: routingTable.map Prod.fst,
        front &&& ~~~leftMiddle = 0 ∨ front &&& ~~~rightMiddle = 0 :=
      List.all_iff_forall_prop.mp (by decide)
    rw [rocker?_column pressed]
    refine ⟨listed chord.front, ?_⟩
    rintro (within | within)
    · rw [left] at within
      exact mem_of_within (List.all_iff_forall_prop.mp (by decide))
        (List.all_iff_forall_prop.mp (by decide)) held within
    · rw [right] at within
      exact mem_of_within (List.all_iff_forall_prop.mp (by decide))
        (List.all_iff_forall_prop.mp (by decide)) held within
  · next status unpressed pressed => simp [rocker?, unpressed, pressed]
  · next unpressed unpressed' =>
    have listed : ∀ front ∈ frontTable.map Prod.fst,
        front &&& ~~~(leftMiddle ||| rightMiddle) = 0 := List.all_iff_forall_prop.mp (by decide)
    rw [rocker?_front unpressed unpressed']
    refine ⟨listed chord.front, fun within => ?_⟩
    rw [both] at within
    exact mem_of_within (List.all_iff_forall_prop.mp (by decide))
      (List.all_iff_forall_prop.mp (by decide)) held within

/-- Any other chord is a rocker chord or means nothing, whatever the input mode, which stays. -/
theorem resolve_unshared {chord : Chord} (unshared : ¬ Shared chord.front) (mode : InputMode) :
    resolve chord mode = (rocker? chord, mode) := by
  unfold resolve
  split
  · next command found => rw [found]
  · next unlisted =>
    rw [unlisted]
    exact if_neg unshared

end BrailleDisplay.BrailleStar
