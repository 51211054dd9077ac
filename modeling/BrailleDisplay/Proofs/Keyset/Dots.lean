import BrailleDisplay.Cell
import BrailleDisplay.Keyset
import BrailleDisplay.Proofs.Key.Chord
import Mathlib.Data.Bool.AllAny
import Mathlib.Data.List.Nodup
import Mathlib.Logic.ExistsUnique
import Mathlib.Tactic.SplitIfs

/-!
# Typing dots

In dots mode a chord of the eight keys `b1` to `b8` types the cell with their dots, and the ends of
the rocker add control and alt. Cells and chords determine each other. The two chords that switch
the input mode are taken out of this, so their cell cannot be typed with one modifier alone.
-/
namespace BrailleDisplay

/-! ## The dots of a cell -/

/-- The dot on this bit is raised. -/
def Raises (cell : Cell) (dot : UInt8) : Prop := cell &&& Cell.bit dot ≠ 0

instance (cell : Cell) (dot : UInt8) : Decidable (Raises cell dot) :=
  inferInstanceAs (Decidable (_ ≠ _))

theorem getLsbD_bit {dot : UInt8} (h : dot < 8) (i : Nat) :
    (Cell.bit dot).toBitVec.getLsbD i = decide (i = dot.toNat) := by
  have small : dot.toNat < 8 := UInt8.lt_iff_toNat_lt.mp h
  have bit : (Cell.bit dot).toBitVec = 1#8 <<< (dot.toNat % 8) := by simp [Cell.bit]
  rw [bit, Nat.mod_eq_of_lt small, BitVec.getLsbD_shiftLeft, BitVec.getLsbD_one]
  grind

theorem raises_iff {dot : UInt8} (h : dot < 8) (cell : Cell) :
    Raises cell dot ↔ cell.toBitVec.getLsbD dot.toNat = true := by
  have apart : cell &&& Cell.bit dot = 0 ↔
      ∀ i < 8, (cell.toBitVec.getLsbD i && decide (i = dot.toNat)) = false := by
    rw [← UInt8.toBitVec_inj, UInt8.toBitVec_and, BitVec.eq_of_getLsbD_eq_iff]
    simp [getLsbD_bit h]
  rw [Raises, ne_eq, apart]
  have small : dot.toNat < 8 := UInt8.lt_iff_toNat_lt.mp h
  grind

theorem not_raises_zero (dot : UInt8) : ¬ Raises 0 dot := by
  simp [Raises]

theorem raises_or {dot : UInt8} (h : dot < 8) (first second : Cell) :
    Raises (first ||| second) dot ↔ Raises first dot ∨ Raises second dot := by
  simp only [raises_iff h, UInt8.toBitVec_or, BitVec.getLsbD_or, Bool.or_eq_true]

theorem raises_bit {dot other : UInt8} (h : dot < 8) (h' : other < 8) :
    Raises (Cell.bit dot) other ↔ other = dot := by
  rw [raises_iff h', getLsbD_bit h, decide_eq_true_eq, UInt8.toNat_inj]

theorem bit_inj {dot other : UInt8} (h : dot < 8) (h' : other < 8) :
    Cell.bit dot = Cell.bit other ↔ dot = other := by
  refine ⟨fun same => ?_, congrArg Cell.bit⟩
  have raised : Raises (Cell.bit dot) dot := (raises_bit h h).mpr rfl
  rwa [same, raises_bit h' h] at raised

/-- A cell is known by its dots. -/
theorem ext_raises {first second : Cell}
    (same : ∀ dot < 8, Raises first dot ↔ Raises second dot) : first = second := by
  rw [← UInt8.toBitVec_inj]
  refine BitVec.eq_of_getLsbD_eq fun i small => ?_
  have number : (UInt8.ofNat i).toNat = i := by
    rw [UInt8.toNat_ofNat']
    omega
  have low : UInt8.ofNat i < 8 := by
    rw [UInt8.lt_iff_toNat_lt, number]
    exact small
  have raised := same (UInt8.ofNat i) low
  rw [raises_iff low, raises_iff low, number] at raised
  exact Bool.eq_iff_iff.mpr raised

namespace Modular

/-! ## Keys and dots -/

/-- The bit numbers of each dot key and of the dot that it types. -/
def dotBits : List (UInt8 × UInt8) :=
  [(0x03, 6), (0x07, 2), (0x0B, 1), (0x0F, 0), (0x13, 3), (0x17, 4), (0x1B, 5), (0x1F, 7)]

theorem dotLayout_eq :
    dotLayout = dotBits.map fun place => (frontKey place.1, Cell.bit place.2) := by
  decide

theorem lt_of_mem_dotBits {place : UInt8 × UInt8} (h : place ∈ dotBits) :
    place.1 < 32 ∧ place.2 < 8 := by
  have small : ∀ place ∈ dotBits, place.1 < 32 ∧ place.2 < 8 :=
    List.all_iff_forall_prop.mp (by decide)
  exact small place h

/-- The ends of the rocker are no dot keys. -/
theorem rocker_of_mem_dotBits {place : UInt8 × UInt8} (h : place ∈ dotBits) :
    place.1 ≠ 0x04 ∧ place.1 ≠ 0x08 := by
  have apart : ∀ place ∈ dotBits, place.1 ≠ 0x04 ∧ place.1 ≠ 0x08 :=
    List.all_iff_forall_prop.mp (by decide)
  exact apart place h

theorem mem_dotLayout {key : FrontKeys} {dot : UInt8} (h : dot < 8) :
    (key, Cell.bit dot) ∈ dotLayout ↔ ∃ bit, (bit, dot) ∈ dotBits ∧ key = frontKey bit := by
  rw [dotLayout_eq, List.mem_map]
  constructor
  · rintro ⟨⟨bit, other⟩, listed, same⟩
    rw [Prod.mk.injEq, bit_inj (lt_of_mem_dotBits listed).2 h] at same
    obtain ⟨rfl, rfl⟩ := same
    exact ⟨bit, listed, rfl⟩
  · rintro ⟨bit, listed, rfl⟩
    exact ⟨(bit, dot), listed, rfl⟩

/-- Each key types one dot, and each dot has one key. -/
theorem dotBits_unique {first second : UInt8 × UInt8} (h : first ∈ dotBits)
    (h' : second ∈ dotBits) : first.1 = second.1 ↔ first.2 = second.2 := by
  have keys : (dotBits.map Prod.fst).Nodup := by decide
  have dots : (dotBits.map Prod.snd).Nodup := by decide
  constructor
  · intro same
    rw [List.inj_on_of_nodup_map keys h h' same]
  · intro same
    rw [List.inj_on_of_nodup_map dots h h' same]

theorem exists_dotBit {dot : UInt8} (h : dot < 8) : ∃ key, (key, dot) ∈ dotBits := by
  have every : ∀ number < 8, ∃ place ∈ dotBits, place.2.toNat = number := by decide
  obtain ⟨⟨key, other⟩, listed, same⟩ := every dot.toNat (UInt8.lt_iff_toNat_lt.mp h)
  exact ⟨key, UInt8.toNat_inj.mp same ▸ listed⟩

theorem holds_dotKeys {bit : UInt8} (h : bit < 32) :
    Holds dotKeys bit ↔ ∃ dot, (bit, dot) ∈ dotBits := by
  have keys : dotKeys = keysOf (dotBits.map Prod.fst) := by decide
  have small : ∀ bit ∈ dotBits.map Prod.fst, bit < 32 :=
    List.forall_mem_map.mpr fun place listed => (lt_of_mem_dotBits listed).1
  rw [keys, holds_keysOf small h]
  simp

theorem raises_foldl {front : FrontKeys} {places : List (UInt8 × UInt8)}
    (small : ∀ place ∈ places, place.2 < 8) {dot : UInt8} (h : dot < 8) (before : Cell) :
    Raises ((places.map fun place => (frontKey place.1, Cell.bit place.2)).foldl
        (fun dots key => if front &&& key.1 = 0 then dots else dots ||| key.2) before) dot ↔
      Raises before dot ∨ ∃ bit, (bit, dot) ∈ places ∧ Holds front bit := by
  induction places generalizing before with
  | nil => simp
  | cons place places ih =>
    obtain ⟨first, small⟩ := List.forall_mem_cons.mp small
    rw [List.map_cons, List.foldl_cons, ih small]
    split_ifs with absent
    · have absent : ¬ Holds front place.1 := fun held => held absent
      grind
    · have held : Holds front place.1 := absent
      rw [raises_or h, raises_bit first h]
      grind

/-- A dot is raised exactly if its key is held. -/
theorem raises_dotsOf {front : FrontKeys} {dot : UInt8} (h : dot < 8) :
    Raises (dotsOf front) dot ↔ ∃ bit, (bit, dot) ∈ dotBits ∧ Holds front bit := by
  rw [dotsOf, dotLayout_eq, raises_foldl (fun _ listed => (lt_of_mem_dotBits listed).2) h]
  simp [not_raises_zero]

/-- The chord that types a cell with modifiers. -/
def chordOf (dots : Cell) (control alt : Bool) : FrontKeys :=
  keysOf ((dotBits.filter fun place => Raises dots place.2).map Prod.fst ++
    (if control then [0x04] else []) ++ if alt then [0x08] else [])

section

variable {dots : Cell} {control alt : Bool}

theorem holds_chordOf {bit : UInt8} (h : bit < 32) :
    Holds (chordOf dots control alt) bit ↔ (∃ dot, (bit, dot) ∈ dotBits ∧ Raises dots dot) ∨
      bit = 0x04 ∧ control = true ∨ bit = 0x08 ∧ alt = true := by
  have listed : bit ∈ (dotBits.filter fun place => Raises dots place.2).map Prod.fst ++
        (if control then [0x04] else []) ++ (if alt then [0x08] else []) ↔
      (∃ dot, (bit, dot) ∈ dotBits ∧ Raises dots dot) ∨
        bit = 0x04 ∧ control = true ∨ bit = 0x08 ∧ alt = true := by
    cases control <;> cases alt <;> simp
  rw [chordOf, holds_keysOf ?_ h, listed]
  intro other listed
  have key : ∀ place ∈ dotBits, place.1 < 32 := fun place listed => (lt_of_mem_dotBits listed).1
  simp only [List.mem_append, List.mem_map, List.mem_filter] at listed
  rcases listed with (⟨place, ⟨listed, _⟩, rfl⟩ | control) | alt
  · exact key place listed
  · split_ifs at control with held
    · rw [List.mem_singleton.mp control]; decide
    · cases control
  · split_ifs at alt with held
    · rw [List.mem_singleton.mp alt]; decide
    · cases alt

/-- A chord types the cell that it is the chord of. -/
theorem dotsOf_chordOf : dotsOf (chordOf dots control alt) = dots := by
  refine ext_raises fun dot h => ?_
  rw [raises_dotsOf h]
  constructor
  · rintro ⟨bit, listed, held⟩
    obtain ⟨other, listed', raised⟩ | ⟨rfl, _⟩ | ⟨rfl, _⟩ :=
      (holds_chordOf (lt_of_mem_dotBits listed).1).mp held
    · have same : dot = other := (dotBits_unique listed listed').mp rfl
      exact same ▸ raised
    · exact absurd rfl (rocker_of_mem_dotBits listed).1
    · exact absurd rfl (rocker_of_mem_dotBits listed).2
  · intro raised
    obtain ⟨bit, listed⟩ := exists_dotBit h
    refine ⟨bit, listed, ?_⟩
    exact (holds_chordOf (lt_of_mem_dotBits listed).1).mpr (.inl ⟨dot, listed, raised⟩)

theorem up_chordOf : (chordOf dots control alt &&& up != 0) = control := by
  have held : Holds (chordOf dots control alt) 0x04 ↔ _ := holds_chordOf (by decide)
  rw [Bool.eq_iff_iff, bne_iff_ne]
  refine held.trans ⟨?_, fun on => .inr (.inl ⟨rfl, on⟩)⟩
  rintro (⟨dot, listed, _⟩ | ⟨_, on⟩ | ⟨other, _⟩)
  · exact absurd rfl (rocker_of_mem_dotBits listed).1
  · exact on
  · exact absurd other (by decide)

theorem down_chordOf : (chordOf dots control alt &&& down != 0) = alt := by
  have held : Holds (chordOf dots control alt) 0x08 ↔ _ := holds_chordOf (by decide)
  rw [Bool.eq_iff_iff, bne_iff_ne]
  refine held.trans ⟨?_, fun on => .inr (.inr ⟨rfl, on⟩)⟩
  rintro (⟨dot, listed, _⟩ | ⟨other, _⟩ | ⟨_, on⟩)
  · exact absurd rfl (rocker_of_mem_dotBits listed).2
  · exact absurd other (by decide)
  · exact on

theorem chordOf_inj {dots' : Cell} {control' alt' : Bool} :
    chordOf dots control alt = chordOf dots' control' alt' ↔
      dots = dots' ∧ control = control' ∧ alt = alt' := by
  refine ⟨fun same => ⟨?_, ?_, ?_⟩, by rintro ⟨rfl, rfl, rfl⟩; rfl⟩
  · simpa only [dotsOf_chordOf] using congrArg dotsOf same
  · simpa only [up_chordOf] using congrArg (· &&& up != 0) same
  · simpa only [down_chordOf] using congrArg (· &&& down != 0) same

end

theorem holds_typingKeys {bit : UInt8} (h : bit < 32) :
    Holds (dotKeys ||| up ||| down) bit ↔
      (∃ dot, (bit, dot) ∈ dotBits) ∨ bit = 0x04 ∨ bit = 0x08 := by
  have upper : Holds up bit ↔ bit = 0x04 := holds_frontKey (by decide) h
  have lower : Holds down bit ↔ bit = 0x08 := holds_frontKey (by decide) h
  rw [holds_or h, holds_or h, holds_dotKeys h, upper, lower, or_assoc]

/-- Of dot keys and rocker ends, a chord is the one of the cell that it types. -/
theorem chordOf_dotsOf {front : FrontKeys}
    (within : front &&& ~~~(dotKeys ||| up ||| down) = 0) :
    chordOf (dotsOf front) (front &&& up != 0) (front &&& down != 0) = front := by
  refine ext_holds fun bit h => ?_
  have upper : (front &&& up != 0) = true ↔ Holds front 0x04 := bne_iff_ne
  have lower : (front &&& down != 0) = true ↔ Holds front 0x08 := bne_iff_ne
  rw [holds_chordOf h, upper, lower]
  constructor
  · rintro (⟨dot, listed, raised⟩ | ⟨rfl, held⟩ | ⟨rfl, held⟩)
    · obtain ⟨other, listed', held⟩ :=
        (raises_dotsOf (lt_of_mem_dotBits listed).2).mp raised
      have same : bit = other := (dotBits_unique listed listed').mpr rfl
      exact same ▸ held
    · exact held
    · exact held
  · intro held
    rcases (holds_typingKeys h).mp (within_iff.mp within bit h held) with ⟨dot, listed⟩ | rfl | rfl
    · exact .inl ⟨dot, listed, (raises_dotsOf (lt_of_mem_dotBits listed).2).mpr ⟨bit, listed, held⟩⟩
    · exact .inr (.inl ⟨rfl, held⟩)
    · exact .inr (.inr ⟨rfl, held⟩)

/-- Some dot key is held, and no other keys are but the ends of the rocker. -/
def Types (front : FrontKeys) : Prop :=
  front &&& dotKeys ≠ 0 ∧ front &&& ~~~(dotKeys ||| up ||| down) = 0

instance (front : FrontKeys) : Decidable (Types front) := inferInstanceAs (Decidable (_ ∧ _))

theorem dotsOf_ne_zero {front : FrontKeys} (held : front &&& dotKeys ≠ 0) : dotsOf front ≠ 0 := by
  obtain ⟨bit, h, held, used⟩ := meets_iff.mp held
  obtain ⟨dot, listed⟩ := (holds_dotKeys h).mp used
  intro blank
  refine not_raises_zero dot ?_
  rw [← blank, raises_dotsOf (lt_of_mem_dotBits listed).2]
  exact ⟨bit, listed, held⟩

theorem types_chordOf {dots : Cell} (raised : dots ≠ 0) (control alt : Bool) :
    Types (chordOf dots control alt) := by
  constructor
  · obtain ⟨dot, h, shown⟩ : ∃ dot < 8, Raises dots dot := by
      refine Classical.byContradiction fun none => raised (ext_raises fun dot h => ?_)
      exact iff_of_false (fun shown => none ⟨dot, h, shown⟩) (not_raises_zero dot)
    obtain ⟨bit, listed⟩ := exists_dotBit h
    have small := (lt_of_mem_dotBits listed).1
    exact meets_iff.mpr ⟨bit, small, (holds_chordOf small).mpr (.inl ⟨dot, listed, shown⟩),
      (holds_dotKeys small).mpr ⟨dot, listed⟩⟩
  · refine within_iff.mpr fun bit h held => (holds_typingKeys h).mpr ?_
    rcases (holds_chordOf h).mp held with ⟨dot, listed, _⟩ | ⟨same, _⟩ | ⟨same, _⟩
    · exact .inl ⟨dot, listed⟩
    · exact .inr (.inl same)
    · exact .inr (.inr same)

/-- Cells that are not blank are typed by the chords that are theirs. -/
theorem typed?_eq_typeDots {front : FrontKeys} {dots : Cell} (raised : dots ≠ 0)
    {control alt : Bool} :
    typed? front = some (.typeDots dots control alt) ↔ front = chordOf dots control alt := by
  constructor
  · intro typed
    unfold typed? at typed
    split_ifs at typed with types upper lower
    · cases typed
      exact (chordOf_dotsOf types.2).symm
    · cases typed
      exact absurd rfl raised
    · cases typed
  · rintro rfl
    obtain ⟨held, within⟩ := types_chordOf raised control alt
    rw [typed?, if_pos ⟨held, within⟩, dotsOf_chordOf, up_chordOf, down_chordOf]

/-! ## Chords in dots mode -/

theorem resolve_dots_eq_typeDots {front : FrontKeys} {dots : Cell} {control alt : Bool} :
    (resolve { front } .dots).1 = some (.typeDots dots control alt) ↔
      front ≠ commandsChord ∧ front ≠ dotsChord ∧
        typed? front = some (.typeDots dots control alt) := by
  have resolved : resolve { front } .dots = resolveFront front .dots := rfl
  rw [resolved, resolveFront]
  split_ifs with ends starts
  · simp [ends]
  · simp [starts]
  · cases typed : typed? front <;> simp [ends, starts]

/-- The cell of the chords that switch the input mode is typed with both modifiers or none. -/
def Untypable (dots : Cell) (control alt : Bool) : Prop := dots = 0xC0 ∧ control ≠ alt

instance (dots : Cell) (control alt : Bool) : Decidable (Untypable dots control alt) :=
  inferInstanceAs (Decidable (_ ∧ _))

theorem untypable_iff {dots : Cell} {control alt : Bool} :
    Untypable dots control alt ↔
      chordOf dots control alt = commandsChord ∨ chordOf dots control alt = dotsChord := by
  have ends : commandsChord = chordOf 0xC0 true false := by decide
  have starts : dotsChord = chordOf 0xC0 false true := by decide
  rw [ends, starts, chordOf_inj, chordOf_inj, Untypable]
  cases control <;> cases alt <;> simp

theorem resolve_dots_iff {front : FrontKeys} {dots : Cell} (raised : dots ≠ 0)
    {control alt : Bool} :
    (resolve { front } .dots).1 = some (.typeDots dots control alt) ↔
      front = chordOf dots control alt ∧ ¬ Untypable dots control alt := by
  rw [resolve_dots_eq_typeDots, typed?_eq_typeDots raised, untypable_iff, not_or]
  constructor
  · rintro ⟨ends, starts, rfl⟩
    exact ⟨rfl, ends, starts⟩
  · rintro ⟨rfl, ends, starts⟩
    exact ⟨ends, starts, rfl⟩

/-! ## Chords in commands mode -/

theorem resolve_commands_ne_typeDots (chord : Chord) (dots : Cell) (control alt : Bool) :
    (resolve chord .commands).1 ≠ some (.typeDots dots control alt) := by
  unfold resolve
  split
  · simp
  · simp
  · rw [resolveFront]
    split_ifs
    · exact nofun
    · exact nofun
    · simp

end Modular

theorem BrailleStar.rocker?_ne_typeDots (chord : Chord) (dots : Cell) (control alt : Bool) :
    rocker? chord ≠ some (.typeDots dots control alt) := by
  have listed : ∀ command ∈ frontTable.map Prod.snd, command ≠ .typeDots dots control alt := by
    simp [frontTable]
  unfold rocker?
  split
  · split_ifs <;> simp
  · exact nofun
  · intro found
    obtain ⟨before, after, table, _⟩ := List.lookup_eq_some_iff.mp found
    exact listed _ (by simp [table]) rfl

/-- In commands mode no chord types dots, whatever the keyset. -/
theorem Keyset.resolve_commands_ne_typeDots (keyset : Keyset) (chord : Chord) (dots : Cell)
    (control alt : Bool) :
    (keyset.resolve chord .commands).1 ≠ some (.typeDots dots control alt) := by
  cases keyset with
  | modular | brailleWave => exact Modular.resolve_commands_ne_typeDots chord dots control alt
  | brailleStar =>
    have rocker := BrailleStar.rocker?_ne_typeDots chord dots control alt
    simp only [resolve, BrailleStar.resolve]
    split
    · next command found => rwa [found] at rocker
    · split_ifs
      · exact Modular.resolve_commands_ne_typeDots _ dots control alt
      · exact nofun

/-- Typing dots is exact and can be undone. In dots mode a chord types dots exactly if it is made of
dot keys and rocker ends, with one dot key at least, and does not switch the mode. The dots are
those of the dot keys held, and the modifiers are the ends of the rocker held. Other chords type
other dots or modifiers, and every cell that is not blank has one chord for each choice of
modifiers, but for the cell of the chords that switch the mode. In commands mode nothing types
dots. -/
theorem Modular.dots_are_typed_exactly :
    (∀ front, (∃ dots control alt, dots ≠ 0 ∧
        (resolve { front } .dots).1 = some (.typeDots dots control alt)) ↔
      Types front ∧ front ≠ commandsChord ∧ front ≠ dotsChord) ∧
    (∀ front dots control alt, dots ≠ 0 →
      (resolve { front } .dots).1 = some (.typeDots dots control alt) →
      (∀ dot < 8, Raises dots dot ↔ ∃ key, (key, Cell.bit dot) ∈ dotLayout ∧ front &&& key ≠ 0) ∧
        (control = true ↔ front &&& up ≠ 0) ∧ (alt = true ↔ front &&& down ≠ 0)) ∧
    (∀ first second dots control alt, dots ≠ 0 →
      (resolve { front := first } .dots).1 = some (.typeDots dots control alt) →
      (resolve { front := second } .dots).1 = some (.typeDots dots control alt) →
      first = second) ∧
    (∀ dots control alt, dots ≠ 0 →
      if dots = 0xC0 ∧ control ≠ alt then
        ∀ front, (resolve { front } .dots).1 ≠ some (.typeDots dots control alt)
      else ∃! front, (resolve { front } .dots).1 = some (.typeDots dots control alt)) ∧
    ∀ (keyset : Keyset) chord dots control alt,
      (keyset.resolve chord .commands).1 ≠ some (.typeDots dots control alt) := by
  refine ⟨?_, ?_, ?_, ?_, Keyset.resolve_commands_ne_typeDots⟩
  · intro front
    constructor
    · rintro ⟨dots, control, alt, raised, typed⟩
      obtain ⟨ends, starts, typed⟩ := resolve_dots_eq_typeDots.mp typed
      rw [(typed?_eq_typeDots raised).mp typed] at ends starts ⊢
      exact ⟨types_chordOf raised control alt, ends, starts⟩
    · rintro ⟨⟨held, within⟩, ends, starts⟩
      refine ⟨dotsOf front, front &&& up != 0, front &&& down != 0, dotsOf_ne_zero held, ?_⟩
      refine resolve_dots_eq_typeDots.mpr ⟨ends, starts, ?_⟩
      exact (typed?_eq_typeDots (dotsOf_ne_zero held)).mpr (chordOf_dotsOf within).symm
  · intro front dots control alt raised typed
    obtain ⟨rfl, _⟩ := (resolve_dots_iff raised).mp typed
    refine ⟨fun dot h => ?_, ?_, ?_⟩
    · have keys : Raises (dotsOf (chordOf dots control alt)) dot ↔ _ := raises_dotsOf h
      rw [dotsOf_chordOf] at keys
      rw [keys]
      simp only [mem_dotLayout h]
      constructor
      · rintro ⟨bit, listed, held⟩
        exact ⟨frontKey bit, ⟨bit, listed, rfl⟩, held⟩
      · rintro ⟨_, ⟨bit, listed, rfl⟩, held⟩
        exact ⟨bit, listed, held⟩
    · rw [← bne_iff_ne, up_chordOf]
    · rw [← bne_iff_ne, down_chordOf]
  · intro first second dots control alt raised typed typed'
    exact ((resolve_dots_iff raised).mp typed).1.trans ((resolve_dots_iff raised).mp typed').1.symm
  · intro dots control alt raised
    split_ifs with untypable
    · intro front typed
      exact ((resolve_dots_iff raised).mp typed).2 untypable
    · refine ⟨chordOf dots control alt, (resolve_dots_iff raised).mpr ⟨rfl, untypable⟩, ?_⟩
      intro front typed
      exact ((resolve_dots_iff raised).mp typed).1

end BrailleDisplay
