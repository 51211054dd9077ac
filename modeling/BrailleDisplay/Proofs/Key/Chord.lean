import BrailleDisplay.Key.Chord

/-!
# Sets of front keys

Membership in a set of front keys, and how pressing and releasing a key changes it.
-/
namespace BrailleDisplay

/-- The front key with this bit number is in the set. -/
def Holds (front : FrontKeys) (bit : UInt8) : Prop := front &&& frontKey bit ≠ 0

instance (front : FrontKeys) (bit : UInt8) : Decidable (Holds front bit) :=
  inferInstanceAs (Decidable (_ ≠ _))

theorem toBitVec_frontKey (bit : UInt8) : (frontKey bit).toBitVec = 1#32 <<< (bit.toNat % 32) := by
  simp [frontKey]

theorem getLsbD_frontKey {bit : UInt8} (h : bit < 32) (i : Nat) :
    (frontKey bit).toBitVec.getLsbD i = decide (i = bit.toNat) := by
  have small : bit.toNat < 32 := UInt8.lt_iff_toNat_lt.mp h
  rw [toBitVec_frontKey, Nat.mod_eq_of_lt small, BitVec.getLsbD_shiftLeft, BitVec.getLsbD_one]
  grind

theorem holds_iff {bit : UInt8} (h : bit < 32) (front : FrontKeys) :
    Holds front bit ↔ front.toBitVec.getLsbD bit.toNat = true := by
  have apart : front &&& frontKey bit = 0 ↔
      ∀ i < 32, (front.toBitVec.getLsbD i && decide (i = bit.toNat)) = false := by
    rw [← UInt32.toBitVec_inj, UInt32.toBitVec_and, BitVec.eq_of_getLsbD_eq_iff]
    simp [getLsbD_frontKey h]
  rw [Holds, ne_eq, apart]
  have small : bit.toNat < 32 := UInt8.lt_iff_toNat_lt.mp h
  grind

theorem not_holds_zero (bit : UInt8) : ¬ Holds 0 bit := by
  simp [Holds]

theorem holds_frontKey {bit other : UInt8} (h : bit < 32) (h' : other < 32) :
    Holds (frontKey bit) other ↔ other = bit := by
  rw [holds_iff h', getLsbD_frontKey h, decide_eq_true_eq, UInt8.toNat_inj]

theorem holds_or {bit : UInt8} (h : bit < 32) (first second : FrontKeys) :
    Holds (first ||| second) bit ↔ Holds first bit ∨ Holds second bit := by
  simp only [holds_iff h, UInt32.toBitVec_or, BitVec.getLsbD_or, Bool.or_eq_true]

theorem holds_and {bit : UInt8} (h : bit < 32) (first second : FrontKeys) :
    Holds (first &&& second) bit ↔ Holds first bit ∧ Holds second bit := by
  simp only [holds_iff h, UInt32.toBitVec_and, BitVec.getLsbD_and, Bool.and_eq_true]

theorem holds_and_not {bit : UInt8} (h : bit < 32) (first second : FrontKeys) :
    Holds (first &&& ~~~second) bit ↔ Holds first bit ∧ ¬ Holds second bit := by
  have small : bit.toNat < 32 := UInt8.lt_iff_toNat_lt.mp h
  simp [holds_iff h, small]

theorem holds_press {bit other : UInt8} (h : bit < 32) (h' : other < 32) (front : FrontKeys) :
    Holds (front ||| frontKey bit) other ↔ other = bit ∨ Holds front other := by
  rw [holds_or h', holds_frontKey h h', or_comm]

theorem holds_release {bit other : UInt8} (h : bit < 32) (h' : other < 32) (front : FrontKeys) :
    Holds (front &&& ~~~frontKey bit) other ↔ other ≠ bit ∧ Holds front other := by
  rw [holds_and_not h', holds_frontKey h h', and_comm]

/-- A set of front keys is known by its keys. -/
theorem ext_holds {first second : FrontKeys}
    (same : ∀ bit < 32, Holds first bit ↔ Holds second bit) : first = second := by
  rw [← UInt32.toBitVec_inj]
  refine BitVec.eq_of_getLsbD_eq fun i small => ?_
  have bit : (UInt8.ofNat i).toNat = i := by
    rw [UInt8.toNat_ofNat']
    omega
  have low : UInt8.ofNat i < 32 := by
    rw [UInt8.lt_iff_toNat_lt, bit]
    exact small
  have held := same (UInt8.ofNat i) low
  rw [holds_iff low, holds_iff low, bit] at held
  exact Bool.eq_iff_iff.mpr held

theorem within_iff {front keys : FrontKeys} :
    front &&& ~~~keys = 0 ↔ ∀ bit < 32, Holds front bit → Holds keys bit := by
  constructor
  · intro within bit small held
    refine Decidable.byContradiction fun out => not_holds_zero bit ?_
    rw [← within, holds_and_not small]
    exact ⟨held, out⟩
  · intro within
    refine ext_holds fun bit small => ?_
    rw [holds_and_not small]
    exact iff_of_false (fun out => out.2 (within bit small out.1)) (not_holds_zero bit)

theorem meets_iff {front keys : FrontKeys} :
    front &&& keys ≠ 0 ↔ ∃ bit < 32, Holds front bit ∧ Holds keys bit := by
  constructor
  · intro meets
    refine Classical.byContradiction fun apart => meets (ext_holds fun bit small => ?_)
    rw [holds_and small]
    exact iff_of_false (fun both => apart ⟨bit, small, both⟩) (not_holds_zero bit)
  · rintro ⟨bit, small, both⟩ empty
    refine not_holds_zero bit ?_
    rwa [← empty, holds_and small]

/-- The set of the front keys with these bit numbers. -/
def keysOf (bits : List UInt8) : FrontKeys :=
  bits.foldr (fun bit front => front ||| frontKey bit) 0

theorem holds_keysOf {bits : List UInt8} (small : ∀ bit ∈ bits, bit < 32) {bit : UInt8}
    (h : bit < 32) : Holds (keysOf bits) bit ↔ bit ∈ bits := by
  induction bits with
  | nil => exact iff_of_false (not_holds_zero bit) List.not_mem_nil
  | cons first bits ih =>
    obtain ⟨low, small⟩ := List.forall_mem_cons.mp small
    rw [List.mem_cons, ← ih small]
    exact holds_press low h (keysOf bits)

/-- Every set of front keys with some of these bit numbers. -/
def subsets : List UInt8 → List FrontKeys
  | [] => [0]
  | bit :: bits => subsets bits ++ (subsets bits).map (· ||| frontKey bit)

theorem mem_subsets {bits : List UInt8} (small : ∀ bit ∈ bits, bit < 32) {front : FrontKeys}
    (within : ∀ bit < 32, Holds front bit → bit ∈ bits) : front ∈ subsets bits := by
  induction bits generalizing front with
  | nil =>
    have empty : front = 0 := ext_holds fun bit h =>
      iff_of_false (fun held => List.not_mem_nil (within bit h held)) (not_holds_zero bit)
    exact List.mem_singleton.mpr empty
  | cons bit bits ih =>
    obtain ⟨first, small⟩ := List.forall_mem_cons.mp small
    rw [subsets, List.mem_append, List.mem_map]
    by_cases held : Holds front bit
    · -- Without its first key the set is a subset of the rest.
      refine .inr ⟨front &&& ~~~frontKey bit, ih small ?_, ext_holds ?_⟩
      · intro other h kept
        obtain ⟨ne, kept⟩ := (holds_release first h front).mp kept
        exact (List.mem_cons.mp (within other h kept)).resolve_left ne
      · intro other h
        rw [holds_press first h, holds_release first h]
        grind
    · refine .inl (ih small fun other h kept => ?_)
      rcases List.mem_cons.mp (within other h kept) with rfl | rest
      · exact absurd kept held
      · exact rest

end BrailleDisplay
