import BrailleDisplay.Config.Datum
import Mathlib.Data.List.Nodup
import Mathlib.Data.List.Perm.Basic

/-!
# Data and records

What is found in a record in which no name is used twice: there every entry counts, and the order of
the entries does not. And what the integers are that fit into a byte or a word.
-/
namespace BrailleDisplay

/-! ## Records -/

/-- The names in a record. -/
def Datum.names : Datum → List String
  | .record fields => fields.map Prod.fst
  | _ => []

/-- Neither the record nor one right inside it names a field twice. -/
structure Unambiguous (entries : List (String × Datum)) : Prop where
  names : (entries.map Prod.fst).Nodup
  inner : ∀ entry ∈ entries, entry.2.names.Nodup

instance (entries : List (String × Datum)) : Decidable (Unambiguous entries) :=
  decidable_of_iff ((entries.map Prod.fst).Nodup ∧ ∀ entry ∈ entries, entry.2.names.Nodup)
    ⟨fun both => ⟨both.1, both.2⟩, fun h => ⟨h.names, h.inner⟩⟩

/-- Two records say the same of the known names, each in its own order. -/
def SameKnown (known : List String) (first second : List (String × Datum)) : Prop :=
  (first.filter (·.1 ∈ known)).Perm (second.filter (·.1 ∈ known))

theorem SameKnown.symm {known : List String} {first second : List (String × Datum)}
    (same : SameKnown known first second) : SameKnown known second first := List.Perm.symm same

theorem SameKnown.mem_iff {known : List String} {first second : List (String × Datum)}
    (same : SameKnown known first second) {name : String} (isKnown : name ∈ known)
    {datum : Datum} : (name, datum) ∈ first ↔ (name, datum) ∈ second := by
  have moved := List.Perm.mem_iff (a := (name, datum)) same
  simpa [isKnown] using moved

/-- If no name is there twice, every entry is found under its name. -/
theorem lookup_eq_some_iff_mem {α : Type} {entries : List (String × α)}
    (names : (entries.map Prod.fst).Nodup) {name : String} {value : α} :
    entries.lookup name = some value ↔ (name, value) ∈ entries := by
  constructor
  · intro found
    obtain ⟨before, after, rfl, _⟩ := List.lookup_eq_some_iff.mp found
    simp
  · intro inside
    obtain ⟨before, after, rfl⟩ := List.append_of_mem inside
    rw [List.map_append, List.nodup_append] at names
    refine List.lookup_eq_some_iff.mpr ⟨before, after, rfl, fun entry earlier => ?_⟩
    have apart := names.2.2 entry.1 (List.mem_map_of_mem earlier) name (by simp)
    simpa using apart.symm

/-- The names in front of a list of data. -/
theorem nodup_zip {names : List String} (distinct : names.Nodup) {α : Type} (items : List α) :
    ((names.zip items).map Prod.fst).Nodup := by
  rw [List.zip_eq_zip_take_min, List.map_fst_zip (by simp)]
  exact distinct.sublist (List.take_sublist _ _)

theorem lookup_zip {names : List String} (distinct : names.Nodup) {α : Type} (items : List α)
    {i : Nat} (inside : i < names.length) : (names.zip items).lookup names[i] = items[i]? := by
  induction names generalizing items i with
  | nil => cases inside
  | cons name names ih =>
    obtain ⟨once, distinct⟩ := List.nodup_cons.mp distinct
    cases items with
    | nil => rfl
    | cons item items =>
      cases i with
      | zero => simp
      | succ i =>
        have inside := Nat.lt_of_succ_lt_succ inside
        have apart : names[i] ≠ name := fun same => once (same ▸ List.getElem_mem inside)
        rw [List.zip_cons_cons, List.getElem_cons_succ, List.getElem?_cons_succ, List.lookup_cons,
          beq_eq_false_iff_ne.mpr apart]
        exact ih distinct items inside

/-- Something is found by its name if no other goes by it. -/
theorem find?_eq_some_iff_mem {α : Type} {name : α → String} {choices : List α}
    (distinct : (choices.map name).Nodup) {tag : String} {value : α} :
    (choices.find? fun choice => name choice == tag) = some value ↔
      value ∈ choices ∧ name value = tag := by
  constructor
  · intro found
    exact ⟨List.mem_of_find?_eq_some found, by simpa using List.find?_some found⟩
  · rintro ⟨inside, rfl⟩
    cases found : choices.find? fun choice => name choice == name value with
    | none => exact absurd (List.find?_eq_none.mp found value inside) (by simp)
    | some other =>
      have same : name other = name value := by simpa using List.find?_some found
      rw [List.inj_on_of_nodup_map distinct (List.mem_of_find?_eq_some found) inside same]

/-! ## Data -/

namespace Datum

theorem below?_eq_some_iff {limit n : Nat} {datum : Datum} :
    datum.below? limit = some n ↔ datum = .integer n ∧ n < limit := by
  unfold below?
  split <;> grind

theorem byte?_eq_some_iff {datum : Datum} {value : UInt8} :
    datum.byte? = some value ↔ datum = .integer value.toNat := by
  constructor
  · intro read
    obtain ⟨n, below, rfl⟩ := Option.map_eq_some_iff.mp read
    obtain ⟨rfl, small⟩ := below?_eq_some_iff.mp below
    rw [UInt8.toNat_ofNat_of_lt' small]
  · rintro rfl
    exact byte?_ofByte value

theorem word?_eq_some_iff {datum : Datum} {value : UInt32} :
    datum.word? = some value ↔ datum = .integer value.toNat := by
  constructor
  · intro read
    obtain ⟨n, below, rfl⟩ := Option.map_eq_some_iff.mp read
    obtain ⟨rfl, small⟩ := below?_eq_some_iff.mp below
    rw [UInt32.toNat_ofNat_of_lt' small]
  · rintro rfl
    exact word?_ofWord value

end Datum

end BrailleDisplay
