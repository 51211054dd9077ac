import BrailleDisplay.Config.Layout
import BrailleDisplay.Proofs.Config.Datum
import Mathlib.Data.List.Forall2
import Mathlib.Tactic.ByContra
import Mathlib.Tactic.Choose

/-!
# Reading records

A documented reader goes through a record entry by entry. If no name is there twice, that comes to a
reading of each field on its own: from its entry, or else from its default. So neither the order of
the entries nor unknown ones matter, and a record cannot be read exactly if one of the fields
cannot. A list without defaults has exactly one item for each field.
-/
namespace BrailleDisplay

/-! ## One field -/

namespace Layout

variable {layout : Layout} {default : layout.Partial} {entries other : List (String × Datum)}
  {field : layout.Field}

theorem name_inj {field other : layout.Field} (same : layout.name field = layout.name other) :
    field = other :=
  List.inj_on_of_nodup_map layout.distinct (layout.mem_order field) (layout.mem_order other) same

/-- What a record makes of a field: its datum if it is there, the default if it is not. -/
def reading? (layout : Layout) (default : layout.Partial) (entries : List (String × Datum))
    (field : layout.Field) : Option (layout.Value field) :=
  (entries.lookup (layout.name field)).elim (default field) (layout.read field)

theorem reading?_of_mem (names : (entries.map Prod.fst).Nodup) {datum : Datum}
    (inside : (layout.name field, datum) ∈ entries) :
    layout.reading? default entries field = layout.read field datum := by
  rw [reading?, (lookup_eq_some_iff_mem names).mpr inside]
  rfl

theorem reading?_of_not_mem (absent : layout.name field ∉ entries.map Prod.fst) :
    layout.reading? default entries field = default field := by
  have missing : entries.lookup (layout.name field) = none :=
    List.lookup_eq_none_iff.mpr fun entry inside =>
      bne_iff_ne.mpr fun same => absent (same ▸ List.mem_map_of_mem inside)
  rw [reading?, missing]
  rfl

/-- A field is read from its entry, or has its default. -/
theorem reading?_eq_iff (names : (entries.map Prod.fst).Nodup)
    {value : Option (layout.Value field)} : layout.reading? default entries field = value ↔
      (∃ datum, (layout.name field, datum) ∈ entries ∧ layout.read field datum = value) ∨
      layout.name field ∉ entries.map Prod.fst ∧ default field = value := by
  by_cases present : layout.name field ∈ entries.map Prod.fst
  · obtain ⟨datum, inside⟩ : ∃ datum, (layout.name field, datum) ∈ entries := by
      simpa using present
    rw [reading?_of_mem names inside]
    constructor
    · exact fun read => .inl ⟨datum, inside, read⟩
    · rintro (⟨other, listed, read⟩ | ⟨absent, _⟩)
      · rw [← lookup_eq_some_iff_mem names] at inside listed
        obtain rfl := Option.some.inj (inside.symm.trans listed)
        exact read
      · exact absurd present absent
  · rw [reading?_of_not_mem present]
    constructor
    · exact fun kept => .inr ⟨present, kept⟩
    · rintro (⟨_, listed, _⟩ | ⟨_, kept⟩)
      · exact absurd (List.mem_map_of_mem listed) present
      · exact kept

theorem reading?_congr (names : (entries.map Prod.fst).Nodup) (names' : (other.map Prod.fst).Nodup)
    (same : ∀ datum, (layout.name field, datum) ∈ entries ↔ (layout.name field, datum) ∈ other) :
    layout.reading? default entries field = layout.reading? default other field := by
  have found : entries.lookup (layout.name field) = other.lookup (layout.name field) :=
    Option.ext fun datum => by
      rw [lookup_eq_some_iff_mem names, lookup_eq_some_iff_mem names', same]
  rw [reading?, found, reading?]

theorem reading?_cons_self (datum : Datum) :
    layout.reading? default ((layout.name field, datum) :: entries) field =
      layout.read field datum := by
  simp [reading?]

theorem reading?_cons_of_ne {name : String} (apart : layout.name field ≠ name) (datum : Datum) :
    layout.reading? default ((name, datum) :: entries) field =
      layout.reading? default entries field := by
  rw [reading?, List.lookup_cons, beq_eq_false_iff_ne.mpr apart, reading?]

/-- To read a record is to read its first field and then the rest, with the value that was read in
the place of the default. -/
theorem forall_reading?_cons {values : layout.Values} {datum : Datum}
    (once : layout.name field ∉ entries.map Prod.fst) :
    (∀ other, layout.reading? default ((layout.name field, datum) :: entries) other =
        some (values other)) ↔
      ∃ value, layout.read field datum = some value ∧
        ∀ other, layout.reading? (default.set field value) entries other = some (values other) := by
  have later {other : layout.Field} (ne : field ≠ other) (value : layout.Value field) :
      layout.reading? default ((layout.name field, datum) :: entries) other =
        layout.reading? (default.set field value) entries other := by
    rw [reading?_cons_of_ne (fun same => ne (name_inj same.symm)), reading?, reading?,
      default.set_of_ne ne]
  constructor
  · intro readings
    have own := readings field
    rw [reading?_cons_self] at own
    refine ⟨values field, own, fun other => ?_⟩
    by_cases same : field = other
    · subst same
      rw [reading?_of_not_mem once, Partial.set_self]
    · rw [← later same]
      exact readings other
  · rintro ⟨value, read, readings⟩ other
    by_cases same : field = other
    · subst same
      have own := readings field
      rw [reading?_of_not_mem once, Partial.set_self] at own
      rw [reading?_cons_self, read, own]
    · rw [later same value]
      exact readings other

end Layout

/-! ## Choices, records and lists -/

namespace DataReader.Documented

variable {reader : DataReader} {layout : Layout} {default : layout.Partial}
  {entries : List (String × Datum)}

/-- If there is no other choice, the name is all that counts. -/
theorem choice?_eq_some_iff (documented : reader.Documented) {α : Type} {name : α → String}
    {choices : List α} (distinct : (choices.map name).Nodup) (every : ∀ value, value ∈ choices)
    {datum : Datum} {value : α} :
    reader.choice? name choices datum = some value ↔ datum.Names (name value) :=
  (documented.choice distinct).trans (and_iff_right (every value))

/-- Reading entry by entry is reading field by field. -/
theorem record?_eq_some_iff (documented : reader.Documented)
    (names : (entries.map Prod.fst).Nodup) {values : layout.Values} :
    reader.record? layout default (.record entries) = some values ↔
      ∀ field, layout.reading? default entries field = some (values field) := by
  induction entries generalizing default with
  | nil => exact documented.done
  | cons entry entries ih =>
    obtain ⟨name, datum⟩ := entry
    obtain ⟨once, later⟩ := List.nodup_cons.mp names
    by_cases known : ∃ field, layout.name field = name
    · obtain ⟨field, rfl⟩ := known
      rw [documented.entry default field datum once, Option.bind_eq_some_iff,
        Layout.forall_reading?_cons once]
      simp only [ih later]
    · rw [documented.unknown default datum entries fun field same => known ⟨field, same⟩, ih later]
      exact forall_congr' fun field => by
        rw [Layout.reading?_cons_of_ne fun same => known ⟨field, same⟩]

/-- A record cannot be read exactly if one of the fields cannot. -/
theorem record?_eq_none_iff (documented : reader.Documented)
    (names : (entries.map Prod.fst).Nodup) :
    reader.record? layout default (.record entries) = none ↔
      ∃ field, layout.reading? default entries field = none := by
  constructor
  · intro failed
    by_contra! readings
    simp only [Option.ne_none_iff_exists'] at readings
    choose values read using readings
    cases failed.symm.trans ((documented.record?_eq_some_iff names).mpr read)
  · rintro ⟨field, unread⟩
    rw [Option.eq_none_iff_forall_ne_some]
    intro values read
    cases unread.symm.trans ((documented.record?_eq_some_iff names).mp read field)

/-- Without defaults, the items of a list are those of the fields, one after the other. -/
theorem list?_eq_some_iff (documented : reader.Documented) {items : List Datum}
    {values : layout.Values} : reader.record? layout (fun _ => none) (.list items) = some values ↔
      List.Forall₂ (fun field item => layout.read field item = some (values field))
        layout.order items := by
  have reading (i : Fin layout.order.length) :
      layout.reading? (fun _ => none) ((layout.order.map layout.name).zip items)
        layout.order[i] = items[i.val]?.bind (layout.read layout.order[i]) := by
    have found := lookup_zip layout.distinct items (i := i) (by simp)
    rw [List.getElem_map] at found
    rw [Layout.reading?, Fin.getElem_fin, found]
    cases items[i.val]? <;> rfl
  have every {motive : layout.Field → Prop} :
      (∀ field, motive field) ↔ ∀ i : Fin layout.order.length, motive layout.order[i] := by
    refine ⟨fun all i => all _, fun all field => ?_⟩
    obtain ⟨i, inside, rfl⟩ := List.getElem_of_mem (layout.mem_order field)
    exact all ⟨i, inside⟩
  rw [documented.items, List.forall₂_iff_get]
  split_ifs with short
  · rw [documented.record?_eq_some_iff (nodup_zip layout.distinct items), every]
    simp only [reading]
    constructor
    · intro readings
      have long : layout.order.length ≤ items.length := by
        by_contra missing
        have last := readings ⟨items.length, Nat.lt_of_not_le missing⟩
        simp at last
      refine ⟨Nat.le_antisymm long short, fun i inside inside' => ?_⟩
      simpa [List.getElem?_eq_getElem inside'] using readings ⟨i, inside⟩
    · rintro ⟨same, readings⟩ i
      have inside : i.val < items.length := same ▸ i.isLt
      simpa [List.getElem?_eq_getElem inside] using readings i i.isLt inside
  · exact iff_of_false nofun fun both => short (Nat.le_of_eq both.1.symm)

end DataReader.Documented

/-! ## The standard reader -/

namespace DataReader

theorem tag?_eq_some_iff {datum : Datum} {name : String} :
    tag? datum = some name ↔ datum.Names name := by
  unfold tag? Datum.Names
  split <;> simp_all

theorem values?_eq_some_iff {layout : Layout} {known : layout.Partial} {values : layout.Values} :
    values? layout known = some values ↔ ∀ field, known field = some (values field) := by
  unfold values?
  split_ifs with all
  · constructor
    · rintro same field
      obtain rfl := Option.some.inj same
      exact (Option.some_get _).symm
    · intro given
      exact congrArg some (funext fun field => Option.get_of_eq_some _ (given field))
  · refine iff_of_false nofun fun given => all fun field _ => ?_
    rw [given field]
    rfl

theorem standard_documented : standard.Documented where
  byte := Datum.byte?_eq_some_iff
  word := Datum.word?_eq_some_iff
  choice distinct := by
    intro datum value
    simp only [standard, Option.bind_eq_some_iff, tag?_eq_some_iff, find?_eq_some_iff_mem distinct]
    constructor
    · rintro ⟨_, named, inside, rfl⟩
      exact ⟨inside, named⟩
    · rintro ⟨inside, named⟩
      exact ⟨_, named, inside, rfl⟩
  done := values?_eq_some_iff
  unknown {layout} known {name} datum entries stray := by
    have none : (layout.order.find? fun field => layout.name field == name) = none := by
      simpa using fun field _ => stray field
    simp only [standard, entries?, Option.bind_some, fill?, none]
  entry {layout} known field datum {entries} once := by
    have own : (layout.order.find? fun other => layout.name other == layout.name field) =
        some field :=
      (find?_eq_some_iff_mem layout.distinct).mpr ⟨layout.mem_order field, rfl⟩
    simp only [standard, entries?, Option.bind_some, fill?, own, if_neg once]
  items known items := by
    simp only [standard, entries?]
    split_ifs <;> rfl
  other known datum record list := by
    cases datum with
    | record entries => exact absurd rfl (record entries)
    | list items => exact absurd rfl (list items)
    | _ => rfl

end DataReader

end BrailleDisplay
