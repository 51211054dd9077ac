import BrailleDisplay.Config.Datum

/-!
# Layouts and readers

A type whose values are read from records declares its fields: how each is called, what values it
has and how they are read. Reading the records is left to a library, a `DataReader`. It is a
parameter here, and `DataReader.Documented` is all that is relied on. `DataReader.standard` is a
reader that does what is documented.
-/
namespace BrailleDisplay

/-- The fields of a type. -/
structure Layout where
  Field : Type
  [decEq : DecidableEq Field]
  /-- All fields, in the order in which they are declared. -/
  order : List Field
  name : Field → String
  Value : Field → Type
  read : (field : Field) → Datum → Option (Value field)
  mem_order : ∀ field, field ∈ order
  distinct : (order.map name).Nodup

attribute [instance] Layout.decEq

namespace Layout

variable {layout : Layout}

/-- A value for each field. -/
abbrev Values (layout : Layout) : Type := ∀ field, layout.Value field

/-- A value for some of the fields. -/
abbrev Partial (layout : Layout) : Type := ∀ field, Option (layout.Value field)

/-- Gives one field a value. -/
def Partial.set (known : layout.Partial) (field : layout.Field) (value : layout.Value field) :
    layout.Partial :=
  fun other => if same : field = other then some (same ▸ value) else known other

@[simp] theorem Partial.set_self (known : layout.Partial) (field : layout.Field)
    (value : layout.Value field) : known.set field value field = some value := by
  simp [set]

theorem Partial.set_of_ne (known : layout.Partial) {field other : layout.Field} (ne : field ≠ other)
    (value : layout.Value field) : known.set field value other = known other := by
  simp [set, ne]

end Layout

/-- A library that reads data. -/
structure DataReader where
  byte? : Datum → Option UInt8
  word? : Datum → Option UInt32
  /-- Reads one of several values that go by a name. -/
  choice? {α : Type} (name : α → String) (choices : List α) : Datum → Option α
  /-- Reads a value for each field. A field that is missing has its default, if it has one. -/
  record? (layout : Layout) (default : layout.Partial) : Datum → Option layout.Values

namespace DataReader

/-- What is documented of the library. -/
structure Documented (reader : DataReader) : Prop where
  /-- Bytes are the integers from 0 to 255. -/
  byte {datum : Datum} {value : UInt8} :
    reader.byte? datum = some value ↔ datum = .integer value.toNat
  /-- Words are the integers from 0 to 2³² - 1. -/
  word {datum : Datum} {value : UInt32} :
    reader.word? datum = some value ↔ datum = .integer value.toNat
  /-- A choice is given by its name. -/
  choice {α : Type} {name : α → String} {choices : List α} (distinct : (choices.map name).Nodup)
    {datum : Datum} {value : α} :
    reader.choice? name choices datum = some value ↔ value ∈ choices ∧ datum.Names (name value)
  /-- At the end of a record, every field has to have a value. -/
  done {layout : Layout} {known : layout.Partial} {values : layout.Values} :
    reader.record? layout known (.record []) = some values ↔
      ∀ field, known field = some (values field)
  /-- Entries that belong to no field are passed over, whatever they hold. -/
  unknown {layout : Layout} (known : layout.Partial) {name : String} (datum : Datum)
    (entries : List (String × Datum)) (stray : ∀ field, layout.name field ≠ name) :
    reader.record? layout known (.record ((name, datum) :: entries)) =
      reader.record? layout known (.record entries)
  /-- The entry of a field is read as the field says, and its value stands in for the default. -/
  entry {layout : Layout} (known : layout.Partial) (field : layout.Field) (datum : Datum)
    {entries : List (String × Datum)} (once : layout.name field ∉ entries.map Prod.fst) :
    reader.record? layout known (.record ((layout.name field, datum) :: entries)) =
      (layout.read field datum).bind fun value =>
        reader.record? layout (known.set field value) (.record entries)
  /-- The items of a list are those of the fields in the order of their declaration. The last ones
  may be missing, but there are no others. -/
  items {layout : Layout} (known : layout.Partial) (items : List Datum) :
    reader.record? layout known (.list items) =
      if items.length ≤ layout.order.length then
        reader.record? layout known (.record ((layout.order.map layout.name).zip items))
      else none
  /-- Fields are read from records and lists only. -/
  other {layout : Layout} (known : layout.Partial) {datum : Datum}
    (record : ∀ entries, datum ≠ .record entries) (list : ∀ items, datum ≠ .list items) :
    reader.record? layout known datum = none

/-! ## A reader -/

/-- The name of a choice. -/
def tag? : Datum → Option String
  | .text name => some name
  | .record [(name, .null)] => some name
  | _ => none

/-- The entries that a datum has for the fields of a layout. -/
def entries? (layout : Layout) : Datum → Option (List (String × Datum))
  | .record entries => some entries
  | .list items =>
    if items.length ≤ layout.order.length then some ((layout.order.map layout.name).zip items)
    else none
  | _ => none

/-- The values of all fields, if they are known. -/
def values? (layout : Layout) (known : layout.Partial) : Option layout.Values :=
  if all : ∀ field ∈ layout.order, (known field).isSome then
    some fun field => (known field).get (all field (layout.mem_order field))
  else none

/-- Reads one entry after the other. No field may be there twice. -/
def fill? (layout : Layout) (known : layout.Partial) :
    List (String × Datum) → Option layout.Values
  | [] => values? layout known
  | (name, datum) :: entries =>
    match layout.order.find? fun field => layout.name field == name with
    | none => fill? layout known entries
    | some field =>
      if name ∈ entries.map Prod.fst then none
      else (layout.read field datum).bind fun value => fill? layout (known.set field value) entries

/-- A reader that does what is documented. -/
def standard : DataReader where
  byte? := Datum.byte?
  word? := Datum.word?
  choice? name choices datum :=
    (tag? datum).bind fun tag => choices.find? fun choice => name choice == tag
  record? layout known datum := (entries? layout datum).bind (fill? layout known)

end DataReader

end BrailleDisplay
