import BrailleDisplay.Config.Reading
import BrailleDisplay.Proofs.Config.Layout

/-!
# Reading configurations

With a documented reader, reading a configuration takes each field from its entry in the record, or
from the defaults if it has none. It fails exactly if there is an entry with a datum that is not
valid for its field. So neither the order of the fields nor unknown ones matter, and a configuration
that was written out reads back as it was.
-/
namespace BrailleDisplay

variable {reader : DataReader}

/-! ## Line settings -/

theorem DataBits.mem_all (value : DataBits) : value ∈ all := by cases value <;> decide

theorem Parity.mem_all (value : Parity) : value ∈ all := by cases value <;> decide

theorem StopBits.mem_all (value : StopBits) : value ∈ all := by cases value <;> decide

namespace LineSettings

namespace Field

/-- The datum is valid for the field and stands for the value. -/
def Means : (field : Field) → Datum → field.Value → Prop
  | .baudrate, datum, value => datum = .integer (UInt32.toNat value)
  | .dataBits, datum, value => datum.Names (DataBits.name value)
  | .parity, datum, value => datum.Names (Parity.name value)
  | .stopBits, datum, value => datum.Names (StopBits.name value)

theorem read_eq_some_iff (documented : reader.Documented) {field : Field} {datum : Datum}
    {value : field.Value} : field.read reader datum = some value ↔ field.Means datum value := by
  cases field with
  | baudrate => exact documented.word
  | dataBits => exact documented.choice?_eq_some_iff (by decide) DataBits.mem_all
  | parity => exact documented.choice?_eq_some_iff (by decide) Parity.mem_all
  | stopBits => exact documented.choice?_eq_some_iff (by decide) StopBits.mem_all

theorem means_write (field : Field) (value : field.Value) :
    field.Means (field.write value) value := by
  cases field with
  | baudrate => rfl
  | _ => exact .inl rfl

theorem mem_all (field : Field) : field ∈ all := (layout .standard).mem_order field

end Field

/-- The datum holds the settings. None of them is missing. -/
inductive GivenBy (settings : LineSettings) : Datum → Prop where
  /-- A record has an entry for each of them. -/
  | record {line : List (String × Datum)} (entry : ∀ field : Field,
      ∃ datum, (field.name, datum) ∈ line ∧ field.Means datum (settings.get field)) :
      GivenBy settings (.record line)
  /-- A list has them one after the other, and nothing else. -/
  | list {items : List Datum} (item : List.Forall₂
      (fun (field : Field) datum => field.Means datum (settings.get field)) Field.all items) :
      GivenBy settings (.list items)

theorem ofValues_eq_iff {values : ∀ field : Field, field.Value} {settings : LineSettings} :
    ofValues values = settings ↔ values = settings.get := by
  constructor
  · rintro rfl
    funext field
    cases field <;> rfl
  · rintro rfl
    rfl

theorem ofDatum?_eq_some_iff (documented : reader.Documented) {datum : Datum}
    (distinct : datum.names.Nodup) {settings : LineSettings} :
    ofDatum? reader datum = some settings ↔ settings.GivenBy datum := by
  simp only [ofDatum?, Option.map_eq_some_iff, ofValues_eq_iff, exists_eq_right]
  cases datum with
  | record line =>
    have reading (field : Field) :
        (layout reader).reading? (fun _ => none) line field = some (settings.get field) ↔
          ∃ datum, (field.name, datum) ∈ line ∧ field.Means datum (settings.get field) := by
      refine (Layout.reading?_eq_iff distinct).trans ((or_iff_left (by simp)).trans ?_)
      exact exists_congr fun datum => and_congr_right fun _ => Field.read_eq_some_iff documented
    refine (documented.record?_eq_some_iff distinct).trans ((forall_congr' reading).trans ?_)
    constructor
    · exact .record
    · rintro (⟨entry⟩ | _)
      exact entry
  | list items =>
    refine documented.list?_eq_some_iff.trans ?_
    constructor
    · exact fun given => .list (given.imp fun _ _ => (Field.read_eq_some_iff documented).mp)
    · rintro (_ | ⟨item⟩)
      exact item.imp fun _ _ => (Field.read_eq_some_iff documented).mpr
  | _ =>
    rw [documented.other _ (by simp) (by simp)]
    exact iff_of_false nofun nofun

theorem givenBy_toDatum (settings : LineSettings) : settings.GivenBy settings.toDatum :=
  .record fun field =>
    ⟨_, List.mem_map_of_mem field.mem_all, field.means_write (settings.get field)⟩

theorem GivenBy.of_sameKnown {line line' : List (String × Datum)} {settings : LineSettings}
    (given : settings.GivenBy (.record line))
    (same : SameKnown (Field.all.map Field.name) line line') :
    settings.GivenBy (.record line') := by
  cases given with
  | record entry =>
    refine .record fun field => ?_
    obtain ⟨datum, inside, means⟩ := entry field
    exact ⟨datum, (same.mem_iff (List.mem_map_of_mem field.mem_all)).mp inside, means⟩

end LineSettings

/-! ## Fields of a configuration -/

namespace Config

namespace Field

/-- The datum is valid for the field and stands for the value. -/
def Means : (field : Field) → Datum → field.Value → Prop
  | .serial, datum, value => LineSettings.GivenBy value datum
  | .openAttempts, datum, value | .maxRetries, datum, value | .repeatDelay, datum, value
  | .repeatInterval, datum, value => datum = .integer (UInt8.toNat value)
  | .identifyWait, datum, value | .readTimeout, datum, value | .disconnectGrace, datum, value
  | .resettingTimeout, datum, value | .identifyingTimeout, datum, value
  | .writingTimeout, datum, value => datum = .integer (UInt32.toNat value)

theorem read_eq_some_iff (documented : reader.Documented) {field : Field} {datum : Datum}
    (distinct : datum.names.Nodup) {value : field.Value} :
    field.read reader datum = some value ↔ field.Means datum value := by
  cases field with
  | serial => exact LineSettings.ofDatum?_eq_some_iff documented distinct
  | openAttempts | maxRetries | repeatDelay | repeatInterval => exact documented.byte
  | _ => exact documented.word

theorem means_write (field : Field) (value : field.Value) :
    field.Means (field.write value) value := by
  cases field with
  | serial => exact LineSettings.givenBy_toDatum value
  | _ => rfl

theorem names_write (field : Field) (value : field.Value) : (field.write value).names.Nodup := by
  cases field with
  | serial => exact (LineSettings.layout .standard).distinct
  | _ => exact List.nodup_nil

theorem mem_all (field : Field) : field ∈ all := (layout .standard).mem_order field

theorem name_inj {field other : Field} (same : field.name = other.name) : field = other :=
  List.inj_on_of_nodup_map (layout .standard).distinct field.mem_all other.mem_all same

end Field

/-- What a record makes of a field: its datum if it is there, the default if it is not. -/
def reading? (reader : DataReader) (entries : List (String × Datum)) (field : Field) :
    Option field.Value :=
  (layout reader).reading? (fun field => some (get {} field)) entries field

section

variable {entries other : List (String × Datum)} {config : Config} {field : Field}

/-- A field has the value of its entry, or else the default. -/
theorem reading?_eq_some_iff (documented : reader.Documented) (clear : Unambiguous entries)
    {value : field.Value} : reading? reader entries field = some value ↔
      (∃ datum, (field.name, datum) ∈ entries ∧ field.Means datum value) ∨
      field.name ∉ entries.map Prod.fst ∧ value = get {} field := by
  refine (Layout.reading?_eq_iff clear.names).trans (or_congr ?_ ?_)
  · refine exists_congr fun datum => and_congr_right fun inside => ?_
    exact Field.read_eq_some_iff documented (clear.inner _ inside)
  · refine and_congr_right fun _ => ?_
    rw [Option.some_inj]
    exact eq_comm

/-- A field is left without a value only by an entry that is not valid. -/
theorem reading?_eq_none_iff (documented : reader.Documented) (clear : Unambiguous entries) :
    reading? reader entries field = none ↔
      ∃ datum, (field.name, datum) ∈ entries ∧ ∀ value, ¬ field.Means datum value := by
  refine (Layout.reading?_eq_iff clear.names).trans ((or_iff_left (by simp)).trans ?_)
  refine exists_congr fun datum => and_congr_right fun inside => ?_
  rw [Option.eq_none_iff_forall_ne_some]
  exact forall_congr' fun value =>
    not_congr (Field.read_eq_some_iff documented (clear.inner _ inside))

theorem reading?_of_mem (names : (entries.map Prod.fst).Nodup) {datum : Datum}
    (inside : (field.name, datum) ∈ entries) :
    reading? reader entries field = field.read reader datum :=
  Layout.reading?_of_mem names inside

theorem reading?_congr (names : (entries.map Prod.fst).Nodup) (names' : (other.map Prod.fst).Nodup)
    (same : ∀ datum, (field.name, datum) ∈ entries ↔ (field.name, datum) ∈ other) :
    reading? reader entries field = reading? reader other field :=
  Layout.reading?_congr names names' same

/-! ## Reading -/

theorem ofValues_eq_iff {values : ∀ field : Field, field.Value} :
    ofValues values = config ↔ values = config.get := by
  constructor
  · rintro rfl
    funext field
    cases field <;> rfl
  · rintro rfl
    rfl

theorem ofDatum?_eq_some_iff (documented : reader.Documented)
    (names : (entries.map Prod.fst).Nodup) : ofDatum? reader (.record entries) = some config ↔
      ∀ field, reading? reader entries field = some (config.get field) := by
  simp only [ofDatum?, Option.map_eq_some_iff, ofValues_eq_iff, exists_eq_right]
  exact documented.record?_eq_some_iff names

theorem ofDatum?_eq_none_iff (documented : reader.Documented)
    (names : (entries.map Prod.fst).Nodup) : ofDatum? reader (.record entries) = none ↔
      ∃ field, reading? reader entries field = none := by
  rw [ofDatum?, Option.map_eq_none_iff]
  exact documented.record?_eq_none_iff names

/-- What is read depends on the readings of the fields alone. -/
theorem ofDatum?_congr (documented : reader.Documented) (names : (entries.map Prod.fst).Nodup)
    (names' : (other.map Prod.fst).Nodup)
    (same : ∀ field, reading? reader entries field = reading? reader other field) :
    ofDatum? reader (.record entries) = ofDatum? reader (.record other) := by
  refine Option.ext fun config => ?_
  rw [ofDatum?_eq_some_iff documented names, ofDatum?_eq_some_iff documented names']
  exact forall_congr' fun field => by rw [same]

/-- Unknown fields and the order of the known ones do not matter. -/
theorem ofDatum?_of_sameKnown (documented : reader.Documented)
    (names : (entries.map Prod.fst).Nodup) (names' : (other.map Prod.fst).Nodup)
    (same : SameKnown (Field.all.map Field.name) entries other) :
    ofDatum? reader (.record entries) = ofDatum? reader (.record other) :=
  ofDatum?_congr documented names names' fun field => reading?_congr names names' fun _ =>
    same.mem_iff (List.mem_map_of_mem field.mem_all)

/-- Neither do they in the line settings. -/
theorem ofDatum?_of_sameLine (documented : reader.Documented)
    {before after line line' : List (String × Datum)}
    (clear : Unambiguous (before ++ ("serial", .record line) :: after))
    (clear' : Unambiguous (before ++ ("serial", .record line') :: after))
    (same : SameKnown (LineSettings.Field.all.map LineSettings.Field.name) line line') :
    ofDatum? reader (.record (before ++ ("serial", .record line) :: after)) =
      ofDatum? reader (.record (before ++ ("serial", .record line') :: after)) := by
  refine ofDatum?_congr documented clear.names clear'.names fun field => ?_
  by_cases serial : field = .serial
  · subst serial
    have inside {datum : Datum} :
        (Field.serial.name, datum) ∈ before ++ ("serial", datum) :: after := by
      simp [Field.name]
    rw [reading?_of_mem clear.names inside, reading?_of_mem clear'.names inside]
    refine Option.ext fun settings => ?_
    refine (LineSettings.ofDatum?_eq_some_iff documented (clear.inner _ inside)).trans
      (.trans ?_ (LineSettings.ofDatum?_eq_some_iff documented (clear'.inner _ inside)).symm)
    exact ⟨fun given => given.of_sameKnown same,
      fun given => given.of_sameKnown same.symm⟩
  · have apart : field.name ≠ "serial" := fun same => serial (Field.name_inj same)
    exact reading?_congr clear.names clear'.names fun datum => by simp [apart]

/-- The other record has the datum under the name and is the same elsewhere. -/
def Sets (name : String) (datum : Datum) (entries other : List (String × Datum)) : Prop :=
  (name, datum) ∈ other ∧
    ∀ entry : String × Datum, entry.1 ≠ name → (entry ∈ other ↔ entry ∈ entries)

/-- Setting a field to a valid datum changes this field alone. -/
theorem ofDatum?_of_sets (documented : reader.Documented) (clear : Unambiguous entries)
    (clear' : Unambiguous other) (read : ofDatum? reader (.record entries) = some config)
    {datum : Datum} {value : field.Value} (means : field.Means datum value)
    (sets : Sets field.name datum entries other) :
    ∃ next, ofDatum? reader (.record other) = some next ∧ next.get field = value ∧
      ∀ kept, kept ≠ field → next.get kept = config.get kept := by
  rw [ofDatum?_eq_some_iff documented clear.names] at read
  have own : reading? reader other field = some value :=
    (reading?_eq_some_iff documented clear').mpr (.inl ⟨datum, sets.1, means⟩)
  have rest {kept : Field} (apart : kept ≠ field) :
      reading? reader other kept = some (config.get kept) := by
    rw [← read kept]
    exact reading?_congr clear'.names clear.names fun datum =>
      sets.2 _ fun same => apart (Field.name_inj same)
  obtain ⟨next, made⟩ : ∃ next, ofDatum? reader (.record other) = some next := by
    rw [← Option.ne_none_iff_exists']
    intro failed
    obtain ⟨kept, unread⟩ := (ofDatum?_eq_none_iff documented clear'.names).mp failed
    by_cases same : kept = field
    · subst same
      cases unread.symm.trans own
    · cases unread.symm.trans (rest same)
  have readings := (ofDatum?_eq_some_iff documented clear'.names).mp made
  refine ⟨next, made, Option.some.inj ((readings field).symm.trans own), fun kept apart => ?_⟩
  exact Option.some.inj ((readings kept).symm.trans (rest apart))

end

/-! ## Writing -/

theorem mem_entries (config : Config) (field : Field) :
    (field.name, field.write (config.get field)) ∈ config.entries :=
  List.mem_map_of_mem (f := fun field => (field.name, field.write (config.get field)))
    field.mem_all

theorem names_entries (config : Config) : config.entries.map Prod.fst = Field.all.map Field.name :=
  rfl

theorem unambiguous_entries (config : Config) : Unambiguous config.entries where
  names := (layout .standard).distinct
  inner := by
    intro entry listed
    obtain ⟨field, _, rfl⟩ := List.mem_map.mp listed
    exact field.names_write (config.get field)

theorem ofDatum?_toDatum (documented : reader.Documented) (config : Config) :
    ofDatum? reader config.toDatum = some config := by
  have clear := config.unambiguous_entries
  refine (ofDatum?_eq_some_iff documented clear.names).mpr fun field => ?_
  exact (reading?_eq_some_iff documented clear).mpr
    (.inl ⟨_, config.mem_entries field, field.means_write (config.get field)⟩)

/-- Reading a configuration lays a record over the defaults, field by field. It fails exactly if
there is an entry whose datum is not valid for its field: not an integer in the range of the field,
or neither a record nor a list of all four line settings. Otherwise each field has the value of its
entry, or its default if there is none. So the result depends neither on the order of fields nor on
unknown ones, in the record and in the line settings; setting a field to a valid datum changes this
field alone; and a configuration is written out with all its fields and reads back as it was. -/
theorem reading_overlays_defaults (documented : reader.Documented) :
    (∀ entries, Unambiguous entries →
      (ofDatum? reader (.record entries) = none ↔ ∃ (field : Field) (datum : Datum),
        (field.name, datum) ∈ entries ∧ ∀ value, ¬ field.Means datum value) ∧
      (∀ config, ofDatum? reader (.record entries) = some config ↔ ∀ field : Field,
        (∃ datum, (field.name, datum) ∈ entries ∧ field.Means datum (config.get field)) ∨
        field.name ∉ entries.map Prod.fst ∧ config.get field = get {} field) ∧
      (∀ other, Unambiguous other → SameKnown (Field.all.map Field.name) entries other →
        ofDatum? reader (.record entries) = ofDatum? reader (.record other)) ∧
      ∀ config, ofDatum? reader (.record entries) = some config →
        ∀ (field : Field) datum value, field.Means datum value →
          ∀ other, Unambiguous other → Sets field.name datum entries other →
            ∃ next, ofDatum? reader (.record other) = some next ∧ next.get field = value ∧
              ∀ kept, kept ≠ field → next.get kept = config.get kept) ∧
    (∀ before line line' after,
      let entries := before ++ ("serial", .record line) :: after
      let other := before ++ ("serial", .record line') :: after
      Unambiguous entries → Unambiguous other →
        SameKnown (LineSettings.Field.all.map LineSettings.Field.name) line line' →
        ofDatum? reader (.record entries) = ofDatum? reader (.record other)) ∧
    ∀ config : Config,
      Unambiguous config.entries ∧ config.entries.map Prod.fst = Field.all.map Field.name ∧
      (∀ field : Field, ∃ datum,
        (field.name, datum) ∈ config.entries ∧ field.Means datum (config.get field)) ∧
      ofDatum? reader config.toDatum = some config := by
  refine ⟨fun entries clear => ⟨?_, fun config => ?_, ?_, ?_⟩, ?_, fun config => ?_⟩
  · rw [ofDatum?_eq_none_iff documented clear.names]
    exact exists_congr fun field => reading?_eq_none_iff documented clear
  · rw [ofDatum?_eq_some_iff documented clear.names]
    exact forall_congr' fun field => reading?_eq_some_iff documented clear
  · exact fun other clear' same => ofDatum?_of_sameKnown documented clear.names clear'.names same
  · intro config read field datum value means other clear' sets
    exact ofDatum?_of_sets documented clear clear' read means sets
  · exact fun before line line' after clear clear' same =>
      ofDatum?_of_sameLine documented clear clear' same
  · exact ⟨config.unambiguous_entries, config.names_entries,
      fun field => ⟨_, config.mem_entries field, field.means_write (config.get field)⟩,
      config.ofDatum?_toDatum documented⟩

/-- Fields in an order of their own and unknown ones, also among the line settings, one of which is
a record of its own, and a count that does not fit into a byte. -/
theorem reading_overlays_defaults_shuffled :
    let line : List (String × Datum) :=
      [ ("parity", .record [("Even", .null)]), ("flow", .null), ("stop_bits", .text "Two"),
        ("baudrate", .integer 9600), ("data_bits", .text "Seven") ]
    let entries : List (String × Datum) :=
      [("repeat_delay", .integer 20), ("colour", .text "red"), ("serial", .record line)]
    let spoiled : List (String × Datum) := ("max_retries", .integer 256) :: entries
    DataReader.standard.Documented ∧ Unambiguous entries ∧ Unambiguous spoiled ∧
    ofDatum? .standard (.record entries) =
      some { serial := ⟨9600, .seven, .even, .two⟩, repeatDelay := 20 } ∧
    ofDatum? .standard (.record spoiled) = none := by
  intro line entries spoiled
  have clear : Unambiguous entries := by decide
  have clear' : Unambiguous spoiled := by decide
  have given : LineSettings.GivenBy ⟨9600, .seven, .even, .two⟩ (.record line) := by
    refine .record fun field => ?_
    cases field with
    | baudrate => exact ⟨.integer 9600, by simp [line, LineSettings.Field.name], rfl⟩
    | dataBits => exact ⟨.text "Seven", by simp [line, LineSettings.Field.name], .inl rfl⟩
    | parity =>
      exact ⟨.record [("Even", .null)], by simp [line, LineSettings.Field.name], .inr rfl⟩
    | stopBits => exact ⟨.text "Two", by simp [line, LineSettings.Field.name], .inl rfl⟩
  have overlays := reading_overlays_defaults DataReader.standard_documented
  refine ⟨DataReader.standard_documented, clear, clear', ?_, ?_⟩
  · refine ((overlays.1 entries clear).2.1 _).mpr fun field => ?_
    cases field with
    | serial => exact .inl ⟨.record line, by simp [entries, Field.name], given⟩
    | repeatDelay => exact .inl ⟨.integer 20, by simp [entries, Field.name], rfl⟩
    | _ => exact .inr ⟨by simp [entries, Field.name], rfl⟩
  · refine (overlays.1 spoiled clear').1.mpr
      ⟨.maxRetries, .integer 256, List.mem_cons_self, fun value means => ?_⟩
    have number : (256 : Int) = UInt8.toNat value := Datum.integer.inj means
    have small := UInt8.toNat_lt value
    omega

/-- Line settings need not be a record. A list of the four is read as well, and no documented reader
refuses it. -/
theorem line_settings_from_list :
    let settings : Datum := .list [.integer 9600, .text "Seven", .text "Even", .text "Two"]
    let entries : List (String × Datum) := [("serial", settings)]
    (∀ line, settings ≠ .record line) ∧ DataReader.standard.Documented ∧
    ofDatum? .standard (.record entries) = some { serial := ⟨9600, .seven, .even, .two⟩ } ∧
    ¬ ∃ reader : DataReader, reader.Documented ∧ ofDatum? reader (.record entries) = none := by
  intro settings entries
  refine ⟨nofun, DataReader.standard_documented, by decide, ?_⟩
  rintro ⟨reader, documented, failed⟩
  have clear : Unambiguous entries := by decide
  have given : LineSettings.GivenBy ⟨9600, .seven, .even, .two⟩ settings :=
    .list (.cons rfl (.cons (.inl rfl) (.cons (.inl rfl) (.cons (.inl rfl) .nil))))
  obtain ⟨field, unread⟩ := (ofDatum?_eq_none_iff documented clear.names).mp failed
  obtain ⟨datum, inside, invalid⟩ := (reading?_eq_none_iff documented clear).mp unread
  obtain ⟨serial, rfl⟩ := Prod.mk.inj (List.mem_singleton.mp inside)
  obtain rfl : field = .serial := Field.name_inj serial
  exact invalid _ given

end Config

end BrailleDisplay
