import BrailleDisplay.Key.Event
import BrailleDisplay.Signal
import Mathlib.Data.Nat.Bitwise

/-!
# Bytes and key events

The code of a key and whether it was let go can be read off the number that a byte stands for. A
byte that reports an event is the byte of that event, on every display. On displays of up to 80
columns and 13 status cells the codes of all keys lie below the signals of the link, and every key
event can be told from its byte.
-/
namespace BrailleDisplay

namespace Key

/-- The key is one of a display with the given geometry. -/
def On (geometry : Geometry) : Key → Prop
  | .routing column => column < geometry.columns
  | .status index => index < geometry.statusCells
  | .front bit => bit < frontLimit

instance (geometry : Geometry) (key : Key) : Decidable (key.On geometry) := by
  cases key <;> exact inferInstanceAs (Decidable (_ < _))

/-- The code of a key as a number, which may lie past the last byte. -/
def number : Key → Nat
  | .routing column => 0x20 + column.toNat
  | .status index => 0x70 + index.toNat
  | .front bit => bit.toNat

/-- The display has the key, and the code is that of the key. -/
def HasCode (geometry : Geometry) (key : Key) (code : Nat) : Prop :=
  key.On geometry ∧ code = key.number

/-! ## Codes -/

theorem inRange_iff {first count code : UInt8} : inRange first count code = true ↔
    first.toNat ≤ code.toNat ∧ code.toNat < first.toNat + count.toNat := by
  simp [inRange]

/-- A code in a range is the first one plus an offset below the count, and the offset is what is
left when the first one is taken away. -/
theorem inRange_sub_iff {first count code offset : UInt8} :
    inRange first count code = true ∧ code - first = offset ↔
      offset < count ∧ code.toNat = first.toNat + offset.toNat := by
  rw [inRange_iff, UInt8.lt_iff_toNat_lt]
  constructor
  · rintro ⟨⟨above, below⟩, rfl⟩
    rw [UInt8.toNat_sub_of_le _ _ (UInt8.le_iff_toNat_le.mpr above)]
    omega
  · rintro ⟨below, number⟩
    have above : first.toNat ≤ code.toNat := by omega
    refine ⟨by omega, ?_⟩
    rw [← UInt8.toNat_inj, UInt8.toNat_sub_of_le _ _ (UInt8.le_iff_toNat_le.mpr above)]
    omega

/-- Two bytes never add up to more than a 16-bit word holds. -/
theorem toNat_add_words (first count : UInt8) :
    (first.toUInt16 + count.toUInt16).toNat = first.toNat + count.toNat := by
  have := first.toNat_lt
  have := count.toNat_lt
  simp only [UInt16.toNat_add, UInt8.toNat_toUInt16]
  omega

/-- The sum may as well be taken in 16-bit words. -/
theorem inRange_iff_words {first count code : UInt8} : inRange first count code = true ↔
    first ≤ code ∧ code.toUInt16 < first.toUInt16 + count.toUInt16 := by
  rw [inRange_iff, UInt8.le_iff_toNat_le, UInt16.lt_iff_toNat_lt, toNat_add_words,
    UInt8.toNat_toUInt16]

/-- The codes of the front keys are below those of the others. -/
theorem ofCode?_front (geometry : Geometry) {code : UInt8} (low : code < frontLimit) :
    ofCode? geometry code = some (.front code) := by
  have low' : code.toNat < 0x20 := UInt8.lt_iff_toNat_lt.mp low
  have routing : inRange routingBase geometry.columns code = false :=
    Bool.eq_false_iff.mpr fun reached => absurd (inRange_iff.mp reached).1 (Nat.not_le.mpr low')
  have status : inRange statusBase geometry.statusCells code = false :=
    Bool.eq_false_iff.mpr fun reached =>
      absurd (Nat.le_trans (by decide) (inRange_iff.mp reached).1) (Nat.not_le.mpr low')
  simp [ofCode?, routing, status, low]

/-- Only a front key has the code of a front key. -/
theorem code_of_ofCode? {geometry : Geometry} {code bit : UInt8}
    (h : ofCode? geometry code = some (.front bit)) : bit = code ∧ code < frontLimit := by
  unfold ofCode? at h
  split_ifs at h with routing status low
  · cases h
  · cases h
  · cases h
    exact ⟨rfl, low⟩

section

variable {geometry : Geometry} {code : UInt8}

theorem hasCode_routing_iff {column : UInt8} : HasCode geometry (.routing column) code.toNat ↔
    inRange routingBase geometry.columns code = true ∧ code - routingBase = column :=
  (@inRange_sub_iff routingBase geometry.columns code column).symm

theorem hasCode_status_iff {index : UInt8} : HasCode geometry (.status index) code.toNat ↔
    inRange statusBase geometry.statusCells code = true ∧ code - statusBase = index :=
  (@inRange_sub_iff statusBase geometry.statusCells code index).symm

theorem ofCode?_eq_routing_iff {column : UInt8} : ofCode? geometry code = some (.routing column) ↔
    HasCode geometry (.routing column) code.toNat := by
  rw [hasCode_routing_iff, ofCode?]
  split_ifs <;> simp [*]

/-- A code that a routing key has too is that of the routing key. -/
theorem ofCode?_eq_status_iff {index : UInt8} : ofCode? geometry code = some (.status index) ↔
    (∀ column, ¬ HasCode geometry (.routing column) code.toNat) ∧
      HasCode geometry (.status index) code.toNat := by
  simp only [hasCode_routing_iff, hasCode_status_iff, not_and, ofCode?]
  split_ifs <;> simp [*]

theorem ofCode?_eq_front_iff {bit : UInt8} : ofCode? geometry code = some (.front bit) ↔
    HasCode geometry (.front bit) code.toNat := by
  constructor
  · intro found
    obtain ⟨rfl, low⟩ := code_of_ofCode? found
    exact ⟨low, rfl⟩
  · rintro ⟨low, number⟩
    obtain rfl := UInt8.toNat_inj.mp number
    exact ofCode?_front geometry low

theorem hasCode_of_ofCode? {key : Key} (found : ofCode? geometry code = some key) :
    HasCode geometry key code.toNat := by
  cases key with
  | routing column => exact ofCode?_eq_routing_iff.mp found
  | status index => exact (ofCode?_eq_status_iff.mp found).2
  | front bit => exact ofCode?_eq_front_iff.mp found

theorem ofCode?_eq_none_iff :
    ofCode? geometry code = none ↔ ∀ key, ¬ HasCode geometry key code.toNat := by
  constructor
  · intro missing key coded
    have unreached := missing
    unfold ofCode? at unreached
    split_ifs at unreached with routing status low
    cases key with
    | routing column => exact routing (hasCode_routing_iff.mp coded).1
    | status index => exact status (hasCode_status_iff.mp coded).1
    | front bit => cases missing.symm.trans (ofCode?_eq_front_iff.mpr coded)
  · intro uncoded
    by_contra found
    obtain ⟨key, found⟩ := Option.ne_none_iff_exists'.mp found
    exact uncoded key (hasCode_of_ofCode? found)

/-- The code of a key that a byte reports fits into a byte. -/
theorem HasCode.code_eq {key : Key} (coded : HasCode geometry key code.toNat) :
    key.code = code := by
  obtain ⟨_, number⟩ := coded
  have bound := code.toNat_lt
  rw [← UInt8.toNat_inj]
  cases key <;> simp only [Key.number, Key.code, routingBase, statusBase, UInt8.toNat_add,
    UInt8.reduceToNat] at number ⊢ <;> omega

end

section

variable {geometry : Geometry}

/-- The sum does not wrap around, and the codes end where those of the status keys begin. -/
theorem toNat_code_routing (columns : geometry.columns ≤ 80) {column : UInt8}
    (on : column < geometry.columns) :
    (code (.routing column)).toNat = 0x20 + column.toNat ∧ 0x20 + column.toNat < 0x70 := by
  have columns : geometry.columns.toNat ≤ 80 := UInt8.le_iff_toNat_le.mp columns
  have on : column.toNat < geometry.columns.toNat := UInt8.lt_iff_toNat_lt.mp on
  simp only [code, routingBase, UInt8.toNat_add, UInt8.reduceToNat]
  omega

/-- The codes end below the signals of the link. -/
theorem toNat_code_status (statusCells : geometry.statusCells ≤ 13) {index : UInt8}
    (on : index < geometry.statusCells) :
    (code (.status index)).toNat = 0x70 + index.toNat ∧ 0x70 + index.toNat < 0x7D := by
  have statusCells : geometry.statusCells.toNat ≤ 13 := UInt8.le_iff_toNat_le.mp statusCells
  have on : index.toNat < geometry.statusCells.toNat := UInt8.lt_iff_toNat_lt.mp on
  simp only [code, statusBase, UInt8.toNat_add, UInt8.reduceToNat]
  omega

variable (columns : geometry.columns ≤ 80) (statusCells : geometry.statusCells ≤ 13)
include columns statusCells

theorem code_lt {key : Key} (on : key.On geometry) : key.code.toNat < 0x7D := by
  cases key with
  | routing column =>
    have number := toNat_code_routing columns on
    omega
  | status index =>
    have number := toNat_code_status statusCells on
    omega
  | front bit => exact Nat.lt_trans (UInt8.lt_iff_toNat_lt.mp on) (by decide)

theorem ofCode?_code {key : Key} (on : key.On geometry) : ofCode? geometry key.code = some key := by
  cases key with
  | routing column =>
    have number := toNat_code_routing columns on
    have reached : inRange routingBase geometry.columns (code (.routing column)) = true := by
      rw [inRange_iff, number.1]
      exact ⟨Nat.le_add_right _ _, Nat.add_lt_add_left (UInt8.lt_iff_toNat_lt.mp on) _⟩
    rw [ofCode?, if_pos reached, code, UInt8.add_comm, UInt8.add_sub_cancel]
  | status index =>
    have number := toNat_code_status statusCells on
    have columns : geometry.columns.toNat ≤ 80 := UInt8.le_iff_toNat_le.mp columns
    have past : ¬ inRange routingBase geometry.columns (code (.status index)) = true := by
      rw [inRange_iff, number.1]
      simp [routingBase]
      omega
    have reached : inRange statusBase geometry.statusCells (code (.status index)) = true := by
      rw [inRange_iff, number.1]
      exact ⟨Nat.le_add_right _ _, Nat.add_lt_add_left (UInt8.lt_iff_toNat_lt.mp on) _⟩
    rw [ofCode?, if_neg past, if_pos reached, code, UInt8.add_comm, UInt8.add_sub_cancel]
  | front bit => exact ofCode?_front geometry on

/-- The keys with the lowest codes are the front keys. -/
theorem eq_front_of_code_lt {key : Key} (on : key.On geometry) (low : key.code < frontLimit) :
    key = .front key.code := by
  have coded := ofCode?_code columns statusCells on
  rw [ofCode?_front geometry low] at coded
  exact (Option.some.inj coded).symm

end

end Key

namespace KeyEvent

theorem toNat_and_not_releaseBit (byte : UInt8) :
    (byte &&& ~~~releaseBit).toNat = byte.toNat % 128 := by
  have mask : (~~~releaseBit).toNat = 2 ^ 7 - 1 := by decide
  rw [UInt8.toNat_and, mask, Nat.and_two_pow_sub_one_eq_mod]

theorem and_releaseBit_eq_zero_iff (byte : UInt8) :
    byte &&& releaseBit = 0 ↔ byte.toNat < 128 := by
  have bound := byte.toNat_lt
  have mask : releaseBit.toNat = 2 ^ 7 := by decide
  rw [← UInt8.toNat_inj, UInt8.toNat_and, mask, Nat.and_two_pow,
    Nat.testBit_eq_decide_div_mod_eq]
  simp
  omega

theorem toNat_or_releaseBit {code : UInt8} (low : code.toNat < 128) :
    (code ||| releaseBit).toNat = code.toNat + 128 := by
  have mask : releaseBit.toNat = 2 ^ 7 * 1 := by decide
  rw [UInt8.toNat_or, mask, Nat.or_comm, ← Nat.two_pow_add_eq_or_of_lt low]
  omega

theorem toNat_toByte (event : KeyEvent) (low : event.key.code.toNat < 128) :
    event.toByte.toNat = event.key.code.toNat + if event.released then 128 else 0 := by
  unfold toByte
  split_ifs
  · exact toNat_or_releaseBit low
  · rfl

/-- The code and the direction of an event can be told from its byte. -/
theorem and_toByte {event : KeyEvent} (low : event.key.code.toNat < 128) :
    event.toByte &&& ~~~releaseBit = event.key.code ∧
      (event.toByte &&& releaseBit != 0) = event.released := by
  constructor
  · rw [← UInt8.toNat_inj, toNat_and_not_releaseBit, toNat_toByte event low]
    split_ifs <;> omega
  · rw [Bool.eq_iff_iff, bne_iff_ne, ne_eq, and_releaseBit_eq_zero_iff, toNat_toByte event low]
    split_ifs with released
    · exact iff_of_true (by omega) released
    · exact iff_of_false (by omega) released

theorem ofByte?_toByte {geometry : Geometry} {event : KeyEvent}
    (low : event.key.code.toNat < 128)
    (coded : Key.ofCode? geometry event.key.code = some event.key) :
    ofByte? geometry event.toByte = some event := by
  obtain ⟨code, released⟩ := and_toByte low
  rw [ofByte?, code, coded, Option.map_some, released]

/-- A front key that a byte reports has the number that is left without the high bit. -/
theorem code_of_ofByte? {geometry : Geometry} {byte bit : UInt8} {released : Bool}
    (h : ofByte? geometry byte = some ⟨.front bit, released⟩) :
    bit = byte &&& ~~~releaseBit ∧ bit < Key.frontLimit := by
  obtain ⟨key, found, same⟩ := Option.map_eq_some_iff.mp h
  obtain ⟨rfl, _⟩ := KeyEvent.mk.inj same
  obtain ⟨rfl, low⟩ := Key.code_of_ofCode? found
  exact ⟨rfl, low⟩

/-- The byte of a press tells the routing key, which is one of the display. -/
theorem routing_of_ofByte? {geometry : Geometry} {byte column : UInt8}
    (h : ofByte? geometry byte = some ⟨.routing column, false⟩) :
    column < geometry.columns ∧ byte.toNat = 0x20 + column.toNat := by
  obtain ⟨key, found, same⟩ := Option.map_eq_some_iff.mp h
  obtain ⟨rfl, pressed⟩ := KeyEvent.mk.inj same
  have pressed : byte &&& releaseBit = 0 := by simpa using pressed
  have low := (and_releaseBit_eq_zero_iff byte).mp pressed
  obtain ⟨on, code⟩ := Key.ofCode?_eq_routing_iff.mp found
  rw [toNat_and_not_releaseBit, Nat.mod_eq_of_lt low] at code
  exact ⟨on, code⟩

/-! ## Events -/

/-- Whether a key was let go is the high bit. -/
theorem released_of_ofByte? {geometry : Geometry} {byte : UInt8} {event : KeyEvent}
    (found : ofByte? geometry byte = some event) :
    event.released = true ↔ 0x80 ≤ byte.toNat := by
  obtain ⟨key, _, rfl⟩ := Option.map_eq_some_iff.mp found
  rw [bne_iff_ne, ne_eq, and_releaseBit_eq_zero_iff, Nat.not_lt]

/-- A byte that reports an event is the byte of the event. -/
theorem toByte_of_ofByte? {geometry : Geometry} {byte : UInt8} {event : KeyEvent}
    (found : ofByte? geometry byte = some event) : event.toByte = byte := by
  have high := released_of_ofByte? found
  obtain ⟨key, coded, rfl⟩ := Option.map_eq_some_iff.mp found
  have code := (Key.hasCode_of_ofCode? coded).code_eq
  have number : key.code.toNat = byte.toNat % 128 := by rw [code, toNat_and_not_releaseBit]
  have bound := byte.toNat_lt
  rw [← UInt8.toNat_inj, toNat_toByte _ (by rw [number]; omega), number]
  split_ifs with released
  · have := high.mp released
    omega
  · have := mt high.mpr released
    omega

/-- The two bytes of a key differ in the high bit. -/
theorem xor_toByte {key : Key} (low : key.code.toNat < 128) :
    toByte ⟨key, false⟩ ^^^ toByte ⟨key, true⟩ = releaseBit := by
  have mask : releaseBit.toNat = 2 ^ 7 := by decide
  have high : key.code.toNat.testBit 7 = false := Nat.testBit_lt_two_pow low
  change key.code ^^^ (key.code ||| releaseBit) = releaseBit
  rw [← UInt8.toNat_inj, UInt8.toNat_xor, UInt8.toNat_or, mask]
  refine Nat.eq_of_testBit_eq fun i => ?_
  rw [Nat.testBit_xor, Nat.testBit_or, Nat.testBit_two_pow]
  by_cases same : 7 = i
  · rw [← same, high]
    rfl
  · simp [same]

section

variable {geometry : Geometry} (columns : geometry.columns ≤ 80)
  (statusCells : geometry.statusCells ≤ 13)
include columns statusCells

theorem ofByte?_eq_some_iff {event : KeyEvent} (on : event.key.On geometry) {byte : UInt8} :
    ofByte? geometry byte = some event ↔ byte = event.toByte := by
  constructor
  · exact fun found => (toByte_of_ofByte? found).symm
  · rintro rfl
    have low := Key.code_lt columns statusCells on
    exact ofByte?_toByte (by omega) (Key.ofCode?_code columns statusCells on)

/-- No key is taken for an announcement or an acknowledgement. -/
theorem toByte_ne_signal {event : KeyEvent} (on : event.key.On geometry) :
    event.toByte ≠ Signal.announce ∧ event.toByte ≠ Signal.taken ∧
      event.toByte ≠ Signal.takenMore := by
  have low := Key.code_lt columns statusCells on
  simp only [ne_eq, ← UInt8.toNat_inj, event.toNat_toByte (by omega), Signal.announce,
    Signal.taken, Signal.takenMore, UInt8.reduceToNat]
  split_ifs <;> omega

end

/-- A byte tells the key event that it reports. Its code is that of a routing key, or else of a
status key, or else of a front key of the display, or it reports nothing; the high bit marks a
release; and the event has no other byte. The ranges are computed without overflow: their ends fit
into 16 bits, and the first code is only taken away from a code that is not below it. On displays of
up to 80 columns and 13 status cells each key has exactly two bytes, one for its press and one for
its release, which differ in the high bit and are not signals of the link. -/
theorem bytes_tell_key_events :
    (∀ (geometry : Geometry) (byte : UInt8),
      let found := ofByte? geometry byte
      let code := byte.toNat % 0x80
      (∀ column, found.map KeyEvent.key = some (.routing column) ↔
        Key.HasCode geometry (.routing column) code) ∧
      (∀ index, found.map KeyEvent.key = some (.status index) ↔
        (∀ column, ¬ Key.HasCode geometry (.routing column) code) ∧
          Key.HasCode geometry (.status index) code) ∧
      (∀ bit, found.map KeyEvent.key = some (.front bit) ↔
        Key.HasCode geometry (.front bit) code) ∧
      (found = none ↔ ∀ key, ¬ Key.HasCode geometry key code) ∧
      ∀ event, found = some event →
        (event.released = true ↔ 0x80 ≤ byte.toNat) ∧ event.toByte = byte) ∧
    (∀ first count code : UInt8,
      (first.toUInt16 + count.toUInt16).toNat = first.toNat + count.toNat ∧
      (Key.inRange first count code = true ↔
        first ≤ code ∧ code.toUInt16 < first.toUInt16 + count.toUInt16) ∧
      (Key.inRange first count code = true →
        first.toNat + (code - first).toNat = code.toNat)) ∧
    ∀ geometry : Geometry, geometry.columns ≤ 80 → geometry.statusCells ≤ 13 →
      ∀ key : Key, key.On geometry →
        let press := toByte ⟨key, false⟩
        let release := toByte ⟨key, true⟩
        (∀ byte, ofByte? geometry byte = some ⟨key, false⟩ ↔ byte = press) ∧
        (∀ byte, ofByte? geometry byte = some ⟨key, true⟩ ↔ byte = release) ∧
        press ^^^ release = 0x80 ∧
        ∀ signal ∈ [Signal.takenMore, Signal.taken, Signal.announce],
          press ≠ signal ∧ release ≠ signal := by
  refine ⟨?_, fun first count code => ⟨?_, ?_, ?_⟩, ?_⟩
  · intro geometry byte found code
    have key : found.map KeyEvent.key = Key.ofCode? geometry (byte &&& ~~~releaseBit) := by
      simp only [found, ofByte?, Option.map_map, Function.comp_def, Option.map_id']
    have number : code = (byte &&& ~~~releaseBit).toNat := (toNat_and_not_releaseBit byte).symm
    rw [key, number]
    refine ⟨fun _ => Key.ofCode?_eq_routing_iff, fun _ => Key.ofCode?_eq_status_iff,
      fun _ => Key.ofCode?_eq_front_iff, ?_, fun event reported => ?_⟩
    · rw [← Key.ofCode?_eq_none_iff, ← key, Option.map_eq_none_iff]
    · exact ⟨released_of_ofByte? reported, toByte_of_ofByte? reported⟩
  · exact Key.toNat_add_words first count
  · exact Key.inRange_iff_words
  · exact fun reached => (Key.inRange_sub_iff.mp ⟨reached, rfl⟩).2.symm
  · intro geometry columns statusCells key on press release
    have low := Key.code_lt columns statusCells on
    have pressed : press ≠ _ ∧ press ≠ _ ∧ press ≠ _ := toByte_ne_signal columns statusCells on
    have released : release ≠ _ ∧ release ≠ _ ∧ release ≠ _ :=
      toByte_ne_signal columns statusCells on
    refine ⟨fun _ => ofByte?_eq_some_iff columns statusCells on,
      fun _ => ofByte?_eq_some_iff columns statusCells on, xor_toByte (by omega), ?_⟩
    simp only [List.forall_mem_cons, List.not_mem_nil, false_imp_iff, implies_true, and_true]
    exact ⟨⟨pressed.2.2, released.2.2⟩, ⟨pressed.2.1, released.2.1⟩, pressed.1, released.1⟩

/-- The last status key that fits comes right below the signals, and its release below the
announcement. -/
theorem bytes_tell_key_events_last :
    let geometry : Geometry := ⟨80, 13⟩
    let key : Key := .status 12
    geometry.columns ≤ 80 ∧ geometry.statusCells ≤ 13 ∧ key.On geometry ∧
    toByte ⟨key, false⟩ = 0x7C ∧ toByte ⟨key, true⟩ = 0xFC ∧
    (∀ byte, ofByte? geometry byte = some ⟨key, false⟩ ↔ byte = 0x7C) ∧
    (∀ byte, ofByte? geometry byte = some ⟨key, true⟩ ↔ byte = 0xFC) := by
  have told := bytes_tell_key_events.2.2 ⟨80, 13⟩ (by decide) (by decide) (.status 12) (by decide)
  exact ⟨by decide, by decide, by decide, by decide, by decide, told.1, told.2.1⟩

end KeyEvent

end BrailleDisplay
