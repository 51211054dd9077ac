/-!
# Configuration data

The values that a configuration file can hold, whatever its syntax.
-/
namespace BrailleDisplay

inductive Datum where
  | null
  | boolean (value : Bool)
  | integer (value : Int)
  /-- A number that is not written as an integer. -/
  | fraction
  | text (value : String)
  | list (items : List Datum)
  | record (fields : List (String × Datum))
  deriving Repr, Inhabited

namespace Datum

/-- An integer that is at least zero and below `limit`. -/
def below? (limit : Nat) : Datum → Option Nat
  | .integer (.ofNat n) => if n < limit then some n else none
  | _ => none

/-- An integer from 0 to 255. -/
def byte? (datum : Datum) : Option UInt8 := (datum.below? UInt8.size).map UInt8.ofNat

/-- An integer from 0 to 2³² - 1. -/
def word? (datum : Datum) : Option UInt32 := (datum.below? UInt32.size).map UInt32.ofNat

/-- The datum is a name, as text or as the only name in a record, where nothing goes with it. -/
def Names (datum : Datum) (name : String) : Prop :=
  datum = .text name ∨ datum = .record [(name, .null)]

def ofByte (value : UInt8) : Datum := .integer (.ofNat value.toNat)

def ofWord (value : UInt32) : Datum := .integer (.ofNat value.toNat)

theorem byte?_ofByte (value : UInt8) : (ofByte value).byte? = some value := by
  simp [ofByte, byte?, below?, value.toNat_lt]

theorem word?_ofWord (value : UInt32) : (ofWord value).word? = some value := by
  simp [ofWord, word?, below?, value.toNat_lt]

end Datum

end BrailleDisplay
