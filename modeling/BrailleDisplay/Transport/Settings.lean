/-!
# Line settings

How a serial line is set up. The names are those that a configuration uses and a record of transport
calls shows.
-/
namespace BrailleDisplay

inductive DataBits where
  | seven | eight
  deriving Repr, DecidableEq

inductive Parity where
  | none | even | odd
  deriving Repr, DecidableEq

inductive StopBits where
  | one | two
  deriving Repr, DecidableEq

/-- The displays talk at 19200 baud with eight data bits, odd parity and one stop bit. -/
structure LineSettings where
  baudrate : UInt32 := 19200
  dataBits : DataBits := .eight
  parity : Parity := .odd
  stopBits : StopBits := .one
  deriving Repr, DecidableEq

namespace DataBits

def all : List DataBits := [.seven, .eight]

def name : DataBits → String
  | .seven => "Seven"
  | .eight => "Eight"

end DataBits

namespace Parity

def all : List Parity := [.none, .even, .odd]

def name : Parity → String
  | .none => "None"
  | .even => "Even"
  | .odd => "Odd"

end Parity

namespace StopBits

def all : List StopBits := [.one, .two]

def name : StopBits → String
  | .one => "One"
  | .two => "Two"

end StopBits

/-- The settings in words, such as `19200 Eight Odd One`. -/
def LineSettings.text (settings : LineSettings) : String :=
  " ".intercalate [toString settings.baudrate.toNat, settings.dataBits.name, settings.parity.name,
    settings.stopBits.name]

end BrailleDisplay
