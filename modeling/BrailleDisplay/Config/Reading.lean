import BrailleDisplay.Config
import BrailleDisplay.Config.Layout

/-!
# Reading and writing configurations

A configuration is read by a library, which is told of its fields and of the defaults: a field that
is missing keeps its default. The line settings are a field of the configuration with fields of
their own. None of these has a default, so if the line settings are there, they are all there.
-/
namespace BrailleDisplay

/-! ## Line settings -/

namespace LineSettings

inductive Field where
  | baudrate | dataBits | parity | stopBits
  deriving Repr, DecidableEq

namespace Field

/-- The fields in the order of their declaration. -/
def all : List Field := [.baudrate, .dataBits, .parity, .stopBits]

def name : Field → String
  | .baudrate => "baudrate"
  | .dataBits => "data_bits"
  | .parity => "parity"
  | .stopBits => "stop_bits"

def Value : Field → Type
  | .baudrate => UInt32
  | .dataBits => DataBits
  | .parity => Parity
  | .stopBits => StopBits

def read (reader : DataReader) : (field : Field) → Datum → Option field.Value
  | .baudrate => reader.word?
  | .dataBits => reader.choice? DataBits.name DataBits.all
  | .parity => reader.choice? Parity.name Parity.all
  | .stopBits => reader.choice? StopBits.name StopBits.all

def write : (field : Field) → field.Value → Datum
  | .baudrate => .ofWord
  | .dataBits => fun value => .text value.name
  | .parity => fun value => .text value.name
  | .stopBits => fun value => .text value.name

end Field

abbrev layout (reader : DataReader) : Layout where
  Field := Field
  order := Field.all
  name := Field.name
  Value := Field.Value
  read := Field.read reader
  mem_order field := by cases field <;> decide
  distinct := by decide

def get (settings : LineSettings) : (field : Field) → field.Value
  | .baudrate => settings.baudrate
  | .dataBits => settings.dataBits
  | .parity => settings.parity
  | .stopBits => settings.stopBits

def ofValues (values : ∀ field : Field, field.Value) : LineSettings where
  baudrate := values .baudrate
  dataBits := values .dataBits
  parity := values .parity
  stopBits := values .stopBits

/-- Reads line settings. None of them may be missing. -/
def ofDatum? (reader : DataReader) (datum : Datum) : Option LineSettings :=
  (reader.record? (layout reader) (fun _ => none) datum).map ofValues

def toDatum (settings : LineSettings) : Datum :=
  .record (Field.all.map fun field => (field.name, field.write (settings.get field)))

end LineSettings

/-! ## Configurations -/

namespace Config

inductive Field where
  | serial | openAttempts | identifyWait | readTimeout | disconnectGrace | resettingTimeout
  | identifyingTimeout | writingTimeout | maxRetries | repeatDelay | repeatInterval
  deriving Repr, DecidableEq

namespace Field

/-- The fields in the order of their declaration. -/
def all : List Field :=
  [ .serial, .openAttempts, .identifyWait, .readTimeout, .disconnectGrace, .resettingTimeout,
    .identifyingTimeout, .writingTimeout, .maxRetries, .repeatDelay, .repeatInterval ]

def name : Field → String
  | .serial => "serial"
  | .openAttempts => "open_attempts"
  | .identifyWait => "identify_wait_ms"
  | .readTimeout => "read_timeout_ms"
  | .disconnectGrace => "disconnect_grace_ms"
  | .resettingTimeout => "resetting_timeout_ms"
  | .identifyingTimeout => "identifying_timeout_ms"
  | .writingTimeout => "writing_timeout_ms"
  | .maxRetries => "max_retries"
  | .repeatDelay => "repeat_delay"
  | .repeatInterval => "repeat_interval"

def Value : Field → Type
  | .serial => LineSettings
  | .openAttempts | .maxRetries | .repeatDelay | .repeatInterval => UInt8
  | .identifyWait | .readTimeout | .disconnectGrace | .resettingTimeout | .identifyingTimeout
  | .writingTimeout => UInt32

def read (reader : DataReader) : (field : Field) → Datum → Option field.Value
  | .serial => LineSettings.ofDatum? reader
  | .openAttempts | .maxRetries | .repeatDelay | .repeatInterval => reader.byte?
  | .identifyWait | .readTimeout | .disconnectGrace | .resettingTimeout | .identifyingTimeout
  | .writingTimeout => reader.word?

def write : (field : Field) → field.Value → Datum
  | .serial => LineSettings.toDatum
  | .openAttempts | .maxRetries | .repeatDelay | .repeatInterval => .ofByte
  | .identifyWait | .readTimeout | .disconnectGrace | .resettingTimeout | .identifyingTimeout
  | .writingTimeout => .ofWord

end Field

abbrev layout (reader : DataReader) : Layout where
  Field := Field
  order := Field.all
  name := Field.name
  Value := Field.Value
  read := Field.read reader
  mem_order field := by cases field <;> decide
  distinct := by decide

def get (config : Config) : (field : Field) → field.Value
  | .serial => config.serial
  | .openAttempts => config.openAttempts
  | .identifyWait => config.identifyWait
  | .readTimeout => config.readTimeout
  | .disconnectGrace => config.disconnectGrace
  | .resettingTimeout => config.resettingTimeout
  | .identifyingTimeout => config.identifyingTimeout
  | .writingTimeout => config.writingTimeout
  | .maxRetries => config.maxRetries
  | .repeatDelay => config.repeatDelay
  | .repeatInterval => config.repeatInterval

def ofValues (values : ∀ field : Field, field.Value) : Config where
  serial := values .serial
  openAttempts := values .openAttempts
  identifyWait := values .identifyWait
  readTimeout := values .readTimeout
  disconnectGrace := values .disconnectGrace
  resettingTimeout := values .resettingTimeout
  identifyingTimeout := values .identifyingTimeout
  writingTimeout := values .writingTimeout
  maxRetries := values .maxRetries
  repeatDelay := values .repeatDelay
  repeatInterval := values .repeatInterval

/-- Reads a configuration over the defaults. -/
def ofDatum? (reader : DataReader) (datum : Datum) : Option Config :=
  (reader.record? (layout reader) (fun field => some (get {} field)) datum).map ofValues

/-- The entries that a configuration is written out as. -/
def entries (config : Config) : List (String × Datum) :=
  Field.all.map fun field => (field.name, field.write (config.get field))

def toDatum (config : Config) : Datum := .record config.entries

end Config

end BrailleDisplay
