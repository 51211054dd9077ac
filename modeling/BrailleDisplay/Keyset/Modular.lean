import BrailleDisplay.Command
import BrailleDisplay.Key.Chord

/-!
# The Modular keyset

Eight front keys above the cells, `b1` to `b8`, and a rocker with the ends `up` and `down`. A
routing key acts with the front keys held below it, a status key acts alone. Front keys are looked
up as a whole chord. Two chords switch the input mode; while it is `dots` the eight keys type a
braille cell, laid out 7 3 2 1 | 4 5 6 8, and chords that type nothing keep their command.
-/
namespace BrailleDisplay.Modular

def b1 : FrontKeys := frontKey 0x03
def b2 : FrontKeys := frontKey 0x07
def b3 : FrontKeys := frontKey 0x0B
def b4 : FrontKeys := frontKey 0x0F
def b5 : FrontKeys := frontKey 0x13
def b6 : FrontKeys := frontKey 0x17
def b7 : FrontKeys := frontKey 0x1B
def b8 : FrontKeys := frontKey 0x1F
def up : FrontKeys := frontKey 0x04
def down : FrontKeys := frontKey 0x08

/-- The eight keys that type dots. -/
def dotKeys : FrontKeys := b1 ||| b2 ||| b3 ||| b4 ||| b5 ||| b6 ||| b7 ||| b8

/-- The chord that ends dots mode. -/
def commandsChord : FrontKeys := b1 ||| b8 ||| up

/-- The chord that starts dots mode. -/
def dotsChord : FrontKeys := b1 ||| b8 ||| down

/-- The dot that each key types. -/
def dotLayout : List (FrontKeys × UInt8) :=
  [(b1, 0x40), (b2, 0x04), (b3, 0x02), (b4, 0x01), (b5, 0x08), (b6, 0x10), (b7, 0x20), (b8, 0x80)]

/-- Front keys held with a routing key. -/
def routingTable : List (FrontKeys × ColumnAction) :=
  [ (0, .route),
    (b1, .setLeft),
    (b2, .describeChar),
    (b3, .cutAppend),
    (b4, .cutBegin),
    (up, .prevIndent),
    (down, .nextIndent),
    (b5, .cutRectangle),
    (b6, .cutLine),
    (b7, .setMark),
    (b8, .gotoMark) ]

/-- Status keys, by index. -/
def statusTable : List Action :=
  [.help, .prefMenu, .info, .freeze]

/-- Chords of front keys. -/
def frontTable : List (FrontKeys × Action) :=
  [ (up, .fullWindowLeft),
    (down, .fullWindowRight),
    (b1, .home),
    (b1 ||| up, .lineBegin),
    (b1 ||| down, .lineEnd),
    (b2, .topLeft),
    (b2 ||| up, .top),
    (b2 ||| down, .bottom),
    (b3, .back),
    (b3 ||| up, .halfWindowLeft),
    (b3 ||| down, .halfWindowRight),
    (b6 ||| up, .charLeft),
    (b6 ||| down, .charRight),
    (b4, .lineUp),
    (b5, .lineDown),
    (b1 ||| b4, .prevParagraph),
    (b1 ||| b5, .nextParagraph),
    (b2 ||| b4, .prevPrompt),
    (b2 ||| b5, .nextPrompt),
    (b3 ||| b4, .prevSearch),
    (b3 ||| b5, .nextSearch),
    (b6 ||| b4, .attrUp),
    (b6 ||| b5, .attrDown),
    (b7 ||| b4, .windowUp),
    (b7 ||| b5, .windowDown),
    (b8 ||| b4, .prevDiffLine),
    (b8 ||| b5, .nextDiffLine),
    (b8, .help),
    (b8 ||| b1, .cursorTracking),
    (b8 ||| b2, .cursorVisible),
    (b8 ||| b3, .attrVisible),
    (b8 ||| b6, .sixDots),
    (b8 ||| b7, .tunes),
    (b7, .freeze),
    (b7 ||| b1, .prefMenu),
    (b7 ||| b2, .prefLoad),
    (b7 ||| b3, .prefSave),
    (b7 ||| b6, .info),
    (b6, .displayMode),
    (b6 ||| b1, .skipIdenticalLines),
    (b6 ||| b2, .skipBlankWindows),
    (b6 ||| b3, .slidingWindow),
    (b2 ||| b3 ||| up, .mute),
    (b2 ||| b3 ||| down, .sayLine),
    (up ||| down, .paste) ]

/-- The dots that a set of front keys types. -/
def dotsOf (front : FrontKeys) : UInt8 :=
  dotLayout.foldl (fun dots key => if front &&& key.1 = 0 then dots else dots ||| key.2) 0

/-- What a chord types in dots mode. The rocker adds control and alt to dots; alone, its upper end
types a blank cell and its lower end the enter key. -/
def typed? (front : FrontKeys) : Option Command :=
  if front &&& dotKeys ≠ 0 ∧ front &&& ~~~(dotKeys ||| up ||| down) = 0 then
    some (.typeDots (dotsOf front) (front &&& up != 0) (front &&& down != 0))
  else if front = up then some (.typeDots 0 false false)
  else if front = down then some (.typeKey .enter)
  else none

/-- What a chord of front keys alone means in a mode. -/
def resolveFront (front : FrontKeys) (mode : InputMode) : Option Command × InputMode :=
  if front = commandsChord then (none, .commands)
  else if front = dotsChord then (none, .dots)
  else
    let listed := (frontTable.lookup front).map Command.perform
    match mode with
    | .commands => (listed, mode)
    | .dots => ((typed? front).or listed, mode)

/-- The command that a chord gives, and the input mode after it. -/
def resolve (chord : Chord) (mode : InputMode) : Option Command × InputMode :=
  match chord.column, chord.status with
  | some column, _ => ((routingTable.lookup chord.front).map (.atColumn · column), mode)
  | none, some index => ((statusTable[index.toNat]?).map .perform, mode)
  | none, none => resolveFront chord.front mode

end BrailleDisplay.Modular
