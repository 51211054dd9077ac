import BrailleDisplay.Keyset.Modular

/-!
# The Braille Star keyset

Two three-position rockers and two space bars stand beside the eight front keys of the Modular
keyset. The rockers have chords of their own. Any other chord of front keys and space bars is read
as a Modular chord, with the left space bar for `up` and the right one for `down`.
-/
namespace BrailleDisplay.BrailleStar

def spaceLeft : FrontKeys := frontKey 0x10
def spaceRight : FrontKeys := frontKey 0x18
def leftTop : FrontKeys := frontKey 0x0C
def leftBottom : FrontKeys := frontKey 0x14
def leftMiddle : FrontKeys := leftTop ||| leftBottom
def rightTop : FrontKeys := Modular.up
def rightBottom : FrontKeys := Modular.down
def rightMiddle : FrontKeys := rightTop ||| rightBottom

/-- The keys of the chords that are read as Modular chords. -/
def sharedKeys : FrontKeys := Modular.dotKeys ||| spaceLeft ||| spaceRight

/-- Rocker positions held with a routing key. -/
def routingTable : List (FrontKeys × ColumnAction) :=
  [ (leftTop, .cutBegin),
    (leftBottom, .cutAppend),
    (rightTop, .cutLine),
    (rightMiddle, .switchVt),
    (rightBottom, .cutRectangle) ]

/-- Rocker positions alone. -/
def frontTable : List (FrontKeys × Command) :=
  [ (leftTop, .typeKey .cursorUp),
    (rightTop, .perform .lineUp),
    (leftBottom, .typeKey .cursorDown),
    (rightBottom, .perform .lineDown),
    (leftMiddle, .perform .fullWindowLeft),
    (rightMiddle, .perform .fullWindowRight),
    (leftMiddle ||| rightMiddle, .perform .home),
    (rightMiddle ||| leftTop, .perform .topLeft),
    (rightMiddle ||| leftBottom, .perform .bottomLeft),
    (leftMiddle ||| rightTop, .perform .top),
    (leftMiddle ||| rightBottom, .perform .bottom),
    (leftTop ||| rightTop, .perform .prevDiffLine),
    (leftTop ||| rightBottom, .perform .nextDiffLine),
    (leftBottom ||| rightTop, .perform .attrUp),
    (leftBottom ||| rightBottom, .perform .attrDown) ]

/-- The command of a chord that holds rockers only. -/
def rocker? (chord : Chord) : Option Command :=
  match chord.column, chord.status with
  | some column, _ =>
    if chord.front = leftMiddle then some (.typeKey (.function column))
    else (routingTable.lookup chord.front).map (.atColumn · column)
  | none, some _ => none
  | none, none => frontTable.lookup chord.front

/-- Puts the front key `new` in the place of `old` wherever `old` is held. -/
def replaceKey (old new : FrontKeys) (front : FrontKeys) : FrontKeys :=
  if front &&& old = 0 then front else (front &&& ~~~old) ||| new

/-- The Modular chord that stands for a chord of front keys and space bars. -/
def asModular (chord : Chord) : Chord :=
  { chord with
    front := replaceKey spaceRight Modular.down (replaceKey spaceLeft Modular.up chord.front) }

/-- The command that a chord gives, and the input mode after it. -/
def resolve (chord : Chord) (mode : InputMode) : Option Command × InputMode :=
  match rocker? chord with
  | some command => (some command, mode)
  | none =>
    if chord.front &&& ~~~sharedKeys = 0 then Modular.resolve (asModular chord) mode
    else (none, mode)

end BrailleDisplay.BrailleStar
