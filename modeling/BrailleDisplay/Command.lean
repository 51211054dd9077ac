/-!
# Commands

What a key event means to the host. The driver only names commands; the host decides what each one
does. `name` is the word under which the host knows an action.
-/
namespace BrailleDisplay

/-- A command that needs no further data: moving the window and the cursor, switching features,
help and menus, speech and clipboard. -/
inductive Action where
  | fullWindowLeft | fullWindowRight | halfWindowLeft | halfWindowRight | charLeft | charRight
  | lineUp | lineDown | lineBegin | lineEnd | top | bottom | topLeft | bottomLeft | home | back
  | prevParagraph | nextParagraph | prevPrompt | nextPrompt | prevSearch | nextSearch
  | attrUp | attrDown | windowUp | windowDown | prevDiffLine | nextDiffLine
  | cursorTracking | cursorVisible | cursorSize | attrVisible | sixDots | tunes | freeze
  | displayMode | skipIdenticalLines | skipBlankWindows | slidingWindow
  | help | info | prefMenu | prefLoad | prefSave | menuPrevItem | menuNextItem | menuFirstItem
  | menuLastItem | menuPrevSetting | menuNextSetting
  | mute | sayLine | paste
  deriving Repr, DecidableEq

/-- A command that is applied at a display column. -/
inductive ColumnAction where
  | route | setLeft | describeChar | cutBegin | cutAppend | cutRectangle | cutLine
  | prevIndent | nextIndent | setMark | gotoMark | switchVt
  deriving Repr, DecidableEq

/-- A key that is passed on as if it were typed on a keyboard. Function keys count from zero. -/
inductive HostKey where
  | enter | cursorUp | cursorDown
  | function (number : UInt8)
  deriving Repr, DecidableEq

/-- What the host is told after a key event. -/
inductive Command where
  /-- Keys are down, but nothing is to be done yet. -/
  | noop
  | perform (action : Action)
  | atColumn (action : ColumnAction) (column : UInt8)
  /-- Types a cell in host dot order. -/
  | typeDots (dots : UInt8) (control alt : Bool)
  | typeKey (key : HostKey)
  deriving Repr, DecidableEq

def Command.isNoop : Command → Bool
  | .noop => true
  | _ => false

def Action.name : Action → String
  | .fullWindowLeft => "FullWindowLeft"
  | .fullWindowRight => "FullWindowRight"
  | .halfWindowLeft => "HalfWindowLeft"
  | .halfWindowRight => "HalfWindowRight"
  | .charLeft => "CharLeft"
  | .charRight => "CharRight"
  | .lineUp => "LineUp"
  | .lineDown => "LineDown"
  | .lineBegin => "LineBegin"
  | .lineEnd => "LineEnd"
  | .top => "Top"
  | .bottom => "Bottom"
  | .topLeft => "TopLeft"
  | .bottomLeft => "BottomLeft"
  | .home => "Home"
  | .back => "Back"
  | .prevParagraph => "PrevParagraph"
  | .nextParagraph => "NextParagraph"
  | .prevPrompt => "PrevPrompt"
  | .nextPrompt => "NextPrompt"
  | .prevSearch => "PrevSearch"
  | .nextSearch => "NextSearch"
  | .attrUp => "AttrUp"
  | .attrDown => "AttrDown"
  | .windowUp => "WindowUp"
  | .windowDown => "WindowDown"
  | .prevDiffLine => "PrevDiffLine"
  | .nextDiffLine => "NextDiffLine"
  | .cursorTracking => "CursorTracking"
  | .cursorVisible => "CursorVisible"
  | .cursorSize => "CursorSize"
  | .attrVisible => "AttrVisible"
  | .sixDots => "SixDots"
  | .tunes => "Tunes"
  | .freeze => "Freeze"
  | .displayMode => "DisplayMode"
  | .skipIdenticalLines => "SkipIdenticalLines"
  | .skipBlankWindows => "SkipBlankWindows"
  | .slidingWindow => "SlidingWindow"
  | .help => "Help"
  | .info => "Info"
  | .prefMenu => "PrefMenu"
  | .prefLoad => "PrefLoad"
  | .prefSave => "PrefSave"
  | .menuPrevItem => "MenuPrevItem"
  | .menuNextItem => "MenuNextItem"
  | .menuFirstItem => "MenuFirstItem"
  | .menuLastItem => "MenuLastItem"
  | .menuPrevSetting => "MenuPrevSetting"
  | .menuNextSetting => "MenuNextSetting"
  | .mute => "Mute"
  | .sayLine => "SayLine"
  | .paste => "Paste"

def ColumnAction.name : ColumnAction → String
  | .route => "Route"
  | .setLeft => "SetLeft"
  | .describeChar => "DescribeChar"
  | .cutBegin => "CutBegin"
  | .cutAppend => "CutAppend"
  | .cutRectangle => "CutRectangle"
  | .cutLine => "CutLine"
  | .prevIndent => "PrevIndent"
  | .nextIndent => "NextIndent"
  | .setMark => "SetMark"
  | .gotoMark => "GotoMark"
  | .switchVt => "SwitchVt"

end BrailleDisplay
