/-!
# Signal bytes

The bytes that a host and a display exchange besides cells and keys. A display answers a describe
request with two announcement bytes and its identifier.
-/
namespace BrailleDisplay.Signal

/-- The host asks the display to identify itself. -/
def describe : UInt8 := 0xFF

/-- The display announces itself; its identifier follows. -/
def announce : UInt8 := 0xFE

/-- The display reports a fault, which silence afterwards confirms. -/
def fault : UInt8 := 0x06

/-- The display has taken the last frame. -/
def taken : UInt8 := 0x7E

/-- The display has taken the last frame and wants another one. -/
def takenMore : UInt8 := 0x7D

/-- Opens every cell frame. -/
def frameStart : List UInt8 := [0x01]

/-- Closes a cell frame of the Bookworm. -/
def bookwormFrameEnd : List UInt8 := [0x16]

/-- Sent to the Bookworm when its session closes. -/
def bookwormStop : List UInt8 := [0x05, 0x07]

end BrailleDisplay.Signal
