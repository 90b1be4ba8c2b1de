import LabelPress.Label.Size

/-!
# The raster stream

What goes over the wire for one label: initialise, line spacing zero, a raster header with the bytes
of a row and the number of rows as two-byte words, the bitmap with 1 for black, and a paper feed.
Inside the program 1 is white, so the bitmap is inverted on the way.

* `encodeLabel`: the stream of a label.
* `extractBitmap`: the bitmap of a stream, for looking at recorded jobs.
* `invert_invert`: inverting twice changes nothing.
-/

namespace LabelPress.Wire

/-- Bytes on the wire. -/
abbrev Bytes := List UInt8

/-- Initialise the printer. -/
def initialise : Bytes := [0x1b, 0x40]

/-- Set the line spacing to zero. -/
def lineSpacingZero : Bytes := [0x1b, 0x33, 0x00]

/-- Begin a raster bitmap. -/
def rasterMode : Bytes := [0x1d, 0x76, 0x30, 0x00]

/-- Feed paper by a number of dots. -/
def feedDots : Bytes := [0x1b, 0x4a]

/-- The feed after a label, in millimetres, if none is given. -/
def defaultFeedMm : Float := 4

/-- Why a stream cannot be built or read. -/
inductive WireError where
  /-- A label is no wider than the print head. -/
  | tooWide (width : Int)
  /-- A label has at least one column and one row. -/
  | emptySize (width height : Int)
  /-- The number of rows does not fit the header. -/
  | tooHigh (height : Int)
  /-- The bitmap does not have the bytes that its size needs. -/
  | wrongLength (count : Nat) (expected width height : Int)
  /-- A header field does not fit its word. -/
  | wordRange
  /-- A header field does not even fit 64 bits. -/
  | beyondLong
  /-- The feed cannot be reckoned. -/
  | feed (e : ArithmeticError)
  /-- A stream begins otherwise. -/
  | foreign
  /-- A stream ends inside its header. -/
  | shortHeader (size : Nat)
  /-- A stream ends inside its bitmap. -/
  | shortBitmap
deriving Repr, DecidableEq

/-- The length of a stream's beginning, up to the header's two words. -/
def headerOffset : Nat := 9

/-- The wording of a failure. -/
def WireError.message : WireError → String
  | tooWide w => s!"Image width ({w}px) exceeds maximum ({maxWidth}px)"
  | emptySize w h => s!"Image size must be positive, got {w}x{h}"
  | tooHigh h => s!"Image height ({h}px) exceeds raster header limit"
  | wrongLength n m w h => s!"Bitmap has {n} bytes, expected {m} for {w}x{h}"
  | wordRange => "ushort format requires 0 <= number <= 65535"
  | beyondLong => "argument out of range"
  | feed e => e.message
  | foreign => "Stream does not start with init and raster header"
  | shortHeader n =>
    s!"unpack_from requires a buffer of at least {headerOffset + 4} bytes for unpacking 4 bytes " ++
      s!"at offset {headerOffset} (actual buffer size is {n})"
  | shortBitmap => "Stream is shorter than the declared bitmap"

/-- Does the label have a size that cannot be printed? -/
def WireError.isSize : WireError → Bool
  | tooWide _ | emptySize .. | tooHigh _ => true
  | _ => false

/-- The two bytes of a word, the lower first. -/
def word? (n : Int) : Except WireError Bytes :=
  if !fitsLong n then .error .beyondLong
  else if n < 0 ∨ 65535 < n then .error .wordRange
  else .ok [UInt8.ofNat (n.toNat % 256), UInt8.ofNat (n.toNat / 256)]

/-- What precedes every label. -/
def initCommand : Bytes := initialise ++ lineSpacingZero

/-- The header of a bitmap. -/
def rasterHeader (width height : Int) : Except WireError Bytes := do
  return rasterMode ++ (← word? (rowBytesOf width)) ++ (← word? height)

/-- Feed paper; one command feeds at most 255 dots, and never backwards. -/
def feedCommand (dots : Int) : Bytes := feedDots ++ [UInt8.ofNat (max 0 (min dots 255)).toNat]

/-- Exchange black and white. -/
def invert (bitmap : Bytes) : Bytes := bitmap.map (· ^^^ 0xff)

/-- **The stream of a label.** -/
def encodeLabel (bitmap : Bytes) (width height : Int) (feedMm : Measure) :
    Except WireError Bytes := do
  if (maxWidth : Int) < width then throw (.tooWide width)
  if width ≤ 0 ∨ height ≤ 0 then throw (.emptySize width height)
  if 65535 < height then throw (.tooHigh height)
  let expected := rowBytesOf width * height
  if (bitmap.length : Int) ≠ expected then
    throw (.wrongLength bitmap.length expected width height)
  let header ← rasterHeader width height
  let dots ← (dotsOf feedMm).mapError .feed
  return initCommand ++ header ++ invert bitmap ++ feedCommand dots

/-- The stream of a feed without a label. -/
def encodeFeed (mm : Measure) : Except ArithmeticError Bytes := (dotsOf mm).map feedCommand

/-- A bitmap found in a stream. -/
structure Extract where
  /-- The bytes of a row. -/
  rowBytes : Nat
  /-- The number of rows. -/
  height : Nat
  /-- The bitmap, 1 for white. -/
  bitmap : Bytes
deriving Repr, DecidableEq

/-- **The bitmap of a stream.** -/
def extractBitmap (stream : Bytes) : Except WireError Extract :=
  let start := initCommand ++ rasterMode
  if !start.isPrefixOf stream then .error .foreign
  else match stream.drop start.length with
    | a :: b :: c :: d :: rest =>
      let rowBytes := a.toNat + 256 * b.toNat
      let height := c.toNat + 256 * d.toNat
      if rest.length < rowBytes * height then .error .shortBitmap
      else .ok ⟨rowBytes, height, invert (rest.take (rowBytes * height))⟩
    | _ => .error (.shortHeader stream.length)

@[simp] theorem invert_invert (bitmap : Bytes) : invert (invert bitmap) = bitmap := by
  simp only [invert, List.map_map]
  have h : ((· ^^^ (0xff : UInt8)) ∘ (· ^^^ (0xff : UInt8))) = id := by
    funext b
    show b ^^^ 0xff ^^^ 0xff = b
    rw [UInt8.xor_assoc, UInt8.xor_self, UInt8.xor_zero]
  rw [h, List.map_id]

@[simp] theorem length_invert (bitmap : Bytes) : (invert bitmap).length = bitmap.length := by
  simp [invert]

end LabelPress.Wire
