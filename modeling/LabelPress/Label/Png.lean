import LabelPress.Label.Crc32
import LabelPress.Label.Render

/-!
# PNG files

The file of a preview: a signature and three chunks, each with its length in front and its checksum
behind. The rows are stored without compression, which every reader of the format accepts.

* `RenderedLabel.png`: the file of a label's preview.
* `length_chunk`: a chunk takes twelve bytes more than its data.
-/

namespace LabelPress.Png

/-- A number in four bytes, the highest first. -/
def bigEndian (n : Nat) : List UInt8 :=
  [UInt8.ofNat (n >>> 24), UInt8.ofNat (n >>> 16), UInt8.ofNat (n >>> 8), UInt8.ofNat n]

/-- The checksum behind compressed data: two sums modulo the largest prime below `2 ^ 16`. -/
def adler32 (data : List UInt8) : Nat :=
  let (a, b) := data.foldl (fun (a, b) d =>
    let a := (a + d.toNat) % 65521
    (a, (b + a) % 65521)) (1, 0)
  (b <<< 16) + a

/-- The most bytes that a stored block can hold. -/
def blockSize : Nat := 65535

/-- A stored block: is it the last, its length, the complement of that, and its data. -/
def storedBlock (isLast : Bool) (data : List UInt8) : List UInt8 :=
  let n := data.length
  let m := blockSize - n
  UInt8.ofNat isLast.toNat :: UInt8.ofNat n :: UInt8.ofNat (n / 256) :: UInt8.ofNat m ::
    UInt8.ofNat (m / 256) :: data

/-- Data in stored blocks. -/
def stored (data : List UInt8) : List UInt8 :=
  if data.length ≤ blockSize then storedBlock true data
  else storedBlock false (data.take blockSize) ++ stored (data.drop blockSize)
termination_by data.length
decreasing_by simp only [List.length_drop, blockSize] at *; omega

/-- Data as a compressed stream that happens to compress nothing. -/
def zlibStream (data : List UInt8) : List UInt8 :=
  [0x78, 0x01] ++ stored data ++ bigEndian (adler32 data)

/-- A chunk of a file; its name is of four letters. -/
def chunk (name : String) (data : List UInt8) : List UInt8 :=
  let body := name.toList.map (fun c => UInt8.ofNat c.toNat) ++ data
  bigEndian data.length ++ body ++ bigEndian (Crc32.crc32 body.toArray).toNat

/-- What every file begins with. -/
def signature : List UInt8 := [0x89, 0x50, 0x4e, 0x47, 0x0d, 0x0a, 0x1a, 0x0a]

/-- Packed rows, each with the mark of an unfiltered row in front. -/
def unfiltered (bitmap : Array UInt8) (rowBytes height : Nat) : List UInt8 :=
  (List.range height).flatMap fun y =>
    0 :: (bitmap.extract (y * rowBytes) ((y + 1) * rowBytes)).toList

/-- The file of a picture of one bit per dot. -/
def file (width height : Nat) (bitmap : List UInt8) (rowBytes : Nat) : List UInt8 :=
  signature ++
    chunk "IHDR" (bigEndian width ++ bigEndian height ++ [1, 0, 0, 0, 0]) ++
    chunk "IDAT" (zlibStream (unfiltered bitmap.toArray rowBytes height)) ++
    chunk "IEND" []

@[simp] theorem length_bigEndian (n : Nat) : (bigEndian n).length = 4 := rfl

/-- A chunk has its length, its name and its checksum around its data. -/
theorem length_chunk (name : String) (data : List UInt8) (h : name.toList.length = 4) :
    (chunk name data).length = data.length + 12 := by
  simp only [chunk, List.length_append, List.length_map, length_bigEndian, h]
  omega

end LabelPress.Png

namespace LabelPress

/-- **The file of a label's preview.** -/
def RenderedLabel.png (l : RenderedLabel) : List UInt8 :=
  Png.file l.width.toNat l.height.toNat l.preview l.rowBytes.toNat

end LabelPress
