import LabelPress.Canvas.Tile
import LabelPress.Number.Room

/-!
# Bitmaps on the canvas

A packed bitmap is copied onto the canvas as it is: a bit 1 becomes white, a bit 0 black, and bytes
that are missing count as white.
-/

namespace LabelPress

/-- The bit of column `x` in a byte, the leftmost dot in the highest bit. -/
def bitAt (byte : UInt8) (x : Nat) : Bool := byte.toNat.testBit (7 - x % 8)

/-- The gray value of a dot of a packed bitmap. -/
def packedDot (data : Array UInt8) (rowBytes x y : Nat) : UInt8 :=
  if bitAt (data[y * rowBytes + x / 8]?.getD 255) x then Canvas.white else Canvas.black

/-- A bitmap of the given size, with the bytes that are missing, has to fit into memory. -/
def checkBitmapSize (rowBytes rows : Int) : Except DrawError Unit :=
  match roomFor (rowBytes * rows) with
  | .ok _ => .ok ()
  | .error .exhausted => .error .outOfMemory
  | .error _ => .error .bitmapTooLong

/-- **Copy a packed bitmap** with its corner at `(x, y)`; nothing if it has no rows or columns. -/
def Canvas.blit (data : List UInt8) (rowBytes rows x y : Int) : Draw Unit :=
  if rowBytes ≤ 0 ∨ rows ≤ 0 then pure ()
  else
    let checked : Except DrawError Unit := do
      checkBitmapSize rowBytes rows
      checkSize (8 * rowBytes) rows
      checkEdges x y (8 * rowBytes) rows
    match checked with
    | .error e => throw e
    | .ok () =>
      let bytes := data.toArray
      Canvas.edit fun c => c.paint ⟨x, y, x + 8 * rowBytes, y + rows⟩ fun i j _ =>
        packedDot bytes rowBytes.toNat (i - x).toNat (j - y).toNat

end LabelPress
