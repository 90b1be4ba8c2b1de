/-!
# The cyclic redundancy check of 32 bits

The checksum of picture files: polynomial `0xedb88320`, bits taken from the lowest up, begun and
ended with an inversion.

* `crc32`: the checksum of some bytes.
* `update_append`: bytes may be fed in parts.
-/

namespace LabelPress.Crc32

/-- One bit of the division by the polynomial. -/
def shiftOut (r : UInt32) : UInt32 := if r &&& 1 = 1 then (r >>> 1) ^^^ 0xedb88320 else r >>> 1

/-- What the eight bits of byte `n` leave behind. -/
def entry (n : Nat) : UInt32 := (List.range 8).foldl (fun r _ => shiftOut r) (UInt32.ofNat n)

/-- The entries of all bytes. -/
def table : Array UInt32 := (Array.range 256).map entry

/-- Feed one byte. -/
def feed (r : UInt32) (b : UInt8) : UInt32 :=
  table[(r.toUInt8 ^^^ b).toNat]?.getD 0 ^^^ (r >>> 8)

/-- Feed bytes in order. -/
def update (r : UInt32) (bytes : List UInt8) : UInt32 := bytes.foldl feed r

/-- **The checksum of some bytes.** -/
def crc32 (bytes : Array UInt8) : UInt32 := bytes.foldl feed 0xffffffff ^^^ 0xffffffff

theorem update_append (r : UInt32) (a b : List UInt8) :
    update r (a ++ b) = update (update r a) b := by
  simp [update]

end LabelPress.Crc32
