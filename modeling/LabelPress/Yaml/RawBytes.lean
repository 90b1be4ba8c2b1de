import LabelPress.Text.Quoted

/-!
# Raw bytes

Bytes stand in a document as letters of six bits, four letters for three bytes. Other characters are
passed over. A group of fewer than four letters must be filled up with padding, behind which nothing
counts any more.

* `rawBytes?`: the bytes that a text spells.
* `bytesText`: how bytes are worded in messages.
-/

namespace LabelPress.Yaml

/-- The six bits of a letter. -/
def sixBits? (c : Char) : Option Nat :=
  if 'A' ≤ c ∧ c ≤ 'Z' then some (c.toNat - 65)
  else if 'a' ≤ c ∧ c ≤ 'z' then some (c.toNat - 71)
  else if '0' ≤ c ∧ c ≤ '9' then some (c.toNat + 4)
  else if c = '+' then some 62
  else if c = '/' then some 63
  else none

/-- What was read of raw bytes. -/
structure Groups where
  /-- How many letters of the group were read. -/
  letters : Nat := 0
  /-- How many signs of padding came after them. -/
  pads : Nat := 0
  /-- The bits of the letters that belong to no byte yet. -/
  bits : Nat := 0
  /-- Did padding complete a group? -/
  complete : Bool := false
  /-- The bytes, the last one first. -/
  bytes : List UInt8 := []
deriving Repr, DecidableEq

namespace Groups

/-- Read the six bits of a letter. -/
def letter (g : Groups) (six : Nat) : Groups :=
  let all := g.bits * 64 + six
  match g.letters with
  | 0 => { g with letters := 1, pads := 0, bits := six }
  | 1 => { g with letters := 2, pads := 0, bits := all % 16, bytes := .ofNat (all / 16) :: g.bytes }
  | 2 => { g with letters := 3, pads := 0, bits := all % 4, bytes := .ofNat (all / 4) :: g.bytes }
  | _ => { g with letters := 0, pads := 0, bits := 0, bytes := .ofNat all :: g.bytes }

/-- Read a character: what is no letter and no padding is skipped. -/
def read (g : Groups) (c : Char) : Groups :=
  if g.complete then g
  else if c = '=' then
    if 2 ≤ g.letters then
      { g with pads := g.pads + 1, complete := decide (4 ≤ g.letters + g.pads + 1) }
    else g
  else match sixBits? c with
    | some six => g.letter six
    | none => g

end Groups

/-- **The bytes that a text spells**; it must not leave a group without padding. -/
def rawBytes? (text : List Char) : Option (List UInt8) :=
  let g := text.foldl Groups.read {}
  if text.all (·.toNat < 0x80) ∧ (g.complete ∨ g.letters = 0) then some g.bytes.reverse else none

/-- A byte inside quotes. -/
def quotedByte (quote : Char) (b : UInt8) : List Char :=
  let c := Char.ofNat b.toNat
  if c = quote ∨ c = '\\' then ['\\', c]
  else if c = '\n' then ['\\', 'n']
  else if c = '\r' then ['\\', 'r']
  else if c = '\t' then ['\\', 't']
  else if 0x20 ≤ b ∧ b < 0x7f then [c]
  else '\\' :: 'x' :: Text.hexText b.toNat 2

/-- **How bytes are worded**: a letter, and the bytes between quotes, most of them as the characters
that they stand for. -/
def bytesText (bs : List UInt8) : List Char :=
  let quote := if 0x27 ∈ bs ∧ 0x22 ∉ bs then '"' else '\''
  'b' :: quote :: bs.flatMap (quotedByte quote) ++ [quote]

end LabelPress.Yaml
