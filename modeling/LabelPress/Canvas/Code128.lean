import LabelPress.Canvas.Draw

/-!
# Code 128, subset B

A bar code is a row of modules, bars where a module is black. Each character has a pattern of
eleven modules; a start pattern precedes them and a stop pattern of thirteen modules follows. No
check character is added, and characters outside the table are skipped.

* `Code128.encode`: the patterns of a text.
* `Canvas.drawCode128`: the bars drawn, and the width of the whole.
* `Code128.length_pattern`: every pattern of the table has eleven modules.
-/

namespace LabelPress

namespace Code128

/-- The start pattern. -/
def start : String := "11010010000"

/-- The stop pattern. -/
def stop : String := "1100011101011"

/-- The pattern of each character, from the space to `Z` in the order of their code points. -/
def patterns : List String :=
  ["11011001100", "11001101100", "11001100110", "10010011000", "10010001100", "10001001100",
    "10011001000", "10011000100", "10001100100", "11001001000", "11001000100", "11000100100",
    "10110011100", "10011011100", "10011001110", "10111001100", "10011101100", "10011100110",
    "11001110010", "11001011100", "11001001110", "11011100100", "11001110100", "11101101110",
    "11101001100", "11100101100", "11100100110", "11101100100", "11100110100", "11100110010",
    "11011011000", "11011000110", "11000110110", "10100011000", "10001011000", "10001000110",
    "10110001000", "10001101000", "10001100010", "11010001000", "11000101000", "11000100010",
    "10110111000", "10110001110", "10001101110", "10111011000", "10111000110", "10001110110",
    "11101110110", "11010001110", "11000101110", "11011101000", "11011100010", "11011101110",
    "11101011000", "11101000110", "11100010110", "11101101000", "11101100010"]

/-- The pattern of a character, if it has one. -/
def pattern? (c : Char) : Option String := if c < ' ' then none else patterns[c.toNat - 32]?

/-- **The patterns of a text**: start, one for each character of the table, stop. -/
def encode (data : List Char) : List String := start :: data.filterMap pattern? ++ [stop]

/-- The modules of a text, true where there is a bar. -/
def modules (data : List Char) : List Bool :=
  (encode data).flatMap fun p => p.toList.map (· == '1')

theorem length_pattern : ∀ p ∈ patterns, p.toList.length = 11 := by decide

end Code128

/-- Draw one bar for each black module, from `cursor` on. -/
def Canvas.drawModules (y height moduleWidth : Int) : Int → List Bool → Draw Unit
  | _, [] => pure ()
  | cursor, black :: rest => do
    if black then
      fillRect cursor y moduleWidth height Canvas.black.toNat
    drawModules y height moduleWidth (cursor + moduleWidth) rest

/-- **Draw a bar code**; the answer is its whole width. -/
def Canvas.drawCode128 (data : List Char) (x y height moduleWidth : Int) : Draw Int := do
  let modules := Code128.modules data
  drawModules y height moduleWidth x modules
  return moduleWidth * modules.length

end LabelPress
