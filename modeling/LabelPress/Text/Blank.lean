/-!
# Blank characters

The characters that separate words and that may surround a parameter: the Unicode white space
together with the four ASCII information separators. A zero-width space and a byte order mark are
not among them. Around a numeral the information separators do not count as blank.

* `isBlank`, `trim`, `squeeze`: the characters, and texts without them.
* `isMargin`, `trimMargin`: those that may surround a numeral.
* `trimLeft_cons_of_not_blank`: trimming stops at the first character that is not blank.
-/

namespace LabelPress.Text

/-- Is the character blank? -/
def isBlank (c : Char) : Bool :=
  let n := c.toNat
  (0x09 ≤ n && n ≤ 0x0d) || (0x1c ≤ n && n ≤ 0x20) || n == 0x85 || n == 0xa0 || n == 0x1680 ||
    (0x2000 ≤ n && n ≤ 0x200a) || n == 0x2028 || n == 0x2029 || n == 0x202f || n == 0x205f ||
    n == 0x3000

/-- The text without its leading blanks. -/
def trimLeft (s : List Char) : List Char := s.dropWhile isBlank

/-- The text without its trailing blanks. -/
def trimRight (s : List Char) : List Char := (trimLeft s.reverse).reverse

/-- The text without the blanks around it. -/
def trim (s : List Char) : List Char := trimRight (trimLeft s)

/-- May the character surround a numeral? The information separators may not. -/
def isMargin (c : Char) : Bool := isBlank c && !(0x1c ≤ c.toNat && c.toNat ≤ 0x1f)

/-- The text without what may surround a numeral. -/
def trimMargin (s : List Char) : List Char :=
  ((s.dropWhile isMargin).reverse.dropWhile isMargin).reverse

/-- The text without any blank. -/
def squeeze (s : List Char) : List Char := s.filter fun c => !isBlank c

theorem trimLeft_cons_of_not_blank {c : Char} {s : List Char} (h : isBlank c = false) :
    trimLeft (c :: s) = c :: s := by
  simp [trimLeft, h]

end LabelPress.Text
