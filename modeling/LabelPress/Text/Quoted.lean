import LabelPress.Text.Printing

/-!
# Quoted text

Messages quote file names and choices: between single quotes, or between double quotes if the text
holds a single quote and no double one. Backslashes, the enclosing quote and characters that do not
print are written as escapes.

* `quoted`: the quoted text.
* `quoted_plain`: a text of printing ASCII characters without quotes and backslashes stands between
  quotes as it is.
-/

namespace LabelPress.Text

/-- The last `k` hexadecimal digits of a number. -/
def hexText (n k : Nat) : List Char :=
  (List.range k).map fun i => Nat.digitChar ((n >>> (4 * (k - 1 - i))) % 16)

/-- A character inside quotes. -/
def quotedChar (quote c : Char) : List Char :=
  if c = quote ∨ c = '\\' then ['\\', c]
  else if c = '\n' then ['\\', 'n']
  else if c = '\r' then ['\\', 'r']
  else if c = '\t' then ['\\', 't']
  else if prints c then [c]
  else if c.toNat < 0x100 then '\\' :: 'x' :: hexText c.toNat 2
  else if c.toNat < 0x10000 then '\\' :: 'u' :: hexText c.toNat 4
  else '\\' :: 'U' :: hexText c.toNat 8

/-- **The quoted text.** -/
def quoted (s : List Char) : List Char :=
  let quote := if '\'' ∈ s ∧ '"' ∉ s then '"' else '\''
  quote :: s.flatMap (quotedChar quote) ++ [quote]

theorem quotedChar_plain {quote c : Char} (h : c ≠ quote) (hb : c ≠ '\\') (hp : prints c = true) :
    quotedChar quote c = [c] := by
  have hn : c ≠ '\n' := by rintro rfl; revert hp; decide
  have hr : c ≠ '\r' := by rintro rfl; revert hp; decide
  have ht : c ≠ '\t' := by rintro rfl; revert hp; decide
  simp [quotedChar, h, hb, hn, hr, ht, hp]

theorem quoted_plain {s : List Char} (h : ∀ c ∈ s, c ≠ '\'' ∧ c ≠ '\\' ∧ prints c = true) :
    quoted s = '\'' :: s ++ ['\''] := by
  have hq : ¬('\'' ∈ s ∧ '"' ∉ s) := fun hs => (h _ hs.1).1 rfl
  simp only [quoted, if_neg hq]
  congr 2
  induction s with
  | nil => rfl
  | cons c s ih =>
    have hc := h c (by simp)
    rw [List.flatMap_cons, quotedChar_plain hc.1 hc.2.1 hc.2.2]
    simp only [List.singleton_append, List.cons.injEq, true_and]
    exact ih (fun d hd => h d (by simp [hd])) (fun hs => (h _ (by simp [hs.1])).1 rfl)

end LabelPress.Text
