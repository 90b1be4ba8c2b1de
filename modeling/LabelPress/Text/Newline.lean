/-!
# Line ends

A text file may end its lines with a line feed, a carriage return, or both in this order. As read,
each of them is one line feed.

* `unifyNewlines`: the text as read; `not_mem_unifyNewlines` says that no carriage return is left.
-/

namespace LabelPress.Text

/-- Write every line end as a line feed. -/
def unifyNewlines : List Char → List Char
  | '\r' :: '\n' :: s => '\n' :: unifyNewlines s
  | '\r' :: s => '\n' :: unifyNewlines s
  | c :: s => c :: unifyNewlines s
  | [] => []

theorem not_mem_unifyNewlines (s : List Char) : '\r' ∉ unifyNewlines s := by
  fun_induction unifyNewlines s with
  | case1 s ih => simpa using ih
  | case2 s _ ih => simpa using ih
  | case3 c s _ h ih =>
    have hc : c ≠ '\r' := h
    simpa [eq_comm] using ⟨hc, ih⟩
  | case4 => simp

end LabelPress.Text
