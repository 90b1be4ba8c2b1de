/-!
# Paths

A path is a beginning and a list of names. The text of a path may hold single dots, doubled and
trailing slashes; they say nothing and vanish. Two leading slashes are told apart from one, and more
than two count as one.

* `Path.ofText`, `Path.text`: the two directions.
* `Path.stem`, `Path.suffix`: the last name, cut at its last dot.
* `Path.stem_append_suffix`: nothing is lost by the cut.
-/

namespace LabelPress

/-- Where a path begins. -/
inductive PathRoot where
  /-- In the working directory. -/
  | relative
  /-- At the root. -/
  | absolute
  /-- At the root written with two slashes. -/
  | doubled
deriving Repr, DecidableEq

/-- A path. -/
structure Path where
  /-- Where it begins. -/
  root : PathRoot
  /-- The names on the way. -/
  names : List (List Char)
deriving Repr, DecidableEq

namespace Path

/-- The beginning of a path as written. -/
def rootText : PathRoot → List Char
  | .relative => []
  | .absolute => ['/']
  | .doubled => ['/', '/']

/-- The beginning that a text shows. -/
def rootOf : List Char → PathRoot
  | '/' :: '/' :: '/' :: _ => .absolute
  | '/' :: '/' :: _ => .doubled
  | '/' :: _ => .absolute
  | _ => .relative

/-- **The path of a text.** -/
def ofText (s : List Char) : Path :=
  ⟨rootOf s, (s.splitOn '/').filter fun n => n ≠ [] ∧ n ≠ ['.']⟩

/-- **The text of a path**; an empty path is a dot. -/
def text (p : Path) : List Char :=
  if p.root = .relative ∧ p.names = [] then ['.']
  else rootText p.root ++ ['/'].intercalate p.names

/-- The path that begins where `p` ends; an absolute one stays as it is. -/
def append (p q : Path) : Path :=
  match q.root with
  | .relative => ⟨p.root, p.names ++ q.names⟩
  | _ => q

/-- The last name, empty if there is none. -/
def name (p : Path) : List Char := p.names.getLast?.getD []

/-- A name cut at its last dot. A dot at either end of the name does not count. -/
def cut (name : List Char) : List Char × List Char :=
  let tail := name.reverse.takeWhile (· ≠ '.')
  match name.reverse.dropWhile (· ≠ '.') with
  | '.' :: c :: rest => if tail = [] then (name, []) else ((c :: rest).reverse, '.' :: tail.reverse)
  | _ => (name, [])

/-- The last name without its suffix. -/
def stem (p : Path) : List Char := (cut p.name).1

/-- The last name from its last dot on. -/
def suffix (p : Path) : List Char := (cut p.name).2

theorem cut_append (name : List Char) : (cut name).1 ++ (cut name).2 = name := by
  simp only [cut]
  split
  next c rest h =>
    split
    · simp
    · have := List.takeWhile_append_dropWhile (p := fun c => decide (c ≠ '.')) (l := name.reverse)
      rw [h] at this
      have hr := congrArg List.reverse this
      simpa using hr
  next => simp

theorem stem_append_suffix (p : Path) : p.stem ++ p.suffix = p.name := cut_append p.name

end Path

end LabelPress
