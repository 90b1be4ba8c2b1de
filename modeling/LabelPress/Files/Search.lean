import LabelPress.Files.NamePattern
import LabelPress.Files.Tree

/-!
# Searching through directories

A search looks for the paths that a pattern stands for, in a directory and in all directories below
it. The pattern is itself a path; each of its names may hold wildcards, two dots go up, and two
asterisks stand for any way down.

* `SearchPattern.ofText?`: the pattern that a text spells.
* `FileTree.search`: what belongs to a pattern below a directory, in the order in which it is come
  across.
-/

namespace LabelPress

/-- Why a search fails. -/
inductive SearchError where
  /-- A pattern begins where the search does, and not at the root. -/
  | absolute
  /-- Two asterisks stand beside other characters in a name. -/
  | misplacedDescent
  /-- A path cannot be looked at. -/
  | file (e : FileError) (path : Path)
deriving Repr, DecidableEq

/-- The wording of a failure. -/
def SearchError.message : SearchError → String
  | absolute => "Non-relative patterns are unsupported"
  | misplacedDescent => "Invalid pattern: '**' can only be an entire path component"
  | file e path => e.message path

/-- A step of a search. -/
inductive SearchStep where
  /-- Any way down, or none. -/
  | descent
  /-- A name. -/
  | name (name : List Char)
  /-- Names that belong to a pattern. -/
  | names (pattern : NamePattern)
deriving Repr, DecidableEq

/-- The steps of a search. -/
abbrev SearchPattern := List SearchStep

/-- The two asterisks of a descent. -/
def descentText : List Char := ['*', '*']

/-- Do two asterisks stand next to each other in a name? -/
def hasDescent (name : List Char) : Bool := (name.zip (name.drop 1)).contains ('*', '*')

/-- The step that a name of a pattern stands for. -/
def SearchStep.ofName? (name : List Char) : Except SearchError SearchStep :=
  if name = descentText then .ok .descent
  else if hasDescent name then .error .misplacedDescent
  else if name.any ['*', '?', '['].contains then .ok (.names (.ofText name))
  else .ok (.name name)

/-- **The pattern that a text spells**, to be looked for anywhere below a directory. -/
def SearchPattern.ofText? (s : List Char) : Except SearchError SearchPattern :=
  let path := Path.ofText s
  if path.root ≠ .relative then .error .absolute
  else do return .descent :: (← path.names.mapM SearchStep.ofName?)

namespace FileTree

/-- What is at a path that a search comes across. -/
def lookFor (t : FileTree) (p : Path) : Except SearchError (Option FileKind) :=
  (t.look p).mapError (.file · p)

/-- The paths of what is in a directory. -/
def entries (t : FileTree) (p : Path) : List Path :=
  match t.place p with
  | .ok d => (t.namesIn d).map fun name => p.append ⟨.relative, [name]⟩
  | .error _ => []

/-- Is a path that was come across a directory? -/
def isDirectory (t : FileTree) (p : Path) : Bool :=
  match t.place p with
  | .ok d => t.isDirAt d
  | .error _ => false

/-- A directory and those below it, at most `depth` steps down; each comes before what is in it. -/
def descend (t : FileTree) : Nat → Path → List Path
  | 0, p => [p]
  | depth + 1, p => p :: ((t.entries p).filter t.isDirectory).flatMap (t.descend depth)

/-- The paths that steps lead to from a path. All but the last step lead to directories. -/
def follows (t : FileTree) : SearchPattern → Path → Except SearchError (List Path)
  | [], p => .ok [p]
  | .descent :: steps, p => do
    return (← (t.descend t.dirs.length p).mapM (t.follows steps)).flatten
  | .name name :: steps, p => do
    let q := p.append ⟨.relative, [name]⟩
    match ← t.lookFor q with
    | none => return []
    | some kind => if steps.isEmpty || kind = .directory then t.follows steps q else return []
  | .names pattern :: steps, p => do
    let fits := (t.entries p).filter fun q =>
      pattern.matchesName q.name && (steps.isEmpty || t.isDirectory q)
    return (← fits.mapM (t.follows steps)).flatten

/-- **What belongs to a pattern below a directory**; below anything else there is nothing. -/
def search (t : FileTree) (pattern : SearchPattern) (p : Path) : Except SearchError (List Path) :=
  do
    match ← t.lookFor p with
    | some .directory => t.follows pattern p
    | _ => return []

end FileTree

end LabelPress
