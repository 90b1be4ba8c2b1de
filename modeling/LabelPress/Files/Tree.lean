import LabelPress.Files.Path
import LabelPress.Text.Quoted

/-!
# Files

The files that a run of the program can see: bytes under names, in directories below the working
directory. Directories stay when their last file goes.

* `FileTree.put`, `FileTree.remove`: the two changes; `bytes?_put` says what the first one does.
* `FileTree.look`: what is at a path.
* `FileTree.read`: the bytes of a file, or why there are none.
* `FileTree.checkWritable`: may a file be made under a path?
-/

namespace LabelPress

/-- The names that lead from the working directory to a file. -/
abbrev Place := List (List Char)

/-- Files and directories below the working directory. -/
structure FileTree where
  /-- The files, each place once. -/
  files : List (Place × ByteArray)
  /-- The directories other than the working directory. -/
  dirs : List Place

/-- Why a file cannot be opened. -/
inductive FileError where
  /-- There is no such file. -/
  | notFound
  /-- A directory is no file. -/
  | isDirectory
  /-- A file is no directory. -/
  | notDirectory
  /-- A name, or the whole path, has too many bytes. -/
  | nameTooLong
  /-- No path holds the character zero. -/
  | nullByte
deriving Repr, DecidableEq

/-- The wording of a failure of the system, with its number. -/
def FileError.numbered (number : Nat) (what : String) (path : Path) : String :=
  s!"[Errno {number}] {what}: " ++ String.ofList (Text.quoted path.text)

/-- The wording of a failure to open a path. -/
def FileError.message (e : FileError) (path : Path) : String :=
  match e with
  | notFound => numbered 2 "No such file or directory" path
  | isDirectory => numbered 21 "Is a directory" path
  | notDirectory => numbered 20 "Not a directory" path
  | nameTooLong => numbered 36 "File name too long" path
  | nullByte => "embedded null byte"

/-- What can be at a path. -/
inductive FileKind where
  /-- A file. -/
  | file
  /-- A directory. -/
  | directory
deriving Repr, DecidableEq

/-- The most bytes of a name. -/
def longestName : Nat := 255

/-- The most bytes of a path. -/
def longestPath : Nat := 4095

/-- The number of bytes that a text is encoded in. -/
def byteCount (s : List Char) : Nat := (String.ofList s).utf8ByteSize

namespace FileTree

/-- No files at all. -/
def empty : FileTree := ⟨[], []⟩

/-- The bytes of the file at a place. -/
def bytes? (t : FileTree) (p : Place) : Option ByteArray := t.files.lookup p

/-- Is there a directory at the place? -/
def isDirAt (t : FileTree) (p : Place) : Bool := p.isEmpty || t.dirs.contains p

/-- Every place above a place, other than the working directory. -/
def parents (p : Place) : List Place := (List.range' 1 (p.length - 1)).map p.take

/-- **Make or replace a file**, with the directories above it. -/
def put (t : FileTree) (p : Place) (bytes : ByteArray) : FileTree :=
  ⟨(p, bytes) :: t.files.filter (·.1 != p),
    t.dirs ++ (parents p).filter fun d => !t.dirs.contains d⟩

/-- Make a directory, unless it is there. -/
def putDir (t : FileTree) (p : Place) : FileTree :=
  { t with dirs := t.dirs ++ [p].filter fun d => !t.isDirAt d }

/-- Remove a file. -/
def remove (t : FileTree) (p : Place) : FileTree := ⟨t.files.filter (·.1 != p), t.dirs⟩

/-- Files given as paths and bytes. -/
def ofList (files : List (Path × ByteArray)) : FileTree :=
  files.reverse.foldl (fun t (p, bytes) => t.put p.names bytes) empty

/-- Why a path that has left the working directory does not lead anywhere: only the directories
that lie above it are there. -/
def outside (names : List (List Char)) : FileError :=
  if names.all (· == ['.', '.']) then .isDirectory else .notFound

/-- Follow the names of a path; two dots go up. -/
def follow (t : FileTree) : Place → List (List Char) → Except FileError Place
  | at_, [] => .ok at_
  | at_, name :: names =>
    if (t.bytes? at_).isSome then .error .notDirectory
    else if !t.isDirAt at_ then .error .notFound
    else if longestName < byteCount name then .error .nameTooLong
    else if name = ['.', '.'] then
      if at_.isEmpty then .error (outside names) else t.follow at_.dropLast names
    else t.follow (at_ ++ [name]) names

/-- The place that a path leads to; no file outside the working directory can be seen. -/
def place (t : FileTree) (p : Path) : Except FileError Place :=
  if p.names.any (·.contains (Char.ofNat 0)) then .error .nullByte
  else if longestPath < byteCount p.text then .error .nameTooLong
  else match p.root with
    | .relative => t.follow [] p.names
    | _ => .error (outside p.names)

/-- What is at a place. -/
def kindAt? (t : FileTree) (q : Place) : Option FileKind :=
  if (t.bytes? q).isSome then some .file
  else if t.isDirAt q then some .directory
  else none

/-- **What is at a path**, if anything is. Only too long a path cannot be looked at. -/
def look (t : FileTree) (p : Path) : Except FileError (Option FileKind) :=
  match t.place p with
  | .ok q => .ok (t.kindAt? q)
  | .error .isDirectory => .ok (some .directory)
  | .error .nameTooLong => .error .nameTooLong
  | .error _ => .ok none

/-- **The bytes of a file**, or why there are none. -/
def read (t : FileTree) (p : Path) : Except FileError ByteArray := do
  let q ← t.place p
  match t.bytes? q with
  | some bytes => return bytes
  | none => throw (if t.isDirAt q then .isDirectory else .notFound)

/-- **May a file be made under the path?** -/
def checkWritable (t : FileTree) (p : Path) : Except FileError Unit := do
  let q ← t.place p
  if t.isDirAt q then throw .isDirectory

/-- The names in a directory. -/
def namesIn (t : FileTree) (d : Place) : List (List Char) :=
  (t.files.map (·.1) ++ t.dirs).filterMap fun p =>
    match p.getLast? with
    | some name => if p.dropLast = d then some name else none
    | none => none

theorem lookup_filter_ne {p q : Place} (h : q ≠ p) (files : List (Place × ByteArray)) :
    (files.filter (·.1 != p)).lookup q = files.lookup q := by
  induction files with
  | nil => rfl
  | cons f files ih =>
    obtain ⟨r, bytes⟩ := f
    by_cases hr : r = p
    · subst hr
      have hb : (q == r) = false := beq_eq_false_iff_ne.2 h
      simp [List.lookup_cons, ih, hb]
    · simp [List.lookup_cons, ih, hr]

/-- A file made at a place is found there, and other places keep theirs. -/
theorem bytes?_put (t : FileTree) (p q : Place) (bytes : ByteArray) :
    (t.put p bytes).bytes? q = if q = p then some bytes else t.bytes? q := by
  simp only [bytes?, put, List.lookup_cons]
  by_cases h : q = p
  · simp [h]
  · have hb : (q == p) = false := beq_eq_false_iff_ne.2 h
    simp [h, hb, lookup_filter_ne h]

end FileTree

end LabelPress
