import LabelPress.Font.Face
import LabelPress.Text.UpperCase

/-!
# The font library

Label files name fonts by letters. Every letter stands for the same face, which is looked for in the
places that the user gives and then in the directories of the system; without it the built-in face
is used. What was found, or not found, and each font once loaded are kept, so later changes of the
files do not show.

* `FontLibrary.find?`: the file of a face.
* `FontLibrary.open?`: the face in a file, or the built-in one.
* `FontLibrary.get?`: the font for a letter and a height.
* `FontLibrary.source`: the fonts of a library over files that do not change.
* `get?_get?`: to ask again for the same height gives the same font and changes nothing.
-/

namespace LabelPress

/-- The name of the one face. -/
def defaultFace : List Char := "DejaVuSans".toList

/-- The letters that name a font. -/
def fontLetters : List Char := "0ABCDEFGH".toList

/-- The face of each font letter. -/
def faces : List (List Char × List Char) := fontLetters.map fun c => ([c], defaultFace)

/-- The face that a font letter stands for; an unknown one stands for that of font 0. -/
def faceOf (letter : List Char) : List Char :=
  (faces.lookup (Text.upper letter)).getD ((faces.lookup ['0']).getD defaultFace)

/-- A font that was loaded. -/
structure LoadedFont where
  /-- The font. -/
  font : Font
  /-- The file it was loaded from. -/
  path : Option Path
  /-- How many fonts were loaded before it. -/
  serial : Nat

/-- Where to look for fonts, and what was found and loaded so far. -/
structure FontLibrary where
  /-- Files and directories to look at first. -/
  custom : List Path
  /-- Directories to search through then. -/
  system : List Path
  /-- What was found for each face. -/
  found : List (List Char × Option Path) := []
  /-- What was loaded for each face and size. -/
  loaded : List ((List Char × Nat) × LoadedFont) := []

/-- The suffixes of font files. -/
def fontSuffixes : List (List Char) := [".ttf".toList, ".otf".toList, ".TTF".toList, ".OTF".toList]

/-- Is it the suffix of a font file, in any case? -/
def isFontSuffix (suffix : List Char) : Bool :=
  [".ttf".toList, ".otf".toList].contains (suffix.map Char.toLower)

/-- Where systems keep their fonts; some of these places are below the user's own directory. -/
def systemFontDirs (home : Path) : List Path :=
  ["/usr/share/fonts", "/usr/local/share/fonts"].map (Path.ofText ·.toList) ++
    [".fonts", ".local/share/fonts"].map (home.append <| Path.ofText ·.toList) ++
    ["/Library/Fonts", "/System/Library/Fonts"].map (Path.ofText ·.toList) ++
    [home.append (.ofText "Library/Fonts".toList), .ofText "C:/Windows/Fonts".toList]

namespace FontLibrary

/-- The files of a face in a directory, the best first. -/
def filesIn (face : List Char) (dir : Path) : List Path :=
  fontSuffixes.map fun s => dir.append (.ofText (face ++ s))

/-- The first path at which there is anything. -/
def firstThere? (files : FileTree) : List Path → Except SearchError (Option Path)
  | [] => .ok none
  | p :: ps => do if (← files.lookFor p).isSome then return some p else firstThere? files ps

/-- The file of a face at a place that the user gave. -/
def inCustom? (files : FileTree) (face : List Char) (p : Path) :
    Except SearchError (Option Path) := do
  match ← files.lookFor p with
  | some .file => return if p.stem == face then some p else none
  | some .directory => firstThere? files (filesIn face p)
  | none => return none

/-- The file of a face below a directory of the system: the face, a dot, and whatever ends in a
suffix of font files. Asterisks and the like in the face are taken for wildcards. -/
def inSystem? (files : FileTree) (face : List Char) (p : Path) :
    Except SearchError (Option Path) := do
  if (← files.lookFor p).isNone then return none
  let pattern ← SearchPattern.ofText? (face ++ ".*".toList)
  return (← files.search pattern p).find? fun q => isFontSuffix q.suffix

/-- The first place of some at which there is a face. -/
def firstOf? (look : Path → Except SearchError (Option Path)) :
    List Path → Except SearchError (Option Path)
  | [] => .ok none
  | p :: ps => do
    match ← look p with
    | some q => return some q
    | none => firstOf? look ps

/-- Look for the file of a face. -/
def search? (l : FontLibrary) (files : FileTree) (face : List Char) :
    Except SearchError (Option Path) := do
  match ← firstOf? (inCustom? files face) l.custom with
  | some p => return some p
  | none => firstOf? (inSystem? files face) l.system

/-- **The file of a face**, looked for once. -/
def find? (l : FontLibrary) (files : FileTree) (face : List Char) :
    Except SearchError (Option Path × FontLibrary) :=
  match l.found.lookup face with
  | some p => .ok (p, l)
  | none => do
    let p ← l.search? files face
    return (p, { l with found := (face, p) :: l.found })

/-- The face of what was found, and its file. The built-in face is used if nothing was found, or if
the system refuses what was. -/
def open? (faces : Typefaces) (files : FileTree) (size : Nat) :
    Option Path → Except FaceError (Font × Option Path)
  | none => (faces.builtin? size).map (·, none)
  | some p =>
    match faces.inFile? files p size with
    | .ok font => .ok (font, some p)
    | .error (.system _) => (faces.builtin? size).map (·, none)
    | .error e => .error e

/-- **The font for a letter and a height**, loaded once for each face and size. -/
def get? (l : FontLibrary) (faces : Typefaces) (files : FileTree) (letter : List Char)
    (height : Int) : Except FontError (LoadedFont × FontLibrary) :=
  let key := (faceOf letter, fontSize height)
  match l.loaded.lookup key with
  | some f => .ok (f, l)
  | none => do
    let (file, l) ← (l.find? files key.1).mapError .search
    let (font, path) ← (open? faces files key.2 file).mapError .face
    let f : LoadedFont := ⟨font, path, l.loaded.length⟩
    return (f, { l with loaded := (key, f) :: l.loaded })

/-- The fonts of a library over files that do not change. -/
def source (l : FontLibrary) (faces : Typefaces) (files : FileTree) : FontSource :=
  fun letter height => (l.get? faces files letter height).map (·.1.font)

/-- To ask again for the same height gives the same font and changes nothing, whatever became of
the files. -/
theorem get?_get? {l l' : FontLibrary} {faces : Typefaces} {files : FileTree} {letter : List Char}
    {height : Int} {font : LoadedFont} (h : l.get? faces files letter height = .ok (font, l'))
    (faces' : Typefaces) (files' : FileTree) :
    l'.get? faces' files' letter height = .ok (font, l') := by
  have herror {ε ε' α : Type} (f : ε → ε') (e : ε) :
      (.error e : Except ε α).mapError f = .error (f e) := rfl
  have hok {ε ε' α : Type} (f : ε → ε') (a : α) :
      (.ok a : Except ε α).mapError f = .ok a := rfl
  simp only [get?] at h
  cases hl : l.loaded.lookup (faceOf letter, fontSize height) with
  | some f =>
    simp only [hl, Except.ok.injEq, Prod.mk.injEq] at h
    obtain ⟨rfl, rfl⟩ := h
    simp [get?, hl]
  | none =>
    cases hf : l.find? files (faceOf letter) with
    | error e => simp [hl, hf, bind, Except.bind, herror] at h
    | ok r =>
      cases ho : open? faces files (fontSize height) r.1 with
      | error e => simp [hl, hf, ho, bind, Except.bind, herror, hok] at h
      | ok f =>
        simp only [hl, hf, ho, bind, Except.bind, hok, pure, Except.pure,
          Except.ok.injEq, Prod.mk.injEq] at h
        obtain ⟨rfl, rfl⟩ := h
        simp [get?]

end FontLibrary

end LabelPress
