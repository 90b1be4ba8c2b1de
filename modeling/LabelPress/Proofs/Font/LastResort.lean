import LabelPress.Font.Library
import LabelPress.Proofs.Files.Below

/-! # The built-in face as the last resort

The built-in face ought to be used only if no file of the face can be loaded, whichever of the
places is the one where such a file is. But the search ends at the first file that it comes across,
before anyone has tried to load it, and below the directories of the system it also takes files of
other faces whose names begin with that of the face and a dot. Which files can be loaded, and at
which sizes, is open.

* `FontLibrary.Candidate`: the places of the files of the face.
* `FontLibrary.Loads`: a file that can be loaded.
* `FontLibrary.not_loads_of_search?_eq_none`: when nothing is found, nothing can be loaded.
* `FontLibrary.candidate_iff_stem_eq`: what is found is in its place if it is named like the face.
* `FontLibrary.builtinIsLastResort_iff`: when the built-in face is the last resort. -/

namespace LabelPress

/-- All letters stand for the same face. -/
theorem faceOf_eq (letter : List Char) : faceOf letter = defaultFace := by
  have hface {key face : List Char} (h : faces.lookup key = some face) : face = defaultFace := by
    obtain ⟨before, after, hfaces, -⟩ := List.lookup_eq_some_iff.1 h
    have hmem : (key, face) ∈ faces := by simp [hfaces]
    obtain ⟨c, -, hc⟩ := List.mem_map.1 hmem
    exact (Prod.mk.inj hc).2.symm
  have hdefault : (faces.lookup ['0']).getD defaultFace = defaultFace := by
    cases h : faces.lookup ['0'] with
    | none => rfl
    | some face => exact hface h
  rw [faceOf, hdefault]
  cases h : faces.lookup (Text.upper letter) with
  | none => rfl
  | some face => exact hface h

namespace FontLibrary

variable {l : FontLibrary} {faces : Typefaces} {files : FileTree} {height : ℤ}

/-! ### The first of some places -/

section
variable {look : Path → Except SearchError (Option Path)} {ps : List Path}

/-- A face is at the first place, or there is none and the others are looked at. -/
theorem eq_of_firstOf?_cons {p : Path} {file : Option Path}
    (h : firstOf? look (p :: ps) = .ok file) :
    look p = .ok file ∧ file ≠ none ∨ look p = .ok none ∧ firstOf? look ps = .ok file := by
  rw [firstOf?] at h
  cases hfile : look p with
  | error e =>
    rw [hfile] at h
    cases h
  | ok found =>
    rw [hfile] at h
    cases found with
    | some q =>
      obtain rfl := Except.ok.inj h
      exact .inl ⟨rfl, Option.some_ne_none q⟩
    | none => exact .inr ⟨rfl, h⟩

/-- There is nothing at any of the places. -/
theorem firstOf?_eq_none (h : firstOf? look ps = .ok none) : ∀ p ∈ ps, look p = .ok none := by
  induction ps with
  | nil => exact nofun
  | cons p ps ih =>
    obtain ⟨hnone, hrest⟩ := (eq_of_firstOf?_cons h).resolve_left fun h => h.2 rfl
    rintro q (_ | ⟨_, hq⟩)
    · exact hnone
    · exact ih hrest q hq

theorem exists_of_firstOf?_eq_some {q : Path} (h : firstOf? look ps = .ok (some q)) :
    ∃ p ∈ ps, look p = .ok (some q) := by
  induction ps with
  | nil => cases h
  | cons p ps ih =>
    rcases eq_of_firstOf?_cons h with ⟨hfound, -⟩ | ⟨-, hrest⟩
    · exact ⟨p, List.mem_cons_self, hfound⟩
    · obtain ⟨p', hp', hfound⟩ := ih hrest
      exact ⟨p', List.mem_cons_of_mem p hp', hfound⟩

end

/-- The path itself, if there is anything at it. -/
def there? (files : FileTree) (p : Path) : Except SearchError (Option Path) :=
  (files.lookFor p).map fun kind => if kind.isSome then some p else none

theorem eq_of_there? {p q : Path} (h : there? files p = .ok (some q)) : p = q := by
  rw [there?] at h
  cases hlook : files.lookFor p with
  | error e =>
    rw [hlook] at h
    cases h
  | ok kind =>
    rw [hlook] at h
    cases kind with
    | none => cases h
    | some kind => exact Option.some.inj (Except.ok.inj h)

theorem firstThere?_eq (ps : List Path) : firstThere? files ps = firstOf? (there? files) ps := by
  induction ps with
  | nil => rfl
  | cons p ps ih =>
    rw [firstThere?, firstOf?, there?, ih]
    cases files.lookFor p with
    | error e => rfl
    | ok kind => cases kind <;> rfl

/-! ### The places of a face -/

/-- **A place where a file of the face may be**: given by the user, in a directory that the user
gave, or somewhere below a directory of the system. -/
inductive Candidate (l : FontLibrary) : Path → Prop
  | given {p : Path} (hp : p ∈ l.custom) (hstem : p.stem = defaultFace) : Candidate l p
  | inDirectory {d : Path} {s : List Char} (hd : d ∈ l.custom) (hs : s ∈ fontSuffixes) :
      Candidate l (d.append (.ofText (defaultFace ++ s)))
  | below {d p : Path} {names : List (List Char)} (hd : d ∈ l.system)
      (hp : p = d.append ⟨.relative, names⟩) (hnames : names ≠ []) (hup : ['.', '.'] ∉ names)
      (hstem : p.stem = defaultFace) (hsuffix : isFontSuffix p.suffix = true) : Candidate l p

theorem ofText_file {s : List Char} (hs : s ∈ fontSuffixes) :
    Path.ofText (defaultFace ++ s) = ⟨.relative, [defaultFace ++ s]⟩ ∧
      (Path.cut (defaultFace ++ s)).1 = defaultFace := by
  revert s
  decide

theorem stem_file {d : Path} {s : List Char} (hs : s ∈ fontSuffixes) :
    (d.append (.ofText (defaultFace ++ s))).stem = defaultFace := by
  obtain ⟨htext, hcut⟩ := ofText_file hs
  rw [Path.stem, htext, ← List.nil_append [defaultFace ++ s], Path.name_append, hcut]

theorem stem_of_candidate {p : Path} (h : l.Candidate p) : p.stem = defaultFace := by
  cases h with
  | given _ hstem => exact hstem
  | inDirectory _ hs => exact stem_file hs
  | below _ _ _ _ hstem _ => exact hstem

/-! ### Nothing is missed -/

/-- **A file that can be loaded** at a height: it can be read, and its face can be had. -/
def Loads (faces : Typefaces) (files : FileTree) (height : ℤ) (p : Path) (font : Font) : Prop :=
  (∃ bytes, files.read p = .ok bytes) ∧ faces.inFile? files p (fontSize height) = .ok font

/-- A file that can be read is found if it is given and named like the face. -/
theorem inCustom?_of_read {p : Path} {bytes : ByteArray} (h : files.read p = .ok bytes)
    (hstem : p.stem = defaultFace) : inCustom? files defaultFace p = .ok (some p) := by
  rw [inCustom?, FileTree.lookFor, FileTree.look_of_read h]
  simp [Except.mapError, bind, Except.bind, pure, Except.pure, hstem]

/-- A file that can be read is not overlooked in a directory that the user gave. -/
theorem inCustom?_ne_none {d : Path} {s : List Char} {bytes : ByteArray} (hs : s ∈ fontSuffixes)
    (h : files.read (d.append (.ofText (defaultFace ++ s))) = .ok bytes) :
    inCustom? files defaultFace d ≠ .ok none := by
  intro hnone
  have hthere := FileTree.look_of_read h
  rw [(ofText_file hs).1] at h
  rw [inCustom?, FileTree.lookFor, FileTree.look_of_read_append h (by simp)] at hnone
  change firstThere? files (filesIn defaultFace d) = .ok none at hnone
  rw [firstThere?_eq] at hnone
  have hmissing := firstOf?_eq_none hnone _ (List.mem_map_of_mem hs)
  rw [there?, FileTree.lookFor, hthere] at hmissing
  cases hmissing

/-- The search for the names that begin with the face and a dot. -/
theorem ofText?_face : SearchPattern.ofText? (defaultFace ++ ".*".toList) =
    .ok [.descent, .names (.beginning (defaultFace ++ ['.']))] := by
  have hpath : Path.ofText (defaultFace ++ ".*".toList) =
      ⟨.relative, [defaultFace ++ ['.'] ++ ['*']]⟩ := by
    decide
  have hpattern : NamePattern.ofText (defaultFace ++ ['.'] ++ ['*']) =
      .beginning (defaultFace ++ ['.']) :=
    NamePattern.ofText_asterisk (by decide)
  have hstep : SearchStep.ofName? (defaultFace ++ ['.'] ++ ['*']) =
      .ok (.names (.ofText (defaultFace ++ ['.'] ++ ['*']))) := by
    rw [SearchStep.ofName?, if_neg (by decide), if_neg (by decide), if_pos (by decide)]
  rw [SearchPattern.ofText?, hpath, ← hpattern]
  simp only [ne_eq, not_true_eq_false, if_false, List.mapM_cons, List.mapM_nil, hstep]
  rfl

/-- What is found below a directory of the system. -/
theorem inSystem?_eq {d : Path} (h : files.look d = .ok (some .directory)) :
    inSystem? files defaultFace d =
      .ok ((files.found (.beginning (defaultFace ++ ['.'])) d).find? fun q : Path =>
        isFontSuffix q.suffix) := by
  rw [inSystem?, FileTree.lookFor, h, ofText?_face]
  change (do
    let found ← files.search [.descent, .names (.beginning (defaultFace ++ ['.']))] d
    return found.find? fun q : Path => isFontSuffix q.suffix) = _
  rw [FileTree.search_anywhere _ h]
  rfl

/-- A file that can be read is not overlooked below a directory of the system. -/
theorem inSystem?_ne_none {d : Path} {names : List (List Char)} {bytes : ByteArray}
    (h : files.read (d.append ⟨.relative, names⟩) = .ok bytes) (hnames : names ≠ [])
    (hup : ['.', '.'] ∉ names) (hstem : (d.append ⟨.relative, names⟩).stem = defaultFace)
    (hsuffix : isFontSuffix (d.append ⟨.relative, names⟩).suffix = true) :
    inSystem? files defaultFace d ≠ .ok none := by
  rw [inSystem?_eq (FileTree.look_of_read_append h hnames)]
  intro hnone
  have hmissing := List.find?_eq_none.1 (Except.ok.inj hnone)
  have hbeginning : (d.append ⟨.relative, names⟩).stem ++ ['.'] <+:
      (d.append ⟨.relative, names⟩).name :=
    Path.stem_dot_prefix fun hempty => by rw [hempty] at hsuffix; cases hsuffix
  rw [hstem] at hbeginning
  rcases List.eq_nil_or_concat' names with rfl | ⟨names, last, rfl⟩
  · exact hnames rfl
  · rw [Path.name_append] at hbeginning
    simp only [List.mem_append, List.mem_singleton, not_or] at hup
    exact hmissing _ (FileTree.mem_found h hup.1 (Ne.symm hup.2) hbeginning) hsuffix

/-- The two parts of a search. -/
theorem search?_eq {face : List Char} {file : Option Path} (h : l.search? files face = .ok file) :
    firstOf? (inCustom? files face) l.custom = .ok file ∧ file ≠ none ∨
      firstOf? (inCustom? files face) l.custom = .ok none ∧
        firstOf? (inSystem? files face) l.system = .ok file := by
  rw [search?] at h
  cases hcustom : firstOf? (inCustom? files face) l.custom with
  | error e =>
    rw [hcustom] at h
    cases h
  | ok found =>
    rw [hcustom] at h
    cases found with
    | some p =>
      obtain rfl := Except.ok.inj h
      exact .inl ⟨rfl, Option.some_ne_none p⟩
    | none => exact .inr ⟨rfl, h⟩

/-- **When nothing is found, nothing can be loaded.** -/
theorem not_loads_of_search?_eq_none (h : l.search? files defaultFace = .ok none) {p : Path}
    (hp : l.Candidate p) (font : Font) : ¬Loads faces files height p font := by
  obtain ⟨hcustom, hsystem⟩ := (search?_eq h).resolve_left fun h => h.2 rfl
  rintro ⟨⟨bytes, hread⟩, -⟩
  cases hp with
  | given hp hstem =>
    have hnone := firstOf?_eq_none hcustom p hp
    rw [inCustom?_of_read hread hstem] at hnone
    cases hnone
  | inDirectory hd hs => exact inCustom?_ne_none hs hread (firstOf?_eq_none hcustom _ hd)
  | below hd hp hnames hup hstem hsuffix =>
    subst hp
    exact inSystem?_ne_none hread hnames hup hstem hsuffix (firstOf?_eq_none hsystem _ hd)

/-! ### What is found -/

theorem candidate_of_inCustom? {d p : Path} (hd : d ∈ l.custom)
    (h : inCustom? files defaultFace d = .ok (some p)) : l.Candidate p := by
  rw [inCustom?] at h
  cases hlook : files.lookFor d with
  | error e =>
    rw [hlook] at h
    cases h
  | ok kind =>
    rw [hlook] at h
    rcases kind with _ | (_ | _)
    · cases h
    · -- A file is given.
      have hfile : (if d.stem == defaultFace then some d else none) = some p := Except.ok.inj h
      split_ifs at hfile with hstem
      obtain rfl := Option.some.inj hfile
      exact .given hd (beq_iff_eq.1 hstem)
    · -- A directory is given.
      change firstThere? files (filesIn defaultFace d) = .ok (some p) at h
      rw [firstThere?_eq] at h
      obtain ⟨q, hq, hthere⟩ := exists_of_firstOf?_eq_some h
      obtain ⟨s, hs, rfl⟩ := List.mem_map.1 hq
      obtain rfl := eq_of_there? hthere
      exact .inDirectory hd hs

theorem candidate_of_inSystem? (hplain : files.IsPlain) {d p : Path} (hd : d ∈ l.system)
    (h : inSystem? files defaultFace d = .ok (some p)) (hstem : p.stem = defaultFace) :
    l.Candidate p := by
  cases hlook : files.look d with
  | error e =>
    rw [inSystem?, FileTree.lookFor, hlook] at h
    cases h
  | ok kind =>
    rcases kind with _ | (_ | _)
    · rw [inSystem?, FileTree.lookFor, hlook] at h
      cases h
    · -- Nothing is below a file.
      have hsearch (pattern : SearchPattern) : files.search pattern d = .ok [] := by
        rw [FileTree.search, FileTree.lookFor, hlook]
        rfl
      rw [inSystem?, FileTree.lookFor, hlook, ofText?_face] at h
      simp only [hsearch, bind, Except.bind, Except.mapError] at h
      cases h
    · rw [inSystem?_eq hlook] at h
      have hfound := Except.ok.inj h
      obtain ⟨names, hnames, hup, hp⟩ :=
        FileTree.exists_names_of_mem_found hplain (List.mem_of_find?_eq_some hfound)
      exact .below hd hp hnames hup hstem (by simpa using List.find?_some hfound)

/-- **What is found is in its place** exactly if it is named like the face. -/
theorem candidate_iff_stem_eq (hplain : files.IsPlain) {p : Path}
    (h : l.search? files defaultFace = .ok (some p)) : l.Candidate p ↔ p.stem = defaultFace := by
  refine ⟨stem_of_candidate, fun hstem => ?_⟩
  rcases search?_eq h with ⟨hcustom, -⟩ | ⟨-, hsystem⟩
  · obtain ⟨d, hd, hfound⟩ := exists_of_firstOf?_eq_some hcustom
    exact candidate_of_inCustom? hd hfound
  · obtain ⟨d, hd, hfound⟩ := exists_of_firstOf?_eq_some hsystem
    exact candidate_of_inSystem? hplain hd hfound hstem

/-! ### The last resort -/

/-- **The built-in face is the last resort**: there is a font, which comes from a file in its place
that can be loaded, or it is the built-in one, and then none of these files can be loaded. -/
def BuiltinIsLastResort (l : FontLibrary) (faces : Typefaces) (files : FileTree)
    (letter : List Char) (height : ℤ) : Prop :=
  ∃ f l', l.get? faces files letter height = .ok (f, l') ∧
    ((∃ p, l.Candidate p ∧ Loads faces files height p f.font ∧ f.path = some p) ∨
      ((∀ p, l.Candidate p → ∀ font, ¬Loads faces files height p font) ∧ f.path = none ∧
        faces.builtin? (fontSize height) = .ok f.font))

/-- **The face of what was found**, if there is one: that of the file, or the built-in one if there
is no file or the system refuses it. -/
theorem open?_eq_ok_iff {size : ℕ} {file path : Option Path} {font : Font} :
    open? faces files size file = .ok (font, path) ↔
      (∃ p, file = some p ∧ path = some p ∧ faces.inFile? files p size = .ok font) ∨
        (path = none ∧ faces.builtin? size = .ok font ∧
          (file = none ∨ ∃ p what, file = some p ∧
            faces.inFile? files p size = .error (.system what))) := by
  have hbuiltin : (faces.builtin? size).map (·, none) = .ok (font, path) ↔
      path = none ∧ faces.builtin? size = .ok font := by
    cases faces.builtin? size with
    | error e => simp [Except.map]
    | ok f => simp [Except.map, eq_comm, and_comm]
  cases file with
  | none => simpa [open?] using hbuiltin
  | some p =>
    cases hfile : faces.inFile? files p size with
    | ok f => simp [open?, hfile, eq_comm, and_comm]
    | error e => cases e <;> simp [open?, hfile, hbuiltin]

/-- A library that has not found anything yet searches and loads. -/
theorem exists_get?_iff {custom system : List Path} {letter : List Char} {P : LoadedFont → Prop} :
    (∃ f l', get? ⟨custom, system, [], []⟩ faces files letter height = .ok (f, l') ∧ P f) ↔
      ∃ file font path, search? ⟨custom, system, [], []⟩ files defaultFace = .ok file ∧
        open? faces files (fontSize height) file = .ok (font, path) ∧ P ⟨font, path, 0⟩ := by
  simp only [get?, find?, List.lookup_nil, faceOf_eq]
  cases search? ⟨custom, system, [], []⟩ files defaultFace with
  | error e => simp [bind, Except.bind, Except.mapError]
  | ok file =>
    cases hopen : open? faces files (fontSize height) file with
    | error e => simp [bind, Except.bind, Except.mapError, pure, Except.pure, hopen]
    | ok found =>
      obtain ⟨font, path⟩ := found
      simp [bind, Except.bind, Except.mapError, pure, Except.pure, hopen]

/-- **When the built-in face is the last resort**, for a library that has not found anything yet:
exactly if the search comes to an end, and the first file that it comes across can be loaded and is
in its place, or the built-in face can be had and either no file is found or the system refuses it
and all others cannot be loaded, either. -/
theorem builtinIsLastResort_iff (custom system : List Path) (faces : Typefaces) (files : FileTree)
    (letter : List Char) (height : ℤ) :
    BuiltinIsLastResort ⟨custom, system, [], []⟩ faces files letter height ↔
      ∃ file, search? ⟨custom, system, [], []⟩ files defaultFace = .ok file ∧
        ((∃ p font, file = some p ∧ Candidate ⟨custom, system, [], []⟩ p ∧
            Loads faces files height p font) ∨
          (∃ font, faces.builtin? (fontSize height) = .ok font) ∧
            (file = none ∨ ∃ p what, file = some p ∧
              faces.inFile? files p (fontSize height) = .error (.system what) ∧
              ∀ q, Candidate ⟨custom, system, [], []⟩ q →
                ∀ font, ¬Loads faces files height q font)) := by
  rw [BuiltinIsLastResort, exists_get?_iff]
  refine exists_congr fun file => ⟨?_, ?_⟩
  · rintro ⟨font, path, hfile, hopen, hfont⟩
    refine ⟨hfile, ?_⟩
    rcases open?_eq_ok_iff.1 hopen with ⟨p, rfl, rfl, hloaded⟩ | ⟨rfl, hbuiltin, hwhy⟩
    · rcases hfont with ⟨q, hq, hloads, hpath⟩ | ⟨-, hpath, -⟩
      · obtain rfl := Option.some.inj hpath
        exact .inl ⟨p, font, rfl, hq, hloads⟩
      · cases hpath
    · rcases hfont with ⟨q, -, -, hpath⟩ | ⟨hnone, -, -⟩
      · cases hpath
      · refine .inr ⟨⟨font, hbuiltin⟩, hwhy.imp_right ?_⟩
        rintro ⟨p, what, hp, hrefused⟩
        exact ⟨p, what, hp, hrefused, hnone⟩
  · rintro ⟨hfile, ⟨p, font, rfl, hp, hloads⟩ | ⟨⟨font, hbuiltin⟩, hwhy⟩⟩
    · exact ⟨font, some p, hfile, open?_eq_ok_iff.2 (.inl ⟨p, rfl, rfl, hloads.2⟩),
        .inl ⟨p, hp, hloads, rfl⟩⟩
    · rcases hwhy with rfl | ⟨p, what, rfl, hrefused, hnone⟩
      · exact ⟨font, none, hfile, open?_eq_ok_iff.2 (.inr ⟨rfl, hbuiltin, .inl rfl⟩),
          .inr ⟨fun p hp => not_loads_of_search?_eq_none hfile hp, rfl, hbuiltin⟩⟩
      · exact ⟨font, none, hfile,
          open?_eq_ok_iff.2 (.inr ⟨rfl, hbuiltin, .inr ⟨p, what, rfl, hrefused⟩⟩),
          .inr ⟨hnone, rfl, hbuiltin⟩⟩

/-- Blocks for every file that does not begin with the word for a damaged one. -/
def waryFaces : Typefaces where
  inFile? files p size :=
    match files.read p with
    | .ok bytes =>
      if "BAD".toUTF8.data.toList.isPrefixOf bytes.data.toList then
        .error (.system "unknown format".toList)
      else .ok (.block size)
    | .error e => .error (.system (e.message p).toList)
  builtin? size := .ok (.block size)

/-- Two directories with a file of the face, the first one damaged. -/
def twoFaces : FileTree :=
  .ofList [(.ofText "a/DejaVuSans.ttf".toList, "BAD".toUTF8),
    (.ofText "b/DejaVuSans.ttf".toList, "good".toUTF8)]

/-- **A damaged file hides a good one**: the built-in face is used, though the file in the second
directory can be loaded. -/
theorem not_builtinIsLastResort_damaged :
    ¬BuiltinIsLastResort ⟨[.ofText ['a'], .ofText ['b']], [], [], []⟩ waryFaces twoFaces ['0']
      20 := by
  have hsearch : search? ⟨[.ofText ['a'], .ofText ['b']], [], [], []⟩ twoFaces defaultFace =
      .ok (some (.ofText "a/DejaVuSans.ttf".toList)) := by
    rfl
  have hgood : Loads waryFaces twoFaces 20
      ((Path.ofText ['b']).append (.ofText (defaultFace ++ ".ttf".toList))) (.block 20) :=
    ⟨⟨_, rfl⟩, rfl⟩
  have hbad : waryFaces.inFile? twoFaces (.ofText "a/DejaVuSans.ttf".toList) (fontSize 20) =
      .error (.system "unknown format".toList) := by
    rfl
  rw [BuiltinIsLastResort, exists_get?_iff]
  rintro ⟨file, font, path, hfile, hopen, h⟩
  obtain rfl := Except.ok.inj (hsearch.symm.trans hfile)
  rcases open?_eq_ok_iff.1 hopen with ⟨p, hp, -, hloaded⟩ | ⟨rfl, -, -⟩
  · obtain rfl := Option.some.inj hp
    rw [hbad] at hloaded
    cases hloaded
  · rcases h with ⟨p, -, -, hpath⟩ | ⟨hnone, -, -⟩
    · cases hpath
    · exact hnone _ (.inDirectory (List.mem_cons_of_mem _ List.mem_cons_self) List.mem_cons_self)
        _ hgood

end FontLibrary

end LabelPress
