import LabelPress.Files.Search
import Mathlib

/-! # What a search comes across

A search for names in a directory and everywhere below it goes down only as many steps as there are
directories. It misses nothing by this: the directories on the way to a file lie one in the other,
so they are all different. Names that lead up are not on such a way.

* `NamePattern.matchesName_beginning`: the names that begin with a text.
* `FileTree.place_append`, `FileTree.follow_append`: the first part of a way that leads somewhere
  leads somewhere, too.
* `FileTree.mem_descend`: the directories on the way are come across.
* `FileTree.mem_found`: all that can be read below a directory is found by its name.
* `FileTree.exists_names_of_mem_found`: what is found lies below the directory. -/

namespace LabelPress

/-! ### The beginnings of names -/

namespace NamePattern

/-- The pattern of the names that begin with a text. -/
def beginning (s : List Char) : NamePattern := s.map .literal ++ [.any]

/-- Characters that are no wildcards stand for themselves. -/
theorem ofText_append {s : List Char} (h : s.any ['*', '?', '['].contains = false)
    (rest : List Char) : ofText (s ++ rest) = s.map .literal ++ ofText rest := by
  induction s with
  | nil => rfl
  | cons c s ih =>
    rw [List.any_cons, Bool.or_eq_false_iff] at h
    obtain ⟨hc, hs⟩ := h
    simp only [List.contains_eq_mem, decide_eq_false_iff_not, List.mem_cons, List.not_mem_nil,
      or_false, not_or] at hc
    rw [List.cons_append, ofText]
    · rw [ih hs]
      rfl
    · exact hc.1
    · exact hc.2.1
    · exact hc.2.2

theorem ofText_asterisk {s : List Char} (h : s.any ['*', '?', '['].contains = false) :
    ofText (s ++ ['*']) = beginning s := by
  rw [ofText_append h, ofText, ofText]
  rfl

/-- What is left of a name behind a character of a pattern. -/
theorem advance_literal (c d : Char) (rest : List Char) :
    advance [d :: rest] (.literal c) = if d = c then [rest] else [] := by
  have hc : Wildcard.isIn [(c, c)] d = decide (d = c) := by
    simp only [Wildcard.isIn, List.any_cons, List.any_nil, Bool.or_false]
    rw [← Bool.decide_and, decide_eq_decide]
    exact ⟨fun h => Char.le_antisymm h.2 h.1, fun h => ⟨h.ge, h.le⟩⟩
  simp only [advance, Wildcard.literal, List.filterMap_cons, List.filterMap_nil, hc]
  by_cases h : d = c
  · simp [h]
  · simp [h]

/-- Nothing is left of nothing. -/
theorem foldl_advance_nil (p : NamePattern) : p.foldl advance [] = [] := by
  induction p with
  | nil => rfl
  | cons w p ih =>
    have hw : advance [] w = [] := by cases w <;> rfl
    rw [List.foldl_cons, hw, ih]

theorem any_isEmpty_tails (s : List Char) : (tails s).any List.isEmpty = true := by
  induction s with
  | nil => rfl
  | cons c s ih => rw [tails, List.any_cons, ih, Bool.or_true]

/-- **The names that begin with a text.** -/
theorem matchesName_beginning (s name : List Char) :
    (beginning s).matchesName name = true ↔ s <+: name := by
  unfold beginning matchesName
  induction s generalizing name with
  | nil => simp [advance, any_isEmpty_tails]
  | cons c s ih =>
    rw [List.map_cons, List.cons_append, List.foldl_cons]
    cases name with
    | nil => simp [advance, Wildcard.literal, foldl_advance_nil]
    | cons d rest =>
      rw [advance_literal]
      split_ifs with h
      · subst h
        rw [ih, List.cons_prefix_cons]
        exact ⟨fun hrest => ⟨rfl, hrest⟩, And.right⟩
      · rw [foldl_advance_nil, List.cons_prefix_cons]
        exact iff_of_false Bool.false_ne_true fun hprefix => h hprefix.1.symm

end NamePattern

/-! ### Ways that lead somewhere -/

namespace Path

theorem append_append (d : Path) (names names' : List (List Char)) :
    (d.append ⟨.relative, names⟩).append ⟨.relative, names'⟩ =
      d.append ⟨.relative, names ++ names'⟩ := by
  simp [append]

theorem append_nil (d : Path) : d.append ⟨.relative, []⟩ = d := by
  simp [append]

theorem name_append (d : Path) (names : List (List Char)) (last : List Char) :
    (d.append ⟨.relative, names ++ [last]⟩).name = last := by
  simp [append, name]

/-- A name that has a suffix goes on with a dot behind its stem. -/
theorem stem_dot_prefix {p : Path} (h : p.suffix ≠ []) : p.stem ++ ['.'] <+: p.name := by
  have hdot : (cut p.name).2 = [] ∨ ∃ rest, (cut p.name).2 = '.' :: rest := by
    unfold cut
    split
    next =>
      dsimp only
      split_ifs
      · exact .inl rfl
      · exact .inr ⟨_, rfl⟩
    next => exact .inl rfl
  obtain ⟨rest, hrest⟩ := hdot.resolve_left h
  refine ⟨rest, ?_⟩
  rw [List.append_assoc]
  calc p.stem ++ (['.'] ++ rest) = p.stem ++ p.suffix := congrArg _ hrest.symm
    _ = p.name := stem_append_suffix p

end Path

theorem byteCount_append (s s' : List Char) : byteCount (s ++ s') = byteCount s + byteCount s' := by
  rw [byteCount, String.ofList_append, String.utf8ByteSize_append]
  rfl

theorem exists_intercalate_append (names names' : List (List Char)) :
    ∃ rest, ['/'].intercalate (names ++ names') = ['/'].intercalate names ++ rest := by
  match names with
  | [] => exact ⟨_, rfl⟩
  | [name] =>
    cases names' with
    | nil => exact ⟨[], by simp⟩
    | cons name' names' => exact ⟨'/' :: ['/'].intercalate (name' :: names'), by simp⟩
  | name :: next :: names =>
    obtain ⟨rest, hrest⟩ := exists_intercalate_append (next :: names) names'
    exact ⟨rest, by simpa using hrest⟩

/-- A path that is short enough when names are added is short enough without them. -/
theorem Path.byteCount_text_le {d : Path} {names : List (List Char)}
    (h : byteCount (d.append ⟨.relative, names⟩).text ≤ longestPath) :
    byteCount d.text ≤ longestPath := by
  by_cases hempty : d.root = .relative ∧ d.names = []
  · rw [Path.text, if_pos hempty]
    decide
  · have hempty' : ¬(d.root = .relative ∧ d.names ++ names = []) := fun ⟨hroot, hnames⟩ =>
      hempty ⟨hroot, (List.append_eq_nil_iff.1 hnames).1⟩
    obtain ⟨rest, hrest⟩ := exists_intercalate_append d.names names
    rw [Path.text, if_neg hempty]
    rw [Path.append, Path.text, if_neg hempty', hrest, ← List.append_assoc, byteCount_append] at h
    exact (Nat.le_add_right _ _).trans h

namespace FileTree

variable {t : FileTree}

theorem follow_append {a q : Place} {names names' : List (List Char)} :
    t.follow a (names ++ names') = .ok q ↔
      ∃ b, t.follow a names = .ok b ∧ t.follow b names' = .ok q := by
  induction names generalizing a with
  | nil => simp [follow]
  | cons name names ih =>
    simp only [List.cons_append, follow]
    split_ifs <;> simp [ih]

/-- A way goes on from a directory only. -/
theorem isDirAt_of_follow {a q : Place} {names : List (List Char)} (h : t.follow a names = .ok q)
    (hnames : names ≠ []) : t.bytes? a = none ∧ t.isDirAt a = true := by
  cases names with
  | nil => exact absurd rfl hnames
  | cons name names =>
    unfold follow at h
    split_ifs at h with hbytes hdir
    · exact ⟨Option.not_isSome_iff_eq_none.1 hbytes, by simpa using hdir⟩
    · exact ⟨Option.not_isSome_iff_eq_none.1 hbytes, by simpa using hdir⟩

/-- Names that do not lead up lead down. -/
theorem eq_append_of_follow {a q : Place} {names : List (List Char)}
    (h : t.follow a names = .ok q) (hup : ['.', '.'] ∉ names) : q = a ++ names := by
  induction names generalizing a with
  | nil =>
    rw [List.append_nil]
    exact (Except.ok.inj h).symm
  | cons name names ih =>
    obtain ⟨hname, hnames⟩ := List.ne_and_not_mem_of_not_mem_cons hup
    unfold follow at h
    split_ifs at h with _ _ _ hup
    · exact absurd hup.symm hname
    · rw [ih h hnames, List.append_assoc]
      rfl

/-- A path that leads somewhere does so step by step. -/
theorem place_append {d : Path} {names : List (List Char)} {q : Place}
    (h : t.place (d.append ⟨.relative, names⟩) = .ok q) :
    ∃ a, t.place d = .ok a ∧ t.follow a names = .ok q := by
  unfold place at h ⊢
  split_ifs at h with hzero hlong
  have hzero' : ¬d.names.any (·.contains (Char.ofNat 0)) = true := by
    rw [Path.append, List.any_append, Bool.or_eq_true, not_or] at hzero
    exact hzero.1
  have hshort := Path.byteCount_text_le (Nat.not_lt.1 hlong)
  rw [if_neg hzero', if_neg (Nat.not_lt.2 hshort)]
  cases hroot : d.root with
  | relative =>
    rw [Path.append, hroot] at h
    exact follow_append.1 h
  | absolute =>
    rw [Path.append, hroot] at h
    cases h
  | doubled =>
    rw [Path.append, hroot] at h
    cases h

/-- What can be read is at a place. -/
theorem place_of_read {p : Path} {bytes : ByteArray} (h : t.read p = .ok bytes) :
    ∃ q, t.place p = .ok q ∧ t.bytes? q = some bytes := by
  unfold read at h
  cases hplace : t.place p with
  | error e =>
    rw [hplace] at h
    cases h
  | ok q =>
    rw [hplace] at h
    cases hbytes : t.bytes? q with
    | none => simp [hbytes, bind, Except.bind] at h
    | some bytes' =>
      simp only [hbytes, bind, Except.bind, pure, Except.pure, Except.ok.injEq] at h
      exact ⟨q, rfl, by rw [h] at hbytes; exact hbytes⟩

/-- What can be read is a file. -/
theorem look_of_read {p : Path} {bytes : ByteArray} (h : t.read p = .ok bytes) :
    t.look p = .ok (some .file) := by
  obtain ⟨q, hplace, hbytes⟩ := place_of_read h
  simp [look, hplace, kindAt?, hbytes]

/-- What can be read lies in a directory. -/
theorem look_of_read_append {d : Path} {names : List (List Char)} {bytes : ByteArray}
    (h : t.read (d.append ⟨.relative, names⟩) = .ok bytes) (hnames : names ≠ []) :
    t.look d = .ok (some .directory) := by
  obtain ⟨q, hplace, -⟩ := place_of_read h
  obtain ⟨a, ha, hfollow⟩ := place_append hplace
  obtain ⟨hbytes, hdir⟩ := isDirAt_of_follow hfollow hnames
  simp [look, ha, kindAt?, hbytes, hdir]

/-! ### The way down -/

theorem mem_namesIn {a : Place} {name : List Char} :
    name ∈ t.namesIn a ↔ a ++ [name] ∈ t.files.map (·.1) ++ t.dirs := by
  unfold namesIn
  rw [List.mem_filterMap]
  constructor
  · rintro ⟨q, hq, hname⟩
    split at hname
    next last hlast =>
      split_ifs at hname with ha
      obtain rfl := Option.some.inj hname
      rwa [← ha, List.dropLast_append_getLast? last hlast]
    next => cases hname
  · intro h
    exact ⟨a ++ [name], h, by simp⟩

/-- A directory or a file that is there is among the names of what it is in. -/
theorem mem_namesIn_of_isDirAt {a : Place} {name : List Char}
    (h : t.isDirAt (a ++ [name]) = true) : name ∈ t.namesIn a := by
  rw [mem_namesIn, List.mem_append]
  exact .inr (by simpa [isDirAt] using h)

theorem mem_namesIn_of_bytes? {a : Place} {name : List Char} {bytes : ByteArray}
    (h : t.bytes? (a ++ [name]) = some bytes) : name ∈ t.namesIn a := by
  rw [mem_namesIn, List.mem_append]
  obtain ⟨files, rest, hfiles, -⟩ := List.lookup_eq_some_iff.1 h
  exact .inl (by simp [hfiles])

/-- **A step of a way down**: to a directory that is in the one before. -/
theorem mem_entries_of_place {d : Path} {name : List Char} {names : List (List Char)} {q : Place}
    (h : t.place (d.append ⟨.relative, name :: names⟩) = .ok q) (hup : name ≠ ['.', '.'])
    (hnames : names ≠ []) :
    d.append ⟨.relative, [name]⟩ ∈ (t.entries d).filter t.isDirectory := by
  obtain ⟨b, hb, hrest⟩ : ∃ b, t.place (d.append ⟨.relative, [name]⟩) = .ok b ∧
      t.follow b names = .ok q :=
    place_append (by rw [Path.append_append]; exact h)
  obtain ⟨a, ha, hname⟩ := place_append hb
  have hdown := eq_append_of_follow hname (by simpa using Ne.symm hup)
  have hdir := (isDirAt_of_follow hrest hnames).2
  rw [List.mem_filter, entries, ha, isDirectory, hb]
  rw [hdown] at hdir ⊢
  exact ⟨List.mem_map_of_mem (mem_namesIn_of_isDirAt hdir), hdir⟩

/-- **The directories on the way are come across**, if they are not too many. -/
theorem mem_descend {depth : ℕ} {d : Path} {names : List (List Char)} {last : List Char} {q : Place}
    (h : t.place (d.append ⟨.relative, names ++ [last]⟩) = .ok q) (hup : ['.', '.'] ∉ names)
    (hdepth : names.length ≤ depth) : d.append ⟨.relative, names⟩ ∈ t.descend depth d := by
  induction names generalizing d depth with
  | nil =>
    rw [Path.append_nil]
    cases depth with
    | zero => exact List.mem_singleton_self d
    | succ depth => exact List.mem_cons_self
  | cons name names ih =>
    obtain ⟨hname, hnames⟩ := List.ne_and_not_mem_of_not_mem_cons hup
    cases depth with
    | zero => cases hdepth
    | succ depth =>
      have hstep := mem_entries_of_place h hname.symm (by simp)
      have hrest := ih (d := d.append ⟨.relative, [name]⟩) (by rw [Path.append_append]; exact h)
        hnames (Nat.le_of_succ_le_succ hdepth)
      rw [Path.append_append] at hrest
      exact List.mem_cons_of_mem d (List.mem_flatMap.2 ⟨_, hstep, hrest⟩)

/-- **There are never too many**: the places on the way are different directories. -/
theorem length_le_of_place {d : Path} {names : List (List Char)} {last : List Char} {q : Place}
    (h : t.place (d.append ⟨.relative, names ++ [last]⟩) = .ok q) (hup : ['.', '.'] ∉ names) :
    names.length ≤ t.dirs.length := by
  obtain ⟨a, -, hfollow⟩ := place_append h
  -- The places after one name, after two names and so on, all of different lengths.
  let way := (List.range names.length).map fun k => a ++ names.take (k + 1)
  have hdifferent : way.Nodup := by
    refine List.Nodup.map_on (fun k hk l hl hkl => ?_) List.nodup_range
    have hlengths := congrArg List.length hkl
    simp only [List.length_append, List.length_take] at hlengths
    have hk := List.mem_range.1 hk
    have hl := List.mem_range.1 hl
    omega
  have hdirs : way ⊆ t.dirs := by
    intro b hb
    obtain ⟨k, hk, rfl⟩ := List.mem_map.1 hb
    have hsplit : names ++ [last] = names.take (k + 1) ++ (names.drop (k + 1) ++ [last]) := by
      rw [← List.append_assoc, List.take_append_drop]
    rw [hsplit] at hfollow
    obtain ⟨b, hb, hrest⟩ := follow_append.1 hfollow
    have hdir := (isDirAt_of_follow hrest (by simp)).2
    rw [eq_append_of_follow hb fun hmem => hup (List.mem_of_mem_take hmem)] at hdir
    have hnonempty : a ++ names.take (k + 1) ≠ [] := by
      have hk := List.mem_range.1 hk
      rw [← List.length_pos_iff]
      simp only [List.length_append, List.length_take]
      omega
    simpa [isDirAt, hnonempty] using hdir
  have hlength := hdifferent.length_le_of_subset hdirs
  rwa [List.length_map, List.length_range] at hlength

/-! ### What is found -/

/-- What names lead to, in a directory and in those below it. -/
def found (t : FileTree) (pattern : NamePattern) (d : Path) : List Path :=
  (t.descend t.dirs.length d).flatMap fun p =>
    (t.entries p).filter fun q => pattern.matchesName q.name

theorem follows_names (pattern : NamePattern) (p : Path) : t.follows [.names pattern] p =
    .ok ((t.entries p).filter fun q => pattern.matchesName q.name) := by
  have hlast : t.follows [] = fun q => pure [q] := rfl
  rw [follows, hlast, List.mapM_pure]
  simp [bind, Except.bind, pure, Except.pure, ← List.flatMap_def, List.flatMap_singleton']

/-- **A search for names at any depth** tells what is found. -/
theorem search_anywhere {d : Path} (pattern : NamePattern) (h : t.look d = .ok (some .directory)) :
    t.search [.descent, .names pattern] d = .ok (t.found pattern d) := by
  have hnames : t.follows [.names pattern] = fun p =>
      pure ((t.entries p).filter fun q => pattern.matchesName q.name) :=
    funext (follows_names pattern)
  have hfollows : t.follows [.descent, .names pattern] d = .ok (t.found pattern d) := by
    rw [follows, hnames, List.mapM_pure]
    rfl
  rw [search, lookFor, h]
  exact hfollows

/-- **All that can be read below a directory is found** by the beginning of its name. -/
theorem mem_found {d : Path} {names : List (List Char)} {s last : List Char} {bytes : ByteArray}
    (h : t.read (d.append ⟨.relative, names ++ [last]⟩) = .ok bytes) (hup : ['.', '.'] ∉ names)
    (hlast : last ≠ ['.', '.']) (hs : s <+: last) :
    d.append ⟨.relative, names ++ [last]⟩ ∈ t.found (.beginning s) d := by
  obtain ⟨q, hplace, hbytes⟩ := place_of_read h
  have hdescend := mem_descend hplace hup (length_le_of_place hplace hup)
  obtain ⟨a, ha, hfollow⟩ : ∃ a, t.place (d.append ⟨.relative, names⟩) = .ok a ∧
      t.follow a [last] = .ok q :=
    place_append (by rw [Path.append_append]; exact hplace)
  rw [eq_append_of_follow hfollow (by simpa using hlast.symm)] at hbytes
  refine List.mem_flatMap.2 ⟨_, hdescend, List.mem_filter.2 ⟨?_, ?_⟩⟩
  · rw [entries, ha]
    exact List.mem_map.2 ⟨last, mem_namesIn_of_bytes? hbytes, Path.append_append d names [last]⟩
  · rw [Path.name_append, NamePattern.matchesName_beginning]
    exact hs

/-- **No file and no directory is called two dots**, which lead up. -/
def IsPlain (t : FileTree) : Prop := ∀ q ∈ t.files.map (·.1) ++ t.dirs, ['.', '.'] ∉ q

theorem exists_name_of_mem_entries (hplain : t.IsPlain) {p q : Path} (h : q ∈ t.entries p) :
    ∃ name, name ≠ ['.', '.'] ∧ q = p.append ⟨.relative, [name]⟩ := by
  unfold entries at h
  split at h
  next a ha =>
    obtain ⟨name, hname, rfl⟩ := List.mem_map.1 h
    have hup := hplain _ (mem_namesIn.1 hname)
    exact ⟨name, fun hname => hup (by simp [hname]), rfl⟩
  next => cases h

theorem exists_names_of_mem_descend (hplain : t.IsPlain) {depth : ℕ} {d p : Path}
    (h : p ∈ t.descend depth d) :
    ∃ names, ['.', '.'] ∉ names ∧ p = d.append ⟨.relative, names⟩ := by
  induction depth generalizing d with
  | zero =>
    obtain rfl := List.mem_singleton.1 h
    exact ⟨[], List.not_mem_nil, (Path.append_nil p).symm⟩
  | succ depth ih =>
    rcases List.mem_cons.1 h with rfl | h
    · exact ⟨[], List.not_mem_nil, (Path.append_nil p).symm⟩
    · obtain ⟨e, he, hp⟩ := List.mem_flatMap.1 h
      obtain ⟨name, hname, rfl⟩ := exists_name_of_mem_entries hplain (List.mem_filter.1 he).1
      obtain ⟨names, hnames, rfl⟩ := ih hp
      exact ⟨name :: names, by simp [hname.symm, hnames], Path.append_append d [name] names⟩

/-- **What is found lies below the directory.** -/
theorem exists_names_of_mem_found (hplain : t.IsPlain) {pattern : NamePattern} {d q : Path}
    (h : q ∈ t.found pattern d) :
    ∃ names, names ≠ [] ∧ ['.', '.'] ∉ names ∧ q = d.append ⟨.relative, names⟩ := by
  obtain ⟨p, hp, hq⟩ := List.mem_flatMap.1 h
  obtain ⟨names, hnames, rfl⟩ := exists_names_of_mem_descend hplain hp
  obtain ⟨name, hname, rfl⟩ := exists_name_of_mem_entries hplain (List.mem_filter.1 hq).1
  exact ⟨names ++ [name], by simp, by simp [hname.symm, hnames], Path.append_append d names [name]⟩

end FileTree

end LabelPress
