import LabelPress.Canvas.Code128
import LabelPress.Proofs.Canvas.Painted
import Mathlib.Data.List.Nodup
import Mathlib.Tactic

/-!
# Bars and what they stand for

The bars of a bar code do not overlap: each module has the columns from one cursor to the next for
itself, and the cursor is always at the module width times the number of modules before it. So a dot
is black exactly if its row is among those of the bars and the module of its column is black; this
holds dot by dot, wherever the bars begin, since what lies off the canvas is not there.

The modules can be read back. All patterns of the table have eleven modules and no two are the same,
so behind the start pattern the modules are cut into words of eleven, and each word is looked up.
The stop pattern has two modules more; neither of the two words that it is cut into is in the table.

* `moduleText`, `words`, `charOf?`: the modules as they are written, and the way back.
* `map_charOf?_words`: cutting and looking up gives the characters that have a pattern.
* `draws_drawModules`: the dots that the bars paint.
* `drawCode128_modules`: both together.
-/

namespace LabelPress

namespace Code128

/-! ### Reading the modules -/

def hasPattern (c : Char) : Bool := (pattern? c).isSome

/-- The modules of a text as they are written, `1` where there is a bar. -/
def moduleText (data : List Char) : List Char := (encode data).flatMap String.toList

/-- A text cut into words of eleven; the last one may be shorter. -/
def words (s : List Char) : List (List Char) :=
  if s = [] then [] else s.take 11 :: words (s.drop 11)
termination_by s.length
decreasing_by
  have hlen : s.length ≠ 0 := by simp_all
  rw [List.length_drop]
  omega

/-- The character whose pattern is this word. -/
def charOf? (word : List Char) : Option Char :=
  ((patterns.map String.toList).idxOf? word).map fun i => Char.ofNat (32 + i)

theorem words_nil : words [] = [] := by
  rw [words]
  simp

theorem words_append {w : List Char} (hw : w.length = 11) (rest : List Char) :
    words (w ++ rest) = w :: words rest := by
  have hne : w ++ rest ≠ [] := by
    intro h
    rw [(List.append_eq_nil_iff.1 h).1] at hw
    cases hw
  rw [words, if_neg hne, List.take_left' hw, List.drop_left' hw]

theorem words_flatMap {ps : List String} (h : ∀ p ∈ ps, p.toList.length = 11) (rest : List Char) :
    words (ps.flatMap String.toList ++ rest) = ps.map String.toList ++ words rest := by
  induction ps with
  | nil => rfl
  | cons p ps ih =>
    have hp : p.toList.length = 11 := h p List.mem_cons_self
    have hps := ih fun q hq => h q (List.mem_cons_of_mem p hq)
    rw [List.flatMap_cons, List.append_assoc, words_append hp, hps, List.map_cons, List.cons_append]

theorem nodup_patterns : (patterns.map String.toList).Nodup := by
  have hnodup : patterns.Nodup := by simp [patterns]
  exact hnodup.map fun _ _ h => String.toList_inj.1 h

theorem charOf?_eq_none {w : String} (h : w ∉ patterns) : charOf? w.toList = none := by
  have hmem : w.toList ∉ patterns.map String.toList := by
    intro hmem
    obtain ⟨p, hp, heq⟩ := List.mem_map.1 hmem
    rw [String.toList_inj.1 heq] at hp
    exact h hp
  rw [charOf?, List.idxOf?_eq_none_iff.2 hmem, Option.map_none]

/-- The two pieces of the stop pattern are in no table. -/
theorem map_charOf?_words_stop : (words stop.toList).map charOf? = [none, none] := by
  have hsplit : stop.toList = "11000111010".toList ++ ("11".toList ++ []) := by decide
  have hrest : words "11".toList = ["11".toList] := by
    have hdrop : "11".toList.drop 11 = [] := by decide
    rw [words, if_neg (by decide), hdrop, words_nil]
    rfl
  have hfirst : charOf? "11000111010".toList = none := charOf?_eq_none (by simp [patterns])
  have hlast : charOf? "11".toList = none := charOf?_eq_none (by simp [patterns])
  rw [hsplit, words_append (by decide), List.append_nil, hrest, List.map_cons, List.map_singleton,
    hfirst, hlast]

theorem mem_patterns {c : Char} {p : String} (h : pattern? c = some p) : p ∈ patterns := by
  unfold pattern? at h
  split at h
  · cases h
  · exact List.mem_of_getElem? h

/-- **A pattern is looked up as its character.** -/
theorem charOf?_of_pattern? {c : Char} {p : String} (h : pattern? c = some p) :
    charOf? p.toList = some c := by
  unfold pattern? at h
  split at h
  · cases h
  next hspace =>
  have hcode : 32 ≤ c.toNat := not_lt.1 fun hlt => hspace (by exact hlt)
  obtain ⟨hlt, hget⟩ := List.getElem?_eq_some_iff.1 h
  have hlt' : c.toNat - 32 < (patterns.map String.toList).length := by
    rw [List.length_map]
    exact hlt
  have hword : (patterns.map String.toList)[c.toNat - 32] = p.toList := by
    rw [List.getElem_map, hget]
  have hfirst : (patterns.map String.toList).idxOf? p.toList = some (c.toNat - 32) := by
    refine List.idxOf?_eq_some_iff.2 ⟨hlt', hword, fun j hj heq => ?_⟩
    have hsame := (List.Nodup.getElem_inj_iff nodup_patterns).1 (heq.trans hword.symm)
    omega
  have hback : 32 + (c.toNat - 32) = c.toNat := by omega
  rw [charOf?, hfirst, Option.map_some, hback, Char.ofNat_toNat]

theorem map_charOf?_patterns (data : List Char) :
    ((data.filterMap pattern?).map String.toList).map charOf? =
      (data.filter hasPattern).map some := by
  induction data with
  | nil => rfl
  | cons c data ih =>
    cases hc : pattern? c with
    | none =>
      have hnone : ¬hasPattern c = true := by simp [hasPattern, hc]
      rw [List.filterMap_cons_none hc, List.filter_cons_of_neg hnone, ih]
    | some p =>
      have hsome : hasPattern c = true := by simp [hasPattern, hc]
      rw [List.filterMap_cons_some hc, List.filter_cons_of_pos hsome]
      simp only [List.map_cons, charOf?_of_pattern? hc, ih]

theorem moduleText_eq (data : List Char) :
    moduleText data = start.toList ++
      ((data.filterMap pattern?).flatMap String.toList ++ stop.toList) := by
  simp [moduleText, encode]

/-- **Cut into words behind the start pattern and looked up,** the modules are the characters of the
text that have a pattern, and the two pieces of the stop pattern, which are in no table. -/
theorem map_charOf?_words (data : List Char) :
    (words ((moduleText data).drop 11)).map charOf? =
      (data.filter hasPattern).map some ++ [none, none] := by
  have hstart : start.toList.length = 11 := by decide
  have hlong : ∀ p ∈ data.filterMap pattern?, p.toList.length = 11 := by
    intro p hp
    obtain ⟨c, -, hc⟩ := List.mem_filterMap.1 hp
    exact length_pattern p (mem_patterns hc)
  rw [moduleText_eq, List.drop_left' hstart, words_flatMap hlong, List.map_append,
    map_charOf?_words_stop, map_charOf?_patterns]

theorem length_moduleText (data : List Char) :
    (moduleText data).length = 11 * (data.countP hasPattern + 1) + 13 := by
  have hstart : start.toList.length = 11 := by decide
  have hstop : stop.toList.length = 13 := by decide
  have hpatterns :
      ((data.filterMap pattern?).flatMap String.toList).length = 11 * data.countP hasPattern := by
    induction data with
    | nil => rfl
    | cons c data ih =>
      cases hc : pattern? c with
      | none =>
        have hnone : ¬hasPattern c = true := by simp [hasPattern, hc]
        rw [List.filterMap_cons_none hc, List.countP_cons_of_neg hnone, ih]
      | some p =>
        have hsome : hasPattern c = true := by simp [hasPattern, hc]
        have hp := length_pattern p (mem_patterns hc)
        rw [List.filterMap_cons_some hc, List.countP_cons_of_pos hsome, List.flatMap_cons,
          List.length_append, ih, hp]
        omega
  rw [moduleText_eq, List.length_append, List.length_append, hpatterns, hstart, hstop]
  omega

theorem modules_eq (data : List Char) : modules data = (moduleText data).map (· == '1') := by
  rw [modules, moduleText, List.map_flatMap]

theorem getElem?_modules {data : List Char} {n : ℕ} :
    (modules data)[n]? = some true ↔ (moduleText data)[n]? = some '1' := by
  rw [modules_eq, List.getElem?_map]
  cases (moduleText data)[n]? with
  | none => simp
  | some c => simp

end Code128

namespace Canvas

/-! ### Drawing the modules -/

/-- **The dots of bars** of a height and a module width: those of the black modules. -/
def barDots (x y height moduleWidth : ℤ) (modules : List Bool) : Set (ℤ × ℤ) :=
  {p | (y ≤ p.2 ∧ p.2 < y + height) ∧ ∃ n : ℕ, modules[n]? = some true ∧
    x + moduleWidth * n ≤ p.1 ∧ p.1 < x + moduleWidth * n + moduleWidth}

/-- The bars of the first module and the bars of the others, which begin behind it. -/
theorem barDots_cons (x y height moduleWidth : ℤ) (bar : Bool) (modules : List Bool) :
    barDots x y height moduleWidth (bar :: modules) =
      (if bar then boxDots x y (x + moduleWidth - 1) (y + height - 1) else ∅) ∪
        barDots (x + moduleWidth) y height moduleWidth modules := by
  have hnext : ∀ n : ℕ, x + moduleWidth * (n + 1 : ℕ) = x + moduleWidth + moduleWidth * n := by
    intro n
    push_cast
    ring
  ext ⟨i, j⟩
  simp only [barDots, Set.mem_ofPred_eq, Set.mem_union]
  constructor
  · rintro ⟨hrow, n, hn, hleft, hright⟩
    cases n with
    | zero =>
      left
      obtain rfl : bar = true := Option.some.inj hn
      simp only [Nat.cast_zero, mul_zero, add_zero] at hleft hright
      rw [if_pos rfl, mem_boxDots]
      omega
    | succ n =>
      rw [hnext] at hleft hright
      exact .inr ⟨hrow, n, hn, hleft, hright⟩
  · rintro (hfirst | ⟨hrow, n, hn, hleft, hright⟩)
    · cases bar with
      | false => exact hfirst.elim
      | true =>
        rw [if_pos rfl, mem_boxDots] at hfirst
        refine ⟨by omega, 0, rfl, ?_⟩
        simp only [Nat.cast_zero, mul_zero, add_zero]
        omega
    · rw [← hnext] at hleft hright
      exact ⟨hrow, n + 1, hn, hleft, hright⟩

/-- **What the bars paint**, between two columns that they do not leave. -/
theorem draws_drawModules {x y height moduleWidth first last : ℤ} {modules : List Bool}
    (hcorners : Corners first y last (y + height - 1)) (hmodule : 1 ≤ moduleWidth)
    (hfirst : first ≤ x) (hlast : x + moduleWidth * modules.length - 1 ≤ last) :
    Draws black (barDots x y height moduleWidth modules) (barDots x y height moduleWidth modules)
      (drawModules y height moduleWidth x modules) := by
  induction modules generalizing x with
  | nil =>
    have hnone : barDots x y height moduleWidth [] = ∅ := by
      ext p
      simp [barDots]
    rw [hnone]
    exact .pure
  | cons bar modules ih =>
    have hwidth : moduleWidth * ((bar :: modules).length : ℤ) =
        moduleWidth + moduleWidth * modules.length := by
      rw [List.length_cons]
      push_cast
      ring
    rw [hwidth] at hlast
    have hrest : 0 ≤ moduleWidth * (modules.length : ℤ) := by positivity
    have hbar : Draws black
        (if bar then boxDots x y (x + moduleWidth - 1) (y + height - 1) else ∅)
        (if bar then boxDots x y (x + moduleWidth - 1) (y + height - 1) else ∅)
        (if bar then fillRect x y moduleWidth height black.toNat else pure ()) := by
      cases bar with
      | false => exact .pure
      | true =>
        have hrows := hcorners.rows
        exact draws_fillRect (hcorners.sub (by omega) (by omega))
    have hothers : Draws black (barDots (x + moduleWidth) y height moduleWidth modules)
        (barDots (x + moduleWidth) y height moduleWidth modules)
        (drawModules y height moduleWidth (x + moduleWidth) modules) :=
      ih (by omega) (by omega)
    have hdraw : drawModules y height moduleWidth x (bar :: modules) =
        (if bar then fillRect x y moduleWidth height black.toNat else pure ()) >>= fun _ =>
          drawModules y height moduleWidth (x + moduleWidth) modules := by
      cases bar <;> rfl
    rw [barDots_cons, hdraw]
    exact hbar.bind hothers

section
variable {x y height moduleWidth width rows : ℤ} {c : Canvas} {modules : List Bool}

/-- Bars on a new canvas: their dots are black and all others white. -/
theorem exists_drawModules_of_new (hnew : new? width rows = .ok c) (hmodule : 1 ≤ moduleWidth)
    (hcorners : Corners x y (x + moduleWidth * modules.length - 1) (y + height - 1)) :
    ∃ d, (drawModules y height moduleWidth x modules).run.run c = (.ok (), d) ∧
      (d.width = width ∧ d.height = rows) ∧
      ∀ i j, 0 ≤ i → i < width → 0 ≤ j → j < rows →
        ((i, j) ∈ barDots x y height moduleWidth modules → d.pixel? i j = some black) ∧
        ((i, j) ∉ barDots x y height moduleWidth modules → d.pixel? i j = some white) := by
  obtain ⟨hwidth, hrows, rfl⟩ := new?_eq_ok_iff.1 hnew
  have hsize : (blank width.toNat rows.toNat).width = width.toNat ∧
      (blank width.toNat rows.toNat).height = rows.toNat := ⟨rfl, rfl⟩
  obtain ⟨d, dots, hrun, hleast, hmost, hpainted⟩ :=
    draws_drawModules hcorners hmodule le_rfl le_rfl (blank width.toNat rows.toNat) (by omega)
  obtain rfl := hleast.antisymm hmost
  have hd := hpainted.width_eq
  have hd' := hpainted.height_eq
  refine ⟨d, hrun, ⟨by omega, by omega⟩, fun i j hi hi' hj hj' => ?_⟩
  have hwhite : (blank width.toNat rows.toNat).pixel? i j = some white :=
    pixel?_blank (by omega)
  constructor
  · intro hmem
    rw [hpainted.of_mem hmem, hwhite]
    rfl
  · intro hout
    rw [hpainted.of_notMem hout, hwhite]

end

/-- **The bars of a text are its modules, and the modules can be read back.** On a new canvas the
bars are drawn wherever their corners are coordinates of 24 bits, the answer is their whole width,
and a dot is black exactly if its row is one of theirs and its column belongs to a module that is
`1`. Cut into words of eleven behind the start pattern and looked up, the modules of any text give
the characters of the text that have a pattern, and nothing for the two pieces of the stop
pattern. -/
theorem drawCode128_modules (data : List Char) :
    (∀ {x y height moduleWidth width rows : ℤ} {c : Canvas}, new? width rows = .ok c →
      1 ≤ height → 1 ≤ moduleWidth →
      (x.natAbs < 0x1000000 ∧
        (x + moduleWidth * (Code128.moduleText data).length - 1).natAbs < 0x1000000) →
      (y.natAbs < 0x1000000 ∧ (y + height - 1).natAbs < 0x1000000) →
      ∃ d, (drawCode128 data x y height moduleWidth).run.run c =
          (.ok (moduleWidth * (11 * (data.countP Code128.hasPattern + 1) + 13)), d) ∧
        (d.width = width ∧ d.height = rows) ∧
        ∀ i j, 0 ≤ i → i < width → 0 ≤ j → j < rows →
          let isBar := (y ≤ j ∧ j < y + height) ∧ ∃ (n : ℕ) (u : ℤ), (0 ≤ u ∧ u < moduleWidth) ∧
            i = x + moduleWidth * n + u ∧ (Code128.moduleText data)[n]? = some '1'
          (isBar → d.pixel? i j = some black) ∧ (¬isBar → d.pixel? i j = some white)) ∧
    (Code128.words ((Code128.moduleText data).drop 11)).map Code128.charOf? =
      (data.filter Code128.hasPattern).map some ++ [none, none] := by
  refine ⟨?_, Code128.map_charOf?_words data⟩
  intro x y height moduleWidth width rows c hnew hheight hmodule hcolumns hrows
  have hlength : (Code128.modules data).length = (Code128.moduleText data).length := by
    rw [Code128.modules_eq, List.length_map]
  have hpositive : 0 < moduleWidth * ((Code128.moduleText data).length : ℤ) := by
    rw [Code128.length_moduleText]
    positivity
  have hcorners : Corners x y (x + moduleWidth * (Code128.modules data).length - 1)
      (y + height - 1) := by
    rw [hlength]
    exact ⟨hcolumns.1, hrows.1, hcolumns.2, hrows.2, by omega, by omega⟩
  obtain ⟨d, hrun, hsize, hdots⟩ := exists_drawModules_of_new hnew hmodule hcorners
  refine ⟨d, ?_, hsize, fun i j hi hi' hj hj' => ?_⟩
  · unfold drawCode128
    rw [ExceptT.run_bind, StateT.run_bind, hrun, hlength, Code128.length_moduleText]
    push_cast
    rfl
  · have hbar : (i, j) ∈ barDots x y height moduleWidth (Code128.modules data) ↔
        (y ≤ j ∧ j < y + height) ∧ ∃ (n : ℕ) (u : ℤ), (0 ≤ u ∧ u < moduleWidth) ∧
          i = x + moduleWidth * n + u ∧ (Code128.moduleText data)[n]? = some '1' := by
      refine and_congr_right fun _ => exists_congr fun n => ?_
      rw [Code128.getElem?_modules]
      constructor
      · rintro ⟨hn, hleft, hright⟩
        exact ⟨i - (x + moduleWidth * n), ⟨by omega, by omega⟩, by omega, hn⟩
      · rintro ⟨u, hu, rfl, hn⟩
        exact ⟨hn, by omega, by omega⟩
    intro isBar
    exact ⟨fun h => (hdots i j hi hi' hj hj').1 (hbar.2 h),
      fun h => (hdots i j hi hi' hj hj').2 (mt hbar.1 h)⟩

/-- Two characters with a pattern and one without, from left of the canvas to right of it: dots of
the first row are white, and the column of a black module of the start pattern is black. -/
theorem drawCode128_modules_across :
    ∃ d, (drawCode128 ['A', 'z', 'B'] (-3) 1 2 2).run.run (blank 40 4) = (.ok 92, d) ∧
      d.pixel? 0 0 = some white ∧ d.pixel? 4 2 = some black := by
  have hnew : new? 40 4 = .ok (blank 40 4) :=
    new?_eq_ok_iff.2 ⟨⟨by omega, by omega⟩, ⟨by omega, by omega⟩, rfl⟩
  have hcount : ['A', 'z', 'B'].countP Code128.hasPattern = 2 := by decide
  have hlength : (Code128.moduleText ['A', 'z', 'B']).length = 46 := by
    rw [Code128.length_moduleText, hcount]
  have hthird : (Code128.moduleText ['A', 'z', 'B'])[3]? = some '1' := by
    rw [Code128.moduleText_eq]
    decide
  obtain ⟨d, hrun, -, hdots⟩ := (drawCode128_modules ['A', 'z', 'B']).1 hnew
    (by omega : (1 : ℤ) ≤ 2) (by omega : (1 : ℤ) ≤ 2)
    (by rw [hlength]; omega : (-3 : ℤ).natAbs < 0x1000000 ∧
      (-3 + 2 * ((Code128.moduleText ['A', 'z', 'B']).length : ℤ) - 1).natAbs < 0x1000000)
    (by omega : (1 : ℤ).natAbs < 0x1000000 ∧ (1 + 2 - 1 : ℤ).natAbs < 0x1000000)
  rw [hcount] at hrun
  have habove := (hdots 0 0 (by omega) (by omega) (by omega) (by omega)).2 fun h => by
    have := h.1.1
    omega
  have hbar := (hdots 4 2 (by omega) (by omega) (by omega) (by omega)).1
    ⟨⟨by omega, by omega⟩, 3, 1, ⟨by omega, by omega⟩, by omega, hthird⟩
  exact ⟨d, hrun, habove, hbar⟩

end Canvas

end LabelPress
