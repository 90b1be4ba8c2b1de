import LabelPress.Text.UpperCase
import Mathlib

/-! # Letters in either case

A text that becomes a single Latin capital in upper case is that letter in either case, unless the
letter is `I` or `S`: the dotless `ı` and the long `ſ` have these capitals too.

* `of_ascii`: what holds of all small code points holds of all ASCII characters.
* `upperChar_eq_singleton_iff`, `upper_eq_singleton_iff`: the texts with a capital. -/

namespace LabelPress.Text

theorem of_ascii {P : Char → Prop} (h : ∀ k < 128, P (Char.ofNat k)) {c : Char}
    (hc : c.toNat < 128) : P c := by
  have hp := h c.toNat hc
  rwa [Char.ofNat_toNat] at hp

/-- A capital of several characters is never a single one, and never none. -/
theorem two_le_length_of_mem_longCapitals :
    ∀ entry ∈ longCapitals, 2 ≤ entry.2.length := by decide

/-- The capitals of the letters beyond ASCII lie beyond ASCII, but for `I` and `S`. -/
theorem capital_of_mem_capitalRuns :
    ∀ run ∈ capitalRuns, 128 ≤ (run.1 : Int) + run.2.2.2 ∨
      run.1 = run.2.1 ∧ ((run.1 : Int) + run.2.2.2 = 73 ∨ (run.1 : Int) + run.2.2.2 = 83) := by
  decide +kernel

/-- A character beyond ASCII has a capital of several characters, one of a single character as far
away as its run says, or none. -/
theorem upperChar_cases {c : Char} (hc : 128 ≤ c.toNat) :
    (∃ entry ∈ longCapitals, upperChar c = entry.2.map Char.ofNat) ∨
      (∃ run ∈ capitalRuns, run.1 ≤ c.toNat ∧ c.toNat ≤ run.2.1 ∧
        upperChar c = [Char.ofNat (c.toNat + run.2.2.2).toNat]) ∨ upperChar c = [c] := by
  unfold upperChar
  dsimp only
  rw [if_neg (by omega)]
  split
  · next entry codes hfind =>
    exact .inl ⟨_, List.mem_of_find?_eq_some hfind, rfl⟩
  · split
    · next lo hi step shift hfind =>
      have hin := List.find?_some hfind
      simp only [Bool.and_eq_true, decide_eq_true_eq] at hin
      exact .inr (.inl ⟨_, List.mem_of_find?_eq_some hfind, hin.1.1, hin.1.2, rfl⟩)
    · exact .inr (.inr rfl)

theorem upperChar_ne_nil (c : Char) : upperChar c ≠ [] := by
  by_cases hc : c.toNat < 128
  · rw [upperChar_ascii hc]
    exact List.cons_ne_nil _ _
  · obtain ⟨entry, hentry, heq⟩ | ⟨run, -, -, -, heq⟩ | heq := upperChar_cases (Nat.le_of_not_lt hc)
    · have hlength := two_le_length_of_mem_longCapitals entry hentry
      rw [heq, Ne, List.map_eq_nil_iff]
      rintro hnil
      rw [hnil] at hlength
      cases hlength
    · rw [heq]
      exact List.cons_ne_nil _ _
    · rw [heq]
      exact List.cons_ne_nil _ _

/-- The Latin capitals. -/
theorem toNat_of_isUpper {letter : Char} (h : letter.isUpper = true) :
    65 ≤ letter.toNat ∧ letter.toNat ≤ 90 := by
  simp only [Char.isUpper, decide_eq_true_eq] at h
  exact ⟨UInt32.le_iff_toNat_le.1 h.1, UInt32.le_iff_toNat_le.1 h.2⟩

/-- A code point stands for a character of its own, or for none. -/
theorem toNat_ofNat_cases (k : Nat) : (Char.ofNat k).toNat = k ∨ (Char.ofNat k).toNat = 0 := by
  unfold Char.ofNat
  split_ifs
  · exact .inl rfl
  · exact .inr rfl

section
variable {letter : Char} (hletter : letter.isUpper = true) (hI : letter ≠ 'I') (hS : letter ≠ 'S')
include hletter hI hS

/-- **The characters with a capital** are the letter in either case. -/
theorem upperChar_eq_singleton_iff {c : Char} :
    upperChar c = [letter] ↔ c = letter ∨ c = letter.toLower := by
  have hrange := toNat_of_isUpper hletter
  by_cases hc : c.toNat < 128
  · rw [upperChar_ascii hc, List.cons.injEq]
    have hback : c = c.toUpper ∨ c = c.toUpper.toLower :=
      of_ascii (P := fun c => c = c.toUpper ∨ c = c.toUpper.toLower) (by decide) hc
    have hforth : letter.isUpper = true →
        letter.toUpper = letter ∧ letter.toLower.toUpper = letter :=
      of_ascii (P := fun c => c.isUpper = true → c.toUpper = c ∧ c.toLower.toUpper = c) (by decide)
        (by omega)
    constructor
    · rintro ⟨rfl, -⟩
      exact hback
    · rintro (rfl | rfl)
      · exact ⟨(hforth hletter).1, rfl⟩
      · exact ⟨(hforth hletter).2, rfl⟩
  · have hsmall : letter.toLower.toNat < 128 :=
      of_ascii (P := fun c => c.toLower.toNat < 128) (by decide) (by omega)
    have hother : ¬(c = letter ∨ c = letter.toLower) := by
      rintro (rfl | rfl)
      · omega
      · exact hc hsmall
    refine iff_of_false (fun heq => ?_) hother
    obtain ⟨entry, hentry, hlong⟩ | ⟨run, hrun, hlo, hhi, hshort⟩ | hnone :=
      upperChar_cases (Nat.le_of_not_lt hc)
    · have hlength := congrArg List.length (hlong.symm.trans heq)
      have htwo := two_le_length_of_mem_longCapitals entry hentry
      rw [List.length_map, List.length_singleton] at hlength
      omega
    · obtain rfl : Char.ofNat (c.toNat + run.2.2.2).toNat = letter :=
        (List.cons.inj (hshort.symm.trans heq)).1
      have hcode := toNat_ofNat_cases (c.toNat + run.2.2.2).toNat
      obtain hfar | ⟨hsingle, hcapital | hcapital⟩ := capital_of_mem_capitalRuns run hrun
      · omega
      · have hplace : (c.toNat + run.2.2.2).toNat = 73 := by omega
        exact hI (congrArg Char.ofNat hplace)
      · have hplace : (c.toNat + run.2.2.2).toNat = 83 := by omega
        exact hS (congrArg Char.ofNat hplace)
    · obtain rfl : c = letter := (List.cons.inj (hnone.symm.trans heq)).1
      omega

/-- **The texts with a capital** are the letter in either case. -/
theorem upper_eq_singleton_iff {s : List Char} :
    upper s = [letter] ↔ s = [letter] ∨ s = [letter.toLower] := by
  cases s with
  | nil => simp
  | cons c s =>
    have hrest : upper s = [] ↔ s = [] := by
      cases s with
      | nil => simp
      | cons d s => simp [upperChar_ne_nil d]
    rw [upper_cons, List.append_eq_singleton_iff, upperChar_eq_singleton_iff hletter hI hS, hrest]
    simp [upperChar_ne_nil c]
    tauto

end

end LabelPress.Text
