import LabelPress.Markup.GraphicField
import LabelPress.Proofs.Text.Capital
import Mathlib

/-! # Compressed data by tokens

Compressed data are written as tokens: a run letter and the digit that it repeats, two digits for a
byte, or a character that stands for nothing. Read character by character, the text of any tokens
comes to the bytes that they stand for, and wherever the room ends the bytes end, also inside a run.

* `runLetters`, `hexDigits`: the letters and digits, each with its number.
* `Token`: a piece of compressed data, with its text and its bytes.
* `decodeCompressed_text_append`: one token is read off the front.
* `decodeCompressed_eq_take`: less room gives a first part of what more room gives.
* `decodeInto_text`: both together, for whole texts. -/

namespace LabelPress.Markup

/-! ### Letters and digits -/

/-- The run letters in order: the capitals repeat 1 to 19 times, the others 20 to 400 times. -/
def runLetters : List (Char × Nat) :=
  "GHIJKLMNOPQRSTUVWXY".toList.zipIdx 1 ++
    ("ghijklmnopqrstuvwxyz".toList.zipIdx 1).map fun (c, n) => (c, 20 * n)

/-- The hexadecimal digits, those beyond nine in either case. -/
def hexDigits : List (Char × Nat) :=
  "0123456789ABCDEF".toList.zipIdx ++ "abcdef".toList.zipIdx 10

theorem toNat_le_of_le {c d : Char} (h : c ≤ d) : c.toNat ≤ d.toNat :=
  UInt32.le_iff_toNat_le.1 (Char.le_def.1 h)

theorem runLength?_eq_some_iff {c : Char} {n : Nat} :
    runLength? c = some n ↔ (c, n) ∈ runLetters := by
  constructor
  · intro h
    have hc : c.toNat < 128 := by
      unfold runLength? at h
      split_ifs at h with hcapital hsmall
      · exact (toNat_le_of_le hcapital.2).trans_lt (by decide)
      · exact (toNat_le_of_le hsmall.2).trans_lt (by decide)
    exact Text.of_ascii (P := fun c => ∀ n ∈ runLength? c, (c, n) ∈ runLetters) (by decide) hc n h
  · have hall : ∀ p ∈ runLetters, runLength? p.1 = some p.2 := by decide
    exact hall (c, n)

theorem hexDigit?_eq_some_iff {c : Char} {n : Nat} :
    hexDigit? c = some n ↔ (c, n) ∈ hexDigits := by
  constructor
  · intro h
    have hc : c.toNat < 128 := by
      unfold hexDigit? at h
      split_ifs at h with hdigit hsmall hcapital
      · simp only [Char.isDigit, Bool.and_eq_true, decide_eq_true_eq] at hdigit
        exact (UInt32.le_iff_toNat_le.1 hdigit.2).trans_lt (by decide)
      · exact (toNat_le_of_le hsmall.2).trans_lt (by decide)
      · exact (toNat_le_of_le hcapital.2).trans_lt (by decide)
    exact Text.of_ascii (P := fun c => ∀ n ∈ hexDigit? c, (c, n) ∈ hexDigits) (by decide) hc n h
  · have hall : ∀ p ∈ hexDigits, hexDigit? p.1 = some p.2 := by decide
    exact hall (c, n)

/-- A run letter is no digit. -/
theorem runLength?_of_hexDigit? {c : Char} {n : Nat} (h : hexDigit? c = some n) :
    runLength? c = none := by
  have hall : ∀ p ∈ hexDigits, runLength? p.1 = none := by decide
  exact hall (c, n) (hexDigit?_eq_some_iff.1 h)

/-! ### Tokens -/

/-- **A piece of compressed data.** -/
inductive Token where
  /-- A letter and the digit that it repeats, in both halves of so many bytes. -/
  | run (letter digit : Char) (count value : Nat) (hletter : (letter, count) ∈ runLetters)
    (hdigit : (digit, value) ∈ hexDigits)
  /-- The two halves of one byte. -/
  | pair (high low : Char) (a b : Nat) (hhigh : (high, a) ∈ hexDigits) (hlow : (low, b) ∈ hexDigits)
  /-- A character that is neither a digit nor a run letter. -/
  | other (c : Char) (hletter : ∀ p ∈ runLetters, p.1 ≠ c) (hdigit : ∀ p ∈ hexDigits, p.1 ≠ c)

namespace Token

def text : Token → List Char
  | run letter digit .. => [letter, digit]
  | pair high low .. => [high, low]
  | other c .. => [c]

/-- The bytes that a token stands for. -/
def bytes : Token → List UInt8
  | run _ _ count value .. => List.replicate count (UInt8.ofNat (16 * value + value))
  | pair _ _ a b .. => [UInt8.ofNat (16 * a + b)]
  | other .. => []

end Token

theorem runLength?_eq_none {c : Char} (h : ∀ p ∈ runLetters, p.1 ≠ c) : runLength? c = none :=
  Option.eq_none_iff_forall_ne_some.2 fun _ hn => h _ (runLength?_eq_some_iff.1 hn) rfl

theorem hexDigit?_eq_none {c : Char} (h : ∀ p ∈ hexDigits, p.1 ≠ c) : hexDigit? c = none :=
  Option.eq_none_iff_forall_ne_some.2 fun _ hn => h _ (hexDigit?_eq_some_iff.1 hn) rfl

/-- **One token is read off the front**, as far as there is room for its bytes. -/
theorem decodeCompressed_text_append (t : Token) (s : List Char) (room : Nat) :
    decodeCompressed (t.text ++ s) room =
      t.bytes.take room ++ decodeCompressed s (room - t.bytes.length) := by
  cases room with
  | zero => simp
  | succ room =>
    cases t with
    | run letter digit count value hletter hdigit =>
      have hcount := runLength?_eq_some_iff.2 hletter
      have hvalue := hexDigit?_eq_some_iff.2 hdigit
      have hbyte : runByte (some digit) = UInt8.ofNat (16 * value + value) := by
        rw [runByte, Option.bind_some, hvalue, Option.getD_some]
        congr 1
        omega
      simp only [Token.text, Token.bytes, List.cons_append, List.nil_append, decodeCompressed,
        hcount, hbyte, List.take_replicate, List.length_replicate, Nat.min_comm]
    | pair high low a b hhigh hlow =>
      have hfirst := hexDigit?_eq_some_iff.2 hhigh
      have hbyte : hexByte high (some low) = UInt8.ofNat (16 * a + b) := by
        simp only [hexByte, hfirst, Option.bind_some, hexDigit?_eq_some_iff.2 hlow]
      simp only [Token.text, Token.bytes, List.cons_append, List.nil_append, decodeCompressed,
        runLength?_of_hexDigit? hfirst, hfirst, hbyte, List.take_succ_cons, List.take_nil,
        List.length_singleton]
    | other c hletter hdigit =>
      have hrun := runLength?_eq_none hletter
      have hhex := hexDigit?_eq_none hdigit
      cases s with
      | nil => simp [Token.text, Token.bytes, decodeCompressed, hrun, hhex]
      | cons d s => simp [Token.text, Token.bytes, decodeCompressed, hrun, hhex]

theorem decodeCompressed_flatMap_text (tokens : List Token) (room : Nat) :
    decodeCompressed (tokens.flatMap Token.text) room =
      (tokens.flatMap Token.bytes).take room := by
  induction tokens generalizing room with
  | nil => cases room <;> rfl
  | cons t tokens ih =>
    rw [List.flatMap_cons, decodeCompressed_text_append, ih, List.flatMap_cons, List.take_append]

/-! ### Less room -/

/-- **What less room holds** is a first part of what more room holds. -/
theorem decodeCompressed_eq_take (s : List Char) {n m : Nat} (h : n ≤ m) :
    decodeCompressed s n = (decodeCompressed s m).take n := by
  fun_induction decodeCompressed s m generalizing n with
  | case1 s => rw [Nat.le_zero.1 h, decodeCompressed_zero, List.take_zero]
  | case2 => cases n <;> rfl
  | case3 c room _ count hcount =>
    cases n with
    | zero => rw [decodeCompressed_zero, List.take_zero]
    | succ n =>
      simp only [decodeCompressed, hcount, List.take_replicate]
      congr 1
      omega
  | case4 c room _ value hvalue hcount => cases n <;> simp [decodeCompressed, hvalue, hcount]
  | case5 c room _ hvalue hcount => cases n <;> simp [decodeCompressed, hvalue, hcount]
  | case6 c d s room _ count hcount ih =>
    cases n with
    | zero => rw [decodeCompressed_zero, List.take_zero]
    | succ n =>
      -- The run may fill the lesser room; what is left of it goes to the rest.
      have hrest : n + 1 - count ≤ room - count := by omega
      have hroom : n + 1 - min count room = n + 1 - count := by omega
      simp only [decodeCompressed, hcount, List.take_append, List.take_replicate,
        List.length_replicate, hroom, ih hrest]
      congr 2
      omega
  | case7 c d s room _ value hvalue hcount ih =>
    cases n with
    | zero => rw [decodeCompressed_zero, List.take_zero]
    | succ n =>
      have hrest : n ≤ room - 1 := by omega
      simp only [decodeCompressed, hvalue, hcount, List.take_succ_cons, Nat.add_sub_cancel,
        ih hrest]
  | case8 c d s room _ hvalue hcount ih =>
    cases n with
    | zero => rw [decodeCompressed_zero, List.take_zero]
    | succ n =>
      rw [← ih h]
      simp only [decodeCompressed, hvalue, hcount]

theorem decodeInto_of_roomFor (s : List Char) {total : Int} {room : Nat}
    (h : roomFor total = .ok room) : decodeInto s total = .ok (decodeCompressed s room) := by
  rw [decodeInto, h]
  rfl

/-- **Compressed data are the bytes of their tokens**, the first of them where there is room for no
more; and whatever the text, less room gives a first part of what more room gives. -/
theorem decodeInto_text :
    (∀ (tokens : List Token) (total : Int) (room : Nat), roomFor total = .ok room →
      decodeInto (tokens.flatMap Token.text) total =
        .ok ((tokens.flatMap Token.bytes).take room)) ∧
    ∀ (s : List Char) (n m : Int) (room : Nat), 0 ≤ n → n ≤ m → roomFor m = .ok room →
      ∃ bytes, decodeInto s m = .ok bytes ∧ decodeInto s n = .ok (bytes.take n.toNat) := by
  constructor
  · intro tokens total room hroom
    rw [decodeInto_of_roomFor _ hroom, decodeCompressed_flatMap_text]
  · intro s n m room hn hnm hroom
    obtain ⟨rfl, hbound⟩ := roomFor_eq_ok_iff.1 hroom
    have hless : roomFor n = .ok n.toNat := roomFor_eq_ok_iff.2 ⟨by omega, by omega⟩
    refine ⟨_, decodeInto_of_roomFor s hroom, ?_⟩
    rw [decodeInto_of_roomFor s hless, decodeCompressed_eq_take s (show n.toNat ≤ room by omega)]

/-- A run of three bytes, a comma, one byte, and a run of twenty that ends with the room. -/
theorem decodeInto_text_cut :
    roomFor 6 = .ok 6 ∧
    decodeInto "Ia,0fg7".toList 6 = .ok [0xaa, 0xaa, 0xaa, 0x0f, 0x77, 0x77] ∧
    ∃ bytes, decodeInto "g7H".toList 6 = .ok bytes ∧
      decodeInto "g7H".toList 4 = .ok (bytes.take 4) := by
  have hroom : roomFor 6 = .ok 6 := rfl
  have htokens := decodeInto_text.1
    [.run 'I' 'a' 3 10 (by decide) (by decide), .other ',' (by decide) (by decide),
      .pair '0' 'f' 0 15 (by decide) (by decide), .run 'g' '7' 20 7 (by decide) (by decide)]
    6 6 hroom
  refine ⟨hroom, htokens, ?_⟩
  exact decodeInto_text.2 "g7H".toList 4 6 6 (by decide) (by decide) hroom

end LabelPress.Markup
