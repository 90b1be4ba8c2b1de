import LabelPress.Proofs.Wire.Codec

/-!
# Streams that are cut short

A captured stream may end anywhere. The reader looks at its beginning first, then takes the two
words of the header, and counts the bytes of the bitmap last. Too short a beginning and too short a
bitmap are refused. Between the two there is no look at the length, so a stream that ends inside the
words leaves the reader with the failure of taking them.

* `Refused`: the reader itself says what is wrong with a stream.
* `extractBitmap_cases`: all that becomes of a stream.
* `extractBitmap_take`: what becomes of the first bytes of a label.
* `read_or_refused_iff`: which streams are read or refused.
-/

namespace LabelPress.Wire

/-- What every label begins with, up to the words of the header. -/
def labelStart : Bytes := initCommand ++ rasterMode

theorem length_labelStart : labelStart.length = 9 := rfl

/-- **A stream is refused**: it begins otherwise, or it is shorter than its header declares. -/
def Refused (stream : Bytes) : Prop :=
  extractBitmap stream = .error .foreign ∨ extractBitmap stream = .error .shortBitmap

/-- A stream that ends inside the words of its header. -/
def EndsInHeader (stream : Bytes) : Prop := labelStart <+: stream ∧ stream.length < 13

/-! ### All that becomes of a stream -/

theorem extractBitmap_of_foreign {stream : Bytes} (h : ¬labelStart <+: stream) :
    extractBitmap stream = .error .foreign := by
  have hpre : (initCommand ++ rasterMode).isPrefixOf stream = false := by
    rw [← Bool.not_eq_true, List.isPrefixOf_iff_prefix]
    exact h
  simp only [extractBitmap, hpre, Bool.not_false, if_true]

theorem extractBitmap_labelStart_append (tail : Bytes) :
    extractBitmap (labelStart ++ tail) =
      match tail with
      | a :: b :: c :: d :: rest =>
        let rowBytes := a.toNat + 256 * b.toNat
        let height := c.toNat + 256 * d.toNat
        if rest.length < rowBytes * height then .error .shortBitmap
        else .ok ⟨rowBytes, height, invert (rest.take (rowBytes * height))⟩
      | _ => .error (.shortHeader (labelStart ++ tail).length) := by
  have hpre : (initCommand ++ rasterMode).isPrefixOf (labelStart ++ tail) = true :=
    List.isPrefixOf_iff_prefix.2 (List.prefix_append ..)
  have hdrop : (labelStart ++ tail).drop (initCommand ++ rasterMode).length = tail :=
    List.drop_left
  simp only [extractBitmap, hpre, hdrop, Bool.not_true, Bool.false_eq_true, if_false]
  rfl

theorem extractBitmap_of_endsInHeader {stream : Bytes} (h : EndsInHeader stream) :
    extractBitmap stream = .error (.shortHeader stream.length) := by
  obtain ⟨⟨tail, rfl⟩, hlen⟩ := h
  rw [List.length_append, length_labelStart] at hlen
  rw [extractBitmap_labelStart_append]
  match tail, hlen with
  | [], _ | [_], _ | [_, _], _ | [_, _, _], _ => rfl
  | _ :: _ :: _ :: _ :: rest, hlen =>
    simp only [List.length_cons] at hlen
    omega

/-- **All that becomes of a stream**: it is foreign, or ends inside its header or inside its bitmap,
or a bitmap of the declared size is read. -/
theorem extractBitmap_cases (stream : Bytes) :
    (¬labelStart <+: stream ∧ extractBitmap stream = .error .foreign) ∨
      (EndsInHeader stream ∧ extractBitmap stream = .error (.shortHeader stream.length)) ∨
      (labelStart <+: stream ∧ 13 ≤ stream.length ∧ extractBitmap stream = .error .shortBitmap) ∨
      ∃ e, e.WellFormed ∧ layout e <+: stream ∧ extractBitmap stream = .ok e := by
  by_cases hpre : labelStart <+: stream
  · by_cases hlen : stream.length < 13
    · exact .inr (.inl ⟨⟨hpre, hlen⟩, extractBitmap_of_endsInHeader ⟨hpre, hlen⟩⟩)
    · refine .inr (.inr ?_)
      cases hread : extractBitmap stream with
      | ok e =>
        obtain ⟨he, hlayout⟩ := layout_of_extractBitmap hread
        exact .inr ⟨e, he, hlayout, rfl⟩
      | error e =>
        -- Of such a stream the four bytes of the words are there.
        refine .inl ⟨hpre, not_lt.1 hlen, ?_⟩
        obtain ⟨tail, rfl⟩ := hpre
        rw [List.length_append, length_labelStart] at hlen
        rw [extractBitmap_labelStart_append] at hread
        match tail, hlen, hread with
        | [], hlen, _ | [_], hlen, _ | [_, _], hlen, _ | [_, _, _], hlen, _ =>
          simp at hlen
        | a :: b :: c :: d :: rest, _, hread =>
          dsimp only at hread
          split_ifs at hread
          exact hread.symm
  · exact .inl ⟨hpre, extractBitmap_of_foreign hpre⟩

/-! ### The first bytes of a label -/

theorem labelStart_prefix_layout (e : Extract) : labelStart <+: layout e := by
  simp only [layout, List.append_assoc]
  rw [← List.append_assoc]
  exact List.prefix_append ..

theorem labelStart_prefix_take_iff {stream : Bytes} (h : labelStart <+: stream) (n : Nat) :
    labelStart <+: stream.take n ↔ 9 ≤ n := by
  have hlong := h.length_le
  rw [length_labelStart] at hlong
  constructor
  · intro hpre
    have hlen := hpre.length_le
    rw [length_labelStart, List.length_take] at hlen
    omega
  · intro hn
    refine List.prefix_of_prefix_length_le h (List.take_prefix ..) ?_
    rw [length_labelStart, List.length_take]
    omega

/-- **What becomes of the first bytes** of a stream that begins with a layout: below 9 they are
foreign, from 9 on they end inside the header, from 13 on inside the bitmap. -/
theorem extractBitmap_take {stream : Bytes} {e : Extract} (he : e.WellFormed)
    (hstream : layout e <+: stream) (n : Nat) :
    extractBitmap (stream.take n) =
      if n < 9 then .error .foreign
      else if n < 13 then .error (.shortHeader n)
      else if n < 13 + e.bitmap.length then .error .shortBitmap
      else .ok e := by
  have hstart := (labelStart_prefix_layout e).trans hstream
  have hlong := hstream.length_le
  rw [length_layout] at hlong
  have hcut := labelStart_prefix_take_iff hstart n
  by_cases h9 : n < 9
  · rw [if_pos h9]
    exact extractBitmap_of_foreign fun hpre => absurd (hcut.1 hpre) (by omega)
  rw [if_neg h9]
  have hpre := hcut.2 (not_lt.1 h9)
  by_cases h13 : n < 13
  · have hlen : (stream.take n).length = n := by
      rw [List.length_take]
      omega
    rw [if_pos h13, extractBitmap_of_endsInHeader ⟨hpre, by omega⟩, hlen]
  rw [if_neg h13]
  by_cases hshort : n < 13 + e.bitmap.length
  · rw [if_pos hshort]
    have hlen : (stream.take n).length = n := by
      rw [List.length_take]
      omega
    obtain ⟨hforeign, -⟩ | ⟨hheader, -⟩ | ⟨-, -, hread⟩ | ⟨e', he', hlayout, -⟩ :=
      extractBitmap_cases (stream.take n)
    · exact absurd hpre hforeign
    · have hbelow := hheader.2
      omega
    · exact hread
    · -- A bitmap read from the first bytes would be that of the whole stream.
      have hwhole := extractBitmap_eq_ok_iff.2 ⟨he', hlayout.trans (List.take_prefix ..)⟩
      have hsame : extractBitmap stream = .ok e := extractBitmap_eq_ok_iff.2 ⟨he, hstream⟩
      obtain rfl : e' = e := Except.ok.inj (hwhole.symm.trans hsame)
      have hfits := hlayout.length_le
      rw [length_layout] at hfits
      omega
  · rw [if_neg hshort]
    refine extractBitmap_eq_ok_iff.2 ⟨he, List.prefix_of_prefix_length_le hstream
      (List.take_prefix ..) ?_⟩
    rw [length_layout, List.length_take]
    omega

/-! ### Streams that are read or refused -/

/-- **Which streams are read or refused.** A stream yields a bitmap of the size that its header
declares, or is refused, exactly if it does not end inside the words of its header; if it does, the
failure tells only how many bytes there are. So the first bytes of a label are refused if part of
the beginning or of the bitmap is missing, and yield the bitmap if nothing of it is missing; but not
if only the words of the header are cut. -/
theorem read_or_refused_iff (stream : Bytes) :
    ((∃ e, extractBitmap stream = .ok e ∧ e.bitmap.length = e.rowBytes * e.height) ∨
        Refused stream ↔ ¬EndsInHeader stream) ∧
      (EndsInHeader stream → extractBitmap stream = .error (.shortHeader stream.length)) ∧
      ∀ bitmap width height feedMm, encodeLabel bitmap width height feedMm = .ok stream →
        ∀ n, (n < 13 + bitmap.length → (Refused (stream.take n) ↔ n < 9 ∨ 13 ≤ n)) ∧
          (13 + bitmap.length ≤ n →
            extractBitmap (stream.take n) = .ok (extractOf bitmap width height)) := by
  refine ⟨?_, extractBitmap_of_endsInHeader, ?_⟩
  · constructor
    · rintro (⟨e, hread, -⟩ | hrefused | hrefused) hheader
      all_goals have hfailed := extractBitmap_of_endsInHeader hheader
      · simp [hfailed] at hread
      · simp [hfailed] at hrefused
      · simp [hfailed] at hrefused
    · intro hheader
      obtain ⟨-, hread⟩ | ⟨h, -⟩ | ⟨-, -, hread⟩ | ⟨e, he, -, hread⟩ := extractBitmap_cases stream
      · exact .inr (.inl hread)
      · exact absurd h hheader
      · exact .inr (.inr hread)
      · exact .inl ⟨e, hread, he.length_eq⟩
  · intro bitmap width height feedMm hencode n
    obtain ⟨hp, dots, -, rfl⟩ := encodeLabel_eq_ok_iff.1 hencode
    have htake := extractBitmap_take hp.wellFormed (List.prefix_append _ (feedCommand dots)) n
    have hbitmap : (extractOf bitmap width height).bitmap = bitmap := rfl
    rw [hbitmap] at htake
    constructor
    · intro hn
      unfold Refused
      rw [htake]
      by_cases h9 : n < 9
      · simp [h9]
      · by_cases h13 : n < 13
        · simp [h9, h13]
        · simp [h9, h13, hn, not_lt.1 h13]
    · intro hn
      rw [htake, if_neg (by omega), if_neg (by omega), if_neg (by omega)]

/-- The stream of a label of one dot row, cut after 8, 12 and 13 bytes. -/
theorem read_or_refused_iff_row : ∃ stream, encodeLabel [0xa5] 8 1 (.real 4) = .ok stream ∧
    (Refused (stream.take 8) ∧ ¬Refused (stream.take 12) ∧ Refused (stream.take 13)) ∧
    extractBitmap (stream.take 14) = .ok ⟨1, 1, [0xa5]⟩ := by
  have hprint : Printable [0xa5] 8 1 :=
    ⟨by decide, by decide, by decide, by decide, by rw [← rowBytesOf_eq_ceil]; decide⟩
  have hencode := encodeLabel_eq_ok_iff.2 ⟨hprint, 32, dotsOf_four, rfl⟩
  obtain ⟨-, -, hlabel⟩ := read_or_refused_iff (layout (extractOf [0xa5] 8 1) ++ feedCommand 32)
  have hcut := hlabel _ _ _ _ hencode
  have hextract : extractOf [0xa5] 8 1 = ⟨1, 1, [0xa5]⟩ := by
    rw [extractOf, ← rowBytesOf_eq_ceil]
    rfl
  refine ⟨_, hencode, ⟨((hcut 8).1 (by decide)).2 (by decide), fun h => ?_,
    ((hcut 13).1 (by decide)).2 (by decide)⟩, ?_⟩
  · exact absurd (((hcut 12).1 (by decide)).1 h) (by decide)
  · rw [(hcut 14).2 (by decide), hextract]

/-- **A label that is cut inside its header is not refused.** -/
theorem not_read_or_refused_header :
    (∃ stream, encodeLabel [0xa5] 8 1 (.real 4) = .ok stream ∧ stream.take 9 = labelStart) ∧
      ¬((∃ e, extractBitmap labelStart = .ok e ∧ e.bitmap.length = e.rowBytes * e.height) ∨
        Refused labelStart) := by
  have hprint : Printable [0xa5] 8 1 :=
    ⟨by decide, by decide, by decide, by decide, by rw [← rowBytesOf_eq_ceil]; decide⟩
  refine ⟨⟨_, encodeLabel_eq_ok_iff.2 ⟨hprint, 32, dotsOf_four, rfl⟩, rfl⟩, ?_⟩
  have hread : extractBitmap labelStart = .error (.shortHeader 9) := rfl
  rintro (⟨e, he, -⟩ | h | h)
  · simp [hread] at he
  · simp [hread] at h
  · simp [hread] at h

end LabelPress.Wire
