import LabelPress.Proofs.Canvas.Bitmaps
import LabelPress.Proofs.Interpreter.Parts
import LabelPress.Proofs.Markup.FieldText
import LabelPress.Proofs.Markup.RowCount

/-! # Graphic fields on a label

A field places the bitmap that its parameters describe, or it is remarked upon. What they describe
depends on how the data are written, and on two points this shows on the label.

The declared size decides on the number of rows. In compressed hexadecimal it also ends the data, in
the other encodings it does not. So where it does not fill the last row, a field in plain
hexadecimal goes on to the end of that row, with bytes beyond its declared size, and the same field
in compressed hexadecimal leaves the rest of the row white.

Binary data stand in the label file as they are. There a designator among them begins the next
command, and blanks at their end are lost; but for these, a binary field is as good as its digits.

* `placed`: the session after a bitmap; `step_graphicField`: a field places the bitmap that it
  describes; `placed_cases`: how that ends depends on the size alone.
* `step_plain_packed`: one text of digits, read in both ways.
* `pixel?_step_plain_packed`: the dots in which the two ways differ.
* `interpret_binary_eq`: a binary field beside the digits of the bytes that are kept.
* `interpret_binary_plain`: binary data that are all kept. -/

namespace LabelPress.Interpreter

open Markup

/-! ### One graphic field -/

/-- The record of a graphic field. -/
def fieldRecord (params : List Char) : Record := ⟨"GF".toList, params⟩

/-- **A session after a bitmap at its cursor**, which may have no rows or no room. -/
def Session.placed (s : Session) (bytes : List UInt8) (row rows : ℕ) :
    Session × Option Diagnostic :=
  if rows = 0 then (s, none)
  else
    match Canvas.bitmapRoom row rows s.state.x s.state.y with
    | .error e => (s, some ⟨"GF".toList, some (.draw e)⟩)
    | .ok () => (⟨s.state, s.canvas.pasted bytes row rows s.state.x s.state.y⟩, none)

/-- Whether a bitmap is placed does not depend on its bytes. -/
theorem placed_cases (s : Session) (row rows : ℕ) :
    (rows = 0 ∧ ∀ bytes, s.placed bytes row rows = (s, none)) ∨
    (∃ e, ∀ bytes, s.placed bytes row rows = (s, some e)) ∨
    ((1 ≤ rows ∧ (row : ℤ) * rows < memoryBound) ∧ ∀ bytes, s.placed bytes row rows =
      (⟨s.state, s.canvas.pasted bytes row rows s.state.x s.state.y⟩, none)) := by
  unfold Session.placed
  by_cases hnone : rows = 0
  · exact .inl ⟨hnone, fun _ => if_pos hnone⟩
  cases hroom : Canvas.bitmapRoom row rows s.state.x s.state.y with
  | error e => exact .inr (.inl ⟨_, fun _ => if_neg hnone⟩)
  | ok u =>
    exact .inr (.inr ⟨⟨Nat.pos_of_ne_zero hnone, Canvas.lt_memoryBound_of_bitmapRoom hroom⟩,
      fun _ => if_neg hnone⟩)

section
variable (fonts : FontSource) (s : Session) {params : List Char}

theorem step_graphicField_eq (params : List Char) :
    s.step fonts (fieldRecord params) =
      let field := (GraphicField.ofParams params).mapError .graphicField
      let drawn := (sketch field fun field => Canvas.blit field.data field.rowBytes field.rows
        s.state.x s.state.y).run.run s.canvas
      (⟨s.state, drawn.2⟩, remark "GF".toList (drawn.1.bind fun _ => .ok ())) := by
  rw [fieldRecord, step_eq (resolve_code .graphicField), List.nil_append]
  rfl

/-- Two fields that describe one bitmap do the same. -/
theorem step_graphicField_congr {params' : List Char}
    (h : GraphicField.ofParams params = GraphicField.ofParams params') :
    s.step fonts (fieldRecord params) = s.step fonts (fieldRecord params') := by
  rw [step_graphicField_eq, step_graphicField_eq, h]

theorem step_graphicField_of_error {e : GraphicFieldError}
    (h : GraphicField.ofParams params = .error e) :
    s.step fonts (fieldRecord params) = (s, some ⟨"GF".toList, some (.graphicField e)⟩) := by
  rw [step_graphicField_eq, h]
  rfl

/-- **A field places the bitmap that it describes.** -/
theorem step_graphicField {bytes : List UInt8} {row rows : ℕ} (hrow : 1 ≤ row)
    (h : GraphicField.ofParams params = .ok ⟨bytes, row, rows⟩) :
    s.step fonts (fieldRecord params) = s.placed bytes row rows := by
  have hdrawn : (sketch (.ok ⟨bytes, row, rows⟩) fun field : GraphicField =>
      Canvas.blit field.data field.rowBytes field.rows s.state.x s.state.y).run.run s.canvas =
      ((((Canvas.blit bytes row rows s.state.x s.state.y).run.run s.canvas).1).mapError .draw,
        ((Canvas.blit bytes row rows s.state.x s.state.y).run.run s.canvas).2) := rfl
  rw [step_graphicField_eq, h, Except.mapError]
  dsimp only
  rw [hdrawn, Session.placed]
  by_cases hrows : rows = 0
  · subst hrows
    have hnothing := Canvas.run_blit_of_no_rows bytes row s.state.x s.state.y s.canvas
    rw [if_pos rfl, Nat.cast_zero, hnothing]
    rfl
  · rw [if_neg hrows, Canvas.run_blit hrow (Nat.pos_of_ne_zero hrows)]
    cases Canvas.bitmapRoom row rows s.state.x s.state.y <;> rfl

end

/-! ### One text of digits in both ways -/

section
variable {data : List Char} {bytes : List UInt8} {total row : ℕ}

theorem fieldBytes_packed (h : HexText data bytes) (htotal : (total : ℤ) < memoryBound) :
    fieldBytes 'H' data total = .ok (bytes.take total) := by
  have hroom : roomFor total = .ok total := roomFor_eq_ok_iff.2 ⟨rfl, htotal⟩
  have hbytes : fieldBytes 'H' data total = (decodeInto data total).mapError .noRoom := rfl
  rw [hbytes, decodeInto_of_roomFor data hroom, h.decodeCompressed_eq]
  rfl

theorem fieldBytes_packed_of_beyond (data : List Char) (htotal : memoryBound ≤ (total : ℤ)) :
    ∃ e, fieldBytes 'H' data total = .error e := by
  have hbytes : fieldBytes 'H' data total = (decodeInto data total).mapError .noRoom := rfl
  rw [hbytes, decodeInto]
  cases hroom : roomFor total with
  | error e => exact ⟨_, rfl⟩
  | ok room => exact absurd (roomFor_eq_ok_iff.1 hroom).2 (not_lt.2 htotal)

/-- **One text of digits read in both ways**: either neither is a field, or both have the same rows,
in plain hexadecimal with all the bytes and in compressed hexadecimal with as many as are declared,
if there is room for so many. -/
theorem ofParams_plain_packed (h : HexText data bytes) (total : ℕ) (hrow : 1 ≤ row) :
    (∃ e e', GraphicField.ofParams (fieldParams 'A' total row data) = .error e ∧
      GraphicField.ofParams (fieldParams 'H' total row data) = .error e') ∨
    ∃ rows, rowCount? total row = some rows ∧
      GraphicField.ofParams (fieldParams 'A' total row data) = .ok ⟨bytes, row, rows⟩ ∧
      (((total : ℤ) < memoryBound ∧ GraphicField.ofParams (fieldParams 'H' total row data) =
          .ok ⟨bytes.take total, row, rows⟩) ∨
        (memoryBound ≤ (total : ℤ) ∧
          ∃ e, GraphicField.ofParams (fieldParams 'H' total row data) = .error e)) := by
  rw [ofParams_fieldParams (by decide), ofParams_fieldParams (by decide), h.fieldBytes_plain]
  split_ifs with hdata htotal hdigits hempty
  · exact .inl ⟨_, _, rfl, rfl⟩
  · exact .inl ⟨_, _, rfl, rfl⟩
  · exact .inl ⟨_, _, rfl, rfl⟩
  · omega
  rcases lt_or_ge (total : ℤ) memoryBound with hroom | hbeyond
  · rw [fieldBytes_packed h hroom]
    cases hrows : rowCount? total row with
    | none => exact .inl ⟨_, _, rfl, rfl⟩
    | some rows => exact .inr ⟨rows, rfl, rfl, .inl ⟨hroom, rfl⟩⟩
  · obtain ⟨e, he⟩ := fieldBytes_packed_of_beyond data hbeyond
    rw [he]
    cases hrows : rowCount? total row with
    | none => exact .inl ⟨_, _, rfl, rfl⟩
    | some rows => exact .inr ⟨rows, rfl, rfl, .inr ⟨hbeyond, e, rfl⟩⟩

variable (fonts : FontSource) (s : Session)

/-- **What the two ways leave behind**: the session as it was, or the bitmap with all the bytes and
with those that are declared. -/
theorem step_plain_packed (h : HexText data bytes) (total : ℕ) (hrow : 1 ≤ row) :
    let plain := s.step fonts (fieldRecord (fieldParams 'A' total row data))
    let packed := s.step fonts (fieldRecord (fieldParams 'H' total row data))
    (plain.1 = s ∧ packed.1 = s ∧ (plain.2 = none → rowCount? total row = some 0)) ∨
    ∃ rows, rowCount? total row = some rows ∧ rows = (total + row - 1) / row ∧
      plain = (⟨s.state, s.canvas.pasted bytes row rows s.state.x s.state.y⟩, none) ∧
      packed =
        (⟨s.state, s.canvas.pasted (bytes.take total) row rows s.state.x s.state.y⟩, none) := by
  intro plain packed
  rcases ofParams_plain_packed h total hrow with
    ⟨e, e', hplain, hpacked⟩ | ⟨rows, hrows, hplain, hpacked⟩
  · have hplain' : plain = _ := step_graphicField_of_error fonts s hplain
    have hpacked' : packed = _ := step_graphicField_of_error fonts s hpacked
    rw [hplain', hpacked']
    exact .inl ⟨rfl, rfl, fun hnone => by cases hnone⟩
  have hplain' : plain = s.placed bytes row rows := step_graphicField fonts s hrow hplain
  have hpacked' : (total : ℤ) < memoryBound ∧ packed = s.placed (bytes.take total) row rows ∨
      memoryBound ≤ (total : ℤ) ∧ packed.1 = s := by
    rcases hpacked with ⟨htotal, hread⟩ | ⟨htotal, e, hfail⟩
    · exact .inl ⟨htotal, step_graphicField fonts s hrow hread⟩
    · exact .inr ⟨htotal, congrArg Prod.fst (step_graphicField_of_error fonts s hfail)⟩
  rcases placed_cases s row rows with ⟨rfl, hall⟩ | ⟨e, hall⟩ | ⟨⟨hsome, hbound⟩, hall⟩
  · rw [hall] at hplain' hpacked'
    rw [hplain']
    exact .inl ⟨rfl, hpacked'.elim (congrArg Prod.fst ·.2) And.right, fun _ => hrows⟩
  · rw [hall] at hplain' hpacked'
    rw [hplain']
    exact .inl ⟨rfl, hpacked'.elim (congrArg Prod.fst ·.2) And.right, fun hnone => by cases hnone⟩
  · -- The declared size fits, for otherwise its rows would not.
    obtain ⟨htotal, hceil⟩ := rows_of_lt_memoryBound hrows hrow hsome hbound
    rw [hall] at hplain' hpacked'
    rcases hpacked' with ⟨-, hpacked'⟩ | ⟨hbeyond, -⟩
    · exact .inr ⟨rows, hrows, hceil, hplain', hpacked'⟩
    · exact absurd htotal (not_lt.2 hbeyond)

/-- **The declared size in two encodings.** A text of digits draws all its bytes, as far as the rows
reach, if it is read as plain hexadecimal, and only those within the declared size if it is read as
compressed hexadecimal; missing bytes are white. So the two pictures differ in the black dots of the
bytes beyond the declared size, and in no others. There are no such dots if the data end with the
declared size or before it, or if the declared size fills the last row. -/
theorem pixel?_step_plain_packed (h : HexText data bytes) (total : ℕ) (hrow : 1 ≤ row) :
    let plain := s.step fonts ⟨"GF".toList, fieldParams 'A' total row data⟩
    let packed := s.step fonts ⟨"GF".toList, fieldParams 'H' total row data⟩
    let x := s.state.x
    let y := s.state.y
    (∀ rows u v : ℕ, plain.2 = none → rowCount? total row = some rows → u < 8 * row → v < rows →
      plain.1.canvas.pixel? (x + u) (y + v) = ((s.canvas.pixel? (x + u) (y + v)).map fun _ =>
        if isBlackDot bytes row u v then Canvas.black else Canvas.white) ∧
      packed.1.canvas.pixel? (x + u) (y + v) = (s.canvas.pixel? (x + u) (y + v)).map fun _ =>
        if v * row + u / 8 < total ∧ isBlackDot bytes row u v then Canvas.black else Canvas.white) ∧
    (∀ i j, plain.1.canvas.pixel? i j ≠ packed.1.canvas.pixel? i j ↔
      plain.2 = none ∧ s.canvas.pixel? i j ≠ none ∧ ∃ rows u v : ℕ,
        rowCount? total row = some rows ∧ (u < 8 * row ∧ v < rows) ∧ (i = x + u ∧ j = y + v) ∧
        total ≤ v * row + u / 8 ∧ isBlackDot bytes row u v = true) ∧
    (bytes.length ≤ total ∨ row ∣ total → plain.1.canvas = packed.1.canvas) := by
  intro plain packed x y
  rcases step_plain_packed fonts s h total hrow with
    ⟨hplain, hpacked, hempty⟩ | ⟨rows, hrows, hceil, hplain, hpacked⟩
  · -- Nothing was drawn, and if there was no remark, then there were no rows.
    have hplain' : plain.1 = s := hplain
    have hpacked' : packed.1 = s := hpacked
    have hnone {rows v : ℕ} (hremark : plain.2 = none) (hrows : rowCount? total row = some rows)
        (hv : v < rows) : False := by
      rw [hempty hremark, Option.some.injEq] at hrows
      omega
    rw [hplain', hpacked']
    refine ⟨fun rows u v hremark hrows _ hv => (hnone hremark hrows hv).elim, fun i j => ?_,
      fun _ => rfl⟩
    refine iff_of_false (not_not_intro rfl) ?_
    rintro ⟨hremark, -, rows, u, v, hrows, ⟨-, hv⟩, -⟩
    exact hnone hremark hrows hv
  · have hplain' : plain.1.canvas = s.canvas.pasted bytes row rows x y :=
      congrArg (·.1.canvas) hplain
    have hpacked' : packed.1.canvas = s.canvas.pasted (bytes.take total) row rows x y :=
      congrArg (·.1.canvas) hpacked
    have hremark : plain.2 = none := congrArg Prod.snd hplain
    rw [hplain', hpacked']
    refine ⟨fun rows' u v _ hrows' hu hv => ?_, fun i j => ?_, fun hfull => ?_⟩
    · obtain rfl : rows = rows' := Option.some.inj (hrows.symm.trans hrows')
      exact ⟨Canvas.pixel?_pasted hu hv, Canvas.pixel?_pasted_take hu hv⟩
    · rw [Canvas.pixel?_pasted_ne_take_iff]
      constructor
      · rintro ⟨hon, u, v, hdot⟩
        exact ⟨hremark, hon, rows, u, v, hrows, hdot⟩
      · rintro ⟨-, hon, rows', u, v, hrows', hdot⟩
        obtain rfl : rows = rows' := Option.some.inj (hrows.symm.trans hrows')
        exact ⟨hon, u, v, hdot⟩
    · rcases hfull with hshort | hdvd
      · rw [List.take_of_length_le hshort]
      · rw [← mul_rows_of_dvd hrow hdvd, ← hceil, Canvas.pasted_take]

theorem hexText_zeros : HexText "0000".toList [0, 0] :=
  .cons (a := 0) (b := 0) (by decide) (by decide)
    (.cons (a := 0) (b := 0) (by decide) (by decide) .nil)

/-- Two bytes in one row of two, of which one is declared, and of which both are. -/
theorem pixel?_step_plain_packed_bytes :
    let s : Session := ⟨{}, Canvas.blank 16 1⟩
    let shown := fun (encoding : Char) (total : ℕ) =>
      (s.step Font.blockSource ⟨"GF".toList, fieldParams encoding total 2 "0000".toList⟩).1.canvas
    HexText "0000".toList [0, 0] ∧ 1 ≤ 2 ∧
      (shown 'A' 1).pixel? 8 0 ≠ (shown 'H' 1).pixel? 8 0 ∧ shown 'A' 2 = shown 'H' 2 := by
  intro s shown
  have hrows : rowCount? 1 2 = some 1 := rowCount?_eq (by norm_num) (by decide) (by norm_num)
  have hone := pixel?_step_plain_packed Font.blockSource s hexText_zeros 1 (show 1 ≤ 2 by decide)
  have htwo := pixel?_step_plain_packed Font.blockSource s hexText_zeros 2 (show 1 ≤ 2 by decide)
  exact ⟨hexText_zeros, by decide, (hone.2.1 8 0).2 ⟨by decide +kernel, by decide, 1, 8, 0, hrows,
    by decide, by decide, by decide, by decide⟩, htwo.2.2 (.inl (by decide))⟩

/-- **The declared size does not bound plain hexadecimal**: of two bytes in one row the second is
drawn, although one is declared. -/
theorem not_pixel?_step_plain_packed :
    ¬∀ (fonts : FontSource) (s : Session) (data : List Char) (bytes : List UInt8) (total row : ℕ),
      HexText data bytes → 1 ≤ row → ∀ i j,
        (s.step fonts ⟨"GF".toList, fieldParams 'A' total row data⟩).1.canvas.pixel? i j =
          (s.step fonts ⟨"GF".toList, fieldParams 'H' total row data⟩).1.canvas.pixel? i j := by
  intro hall
  have hsame := hall Font.blockSource ⟨{}, Canvas.blank 16 1⟩ _ _ 1 2 hexText_zeros (by decide)
    8 0
  revert hsame
  decide +kernel

end

/-! ### Binary data -/

section
variable (fonts : FontSource) {bytes : List UInt8} {hex : List Char} {row : ℕ}
  {width height : ℤ}

/-- **A binary field** does what the digits of the bytes that are kept do, and then the commands
follow that begin in its data. -/
theorem interpret_binary_eq (h : HexText hex (keptBytes bytes)) (total row : ℕ)
    (width height : ℤ) :
    interpret fonts (parse (fieldCommand 'B' total row (bytes.map byteChar))) width height =
      interpret fonts (parse (fieldCommand 'A' total row hex) ++
        parse ((restBytes bytes).map byteChar)) width height := by
  rw [parse_binary, parse_plain h, List.singleton_append]
  unfold interpret
  congr 1
  funext canvas
  have hstep := step_graphicField_congr fonts ⟨{}, canvas⟩ (ofParams_binary h total row)
  rw [fieldRecord, fieldRecord] at hstep
  simp only [interpretFrom, hstep]

/-- What the digits of all bytes describe, if there is room for it. -/
theorem ofParams_plain (h : HexText hex bytes) (hsome : bytes ≠ []) (hrow : 1 ≤ row)
    (hbound : (row : ℤ) * ((bytes.length + row - 1) / row : ℕ) < memoryBound) :
    GraphicField.ofParams (fieldParams 'A' bytes.length row hex) =
      .ok ⟨bytes, row, (bytes.length + row - 1) / row⟩ := by
  have hlength : 1 ≤ bytes.length := List.length_pos_iff.2 hsome
  have henough := le_mul_rows bytes.length hrow
  set rows := (bytes.length + row - 1) / row with hrows
  have hvalue : memoryBound = 2 ^ 40 := by decide
  have hproduct : row * rows < 2 ^ 40 := by
    rw [hvalue] at hbound
    exact_mod_cast hbound
  have hrows' : 1 ≤ rows := by
    by_contra hnone
    rw [Nat.eq_zero_of_not_pos hnone, Nat.mul_zero] at henough
    omega
  have hwide : row ≤ row * rows := Nat.le_mul_of_pos_right _ hrows'
  rw [ofParams_fieldParams (by decide), if_neg (mt h.eq_nil_iff.1 hsome),
    if_neg (not_lt.2 (length_decimal_le (by omega))),
    if_neg (not_lt.2 (length_decimal_le (by omega))), if_neg (by omega), h.fieldBytes_plain,
    rowCount?_eq (by omega) hrow (by omega)]

/-- **A field of digits on a new canvas**: its bytes from the corner on, and no remark. -/
theorem interpret_plain (h : HexText hex bytes) (hsome : bytes ≠ []) (hrow : 1 ≤ row)
    {canvas : Canvas} (hcanvas : Canvas.new? width height = .ok canvas)
    (hbytes : checkBitmapSize row ((bytes.length + row - 1) / row : ℕ) = .ok ())
    (hdots : Canvas.checkSize (8 * row) ((bytes.length + row - 1) / row : ℕ) = .ok ()) :
    interpret fonts (parse (fieldCommand 'A' bytes.length row hex)) width height =
      .ok ⟨⟨{}, canvas.pasted bytes row ((bytes.length + row - 1) / row) 0 0⟩, []⟩ := by
  have hroom := Canvas.bitmapRoom_corner hbytes hdots
  have hparams := ofParams_plain h hsome hrow (Canvas.lt_memoryBound_of_bitmapRoom hroom)
  have hlength : 1 ≤ bytes.length := List.length_pos_iff.2 hsome
  have hrows : (bytes.length + row - 1) / row ≠ 0 := by
    refine Nat.ne_of_gt (Nat.div_pos ?_ hrow)
    omega
  have hstep := step_graphicField fonts ⟨{}, canvas⟩ hrow hparams
  rw [fieldRecord, Session.placed, if_neg hrows, hroom] at hstep
  rw [parse_plain h, interpret, hcanvas]
  change Except.ok (interpretFrom fonts ⟨{}, canvas⟩ _) = _
  rw [interpretFrom, hstep]
  rfl

/-- **Binary fields.** A binary field leaves what the digits of its bytes leave: the bytes before
the first designator, without the blanks at their end. The commands follow that begin with that
designator. So a binary field of bytes without a designator and without a blank at the end leaves
what the digits of all its bytes leave, which is their picture, without a remark, if there is room
for it. -/
theorem interpret_binary (bytes : List UInt8) (hrow : 1 ≤ row) (width height : ℤ) :
    let run := fun encoding data =>
      interpret fonts (parse (fieldCommand encoding bytes.length row data)) width height
    let binary := run 'B' (bytes.map byteChar)
    let rows := (bytes.length + row - 1) / row
    (∀ hex, HexText hex (keptBytes bytes) →
      binary = interpret fonts (parse (fieldCommand 'A' bytes.length row hex) ++
        parse ((restBytes bytes).map byteChar)) width height) ∧
    ∀ hex, HexText hex bytes → bytes ≠ [] → (∀ byte ∈ bytes, byte ≠ 0x5e ∧ byte ≠ 0x7e) →
      (∀ byte ∈ bytes.getLast?, byte ∉ blankBytes) →
      binary = run 'A' hex ∧
      ∀ canvas, Canvas.new? width height = .ok canvas → checkBitmapSize row rows = .ok () →
        Canvas.checkSize (8 * row) rows = .ok () →
        ∃ r, run 'A' hex = .ok r ∧ r.diagnostics = [] ∧
          r.session.canvas = canvas.pasted bytes row rows 0 0 := by
  intro run binary rows
  refine ⟨fun hex h => interpret_binary_eq fonts h _ _ _ _,
    fun hex h hsome hmarks hlast => ⟨?_, fun canvas hcanvas hbytes hdots => ?_⟩⟩
  · have hkept := keptBytes_eq_self hmarks hlast
    have hrun := interpret_binary_eq fonts (hkept.symm ▸ h) bytes.length row width height
    rw [restBytes_eq_nil hmarks, List.map_nil, parse, List.append_nil] at hrun
    exact hrun
  · exact ⟨_, interpret_plain fonts h hsome hrow hcanvas hbytes hdots, rfl, rfl⟩

/-- A space between two other bytes, in rows of two. -/
theorem interpret_binary_space :
    1 ≤ 2 ∧ ∃ r,
      interpret Font.blockSource (parse (fieldCommand 'B' 3 2 ([0x00, 0x20, 0x0f].map byteChar)))
        16 2 = .ok r ∧
      interpret Font.blockSource (parse (fieldCommand 'A' 3 2 "00200F".toList)) 16 2 = .ok r ∧
      r.diagnostics = [] ∧
      r.session.canvas = (Canvas.blank 16 2).pasted [0x00, 0x20, 0x0f] 2 2 0 0 := by
  have hhex : HexText "00200F".toList [0x00, 0x20, 0x0f] :=
    .cons (a := 0) (b := 0) (by decide) (by decide)
      (.cons (a := 2) (b := 0) (by decide) (by decide)
        (.cons (a := 0) (b := 15) (by decide) (by decide) .nil))
  obtain ⟨hsame, hdrawn⟩ := (interpret_binary Font.blockSource [0x00, 0x20, 0x0f]
    (show 1 ≤ 2 by decide) 16 2).2 _ hhex (by decide) (by simp) (by simp [blankBytes])
  obtain ⟨r, hr, hremarks, hcanvas⟩ := hdrawn (Canvas.blank 16 2) rfl rfl
    (Canvas.checkSize_of_le (by decide) (by decide))
  exact ⟨by decide, r, hsame.trans hr, hr, hremarks, hcanvas⟩

/-- **Binary fields do not survive every label file**: a space alone is lost, and without data there
is no field. -/
theorem not_interpret_binary :
    ¬∀ (fonts : FontSource) (bytes : List UInt8) (hex : List Char) (row : ℕ) (width height : ℤ)
      (canvas : Canvas), bytes ≠ [] → HexText hex bytes → 1 ≤ row →
      Canvas.new? width height = .ok canvas →
      checkBitmapSize row ((bytes.length + row - 1) / row : ℕ) = .ok () →
      Canvas.checkSize (8 * row) ((bytes.length + row - 1) / row : ℕ) = .ok () →
      ∃ r r',
        interpret fonts (parse (fieldCommand 'B' bytes.length row (bytes.map byteChar)))
          width height = .ok r ∧
        interpret fonts (parse (fieldCommand 'A' bytes.length row hex)) width height = .ok r' ∧
        r.diagnostics = [] ∧ r'.diagnostics = [] ∧ r.session.canvas = r'.session.canvas := by
  intro hall
  have hhex : HexText "20".toList [0x20] :=
    .cons (a := 2) (b := 0) (by decide) (by decide) .nil
  obtain ⟨r, -, hr, -, hnone, -⟩ := hall Font.blockSource [0x20] _ 1 8 1 (Canvas.blank 8 1)
    (by decide) hhex (by decide) rfl rfl (Canvas.checkSize_of_le (by decide) (by decide))
  have hparse : parse (fieldCommand 'B' 1 1 ([0x20].map byteChar)) =
      [⟨"GF".toList, "B,1,1,1,".toList⟩] := by
    rw [parse_eq_recordsOf]
    decide +kernel
  have hremarks : (interpret Font.blockSource [⟨"GF".toList, "B,1,1,1,".toList⟩] 8 1).map
      Rendering.diagnostics = .ok [⟨"GF".toList, some (.graphicField .malformed)⟩] := by
    decide +kernel
  rw [List.length_singleton, hparse] at hr
  rw [hr] at hremarks
  exact absurd (hnone.symm.trans (Except.ok.inj hremarks)) (List.cons_ne_nil _ _).symm

end

end LabelPress.Interpreter
