import LabelPress.Label.Preview
import LabelPress.Proofs.Mono.BlackAndWhite

/-! # Previews

The picture of a label is read from its packed bitmap, whose rows are filled up to whole bytes, and
cut off after the last column. So it shows the dots that the bitmap shows (`shows_picture`), and a
matrix of black and white comes back from its bitmap (`picture_purePixels`). -/

namespace LabelPress

/-- **A preview shows what is printed.** -/
theorem shows_picture {bitmap : List UInt8} {width height : Nat} {white : Nat → Nat → Bool}
    (h : Shows bitmap width height white) (remarks : List Interpreter.Diagnostic) :
    Shows (RenderedLabel.mk width height bitmap remarks).picture.bitmap width height white := by
  have hrow : (rowBytesOf width).toNat = (width + 7) / 8 := by
    rw [rowBytesOf_eq_ediv]
    omega
  have hpreview : (RenderedLabel.mk width height bitmap remarks).preview =
      packRows width height white := by
    unfold RenderedLabel.preview RenderedLabel.rowBytes
    refine packRows_congr fun x hx y hy => ?_
    have hx : x < width := hx
    obtain ⟨byte, hbyte, hbit⟩ := h.testBit_eq y hy x (by omega)
    simp only [RenderedLabel.isWhite.isWhiteIn, List.getElem?_toArray]
    rw [hrow, hbyte, Option.map_some, Option.getD_some, hbit, decide_eq_true hx, Bool.true_and]
  rw [RenderedLabel.picture, hpreview]
  exact shows_packRows width height white

/-- **Packing and previewing are inverse.** A matrix of black and white is packed into one bitmap,
diffused or not, which shows it; and the picture of a label with this bitmap is as large as the
matrix and shows it too. -/
theorem picture_purePixels {width height : Nat} (hwidth : 0 < width) (hheight : 0 < height)
    (white : Nat → Nat → Bool) :
    ∃ bitmap,
      (∀ diffuse, toMono (purePixels width height white) width height diffuse = .ok bitmap) ∧
      Shows bitmap width height white ∧
      ∀ remarks, ∃ picture, (RenderedLabel.mk width height bitmap remarks).picture = picture ∧
        picture.width = width ∧ picture.height = height ∧
        Shows picture.bitmap width height white := by
  have hshows := shows_packRows width height white
  refine ⟨_, fun diffuse => toMono_purePixels hwidth hheight white diffuse, hshows, ?_⟩
  intro remarks
  exact ⟨_, rfl, Int.toNat_natCast width, Int.toNat_natCast height, shows_picture hshows remarks⟩

/-- A chessboard whose rows reach into a second byte. -/
theorem picture_purePixels_chessboard :
    0 < 9 ∧ 0 < 2 ∧ ∃ bitmap,
      (∀ diffuse, toMono (purePixels 9 2 fun x y => (x + y) % 2 == 0) 9 2 diffuse = .ok bitmap) ∧
      Shows bitmap 9 2 (fun x y => (x + y) % 2 == 0) ∧
      ∀ remarks, ∃ picture, (RenderedLabel.mk 9 2 bitmap remarks).picture = picture ∧
        picture.width = 9 ∧ picture.height = 2 ∧
        Shows picture.bitmap 9 2 fun x y => (x + y) % 2 == 0 := by
  have hboard := @picture_purePixels 9 2 (by decide) (by decide) fun x y => (x + y) % 2 == 0
  exact ⟨by decide, by decide, hboard⟩

end LabelPress
