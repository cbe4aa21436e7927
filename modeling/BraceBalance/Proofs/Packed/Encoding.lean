import BraceBalance.Packed.Basic
import BraceBalance.Proofs.Text.Packed

/-!
# Parts of packed texts

A part of a packed text between two places where characters begin is the UTF-8 of a part of the
text. So what a byte-wise program cuts out at such places is text again.
-/

namespace BraceBalance

namespace Packed

theorem toText_ofText (text : Text) : toText (ofText text) = .ok text := by
  rw [toText, text?_ofText]

theorem isContinuation_of_isUTF8FirstByte {byte : UInt8} (isFirst : byte.IsUTF8FirstByte) :
    isContinuation byte = false := by
  have eachByte : ∀ code < 256, (UInt8.ofNat code).IsUTF8FirstByte →
      isContinuation (UInt8.ofNat code) = false := by
    decide +kernel
  have ofCode := eachByte byte.toNat byte.toNat_lt
  rw [UInt8.ofNat_toNat] at ofCode
  exact ofCode isFirst

/-- Where a part of a text ends there is a place to cut. -/
theorem isBoundary_ofText (left right : Text) :
    isBoundary (ofText (left ++ right)) (ofText left).length := by
  rw [isBoundary, ofText_of_append, List.getElem?_append_right (Nat.le_refl _), Nat.sub_self]
  by_cases isEmpty : right = []
  · simp [isEmpty]
  · rcases exists_ofText_eq_cons isEmpty with ⟨first, others, bytes, isFirst⟩
    simp [bytes, isContinuation_of_isUTF8FirstByte isFirst]

theorem cut_ofText (before part rest : Text) {start stop : UInt64}
    (startIs : start.toNat = (ofText before).length)
    (stopIs : stop.toNat = (ofText (before ++ part)).length) :
    cut (ofText (before ++ (part ++ rest))) start stop = .ok (ofText part) := by
  have ordered : start ≤ stop := by
    rw [UInt64.le_iff_toNat_le, startIs, stopIs, ofText_of_append, List.length_append]
    omega
  have inside : stop.toNat ≤ (ofText (before ++ (part ++ rest))).length := by
    simp only [stopIs, ofText_of_append, List.length_append]
    omega
  have startBoundary := isBoundary_ofText before (part ++ rest)
  have stopBoundary := isBoundary_ofText (before ++ part) rest
  rw [← startIs] at startBoundary
  rw [← stopIs, List.append_assoc] at stopBoundary
  have allowed : (start ≤ stop && stop.toNat ≤ (ofText (before ++ (part ++ rest))).length
      && isBoundary (ofText (before ++ (part ++ rest))) start.toNat
      && isBoundary (ofText (before ++ (part ++ rest))) stop.toNat) = true := by
    simp only [ordered, inside, startBoundary, stopBoundary, decide_true, Bool.and_self]
  rw [cut, if_pos allowed, startIs, stopIs]
  simp

/-- A cut through a character traps. -/
example : cut (ofText "aé") 0 2 = .error .badCut := by
  decide

end Packed

end BraceBalance
