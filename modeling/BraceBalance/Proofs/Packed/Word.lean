import BraceBalance.Packed.Basic
import BraceBalance.Proofs.Text.Numeral

/-!
# Words hold the numbers they stand for

The word of a number that fits into it gives the number back, and an operation on words whose
exact result fits gives the word of this result and does not trap.
-/

namespace BraceBalance

namespace Word

theorem toNat_ofNat {number : Nat} (fits : Text.fitsUnsigned number) :
    (UInt64.ofNat number).toNat = number := by
  have small : number ≤ 0xFFFFFFFFFFFFFFFF := of_decide_eq_true fits
  exact UInt64.toNat_ofNat_of_lt' (Nat.lt_succ_of_le small)

theorem ofNat?_eq_ok {number : Nat} (fits : Text.fitsUnsigned number) :
    ofNat? number = .ok (.ofNat number) :=
  if_pos fits

theorem fitsUnsigned_of_le_fitting {number limit : Nat} (fits : Text.fitsUnsigned limit)
    (within : number ≤ limit) : Text.fitsUnsigned number :=
  decide_eq_true (Nat.le_trans within (of_decide_eq_true fits))

theorem add_ofNat {left right : Nat} (fits : Text.fitsUnsigned (left + right)) :
    add (.ofNat left) (.ofNat right) = .ok (.ofNat (left + right)) := by
  have leftFits := fitsUnsigned_of_le_fitting fits (Nat.le_add_right left right)
  have rightFits := fitsUnsigned_of_le_fitting fits (Nat.le_add_left right left)
  rw [add, toNat_ofNat leftFits, toNat_ofNat rightFits, if_pos fits, UInt64.ofNat_add]

theorem sub_ofNat {left right : Nat} (fits : Text.fitsUnsigned left) (noMore : right ≤ left) :
    sub (.ofNat left) (.ofNat right) = .ok (.ofNat (left - right)) := by
  have ordered : UInt64.ofNat right ≤ UInt64.ofNat left := by
    rw [UInt64.le_iff_toNat_le, toNat_ofNat fits,
      toNat_ofNat (fitsUnsigned_of_le_fitting fits noMore)]
    exact noMore
  rw [sub, if_pos ordered, UInt64.ofNat_sub noMore]

theorem toInt_ofInt {value : Int} (fits : Text.fitsSigned value) : (Int64.ofInt value).toInt = value := by
  rw [Text.fitsSigned, Bool.and_eq_true, decide_eq_true_eq, decide_eq_true_eq] at fits
  have lower : -0x8000000000000000 ≤ value := fits.1
  have upper : value ≤ 0x7FFFFFFFFFFFFFFF := fits.2
  exact Int64.toInt_ofInt_of_le (by omega) (by omega)

theorem addSigned_ofInt {left right : Int} (leftFits : Text.fitsSigned left)
    (rightFits : Text.fitsSigned right) (fits : Text.fitsSigned (left + right)) :
    addSigned (.ofInt left) (.ofInt right) = .ok (.ofInt (left + right)) := by
  rw [addSigned, toInt_ofInt leftFits, toInt_ofInt rightFits, if_pos fits, Int64.ofInt_add]

theorem subSigned_ofInt {left right : Int} (leftFits : Text.fitsSigned left)
    (rightFits : Text.fitsSigned right) (fits : Text.fitsSigned (left - right)) :
    subSigned (.ofInt left) (.ofInt right) = .ok (.ofInt (left - right)) := by
  rw [subSigned, toInt_ofInt leftFits, toInt_ofInt rightFits, if_pos fits, Int64.ofInt_sub]

/-- A count is kept when its word is taken for a signed one. -/
theorem toInt64_ofNat (number : Nat) : (UInt64.ofNat number).toInt64 = .ofInt number := by
  rw [UInt64.toInt64_ofNat', Int64.ofInt_eq_ofNat]

/-- A balance changes by the difference of two counts, whose words are taken for signed ones. -/
theorem exists_change {balance : Int} {opens closes limit : Nat} (small : limit ≤ Text.maxSigned)
    (opensLe : opens ≤ limit) (closesLe : closes ≤ limit)
    (before : -(limit : Int) ≤ balance ∧ balance ≤ limit)
    (after : -(limit : Int) ≤ balance + opens - closes ∧ balance + opens - closes ≤ limit) :
    ∃ change,
      subSigned (UInt64.ofNat opens).toInt64 (UInt64.ofNat closes).toInt64 = .ok change ∧
        addSigned (.ofInt balance) change = .ok (.ofInt (balance + opens - closes)) := by
  refine ⟨.ofInt (opens - closes), ?_, ?_⟩
  · rw [toInt64_ofNat, toInt64_ofNat]
    apply subSigned_ofInt
    · exact Text.fitsSigned_of_abs_le small (by omega)
    · exact Text.fitsSigned_of_abs_le small (by omega)
    · exact Text.fitsSigned_of_abs_le small (by omega)
  · rw [Int.add_sub_assoc] at after ⊢
    apply addSigned_ofInt
    · exact Text.fitsSigned_of_abs_le small before
    · exact Text.fitsSigned_of_abs_le small (by omega)
    · exact Text.fitsSigned_of_abs_le small after

theorem ofNat_pos_iff {number : Nat} (fits : Text.fitsUnsigned number) :
    UInt64.ofNat number > 0 ↔ number > 0 := by
  rw [gt_iff_lt, UInt64.lt_iff_toNat_lt, toNat_ofNat fits]
  rfl

theorem ofInt_neg_iff {value : Int} (fits : Text.fitsSigned value) :
    Int64.ofInt value < 0 ↔ value < 0 := by
  rw [Int64.lt_iff_toInt_lt, toInt_ofInt fits]
  rfl

/-- The parity of a word is that of its number. -/
theorem ofNat_mod_two_eq_zero_iff {number : Nat} (fits : Text.fitsUnsigned number) :
    UInt64.ofNat number % 2 = 0 ↔ number % 2 = 0 := by
  rw [← UInt64.toNat_inj, UInt64.toNat_mod, toNat_ofNat fits]
  rfl

end Word

end BraceBalance
