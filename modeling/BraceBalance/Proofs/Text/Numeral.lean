import BraceBalance.Text.Numeral
import Mathlib.Data.List.Basic

/-!
# Numbers in decimal digits

A natural number is written in decimal digits without leading zeros, and its digits read
back to it. Numbers that stay within a signed number of 64 bits have 64 bits themselves.
-/

namespace BraceBalance

namespace Text

theorem ofNat_ne_nil (number : Nat) : ofNat number ≠ [] :=
  Nat.toDigits_ne_nil

theorem isDigit_of_mem_ofNat {number : Nat} {digit : Char} (digitMem : digit ∈ ofNat number) :
    digit.isDigit :=
  Nat.isDigit_of_mem_toDigits (by simp) (by simp) digitMem

theorem exists_ofNat_eq_cons (number : Nat) :
    ∃ digit digits, ofNat number = digit :: digits ∧ digit.isDigit := by
  rcases shape : ofNat number with _ | ⟨digit, digits⟩
  · exact absurd shape (ofNat_ne_nil number)
  · exact ⟨digit, digits, rfl, isDigit_of_mem_ofNat (shape ▸ List.mem_cons_self)⟩

/-- The first digit of a positive number is not zero, since all its digits but the last are
those of a smaller positive number. -/
theorem eq_zero_of_head?_ofNat {number : Nat} (head : (ofNat number).head? = some '0') :
    number = 0 := by
  induction number using Nat.strongRecOn with
  | ind number ih =>
      by_cases small : number < 10
      · rw [ofNat, Nat.toDigits_of_lt_base small] at head
        have onlyZero : ∀ digit < 10, Nat.digitChar digit = '0' → digit = 0 := by decide
        exact onlyZero number small (Option.some.inj head)
      · have firstDigits := Nat.toDigits_of_base_le (b := 10) (by simp) (Nat.le_of_not_lt small)
        have sameHead : (ofNat (number / 10)).head? = some '0' := by
          rw [ofNat, firstDigits] at head
          rwa [List.head?_append_of_ne_nil _ Nat.toDigits_ne_nil] at head
        have quotient := ih (number / 10) (by omega) sameHead
        omega

/-- Only zero has a zero as its first digit, and it has no other. -/
theorem eq_nil_of_ofNat_eq_zero_cons {number : Nat} {rest : Text}
    (digits : ofNat number = '0' :: rest) : rest = [] := by
  have same : number = 0 := eq_zero_of_head?_ofNat (by rw [digits]; rfl)
  subst same
  exact (List.cons.inj digits).2.symm

theorem getD_hexDigit?_of_isDigit {digit : Char} (isDigit : digit.isDigit) :
    (hexDigit? digit).getD 0 = digit.toNat - '0'.toNat := by
  simp only [hexDigit?, isDigit, if_true, Option.getD_some]

theorem numberOf_of_isDigit {digits : Text} (allDigits : ∀ digit ∈ digits, digit.isDigit) :
    numberOf 10 digits = Nat.ofDigitChars 10 digits 0 := by
  rw [numberOf, Nat.ofDigitChars_eq_foldl]
  apply List.foldl_ext
  intro value digit digitMem
  rw [getD_hexDigit?_of_isDigit (allDigits digit digitMem), Nat.mul_comm]

theorem numberOf_ofNat (number : Nat) : numberOf 10 (ofNat number) = number := by
  rw [numberOf_of_isDigit fun digit digitMem => isDigit_of_mem_ofNat digitMem]
  exact Nat.ofDigitChars_ten_toDigits

theorem ofNat_injective : Function.Injective ofNat :=
  Function.LeftInverse.injective numberOf_ofNat

/-- A character of an integer in decimal digits. -/
def isNumeralChar (char : Char) : Bool :=
  char.isDigit || char = '-'

theorem isNumeralChar_of_mem_ofInt {value : Int} {char : Char} (charMem : char ∈ ofInt value) :
    isNumeralChar char := by
  cases value with
  | ofNat number => simp [isNumeralChar, isDigit_of_mem_ofNat charMem]
  | negSucc number =>
      rcases List.mem_cons.mp charMem with rfl | digitMem
      · rfl
      · simp [isNumeralChar, isDigit_of_mem_ofNat digitMem]

theorem not_mem_ofNat {char : Char} (notDigit : char.isDigit = false) (number : Nat) :
    char ∉ ofNat number := by
  intro charMem
  have isDigit := isDigit_of_mem_ofNat charMem
  simp [notDigit] at isDigit

theorem not_mem_ofInt {char : Char} (notNumeral : isNumeralChar char = false) (value : Int) :
    char ∉ ofInt value := by
  intro charMem
  have isNumeral := isNumeralChar_of_mem_ofInt charMem
  simp [notNumeral] at isNumeral

/-- A minus sign is no digit, so that numbers with and without one are not confused. -/
theorem ofInt_injective : Function.Injective ofInt := by
  have noMinus {number : Nat} {digits : Text} : ofNat number ≠ '-' :: digits := by
    intro same
    have minusIsDigit := isDigit_of_mem_ofNat (same ▸ List.mem_cons_self : '-' ∈ ofNat number)
    contradiction
  intro value other same
  cases value with
  | ofNat number =>
      cases other with
      | ofNat otherNumber => exact congrArg Int.ofNat (ofNat_injective same)
      | negSucc otherNumber => exact absurd same noMinus
  | negSucc number =>
      cases other with
      | ofNat otherNumber => exact absurd same.symm noMinus
      | negSucc otherNumber =>
          have successors := ofNat_injective (List.tail_eq_of_cons_eq same)
          exact congrArg Int.negSucc (Nat.succ.inj successors)

/-! ## Numbers of 64 bits -/

theorem fitsUnsigned_of_le {number limit : Nat} (small : limit ≤ maxSigned)
    (within : number ≤ limit) : fitsUnsigned number := by
  have noLarger : (limit : Int) ≤ 0x7FFFFFFFFFFFFFFF := small
  apply decide_eq_true
  change number ≤ 0xFFFFFFFFFFFFFFFF
  omega

theorem fitsSigned_of_abs_le {value : Int} {limit : Nat} (small : limit ≤ maxSigned)
    (within : -(limit : Int) ≤ value ∧ value ≤ limit) : fitsSigned value := by
  have noLarger : (limit : Int) ≤ 0x7FFFFFFFFFFFFFFF := small
  rw [fitsSigned, Bool.and_eq_true, decide_eq_true_eq, decide_eq_true_eq]
  change -0x8000000000000000 ≤ value ∧ value ≤ 0x7FFFFFFFFFFFFFFF
  omega

end Text

end BraceBalance
