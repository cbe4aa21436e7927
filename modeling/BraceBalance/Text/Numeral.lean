import BraceBalance.Text.Basic

/-!
# Numerals

Numbers written in digits, the ranges of numbers with 64 bits, and characters written by
their code points.
-/

namespace BraceBalance

namespace Text

def hexDigit? (char : Char) : Option Nat :=
  if char.isDigit then some (char.toNat - '0'.toNat)
  else if 'a' ≤ char ∧ char ≤ 'f' then some (char.toNat - 'a'.toNat + 10)
  else if 'A' ≤ char ∧ char ≤ 'F' then some (char.toNat - 'A'.toNat + 10)
  else none

def isHexDigit (char : Char) : Bool :=
  (hexDigit? char).isSome

def numberOf (base : Nat) (digits : Text) : Nat :=
  digits.foldl (fun value digit => value * base + (hexDigit? digit).getD 0) 0

/-- The number that decimal digits write; there must be a digit, and nothing else. -/
def natural? (text : Text) : Option Nat :=
  if text.isEmpty || !text.all Char.isDigit then none else some (numberOf 10 text)

def maxUnsigned : Nat := 0xFFFFFFFFFFFFFFFF

def minSigned : Int := -0x8000000000000000

def maxSigned : Int := 0x7FFFFFFFFFFFFFFF

def fitsUnsigned (value : Nat) : Bool :=
  value ≤ maxUnsigned

def fitsSigned (value : Int) : Bool :=
  minSigned ≤ value && value ≤ maxSigned

/-- The character whose code point a text begins with, in a number of hexadecimal digits,
and the rest of the text. -/
def takeCodePoint? (count : Nat) (text : Text) : Option (Char × Text) :=
  let digits : Text := text.take count
  let code := numberOf 16 digits
  if h : digits.length = count ∧ digits.all isHexDigit ∧ code.isValidChar then
    some (Char.ofNatAux code h.2.2, text.drop count)
  else none

end Text

end BraceBalance
