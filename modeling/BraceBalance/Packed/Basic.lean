import BraceBalance.Text.Numeral
import BraceBalance.Text.Packed

/-!
# Programs on packed texts

Where a packed text is the UTF-8 of a text, a program that reads it works on machine words:
sizes and offsets are unsigned words of 64 bits, balances signed ones. What can go wrong on
these is a `Trap`. An operation on words traps if its result does not fit, and a part of a
packed text can be cut out only between two characters of it.

Searches go byte by byte and know nothing of characters.
-/

namespace BraceBalance

/-- Why a program on packed texts stops before its end. -/
inductive Trap where
  /-- A result does not fit into its word. -/
  | overflow
  /-- A part begins or ends outside of its text or within a character. -/
  | badCut
  /-- Bytes that are not UTF-8. -/
  | notText
  /-- The program does not come to its end. -/
  | endless
deriving DecidableEq

namespace Word

def ofNat? (number : Nat) : Except Trap UInt64 :=
  if Text.fitsUnsigned number then .ok (.ofNat number) else .error .overflow

def add (left right : UInt64) : Except Trap UInt64 :=
  if Text.fitsUnsigned (left.toNat + right.toNat) then .ok (left + right) else .error .overflow

def sub (left right : UInt64) : Except Trap UInt64 :=
  if right ≤ left then .ok (left - right) else .error .overflow

def addSigned (left right : Int64) : Except Trap Int64 :=
  if Text.fitsSigned (left.toInt + right.toInt) then .ok (left + right) else .error .overflow

def subSigned (left right : Int64) : Except Trap Int64 :=
  if Text.fitsSigned (left.toInt - right.toInt) then .ok (left - right) else .error .overflow

end Word

namespace Packed

def toText (packed : Packed) : Except Trap Text :=
  match packed.text? with
  | some text => .ok text
  | none => .error .notText

/-- An offset lies between two characters, or at one of the ends. -/
def isBoundary (packed : Packed) (offset : Nat) : Bool :=
  match packed[offset]? with
  | some byte => offset = 0 || !isContinuation byte
  | none => offset = packed.length

/-- The part between two offsets. -/
def cut (packed : Packed) (start stop : UInt64) : Except Trap Packed :=
  if start ≤ stop && stop.toNat ≤ packed.length && packed.isBoundary start.toNat
      && packed.isBoundary stop.toNat then
    .ok ((packed.drop start.toNat).take (stop.toNat - start.toNat))
  else .error .badCut

/-- The least offset at which `needle` stands. -/
def firstMatch? (needle : Packed) : Packed → Option Nat
  | [] => if needle.isEmpty then some 0 else none
  | byte :: rest =>
      if needle.isPrefixOf (byte :: rest) then some 0
      else (firstMatch? needle rest).map (· + 1)

/-- The number of matches of `needle` from left to right that do not overlap, and none of which
begins in the first `covered` bytes. -/
def countMatches (needle : Packed) (covered : Nat) : Packed → Nat
  | [] => 0
  | byte :: rest =>
      match covered with
      | covered + 1 => countMatches needle covered rest
      | 0 =>
          if needle.isPrefixOf (byte :: rest) then countMatches needle (needle.length - 1) rest + 1
          else countMatches needle 0 rest

end Packed

end BraceBalance
