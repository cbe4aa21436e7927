import BraceBalance.Text.Basic

/-!
# Packed texts

A packed text is a list of bytes that are meant to be UTF-8. The system holds the names of
its files like this and does not look whether they are, so a packed text need not stand for
a text. What is no UTF-8 in it is shown as marks.
-/

namespace BraceBalance

/-- Bytes that are meant to be the UTF-8 of a text. -/
abbrev Packed := List UInt8

namespace Packed

@[match_pattern]
abbrev slash : UInt8 := 47

@[match_pattern]
abbrev dot : UInt8 := 46

/-- The UTF-8 of a text. -/
def ofText (text : Text) : Packed :=
  text.flatMap String.utf8EncodeChar

/-- The text whose UTF-8 the bytes are, if there is one. -/
def text? (packed : Packed) : Option Text :=
  Text.ofBytes? ⟨packed.toArray⟩

/-- Byte order: the first difference decides, and a beginning comes before the whole. -/
def compare (left right : Packed) : Ordering :=
  List.compareLex Ord.compare left right

/-- The byte is no first byte of a character. -/
def isContinuation (byte : UInt8) : Bool :=
  0x80 ≤ byte && byte < 0xC0

/-- The byte may be the second of a character with a given first byte. -/
def continues (first second : UInt8) : Bool :=
  match first with
  | 0xE0 => 0xA0 ≤ second && second < 0xC0
  | 0xED => 0x80 ≤ second && second < 0xA0
  | 0xF0 => 0x90 ≤ second && second < 0xC0
  | 0xF4 => 0x80 ≤ second && second < 0x90
  | _ => isContinuation second

/-- The number of bytes in front that begin a character and do not go on with it, or one if
none begins. -/
def brokenLength : Packed → Nat
  | first :: second :: rest =>
      if first < 0xE0 || 0xF4 < first || !continues first second then 1
      else if first < 0xF0 || !(rest.head?.any isContinuation) then 2
      else 3
  | _ => 1

def firstChar? (packed : Packed) : Option Char :=
  packed.toByteArray.utf8DecodeChar? 0

/-- The text that is shown for the bytes, with a mark for what is no UTF-8. -/
def shown : Packed → Text
  | [] => []
  | first :: rest =>
      match firstChar? (first :: rest) with
      | some char => char :: shown (rest.drop (char.utf8Size - 1))
      | none => '\uFFFD' :: shown (rest.drop (brokenLength (first :: rest) - 1))
termination_by packed => packed.length
decreasing_by
  all_goals
    rw [List.length_drop, List.length_cons]
    omega

end Packed

instance : Coe String Packed := ⟨fun string => Packed.ofText string.toList⟩

end BraceBalance
