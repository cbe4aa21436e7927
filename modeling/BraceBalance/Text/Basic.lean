/-!
# Text

A text is the list of its characters. Definitions that read text recurse on this
list, so that statements about them are proved by induction; conversion from and
to packed strings happens only where text enters or leaves a program.

A string literal stands for the text of its characters.
-/

namespace BraceBalance

/-- A text is the list of its characters. -/
abbrev Text := List Char

instance : Coe String Text := ⟨String.toList⟩

namespace Text

/-- The number of bytes of a text in UTF-8. -/
def byteLength : Text → Nat
  | [] => 0
  | char :: rest => char.utf8Size + byteLength rest

/-- The beginning of a text that has a number of bytes in UTF-8, if a character ends
there. -/
def takeBytes? : Nat → Text → Option Text
  | 0, _ => some []
  | _ + 1, [] => none
  | count + 1, char :: rest =>
      if count + 1 < char.utf8Size then none
      else (takeBytes? (count + 1 - char.utf8Size) rest).map (char :: ·)

/-- The decimal digits of a natural number, without leading zeros. -/
def ofNat (number : Nat) : Text :=
  Nat.toDigits 10 number

/-- The decimal digits of an integer, after a minus sign if it is negative. -/
def ofInt : Int → Text
  | .ofNat number => ofNat number
  | .negSucc number => '-' :: ofNat (number + 1)

/-- A number in the given base, filled up with zeros to a least number of digits. -/
def ofNatPadded (base width number : Nat) : Text :=
  let digits := Nat.toDigits base number
  List.replicate (width - digits.length) '0' ++ digits

section Parts

/-! ## Parts

A text may be made of characters or of bytes. -/

variable {α : Type} [DecidableEq α]

omit [DecidableEq α] in
/-- The parts in order, with the separator between each two of them. -/
def join (separator : List α) : List (List α) → List α
  | [] => []
  | first :: rest => first ++ rest.flatMap (separator ++ ·)

/-- The parts of a text between the places where a character occurs. There is one part
more than there are such places. -/
def splitOn (separator : α) (text : List α) : List (List α) :=
  text.foldr
    (fun char parts =>
      if char = separator then [] :: parts
      else match parts with
        | [] => [[char]]
        | part :: later => (char :: part) :: later)
    [[]]

/-- The text without a given beginning, if it begins so. -/
def dropBeginning? (text beginning : List α) : Option (List α) :=
  if beginning.isPrefixOf text then some (text.drop beginning.length) else none

end Parts

/-- The longest text that remains when characters are dropped from the end. -/
def dropEndWhile (drops : Char → Bool) (text : Text) : Text :=
  (text.reverse.dropWhile drops).reverse

def trimBy (drops : Char → Bool) (text : Text) : Text :=
  dropEndWhile drops (text.dropWhile drops)

def asciiLower (text : Text) : Text :=
  text.map Char.toLower

def asciiUpper (text : Text) : Text :=
  text.map Char.toUpper

/-- Character order on texts: the first difference decides, and a beginning comes
before the whole. Because UTF-8 keeps the order of characters, this is the order of
the encoded bytes too. -/
def compare : Text → Text → Ordering
  | [], [] => .eq
  | [], _ :: _ => .lt
  | _ :: _, [] => .gt
  | left :: leftRest, right :: rightRest =>
      if left < right then .lt
      else if right < left then .gt
      else compare leftRest rightRest

/-- Reads UTF-8; gives nothing for bytes that are not UTF-8. -/
def ofBytes? (bytes : ByteArray) : Option Text :=
  (String.fromUTF8? bytes).map String.toList

def toBytes (text : Text) : ByteArray :=
  (String.ofList text).toUTF8

end Text

end BraceBalance
