import BraceBalance.Proofs.Json.Reader

/-!
# The grammar of JSON

A JSON text says a tree. `JsonTree.IsSpelled` tells which texts spell a tree, by recursion on
the tree and without a word about readers: blanks stand between all tokens, numbers have
fractions and exponents of any length, and strings have escapes of all kinds.

A tree keeps what a reader can tell apart. A number is an integer only if it is written as one,
and then it is written in its decimal digits. A string stands for a text only if every surrogate
among its escapes is half of a pair, but it may stand in a JSON text all the same.
-/

namespace BraceBalance

open JsonReader

/-- What a JSON text says. -/
inductive JsonTree where
  | null
  | boolean (value : Bool)
  /-- A number, with the integer that it is written as. -/
  | number (integer : Option Int)
  /-- A string, with the text that it stands for. -/
  | string (text : Option Text)
  | array (elements : List JsonTree)
  | object (members : List (Option Text × JsonTree))

/-! ## Numbers -/

/-- The exponent of a number as it is written. -/
structure JsonExponent where
  letter : Char
  sign : Text
  digits : Text

/-- A number as it is written. -/
structure JsonNumber where
  negative : Bool
  /-- The number before the point, which is written without leading zeros. -/
  whole : Nat
  /-- The digits after the point. -/
  fraction : Option Text
  exponent : Option JsonExponent

/-- The text is a row of digits. -/
structure IsDigits (text : Text) : Prop where
  notEmpty : text ≠ []
  allDigits : ∀ digit ∈ text, digit.isDigit

instance (text : Text) : Decidable (IsDigits text) :=
  decidable_of_iff (text ≠ [] ∧ text.all Char.isDigit)
    ⟨fun ⟨notEmpty, all⟩ => ⟨notEmpty, List.all_eq_true.mp all⟩,
      fun ⟨notEmpty, allDigits⟩ => ⟨notEmpty, List.all_eq_true.mpr allDigits⟩⟩

theorem IsDigits.head?_ne {digits : Text} (areDigits : IsDigits digits) (rest : Text) {char : Char}
    (notDigit : char.isDigit = false) : (digits ++ rest).head? ≠ some char := by
  rcases digits with _ | ⟨digit, digits⟩
  · exact absurd rfl areDigits.notEmpty
  · have isDigit := areDigits.allDigits digit List.mem_cons_self
    intro head
    cases head
    exact absurd isDigit (by simp [notDigit])

structure JsonExponent.IsWritten (exponent : JsonExponent) : Prop where
  letter : exponent.letter = 'e' ∨ exponent.letter = 'E'
  sign : exponent.sign = [] ∨ exponent.sign = "+" ∨ exponent.sign = "-"
  digits : IsDigits exponent.digits

namespace JsonNumber

structure IsWritten (number : JsonNumber) : Prop where
  fraction : ∀ digits ∈ number.fraction, IsDigits digits
  exponent : ∀ exponent ∈ number.exponent, exponent.IsWritten

def renderFraction (fraction : Option Text) : Text :=
  fraction.elim [] ('.' :: ·)

def renderExponent (exponent : Option JsonExponent) : Text :=
  exponent.elim [] fun exponent => exponent.letter :: (exponent.sign ++ exponent.digits)

/-- What stands behind the sign. -/
def renderMagnitude (number : JsonNumber) : Text :=
  Text.ofNat number.whole ++ renderFraction number.fraction ++ renderExponent number.exponent

def render (number : JsonNumber) : Text :=
  (if number.negative then "-" else "") ++ number.renderMagnitude

/-- The integer that the number is written as. Minus zero is none. -/
def integer? (number : JsonNumber) : Option Int :=
  if number.fraction.isSome || number.exponent.isSome then none
  else if !number.negative then some number.whole
  else if number.whole = 0 then none else some (-number.whole)

end JsonNumber

/-! ## Strings -/

/-- A piece of a string as it is written. -/
inductive StringPiece where
  | plain (char : Char)
  /-- A backslash with a letter, and the character that both stand for. -/
  | escape (letter char : Char)
  /-- A unit of UTF-16 in hexadecimal digits. -/
  | unit (digits : Text)

namespace StringPiece

def escapes : List (Char × Char) :=
  [('"', '"'), ('\\', '\\'), ('/', '/'), ('b', '\x08'), ('f', '\x0c'), ('n', '\n'), ('r', '\r'),
    ('t', '\t')]

def IsWritten : StringPiece → Prop
  | plain char => char ≠ '"' ∧ char ≠ '\\' ∧ 0x20 ≤ char.toNat
  | escape letter char => (letter, char) ∈ escapes
  | unit digits => digits.length = 4 ∧ ∀ digit ∈ digits, Text.isHexDigit digit

def render : StringPiece → Text
  | plain char => [char]
  | escape letter _ => ['\\', letter]
  | unit digits => '\\' :: 'u' :: digits

instance (piece : StringPiece) : Decidable piece.IsWritten :=
  match piece with
  | plain _ => inferInstanceAs (Decidable (_ ∧ _ ∧ _))
  | escape _ _ => inferInstanceAs (Decidable (_ ∈ _))
  | unit digits =>
      decidable_of_iff (digits.length = 4 ∧ digits.all Text.isHexDigit)
        (and_congr Iff.rfl List.all_eq_true)

/-- The character of a pair of surrogates. -/
def ofSurrogates (leading trailing : Nat) : Char :=
  Char.ofNat (0x10000 + (leading - 0xD800) * 0x400 + (trailing - 0xDC00))

/-- The text that pieces stand for, behind a leading surrogate if there is one. It must have
its other half, and no other surrogate may stand alone. -/
def textFrom? : Option Nat → List StringPiece → Option Text
  | none, [] => some []
  | none, plain char :: rest => (textFrom? none rest).map (char :: ·)
  | none, escape _ char :: rest => (textFrom? none rest).map (char :: ·)
  | none, unit digits :: rest =>
      let code := Text.numberOf 16 digits
      if isTrailingSurrogate code then none
      else if isLeadingSurrogate code then textFrom? (some code) rest
      else (textFrom? none rest).map (Char.ofNat code :: ·)
  | some leading, unit digits :: rest =>
      let code := Text.numberOf 16 digits
      if isTrailingSurrogate code then
        (textFrom? none rest).map (ofSurrogates leading code :: ·)
      else none
  | some _, _ => none

/-- The text behind an opening quote is a string that stands for the value. -/
def Spells (content : Text) (value : Option Text) : Prop :=
  ∃ pieces : List StringPiece, (∀ piece ∈ pieces, piece.IsWritten) ∧
    textFrom? none pieces = value ∧ content = pieces.flatMap render ++ "\""

/-- No character of the text needs an escape. -/
def AllPlain (text : Text) : Prop :=
  ∀ char ∈ text, (plain char).IsWritten

instance (text : Text) : Decidable (AllPlain text) :=
  decidable_of_iff (text.all fun char => (plain char).IsWritten) (by simp [AllPlain])

/-- Characters that need no escape stand for themselves. -/
theorem spells_plain {text : Text} (allPlain : AllPlain text) :
    Spells (text ++ "\"") (some text) := by
  refine ⟨text.map plain, ?_, ?_, ?_⟩
  · intro piece pieceMem
    rcases List.mem_map.mp pieceMem with ⟨char, charMem, rfl⟩
    exact allPlain char charMem
  · clear allPlain
    induction text with
    | nil => rfl
    | cons char text ih => rw [List.map_cons, textFrom?, ih, Option.map_some]
  · rw [List.flatMap_map]
    exact congrArg (· ++ _) (List.flatMap_singleton' text).symm

end StringPiece

/-! ## Trees -/

/-- The mark with blanks around it. -/
def IsAround (mark : Char) (text : Text) : Prop :=
  ∃ before after, AllLayout before ∧ AllLayout after ∧ text = before ++ mark :: after

/-- What stands before an element or a member. -/
def IsSeparator (isFirst : Bool) (text : Text) : Prop :=
  if isFirst then AllLayout text else IsAround ',' text

namespace JsonTree

mutual

/-- The text spells the tree. -/
def IsSpelled : JsonTree → Text → Prop
  | null, text => text = "null"
  | boolean value, text => text = if value then "true" else "false"
  | number integer, text =>
      ∃ number : JsonNumber, number.IsWritten ∧ number.integer? = integer ∧ text = number.render
  | string value, text => ∃ content, StringPiece.Spells content value ∧ text = '"' :: content
  | array elements, text => ∃ content, AreElements true elements content ∧ text = '[' :: content
  | object members, text => ∃ content, AreMembers true members content ∧ text = '\x7b' :: content

/-- The text spells the elements that follow in an array, up to the closing bracket. -/
def AreElements : Bool → List JsonTree → Text → Prop
  | _, [], text => ∃ blanks, AllLayout blanks ∧ text = blanks ++ [']']
  | isFirst, tree :: trees, text =>
      ∃ separator element more, IsSeparator isFirst separator ∧ IsSpelled tree element ∧
        AreElements false trees more ∧ text = separator ++ element ++ more

/-- The text spells the members that follow in an object, up to the closing brace. -/
def AreMembers : Bool → List (Option Text × JsonTree) → Text → Prop
  | _, [], text => ∃ blanks, AllLayout blanks ∧ text = blanks ++ ['\x7d']
  | isFirst, (key, tree) :: members, text =>
      ∃ separator keyText colon value more, IsSeparator isFirst separator ∧
        StringPiece.Spells keyText key ∧ IsAround ':' colon ∧ IsSpelled tree value ∧
        AreMembers false members more ∧
        text = separator ++ '"' :: keyText ++ colon ++ value ++ more

end

/-- The whole text says the tree. -/
def IsText (tree : JsonTree) (text : Text) : Prop :=
  ∃ before value after, AllLayout before ∧ AllLayout after ∧ tree.IsSpelled value ∧
    text = before ++ value ++ after

theorem isSpelled_ofInt (value : Int) : (number (some value)).IsSpelled (Text.ofInt value) := by
  rw [IsSpelled]
  cases value with
  | ofNat whole =>
      refine ⟨⟨false, whole, none, none⟩, ⟨by simp, by simp⟩, rfl, ?_⟩
      simp [JsonNumber.render, JsonNumber.renderMagnitude, JsonNumber.renderFraction,
        JsonNumber.renderExponent, Text.ofInt]
  | negSucc below =>
      refine ⟨⟨true, below + 1, none, none⟩, ⟨by simp, by simp⟩, rfl, ?_⟩
      simp [JsonNumber.render, JsonNumber.renderMagnitude, JsonNumber.renderFraction,
        JsonNumber.renderExponent, Text.ofInt]

theorem isSpelled_string {content : Text} {value : Option Text}
    (spells : StringPiece.Spells content value) : (string value).IsSpelled ('"' :: content) := by
  rw [IsSpelled]
  exact ⟨content, spells, rfl⟩

theorem isSpelled_array {elements : List JsonTree} {content : Text}
    (areElements : AreElements true elements content) :
    (array elements).IsSpelled ('[' :: content) := by
  rw [IsSpelled]
  exact ⟨content, areElements, rfl⟩

theorem isSpelled_object {members : List (Option Text × JsonTree)} {content : Text}
    (areMembers : AreMembers true members content) :
    (object members).IsSpelled ('\x7b' :: content) := by
  rw [IsSpelled]
  exact ⟨content, areMembers, rfl⟩

theorem areElements_nil (isFirst : Bool) {blanks : Text} (allBlank : AllLayout blanks) :
    AreElements isFirst [] (blanks ++ [']']) := by
  rw [AreElements]
  exact ⟨blanks, allBlank, rfl⟩

theorem areMembers_nil (isFirst : Bool) {blanks : Text} (allBlank : AllLayout blanks) :
    AreMembers isFirst [] (blanks ++ ['\x7d']) := by
  rw [AreMembers]
  exact ⟨blanks, allBlank, rfl⟩

theorem areElements_cons {isFirst : Bool} {separator element more : Text} {tree : JsonTree}
    {trees : List JsonTree} (separates : IsSeparator isFirst separator)
    (spelled : tree.IsSpelled element) (areMore : AreElements false trees more) :
    AreElements isFirst (tree :: trees) (separator ++ element ++ more) := by
  rw [AreElements]
  exact ⟨separator, element, more, separates, spelled, areMore, rfl⟩

theorem areMembers_cons {isFirst : Bool} {separator keyText colon value more : Text}
    {key : Option Text} {tree : JsonTree} {members : List (Option Text × JsonTree)}
    (separates : IsSeparator isFirst separator) (spells : StringPiece.Spells keyText key)
    (around : IsAround ':' colon) (spelled : tree.IsSpelled value)
    (areMore : AreMembers false members more) :
    AreMembers isFirst ((key, tree) :: members)
      (separator ++ '"' :: keyText ++ colon ++ value ++ more) := by
  rw [AreMembers]
  exact ⟨separator, keyText, colon, value, more, separates, spells, around, spelled, areMore, rfl⟩

/-- A value that is spelled so begins with the character. -/
def Begins : JsonTree → Char → Prop
  | null, first => first = 'n'
  | boolean value, first => first = if value then 't' else 'f'
  | number _, first => first = '-' ∨ first.isDigit
  | string _, first => first = '"'
  | array _, first => first = '['
  | object _, first => first = '\x7b'

theorem IsSpelled.exists_begins {tree : JsonTree} {text : Text} (spelled : tree.IsSpelled text) :
    ∃ first others, text = first :: others ∧ tree.Begins first := by
  cases tree with
  | null =>
      rw [IsSpelled] at spelled
      exact ⟨'n', "ull", spelled, rfl⟩
  | boolean value =>
      rw [IsSpelled] at spelled
      cases value with
      | false => exact ⟨'f', "alse", spelled, rfl⟩
      | true => exact ⟨'t', "rue", spelled, rfl⟩
  | number integer =>
      rw [IsSpelled] at spelled
      rcases spelled with ⟨number, _, _, rfl⟩
      rcases Text.exists_ofNat_eq_cons number.whole with ⟨digit, digits, shape, isDigit⟩
      rw [JsonNumber.render, JsonNumber.renderMagnitude, shape]
      cases number.negative with
      | false => exact ⟨digit, _, rfl, .inr isDigit⟩
      | true => exact ⟨'-', _, rfl, .inl rfl⟩
  | string value =>
      rw [IsSpelled] at spelled
      rcases spelled with ⟨content, _, rfl⟩
      exact ⟨'"', content, rfl, rfl⟩
  | array elements =>
      rw [IsSpelled] at spelled
      rcases spelled with ⟨content, _, rfl⟩
      exact ⟨'[', content, rfl, rfl⟩
  | object members =>
      rw [IsSpelled] at spelled
      rcases spelled with ⟨content, _, rfl⟩
      exact ⟨'\x7b', content, rfl, rfl⟩

/-- No value begins with a blank or with the end of an array. -/
theorem Begins.isLayout_eq_false {tree : JsonTree} {first : Char} (begins : tree.Begins first) :
    isLayout first = false ∧ first ≠ ']' := by
  cases tree with
  | boolean value =>
      rw [Begins] at begins
      subst begins
      cases value <;> decide
  | number integer =>
      rcases begins with rfl | digit
      · decide
      · refine ⟨isLayout_of_isDigit digit, ?_⟩
        rintro rfl
        exact absurd digit (by decide)
  | _ =>
      rw [Begins] at begins
      subst begins
      decide

section

variable {tree : JsonTree} {first : Char}

theorem Begins.exists_number (isNumber : first = '-' ∨ first.isDigit) (begins : tree.Begins first) :
    ∃ integer, tree = number integer := by
  cases tree with
  | number integer => exact ⟨integer, rfl⟩
  | boolean value =>
      rw [Begins] at begins
      subst begins
      cases value <;> exact absurd isNumber (by decide)
  | _ =>
      rw [Begins] at begins
      subst begins
      exact absurd isNumber (by decide)

theorem Begins.eq_null (begins : tree.Begins 'n') : tree = null := by
  cases tree with
  | null => rfl
  | boolean value => cases value <;> exact absurd begins (by rw [Begins]; decide)
  | _ => exact absurd begins (by rw [Begins]; decide)

theorem Begins.exists_string (begins : tree.Begins '"') : ∃ value, tree = string value := by
  cases tree with
  | string value => exact ⟨value, rfl⟩
  | boolean value => cases value <;> exact absurd begins (by rw [Begins]; decide)
  | _ => exact absurd begins (by rw [Begins]; decide)

theorem Begins.exists_array (begins : tree.Begins '[') : ∃ elements, tree = array elements := by
  cases tree with
  | array elements => exact ⟨elements, rfl⟩
  | boolean value => cases value <;> exact absurd begins (by rw [Begins]; decide)
  | _ => exact absurd begins (by rw [Begins]; decide)

theorem Begins.exists_object (begins : tree.Begins '\x7b') : ∃ members, tree = object members := by
  cases tree with
  | object members => exact ⟨members, rfl⟩
  | boolean value => cases value <;> exact absurd begins (by rw [Begins]; decide)
  | _ => exact absurd begins (by rw [Begins]; decide)

end

end JsonTree

end BraceBalance
