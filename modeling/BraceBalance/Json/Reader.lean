import BraceBalance.Decimal.Double
import BraceBalance.Text.Numeral

/-!
# Reading JSON

A reader takes values off the front of a text, from left to right, and knows at each
place what is wanted there. It stops at the first fault, which has one of three kinds:
the text ends too early, it breaks the grammar, or a value does not fit what is wanted.
A value that does not fit is read to its end if it is a literal, so that a fault inside
it is found first; an unfit array or object is refused at its bracket.

Values that nobody wants are skipped by `skipValue`, which knows the grammar only: it
accepts numbers of any size and `\u` escapes that name half of a surrogate pair.

Readers of nested values recurse on a number that bounds their steps; the length of the
text is always enough.
-/

namespace BraceBalance

/-- Why a JSON text cannot be read. -/
inductive ReadFailure where
  /-- The text ends inside a value. -/
  | truncated
  /-- The text breaks the grammar. -/
  | malformed
  /-- A value does not fit what is wanted. -/
  | unfit
deriving DecidableEq

/-- A reader takes something off the front of a text. -/
abbrev JsonReader := StateT Text (Except ReadFailure)

namespace JsonReader

/-- The next character, left where it is. -/
def peek? : JsonReader (Option Char) :=
  return (← get).head?

def advance : JsonReader Unit :=
  modify List.tail

def take : JsonReader Char := do
  match ← get with
  | [] => throw .truncated
  | char :: rest => set rest; return char

/-- Drops blanks: spaces, tabs and line ends. -/
def skipBlanks : JsonReader Unit :=
  modify (List.dropWhile fun char => char = ' ' || char = '\n' || char = '\t' || char = '\r')

/-- The next character after blanks, left where it is. -/
def peekToken : JsonReader Char := do
  skipBlanks
  match ← get with
  | [] => throw .truncated
  | char :: _ => return char

def takeDigits : JsonReader Text := do
  let (digits, rest) := (← get).span Char.isDigit
  set rest
  return digits

/-- The rest of a word such as `null`, whose first letter has been taken. -/
def finishWord : Text → JsonReader Unit
  | [] => return
  | wanted :: rest => do
      if (← take) = wanted then finishWord rest else throw .malformed

/-! ## Strings -/

/-- The four hexadecimal digits of a `\u` escape. The text is taken to end inside the
escape if fewer than four bytes of it are left. -/
def takeCodeUnit : JsonReader Nat := do
  let rest ← get
  let digits : Text := rest.take 4
  if digits.byteLength < 4 then throw .truncated
  if digits.length = 4 && digits.all Text.isHexDigit then
    set (rest.drop 4)
    return Text.numberOf 16 digits
  else throw .malformed

def simpleEscape? (char : Char) : Option Char :=
  match char with
  | '"' => some '"'
  | '\\' => some '\\'
  | '/' => some '/'
  | 'b' => some '\x08'
  | 'f' => some '\x0c'
  | 'n' => some '\n'
  | 'r' => some '\r'
  | 't' => some '\t'
  | _ => none

def isLeadingSurrogate (unit : Nat) : Bool :=
  0xD800 ≤ unit && unit ≤ 0xDBFF

def isTrailingSurrogate (unit : Nat) : Bool :=
  0xDC00 ≤ unit && unit ≤ 0xDFFF

/-- The character of a `\u` escape, whose first letter has been taken. A surrogate must
be the first half of a pair. -/
def takeUnicodeEscape : JsonReader Char := do
  let unit ← takeCodeUnit
  if isTrailingSurrogate unit then throw .malformed
  if isLeadingSurrogate unit then
    if (← take) ≠ '\\' then throw .malformed
    if (← take) ≠ 'u' then throw .malformed
    let second ← takeCodeUnit
    if isTrailingSurrogate second then
      return Char.ofNat (0x10000 + (unit - 0xD800) * 0x400 + (second - 0xDC00))
    else throw .malformed
  else return Char.ofNat unit

/-- The character of an escape, whose backslash has been taken. -/
def takeEscape : JsonReader Char := do
  let char ← take
  if char = 'u' then takeUnicodeEscape
  else match simpleEscape? char with
    | some value => return value
    | none => throw .malformed

/-- The rest of a string, whose opening quote has been taken; the characters read so far
come with the latest first. -/
def stringFrom (read : Text) : Nat → JsonReader Text
  | 0 => throw .truncated
  | steps + 1 => do
      let char ← take
      if char = '"' then return read.reverse
      else if char = '\\' then stringFrom ((← takeEscape) :: read) steps
      else if char.toNat < 0x20 then throw .malformed
      else stringFrom (char :: read) steps

/-- A string, whose opening quote has been taken. -/
def finishString : JsonReader Text := do
  stringFrom [] ((← get).length + 1)

/-! ## Numbers -/

/-- A number literal is an integer of at most 64 bits, or a number that no integer field
holds. -/
inductive Numeral where
  | integer (value : Int)
  | other
deriving DecidableEq

/-- Appends digits to a number as long as it has at most 64 bits, and counts the digits
that are left out. -/
def appendDigits (number : Nat) : Text → Nat × Nat
  | [] => (number, 0)
  | digit :: rest =>
      let next := number * 10 + Text.numberOf 10 [digit]
      if Text.fitsUnsigned next then appendDigits next rest else (number, rest.length + 1)

/-- A literal with these digits and this exponent is too large for a double. Only its first
digits count, and the double is rounded before and after it is scaled. -/
def exceedsDouble (whole fraction : Text) (exponent : Int) : Bool :=
  let (number, wholeLeftOut) := appendDigits 0 whole
  let (number, fractionLeftOut) := appendDigits number fraction
  let tens := exponent + wholeLeftOut + fractionLeftOut - fraction.length
  0 ≤ tens && Double.scaled number tens.toNat = .infinite false

/-- At least one digit is due: the text ends too early or has something else. -/
def throwNoDigit {α : Type} : JsonReader α := do
  throw (if (← get).isEmpty then .truncated else .malformed)

/-- The digits of the whole part of a number, which has no leading zeros. -/
def takeWholePart : JsonReader Text := do
  let digits ← takeDigits
  match digits with
  | [] => throwNoDigit
  | '0' :: _ :: _ => throw .malformed
  | _ => return digits

def takeFraction? : JsonReader (Option Text) := do
  if (← peek?) = some '.' then
    advance
    let digits ← takeDigits
    if digits.isEmpty then throwNoDigit else return some digits
  else return none

def takeExponent? : JsonReader (Option Int) := do
  let mark ← peek?
  if mark = some 'e' ∨ mark = some 'E' then
    advance
    let sign ← peek?
    if sign = some '+' ∨ sign = some '-' then advance
    let digits ← takeDigits
    if digits.isEmpty then throwNoDigit
    let magnitude : Int := Text.numberOf 10 digits
    return some (if sign = some '-' then -magnitude else magnitude)
  else return none

/-- A number literal. One that is too large for a double breaks the grammar, and minus
zero is no integer. -/
def takeNumber : JsonReader Numeral := do
  let negative := (← peek?) = some '-'
  if negative then advance
  let whole ← takeWholePart
  let fraction ← takeFraction?
  let exponent ← takeExponent?
  let magnitude := Text.numberOf 10 whole
  if fraction.isNone ∧ exponent.isNone then
    if ¬ negative ∧ Text.fitsUnsigned magnitude then return .integer magnitude
    if negative ∧ 0 < magnitude ∧ Text.fitsSigned (-magnitude) then return .integer (-magnitude)
  if exceedsDouble whole (fraction.getD []) (exponent.getD 0) then throw .malformed
  return .other

/-! ## Wanted values -/

/-- Refuses the value that follows, which begins with `first`. -/
def refuse {α : Type} (first : Char) : JsonReader α := do
  if first = 'n' then advance; finishWord "ull"; throw .unfit
  else if first = 't' then advance; finishWord "rue"; throw .unfit
  else if first = 'f' then advance; finishWord "alse"; throw .unfit
  else if first = '"' then advance; let _ ← finishString; throw .unfit
  else if first = '-' ∨ first.isDigit then let _ ← takeNumber; throw .unfit
  else if first = '[' ∨ first = '\x7b' then throw .unfit
  else throw .malformed

def integer (lower upper : Int) : JsonReader Int := do
  let first ← peekToken
  if first = '-' ∨ first.isDigit then
    match ← takeNumber with
    | .integer value =>
        if lower ≤ value ∧ value ≤ upper then return value else throw .unfit
    | .other => throw .unfit
  else refuse first

def natural : JsonReader Nat := do
  return (← integer 0 Text.maxUnsigned).toNat

def signed : JsonReader Int :=
  integer Text.minSigned Text.maxSigned

def string : JsonReader Text := do
  let first ← peekToken
  if first = '"' then advance; finishString else refuse first

/-- A string or `null`. -/
def string? : JsonReader (Option Text) := do
  skipBlanks
  if (← peek?) = some 'n' then advance; finishWord "ull"; return none
  else return some (← string)

/-- The elements that follow in an array. Before each element but the first stands a
comma. -/
def elementsFrom {α : Type} (element : JsonReader α) (isFirst : Bool) (read : List α) :
    Nat → JsonReader (List α)
  | 0 => throw .truncated
  | steps + 1 => do
      let token ← peekToken
      if token = ']' then advance; return read.reverse
      else if isFirst then elementsFrom element false ((← element) :: read) steps
      else if token = ',' then
        advance
        if (← peekToken) = ']' then throw .malformed
        elementsFrom element false ((← element) :: read) steps
      else throw .malformed

def array {α : Type} (element : JsonReader α) : JsonReader (List α) := do
  let first ← peekToken
  if first = '[' then
    advance
    elementsFrom element true [] ((← get).length + 1)
  else refuse first

/-- The next element of an array that has one more. -/
def nextElement {α : Type} (element : JsonReader α) : JsonReader α := do
  let token ← peekToken
  if token = ']' then throw .unfit
  else if token = ',' then
    advance
    if (← peekToken) = ']' then throw .malformed
    element
  else throw .malformed

def firstElement {α : Type} (element : JsonReader α) : JsonReader α := do
  if (← peekToken) = ']' then throw .unfit else element

/-- The end of an array that has no more elements. -/
def closeArray : JsonReader Unit := do
  if (← peekToken) = ']' then advance else throw .malformed

/-- The members that follow in an object, each folded into a state. Before each member
but the first stands a comma. The member reader gets the key and reads the colon and the
value. -/
def membersFrom {σ : Type} (member : Text → σ → JsonReader σ) (isFirst : Bool) (state : σ) :
    Nat → JsonReader σ
  | 0 => throw .truncated
  | steps + 1 => do
      let token ← peekToken
      if token = '\x7d' then advance; return state
      if !isFirst then
        if token = ',' then advance else throw .malformed
      if (← peekToken) = '"' then advance else throw .malformed
      let key ← finishString
      membersFrom member false (← member key state) steps

/-- The members of an object, whose opening brace has been taken. -/
def members {σ : Type} (member : Text → σ → JsonReader σ) (start : σ) : JsonReader σ := do
  membersFrom member true start ((← get).length + 1)

def colon : JsonReader Unit := do
  if (← peekToken) = ':' then advance else throw .malformed

/-- The value of a member that may occur once only, given its value so far. -/
def once {α : Type} (known : Option α) (value : JsonReader α) : JsonReader (Option α) := do
  if known.isSome then throw .unfit
  colon
  return some (← value)

/-! ## Unwanted values -/

def skipDigits : JsonReader Unit := do
  if (← takeDigits).isEmpty then throw .malformed

def skipNumber : JsonReader Unit := do
  match ← takeDigits with
  | [] => throw .malformed
  | '0' :: _ :: _ => throw .malformed
  | _ => pure ()
  if (← peek?) = some '.' then advance; skipDigits
  let mark ← peek?
  if mark = some 'e' ∨ mark = some 'E' then
    advance
    let sign ← peek?
    if sign = some '+' ∨ sign = some '-' then advance
    skipDigits

/-- The rest of a string, whose opening quote has been taken. -/
def skipStringFrom : Nat → JsonReader Unit
  | 0 => throw .truncated
  | steps + 1 => do
      let char ← take
      if char = '"' then return
      else if char = '\\' then
        let escaped ← take
        if escaped = 'u' then let _ ← takeCodeUnit
        else if (simpleEscape? escaped).isNone then throw .malformed
        skipStringFrom steps
      else if char.toNat < 0x20 then throw .malformed
      else skipStringFrom steps

/-- A string, whose opening quote has been taken. -/
def skipString : JsonReader Unit := do
  skipStringFrom ((← get).length + 1)

mutual

def skipValueWithin : Nat → JsonReader Unit
  | 0 => throw .truncated
  | steps + 1 => do
      let first ← peekToken
      if first = 'n' then advance; finishWord "ull"
      else if first = 't' then advance; finishWord "rue"
      else if first = 'f' then advance; finishWord "alse"
      else if first = '-' then advance; skipNumber
      else if first.isDigit then skipNumber
      else if first = '"' then advance; skipString
      else if first = '[' then
        advance
        if (← peekToken) = ']' then advance else skipElements steps
      else if first = '\x7b' then
        advance
        if (← peekToken) = '\x7d' then advance else skipMembers steps
      else throw .malformed

/-- Skips one element and what follows it up to the end of its array. -/
def skipElements : Nat → JsonReader Unit
  | 0 => throw .truncated
  | steps + 1 => do
      skipValueWithin steps
      let token ← peekToken
      if token = ',' then advance; skipElements steps
      else if token = ']' then advance
      else throw .malformed

/-- Skips one member and what follows it up to the end of its object. -/
def skipMembers : Nat → JsonReader Unit
  | 0 => throw .truncated
  | steps + 1 => do
      if (← peekToken) = '"' then advance else throw .malformed
      skipString
      colon
      skipValueWithin steps
      let token ← peekToken
      if token = ',' then advance; skipMembers steps
      else if token = '\x7d' then advance
      else throw .malformed

end

def skipValue : JsonReader Unit := do
  skipValueWithin (2 * (← get).length + 2)

/-- Reads a whole text, after whose value only blanks may follow. -/
def readAll {α : Type} (reader : JsonReader α) (text : Text) : Except ReadFailure α := do
  let (value, rest) ← StateT.run (do let value ← reader; skipBlanks; return value) text
  if rest.isEmpty then return value else throw .malformed

end JsonReader

end BraceBalance
