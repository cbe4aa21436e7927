import BraceBalance.Proofs.Comment.StringLexer
import BraceBalance.Proofs.Packed.Counting
import Mathlib.Data.List.Induction

/-!
# Quote parity in a single pass

Quote parity makes four searches: for each kind of quotes one for the quote and one for the quote
behind a backslash. All that they tell comes from places. A search for the escaped quote finds every
quote that follows a backslash, and each of them once, so that the difference of the two counts is the
number of quotes that do not.

One more character of a text adds at most one such quote, and whether it does is decided by the
character before. A reader that goes through the text once, and keeps in mind whether the last
character was a backslash and whether it has passed an odd number of quotes of each kind, therefore
comes to the same decision.
-/

namespace BraceBalance

/-! ## Places of quotes -/

/-- A backslash stands just before an offset. Nothing stands before the first. -/
def Text.followsBackslash (text : Text) (offset : Nat) : Bool :=
  0 < offset && text[offset - 1]? = some '\\'

/-- The offsets at which a quote stands that follows a backslash, or that does not. -/
def quoteOffsets (quote : Char) (escaped : Bool) (text : Text) : List Nat :=
  (List.range text.length).filter fun offset =>
    text[offset]? = some quote && text.followsBackslash offset = escaped

namespace Text

theorem followsBackslash_append {text : Text} {offset : Nat} (within : offset ≤ text.length)
    (more : Text) : (text ++ more).followsBackslash offset = text.followsBackslash offset := by
  rcases offset with _ | offset
  · rfl
  · have same : (text ++ more)[offset]? = text[offset]? := List.getElem?_append_left (by omega)
    simp [followsBackslash, same]

theorem followsBackslash_length (text : Text) :
    text.followsBackslash text.length = (text.getLast? = some '\\' : Bool) := by
  rcases text.eq_nil_or_concat with rfl | ⟨before, last, rfl⟩
  · rfl
  · simp [followsBackslash]

end Text

theorem quoteOffsets_append_singleton (quote : Char) (escaped : Bool) (text : Text) (char : Char) :
    quoteOffsets quote escaped (text ++ [char]) =
      quoteOffsets quote escaped text ++
        if char = quote ∧ (text.getLast? = some '\\' : Bool) = escaped then [text.length] else [] := by
  have earlier :
      (List.range text.length).filter (fun offset =>
        (text ++ [char])[offset]? = some quote
          && (text ++ [char]).followsBackslash offset = escaped) = quoteOffsets quote escaped text := by
    apply List.filter_congr
    intro offset offsetMem
    rw [List.mem_range] at offsetMem
    rw [List.getElem?_append_left offsetMem, Text.followsBackslash_append (Nat.le_of_lt offsetMem)]
  rw [quoteOffsets, List.length_append, List.length_singleton, List.range_succ, List.filter_append,
    earlier, List.filter_singleton, Text.followsBackslash_append (Nat.le_refl _),
    Text.followsBackslash_length, List.getElem?_concat_length]
  simp

/-- Every quote follows a backslash or does not. -/
theorem length_quoteOffsets_add (quote : Char) (text : Text) :
    (quoteOffsets quote true text).length + (quoteOffsets quote false text).length =
      text.count quote := by
  induction text using List.reverseRecOn with
  | nil => rfl
  | append_singleton text char ih =>
      rw [quoteOffsets_append_singleton, quoteOffsets_append_singleton, List.count_append, ← ih]
      by_cases isQuote : char = quote
      · by_cases escaped : text.getLast? = some '\\'
        · simp [isQuote, escaped]
          omega
        · simp [isQuote, escaped]
          omega
      · simp [isQuote]

/-! ## One more character -/

theorem plainQuotesFrom_append_singleton (quote : Char) (afterBackslash : Bool) (text : Text)
    (char : Char) :
    plainQuotesFrom quote afterBackslash (text ++ [char]) =
      plainQuotesFrom quote afterBackslash text +
        (char = quote && !text.getLast?.elim afterBackslash (· = '\\')).toNat := by
  induction text generalizing afterBackslash with
  | nil =>
      by_cases isQuote : char = quote
      · cases afterBackslash <;> simp [plainQuotesFrom, isQuote]
      · simp [plainQuotesFrom, isQuote]
  | cons first text ih =>
      have last : (first :: text).getLast?.elim afterBackslash (fun char => decide (char = '\\')) =
          text.getLast?.elim (decide (first = '\\')) (fun char => decide (char = '\\')) := by
        rw [List.getLast?_cons]
        cases text.getLast? <;> rfl
      rw [List.cons_append, plainQuotesFrom, plainQuotesFrom, ih, last, Nat.add_assoc]

/-- One more character is one more quote without a backslash before it, or none. -/
theorem unescapedQuotes_append_singleton {quote : Char} (notBackslash : quote ≠ '\\') (text : Text)
    (char : Char) :
    unescapedQuotes quote (text ++ [char]) =
      unescapedQuotes quote text + (char = quote && text.getLast? ≠ some '\\').toNat := by
  have last : text.getLast?.elim false (fun char => decide (char = '\\')) =
      (text.getLast? = some '\\' : Bool) := by
    cases text.getLast? <;> simp
  rw [unescapedQuotes_eq_plainQuotesFrom notBackslash,
    unescapedQuotes_eq_plainQuotesFrom notBackslash, plainQuotesFrom_append_singleton, last,
    decide_not]

theorem unescapedQuotes_eq_length {quote : Char} (notBackslash : quote ≠ '\\') (text : Text) :
    unescapedQuotes quote text = (quoteOffsets quote false text).length := by
  induction text using List.reverseRecOn with
  | nil => rfl
  | append_singleton text char ih =>
      rw [unescapedQuotes_append_singleton notBackslash, ih, quoteOffsets_append_singleton]
      by_cases isQuote : char = quote
      · by_cases escaped : text.getLast? = some '\\'
        · simp [isQuote, escaped]
        · simp [isQuote, escaped]
      · simp [isQuote]

/-- The search for the escaped quote overlooks none of them and counts none of them twice. -/
theorem countOccurrences_escaped {quote : Char} (notBackslash : quote ≠ '\\') (text : Text) :
    text.countOccurrences ['\\', quote] = (quoteOffsets quote true text).length := by
  have quotes := length_quoteOffsets_add quote text
  rw [count_quote_eq_add notBackslash, ← unescapedQuotes_eq_plainQuotesFrom notBackslash,
    unescapedQuotes_eq_length notBackslash] at quotes
  exact (Nat.add_right_cancel quotes).symm

/-! ## The reader -/

/-- What a reader keeps in mind: whether the last character was a backslash, and for each kind
of quotes whether it has passed an odd number that do not follow a backslash. -/
structure ParityReader where
  afterBackslash : Bool
  oddSingle : Bool
  oddDouble : Bool
deriving DecidableEq

namespace ParityReader

def start : ParityReader := ⟨false, false, false⟩

def isOdd (reader : ParityReader) : QuoteKind → Bool
  | .single => reader.oddSingle
  | .double => reader.oddDouble

def step (reader : ParityReader) (char : Char) : ParityReader where
  afterBackslash := char = '\\'
  oddSingle := reader.oddSingle ^^ (char = '\'' && !reader.afterBackslash)
  oddDouble := reader.oddDouble ^^ (char = '"' && !reader.afterBackslash)

def read (text : Text) : ParityReader :=
  text.foldl step start

def isOutside (reader : ParityReader) : Bool :=
  !reader.oddSingle && !reader.oddDouble

theorem isOdd_step (reader : ParityReader) (char : Char) (kind : QuoteKind) :
    (reader.step char).isOdd kind =
      (reader.isOdd kind ^^ (char = kind.mark && !reader.afterBackslash)) := by
  cases kind <;> rfl

theorem odd_add_toNat (count : Nat) (more : Bool) :
    ((count + more.toNat) % 2 = 1 : Bool) = ((count % 2 = 1 : Bool) ^^ more) := by
  cases more
  · simp
  · have switched : (count + 1) % 2 = 1 ↔ ¬count % 2 = 1 := by omega
    rw [Bool.toNat_true, decide_eq_decide.mpr switched, decide_not, Bool.xor_true]

/-- The reader has read a text. -/
structure HasRead (reader : ParityReader) (text : Text) : Prop where
  afterBackslash : reader.afterBackslash = (text.getLast? = some '\\' : Bool)
  isOdd : ∀ kind, reader.isOdd kind = (unescapedQuotes kind.mark text % 2 = 1 : Bool)

theorem hasRead_start : start.HasRead [] where
  afterBackslash := rfl
  isOdd kind := by cases kind <;> rfl

theorem HasRead.step {reader : ParityReader} {text : Text} (hasRead : reader.HasRead text)
    (char : Char) : (reader.step char).HasRead (text ++ [char]) where
  afterBackslash := by simp [ParityReader.step]
  isOdd kind := by
    rw [isOdd_step, hasRead.isOdd, hasRead.afterBackslash,
      unescapedQuotes_append_singleton kind.mark_ne_backslash]
    rw [odd_add_toNat, decide_not]

theorem hasRead_read (text : Text) : (read text).HasRead text := by
  induction text using List.reverseRecOn with
  | nil => exact hasRead_start
  | append_singleton text char ih =>
      rw [read, List.foldl_append]
      exact ih.step char

/-- The reader comes to the same decision as the four searches. -/
theorem outsideQuotes_eq_isOutside (text : Text) : outsideQuotes text = (read text).isOutside := by
  have single : (read text).oddSingle = (unescapedQuotes '\'' text % 2 = 1 : Bool) :=
    (hasRead_read text).isOdd .single
  have double : (read text).oddDouble = (unescapedQuotes '"' text % 2 = 1 : Bool) :=
    (hasRead_read text).isOdd .double
  rw [outsideQuotes, isOutside, single, double, ← decide_not, ← decide_not]
  simp only [Nat.mod_two_ne_one]

/-- The second of two backslashes is taken for one that escapes. -/
example : outsideQuotes "p = \"\\\\\"; " = false := by decide

end ParityReader

/-- The two counts that are subtracted are counts of places, of which the second are among the first.
What is left are the quotes that do not follow a backslash, and a single pass over the text finds
their parities. On the bytes of a text nothing traps. -/
theorem outsideQuotes_eq_singlePass (text : Text) :
    (∀ kind : QuoteKind,
      text.countOccurrences [kind.mark] =
        (quoteOffsets kind.mark true text).length + (quoteOffsets kind.mark false text).length ∧
      text.countOccurrences ['\\', kind.mark] = (quoteOffsets kind.mark true text).length ∧
      text.countOccurrences ['\\', kind.mark] ≤ text.countOccurrences [kind.mark] ∧
      unescapedQuotes kind.mark text = (quoteOffsets kind.mark false text).length) ∧
    outsideQuotes text = (ParityReader.read text).isOutside ∧
    (Text.fitsUnsigned text.length →
      (∀ kind : QuoteKind, ∃ count,
        Packed.unescapedQuotes kind.mark (Packed.ofText text) = .ok count ∧
          count.toNat = (quoteOffsets kind.mark false text).length) ∧
      Packed.outsideQuotes (Packed.ofText text) = .ok (ParityReader.read text).isOutside) := by
  have unescaped (kind : QuoteKind) := unescapedQuotes_eq_length kind.mark_ne_backslash text
  have sameDecision := ParityReader.outsideQuotes_eq_isOutside text
  refine ⟨?_, sameDecision, ?_⟩
  · intro kind
    have quotes : text.countOccurrences [kind.mark] =
        (quoteOffsets kind.mark true text).length + (quoteOffsets kind.mark false text).length := by
      rw [Text.countOccurrences_singleton, length_quoteOffsets_add]
    have escaped := countOccurrences_escaped kind.mark_ne_backslash text
    refine ⟨quotes, escaped, ?_, unescaped kind⟩
    omega
  · intro fits
    refine ⟨?_, ?_⟩
    · intro kind
      have countFits := Word.fitsUnsigned_of_le_fitting fits
        (Packed.unescapedQuotes_le_length kind.mark text)
      refine ⟨_, Packed.unescapedQuotes_ofText kind.mark_ne_backslash fits, ?_⟩
      rw [Word.toNat_ofNat countFits, unescaped]
    · rw [Packed.outsideQuotes_ofText fits, sameDecision]

/-- A quote behind two backslashes, which counts as escaped, and quotes of both kinds side by side. -/
theorem outsideQuotes_eq_singlePass_sideBySide :
    let text : Text := "é\\\\'\"\\'\"'"
    Text.fitsUnsigned text.length ∧
      quoteOffsets '\'' true text = [3, 6] ∧ quoteOffsets '\'' false text = [8] ∧
      quoteOffsets '"' false text = [4, 7] ∧
      (∃ count, Packed.unescapedQuotes '"' (Packed.ofText text) = .ok count ∧ count.toNat = 2) ∧
      Packed.outsideQuotes (Packed.ofText text) = .ok false := by
  intro text
  have fits : Text.fitsUnsigned text.length := by decide
  rcases (outsideQuotes_eq_singlePass text).2.2 fits with ⟨counted, decided⟩
  refine ⟨fits, by decide, by decide, by decide, counted .double, ?_⟩
  exact decided

end BraceBalance
