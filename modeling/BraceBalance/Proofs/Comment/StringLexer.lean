import BraceBalance.Proofs.Comment.QuoteCount

/-!
# Quote parity and a lexer of string literals

`StringLexer` reads string literals the way compilers do: a quote in code opens a literal
of its kind, a backslash in a literal takes the next character as it is, and only a quote of
the same kind closes the literal. Quote parity keeps no such state. It agrees with the lexer
on every line whose text before the first marker is plain for the lexer: no backslash in
code, no escaped backslash in a literal, and no quote of the other kind that stands in a
literal without an escape.

While the lexer reads plain text, it is taking an escape exactly if the last character was a
backslash, and it is in a literal of some kind exactly if it has passed an odd number of
quotes of this kind that no backslash precedes. Every step keeps both facts, also when the
text ends within an escape.
-/

namespace BraceBalance

/-- The kinds of string literals. -/
inductive QuoteKind where
  | single
  | double
deriving DecidableEq

namespace QuoteKind

/-- The quote that opens and closes a literal. -/
def mark : QuoteKind → Char
  | single => '\''
  | double => '"'

def other : QuoteKind → QuoteKind
  | single => double
  | double => single

theorem mark_ne_backslash (kind : QuoteKind) : kind.mark ≠ '\\' := by
  cases kind <;> simp [mark]

theorem eq_or_eq_other (kind present : QuoteKind) : present = kind ∨ present = kind.other := by
  cases kind <;> cases present <;> decide

end QuoteKind

namespace StringLexer

/-- Where the lexer stands. -/
inductive State where
  | code
  /-- In a literal of some kind; `escaping` says that the next character is escaped. -/
  | inside (kind : QuoteKind) (escaping : Bool)
deriving DecidableEq

namespace State

def isEscaping : State → Bool
  | code => false
  | inside _ escaping => escaping

def isInside (kind : QuoteKind) : State → Bool
  | code => false
  | inside present _ => present = kind

theorem eq_code_iff (state : State) :
    state = code ↔ state.isInside .single = false ∧ state.isInside .double = false := by
  rcases state with _ | ⟨_ | _, escaping⟩
  · simp [isInside]
  · simp [isInside]
  · simp [isInside]

end State

def step : State → Char → State
  | .code, char =>
      if char = QuoteKind.single.mark then .inside .single false
      else if char = QuoteKind.double.mark then .inside .double false
      else .code
  | .inside kind true, _ => .inside kind false
  | .inside kind false, char =>
      if char = '\\' then .inside kind true
      else if char = kind.mark then .code
      else .inside kind false

def readFrom (state : State) (text : Text) : State :=
  text.foldl step state

def read (text : Text) : State :=
  readFrom .code text

/-- The character is none on which quote parity and the lexer disagree: a backslash in code,
an escaped backslash, or a quote of the other kind in a literal. -/
def plainAt : State → Char → Bool
  | .code, char => char ≠ '\\'
  | .inside _ true, char => char ≠ '\\'
  | .inside kind false, char => char ≠ kind.other.mark

/-- Every character is plain where the lexer meets it. -/
def plainFrom (state : State) : Text → Bool
  | [] => true
  | char :: rest => plainAt state char && plainFrom (step state char) rest

/-- After a plain character the lexer takes an escape exactly if that was a backslash. -/
theorem isEscaping_step {state : State} {char : Char} (plain : plainAt state char) :
    (step state char).isEscaping = (char = '\\' : Bool) := by
  rcases state with _ | ⟨kind, _ | _⟩
  · have notBackslash : char ≠ '\\' := by simpa [plainAt] using plain
    simp only [step, notBackslash, decide_false]
    split
    · rfl
    · split <;> rfl
  · by_cases backslash : char = '\\'
    · simp [step, State.isEscaping, backslash]
    · simp only [step, backslash, if_false, decide_false]
      split <;> rfl
  · have notBackslash : char ≠ '\\' := by simpa [plainAt] using plain
    simp [step, State.isEscaping, notBackslash]

/-- A plain character changes whether the lexer stands in a literal of a kind exactly if it
is a quote of this kind that no backslash precedes. -/
theorem isInside_step (kind : QuoteKind) {state : State} {char : Char}
    (plain : plainAt state char) :
    ((if char = kind.mark ∧ !state.isEscaping then 1 else 0) + (state.isInside kind).toNat) % 2 =
      ((step state char).isInside kind).toNat := by
  rcases state with _ | ⟨present, _ | _⟩
  · by_cases single : char = QuoteKind.single.mark
    · subst single
      cases kind <;> rfl
    · by_cases double : char = QuoteKind.double.mark
      · subst double
        cases kind <;> rfl
      · have notMark : char ≠ kind.mark := by cases kind <;> assumption
        simp [step, single, double, notMark, State.isInside]
  · have notOther : char ≠ present.other.mark := by simpa [plainAt] using plain
    by_cases mark : char = present.mark
    · subst mark
      have notBackslash := present.mark_ne_backslash
      cases present <;> cases kind <;> rfl
    · have notMark : char ≠ kind.mark := by
        rcases present.eq_or_eq_other kind with rfl | rfl
        · exact mark
        · exact notOther
      have stays :
          (step (.inside present false) char).isInside kind =
            (State.inside present false).isInside kind := by
        simp only [step, mark, if_false]
        split <;> rfl
      rw [stays]
      simp only [notMark, false_and, if_false, Nat.zero_add]
      exact Nat.mod_eq_of_lt (Bool.toNat_lt _)
  · simp only [State.isEscaping, Bool.not_true, Bool.false_eq_true, and_false, if_false,
      Nat.zero_add]
    exact Nat.mod_eq_of_lt (Bool.toNat_lt _)

/-- Over plain text the parity of the quotes that no backslash precedes tells whether the
lexer stands in a literal. The induction keeps the bit of the one-pass count equal to the
escape of the lexer. -/
theorem isInside_readFrom (kind : QuoteKind) {state : State} {text : Text}
    (plain : plainFrom state text) :
    (plainQuotesFrom kind.mark state.isEscaping text + (state.isInside kind).toNat) % 2 =
      ((readFrom state text).isInside kind).toNat := by
  induction text generalizing state with
  | nil =>
      simp only [plainQuotesFrom, readFrom, List.foldl_nil, Nat.zero_add]
      exact Nat.mod_eq_of_lt (Bool.toNat_lt _)
  | cons char rest ih =>
      simp only [plainFrom, Bool.and_eq_true] at plain
      rcases plain with ⟨here, later⟩
      have restParity := ih later
      have stepParity := isInside_step kind here
      rw [isEscaping_step here, ← stepParity] at restParity
      simp only [plainQuotesFrom]
      change _ = ((readFrom (step state char) rest).isInside kind).toNat
      omega

/-- Over plain text, quote parity says that a position is outside of literals exactly if the
lexer stands in code there. -/
theorem outsideQuotes_iff_read_eq_code {before : Text} (plain : plainFrom .code before) :
    outsideQuotes before ↔ read before = .code := by
  have single :
      plainQuotesFrom '\'' false before % 2 = ((read before).isInside .single).toNat :=
    isInside_readFrom .single plain
  have double :
      plainQuotesFrom '"' false before % 2 = ((read before).isInside .double).toNat :=
    isInside_readFrom .double plain
  rw [State.eq_code_iff, outsideQuotes, unescapedQuotes_eq_plainQuotesFrom (by simp),
    unescapedQuotes_eq_plainQuotesFrom (by simp), single, double]
  simp only [Bool.and_eq_true, decide_eq_true_eq, Bool.toNat_eq_zero]

end StringLexer

namespace CommentDetector

/-- Where the text before the first marker is plain, the heuristic takes the marker for a
comment exactly if the lexer stands in code there. -/
theorem quoteParity_start?_eq_of_lexer {marker line : Text} {offset : Nat}
    (nonempty : marker ≠ []) (occurs : marker <+: line.drop offset)
    (first : ∀ earlier < offset, ¬marker <+: line.drop earlier)
    (plain : StringLexer.plainFrom .code (line.take offset)) :
    (quoteParity marker).start? line =
      if StringLexer.read (line.take offset) = .code then some offset else none := by
  have found := (Text.firstOccurrence?_eq_some_iff nonempty).mpr ⟨occurs, first⟩
  have notEmpty : marker.isEmpty = false := by simpa using nonempty
  simp only [quoteParity, quoteParityStart?, notEmpty, Bool.false_eq_true, if_false, found,
    Option.filter_some, StringLexer.outsideQuotes_iff_read_eq_code plain]

/-- A line with an escaped quote in a literal of each kind, whose marker begins a comment, and
a line whose marker stands behind a backslash in an open literal. -/
theorem quoteParity_start?_of_escapes :
    (quoteParity "//").start? "f('\\'', \"\\\"x\"); // \x7b" = some 16 ∧
      (quoteParity "//").start? "u = \"http:\\// \x7b" = none := by
  constructor
  · have inCode := @quoteParity_start?_eq_of_lexer "//" "f('\\'', \"\\\"x\"); // \x7b" 16
      (by simp) (by simp) (by decide) rfl
    rwa [if_pos (by decide)] at inCode
  · have inLiteral := @quoteParity_start?_eq_of_lexer "//" "u = \"http:\\// \x7b" 11
      (by simp) (by simp) (by decide) rfl
    rwa [if_neg (by decide)] at inLiteral

end CommentDetector

end BraceBalance
