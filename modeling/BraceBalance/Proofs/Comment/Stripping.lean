import BraceBalance.Proofs.Comment.QuoteCount
import BraceBalance.Text.Blank

/-!
# What is stripped of longer lines

A comment that begins in a line begins at the same place when the line goes on: neither the search
for the marker nor the parity of the quotes looks at what follows. Without an occurrence of the
marker nothing is stripped, but one may arise where the line is prolonged.

A blank before a line is no quote and no backslash. Either it begins the marker, and then the whole
line is a comment, or the comment of the line is moved by one place.
-/

namespace BraceBalance

/-- A character that is neither a quote nor a backslash does not change the parities behind it. -/
theorem outsideQuotes_cons {char : Char} (notSingle : char ≠ '\'') (notDouble : char ≠ '"')
    (notBackslash : char ≠ '\\') (before : Text) :
    outsideQuotes (char :: before) = outsideQuotes before := by
  have same {quote : Char} (notMark : quote ≠ '\\') (notQuote : char ≠ quote) :
      unescapedQuotes quote (char :: before) = unescapedQuotes quote before := by
    rw [unescapedQuotes_eq_plainQuotesFrom notMark, unescapedQuotes_eq_plainQuotesFrom notMark]
    simp [plainQuotesFrom, notQuote, notBackslash]
  rw [outsideQuotes, outsideQuotes, same (by decide) notSingle, same (by decide) notDouble]

namespace Text

theorem ne_of_isBlank {char other : Char} (blank : isBlank char) (shown : isBlank other = false) :
    char ≠ other := by
  rintro rfl
  rw [shown] at blank
  contradiction

end Text

namespace CommentDetector

variable {marker line : Text}

theorem strip_of_firstOccurrence? (nonempty : marker ≠ []) {found : Nat}
    (occurs : line.firstOccurrence? marker = some found) :
    (quoteParity marker).strip line =
      if outsideQuotes (line.take found) then line.take found else line := by
  have notEmpty : marker.isEmpty = false := by simpa using nonempty
  have start : (quoteParity marker).start? line =
      if outsideQuotes (line.take found) then some found else none := by
    simp only [quoteParity, quoteParityStart?, notEmpty, Bool.false_eq_true, if_false, occurs,
      Option.filter_some]
  rw [strip, start]
  by_cases outside : outsideQuotes (line.take found)
  · rw [if_pos outside, if_pos outside]
  · rw [if_neg outside, if_neg outside]

theorem strip_of_no_occurrence (absent : line.firstOccurrence? marker = none) :
    (quoteParity marker).strip line = line := by
  have start : (quoteParity marker).start? line = none := by
    simp [quoteParity, quoteParityStart?, absent]
  rw [strip, start]

/-- Behind the marker a line can go on in any way. -/
theorem strip_append (nonempty : marker ≠ []) {found : Nat}
    (occurs : line.firstOccurrence? marker = some found) (more : Text) :
    (quoteParity marker).strip (line ++ more) =
      if outsideQuotes (line.take found) then line.take found else line ++ more := by
  have occursInBoth := Text.firstOccurrence?_append nonempty occurs more
  have within := Text.firstOccurrence?_le_length occurs
  rw [strip_of_firstOccurrence? nonempty occursInBoth, List.take_append_of_le_length within]

/-- A blank begins the comment of its line, or it stands before what is left of the others. -/
theorem strip_cons_of_isBlank {char : Char} (blank : Text.isBlank char) (marker line : Text) :
    (quoteParity marker).strip (char :: line) = [] ∨
      (quoteParity marker).strip (char :: line) = char :: (quoteParity marker).strip line := by
  have parity := outsideQuotes_cons (Text.ne_of_isBlank blank (by decide))
    (Text.ne_of_isBlank blank (by decide)) (Text.ne_of_isBlank blank (by decide))
  by_cases isEmpty : marker = []
  · subst isEmpty
    exact Or.inr rfl
  have search := Text.firstOccurrence?_cons char line marker
  by_cases begins : marker.isPrefixOf (char :: line)
  · rw [if_pos begins] at search
    rw [strip_of_firstOccurrence? isEmpty search]
    exact Or.inl rfl
  · right
    rw [if_neg begins] at search
    cases found : line.firstOccurrence? marker with
    | none =>
        rw [found] at search
        rw [strip_of_no_occurrence search, strip_of_no_occurrence found]
    | some offset =>
        rw [found] at search
        rw [strip_of_firstOccurrence? isEmpty search, strip_of_firstOccurrence? isEmpty found,
          List.take_succ_cons, parity]
        split <;> rfl

/-- Blanks before a line stay before what is left of it, unless nothing is left but some of them. -/
theorem strip_append_of_isBlank {lead : Text} (blank : ∀ char ∈ lead, Text.isBlank char)
    (marker line : Text) :
    (∀ char ∈ (quoteParity marker).strip (lead ++ line), Text.isBlank char) ∨
      (quoteParity marker).strip (lead ++ line) = lead ++ (quoteParity marker).strip line := by
  induction lead with
  | nil => exact Or.inr rfl
  | cons char lead ih =>
      have charBlank := blank char List.mem_cons_self
      rcases strip_cons_of_isBlank charBlank marker (lead ++ line) with isEmpty | moved
      · left
        simp [isEmpty]
      · rw [List.cons_append, moved]
        rcases ih fun other otherMem => blank other (List.mem_cons_of_mem _ otherMem) with
          allBlank | laterMoved
        · left
          simpa [charBlank] using allBlank
        · right
          rw [laterMoved, List.cons_append]

end CommentDetector

end BraceBalance
