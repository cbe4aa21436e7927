import BraceBalance.Balance
import BraceBalance.Proofs.Comment.QuoteCount
import BraceBalance.Proofs.Packed.Lines
import BraceBalance.Proofs.Packed.Search

/-!
# What a packed line counts

On the bytes of a line, the search for its comment comes to the same place as on the characters:
what it cuts off begins where a character begins, and the quotes before it are counted alike. No
step traps if the length of the line in bytes fits into a word. In particular no more escaped quotes
than quotes are found, for each escaped quote is a quote.
-/

namespace BraceBalance

namespace Packed

theorem length_ofText (text : Text) : (ofText text).length = text.toBytes.size := by
  rw [← data_toBytes, Array.length_toList]
  rfl

theorem length_le_length_ofText (text : Text) : text.length ≤ (ofText text).length := by
  rw [length_ofText]
  exact Text.length_le_size_toBytes text

/-! ## Comments -/

/-- Every escaped quote is a quote, so that the difference of the two counts is a number. -/
theorem unescapedQuotes_ofText {quote : Char} (notBackslash : quote ≠ '\\') {text : Text}
    (fits : Text.fitsUnsigned text.length) :
    unescapedQuotes quote (ofText text) = .ok (.ofNat (BraceBalance.unescapedQuotes quote text)) := by
  have quotesFit : Text.fitsUnsigned (text.countOccurrences [quote]) := by
    apply Word.fitsUnsigned_of_le_fitting fits
    rw [Text.countOccurrences_singleton]
    exact List.count_le_length
  have noMore : text.countOccurrences ['\\', quote] ≤ text.countOccurrences [quote] := by
    rw [Text.countOccurrences_singleton, count_quote_eq_add notBackslash]
    exact Nat.le_add_right _ _
  have escapedFit := Word.fitsUnsigned_of_le_fitting quotesFit noMore
  rw [unescapedQuotes, countMatches_ofText (by simp), countMatches_ofText (by simp),
    Word.ofNat?_eq_ok quotesFit, Word.ofNat?_eq_ok escapedFit]
  exact Word.sub_ofNat quotesFit noMore

theorem unescapedQuotes_le_length (quote : Char) (text : Text) :
    BraceBalance.unescapedQuotes quote text ≤ text.length := by
  rw [BraceBalance.unescapedQuotes, Text.countOccurrences_singleton]
  exact Nat.le_trans (Nat.sub_le _ _) List.count_le_length

theorem outsideQuotes_ofText {text : Text} (fits : Text.fitsUnsigned text.length) :
    outsideQuotes (ofText text) = .ok (BraceBalance.outsideQuotes text) := by
  have singleFits := Word.fitsUnsigned_of_le_fitting fits (unescapedQuotes_le_length '\'' text)
  have doubleFits := Word.fitsUnsigned_of_le_fitting fits (unescapedQuotes_le_length '"' text)
  rw [outsideQuotes, unescapedQuotes_ofText (by simp) fits, unescapedQuotes_ofText (by simp) fits]
  simp only [bind, Except.bind, pure, Except.pure, BraceBalance.outsideQuotes,
    Word.ofNat_mod_two_eq_zero_iff singleFits, Word.ofNat_mod_two_eq_zero_iff doubleFits]

theorem ofText_isEmpty (text : Text) : (ofText text).isEmpty = text.isEmpty := by
  rw [Bool.eq_iff_iff, List.isEmpty_iff, List.isEmpty_iff, ofText_eq_nil_iff]

theorem length_ofText_take_le (line : Text) (offset : Nat) :
    (ofText (line.take offset)).length ≤ (ofText line).length := by
  have whole := length_ofText_append (line.take offset) (line.drop offset)
  rw [List.take_append_drop] at whole
  omega

theorem cut_ofText_take {line : Text} {offset : Nat}
    (fits : Text.fitsUnsigned (ofText (line.take offset)).length) :
    cut (ofText line) 0 (.ofNat (ofText (line.take offset)).length) =
      .ok (ofText (line.take offset)) := by
  have isCut := @cut_ofText [] (line.take offset) (line.drop offset) 0 _ rfl (Word.toNat_ofNat fits)
  rwa [List.nil_append, List.nil_append, List.take_append_drop] at isCut

/-- The offset of a comment in a line, in bytes. -/
theorem commentStart?_ofText (marker : Text) {line : Text}
    (fits : Text.fitsUnsigned (ofText line).length) :
    commentStart? (ofText marker) (ofText line) =
      .ok ((CommentDetector.quoteParityStart? marker line).map fun offset =>
        .ofNat (ofText (line.take offset)).length) := by
  rw [commentStart?, CommentDetector.quoteParityStart?, ofText_isEmpty]
  by_cases isEmpty : marker.isEmpty
  · rw [if_pos isEmpty, if_pos isEmpty]
    rfl
  have nonempty : marker ≠ [] := by simpa using isEmpty
  rw [if_neg isEmpty, if_neg isEmpty, firstMatch?_ofText nonempty]
  rcases line.firstOccurrence? marker with _ | offset
  · rfl
  have offsetFits := Word.fitsUnsigned_of_le_fitting fits (length_ofText_take_le line offset)
  have outside := outsideQuotes_ofText (Word.fitsUnsigned_of_le_fitting offsetFits
    (length_le_length_ofText (line.take offset)))
  simp only [Option.map_some, bind, Except.bind, Word.ofNat?_eq_ok offsetFits,
    cut_ofText_take offsetFits, outside]
  by_cases isComment : BraceBalance.outsideQuotes (line.take offset)
  · simp [isComment, Option.filter_some, pure, Except.pure]
  · simp [isComment, Option.filter_some, pure, Except.pure]

theorem strip_ofText (marker : Text) {line : Text} (fits : Text.fitsUnsigned (ofText line).length) :
    strip (ofText marker) (ofText line) =
      .ok (ofText ((CommentDetector.quoteParity marker).strip line)) := by
  rw [strip, commentStart?_ofText marker fits]
  simp only [CommentDetector.strip, CommentDetector.quoteParity]
  rcases CommentDetector.quoteParityStart? marker line with _ | offset
  · rfl
  · exact cut_ofText_take
      (Word.fitsUnsigned_of_le_fitting fits (length_ofText_take_le line offset))

/-! ## Braces -/

theorem countBrace_ofNat {opens closes : Nat} (opensFit : Text.fitsUnsigned (opens + 1))
    (closesFit : Text.fitsUnsigned (closes + 1)) (char : Char) :
    countBrace (.ofNat opens, .ofNat closes) char =
      .ok (.ofNat (opens + openBraces [char]), .ofNat (closes + closeBraces [char])) := by
  by_cases isOpen : char = '{'
  · simp [isOpen, countBrace, add_one_ofNat opensFit, openBraces, closeBraces, bind, Except.bind,
      pure, Except.pure]
  · by_cases isClose : char = '}'
    · simp [isClose, countBrace, add_one_ofNat closesFit, openBraces, closeBraces, bind, Except.bind,
        pure, Except.pure]
    · simp [isOpen, isClose, countBrace, openBraces, closeBraces, pure, Except.pure]

theorem foldlM_countBrace {text : Text} {opens closes : Nat}
    (opensFit : Text.fitsUnsigned (opens + text.length))
    (closesFit : Text.fitsUnsigned (closes + text.length)) :
    text.foldlM countBrace (.ofNat opens, .ofNat closes) =
      .ok (.ofNat (opens + openBraces text), .ofNat (closes + closeBraces text)) := by
  induction text generalizing opens closes with
  | nil => rfl
  | cons char text ih =>
      have opened : openBraces (char :: text) = openBraces [char] + openBraces text :=
        @List.count_append _ _ '{' [char] text
      have closed : closeBraces (char :: text) = closeBraces [char] + closeBraces text :=
        @List.count_append _ _ '}' [char] text
      have opensOne : openBraces [char] ≤ 1 := List.count_le_length
      have closesOne : closeBraces [char] ≤ 1 := List.count_le_length
      rw [List.length_cons] at opensFit closesFit
      have here := countBrace_ofNat
        (Word.fitsUnsigned_of_le_fitting opensFit (show opens + 1 ≤ _ by omega))
        (Word.fitsUnsigned_of_le_fitting closesFit (show closes + 1 ≤ _ by omega)) char
      rw [List.foldlM_cons, here, opened, closed, ← Nat.add_assoc, ← Nat.add_assoc]
      apply ih
      · apply Word.fitsUnsigned_of_le_fitting opensFit
        omega
      · apply Word.fitsUnsigned_of_le_fitting closesFit
        omega

theorem countBraces_ofText {text : Text} (fits : Text.fitsUnsigned text.length) :
    countBraces (ofText text) = .ok (.ofNat (openBraces text), .ofNat (closeBraces text)) := by
  have counted := @foldlM_countBrace text 0 0 (by simpa using fits) (by simpa using fits)
  rw [Nat.zero_add, Nat.zero_add] at counted
  rw [countBraces, toText_ofText]
  exact counted

end Packed

end BraceBalance
