import BraceBalance.Proofs.Comment.StringLexer
import BraceBalance.Proofs.Comment.Stripping
import Mathlib.Algebra.Group.Nat.Even

/-!
# The first marker of a line

Quote parity decides on the first place where the marker stands, and on no other. What is left of
a line that had a comment ends before this place, so that the marker does not stand in it at all,
however it overlaps itself. Stripping it again changes nothing. A marker can stand in a stripped
line only if nothing was stripped because the first one counts as part of a literal.
-/

namespace BraceBalance

namespace Text

variable {needle text : Text}

/-- A text stands in another at a place, and at no place before. -/
structure FirstAt (needle text : Text) (offset : Nat) : Prop where
  occurs : needle <+: text.drop offset
  least : ∀ earlier < offset, ¬needle <+: text.drop earlier

theorem firstAt_iff (nonempty : needle ≠ []) {offset : Nat} :
    FirstAt needle text offset ↔ text.firstOccurrence? needle = some offset := by
  rw [firstOccurrence?_eq_some_iff nonempty]
  constructor
  · rintro ⟨occurs, least⟩
    exact ⟨occurs, least⟩
  · rintro ⟨occurs, least⟩
    exact ⟨occurs, least⟩

theorem infix_iff_exists_prefix_drop : needle <:+: text ↔ ∃ offset, needle <+: text.drop offset := by
  constructor
  · rintro ⟨before, after, rfl⟩
    refine ⟨before.length, after, ?_⟩
    simp
  · rintro ⟨offset, occurs⟩
    exact occurs.isInfix.trans (List.drop_suffix offset text).isInfix

theorem not_infix_of_firstOccurrence?_eq_none (nonempty : needle ≠ [])
    (absent : text.firstOccurrence? needle = none) : ¬needle <:+: text := by
  intro isInfix
  rcases infix_iff_exists_prefix_drop.mp isInfix with ⟨offset, occurs⟩
  exact not_prefix_drop_of_firstOccurrence?_eq_none nonempty absent offset occurs

/-- A text does not stand in what comes before its first place, although a part of it may. -/
theorem not_infix_take_of_firstAt (nonempty : needle ≠ []) {offset : Nat}
    (first : FirstAt needle text offset) : ¬needle <:+: text.take offset := by
  intro isInfix
  rcases infix_iff_exists_prefix_drop.mp isInfix with ⟨earlier, occurs⟩
  have within := add_length_le_of_prefix_drop nonempty occurs
  have positive := List.length_pos_iff.mpr nonempty
  have earlier_lt : earlier < offset := by
    rw [List.length_take] at within
    omega
  apply first.least earlier earlier_lt
  apply occurs.trans
  rw [List.drop_take]
  exact List.take_prefix _ _

theorem firstOccurrence?_eq_none_of_not_infix (nonempty : needle ≠ [])
    (absent : ¬needle <:+: text) : text.firstOccurrence? needle = none := by
  cases found : text.firstOccurrence? needle with
  | none => rfl
  | some offset =>
      have first := (firstAt_iff nonempty).mpr found
      exact absurd (infix_iff_exists_prefix_drop.mpr ⟨offset, first.occurs⟩) absent

end Text

/-- Of each kind of quotes an even number stands in the text without a backslash before it. -/
def PairsQuotes (before : Text) : Prop :=
  ∀ kind : QuoteKind, Even (plainQuotesFrom kind.mark false before)

theorem pairsQuotes_iff (before : Text) : PairsQuotes before ↔ outsideQuotes before := by
  have even (kind : QuoteKind) : Even (plainQuotesFrom kind.mark false before) ↔
      unescapedQuotes kind.mark before % 2 = 0 := by
    rw [unescapedQuotes_eq_plainQuotesFrom kind.mark_ne_backslash, Nat.even_iff]
  simp only [PairsQuotes, even, outsideQuotes, Bool.and_eq_true, decide_eq_true_eq]
  constructor
  · intro all
    exact ⟨all .single, all .double⟩
  · rintro ⟨single, double⟩ kind
    cases kind with
    | single => exact single
    | double => exact double

namespace CommentDetector

variable {marker line : Text}

theorem strip_prefix (detector : CommentDetector) (line : Text) :
    detector.strip line <+: line := by
  unfold strip
  split
  · exact List.take_prefix _ _
  · exact List.prefix_refl line

theorem quoteParity_start?_eq_some_iff {offset : Nat} :
    (quoteParity marker).start? line = some offset ↔
      marker ≠ [] ∧ Text.FirstAt marker line offset ∧ PairsQuotes (line.take offset) := by
  by_cases isEmpty : marker = []
  · simp [quoteParity, quoteParityStart?, isEmpty]
  · simp [quoteParity, quoteParityStart?, isEmpty, Option.filter_eq_some_iff,
      Text.firstAt_iff isEmpty, pairsQuotes_iff]

/-- What is left of a line with a comment holds no marker. -/
theorem not_infix_strip_of_start? {offset : Nat}
    (starts : (quoteParity marker).start? line = some offset) :
    ¬marker <:+: (quoteParity marker).strip line := by
  rcases quoteParity_start?_eq_some_iff.mp starts with ⟨nonempty, first, _⟩
  rw [strip, starts]
  exact Text.not_infix_take_of_firstAt nonempty first

theorem strip_of_start?_eq_none {detector : CommentDetector}
    (noComment : detector.start? line = none) : detector.strip line = line := by
  rw [strip, noComment]

theorem strip_of_not_infix (nonempty : marker ≠ []) (absent : ¬marker <:+: line) :
    (quoteParity marker).strip line = line :=
  strip_of_no_occurrence (Text.firstOccurrence?_eq_none_of_not_infix nonempty absent)

theorem strip_strip (marker line : Text) :
    (quoteParity marker).strip ((quoteParity marker).strip line) =
      (quoteParity marker).strip line := by
  cases starts : (quoteParity marker).start? line with
  | none => rw [strip_of_start?_eq_none starts, strip_of_start?_eq_none starts]
  | some offset =>
      have nonempty := (quoteParity_start?_eq_some_iff.mp starts).1
      exact strip_of_not_infix nonempty (not_infix_strip_of_start? starts)

theorem infix_strip_iff (nonempty : marker ≠ []) :
    marker <:+: (quoteParity marker).strip line ↔
      (quoteParity marker).strip line = line ∧
        ∃ offset, Text.FirstAt marker line offset ∧ ¬PairsQuotes (line.take offset) := by
  constructor
  · intro isInfix
    cases starts : (quoteParity marker).start? line with
    | some offset => exact absurd isInfix (not_infix_strip_of_start? starts)
    | none =>
        have whole := strip_of_start?_eq_none starts
        rw [whole] at isInfix
        refine ⟨whole, ?_⟩
        cases found : line.firstOccurrence? marker with
        | none =>
            exact absurd isInfix (Text.not_infix_of_firstOccurrence?_eq_none nonempty found)
        | some offset =>
            have first := (Text.firstAt_iff nonempty).mpr found
            refine ⟨offset, first, ?_⟩
            intro pairs
            have isComment := quoteParity_start?_eq_some_iff.mpr ⟨nonempty, first, pairs⟩
            rw [starts] at isComment
            contradiction
  · rintro ⟨whole, offset, first, _⟩
    rw [whole]
    exact Text.infix_iff_exists_prefix_drop.mpr ⟨offset, first.occurs⟩

/-- A comment begins at the first marker, if the quotes before it pair. Stripping leaves a
beginning of the line, in which no marker is left but one that counts as part of a literal. -/
theorem quoteParity_start?_and_strip (marker line : Text) :
    (∀ offset, (quoteParity marker).start? line = some offset ↔
      marker ≠ [] ∧ Text.FirstAt marker line offset ∧ PairsQuotes (line.take offset)) ∧
    (quoteParity marker).strip line <+: line ∧
    (quoteParity marker).strip ((quoteParity marker).strip line) =
      (quoteParity marker).strip line ∧
    (marker ≠ [] →
      (marker <:+: (quoteParity marker).strip line ↔
        (quoteParity marker).strip line = line ∧
          ∃ offset, Text.FirstAt marker line offset ∧ ¬PairsQuotes (line.take offset))) := by
  refine ⟨?_, ?_, ?_, ?_⟩
  · intro offset
    exact quoteParity_start?_eq_some_iff
  · exact strip_prefix (quoteParity marker) line
  · exact strip_strip marker line
  · exact infix_strip_iff

example : (quoteParity "//").strip "'//' // \"" = "'//' // \"" := by decide

end CommentDetector

end BraceBalance
