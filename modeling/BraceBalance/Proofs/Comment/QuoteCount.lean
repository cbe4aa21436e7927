import BraceBalance.Comment
import BraceBalance.Proofs.Text.Occurrence

/-!
# Counting quotes in one pass

Quote parity subtracts two counts of occurrences that are found by two searches. Their
difference is what one pass over the text counts that remembers only whether the last
character was a backslash.
-/

namespace BraceBalance

/-- The number of places at which a quote stands without a backslash just before it.
`afterBackslash` says that a backslash stands just before the text. -/
def plainQuotesFrom (quote : Char) (afterBackslash : Bool) : Text → Nat
  | [] => 0
  | char :: rest =>
      (if char = quote ∧ !afterBackslash then 1 else 0) +
        plainQuotesFrom quote (char = '\\') rest

/-- Every quote is plain, or ends an escape of the text, or ends an escape that a backslash
before the text begins. -/
theorem count_quote_eq {quote : Char} (notBackslash : quote ≠ '\\') (afterBackslash : Bool)
    (text : Text) :
    text.count quote =
      text.countOccurrences ['\\', quote] + plainQuotesFrom quote afterBackslash text +
        if afterBackslash ∧ text.head? = some quote then 1 else 0 := by
  induction text generalizing afterBackslash with
  | nil => simp [Text.countOccurrences, Text.countOccurrencesFrom, plainQuotesFrom]
  | cons char rest ih =>
      have restCount := ih (char = '\\')
      have pairs := Text.countOccurrences_pair_cons (Ne.symm notBackslash) char rest
      rw [List.count_cons, restCount, pairs]
      simp only [plainQuotesFrom, List.head?_cons, Option.some.injEq, decide_eq_true_eq,
        beq_iff_eq]
      cases afterBackslash
      · simp
        omega
      · simp
        omega

theorem count_quote_eq_add {quote : Char} (notBackslash : quote ≠ '\\') (text : Text) :
    text.count quote =
      text.countOccurrences ['\\', quote] + plainQuotesFrom quote false text := by
  simpa using count_quote_eq notBackslash false text

/-- The difference of the two counts is the number of quotes without a backslash before
them. -/
theorem unescapedQuotes_eq_plainQuotesFrom {quote : Char} (notBackslash : quote ≠ '\\')
    (text : Text) : unescapedQuotes quote text = plainQuotesFrom quote false text := by
  rw [unescapedQuotes, Text.countOccurrences_singleton, count_quote_eq_add notBackslash]
  omega

end BraceBalance
