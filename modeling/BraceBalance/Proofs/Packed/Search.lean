import BraceBalance.Proofs.Packed.Encoding
import BraceBalance.Proofs.Text.Occurrence

/-!
# Searching bytes and searching characters

A search for the bytes of a text finds it where a search for its characters does. The bytes that
are looked for begin with the first byte of a character, so that no match begins within one, and
between characters the bytes match where the characters do. This holds for texts that overlap
themselves and for characters of any number of bytes.
-/

namespace BraceBalance

namespace Packed

/-- No match begins at a byte that is no first byte of a character. -/
theorem not_isPrefixOf_of_not_isUTF8FirstByte {needle : Text} (nonempty : needle ≠ []) {byte : UInt8}
    (noFirst : ¬byte.IsUTF8FirstByte) (rest : Packed) :
    (ofText needle).isPrefixOf (byte :: rest) = false := by
  rcases exists_ofText_eq_cons nonempty with ⟨first, others, bytes, isFirst⟩
  have different : (first == byte) = false := by
    apply beq_false_of_ne
    rintro rfl
    exact noFirst isFirst
  rw [bytes, List.isPrefixOf_cons_cons, different, Bool.false_and]

theorem isPrefixOf_ofText (needle text : Text) :
    (ofText needle).isPrefixOf (ofText text) = needle.isPrefixOf text := by
  rw [Bool.eq_iff_iff, List.isPrefixOf_iff_prefix, List.isPrefixOf_iff_prefix, ofText_prefix_iff]

/-! ## The first match -/

theorem firstMatch?_append_of_noFirst {needle : Text} (nonempty : needle ≠ []) {bytes : Packed}
    (noneFirst : ∀ byte ∈ bytes, ¬byte.IsUTF8FirstByte) (rest : Packed) :
    firstMatch? (ofText needle) (bytes ++ rest) =
      (firstMatch? (ofText needle) rest).map (· + bytes.length) := by
  induction bytes with
  | nil => simp
  | cons byte bytes ih =>
      have here := noneFirst byte List.mem_cons_self
      have later := ih fun other otherMem => noneFirst other (List.mem_cons_of_mem _ otherMem)
      rw [List.cons_append, firstMatch?, not_isPrefixOf_of_not_isUTF8FirstByte nonempty here,
        if_neg Bool.false_ne_true, later, Option.map_map]
      congr 1

/-- The first match of bytes begins where the first occurrence of the text begins. -/
theorem firstMatch?_ofText {needle : Text} (nonempty : needle ≠ []) (text : Text) :
    firstMatch? (ofText needle) (ofText text) =
      (text.firstOccurrence? needle).map fun offset => (ofText (text.take offset)).length := by
  have fromOffset (offset : Nat) :
      firstMatch? (ofText needle) (ofText text) =
        (Text.firstOccurrenceFrom? needle offset text).map fun found =>
          (ofText (text.take (found - offset))).length := by
    induction text generalizing offset with
    | nil => simp [firstMatch?, Text.firstOccurrenceFrom?, nonempty, ofText_eq_nil_iff]
    | cons char text ih =>
        have atHere := isPrefixOf_ofText needle (char :: text)
        rcases exists_utf8EncodeChar_eq_cons char with ⟨first, others, bytes, -, noneFirst⟩
        rw [ofText_cons, bytes, List.cons_append] at atHere ⊢
        rw [firstMatch?, atHere, Text.firstOccurrenceFrom?]
        by_cases here : needle.isPrefixOf (char :: text)
        · simp [here]
        · rw [if_neg here, if_neg here, firstMatch?_append_of_noFirst nonempty noneFirst,
            ih (offset + 1), Option.map_map, Option.map_map]
          apply Option.map_congr
          intro found occurs
          have bounds := Text.firstOccurrenceFrom?_bounds occurs
          have oneMore : found - offset = found - (offset + 1) + 1 := by omega
          rw [oneMore, List.take_succ_cons, ofText_cons, bytes]
          simp
          omega
  simpa [Text.firstOccurrence?] using fromOffset 0

/-! ## Matches that do not overlap -/

theorem countMatches_append (needle bytes rest : Packed) (covered : Nat) :
    countMatches needle (bytes.length + covered) (bytes ++ rest) =
      countMatches needle covered rest := by
  induction bytes with
  | nil => simp
  | cons byte bytes ih =>
      rw [List.length_cons, Nat.succ_add, List.cons_append, countMatches, ih]

theorem countMatches_append_of_noFirst {needle : Text} (nonempty : needle ≠ []) {bytes : Packed}
    (noneFirst : ∀ byte ∈ bytes, ¬byte.IsUTF8FirstByte) (rest : Packed) :
    countMatches (ofText needle) 0 (bytes ++ rest) = countMatches (ofText needle) 0 rest := by
  induction bytes with
  | nil => rfl
  | cons byte bytes ih =>
      have here := noneFirst byte List.mem_cons_self
      rw [List.cons_append, countMatches, not_isPrefixOf_of_not_isUTF8FirstByte nonempty here,
        if_neg Bool.false_ne_true,
        ih fun other otherMem => noneFirst other (List.mem_cons_of_mem _ otherMem)]

/-- As many matches of bytes are counted as occurrences of the text, however the counted ones cover
what follows them. -/
theorem countMatches_ofText {needle : Text} (nonempty : needle ≠ []) (text : Text) :
    countMatches (ofText needle) 0 (ofText text) = text.countOccurrences needle := by
  have fromCovered (covered : Nat) :
      countMatches (ofText needle) (ofText (text.take covered)).length (ofText text) =
        Text.countOccurrencesFrom needle covered 0 text := by
    induction text generalizing covered with
    | nil => simp [countMatches, Text.countOccurrencesFrom]
    | cons char text ih =>
        rcases covered with _ | covered
        · have atHere := isPrefixOf_ofText needle (char :: text)
          rcases exists_utf8EncodeChar_eq_cons char with ⟨first, others, bytes, -, noneFirst⟩
          rw [ofText_cons, bytes, List.cons_append] at atHere ⊢
          rw [List.take_zero, ofText_nil, List.length_nil, countMatches, atHere,
            Text.countOccurrencesFrom]
          by_cases here : needle.isPrefixOf (char :: text)
          · rcases List.isPrefixOf_iff_prefix.mp here with ⟨after, whole⟩
            rcases needle with _ | ⟨needleChar, needle⟩
            · exact absurd rfl nonempty
            · rw [List.cons_append, List.cons.injEq] at whole
              rcases whole with ⟨rfl, rfl⟩
              have coveredBytes :
                  (ofText (needleChar :: needle)).length - 1 =
                    others.length + (ofText ((needle ++ after).take needle.length)).length := by
                rw [ofText_cons, bytes, List.take_left]
                simp
              rw [if_pos here, if_pos here, coveredBytes, countMatches_append, ih,
                Text.countOccurrencesFrom_count _ _ (0 + 1)]
              simp only [List.length_cons, Nat.add_one_sub_one]
              omega
          · rw [if_neg here, if_neg here, countMatches_append_of_noFirst nonempty noneFirst]
            exact ih 0
        · rw [List.take_succ_cons, ofText_cons, List.length_append, ofText_cons,
            countMatches_append, ih]
          rfl
  exact fromCovered 0

end Packed

end BraceBalance
