import BraceBalance.Text.Occurrence
import Mathlib.Data.List.Infix
import Mathlib.Data.Nat.Find

/-!
# What a search finds

The search for a text in another returns the least offset at which it occurs, whatever
overlaps there are, and the two counts that quote parity is made of are counts of places.
A single character is counted wherever it stands. A pair of different characters cannot
overlap itself, so the search from left to right misses no place where the pair stands.
-/

namespace BraceBalance

namespace Text

theorem firstOccurrenceFrom?_eq_some_iff {needle : Text} (nonempty : needle ≠ [])
    {offset found : Nat} {text : Text} :
    firstOccurrenceFrom? needle offset text = some found ↔
      ∃ distance, found = offset + distance ∧ needle <+: text.drop distance ∧
        ∀ earlier < distance, ¬needle <+: text.drop earlier := by
  induction text generalizing offset with
  | nil =>
      simp [firstOccurrenceFrom?, nonempty]
  | cons char rest ih =>
      simp only [firstOccurrenceFrom?, List.isPrefixOf_iff_prefix]
      split
      · rename_i here
        constructor
        · intro same
          refine ⟨0, (Option.some.inj same).symm, here, ?_⟩
          intro earlier impossible
          omega
        · rintro ⟨distance, rfl, _, least⟩
          rcases distance with _ | distance
          · rfl
          · exact absurd here (least 0 (by omega))
      · rename_i notHere
        rw [ih]
        constructor
        · rintro ⟨distance, rfl, occurs, least⟩
          refine ⟨distance + 1, by omega, occurs, ?_⟩
          intro earlier earlier_lt
          rcases earlier with _ | earlier
          · exact notHere
          · exact least earlier (by omega)
        · rintro ⟨distance, rfl, occurs, least⟩
          rcases distance with _ | distance
          · exact absurd occurs notHere
          · refine ⟨distance, by omega, occurs, ?_⟩
            intro earlier earlier_lt
            exact least (earlier + 1) (by omega)

/-- The search finds the least offset at which a text occurs. -/
theorem firstOccurrence?_eq_some_iff {text needle : Text} (nonempty : needle ≠ [])
    {found : Nat} :
    text.firstOccurrence? needle = some found ↔
      needle <+: text.drop found ∧ ∀ earlier < found, ¬needle <+: text.drop earlier := by
  rw [firstOccurrence?, firstOccurrenceFrom?_eq_some_iff nonempty]
  constructor
  · rintro ⟨distance, rfl, occurs, least⟩
    simpa using ⟨occurs, least⟩
  · rintro ⟨occurs, least⟩
    exact ⟨found, by omega, occurs, least⟩

/-- A search that finds nothing has overlooked nothing. -/
theorem not_prefix_drop_of_firstOccurrence?_eq_none {text needle : Text} (nonempty : needle ≠ [])
    (absent : text.firstOccurrence? needle = none) (offset : Nat) : ¬needle <+: text.drop offset := by
  classical
  intro occurs
  have somewhere : ∃ offset, needle <+: text.drop offset := ⟨offset, occurs⟩
  have found : text.firstOccurrence? needle = some (Nat.find somewhere) := by
    rw [firstOccurrence?_eq_some_iff nonempty]
    exact ⟨Nat.find_spec somewhere, fun _ earlier_lt => Nat.find_min somewhere earlier_lt⟩
  rw [absent] at found
  contradiction

theorem firstOccurrenceFrom?_offset (needle : Text) (offset : Nat) (text : Text) :
    firstOccurrenceFrom? needle (offset + 1) text =
      (firstOccurrenceFrom? needle offset text).map (· + 1) := by
  induction text generalizing offset with
  | nil =>
      simp only [firstOccurrenceFrom?]
      split <;> rfl
  | cons char rest ih =>
      simp only [firstOccurrenceFrom?]
      split
      · rfl
      · exact ih (offset + 1)

theorem firstOccurrence?_cons (char : Char) (rest needle : Text) :
    firstOccurrence? (char :: rest) needle =
      if needle.isPrefixOf (char :: rest) then some 0
      else (rest.firstOccurrence? needle).map (· + 1) := by
  rw [firstOccurrence?, firstOccurrenceFrom?, firstOccurrenceFrom?_offset]
  rfl

theorem add_length_le_of_prefix_drop {text needle : Text} {offset : Nat} (nonempty : needle ≠ [])
    (occurs : needle <+: text.drop offset) : offset + needle.length ≤ text.length := by
  have positive := List.length_pos_iff.mpr nonempty
  have within := occurs.length_le
  rw [List.length_drop] at within
  omega

/-- An occurrence that ends before the end of a text is one in this text, whatever follows. -/
theorem prefix_drop_of_append {text needle more : Text} {offset : Nat}
    (within : offset + needle.length ≤ text.length) (occurs : needle <+: (text ++ more).drop offset) :
    needle <+: text.drop offset := by
  have short : needle.length ≤ (text.drop offset).length := by
    rw [List.length_drop]
    omega
  rw [List.drop_append_of_le_length (by omega)] at occurs
  exact List.prefix_of_prefix_length_le occurs (List.prefix_append _ _) short

/-- What follows an occurrence does not hide it, and is no part of an earlier one: that would end
before the first one does. -/
theorem firstOccurrence?_append {text needle : Text} (nonempty : needle ≠ []) {found : Nat}
    (occurs : text.firstOccurrence? needle = some found) (more : Text) :
    (text ++ more).firstOccurrence? needle = some found := by
  rw [firstOccurrence?_eq_some_iff nonempty] at occurs ⊢
  rcases occurs with ⟨here, least⟩
  have within := add_length_le_of_prefix_drop nonempty here
  refine ⟨?_, ?_⟩
  · rw [List.drop_append_of_le_length (by omega)]
    exact here.trans (List.prefix_append _ _)
  · intro earlier earlier_lt occursEarlier
    exact least earlier earlier_lt (prefix_drop_of_append (by omega) occursEarlier)

theorem countOccurrencesFrom_count (needle : Text) (covered count : Nat) (text : Text) :
    countOccurrencesFrom needle covered count text =
      count + countOccurrencesFrom needle covered 0 text := by
  induction text generalizing covered count with
  | nil => simp [countOccurrencesFrom]
  | cons char rest ih =>
      rcases covered with _ | covered
      · simp only [countOccurrencesFrom]
        split
        · rw [ih _ (count + 1), ih _ (0 + 1)]
          omega
        · exact ih 0 count
      · simp only [countOccurrencesFrom]
        exact ih covered count

theorem countOccurrences_singleton (text : Text) (char : Char) :
    text.countOccurrences [char] = text.count char := by
  induction text with
  | nil => rfl
  | cons first rest ih =>
      simp only [countOccurrences] at ih
      by_cases same : char = first
      · subst same
        simp only [countOccurrences, countOccurrencesFrom, List.isPrefixOf_cons_cons, BEq.rfl,
          List.isPrefixOf_nil_left, Bool.and_self, if_true, List.length_singleton, Nat.sub_self,
          List.count_cons_self]
        rw [countOccurrencesFrom_count, ih]
        omega
      · have different : (char == first) = false := by simpa using same
        simp only [countOccurrences, countOccurrencesFrom, List.isPrefixOf_cons_cons, different,
          Bool.false_and, Bool.false_eq_true, if_false, ih]
        rw [List.count_cons_of_ne (Ne.symm same)]

/-- A pair of different characters is counted at every place where it stands: if it stands
at the beginning, its second character does not begin another. -/
theorem countOccurrences_pair_cons {first second : Char} (different : first ≠ second)
    (char : Char) (rest : Text) :
    countOccurrences (char :: rest) [first, second] =
      rest.countOccurrences [first, second] +
        if char = first ∧ rest.head? = some second then 1 else 0 := by
  have atBeginning :
      List.isPrefixOf [first, second] (char :: rest) = true ↔
        char = first ∧ rest.head? = some second := by
    rcases rest with _ | ⟨next, tail⟩
    · simp
    · simp only [List.isPrefixOf_cons_cons, List.isPrefixOf_nil_left, Bool.and_true,
        Bool.and_eq_true, beq_iff_eq, List.head?_cons, Option.some.injEq]
      exact and_congr eq_comm eq_comm
  by_cases here : char = first ∧ rest.head? = some second
  · rcases here with ⟨rfl, headIs⟩
    rcases rest with _ | ⟨next, tail⟩
    · simp at headIs
    · have same : next = second := by simpa using headIs
      subst same
      have notAgain : (char == next) = false := by simpa using different
      simp only [countOccurrences, countOccurrencesFrom, List.isPrefixOf_cons_cons, BEq.rfl,
        List.isPrefixOf_nil_left, notAgain, Bool.and_self, Bool.false_and, Bool.false_eq_true,
        if_true, if_false, List.length_cons, List.length_nil, Nat.zero_add,
        Nat.add_one_sub_one, List.head?_cons, and_self]
      rw [countOccurrencesFrom_count]
      omega
  · simp only [countOccurrences, countOccurrencesFrom, atBeginning, here, if_false, Nat.add_zero]

end Text

end BraceBalance
