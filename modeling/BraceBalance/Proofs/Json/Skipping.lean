import BraceBalance.Proofs.Json.Strings

/-!
# Values that are skipped

A value that nobody wants is skipped exactly to its end, whatever it is and however deep it is.
The induction is on the tree, along with its elements and members. Nested values take two steps
for each of their characters at most, which the length of the text pays for.
-/

namespace BraceBalance

namespace JsonReader

/-! ## Numbers -/

theorem skipDigits_run {digits rest : Text} (areDigits : IsDigits digits)
    (stops : Text.StopsRun Char.isDigit rest) : skipDigits.run (digits ++ rest) = .ok ((), rest) := by
  rw [skipDigits, run_bind_of_run (takeDigits_run areDigits.allDigits stops),
    if_neg (by simpa using areDigits.notEmpty)]
  rfl

theorem skipExponent_run {exponent : Option JsonExponent}
    (written : ∀ parts ∈ exponent, parts.IsWritten) {rest : Text} (ends : EndsNumber rest) :
    StateT.run (do
        let mark ← peek?
        if mark = some 'e' ∨ mark = some 'E' then
          advance
          let sign ← peek?
          if sign = some '+' ∨ sign = some '-' then advance
          skipDigits : JsonReader Unit)
      (JsonNumber.renderExponent exponent ++ rest) = .ok ((), rest) := by
  rcases exponent with _ | ⟨letter, sign, digits⟩
  · have noMark : ¬(rest.head? = some 'e' ∨ rest.head? = some 'E') := by
      rintro (head | head)
      · exact Text.StopsRun.head?_ne ends rfl head
      · exact Text.StopsRun.head?_ne ends rfl head
    change StateT.run _ rest = _
    rw [run_bind_of_run (peek?_run rest), if_neg noMark]
    rfl
  · rcases written _ rfl with ⟨isLetter, isSign, areDigits⟩
    have skipped := skipDigits_run areDigits ends.stopsDigits
    have marked : ((letter :: (sign ++ digits ++ rest) : Text).head? = some 'e' ∨
        (letter :: (sign ++ digits ++ rest) : Text).head? = some 'E') := by
      simpa using isLetter
    change StateT.run _ (letter :: (sign ++ digits ++ rest)) = _
    rw [run_bind_of_run (peek?_run _), if_pos marked, run_bind_of_run (advance_run _ _),
      run_bind_of_run (peek?_run _)]
    dsimp only at isSign
    rcases isSign with rfl | rfl | rfl
    · have noSign : ¬(([] ++ digits ++ rest : Text).head? = some '+' ∨
          ([] ++ digits ++ rest : Text).head? = some '-') := by
        rintro (head | head)
        · exact areDigits.head?_ne rest rfl head
        · exact areDigits.head?_ne rest rfl head
      rw [if_neg noSign]
      exact skipped
    · change StateT.run _ ('+' :: (digits ++ rest)) = _
      rw [if_pos (.inl List.head?_cons), run_bind_of_run (advance_run _ _)]
      exact skipped
    · change StateT.run _ ('-' :: (digits ++ rest)) = _
      rw [if_pos (.inr List.head?_cons), run_bind_of_run (advance_run _ _)]
      exact skipped

theorem skipNumber_run {number : JsonNumber} (written : number.IsWritten) {rest : Text}
    (ends : EndsNumber rest) : skipNumber.run (number.renderMagnitude ++ rest) = .ok ((), rest) := by
  rcases number with ⟨negative, whole, fraction, exponent⟩
  rcases stopsDigits_renderExponent written.exponent ends with ⟨exponentStops, noPoint⟩
  have wholeDigits : ∀ digit ∈ Text.ofNat whole, digit.isDigit :=
    fun digit digitMem => Text.isDigit_of_mem_ofNat digitMem
  have wholeTaken := takeDigits_run wholeDigits
    (stopsDigits_renderFraction fraction exponentStops)
  have exponentSkipped := skipExponent_run written.exponent ends
  rw [JsonNumber.renderMagnitude, List.append_assoc, List.append_assoc, skipNumber,
    run_bind_of_run wholeTaken]
  split
  · rename_i noDigits
    exact absurd noDigits (Text.ofNat_ne_nil whole)
  · rename_i leadingZero
    exact absurd (Text.eq_nil_of_ofNat_eq_zero_cons leadingZero) (by simp)
  · cases fraction with
    | none =>
        dsimp only [JsonNumber.renderFraction, Option.elim_none, List.nil_append]
        rw [run_bind_of_run (peek?_run _), if_neg noPoint]
        exact exponentSkipped
    | some digits =>
        dsimp only [JsonNumber.renderFraction, Option.elim_some, List.cons_append]
        rw [run_bind_of_run (peek?_run _), if_pos List.head?_cons,
          run_bind_of_run (advance_run _ _),
          run_bind_of_run (skipDigits_run (written.fraction digits rfl) exponentStops)]
        exact exponentSkipped

/-! ## What follows on a value -/

theorem endsNumber_isAround {mark : Char} (noNumber : continuesNumber mark = false) {text : Text}
    (around : IsAround mark text) (rest : Text) : EndsNumber (text ++ rest) := by
  rcases around with ⟨before, after, beforeBlank, _, rfl⟩
  rw [List.append_assoc, List.cons_append]
  exact endsNumber_layout_append beforeBlank (Text.stopsRun_cons noNumber _)

theorem endsNumber_elements {trees : List JsonTree} {text : Text}
    (spelled : JsonTree.AreElements false trees text) (rest : Text) : EndsNumber (text ++ rest) := by
  cases trees with
  | nil =>
      rw [JsonTree.AreElements] at spelled
      rcases spelled with ⟨blanks, allBlank, rfl⟩
      rw [List.append_assoc]
      exact endsNumber_layout_append allBlank (Text.stopsRun_cons rfl _)
  | cons tree trees =>
      rw [JsonTree.AreElements] at spelled
      rcases spelled with ⟨separator, element, more, separates, _, _, rfl⟩
      rw [List.append_assoc, List.append_assoc]
      exact endsNumber_isAround rfl separates _

theorem endsNumber_members {members : List (Option Text × JsonTree)} {text : Text}
    (spelled : JsonTree.AreMembers false members text) (rest : Text) :
    EndsNumber (text ++ rest) := by
  rcases members with _ | ⟨⟨key, tree⟩, members⟩
  · rw [JsonTree.AreMembers] at spelled
    rcases spelled with ⟨blanks, allBlank, rfl⟩
    rw [List.append_assoc]
    exact endsNumber_layout_append allBlank (Text.stopsRun_cons rfl _)
  · rw [JsonTree.AreMembers] at spelled
    rcases spelled with ⟨separator, keyText, colon, value, more, separates, _, _, _, _, rfl⟩
    simp only [List.append_assoc]
    exact endsNumber_isAround rfl separates _

theorem skipsBlanks_skipValueWithin (steps : Nat) : SkipsBlanks (skipValueWithin steps) := by
  cases steps with
  | zero => exact fun _ _ _ => rfl
  | succ steps =>
      rw [skipValueWithin]
      exact skipsBlanks_peekToken.bind _

theorem skipsBlanks_skipElements (steps : Nat) : SkipsBlanks (skipElements steps) := by
  cases steps with
  | zero => exact fun _ _ _ => rfl
  | succ steps =>
      rw [skipElements]
      exact (skipsBlanks_skipValueWithin steps).bind _

theorem skipsBlanks_skipMembers (steps : Nat) : SkipsBlanks (skipMembers steps) := by
  cases steps with
  | zero => exact fun _ _ _ => rfl
  | succ steps =>
      rw [skipMembers]
      exact skipsBlanks_peekToken.bind _

theorem colon_run {text : Text} (around : IsAround ':' text) (rest : Text) :
    ∃ blanks, AllLayout blanks ∧ colon.run (text ++ rest) = .ok ((), blanks ++ rest) := by
  rcases around with ⟨before, after, beforeBlank, afterBlank, rfl⟩
  refine ⟨after, afterBlank, ?_⟩
  rw [List.append_assoc, List.cons_append, colon,
    run_bind_of_run (peekToken_run beforeBlank rfl _), if_pos rfl]
  rfl

theorem skipValueWithin_run_number (steps : Nat) {number : JsonNumber}
    (written : number.IsWritten) {rest : Text} (ends : EndsNumber rest) :
    (skipValueWithin (steps + 1)).run (number.render ++ rest) = .ok ((), rest) := by
  have skipped := skipNumber_run written ends
  rw [JsonNumber.render, skipValueWithin]
  cases number.negative with
  | true =>
      change StateT.run _ ('-' :: (number.renderMagnitude ++ rest)) = _
      rw [run_bind_of_run (peekToken_run_cons rfl _)]
      exact skipped
  | false =>
      change StateT.run _ (number.renderMagnitude ++ rest) = _
      rcases Text.exists_ofNat_eq_cons number.whole with ⟨digit, digits, shape, isDigit⟩
      rw [JsonNumber.renderMagnitude, shape, List.cons_append, List.cons_append,
        List.cons_append] at skipped ⊢
      have others : digit ≠ 'n' ∧ digit ≠ 't' ∧ digit ≠ 'f' ∧ digit ≠ '-' := by
        refine ⟨?_, ?_, ?_, ?_⟩ <;> (rintro rfl; exact absurd isDigit (by decide))
      rw [run_bind_of_run (peekToken_run_cons (isLayout_of_isDigit isDigit) _), if_neg others.1,
        if_neg others.2.1, if_neg others.2.2.1, if_neg others.2.2.2, if_pos isDigit]
      exact skipped

/-! ## Trees -/

open JsonTree in
mutual

/-- A value is skipped to its end and no further, however deep it is. -/
theorem skipValueWithin_run : (tree : JsonTree) → {text : Text} → tree.IsSpelled text →
    (steps : Nat) → 2 * text.length ≤ steps → {rest : Text} → EndsNumber rest →
    (skipValueWithin steps).run (text ++ rest) = .ok ((), rest)
  | _, _, spelled, 0, enough, _, _ => by
      rcases spelled.exists_begins with ⟨first, others, rfl, _⟩
      exact absurd enough (by simp)
  | .null, _, spelled, _ + 1, _, _, _ => by
      rw [IsSpelled] at spelled
      subst spelled
      rfl
  | .boolean value, _, spelled, _ + 1, _, _, _ => by
      rw [IsSpelled] at spelled
      subst spelled
      cases value <;> rfl
  | .number _, _, spelled, steps + 1, _, rest, ends => by
      rw [IsSpelled] at spelled
      rcases spelled with ⟨number, written, rfl, rfl⟩
      exact skipValueWithin_run_number steps written ends
  | .string _, _, spelled, _ + 1, _, rest, _ => by
      rw [IsSpelled] at spelled
      rcases spelled with ⟨content, spells, rfl⟩
      rw [skipValueWithin, List.cons_append, run_bind_of_run (peekToken_run_cons rfl _)]
      exact skipString_run spells rest
  | .array elements, _, spelled, steps + 1, enough, rest, _ => by
      rw [IsSpelled] at spelled
      rcases spelled with ⟨content, areElements, rfl⟩
      rw [List.length_cons] at enough
      rw [skipValueWithin, List.cons_append, run_bind_of_run (peekToken_run_cons rfl _)]
      change StateT.run (do if (← peekToken) = ']' then advance else skipElements steps)
        (content ++ rest) = _
      cases elements with
      | nil =>
          rw [AreElements] at areElements
          rcases areElements with ⟨blanks, allBlank, rfl⟩
          rw [List.append_assoc, List.singleton_append,
            run_bind_of_run (peekToken_run allBlank rfl _), if_pos rfl]
          rfl
      | cons tree trees =>
          have skipped := skipElements_run (tree :: trees) areElements (by simp)
            steps (by omega) rest
          rw [AreElements] at areElements
          rcases areElements with ⟨blanks, element, more, allBlank, spelled, _, rfl⟩
          rcases spelled.exists_begins with ⟨first, others, rfl, begins⟩
          rcases begins.isLayout_eq_false with ⟨token, goesOn⟩
          simp only [List.append_assoc, List.cons_append] at skipped ⊢
          rw [run_bind_of_run (peekToken_run allBlank token _), if_neg goesOn]
          exact (skipsBlanks_skipElements steps allBlank _).symm.trans skipped
  | .object members, _, spelled, steps + 1, enough, rest, _ => by
      rw [IsSpelled] at spelled
      rcases spelled with ⟨content, areMembers, rfl⟩
      rw [List.length_cons] at enough
      rw [skipValueWithin, List.cons_append, run_bind_of_run (peekToken_run_cons rfl _)]
      change StateT.run (do if (← peekToken) = '\x7d' then advance else skipMembers steps)
        (content ++ rest) = _
      cases members with
      | nil =>
          rw [AreMembers] at areMembers
          rcases areMembers with ⟨blanks, allBlank, rfl⟩
          rw [List.append_assoc, List.singleton_append,
            run_bind_of_run (peekToken_run allBlank rfl _), if_pos rfl]
          rfl
      | cons member members =>
          have skipped := skipMembers_run (member :: members) areMembers (by simp)
            steps (by omega) rest
          rcases member with ⟨key, tree⟩
          rw [AreMembers] at areMembers
          rcases areMembers with ⟨blanks, keyText, colon, value, more, allBlank, _, _, _, _, rfl⟩
          simp only [List.append_assoc, List.cons_append] at skipped ⊢
          rw [run_bind_of_run (peekToken_run allBlank rfl _), if_neg (by decide)]
          exact (skipsBlanks_skipMembers steps allBlank _).symm.trans skipped

/-- Elements are skipped up to the end of their array. -/
theorem skipElements_run : (elements : List JsonTree) → {text : Text} →
    AreElements true elements text → elements ≠ [] → (steps : Nat) →
    2 * text.length + 1 ≤ steps → (rest : Text) →
    (skipElements steps).run (text ++ rest) = .ok ((), rest)
  | [], _, _, notEmpty, _, _, _ => absurd rfl notEmpty
  | _ :: _, _, _, _, 0, enough, _ => absurd enough (by simp)
  | tree :: trees, _, areElements, _, steps + 1, enough, rest => by
      rw [AreElements] at areElements
      rcases areElements with ⟨blanks, element, more, allBlank, spelled, areMore, rfl⟩
      simp only [List.length_append] at enough
      have skipped := skipValueWithin_run tree spelled steps (by omega)
        (endsNumber_elements areMore rest)
      rw [skipElements, List.append_assoc, List.append_assoc,
        run_bind_of_run ((skipsBlanks_skipValueWithin steps allBlank _).trans skipped)]
      cases trees with
      | nil =>
          rw [AreElements] at areMore
          rcases areMore with ⟨before, beforeBlank, rfl⟩
          rw [List.append_assoc, List.singleton_append,
            run_bind_of_run (peekToken_run beforeBlank rfl _)]
          rfl
      | cons next trees =>
          rw [AreElements] at areMore
          rcases areMore with ⟨_, nextElement, others, around, nextSpelled, areOthers, rfl⟩
          rcases around with ⟨before, after, beforeBlank, afterBlank, rfl⟩
          have areLater : AreElements true (next :: trees) (after ++ nextElement ++ others) :=
            areElements_cons afterBlank nextSpelled areOthers
          simp only [List.length_append, List.length_cons] at enough
          have later := skipElements_run (next :: trees) areLater (by simp) steps
            (by simp only [List.length_append]; omega) rest
          simp only [List.append_assoc, List.cons_append] at later ⊢
          rw [run_bind_of_run (peekToken_run beforeBlank rfl _)]
          exact later

/-- Members are skipped up to the end of their object. -/
theorem skipMembers_run : (members : List (Option Text × JsonTree)) → {text : Text} →
    AreMembers true members text → members ≠ [] → (steps : Nat) →
    2 * text.length + 1 ≤ steps → (rest : Text) →
    (skipMembers steps).run (text ++ rest) = .ok ((), rest)
  | [], _, _, notEmpty, _, _, _ => absurd rfl notEmpty
  | _ :: _, _, _, _, 0, enough, _ => absurd enough (by simp)
  | (key, tree) :: members, _, areMembers, _, steps + 1, enough, rest => by
      rw [AreMembers] at areMembers
      rcases areMembers with
        ⟨blanks, keyText, colonText, value, more, allBlank, spells, around, spelled, areMore, rfl⟩
      simp only [List.length_append, List.length_cons] at enough
      have skipped := skipValueWithin_run tree spelled steps (by omega)
        (endsNumber_members areMore rest)
      rcases colon_run around (value ++ (more ++ rest)) with ⟨gap, gapBlank, colonTaken⟩
      simp only [List.append_assoc, List.cons_append]
      rw [skipMembers, run_bind_of_run (peekToken_run allBlank rfl _), if_pos rfl,
        run_bind_of_run (advance_run _ _), run_bind_of_run (skipString_run spells _),
        run_bind_of_run colonTaken,
        run_bind_of_run ((skipsBlanks_skipValueWithin steps gapBlank _).trans skipped)]
      cases members with
      | nil =>
          rw [AreMembers] at areMore
          rcases areMore with ⟨before, beforeBlank, rfl⟩
          rw [List.append_assoc, List.singleton_append,
            run_bind_of_run (peekToken_run beforeBlank rfl _)]
          rfl
      | cons next members =>
          rcases next with ⟨nextKey, nextTree⟩
          rw [AreMembers] at areMore
          rcases areMore with ⟨_, nextText, nextColon, nextValue, others, beforeNext, nextSpells,
            nextAround, nextSpelled, areOthers, rfl⟩
          rcases beforeNext with ⟨before, after, beforeBlank, afterBlank, rfl⟩
          have areLater : AreMembers true ((nextKey, nextTree) :: members)
              (after ++ '"' :: nextText ++ nextColon ++ nextValue ++ others) :=
            areMembers_cons afterBlank nextSpells nextAround nextSpelled areOthers
          simp only [List.length_append, List.length_cons] at enough
          have later := skipMembers_run ((nextKey, nextTree) :: members) areLater (by simp)
            steps (by simp only [List.length_append, List.length_cons]; omega) rest
          simp only [List.append_assoc, List.cons_append] at later ⊢
          rw [run_bind_of_run (peekToken_run beforeBlank rfl _)]
          exact later

end

theorem skipValue_run {blanks : Text} (allBlank : AllLayout blanks) {tree : JsonTree}
    {text : Text} (spelled : tree.IsSpelled text) {rest : Text} (ends : EndsNumber rest) :
    skipValue.run (blanks ++ (text ++ rest)) = .ok ((), rest) := by
  have got : (get : JsonReader Text).run (blanks ++ (text ++ rest)) =
      .ok (blanks ++ (text ++ rest), blanks ++ (text ++ rest)) := rfl
  rw [skipValue, run_bind_of_run got, skipsBlanks_skipValueWithin _ allBlank]
  apply skipValueWithin_run tree spelled _ _ ends
  simp only [List.length_append]
  omega

end JsonReader

end BraceBalance
