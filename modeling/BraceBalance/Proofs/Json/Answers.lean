import BraceBalance.Proofs.Json.Grammar

/-!
# What JSON readers answer

A reader that takes a value off the front of a text looks at nothing but the tree that the value
spells: `Decodes reader decode` says that the reader answers `decode tree` whatever the spelling
of the tree, whatever blanks it has inside, and whatever follows it, and that it fails exactly if
there is no such answer. In any case the reader stops at the end of the value, so that readers of
arrays and objects decode the list of their parts. The induction is on the list.
-/

namespace BraceBalance

namespace JsonReader

/-- What a reader takes off the front of a text and the rest, unless it fails. -/
def answer? {α : Type} (reader : JsonReader α) (text : Text) : Option (α × Text) :=
  (reader.run text).toOption

section

variable {α β : Type} {first : JsonReader α} {text rest : Text}

theorem answer?_bind (first : JsonReader α) (next : α → JsonReader β) (text : Text) :
    answer? (first >>= next) text =
      (answer? first text).bind fun taken => answer? (next taken.1) taken.2 := by
  rw [answer?, answer?, StateT.run_bind]
  cases first.run text with
  | error failure => rfl
  | ok taken => rfl

theorem answer?_bind_of_run {value : α} (run : first.run text = .ok (value, rest))
    (next : α → JsonReader β) : answer? (first >>= next) text = answer? (next value) rest := by
  rw [answer?, run_bind_of_run run]
  rfl

theorem answer?_pure (value : α) (text : Text) :
    answer? (pure value : JsonReader α) text = some (value, text) :=
  rfl

theorem answer?_bind_throw (first : JsonReader β) (failure : ReadFailure) (text : Text) :
    answer? (first >>= fun _ => (throw failure : JsonReader α)) text = none := by
  rw [answer?_bind]
  cases answer? first text <;> rfl

end

/-- A value that is not wanted is refused, whatever it is. -/
theorem answer?_refuse {α : Type} (first : Char) (text : Text) :
    answer? (refuse first : JsonReader α) text = none := by
  have advanced (word : Text) : answer? (do advance; finishWord word; throw .unfit :
      JsonReader α) text = none := by
    rw [answer?_bind]
    exact answer?_bind_throw _ _ _
  rw [refuse]
  split
  · exact advanced _
  split
  · exact advanced _
  split
  · exact advanced _
  split
  · rw [answer?_bind]
    exact answer?_bind_throw _ _ _
  split
  · exact answer?_bind_throw _ _ _
  split
  · rfl
  · rfl

/-- The reader takes the text and gives the answer, or fails if there is none. -/
def Answers {α : Type} (reader : JsonReader α) (text : Text) (answer : Option α) : Prop :=
  ∀ rest, EndsNumber rest →
    answer? reader (text ++ rest) = answer.map fun value => (value, rest)

/-- Whatever text spells a tree, the reader answers what the tree is decoded to. -/
def Decodes {α : Type} (reader : JsonReader α) (decode : JsonTree → Option α) : Prop :=
  ∀ ⦃tree : JsonTree⦄ ⦃text : Text⦄, tree.IsSpelled text → Answers reader text (decode tree)

theorem Answers.map {α β : Type} {reader : JsonReader α} {text : Text} {answer : Option α}
    (answers : Answers reader text answer) (put : α → β) :
    Answers (do return put (← reader)) text (answer.map put) := by
  intro rest ends
  rw [answer?_bind, answers rest ends]
  cases answer <;> rfl

/-- A token is looked at before a value is read. -/
theorem answer?_peekToken_bind {α : Type} {first : Char} (token : isLayout first = false)
    (next : Char → JsonReader α) (rest : Text) :
    answer? (peekToken >>= next) (first :: rest) = answer? (next first) (first :: rest) :=
  answer?_bind_of_run (peekToken_run_cons token rest) next

/-! ## Numbers -/

theorem takeFraction?_run_render {fraction : Option Text}
    (written : ∀ digits ∈ fraction, IsDigits digits) {rest : Text}
    (noDigit : Text.StopsRun Char.isDigit rest) (noPoint : rest.head? ≠ some '.') :
    takeFraction?.run (JsonNumber.renderFraction fraction ++ rest) = .ok (fraction, rest) := by
  cases fraction with
  | none =>
      change takeFraction?.run rest = _
      rw [takeFraction?, run_bind_of_run (peek?_run rest), if_neg noPoint]
      rfl
  | some digits =>
      have areDigits := written digits rfl
      change takeFraction?.run ('.' :: (digits ++ rest)) = _
      rw [takeFraction?, run_bind_of_run (peek?_run _), if_pos List.head?_cons,
        run_bind_of_run (advance_run _ _),
        run_bind_of_run (takeDigits_run areDigits.allDigits noDigit),
        if_neg (by simpa using areDigits.notEmpty)]
      rfl

theorem takeExponent?_run_render {exponent : Option JsonExponent}
    (written : ∀ parts ∈ exponent, parts.IsWritten) {rest : Text} (ends : EndsNumber rest) :
    ∃ value, takeExponent?.run (JsonNumber.renderExponent exponent ++ rest) = .ok (value, rest) ∧
      value.isSome = exponent.isSome := by
  rcases exponent with _ | ⟨letter, sign, digits⟩
  · exact ⟨none, takeExponent?_run ends, rfl⟩
  · rcases written _ rfl with ⟨isLetter, isSign, areDigits⟩
    have taken := takeDigits_run areDigits.allDigits ends.stopsDigits
    have notEmpty : ¬digits.isEmpty = true := by simpa using areDigits.notEmpty
    have marked : ((letter :: (sign ++ digits ++ rest) : Text).head? = some 'e' ∨
        (letter :: (sign ++ digits ++ rest) : Text).head? = some 'E') := by
      simpa using isLetter
    change ∃ value, takeExponent?.run (letter :: (sign ++ digits ++ rest)) = _ ∧ _
    rw [takeExponent?, run_bind_of_run (peek?_run _), if_pos marked,
      run_bind_of_run (advance_run _ _), run_bind_of_run (peek?_run _)]
    dsimp only at isSign
    rcases isSign with rfl | rfl | rfl
    · have noSign : ¬(([] ++ digits ++ rest : Text).head? = some '+' ∨
          ([] ++ digits ++ rest : Text).head? = some '-') := by
        rintro (head | head)
        · exact areDigits.head?_ne rest rfl head
        · exact areDigits.head?_ne rest rfl head
      rw [if_neg noSign]
      dsimp only
      rw [List.nil_append, run_bind_of_run taken, if_neg notEmpty]
      exact ⟨_, rfl, rfl⟩
    · change ∃ value, StateT.run _ ('+' :: (digits ++ rest)) = _ ∧ _
      rw [if_pos (.inl List.head?_cons)]
      dsimp only
      rw [run_bind_of_run (advance_run _ _), run_bind_of_run taken, if_neg notEmpty]
      exact ⟨_, rfl, rfl⟩
    · change ∃ value, StateT.run _ ('-' :: (digits ++ rest)) = _ ∧ _
      rw [if_pos (.inr List.head?_cons)]
      dsimp only
      rw [run_bind_of_run (advance_run _ _), run_bind_of_run taken, if_neg notEmpty]
      exact ⟨_, rfl, rfl⟩

theorem stopsDigits_renderExponent {exponent : Option JsonExponent}
    (written : ∀ parts ∈ exponent, parts.IsWritten) {rest : Text} (ends : EndsNumber rest) :
    Text.StopsRun Char.isDigit (JsonNumber.renderExponent exponent ++ rest) ∧
      (JsonNumber.renderExponent exponent ++ rest).head? ≠ some '.' := by
  rcases exponent with _ | ⟨letter, sign, digits⟩
  · exact ⟨ends.stopsDigits, Text.StopsRun.head?_ne ends rfl⟩
  · rcases written _ rfl with ⟨isLetter, _, _⟩
    dsimp only at isLetter
    rcases isLetter with rfl | rfl
    · exact ⟨Text.stopsRun_cons rfl _, by simp [JsonNumber.renderExponent]⟩
    · exact ⟨Text.stopsRun_cons rfl _, by simp [JsonNumber.renderExponent]⟩

theorem stopsDigits_renderFraction (fraction : Option Text) {rest : Text}
    (stops : Text.StopsRun Char.isDigit rest) :
    Text.StopsRun Char.isDigit (JsonNumber.renderFraction fraction ++ rest) := by
  cases fraction with
  | none => exact stops
  | some digits => exact Text.stopsRun_cons rfl _

theorem fitsUnsigned_iff (number : Nat) :
    Text.fitsUnsigned number ↔
      Text.minSigned ≤ (number : Int) ∧ (number : Int) ≤ Text.maxUnsigned := by
  have notBelow : Text.minSigned ≤ (number : Int) :=
    Int.le_trans (by decide) (Int.natCast_nonneg number)
  simp [Text.fitsUnsigned, notBelow]

theorem fitsSigned_neg_iff (number : Nat) :
    Text.fitsSigned (-number) ↔
      Text.minSigned ≤ -(number : Int) ∧ -(number : Int) ≤ Text.maxUnsigned := by
  have notAbove : -(number : Int) ≤ Text.maxSigned ∧ -(number : Int) ≤ Text.maxUnsigned := by
    simp only [Text.maxSigned, Text.maxUnsigned]
    omega
  simp [Text.fitsSigned, notAbove]

/-- The answer is the integer if it has 64 bits, and else no integer. -/
def TakesInteger (answer : Option Numeral) (integer : Option Int) : Prop :=
  ∀ value, answer = some (.integer value) ↔
    integer = some value ∧ Text.minSigned ≤ value ∧ value ≤ Text.maxUnsigned

theorem takesInteger_some {integer : Int}
    (range : Text.minSigned ≤ integer ∧ integer ≤ Text.maxUnsigned) :
    TakesInteger (some (.integer integer)) (some integer) := by
  intro value
  constructor
  · intro same
    cases same
    exact ⟨rfl, range⟩
  · rintro ⟨same, _⟩
    cases same
    rfl

/-- A number that is taken for no integer may still be too large for a double. -/
theorem exists_takesInteger_other {integer : Option Int}
    (range : ∀ value ∈ integer, ¬(Text.minSigned ≤ value ∧ value ≤ Text.maxUnsigned))
    (isTooLarge : Bool) (rest : Text) :
    ∃ answer, answer? (do
        if isTooLarge then throw .malformed
        return .other) rest = answer.map (fun numeral => (numeral, rest)) ∧
      TakesInteger answer integer := by
  have noInteger {answer : Option Numeral} (other : ∀ value, answer ≠ some (.integer value)) :
      TakesInteger answer integer :=
    fun value => ⟨fun same => absurd same (other value), fun ⟨same, within⟩ =>
      absurd within (range value same)⟩
  cases isTooLarge with
  | false => exact ⟨some .other, rfl, noInteger (by simp)⟩
  | true => exact ⟨none, rfl, noInteger (by simp)⟩

/-- The parts of a number behind its sign are taken one after the other. -/
theorem exists_magnitude_run {negative : Bool} {whole : Nat} {fraction : Option Text}
    {exponent : Option JsonExponent}
    (written : JsonNumber.IsWritten ⟨negative, whole, fraction, exponent⟩) {rest : Text}
    (ends : EndsNumber rest) :
    ∃ value : Option Int, value.isNone = exponent.isNone ∧
      ∀ {α : Type} (next : Text → Option Text → Option Int → JsonReader α),
        answer? (do
            let whole ← takeWholePart
            let fraction ← takeFraction?
            let exponent ← takeExponent?
            next whole fraction exponent)
          (JsonNumber.renderMagnitude ⟨negative, whole, fraction, exponent⟩ ++ rest) =
        answer? (next (Text.ofNat whole) fraction value) rest := by
  rcases stopsDigits_renderExponent written.exponent ends with ⟨exponentStops, noPoint⟩
  have fractionStops := stopsDigits_renderFraction fraction exponentStops
  rcases takeExponent?_run_render written.exponent ends with ⟨value, exponentTaken, sameMark⟩
  refine ⟨value, ?_, ?_⟩
  · rw [← Option.not_isSome, sameMark, Option.not_isSome]
  · intro α next
    rw [JsonNumber.renderMagnitude, List.append_assoc, List.append_assoc,
      answer?_bind_of_run (takeWholePart_run whole fractionStops),
      answer?_bind_of_run (takeFraction?_run_render written.fraction exponentStops noPoint),
      answer?_bind_of_run exponentTaken]

/-- Only a number without fraction and exponent is written as an integer. -/
theorem integer?_eq (negative : Bool) (whole : Nat) (fraction : Option Text)
    (exponent : Option JsonExponent) :
    JsonNumber.integer? ⟨negative, whole, fraction, exponent⟩ =
      if fraction.isNone = true ∧ exponent.isNone = true then
        if !negative then some (whole : Int) else if whole = 0 then none else some (-whole)
      else none := by
  cases fraction <;> cases exponent <;> rfl

/-- A number that is written as an integer of 64 bits is taken as this integer, and no other
number as an integer. -/
theorem exists_answer?_takeNumber {number : JsonNumber} (written : number.IsWritten) {rest : Text}
    (ends : EndsNumber rest) :
    ∃ answer,
      answer? takeNumber (number.render ++ rest) = answer.map (fun numeral => (numeral, rest)) ∧
      TakesInteger answer number.integer? := by
  rcases number with ⟨negative, whole, fraction, exponent⟩
  rcases exists_magnitude_run written ends with ⟨value, sameMark, magnitude⟩
  cases negative with
  | false =>
      have shape : JsonNumber.render ⟨false, whole, fraction, exponent⟩ ++ rest =
          JsonNumber.renderMagnitude ⟨false, whole, fraction, exponent⟩ ++ rest := rfl
      have areDigits : IsDigits (Text.ofNat whole) :=
        ⟨Text.ofNat_ne_nil whole, fun digit digitMem => Text.isDigit_of_mem_ofNat digitMem⟩
      have noSign : (JsonNumber.renderMagnitude ⟨false, whole, fraction, exponent⟩ ++ rest).head? ≠
          some '-' := by
        rw [JsonNumber.renderMagnitude, List.append_assoc, List.append_assoc]
        exact areDigits.head?_ne _ rfl
      rw [shape, takeNumber, answer?_bind_of_run (peek?_run _)]
      simp only [noSign, if_false]
      rw [magnitude, integer?_eq, Text.numberOf_ofNat, sameMark]
      simp only [not_false_eq_true, true_and, false_and, if_false, Bool.not_false, if_true]
      by_cases integral : fraction.isNone = true ∧ exponent.isNone = true
      · rw [if_pos integral, if_pos integral]
        by_cases fits : Text.fitsUnsigned whole = true
        · rw [if_pos fits]
          exact ⟨some (.integer whole), rfl, takesInteger_some ((fitsUnsigned_iff whole).mp fits)⟩
        · rw [if_neg fits]
          apply exists_takesInteger_other
          intro integer same within
          cases same
          exact fits ((fitsUnsigned_iff whole).mpr within)
      · rw [if_neg integral, if_neg integral]
        exact exists_takesInteger_other (by simp) _ rest
  | true =>
      have shape : JsonNumber.render ⟨true, whole, fraction, exponent⟩ ++ rest =
          '-' :: (JsonNumber.renderMagnitude ⟨true, whole, fraction, exponent⟩ ++ rest) := by
        rw [JsonNumber.render, if_pos rfl, List.append_assoc]
        rfl
      rw [shape, takeNumber, answer?_bind_of_run (peek?_run _)]
      simp only [List.head?_cons, if_true]
      rw [answer?_bind_of_run (advance_run _ _), magnitude, integer?_eq, Text.numberOf_ofNat,
        sameMark]
      simp only [not_true_eq_false, false_and, if_false, true_and, Bool.not_true,
        Bool.false_eq_true]
      by_cases integral : fraction.isNone = true ∧ exponent.isNone = true
      · rw [if_pos integral, if_pos integral]
        by_cases fits : 0 < whole ∧ Text.fitsSigned (-whole) = true
        · rw [if_pos fits, if_neg (Nat.ne_of_gt fits.1)]
          exact ⟨some (.integer (-whole)), rfl,
            takesInteger_some ((fitsSigned_neg_iff whole).mp fits.2)⟩
        · rw [if_neg fits]
          apply exists_takesInteger_other
          intro integer same within
          by_cases zero : whole = 0
          · simp [zero] at same
          · rw [if_neg zero] at same
            cases same
            exact fits ⟨Nat.pos_of_ne_zero zero, (fitsSigned_neg_iff whole).mpr within⟩
      · rw [if_neg integral, if_neg integral]
        exact exists_takesInteger_other (by simp) _ rest

end JsonReader

namespace JsonTree

/-- The integer between the bounds that the tree is. -/
def integer? (lower upper : Int) : JsonTree → Option Int
  | number (some value) => if lower ≤ value ∧ value ≤ upper then some value else none
  | _ => none

def natural? (tree : JsonTree) : Option Nat :=
  (tree.integer? 0 Text.maxUnsigned).map Int.toNat

def signed? (tree : JsonTree) : Option Int :=
  tree.integer? Text.minSigned Text.maxSigned

end JsonTree

namespace JsonReader

/-- The reader refuses what does not begin with a character that it wants. -/
def Wants {α : Type} (reader : JsonReader α) (wanted : Char → Prop) : Prop :=
  ∀ ⦃first : Char⦄, isLayout first = false → ¬wanted first →
    ∀ rest, answer? reader (first :: rest) = none

theorem Wants.answers {α : Type} {reader : JsonReader α} {wanted : Char → Prop}
    (wants : Wants reader wanted) {tree : JsonTree} {text : Text} (spelled : tree.IsSpelled text)
    (notWanted : ∀ first, tree.Begins first → ¬wanted first) : Answers reader text none := by
  rcases spelled.exists_begins with ⟨first, others, rfl, begins⟩
  intro rest _
  exact wants begins.isLayout_eq_false.1 (notWanted first begins) (others ++ rest)

theorem integer?_eq_none {answer : Option Numeral} {integer : Option Int}
    (takes : TakesInteger answer integer) (noInteger : ∀ value, answer ≠ some (.integer value))
    {lower upper : Int} (lower_ge : Text.minSigned ≤ lower) (upper_le : upper ≤ Text.maxUnsigned) :
    JsonTree.integer? lower upper (.number integer) = none := by
  cases integer with
  | none => rfl
  | some value =>
      rw [JsonTree.integer?]
      apply if_neg
      rintro ⟨lower_le, le_upper⟩
      exact noInteger value ((takes value).mpr
        ⟨rfl, Int.le_trans lower_ge lower_le, Int.le_trans le_upper upper_le⟩)

theorem decodes_integer {lower upper : Int} (lower_ge : Text.minSigned ≤ lower)
    (upper_le : upper ≤ Text.maxUnsigned) :
    Decodes (integer lower upper) (JsonTree.integer? lower upper) := by
  have wants : Wants (integer lower upper) fun first => first = '-' ∨ first.isDigit := by
    intro first token noNumber rest
    rw [integer, answer?_peekToken_bind token, if_neg noNumber]
    exact answer?_refuse first _
  intro tree text spelled
  cases tree with
  | number integer =>
      have begins := spelled.exists_begins
      rw [JsonTree.IsSpelled] at spelled
      rcases spelled with ⟨number, written, rfl, rfl⟩
      rcases begins with ⟨first, others, shape, begins⟩
      have isNumber : first = '-' ∨ first.isDigit := begins
      intro rest ends
      rcases exists_answer?_takeNumber written ends with ⟨answer, taken, takes⟩
      rw [shape, List.cons_append] at taken ⊢
      rw [JsonReader.integer, answer?_peekToken_bind begins.isLayout_eq_false.1, if_pos isNumber,
        answer?_bind, taken]
      rcases answer with _ | ⟨value⟩ | _
      · rw [integer?_eq_none takes (by simp) lower_ge upper_le]
        rfl
      · have isInteger := ((takes value).mp rfl).1
        rw [isInteger, JsonTree.integer?]
        dsimp only [Option.map_some, Option.bind_some]
        by_cases within : lower ≤ value ∧ value ≤ upper
        · rw [if_pos within, if_pos within]
          rfl
        · rw [if_neg within, if_neg within]
          rfl
      · rw [integer?_eq_none takes (by simp) lower_ge upper_le]
        rfl
  | _ =>
      refine wants.answers spelled fun first begins isNumber => ?_
      rcases begins.exists_number isNumber with ⟨_, impossible⟩
      cases impossible

theorem decodes_natural : Decodes natural JsonTree.natural? := by
  intro tree text spelled
  exact (decodes_integer (by decide) (Int.le_refl _) spelled).map Int.toNat

theorem decodes_signed : Decodes signed JsonTree.signed? :=
  decodes_integer (Int.le_refl _) (by decide)

end JsonReader

end BraceBalance
