import BraceBalance.Json.Reader
import BraceBalance.Proofs.Text.Basic
import BraceBalance.Proofs.Text.Numeral

/-!
# What JSON readers take

`Reads reader text value` says that a reader takes a text as a spelling of a value, whatever
follows it. What follows must not go on with a number, for nothing else marks the end of
one. Blanks before a value make no difference to the readers of wanted values, which is
`SkipsBlanks`.

Arrays and objects are spelled by lists of elements and members. `SpellsElements` and
`SpellsMembers` describe the text behind an opening bracket up to the closing one, with
blanks in all places where they may stand, and refer to the reader of the parts for the
spelling of those. The readers that repeat a reader of parts take every such text. The
induction is on the spelling; the length of the text bounds the steps that are left.
-/

namespace BraceBalance

namespace JsonReader

theorem run_bind_of_run {α β : Type} {first : JsonReader α} {text middle : Text} {value : α}
    (run : first.run text = .ok (value, middle)) (next : α → JsonReader β) :
    (first >>= next).run text = (next value).run middle := by
  rw [StateT.run_bind, run]
  rfl

/-! ## Blanks -/

/-- What may stand between two tokens. -/
def isLayout (char : Char) : Bool :=
  char = ' ' || char = '\n' || char = '\t' || char = '\r'

/-- The text consists of blanks. -/
def AllLayout (text : Text) : Prop :=
  ∀ char ∈ text, isLayout char

instance (text : Text) : Decidable (AllLayout text) :=
  decidable_of_iff (text.all isLayout) List.all_eq_true

/-- Blanks before the text make no difference to the reader. -/
def SkipsBlanks {α : Type} (reader : JsonReader α) : Prop :=
  ∀ ⦃blanks⦄, AllLayout blanks → ∀ text, reader.run (blanks ++ text) = reader.run text

theorem allLayout_nil : AllLayout [] := by
  intro char charMem
  simp at charMem

theorem skipsBlanks_skipBlanks : SkipsBlanks skipBlanks := by
  intro blanks allBlank text
  have dropped : (blanks ++ text).dropWhile isLayout = text.dropWhile isLayout :=
    List.dropWhile_append_of_pos allBlank
  change Except.ok ((), (blanks ++ text).dropWhile isLayout) =
    Except.ok ((), text.dropWhile isLayout)
  rw [dropped]

/-- What follows on a reader does not see the blanks that the reader skips. -/
theorem SkipsBlanks.bind {α β : Type} {first : JsonReader α} (skips : SkipsBlanks first)
    (next : α → JsonReader β) : SkipsBlanks (first >>= next) := by
  intro blanks allBlank text
  rw [StateT.run_bind, StateT.run_bind, skips allBlank]

theorem skipsBlanks_peekToken : SkipsBlanks peekToken :=
  skipsBlanks_skipBlanks.bind _

/-- A token is left where it is, and the blanks before it are dropped. -/
theorem peekToken_run {blanks : Text} (allBlank : AllLayout blanks) {char : Char}
    (token : isLayout char = false) (rest : Text) :
    peekToken.run (blanks ++ char :: rest) = .ok (char, char :: rest) := by
  rw [skipsBlanks_peekToken allBlank]
  have kept : skipBlanks.run (char :: rest) = .ok ((), char :: rest) := by
    change Except.ok ((), (char :: rest).dropWhile isLayout) = _
    rw [List.dropWhile_cons_of_neg (by simp [token])]
  rw [peekToken, run_bind_of_run kept]
  rfl

theorem peekToken_run_cons {char : Char} (token : isLayout char = false) (rest : Text) :
    peekToken.run (char :: rest) = .ok (char, char :: rest) :=
  peekToken_run allLayout_nil token rest

theorem advance_run (char : Char) (rest : Text) : advance.run (char :: rest) = .ok ((), rest) :=
  rfl

theorem take_run (char : Char) (rest : Text) : take.run (char :: rest) = .ok (char, rest) :=
  rfl

theorem peek?_run (text : Text) : peek?.run text = .ok (text.head?, text) :=
  rfl

/-! ## Numbers -/

/-- A number literal may go on with the character. -/
def continuesNumber (char : Char) : Bool :=
  char.isDigit || char = '.' || char = 'e' || char = 'E'

/-- No number literal goes on with the text. -/
def EndsNumber (text : Text) : Prop :=
  Text.StopsRun continuesNumber text

/-- The reader takes the text as a spelling of the value. -/
def Reads {α : Type} (reader : JsonReader α) (text : Text) (value : α) : Prop :=
  ∀ rest, EndsNumber rest → reader.run (text ++ rest) = .ok (value, rest)

theorem continuesNumber_of_isLayout {char : Char} (blank : isLayout char) :
    continuesNumber char = false := by
  simp only [isLayout, Bool.or_eq_true, decide_eq_true_eq] at blank
  rcases blank with ((rfl | rfl) | rfl) | rfl <;> rfl

theorem endsNumber_layout_append {blanks : Text} (allBlank : AllLayout blanks) {rest : Text}
    (ends : EndsNumber rest) : EndsNumber (blanks ++ rest) := by
  rcases blanks with _ | ⟨blank, blanks⟩
  · exact ends
  · exact Text.stopsRun_cons (continuesNumber_of_isLayout (allBlank blank (by simp))) _

theorem EndsNumber.stopsDigits {rest : Text} (ends : EndsNumber rest) :
    Text.StopsRun Char.isDigit rest := by
  intro char head
  have stops := ends char head
  simp only [continuesNumber, Bool.or_eq_false_iff] at stops
  exact stops.1.1.1

theorem takeDigits_run {digits rest : Text} (allDigits : ∀ digit ∈ digits, digit.isDigit)
    (stops : Text.StopsRun Char.isDigit rest) :
    takeDigits.run (digits ++ rest) = .ok (digits, rest) := by
  change Except.ok (((digits ++ rest).span Char.isDigit).1,
    ((digits ++ rest).span Char.isDigit).2) = _
  rw [Text.span_append allDigits stops]

theorem takeWholePart_run (number : Nat) {rest : Text} (stops : Text.StopsRun Char.isDigit rest) :
    takeWholePart.run (Text.ofNat number ++ rest) = .ok (Text.ofNat number, rest) := by
  have allDigits : ∀ digit ∈ Text.ofNat number, digit.isDigit :=
    fun digit digitMem => Text.isDigit_of_mem_ofNat digitMem
  rw [takeWholePart, run_bind_of_run (takeDigits_run allDigits stops)]
  split
  · rename_i noDigits
    exact absurd noDigits (Text.ofNat_ne_nil number)
  · rename_i leadingZero
    exact absurd (Text.eq_nil_of_ofNat_eq_zero_cons leadingZero) (by simp)
  · rfl

theorem takeFraction?_run {rest : Text} (ends : EndsNumber rest) :
    takeFraction?.run rest = .ok (none, rest) := by
  have noPoint : rest.head? ≠ some '.' := by
    intro head
    exact Text.StopsRun.head?_ne ends rfl head
  rw [takeFraction?, run_bind_of_run (peek?_run rest), if_neg noPoint]
  rfl

theorem takeExponent?_run {rest : Text} (ends : EndsNumber rest) :
    takeExponent?.run rest = .ok (none, rest) := by
  have noMark : ¬(rest.head? = some 'e' ∨ rest.head? = some 'E') := by
    rintro (head | head)
    · exact Text.StopsRun.head?_ne ends rfl head
    · exact Text.StopsRun.head?_ne ends rfl head
  rw [takeExponent?, run_bind_of_run (peek?_run rest), if_neg noMark]
  rfl

theorem takeNumber_run_ofNat {number : Nat} (fits : Text.fitsUnsigned number) {rest : Text}
    (ends : EndsNumber rest) :
    takeNumber.run (Text.ofNat number ++ rest) = .ok (.integer number, rest) := by
  have noSign : (Text.ofNat number ++ rest).head? ≠ some '-' := by
    rcases Text.exists_ofNat_eq_cons number with ⟨digit, digits, shape, isDigit⟩
    intro head
    have same : digit = '-' := by simpa [shape] using head
    subst same
    exact absurd isDigit (by simp)
  rw [takeNumber, run_bind_of_run (peek?_run _)]
  simp only [noSign, if_false]
  rw [run_bind_of_run (takeWholePart_run number ends.stopsDigits), run_bind_of_run (takeFraction?_run ends),
    run_bind_of_run (takeExponent?_run ends), Text.numberOf_ofNat]
  simp only [Option.isNone_none, and_self, not_false_eq_true, fits, if_true]
  rfl

theorem takeNumber_run_negative {magnitude : Nat} (positive : 0 < magnitude)
    (fits : Text.fitsSigned (-magnitude)) {rest : Text} (ends : EndsNumber rest) :
    takeNumber.run ('-' :: Text.ofNat magnitude ++ rest) = .ok (.integer (-magnitude), rest) := by
  rw [takeNumber, run_bind_of_run (peek?_run _)]
  simp only [List.cons_append, List.head?_cons, if_true]
  rw [run_bind_of_run (advance_run _ _), run_bind_of_run (takeWholePart_run magnitude ends.stopsDigits),
    run_bind_of_run (takeFraction?_run ends), run_bind_of_run (takeExponent?_run ends),
    Text.numberOf_ofNat]
  simp only [Option.isNone_none, and_self, not_true_eq_false, false_and, if_false, positive, fits,
    if_true]
  rfl

theorem takeNumber_run_ofInt {value : Int} (minSigned_le : Text.minSigned ≤ value)
    (le_maxUnsigned : value ≤ Text.maxUnsigned) {rest : Text} (ends : EndsNumber rest) :
    takeNumber.run (Text.ofInt value ++ rest) = .ok (.integer value, rest) := by
  rcases value with number | below
  · have fits : Text.fitsUnsigned number := by
      simp only [Text.fitsUnsigned, decide_eq_true_eq]
      exact Int.ofNat_le.mp le_maxUnsigned
    exact takeNumber_run_ofNat fits ends
  · have fits : Text.fitsSigned (-(below + 1 : Nat)) := by
      simp only [Text.fitsSigned, Bool.and_eq_true, decide_eq_true_eq]
      rw [Int.negSucc_eq] at minSigned_le
      exact ⟨minSigned_le, by simp only [Text.maxSigned]; omega⟩
    exact takeNumber_run_negative (Nat.succ_pos below) fits ends

theorem isLayout_of_isDigit {char : Char} (digit : char.isDigit) : isLayout char = false := by
  by_contra blank
  simp only [Bool.not_eq_false, isLayout, Bool.or_eq_true, decide_eq_true_eq] at blank
  rcases blank with ((rfl | rfl) | rfl) | rfl <;> exact absurd digit (by simp)

theorem exists_ofInt_eq_cons (value : Int) :
    ∃ first others, Text.ofInt value = first :: others ∧ (first = '-' ∨ first.isDigit) := by
  rcases value with number | below
  · rcases Text.exists_ofNat_eq_cons number with ⟨digit, digits, shape, isDigit⟩
    exact ⟨digit, digits, shape, Or.inr isDigit⟩
  · exact ⟨'-', Text.ofNat (below + 1), rfl, Or.inl rfl⟩

/-- An integer of 64 bits is read between bounds that hold it. -/
theorem reads_integer {lower upper value : Int} (lower_le : lower ≤ value)
    (le_upper : value ≤ upper) (minSigned_le : Text.minSigned ≤ value)
    (le_maxUnsigned : value ≤ Text.maxUnsigned) :
    Reads (integer lower upper) (Text.ofInt value) value := by
  intro rest ends
  have literal := takeNumber_run_ofInt minSigned_le le_maxUnsigned ends
  rcases exists_ofInt_eq_cons value with ⟨first, others, shape, begins⟩
  have token : isLayout first = false := by
    rcases begins with rfl | digit
    · decide
    · exact isLayout_of_isDigit digit
  rw [shape, List.cons_append] at literal ⊢
  rw [integer, run_bind_of_run (peekToken_run_cons token _), if_pos begins,
    run_bind_of_run literal]
  simp only [lower_le, le_upper, and_self, if_true]
  rfl

theorem reads_natural {number : Nat} (fits : Text.fitsUnsigned number) :
    Reads natural (Text.ofNat number) number := by
  have le_max : (number : Int) ≤ Text.maxUnsigned := by
    simp only [Text.fitsUnsigned, decide_eq_true_eq] at fits
    exact Int.ofNat_le.mpr fits
  have min_le : Text.minSigned ≤ (number : Int) := by
    simp only [Text.minSigned]
    omega
  intro rest ends
  have read := reads_integer (Int.natCast_nonneg number) le_max min_le le_max rest ends
  exact run_bind_of_run read _

theorem reads_signed {value : Int} (fits : Text.fitsSigned value) :
    Reads signed (Text.ofInt value) value := by
  simp only [Text.fitsSigned, Bool.and_eq_true, decide_eq_true_eq] at fits
  have le_max : value ≤ Text.maxUnsigned := by
    simp only [Text.maxSigned, Text.maxUnsigned] at fits ⊢
    omega
  exact reads_integer fits.1 fits.2 fits.1 le_max

theorem skipsBlanks_natural : SkipsBlanks natural :=
  (skipsBlanks_peekToken.bind _).bind _

theorem skipsBlanks_signed : SkipsBlanks signed :=
  skipsBlanks_peekToken.bind _

/-! ## Strings -/

/-- The text behind an opening quote spells the value and ends with the closing quote. -/
def SpellsString (text value : Text) : Prop :=
  ∀ rest, finishString.run (text ++ rest) = .ok (value, rest)

theorem reads_string {text value : Text} (spells : SpellsString text value) :
    Reads string ('"' :: text) value := by
  intro rest _
  rw [string, List.cons_append, run_bind_of_run (peekToken_run_cons rfl _), if_pos rfl,
    run_bind_of_run (advance_run _ _)]
  exact spells rest

theorem reads_string?_null : Reads string? "null" none := by
  intro rest _
  rfl

theorem reads_string?_some {text value : Text} (spells : SpellsString text value) :
    Reads string? ('"' :: text) (some value) := by
  intro rest ends
  have noBlank : skipBlanks.run ('"' :: text ++ rest) = .ok ((), '"' :: text ++ rest) := rfl
  have read := reads_string spells rest ends
  rw [string?, run_bind_of_run noBlank, run_bind_of_run (peek?_run _), if_neg (by simp),
    run_bind_of_run read]
  rfl

theorem skipsBlanks_string : SkipsBlanks string :=
  skipsBlanks_peekToken.bind _

theorem skipsBlanks_string? : SkipsBlanks string? :=
  skipsBlanks_skipBlanks.bind _

/-! ## Arrays -/

/-- The text spells the elements that follow in an array and its closing bracket. Before
each element but the first of all stands a comma. -/
inductive SpellsElements {α : Type} (element : JsonReader α) : Bool → Text → List α → Prop where
  | close {isFirst : Bool} {blanks : Text} (allBlank : AllLayout blanks) :
      SpellsElements element isFirst (blanks ++ [']']) []
  | first {blanks : Text} {token : Char} {text more : Text} {value : α} {values : List α}
      (allBlank : AllLayout blanks) (noBlank : isLayout token = false) (goesOn : token ≠ ']')
      (reads : Reads element (token :: text) value)
      (others : SpellsElements element false more values) :
      SpellsElements element true (blanks ++ token :: text ++ more) (value :: values)
  | next {before after : Text} {token : Char} {text more : Text} {value : α} {values : List α}
      (beforeBlank : AllLayout before) (afterBlank : AllLayout after)
      (noBlank : isLayout token = false) (goesOn : token ≠ ']')
      (reads : Reads element (token :: text) value)
      (others : SpellsElements element false more values) :
      SpellsElements element false (before ++ ',' :: after ++ token :: text ++ more)
        (value :: values)

/-- What follows on an element does not go on with a number. -/
theorem SpellsElements.endsNumber {α : Type} {element : JsonReader α} {text : Text}
    {values : List α} (spells : SpellsElements element false text values) (rest : Text) :
    EndsNumber (text ++ rest) := by
  cases spells with
  | close allBlank =>
      rw [List.append_assoc]
      exact endsNumber_layout_append allBlank (Text.stopsRun_cons rfl _)
  | next beforeBlank _ _ _ _ _ =>
      simp only [List.append_assoc, List.cons_append]
      exact endsNumber_layout_append beforeBlank (Text.stopsRun_cons rfl _)

theorem elementsFrom_run {α : Type} {element : JsonReader α} {isFirst : Bool} {text : Text}
    {values : List α} (spells : SpellsElements element isFirst text values) (read : List α)
    {steps : Nat} (enough : text.length < steps) (rest : Text) :
    (elementsFrom element isFirst read steps).run (text ++ rest) =
      .ok (read.reverse ++ values, rest) := by
  induction spells generalizing read steps with
  | close allBlank =>
      rcases Nat.exists_eq_add_of_lt enough with ⟨steps, rfl⟩
      rw [elementsFrom, List.append_assoc, List.singleton_append,
        run_bind_of_run (peekToken_run allBlank rfl _), if_pos rfl,
        run_bind_of_run (advance_run _ _), List.append_nil]
      rfl
  | first allBlank noBlank goesOn reads others ih =>
      rcases Nat.exists_eq_add_of_lt enough with ⟨steps, rfl⟩
      have taken := reads _ (others.endsNumber rest)
      simp only [List.append_assoc, List.cons_append] at taken ⊢
      rw [elementsFrom, run_bind_of_run (peekToken_run allBlank noBlank _), if_neg goesOn,
        if_pos rfl, run_bind_of_run taken, ih _ (by simp; omega)]
      simp only [List.reverse_cons, List.append_assoc, List.singleton_append]
  | next beforeBlank afterBlank noBlank goesOn reads others ih =>
      rcases Nat.exists_eq_add_of_lt enough with ⟨steps, rfl⟩
      have taken := reads _ (others.endsNumber rest)
      simp only [List.append_assoc, List.cons_append] at taken ⊢
      rw [elementsFrom, run_bind_of_run (peekToken_run beforeBlank rfl _),
        if_neg Bool.false_ne_true, if_neg (by simp), if_pos rfl, run_bind_of_run (advance_run _ _),
        run_bind_of_run (peekToken_run afterBlank noBlank _), if_neg goesOn,
        run_bind_of_run taken, ih _ (by simp; omega)]
      simp only [List.reverse_cons, List.append_assoc, List.singleton_append]

theorem reads_array {α : Type} {element : JsonReader α} {text : Text} {values : List α}
    (spells : SpellsElements element true text values) :
    Reads (array element) ('[' :: text) values := by
  intro rest _
  rw [array, List.cons_append, run_bind_of_run (peekToken_run_cons rfl _), if_pos rfl,
    run_bind_of_run (advance_run _ _)]
  exact elementsFrom_run spells [] (Text.length_lt_succ_length_append text rest) rest

theorem skipsBlanks_array {α : Type} (element : JsonReader α) : SkipsBlanks (array element) :=
  skipsBlanks_peekToken.bind _

/-! ## Objects -/

/-- The text spells the members that follow in an object and its closing brace, which lead
from one state of the reader to another. Before each member but the first of all stands a
comma. -/
inductive SpellsMembers {σ : Type} (member : Text → σ → JsonReader σ) :
    Bool → σ → Text → σ → Prop where
  | close {isFirst : Bool} {state : σ} {blanks : Text} (allBlank : AllLayout blanks) :
      SpellsMembers member isFirst state (blanks ++ ['\x7d']) state
  | first {state next final : σ} {blanks keyText key text more : Text}
      (allBlank : AllLayout blanks) (spells : SpellsString keyText key)
      (reads : Reads (member key state) text next)
      (others : SpellsMembers member false next more final) :
      SpellsMembers member true state (blanks ++ '"' :: keyText ++ text ++ more) final
  | next {state next final : σ} {before after keyText key text more : Text}
      (beforeBlank : AllLayout before) (afterBlank : AllLayout after)
      (spells : SpellsString keyText key) (reads : Reads (member key state) text next)
      (others : SpellsMembers member false next more final) :
      SpellsMembers member false state
        (before ++ ',' :: after ++ '"' :: keyText ++ text ++ more) final

/-- What follows on a member does not go on with a number. -/
theorem SpellsMembers.endsNumber {σ : Type} {member : Text → σ → JsonReader σ}
    {state final : σ} {text : Text} (spells : SpellsMembers member false state text final)
    (rest : Text) : EndsNumber (text ++ rest) := by
  cases spells with
  | close allBlank =>
      rw [List.append_assoc]
      exact endsNumber_layout_append allBlank (Text.stopsRun_cons rfl _)
  | next beforeBlank _ _ _ _ =>
      simp only [List.append_assoc, List.cons_append]
      exact endsNumber_layout_append beforeBlank (Text.stopsRun_cons rfl _)

theorem membersFrom_run {σ : Type} {member : Text → σ → JsonReader σ} {isFirst : Bool}
    {state final : σ} {text : Text} (spells : SpellsMembers member isFirst state text final)
    {steps : Nat} (enough : text.length < steps) (rest : Text) :
    (membersFrom member isFirst state steps).run (text ++ rest) = .ok (final, rest) := by
  induction spells generalizing steps with
  | close allBlank =>
      rcases Nat.exists_eq_add_of_lt enough with ⟨steps, rfl⟩
      rw [membersFrom, List.append_assoc, List.singleton_append,
        run_bind_of_run (peekToken_run allBlank rfl _), if_pos rfl,
        run_bind_of_run (advance_run _ _)]
      rfl
  | first allBlank spells reads others ih =>
      rcases Nat.exists_eq_add_of_lt enough with ⟨steps, rfl⟩
      have taken := reads _ (others.endsNumber rest)
      simp only [List.append_assoc, List.cons_append] at taken ⊢
      rw [membersFrom, run_bind_of_run (peekToken_run allBlank rfl _),
        if_neg (by simp), if_neg (by simp),
        run_bind_of_run (peekToken_run_cons rfl _), if_pos rfl,
        run_bind_of_run (advance_run _ _), run_bind_of_run (spells _), run_bind_of_run taken,
        ih (by simp; omega)]
  | next beforeBlank afterBlank spells reads others ih =>
      rcases Nat.exists_eq_add_of_lt enough with ⟨steps, rfl⟩
      have taken := reads _ (others.endsNumber rest)
      simp only [List.append_assoc, List.cons_append] at taken ⊢
      rw [membersFrom, run_bind_of_run (peekToken_run beforeBlank rfl _),
        if_neg (by simp)]
      simp only [Bool.not_false, if_true]
      rw [run_bind_of_run (advance_run _ _),
        run_bind_of_run (peekToken_run afterBlank rfl _), if_pos rfl,
        run_bind_of_run (advance_run _ _), run_bind_of_run (spells _), run_bind_of_run taken,
        ih (by simp; omega)]

theorem members_run {σ : Type} {member : Text → σ → JsonReader σ} {state final : σ}
    {text : Text} (spells : SpellsMembers member true state text final) (rest : Text) :
    (members member state).run (text ++ rest) = .ok (final, rest) :=
  membersFrom_run spells (Text.length_lt_succ_length_append text rest) rest

theorem reads_once {α : Type} {value : JsonReader α} (skips : SkipsBlanks value)
    {blanks text : Text} (allBlank : AllLayout blanks) {result : α}
    (reads : Reads value text result) :
    Reads (once none value) (':' :: blanks ++ text) (some result) := by
  intro rest ends
  have colonTaken (others : Text) : colon.run (':' :: others) = .ok ((), others) := rfl
  have taken : value.run (blanks ++ (text ++ rest)) = .ok (result, rest) := by
    rw [skips allBlank, reads rest ends]
  simp only [once, Option.isSome_none, Bool.false_eq_true, if_false, List.append_assoc,
    List.cons_append]
  rw [run_bind_of_run (colonTaken _), run_bind_of_run taken]
  rfl

/-- A whole text may end with blanks. -/
theorem readAll_append_eq_ok {α : Type} {reader : JsonReader α} {text blanks : Text} {value : α}
    (reads : Reads reader text value) (allBlank : AllLayout blanks) :
    reader.readAll (text ++ blanks) = .ok value := by
  have ends : EndsNumber (blanks ++ []) :=
    endsNumber_layout_append allBlank (Text.stopsRun_nil _)
  rw [List.append_nil] at ends
  have taken := reads blanks ends
  have dropped : skipBlanks.run blanks = .ok ((), []) := by
    have skipped := skipsBlanks_skipBlanks allBlank []
    rw [List.append_nil] at skipped
    exact skipped
  rw [readAll, run_bind_of_run taken, run_bind_of_run dropped]
  rfl

end JsonReader

end BraceBalance
