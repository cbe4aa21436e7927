import BraceBalance.Proofs.Text.Numeral
import BraceBalance.Proofs.Toml.StringRoundTrip

/-!
# Written values are read back

Strings, lists of strings and truth values are read back as they were written. So is an
integer of at most 63 bits; the reader refuses a larger one, which the writer writes all the
same.
-/

namespace BraceBalance

namespace Toml

open TextReader

namespace Reader

/-! ## Integers -/

/-- A number or a date may go on with the character. -/
def continuesNumber (char : Char) : Bool :=
  char.isAlphanum || char = '_' || char = '.' || char = '-' || char = '+'
    || char = ':'

/-- All of a run of digits, and what follows does not go on with it. -/
structure EndsNumber (digits rest : Text) : Prop where
  allDigits : ∀ digit ∈ digits, digit.isDigit
  stops : Text.StopsRun continuesNumber rest

namespace EndsNumber

variable {digits rest : Text}

theorem stopsDigits (ends : EndsNumber digits rest) : Text.StopsRun Char.isDigit rest := by
  intro char head
  have stopped := ends.stops char head
  simp only [continuesNumber, Char.isAlphanum, Bool.or_eq_false_iff] at stopped
  exact stopped.1.1.1.1.1.2

theorem tail {digit : Char} (ends : EndsNumber (digit :: digits) rest) : EndsNumber digits rest :=
  ⟨fun other otherMem => ends.allDigits other (List.mem_cons_of_mem _ otherMem), ends.stops⟩

theorem head?_ne (ends : EndsNumber digits rest) {mark : Char} (notDigit : mark.isDigit = false)
    (continues : continuesNumber mark) : (digits ++ rest).head? ≠ some mark := by
  intro head
  rcases digits with _ | ⟨digit, digits⟩
  · exact ends.stops.head?_ne continues head
  · have same : digit = mark := by simpa using head
    subst same
    have isDigit := ends.allDigits digit List.mem_cons_self
    rw [notDigit] at isDigit
    exact absurd isDigit (by simp)

end EndsNumber

/-- What follows on two digits sees the rest of the digits, if it is reached. -/
theorem twoDigits_bind_run_eq_none {α : Type} {digits rest : Text} (ends : EndsNumber digits rest)
    (low high : Nat) {next : Nat → TextReader α}
    (fails : ∀ value later, EndsNumber later rest → (next value).run (later ++ rest) = none) :
    (twoDigits low high >>= next).run (digits ++ rest) = none := by
  rcases digits with _ | ⟨tens, _ | ⟨ones, later⟩⟩
  · have none : (twoDigits low high).run ([] ++ rest) = none := by
      rw [twoDigits, List.nil_append,
        run_bind_of_run_eq_none (takeIf_run_of_stopsRun ends.stopsDigits)]
    exact run_bind_of_run_eq_none none next
  · have tensDigit := ends.allDigits tens List.mem_cons_self
    have none : (twoDigits low high).run ([tens] ++ rest) = none := by
      rw [twoDigits, List.singleton_append, run_bind_of_run (takeIf_run tensDigit rest),
        run_bind_of_run_eq_none (takeIf_run_of_stopsRun ends.stopsDigits)]
    exact run_bind_of_run_eq_none none next
  · have tensDigit := ends.allDigits tens List.mem_cons_self
    have onesDigit := ends.tail.allDigits ones List.mem_cons_self
    rw [List.cons_append, List.cons_append]
    by_cases within : low ≤ Text.numberOf 10 [tens, ones] ∧ Text.numberOf 10 [tens, ones] ≤ high
    · have read : (twoDigits low high).run (tens :: ones :: (later ++ rest)) =
          some (Text.numberOf 10 [tens, ones], later ++ rest) := by
        rw [twoDigits, run_bind_of_run (takeIf_run tensDigit _),
          run_bind_of_run (takeIf_run onesDigit _)]
        simp only [within, and_self, if_true]
        rfl
      rw [run_bind_of_run read]
      exact fails _ later ends.tail.tail
    · have none : (twoDigits low high).run (tens :: ones :: (later ++ rest)) = none := by
        rw [twoDigits, run_bind_of_run (takeIf_run tensDigit _),
          run_bind_of_run (takeIf_run onesDigit _)]
        simp only [within, if_false]
        rfl
      exact run_bind_of_run_eq_none none next

theorem takeText_run_eq_none {digits rest : Text} (ends : EndsNumber digits rest) {mark : Char}
    (notDigit : mark.isDigit = false) (continues : continuesNumber mark) :
    (takeText [mark]).run (digits ++ rest) = none :=
  takeText_run_of_head?_ne (ends.head?_ne notDigit continues)

theorem time_run_eq_none {digits rest : Text} (ends : EndsNumber digits rest) :
    time.run (digits ++ rest) = none := by
  apply twoDigits_bind_run_eq_none ends
  intro _ later endsLater
  have noColon : (takeText ":").run (later ++ rest) = none :=
    takeText_run_eq_none endsLater rfl rfl
  exact run_bind_of_run_eq_none noColon _

theorem date_run_eq_none {digits rest : Text} (ends : EndsNumber digits rest) :
    date.run (digits ++ rest) = none := by
  apply twoDigits_bind_run_eq_none ends
  intro _ later endsLater
  apply twoDigits_bind_run_eq_none endsLater
  intro _ last endsLast
  have noHyphen : (takeText "-").run (last ++ rest) = none :=
    takeText_run_eq_none endsLast rfl rfl
  exact run_bind_of_run_eq_none noHyphen _

/-- No date or time begins with a run of digits that nothing goes on with. -/
theorem datetime_run_eq_none {digits rest : Text} (ends : EndsNumber digits rest) :
    datetime.run (digits ++ rest) = none := by
  rw [datetime, run_bind_of_run (get_run _)]
  apply run_bind_of_run_eq_none
  rw [run_orElse_of_run_eq_none (time_run_eq_none ends)]
  exact run_bind_of_run_eq_none (date_run_eq_none ends) _

theorem digits_run {digit : Char} {later rest : Text} (ends : EndsNumber (digit :: later) rest) :
    (digits Char.isDigit).run (digit :: later ++ rest) = some (digit :: later, rest) := by
  have isDigit := ends.allDigits digit List.mem_cons_self
  have noUnderscore : (takeText? "_").run rest = some (false, rest) :=
    takeText?_run_of_head?_ne (ends.stops.head?_ne rfl)
  have notEmpty : ¬((digit :: later).reverse ++ []).isEmpty = true := by simp
  rw [digits, run_bind_of_run (peek?_run _)]
  simp only [List.cons_append, List.head?_cons, isDigit, if_true]
  rw [run_bind_of_run (get_run _), digitsFrom, ← List.cons_append,
    run_bind_of_run (takeWhile_run ends.allDigits ends.stopsDigits), if_neg notEmpty,
    run_ite_of_run_false noUnderscore, List.append_nil, List.reverse_reverse]
  rfl

/-- The digits of a number have no leading zero that the reader would stop behind. -/
theorem wholeDigits_run {number : Nat} {rest : Text} (ends : EndsNumber (Text.ofNat number) rest) :
    wholeDigits.run (Text.ofNat number ++ rest) = some (Text.ofNat number, rest) := by
  rcases Text.exists_ofNat_eq_cons number with ⟨digit, later, shape, -⟩
  rw [wholeDigits, run_bind_of_run (peek?_run _)]
  rw [shape] at ends ⊢
  by_cases zero : digit = '0'
  · subst zero
    have same : later = [] := Text.eq_nil_of_ofNat_eq_zero_cons shape
    subst same
    rfl
  · have notZero : ¬(digit :: later ++ rest).head? = some '0' := by
      simpa using zero
    rw [if_neg notZero]
    exact digits_run ends

theorem sign_run {digits rest : Text} (ends : EndsNumber digits rest) :
    sign.run (digits ++ rest) = some (false, digits ++ rest) := by
  have noMinus : (takeText? "-").run (digits ++ rest) = some (false, digits ++ rest) :=
    takeText?_run_of_head?_ne (ends.head?_ne rfl rfl)
  have noPlus : (takeText? "+").run (digits ++ rest) = some (false, digits ++ rest) :=
    takeText?_run_of_head?_ne (ends.head?_ne rfl rfl)
  rw [sign, run_ite_of_run_false noMinus, run_bind_of_run noPlus]
  rfl

/-- An integer is read if it has at most 63 bits, and refused otherwise. -/
theorem decimal_run (number : Nat) {rest : Text} (ends : EndsNumber (Text.ofNat number) rest) :
    decimal.run (Text.ofNat number ++ rest) =
      if Text.fitsSigned number then some (.integer number, rest) else none := by
  have noInfinity : (takeText? "inf").run (Text.ofNat number ++ rest) =
      some (false, Text.ofNat number ++ rest) :=
    takeText?_run_of_head?_ne (ends.head?_ne rfl rfl)
  have noNan : (takeText? "nan").run (Text.ofNat number ++ rest) =
      some (false, Text.ofNat number ++ rest) :=
    takeText?_run_of_head?_ne (ends.head?_ne rfl rfl)
  have noPoint : (takeText? ".").run rest = some (false, rest) :=
    takeText?_run_of_head?_ne (ends.stops.head?_ne rfl)
  have noMark : ¬(rest.head? = some 'e' || rest.head? = some 'E') = true := by
    simp only [Bool.or_eq_true, decide_eq_true_eq]
    rintro (head | head)
    · exact ends.stops.head?_ne rfl head
    · exact ends.stops.head?_ne rfl head
  rw [decimal, run_bind_of_run (sign_run ends),
    run_ite_of_run_false noInfinity, run_ite_of_run_false noNan,
    run_bind_of_run (wholeDigits_run ends), run_bind_of_run noPoint]
  simp only [Bool.false_eq_true, if_false, pure_bind]
  rw [run_bind_of_run (peek?_run rest)]
  simp only [Bool.false_or, noMark, Bool.false_eq_true, if_false, Text.numberOf_ofNat]
  split <;> rfl

/-- No mark of another base is taken for a digit of the number. -/
theorem takeText?_run_base {number : Nat} {rest : Text} (ends : EndsNumber (Text.ofNat number) rest)
    {mark : Char} (notDigit : mark.isDigit = false) (continues : continuesNumber mark) :
    (takeText? ['0', mark]).run (Text.ofNat number ++ rest) =
      some (false, Text.ofNat number ++ rest) := by
  rcases Text.exists_ofNat_eq_cons number with ⟨digit, later, shape, -⟩
  rw [shape] at ends ⊢
  apply takeText?_run_of_not_isPrefix
  rintro ⟨others, same⟩
  simp only [List.cons_append, List.nil_append, List.cons.injEq] at same
  apply ends.tail.head?_ne notDigit continues
  rw [← same.2]
  rfl

theorem number_run (number : Nat) {rest : Text} (ends : EndsNumber (Text.ofNat number) rest) :
    Reader.number.run (Text.ofNat number ++ rest) =
      if Text.fitsSigned number then some (.integer number, rest) else none := by
  have noHexadecimal : (takeText? "0x").run (Text.ofNat number ++ rest) =
      some (false, Text.ofNat number ++ rest) :=
    takeText?_run_base ends rfl rfl
  have noOctal : (takeText? "0o").run (Text.ofNat number ++ rest) =
      some (false, Text.ofNat number ++ rest) :=
    takeText?_run_base ends rfl rfl
  have noBinary : (takeText? "0b").run (Text.ofNat number ++ rest) =
      some (false, Text.ofNat number ++ rest) :=
    takeText?_run_base ends rfl rfl
  rw [Reader.number, run_orElse_of_run_eq_none (datetime_run_eq_none ends),
    run_ite_of_run_false noHexadecimal, run_ite_of_run_false noOctal, run_ite_of_run_false noBinary,
    decimal_run number ends]

/-! ## Values without parts -/

/-- What opens no array and no table is a value without parts. -/
theorem valueWithin_run_eq_scalar (depth : Nat) {text : Text} (noArray : text.head? ≠ some '[')
    (noTable : text.head? ≠ some '\x7b') : (valueWithin depth).run text = scalar.run text := by
  cases depth with
  | zero => rfl
  | succ depth =>
      rw [valueWithin, run_bind_of_run (peek?_run text)]
      split
      · rename_i bracket
        exact absurd bracket noArray
      · rename_i brace
        exact absurd brace noTable
      · rfl

theorem valueWithin_run_string (depth : Nat) (text : Text) {rest : Text}
    (stops : Text.StopsRun isQuote rest) :
    (valueWithin depth).run (renderString text ++ rest) = some (.string text, rest) := by
  have reads := string_run_renderString text stops
  rcases exists_renderString_eq_cons text with ⟨mark, others, shape, quote⟩
  rw [shape, List.cons_append] at reads ⊢
  simp only [isQuote, Bool.or_eq_true, decide_eq_true_eq] at quote
  rcases quote with rfl | rfl
  · rw [valueWithin_run_eq_scalar depth (by simp) (by simp), scalar,
      run_bind_of_run (peek?_run _)]
    exact run_bind_of_run reads _
  · rw [valueWithin_run_eq_scalar depth (by simp) (by simp), scalar,
      run_bind_of_run (peek?_run _)]
    exact run_bind_of_run reads _

theorem scalar_run_of_isDigit {digit : Char} (isDigit : digit.isDigit) (text : Text) :
    scalar.run (digit :: text) = Reader.number.run (digit :: text) := by
  have digit_ne : ∀ {mark : Char}, mark.isDigit = false → some digit ≠ some mark := by
    intro mark notDigit head
    rw [Option.some.inj head, notDigit] at isDigit
    exact absurd isDigit (by simp)
  rw [scalar, run_bind_of_run (peek?_run _), List.head?_cons]
  split <;> rename_i head
  · exact absurd head (digit_ne rfl)
  · exact absurd head (digit_ne rfl)
  · exact absurd head (digit_ne rfl)
  · exact absurd head (digit_ne rfl)
  · rfl
  · rfl
  · rfl
  · rfl
  · rw [if_pos (Option.some.inj head ▸ isDigit)]
  · exact absurd head (by simp)

theorem valueWithin_run_integer (depth number : Nat) {rest : Text}
    (ends : EndsNumber (Text.ofNat number) rest) :
    (valueWithin depth).run (Text.ofNat number ++ rest) =
      if Text.fitsSigned number then some (.integer number, rest) else none := by
  rcases Text.exists_ofNat_eq_cons number with ⟨digit, later, shape, isDigit⟩
  have noArray : (Text.ofNat number ++ rest).head? ≠ some '[' := by
    rw [shape]
    rintro head
    have same : digit = '[' := by simpa using head
    subst same
    exact absurd isDigit (by simp)
  have noTable : (Text.ofNat number ++ rest).head? ≠ some '\x7b' := by
    rw [shape]
    rintro head
    have same : digit = '\x7b' := by simpa using head
    subst same
    exact absurd isDigit (by simp)
  rw [valueWithin_run_eq_scalar depth noArray noTable, ← number_run number ends, shape]
  exact scalar_run_of_isDigit isDigit _

theorem valueWithin_run_true (depth : Nat) (rest : Text) :
    (valueWithin depth).run ("true" ++ rest) = some (.boolean true, rest) := by
  rw [valueWithin_run_eq_scalar depth (by simp) (by simp), scalar, run_bind_of_run (peek?_run _)]
  exact run_bind_of_run (takeText_run_append "true" rest) _

theorem valueWithin_run_false (depth : Nat) (rest : Text) :
    (valueWithin depth).run ("false" ++ rest) = some (.boolean false, rest) := by
  rw [valueWithin_run_eq_scalar depth (by simp) (by simp), scalar, run_bind_of_run (peek?_run _)]
  exact run_bind_of_run (takeText_run_append "false" rest) _

/-! ## Arrays -/

/-- What is dropped between the statements of a document and the elements of an array. -/
def isSkipped (char : Char) : Bool :=
  isLayout char || char = '#'

theorem stopsRun_isLayout {text : Text} (stops : Text.StopsRun isSkipped text) :
    Text.StopsRun isLayout text := by
  intro char head
  have kept := stops char head
  simp only [isSkipped, Bool.or_eq_false_iff] at kept
  exact kept.1

theorem skipLines_run_of_stopsRun (steps : Nat) {text : Text}
    (stops : Text.StopsRun isSkipped text) :
    (skipLines (steps + 1)).run text = some ((), text) := by
  have noLayout := stopsRun_isLayout stops
  have noComment : (takeText? "#").run text = some (false, text) :=
    takeText?_run_of_head?_ne (stops.head?_ne rfl)
  rw [skipLines, run_bind_of_run (skipSpaces_run noLayout), run_ite_of_run_false noComment,
    run_ite_of_run_false (takeLineEnd?_run noLayout)]
  rfl

theorem skipLines_run_lineFeed (steps : Nat) (rest : Text) :
    (skipLines (steps + 1)).run ('\n' :: rest) = (skipLines steps).run rest :=
  rfl

theorem skipLines_run_space (steps : Nat) (rest : Text) :
    (skipLines (steps + 1)).run (' ' :: rest) = (skipLines (steps + 1)).run rest := by
  rw [skipLines, StateT.run_bind, skipSpaces_run_space]
  rfl

/-- Spaces and line feeds are dropped, whatever their order. -/
theorem skipLines_run {blanks : Text} (blank : ∀ char ∈ blanks, char = ' ' ∨ char = '\n')
    {steps : Nat} (enough : blanks.length < steps) {rest : Text}
    (stops : Text.StopsRun isSkipped rest) :
    (skipLines steps).run (blanks ++ rest) = some ((), rest) := by
  induction blanks generalizing steps with
  | nil =>
      rcases Nat.exists_eq_add_of_lt enough with ⟨steps, rfl⟩
      exact skipLines_run_of_stopsRun _ stops
  | cons char blanks ih =>
      rcases Nat.exists_eq_add_of_lt enough with ⟨steps, rfl⟩
      have blankLater : ∀ char ∈ blanks, char = ' ' ∨ char = '\n' :=
        fun char charMem => blank char (List.mem_cons_of_mem _ charMem)
      rw [List.length_cons]
      rcases blank char List.mem_cons_self with rfl | rfl
      · rw [List.cons_append, skipLines_run_space]
        exact ih blankLater (by omega)
      · rw [List.cons_append, skipLines_run_lineFeed]
        exact ih blankLater (by omega)

/-- What an array drops between its elements. -/
abbrev skipArrayLines : TextReader Unit := do
  skipLines ((← get).length + 1)

theorem skipArrayLines_run {blanks : Text} (blank : ∀ char ∈ blanks, char = ' ' ∨ char = '\n')
    {rest : Text} (stops : Text.StopsRun isSkipped rest) :
    skipArrayLines.run (blanks ++ rest) = some ((), rest) := by
  rw [skipArrayLines, run_bind_of_run (get_run _)]
  apply skipLines_run blank _ stops
  rw [List.length_append]
  omega

theorem skipArrayLines_run_of_stopsRun {text : Text} (stops : Text.StopsRun isSkipped text) :
    skipArrayLines.run text = some ((), text) := by
  rw [skipArrayLines, run_bind_of_run (get_run _)]
  exact skipLines_run_of_stopsRun _ stops

theorem isSkipped_of_isQuote {mark : Char} (quote : isQuote mark) : isSkipped mark = false := by
  simp only [isQuote, Bool.or_eq_true, decide_eq_true_eq] at quote
  rcases quote with rfl | rfl <;> rfl

theorem head?_renderString_ne (text rest : Text) {other : Char} (notQuote : isQuote other = false) :
    (renderString text ++ rest).head? ≠ some other := by
  rcases exists_renderString_eq_cons text with ⟨mark, others, shape, quote⟩
  rw [shape]
  rintro head
  have same : mark = other := by simpa using head
  subst same
  rw [notQuote] at quote
  exact absurd quote (by simp)

theorem stopsRun_renderString (text rest : Text) :
    Text.StopsRun isSkipped (renderString text ++ rest) := by
  rcases exists_renderString_eq_cons text with ⟨mark, others, shape, quote⟩
  rw [shape]
  exact Text.stopsRun_cons (isSkipped_of_isQuote quote) _

/-- One element is read, and the reader stops behind the blanks after its comma. -/
theorem separatedFrom_run_comma (depth : Nat) (read : List Value) (first : Text) (steps : Nat)
    {behind next : Text} (skips : skipArrayLines.run behind = some ((), next)) :
    (separatedFrom true skipArrayLines (valueWithin depth) "]" read (steps + 1)).run
        (renderString first ++ ',' :: behind) =
      (do
        if ← takeText? "]" then return (.string first :: read).reverse
        separatedFrom true skipArrayLines (valueWithin depth) "]" (.string first :: read) steps :
          TextReader (List Value)).run next := by
  have noBlanks : skipArrayLines.run (renderString first ++ ',' :: behind) =
      some ((), renderString first ++ ',' :: behind) :=
    skipArrayLines_run_of_stopsRun (stopsRun_renderString first _)
  have element : (valueWithin depth).run (renderString first ++ ',' :: behind) =
      some (.string first, ',' :: behind) :=
    valueWithin_run_string depth first (Text.stopsRun_cons rfl _)
  have noBlanksBehind : skipArrayLines.run (',' :: behind) = some ((), ',' :: behind) :=
    skipArrayLines_run_of_stopsRun (Text.stopsRun_cons rfl _)
  have notClosed : (takeText? "]").run (',' :: behind) = some (false, ',' :: behind) := rfl
  have comma : (takeText ",").run (',' :: behind) = some ((), behind) := rfl
  rw [separatedFrom, run_bind_of_run noBlanks, run_bind_of_run element,
    run_bind_of_run noBlanksBehind, run_ite_of_run_false notClosed,
    run_bind_of_run comma, if_pos rfl, run_bind_of_run skips]

theorem isSkipped_bracket : isSkipped ']' = false :=
  rfl

/-- The reader is at an element, and follows the writer from line to line up to the bracket. -/
theorem separatedFrom_run_renderElement (depth : Nat) (read : List Value) (first : Text)
    (more : List Text) {steps : Nat} (enough : more.length < steps) (rest : Text) :
    (separatedFrom true skipArrayLines (valueWithin depth) "]" read steps).run
        (renderString first ++ (',' :: '\n' :: (more.flatMap renderElement ++ ']' :: rest))) =
      some (read.reverse ++ (first :: more).map .string, rest) := by
  induction more generalizing read first steps with
  | nil =>
      rcases Nat.exists_eq_add_of_lt enough with ⟨steps, rfl⟩
      have skips : skipArrayLines.run ('\n' :: ']' :: rest) = some ((), ']' :: rest) :=
        @skipArrayLines_run ['\n'] (by simp) _ (Text.stopsRun_cons isSkipped_bracket _)
      have closed : (takeText? "]").run (']' :: rest) = some (true, rest) := rfl
      rw [List.flatMap_nil, List.nil_append, separatedFrom_run_comma depth read first _ skips,
        run_ite_of_run_true closed, List.reverse_cons]
      rfl
  | cons second more ih =>
      rcases Nat.exists_eq_add_of_lt enough with ⟨steps, rfl⟩
      let next := renderString second ++
        (',' :: '\n' :: (more.flatMap renderElement ++ ']' :: rest))
      have shape : '\n' :: ((second :: more).flatMap renderElement ++ ']' :: rest) =
          "\n    " ++ next := by
        simp [renderElement, next]
      have skips : skipArrayLines.run ("\n    " ++ next) = some ((), next) :=
        skipArrayLines_run (by simp) (stopsRun_renderString second _)
      have notClosed : (takeText? "]").run next = some (false, next) :=
        takeText?_run_of_head?_ne (head?_renderString_ne second _ (rfl : isQuote ']' = false))
      rw [shape, separatedFrom_run_comma depth read first _ skips, run_ite_of_run_false notClosed,
        ih _ second (by simp; omega), List.reverse_cons]
      simp

theorem separatedFrom_run_closing (depth : Nat) (read : List Value) (last : Text) (steps : Nat)
    (rest : Text) :
    (separatedFrom true skipArrayLines (valueWithin depth) "]" read (steps + 1)).run
        (renderString last ++ ']' :: rest) =
      some (read.reverse ++ [.string last], rest) := by
  have noBlanks : skipArrayLines.run (renderString last ++ ']' :: rest) =
      some ((), renderString last ++ ']' :: rest) :=
    skipArrayLines_run_of_stopsRun (stopsRun_renderString last _)
  have element : (valueWithin depth).run (renderString last ++ ']' :: rest) =
      some (.string last, ']' :: rest) :=
    valueWithin_run_string depth last (Text.stopsRun_cons rfl _)
  have noBlanksBehind : skipArrayLines.run (']' :: rest) = some ((), ']' :: rest) :=
    skipArrayLines_run_of_stopsRun (Text.stopsRun_cons isSkipped_bracket _)
  have closed : (takeText? "]").run (']' :: rest) = some (true, rest) := rfl
  rw [separatedFrom, run_bind_of_run noBlanks, run_bind_of_run element,
    run_bind_of_run noBlanksBehind, run_ite_of_run_true closed, List.reverse_cons]
  rfl

/-- An array that is not empty is read from its first element on. -/
theorem valueWithin_run_bracket (depth : Nat) {blanks : Text}
    (blank : ∀ char ∈ blanks, char = ' ' ∨ char = '\n') (first behind : Text) :
    (valueWithin (depth + 1)).run ('[' :: (blanks ++ (renderString first ++ behind))) =
      (do
        return .array (← separatedFrom true skipArrayLines (valueWithin depth) "]" []
          ((renderString first ++ behind).length + 1)) : TextReader Value).run
        (renderString first ++ behind) := by
  have skips : skipArrayLines.run (blanks ++ (renderString first ++ behind)) =
      some ((), renderString first ++ behind) :=
    skipArrayLines_run blank (stopsRun_renderString first _)
  have notClosed : (takeText? "]").run (renderString first ++ behind) =
      some (false, renderString first ++ behind) :=
    takeText?_run_of_head?_ne (head?_renderString_ne first _ (rfl : isQuote ']' = false))
  have elements : (separated true skipArrayLines (valueWithin depth) "]").run
      (blanks ++ (renderString first ++ behind)) =
      (separatedFrom true skipArrayLines (valueWithin depth) "]" []
        ((renderString first ++ behind).length + 1)).run (renderString first ++ behind) := by
    rw [separated, run_bind_of_run skips, run_ite_of_run_false notClosed,
      run_bind_of_run (get_run _)]
  rw [valueWithin, run_bind_of_run (peek?_run _), List.head?_cons]
  simp only
  rw [run_bind_of_run (take_run '[' _), StateT.run_bind, elements, StateT.run_bind]

theorem renderElement_ne_nil (text : Text) : renderElement text ≠ [] := by
  simp [renderElement]

theorem valueWithin_run_renderStrings (depth : Nat) (strings : List Text) (rest : Text) :
    (valueWithin (depth + 1)).run (renderStrings strings ++ rest) =
      some (.array (strings.map .string), rest) := by
  rcases strings with _ | ⟨first, _ | ⟨second, more⟩⟩
  · rfl
  · have shape : renderStrings [first] ++ rest =
        '[' :: ([] ++ (renderString first ++ ']' :: rest)) := by
      simp [renderStrings]
    rw [shape, valueWithin_run_bracket depth (by simp) first,
      run_bind_of_run (separatedFrom_run_closing depth [] first _ rest)]
    rfl
  · have shape : renderStrings (first :: second :: more) ++ rest = '[' :: ("\n    " ++
        (renderString first ++
          ',' :: '\n' :: ((second :: more).flatMap renderElement ++ ']' :: rest))) := by
      simp [renderStrings, renderElement]
    have enough : (second :: more).length < (renderString first ++
        ',' :: '\n' :: ((second :: more).flatMap renderElement ++ ']' :: rest)).length + 1 := by
      have least := Text.length_le_length_flatMap (second :: more) renderElement_ne_nil
      simp only [List.length_append, List.length_cons] at least ⊢
      omega
    have elements := separatedFrom_run_renderElement depth [] first (second :: more) enough rest
    rw [shape, valueWithin_run_bracket depth (by simp) first, run_bind_of_run elements]
    rfl

end Reader

/-! ## Values of documents -/

namespace Scalar

def toValue : Scalar → Value
  | string text => .string text
  | strings texts => .array (texts.map .string)
  | integer number => .integer number
  | boolean truth => .boolean truth

/-- The written value is read back; a larger integer has no place in a document. -/
def isReadable : Scalar → Bool
  | integer number => Text.fitsSigned number
  | string _ | strings _ | boolean _ => true

end Scalar

namespace Reader

/-- A value at the end of a line is read back if it is readable, and refused otherwise. -/
theorem valueWithin_run_render (depth : Nat) (written : Scalar) (rest : Text) :
    (valueWithin (depth + 1)).run (written.render ++ '\n' :: rest) =
      if written.isReadable then some (written.toValue, '\n' :: rest) else none := by
  cases written with
  | string text =>
      rw [Scalar.isReadable, if_pos rfl]
      exact valueWithin_run_string _ text (Text.stopsRun_cons rfl _)
  | strings texts =>
      rw [Scalar.isReadable, if_pos rfl]
      exact valueWithin_run_renderStrings depth texts _
  | integer number =>
      have ends : EndsNumber (Text.ofNat number) ('\n' :: rest) :=
        ⟨fun _ digitMem => Text.isDigit_of_mem_ofNat digitMem, Text.stopsRun_cons rfl _⟩
      exact valueWithin_run_integer _ number ends
  | boolean truth =>
      rw [Scalar.isReadable, if_pos rfl]
      cases truth with
      | true => exact valueWithin_run_true _ _
      | false => exact valueWithin_run_false _ _

end Reader

end Toml

end BraceBalance
