import BraceBalance.Proofs.Text.Reader
import BraceBalance.Toml.Reader
import BraceBalance.Toml.Writer
import Mathlib.Tactic.IntervalCases

/-!
# Written strings are read back

The writer chooses among four forms by the content of a string, and the reader tells them
apart by the mark at the beginning. In each form the reader takes what the writer wrote.

A form with three marks may hold one or two marks in a row. The reader takes a run of marks
before it looks at the next character, the writer counts them one by one; the induction on
the string therefore carries the run of marks that is written and not yet read.
-/

namespace BraceBalance

namespace Toml

open TextReader

/-! ## The choice of a form -/

theorem isPlain_of_needsEscape_eq_false {char : Char} (unescaped : needsEscape char = false)
    (notLineFeed : char ≠ '\n') : Text.isPlain char := by
  simp only [needsEscape, Bool.or_eq_false_iff, Bool.and_eq_false_iff, decide_eq_false_iff_not,
    not_not, not_lt] at unescaped
  simp only [Text.isPlain, Bool.or_eq_true, Bool.and_eq_true, decide_eq_true_eq]
  rcases unescaped with ⟨(printed | tab) | lineFeed, notDelete⟩
  · exact Or.inr ⟨printed, notDelete⟩
  · exact Or.inl tab
  · exact absurd lineFeed notLineFeed

theorem le_longestRunFrom (wanted : Char) (current longest : Nat) (text : Text) :
    longest ≤ longestRunFrom wanted current longest text := by
  induction text generalizing current longest with
  | nil => exact Nat.le_refl longest
  | cons char text ih =>
      rw [longestRunFrom]
      split
      · exact Nat.le_trans (Nat.le_max_left _ _) (ih _ _)
      · exact ih _ _

theorem longestRunFrom_pos_of_mem {wanted : Char} {text : Text} (wantedMem : wanted ∈ text)
    (current longest : Nat) : 0 < longestRunFrom wanted current longest text := by
  induction text generalizing current longest with
  | nil => exact absurd wantedMem List.not_mem_nil
  | cons char text ih =>
      rw [longestRunFrom]
      split
      · have later := le_longestRunFrom wanted (current + 1) (max longest (current + 1)) text
        omega
      · rename_i other
        rcases List.mem_cons.mp wantedMem with rfl | mem
        · exact absurd rfl other
        · exact ih mem _ _

namespace StringForm

/-- What the content of a string has to be for the form that the writer takes. -/
def Admits (text : Text) : StringForm → Prop
  | basic | multilineBasic => True
  | literal => ∀ char ∈ text, Text.isPlain char ∧ char ≠ '\''
  | multilineLiteral =>
      (∀ char ∈ text, needsEscape char = false) ∧ longestRun '\'' text ≤ 2

theorem admits_choose (text : Text) : (choose text).Admits text := by
  have unescaped : (!text.any needsEscape) = true → ∀ char ∈ text, needsEscape char = false := by
    intro none
    simpa using none
  rw [choose]
  split
  · trivial
  · split
    · rename_i literal
      simp only [Bool.and_eq_true, decide_eq_true_eq] at literal
      rcases literal with ⟨⟨control, apostrophes⟩, lineFeed⟩
      intro char charMem
      have notLineFeed : char ≠ '\n' := by
        rintro rfl
        simp [charMem] at lineFeed
      refine ⟨isPlain_of_needsEscape_eq_false (unescaped control char charMem) notLineFeed, ?_⟩
      rintro rfl
      have positive := longestRunFrom_pos_of_mem charMem 0 0
      rw [longestRun] at apostrophes
      omega
    · split
      · trivial
      · split
        · rename_i literal
          simp only [Bool.and_eq_true, decide_eq_true_eq] at literal
          exact ⟨unescaped literal.1, literal.2⟩
        · split <;> trivial

end StringForm

namespace Reader

/-! ## Blanks and line ends -/

/-- Blanks, and what begins the end of a line. -/
def isLayout (char : Char) : Bool :=
  char = ' ' || char = '\t' || char = '\n' || char = '\r'

theorem skipSpaces_run {text : Text} (stops : Text.StopsRun isLayout text) :
    skipSpaces.run text = some ((), text) := by
  apply skipWhile_run_of_stopsRun
  intro char head
  have noLayout := stops char head
  simp only [isLayout, Bool.or_eq_false_iff] at noLayout
  simp only [noLayout.1.1.1, noLayout.1.1.2, Bool.or_self]

theorem skipSpaces_run_space (rest : Text) :
    skipSpaces.run (' ' :: rest) = skipSpaces.run rest := by
  change some ((), (' ' :: rest).dropWhile _) = some ((), rest.dropWhile _)
  rw [List.dropWhile_cons_of_pos rfl]

theorem takeLineEnd?_run_lineFeed (rest : Text) :
    takeLineEnd?.run ('\n' :: rest) = some (true, rest) :=
  rfl

theorem takeLineEnd?_run_of_head?_ne {text : Text} (noLineFeed : text.head? ≠ some '\n')
    (noReturn : text.head? ≠ some '\r') : takeLineEnd?.run text = some (false, text) := by
  have lineFeedAbsent : (takeText? "\n").run text = some (false, text) :=
    takeText?_run_of_head?_ne noLineFeed
  have returnAbsent : (takeText? "\r\n").run text = some (false, text) :=
    takeText?_run_of_head?_ne noReturn
  rw [takeLineEnd?, run_bind_of_run lineFeedAbsent]
  exact returnAbsent

theorem takeLineEnd?_run_of_isPlain {text : Text}
    (plain : ∀ char, text.head? = some char → Text.isPlain char) :
    takeLineEnd?.run text = some (false, text) := by
  apply takeLineEnd?_run_of_head?_ne
  · intro head
    have lineFeed := plain _ head
    simp [Text.isPlain] at lineFeed
  · intro head
    have carriageReturn := plain _ head
    simp [Text.isPlain] at carriageReturn

theorem takeLineEnd?_run {text : Text} (stops : Text.StopsRun isLayout text) :
    takeLineEnd?.run text = some (false, text) := by
  apply takeLineEnd?_run_of_head?_ne
  · exact stops.head?_ne rfl
  · exact stops.head?_ne rfl

/-! ## Escapes -/

/-- What stands behind a backslash for a character: a mark, and perhaps digits. -/
def Escapes (escape : Text) (char : Char) : Prop :=
  ∃ mark digits, escape = mark :: digits ∧ isLayout mark = false ∧
    ∀ rest, takeEscape.run (escape ++ rest) = some (char, rest)

theorem escapes_digits {code : Nat} (control : code < 0x20 ∨ code = 0x7F) :
    Escapes ("u" ++ (Text.ofNatPadded 16 4 code).asciiUpper) (Char.ofNat code) := by
  refine ⟨'u', (Text.ofNatPadded 16 4 code).asciiUpper, rfl, rfl, ?_⟩
  intro rest
  rcases control with low | rfl
  · interval_cases code <;> rfl
  · rfl

/-- A character other than a quotation mark is written as itself or as an escape for it. -/
theorem escapeChar_cases (multiline : Bool) (char : Char) :
    (escapeChar multiline char = [char] ∧
      (Text.isPlain char ∧ char ≠ '\\' ∨ multiline ∧ char = '\n')) ∨
    ∃ escape, escapeChar multiline char = '\\' :: escape ∧ Escapes escape char := by
  unfold escapeChar
  split
  · exact Or.inr ⟨"b", rfl, 'b', [], rfl, rfl, fun _ => rfl⟩
  · exact Or.inr ⟨"t", rfl, 't', [], rfl, rfl, fun _ => rfl⟩
  · cases multiline with
    | true => exact Or.inl ⟨rfl, Or.inr ⟨rfl, rfl⟩⟩
    | false => exact Or.inr ⟨"n", rfl, 'n', [], rfl, rfl, fun _ => rfl⟩
  · exact Or.inr ⟨"f", rfl, 'f', [], rfl, rfl, fun _ => rfl⟩
  · exact Or.inr ⟨"r", rfl, 'r', [], rfl, rfl, fun _ => rfl⟩
  · exact Or.inr ⟨"\\", rfl, '\\', [], rfl, rfl, fun _ => rfl⟩
  · rename_i notTab notLineFeed _ _ notBackslash
    split
    · rename_i control
      have code : char.toNat < 0x20 ∨ char.toNat = 0x7F := by
        simp only [needsEscape, Bool.or_eq_true, Bool.and_eq_true, decide_eq_true_eq] at control
        exact control.imp (fun low => low.1.1) id
      have escapes := escapes_digits code
      rw [Char.ofNat_toNat] at escapes
      exact Or.inr ⟨_, rfl, escapes⟩
    · rename_i unescaped
      have plain : Text.isPlain char :=
        isPlain_of_needsEscape_eq_false (Bool.not_eq_true _ ▸ unescaped) notLineFeed
      exact Or.inl ⟨rfl, Or.inl ⟨plain, notBackslash⟩⟩

/-! ## One line -/

theorem basicFrom_run_escapeChar (read : Text) (steps : Nat) {char : Char} (notQuote : char ≠ '"')
    (rest : Text) :
    (basicFrom read (steps + 1)).run (escapeChar false char ++ rest) =
      (basicFrom (char :: read) steps).run rest := by
  rcases escapeChar_cases false char with ⟨same, kind⟩ | ⟨escape, shape, -, -, -, -, reads⟩
  · rcases kind with ⟨plain, notBackslash⟩ | ⟨multiline, -⟩
    · rw [same, List.singleton_append, basicFrom, run_bind_of_run (take_run _ _), if_neg notQuote,
        if_neg notBackslash, if_pos plain]
    · exact absurd multiline (by simp)
  · rw [shape, List.cons_append, basicFrom, run_bind_of_run (take_run _ _), if_neg (by simp),
      if_pos rfl, run_bind_of_run (reads rest)]

theorem basicFrom_run_escapedQuote (read : Text) (steps : Nat) (rest : Text) :
    (basicFrom read (steps + 1)).run ('\\' :: '"' :: rest) =
      (basicFrom ('"' :: read) steps).run rest :=
  rfl

theorem basicFrom_run_escapeFrom (read text : Text) {steps : Nat} (enough : text.length < steps)
    (rest : Text) :
    (basicFrom read steps).run (escapeFrom false 0 text ++ '"' :: rest) =
      some (read.reverse ++ text, rest) := by
  induction text generalizing read steps with
  | nil =>
      rcases Nat.exists_eq_add_of_lt enough with ⟨steps, rfl⟩
      rw [escapeFrom, List.nil_append, List.append_nil, basicFrom, run_bind_of_run (take_run _ _),
        if_pos rfl]
      rfl
  | cons char text ih =>
      rcases Nat.exists_eq_add_of_lt enough with ⟨steps, rfl⟩
      have shorter : text.length < text.length + 1 + steps := by omega
      rw [escapeFrom]
      by_cases quote : char = '"'
      · subst quote
        rw [if_pos rfl, if_neg Bool.false_ne_true]
        have step := basicFrom_run_escapedQuote read (text.length + 1 + steps)
          (escapeFrom false 0 text ++ '"' :: rest)
        rw [ih _ shorter] at step
        simpa using step
      · rw [if_neg quote, List.append_assoc, List.length_cons,
          basicFrom_run_escapeChar _ _ quote, ih _ shorter]
        simp

theorem length_escapeChar_pos (multiline : Bool) (char : Char) :
    0 < (escapeChar multiline char).length := by
  rcases escapeChar_cases multiline char with ⟨same, -⟩ | ⟨escape, shape, -⟩
  · rw [same]
    exact Nat.succ_pos _
  · rw [shape]
    exact Nat.succ_pos _

/-- Nothing is written as less than itself, so that the length of what is read bounds the
steps. -/
theorem length_le_length_escapeFrom (multiline : Bool) (run : Nat) (text : Text) :
    text.length ≤ (escapeFrom multiline run text).length := by
  induction text generalizing run with
  | nil => exact Nat.zero_le _
  | cons char text ih =>
      have positive := length_escapeChar_pos multiline char
      have next := ih (run + 1)
      have anew := ih 0
      rw [escapeFrom, List.length_cons]
      by_cases quote : char = '"'
      · rw [if_pos quote]
        by_cases room : run < if multiline then 2 else 0
        · rw [if_pos room]
          exact Nat.succ_le_succ next
        · have escaped : ("\\\"" : Text).length = 2 := rfl
          rw [if_neg room, List.length_append, escaped]
          omega
      · rw [if_neg quote, List.length_append]
        omega

theorem finishBasic_run_escapeFrom (text rest : Text) :
    finishBasic.run (escapeFrom false 0 text ++ '"' :: rest) = some (text, rest) := by
  have enough : text.length < (escapeFrom false 0 text ++ '"' :: rest).length + 1 := by
    have written := length_le_length_escapeFrom false 0 text
    rw [List.length_append]
    omega
  rw [finishBasic, run_bind_of_run (get_run _), basicFrom_run_escapeFrom [] text enough]
  rfl

theorem finishLiteral_run {text : Text}
    (plain : ∀ char ∈ text, (Text.isPlain char && char ≠ '\'') = true) (rest : Text) :
    finishLiteral.run (text ++ '\'' :: rest) = some (text, rest) := by
  have stops : Text.StopsRun (fun char => Text.isPlain char && char ≠ '\'') ('\'' :: rest) :=
    Text.stopsRun_cons rfl rest
  have closes : (takeText "'").run ('\'' :: rest) = some ((), rest) := takeText_run_append "'" rest
  rw [finishLiteral, run_bind_of_run (takeWhile_run plain stops), run_bind_of_run closes]
  rfl

/-! ## Several lines -/

/-- One or two marks in a row are part of the string. -/
theorem multilineFrom_run_replicate {quote : Char} {run : Nat} (short : run ≤ 2)
    (escapes : Bool) (read : Text) (steps : Nat) {text : Text}
    (stops : Text.StopsRun (· = quote) text) :
    (multilineFrom quote escapes read (steps + 1)).run (List.replicate run quote ++ text) =
      (multilineFrom quote escapes (List.replicate run quote ++ read) (steps + 1)).run text := by
  have marks : (takeWhile (· = quote)).run (List.replicate run quote ++ text) =
      some (List.replicate run quote, text) := by
    apply takeWhile_run _ stops
    intro mark markMem
    simpa using List.eq_of_mem_replicate markMem
  have noMarks : (takeWhile (· = quote)).run text = some ([], text) :=
    takeWhile_run_of_stopsRun stops
  have notSix : ¬6 ≤ (List.replicate run quote).length := by
    rw [List.length_replicate]
    omega
  have notThree : ¬3 ≤ (List.replicate run quote).length := by
    rw [List.length_replicate]
    omega
  rw [multilineFrom, run_bind_of_run marks, if_neg notSix, if_neg notThree, multilineFrom,
    run_bind_of_run noMarks, if_neg (by simp), if_neg (by simp), List.nil_append]

/-- The mark at the end, with up to two more before it that are part of the string. -/
theorem multilineFrom_run_closing {quote : Char} {run : Nat} (short : run ≤ 2)
    (escapes : Bool) (read : Text) (steps : Nat) {rest : Text}
    (stops : Text.StopsRun (· = quote) rest) :
    (multilineFrom quote escapes read (steps + 1)).run
        (List.replicate (run + 3) quote ++ rest) =
      some (read.reverse ++ List.replicate run quote, rest) := by
  have marks : (takeWhile (· = quote)).run (List.replicate (run + 3) quote ++ rest) =
      some (List.replicate (run + 3) quote, rest) := by
    apply takeWhile_run _ stops
    intro mark markMem
    simpa using List.eq_of_mem_replicate markMem
  have notSix : ¬6 ≤ (List.replicate (run + 3) quote).length := by
    rw [List.length_replicate]
    omega
  have three : 3 ≤ (List.replicate (run + 3) quote).length := by
    rw [List.length_replicate]
    omega
  rw [multilineFrom, run_bind_of_run marks, if_neg notSix, if_pos three, List.drop_replicate,
    Nat.add_sub_cancel, List.reverse_append, List.reverse_replicate]
  rfl

theorem multilineFrom_run_char {quote : Char} {escapes : Bool} {char : Char}
    (notQuote : char ≠ quote)
    (kind : Text.isPlain char ∧ (char = '\\' → escapes = false) ∨ char = '\n') (read : Text)
    (steps : Nat) (rest : Text) :
    (multilineFrom quote escapes read (steps + 1)).run (char :: rest) =
      (multilineFrom quote escapes (char :: read) steps).run rest := by
  have noMarks : (takeWhile (· = quote)).run (char :: rest) = some ([], char :: rest) :=
    takeWhile_run_of_stopsRun (Text.stopsRun_cons (by simpa using notQuote) rest)
  rw [multilineFrom, run_bind_of_run noMarks, if_neg (by simp), if_neg (by simp),
    List.nil_append]
  rcases kind with ⟨plain, literal⟩ | rfl
  · have noLineEnd : takeLineEnd?.run (char :: rest) = some (false, char :: rest) := by
      apply takeLineEnd?_run_of_isPlain
      intro first head
      have same : char = first := by simpa using head
      subst same
      exact plain
    have noEscape : ¬(char = '\\' && escapes) = true := by
      simp only [Bool.and_eq_true, decide_eq_true_eq, not_and]
      intro backslash
      simp [literal backslash]
    rw [run_ite_of_run_false noLineEnd, run_bind_of_run (take_run _ _), if_neg noEscape,
      if_pos plain]
  · rw [run_ite_of_run_true (takeLineEnd?_run_lineFeed rest)]

theorem multilineFrom_run_escape {escape : Text} {char : Char} (escapes : Escapes escape char)
    (read : Text) (steps : Nat) (rest : Text) :
    (multilineFrom '"' true read (steps + 1)).run ('\\' :: (escape ++ rest)) =
      (multilineFrom '"' true (char :: read) steps).run rest := by
  rcases escapes with ⟨mark, digits, shape, noLayout, reads⟩
  have noMarks : (takeWhile (· = '"')).run ('\\' :: (escape ++ rest)) =
      some ([], '\\' :: (escape ++ rest)) :=
    takeWhile_run_of_stopsRun (Text.stopsRun_cons rfl _)
  have stops : Text.StopsRun isLayout (escape ++ rest) := by
    rw [shape]
    exact Text.stopsRun_cons noLayout _
  have noLineEnd : takeLineEnd?.run ('\\' :: (escape ++ rest)) =
      some (false, '\\' :: (escape ++ rest)) :=
    takeLineEnd?_run (Text.stopsRun_cons rfl _)
  have restored : (set (escape ++ rest) : TextReader PUnit).run (escape ++ rest) =
      some (⟨⟩, escape ++ rest) := rfl
  rw [multilineFrom, run_bind_of_run noMarks, if_neg (by simp), if_neg (by simp), List.nil_append,
    run_ite_of_run_false noLineEnd, run_bind_of_run (take_run _ _), if_pos (by simp),
    run_bind_of_run (get_run _), run_bind_of_run (skipSpaces_run stops),
    run_ite_of_run_false (takeLineEnd?_run stops), run_bind_of_run restored,
    run_bind_of_run (reads rest)]

/-- The reader follows the writer through the string; `run` counts the marks in a row that
are written and not yet read. -/
theorem multilineFrom_run_escapeFrom {run : Nat} (short : run ≤ 2) (read text : Text)
    {steps : Nat} (enough : text.length < steps) {rest : Text}
    (stops : Text.StopsRun (· = '"') rest) :
    (multilineFrom '"' true read steps).run
        (List.replicate run '"' ++ (escapeFrom true run text ++ (List.replicate 3 '"' ++ rest))) =
      some (read.reverse ++ (List.replicate run '"' ++ text), rest) := by
  induction text generalizing read run steps with
  | nil =>
      rcases Nat.exists_eq_add_of_lt enough with ⟨steps, rfl⟩
      rw [escapeFrom, List.nil_append, ← List.append_assoc, List.replicate_append_replicate,
        multilineFrom_run_closing short true read _ stops, List.append_nil]
  | cons char text ih =>
      rcases Nat.exists_eq_add_of_lt enough with ⟨steps, rfl⟩
      have shorter : text.length < text.length + 1 + steps := by omega
      have later : (multilineFrom '"' true (char :: (List.replicate run '"' ++ read))
            (text.length + 1 + steps)).run
          (escapeFrom true 0 text ++ (List.replicate 3 '"' ++ rest)) =
          some (read.reverse ++ (List.replicate run '"' ++ char :: text), rest) := by
        have reading := ih (Nat.zero_le 2) (char :: (List.replicate run '"' ++ read)) shorter
        rw [List.replicate_zero, List.nil_append, List.nil_append] at reading
        rw [reading]
        simp
      rw [escapeFrom, List.length_cons]
      by_cases quote : char = '"'
      · subst quote
        rw [if_pos rfl, if_pos rfl]
        by_cases room : run < 2
        · have next : run + 1 ≤ 2 := room
          have reading := ih next read enough.le
          rw [if_pos room]
          rw [List.replicate_succ', List.append_assoc, List.append_assoc] at reading
          exact reading
        · rw [if_neg room]
          have escapes : Escapes ['"'] '"' := ⟨'"', [], rfl, rfl, fun _ => rfl⟩
          have step := multilineFrom_run_escape escapes (List.replicate run '"' ++ read)
            (text.length + 1 + steps) (escapeFrom true 0 text ++ (List.replicate 3 '"' ++ rest))
          rw [later] at step
          have first : Text.StopsRun (· = '"')
              ('\\' :: (['"'] ++ (escapeFrom true 0 text ++ (List.replicate 3 '"' ++ rest)))) :=
            Text.stopsRun_cons rfl _
          rw [← step, ← multilineFrom_run_replicate short true read _ first]
          rfl
      · rw [if_neg quote, List.append_assoc]
        rcases escapeChar_cases true char with ⟨same, kind⟩ | ⟨escape, shape, escapes⟩
        · have kind : Text.isPlain char ∧ (char = '\\' → true = false) ∨ char = '\n' :=
            kind.imp (fun plain => ⟨plain.1, fun backslash => absurd backslash plain.2⟩)
              (fun lineFeed => lineFeed.2)
          rw [same, List.singleton_append,
            multilineFrom_run_replicate short true read _
              (Text.stopsRun_cons (by simpa using quote) _),
            multilineFrom_run_char quote kind, later]
        · rw [shape, List.cons_append,
            multilineFrom_run_replicate short true read _ (Text.stopsRun_cons rfl _),
            multilineFrom_run_escape escapes, later]

theorem multilineFrom_run_literal {run longest : Nat} (short : run ≤ 2) (read : Text) {text : Text}
    (unescaped : ∀ char ∈ text, needsEscape char = false)
    (runs : longestRunFrom '\'' run longest text ≤ 2) {steps : Nat} (enough : text.length < steps)
    {rest : Text} (stops : Text.StopsRun (· = '\'') rest) :
    (multilineFrom '\'' false read steps).run
        (List.replicate run '\'' ++ (text ++ (List.replicate 3 '\'' ++ rest))) =
      some (read.reverse ++ (List.replicate run '\'' ++ text), rest) := by
  induction text generalizing read run longest steps with
  | nil =>
      rcases Nat.exists_eq_add_of_lt enough with ⟨steps, rfl⟩
      rw [List.nil_append, ← List.append_assoc, List.replicate_append_replicate,
        multilineFrom_run_closing short false read _ stops, List.append_nil]
  | cons char text ih =>
      rcases Nat.exists_eq_add_of_lt enough with ⟨steps, rfl⟩
      have unescapedLater : ∀ char ∈ text, needsEscape char = false :=
        fun char charMem => unescaped char (List.mem_cons_of_mem _ charMem)
      rw [longestRunFrom] at runs
      by_cases quote : char = '\''
      · subst quote
        rw [if_pos rfl] at runs
        have next : run + 1 ≤ 2 := by
          have counted := le_longestRunFrom '\'' (run + 1) (max longest (run + 1)) text
          omega
        have reading := ih next read unescapedLater runs enough.le
        rw [List.replicate_succ', List.append_assoc, List.append_assoc] at reading
        exact reading
      · rw [if_neg quote] at runs
        have kind : Text.isPlain char ∧ (char = '\\' → false = false) ∨ char = '\n' := by
          by_cases lineFeed : char = '\n'
          · exact Or.inr lineFeed
          · have plain : Text.isPlain char :=
              isPlain_of_needsEscape_eq_false (unescaped char List.mem_cons_self) lineFeed
            exact Or.inl ⟨plain, fun _ => rfl⟩
        have shorter : text.length < text.length + 1 + steps := by omega
        have reading := ih (Nat.zero_le 2) (char :: (List.replicate run '\'' ++ read))
          unescapedLater runs shorter
        rw [List.replicate_zero, List.nil_append, List.nil_append] at reading
        rw [List.length_cons, List.cons_append,
          multilineFrom_run_replicate short false read _
            (Text.stopsRun_cons (by simpa using quote) _),
          multilineFrom_run_char quote kind, reading]
        simp

/-- The line feed that the writer puts behind the first mark is not part of the string. Without
it the string has no line feed that could be taken for it. -/
theorem finishMultiline_run {quote : Char} {escapes : Bool} {text body rest : Text}
    (reads : ∀ steps, text.length < steps →
      (multilineFrom quote escapes [] steps).run body = some (text, rest))
    (written : text.length ≤ body.length) {lineFeed : Bool}
    (begins : lineFeed = false → takeLineEnd?.run body = some (false, body)) :
    (finishMultiline quote escapes).run ((if lineFeed then ['\n'] else []) ++ body) =
      some (text, rest) := by
  have reading := reads (body.length + 1) (Nat.lt_succ_of_le written)
  cases lineFeed with
  | true =>
      rw [if_pos rfl, List.singleton_append, finishMultiline,
        run_bind_of_run (takeLineEnd?_run_lineFeed body), run_bind_of_run (get_run body), reading]
  | false =>
      rw [if_neg Bool.false_ne_true, List.nil_append, finishMultiline, run_bind_of_run (begins rfl),
        run_bind_of_run (get_run body), reading]

/-! ## All forms -/

/-- A mark of either kind. -/
def isQuote (char : Char) : Bool :=
  char = '"' || char = '\''

/-- One mark before a string is not taken for three. -/
theorem takeText?_run_tripled {quote : Char} {content rest : Text}
    (begins : content.head? ≠ some quote) (stops : rest.head? ≠ some quote) :
    (takeText? [quote, quote, quote]).run (quote :: (content ++ quote :: rest)) =
      some (false, quote :: (content ++ quote :: rest)) := by
  apply takeText?_run_of_not_isPrefix
  rintro ⟨others, same⟩
  rcases content with _ | ⟨first, content⟩
  · simp only [List.nil_append, List.cons_append, List.cons.injEq, true_and] at same
    rw [← same] at stops
    exact stops rfl
  · simp only [List.cons_append, List.cons.injEq, true_and] at same
    exact begins (congrArg some same.1.symm)

theorem head?_escapeFrom_ne_quote (text : Text) :
    (escapeFrom false 0 text).head? ≠ some '"' := by
  rcases text with _ | ⟨char, text⟩
  · simp [escapeFrom]
  · rw [escapeFrom]
    by_cases quote : char = '"'
    · rw [if_pos quote, if_neg Bool.false_ne_true]
      exact fun head => absurd head (by simp)
    · rw [if_neg quote]
      rcases escapeChar_cases false char with ⟨same, -⟩ | ⟨escape, shape, -⟩
      · simpa [same] using quote
      · simp [shape]

theorem string_run_basic (text : Text) {rest : Text} (stops : rest.head? ≠ some '"') :
    string.run (renderStringIn .basic text ++ rest) = some (text, rest) := by
  have shape : renderStringIn .basic text ++ rest =
      '"' :: (escapeFrom false 0 text ++ '"' :: rest) := by
    simp [renderStringIn, StringForm.delimiter, StringForm.isMultiline]
  have single : (takeText? "\"\"\"").run ('"' :: (escapeFrom false 0 text ++ '"' :: rest)) =
      some (false, '"' :: (escapeFrom false 0 text ++ '"' :: rest)) :=
    takeText?_run_tripled (head?_escapeFrom_ne_quote text) stops
  have opens : (takeText? "\"").run ('"' :: (escapeFrom false 0 text ++ '"' :: rest)) =
      some (true, escapeFrom false 0 text ++ '"' :: rest) :=
    takeText?_run_append "\"" _
  rw [shape, string, run_ite_of_run_false single, run_ite_of_run_true opens,
    finishBasic_run_escapeFrom]

/-- A string that begins with an apostrophe is in neither form with quotation marks. -/
theorem string_run_apostrophe (text : Text) :
    string.run ('\'' :: text) = (do
      if ← takeText? "'''" then finishMultiline '\'' false
      else
        takeText "'"
        finishLiteral : TextReader Text).run ('\'' :: text) := by
  have other : ('\'' :: text).head? ≠ some '"' := by simp
  have noTriple : (takeText? "\"\"\"").run ('\'' :: text) = some (false, '\'' :: text) :=
    takeText?_run_of_head?_ne other
  have noSingle : (takeText? "\"").run ('\'' :: text) = some (false, '\'' :: text) :=
    takeText?_run_of_head?_ne other
  rw [string, run_ite_of_run_false noTriple, run_ite_of_run_false noSingle]

theorem string_run_literal {text : Text} (admits : StringForm.literal.Admits text) {rest : Text}
    (stops : rest.head? ≠ some '\'') :
    string.run (renderStringIn .literal text ++ rest) = some (text, rest) := by
  have plain : ∀ char ∈ text, (Text.isPlain char && char ≠ '\'') = true := by
    intro char charMem
    simpa using admits char charMem
  have begins : text.head? ≠ some '\'' := by
    intro head
    exact (admits '\'' (List.mem_of_head? head)).2 rfl
  have shape : renderStringIn .literal text ++ rest = '\'' :: (text ++ '\'' :: rest) := by
    simp [renderStringIn, StringForm.delimiter, StringForm.isMultiline]
  have single : (takeText? "'''").run ('\'' :: (text ++ '\'' :: rest)) =
      some (false, '\'' :: (text ++ '\'' :: rest)) :=
    takeText?_run_tripled begins stops
  have opens : (takeText "'").run ('\'' :: (text ++ '\'' :: rest)) =
      some ((), text ++ '\'' :: rest) :=
    takeText_run_append "'" _
  rw [shape, string_run_apostrophe, run_ite_of_run_false single,
    run_bind_of_run opens, finishLiteral_run plain]

/-- A string without a line feed does not begin like the end of a line in a form with three
quotation marks, for a carriage return is escaped. -/
theorem isPlain_of_head?_escapeFrom {text : Text} (noLineFeed : '\n' ∉ text) {rest : Text}
    {char : Char}
    (head : (escapeFrom true 0 text ++ (List.replicate 3 '"' ++ rest)).head? = some char) :
    Text.isPlain char := by
  rcases text with _ | ⟨first, text⟩
  · have same : '"' = char := by simpa [escapeFrom, List.replicate_succ] using head
    subst same
    decide
  · rw [escapeFrom] at head
    by_cases quote : first = '"'
    · rw [if_pos quote, if_pos rfl] at head
      have same : '"' = char := by simpa using head
      subst same
      decide
    · rw [if_neg quote] at head
      rcases escapeChar_cases true first with ⟨same, kind⟩ | ⟨escape, shape, -⟩
      · have sameChar : first = char := by simpa [same] using head
        subst sameChar
        rcases kind with ⟨plain, -⟩ | ⟨-, rfl⟩
        · exact plain
        · exact absurd List.mem_cons_self noLineFeed
      · have same : '\\' = char := by simpa [shape] using head
        subst same
        decide

theorem string_run_multilineBasic (text : Text) {rest : Text} (stops : rest.head? ≠ some '"') :
    string.run (renderStringIn .multilineBasic text ++ rest) = some (text, rest) := by
  have stopsMark : Text.StopsRun (· = '"') rest := by
    intro char head
    simpa using fun same : char = '"' => stops (same ▸ head)
  have shape : renderStringIn .multilineBasic text ++ rest =
      "\"\"\"" ++ ((if text.contains '\n' then ['\n'] else []) ++
        (escapeFrom true 0 text ++ (List.replicate 3 '"' ++ rest))) := by
    simp [renderStringIn, StringForm.delimiter, StringForm.isMultiline]
  have reads : ∀ steps, text.length < steps → (multilineFrom '"' true [] steps).run
      (escapeFrom true 0 text ++ (List.replicate 3 '"' ++ rest)) = some (text, rest) :=
    fun steps enough => multilineFrom_run_escapeFrom (Nat.zero_le 2) [] text enough stopsMark
  have written : text.length ≤
      (escapeFrom true 0 text ++ (List.replicate 3 '"' ++ rest)).length := by
    have least := length_le_length_escapeFrom true 0 text
    rw [List.length_append]
    omega
  rw [shape, string, run_ite_of_run_true (takeText?_run_append _ _),
    finishMultiline_run reads written]
  intro noLineFeed
  apply takeLineEnd?_run_of_isPlain
  intro char head
  exact isPlain_of_head?_escapeFrom (by simpa using noLineFeed) head

theorem string_run_multilineLiteral {text : Text} (admits : StringForm.multilineLiteral.Admits text)
    {rest : Text} (stops : rest.head? ≠ some '\'') :
    string.run (renderStringIn .multilineLiteral text ++ rest) = some (text, rest) := by
  rcases admits with ⟨unescaped, runs⟩
  have stopsMark : Text.StopsRun (· = '\'') rest := by
    intro char head
    simpa using fun same : char = '\'' => stops (same ▸ head)
  have shape : renderStringIn .multilineLiteral text ++ rest =
      "'''" ++ ((if text.contains '\n' then ['\n'] else []) ++
        (text ++ (List.replicate 3 '\'' ++ rest))) := by
    simp [renderStringIn, StringForm.delimiter, StringForm.isMultiline]
  have reads : ∀ steps, text.length < steps → (multilineFrom '\'' false [] steps).run
      (text ++ (List.replicate 3 '\'' ++ rest)) = some (text, rest) :=
    fun steps enough => multilineFrom_run_literal (Nat.zero_le 2) [] unescaped runs enough stopsMark
  have written : text.length ≤ (text ++ (List.replicate 3 '\'' ++ rest)).length := by
    rw [List.length_append]
    omega
  have opens : ∀ others, (takeText? "'''").run ('\'' :: '\'' :: '\'' :: others) =
      some (true, others) := takeText?_run_append "'''"
  rw [shape]
  change string.run ('\'' :: '\'' :: '\'' :: ((if text.contains '\n' then ['\n'] else []) ++
    (text ++ (List.replicate 3 '\'' ++ rest)))) = _
  rw [string_run_apostrophe, run_ite_of_run_true (opens _),
    finishMultiline_run reads written]
  intro noLineFeed
  apply takeLineEnd?_run_of_isPlain
  intro char head
  rcases text with _ | ⟨first, text⟩
  · have same : '\'' = char := by simpa [List.replicate_succ] using head
    subst same
    decide
  · have same : first = char := by simpa using head
    subst same
    apply isPlain_of_needsEscape_eq_false (unescaped first List.mem_cons_self)
    rintro rfl
    simp at noLineFeed

/-- A string reads back from the form that the writer chooses for it, if no further mark
follows. -/
theorem string_run_renderString (text : Text) {rest : Text} (stops : Text.StopsRun isQuote rest) :
    string.run (renderString text ++ rest) = some (text, rest) := by
  have noQuotation : rest.head? ≠ some '"' := stops.head?_ne rfl
  have noApostrophe : rest.head? ≠ some '\'' := stops.head?_ne rfl
  have admits := StringForm.admits_choose text
  rw [renderString]
  cases form : StringForm.choose text with
  | basic => exact string_run_basic text noQuotation
  | literal => exact string_run_literal (form ▸ admits) noApostrophe
  | multilineBasic => exact string_run_multilineBasic text noQuotation
  | multilineLiteral => exact string_run_multilineLiteral (form ▸ admits) noApostrophe

/-- A written string begins with a mark. -/
theorem exists_renderString_eq_cons (text : Text) :
    ∃ mark others, renderString text = mark :: others ∧ isQuote mark := by
  rw [renderString]
  cases StringForm.choose text with
  | basic => exact ⟨'"', _, rfl, rfl⟩
  | literal => exact ⟨'\'', _, rfl, rfl⟩
  | multilineBasic => exact ⟨'"', _, rfl, rfl⟩
  | multilineLiteral => exact ⟨'\'', _, rfl, rfl⟩

end Reader

end Toml

end BraceBalance
