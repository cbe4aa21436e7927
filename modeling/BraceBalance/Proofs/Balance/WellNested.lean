import BraceBalance.Proofs.Balance.PrefixSums
import Mathlib.Data.List.Infix

/-!
# Clean reports and well-nested braces

Braces are well nested if no closing brace comes before the opening one it belongs to and all
of them are closed in the end. The scan looks at the balance at the ends of lines only. These
are some of the beginnings of the sequence of all braces, so that well-nested braces never make
a report that is not clean.

The converse asks for the beginnings that end within a line. On a line with one kind of brace
the balance moves in one direction, and it is lowest at one of the ends of the line. On a line
with both kinds it can be negative in between, and the report does not tell.
-/

namespace BraceBalance

/-- All opened braces are closed, and no brace is closed before it is opened. -/
structure WellNested (braces : Text) : Prop where
  closed : openBraces braces = closeBraces braces
  opened : ∀ beginning, beginning <+: braces → closeBraces beginning ≤ openBraces beginning

theorem wellNested_iff_inits (braces : Text) :
    WellNested braces ↔
      openBraces braces = closeBraces braces ∧
        ∀ beginning ∈ braces.inits, closeBraces beginning ≤ openBraces beginning := by
  simp only [List.mem_inits]
  exact ⟨fun nested => ⟨nested.closed, nested.opened⟩, fun ⟨closed, opened⟩ => ⟨closed, opened⟩⟩

instance (braces : Text) : Decidable (WellNested braces) :=
  decidable_of_iff' _ (wellNested_iff_inits braces)

/-- Opened less closed braces. -/
def braceBalance (text : Text) : Int :=
  openBraces text - closeBraces text

theorem braceBalance_append (left right : Text) :
    braceBalance (left ++ right) = braceBalance left + braceBalance right := by
  simp only [braceBalance, openBraces, closeBraces, List.count_append]
  omega

def isBrace (char : Char) : Bool :=
  char = '{' || char = '}'

theorem openBraces_filter_isBrace (text : Text) :
    openBraces (text.filter isBrace) = openBraces text :=
  List.count_filter rfl

theorem closeBraces_filter_isBrace (text : Text) :
    closeBraces (text.filter isBrace) = closeBraces text :=
  List.count_filter rfl

/-- What is not a brace does not matter to the nesting. -/
theorem wellNested_filter_isBrace_iff (text : Text) :
    WellNested (text.filter isBrace) ↔
      braceBalance text = 0 ∧ ∀ beginning, beginning <+: text → 0 ≤ braceBalance beginning := by
  constructor
  · rintro ⟨closed, opened⟩
    rw [openBraces_filter_isBrace, closeBraces_filter_isBrace] at closed
    refine ⟨?_, ?_⟩
    · simp only [braceBalance]
      omega
    · intro beginning isPrefix
      have below := opened (beginning.filter isBrace) (isPrefix.filter isBrace)
      rw [openBraces_filter_isBrace, closeBraces_filter_isBrace] at below
      simp only [braceBalance]
      omega
  · rintro ⟨closed, opened⟩
    refine ⟨?_, ?_⟩
    · rw [openBraces_filter_isBrace, closeBraces_filter_isBrace]
      simp only [braceBalance] at closed
      omega
    · intro beginning isPrefix
      rcases List.prefix_filter_iff.mp isPrefix with ⟨whole, wholePrefix, rfl⟩
      have above := opened whole wholePrefix
      rw [openBraces_filter_isBrace, closeBraces_filter_isBrace]
      simp only [braceBalance] at above
      omega

namespace CommentDetector

variable (detector : CommentDetector)

/-- What counts of all lines, without line ends. -/
def counted (lines : List Text) : Text :=
  lines.flatMap detector.strip

/-- The braces that count, in their order. -/
def countedBraces (lines : List Text) : Text :=
  (detector.counted lines).filter isBrace

theorem braceBalance_counted (lines : List Text) :
    braceBalance (detector.counted lines) = (lines.map detector.lineBalance).sum := by
  induction lines with
  | nil => rfl
  | cons line lines ih =>
      rw [counted, List.flatMap_cons, braceBalance_append, List.map_cons, List.sum_cons, ← ih]
      rfl

/-- The sum after some lines is the balance of a beginning of what counts. -/
theorem balanceAfter_eq_braceBalance (lines : List Text) (count : Nat) :
    detector.balanceAfter lines count = braceBalance (detector.counted (lines.take count)) := by
  rw [braceBalance_counted, balanceAfter]

theorem counted_take_prefix (lines : List Text) (count : Nat) :
    detector.counted (lines.take count) <+: detector.counted lines := by
  refine ⟨detector.counted (lines.drop count), ?_⟩
  simp only [counted, ← List.flatMap_append, List.take_append_drop]

theorem balanceAfter_of_length_le {lines : List Text} {count : Nat} (beyond : lines.length ≤ count) :
    detector.balanceAfter lines count = detector.balanceAfter lines lines.length := by
  simp only [balanceAfter, List.take_of_length_le beyond, List.take_length]

theorem balanceAfter_cons_succ (line : Text) (lines : List Text) (count : Nat) :
    detector.balanceAfter (line :: lines) (count + 1) =
      braceBalance (detector.strip line) + detector.balanceAfter lines count := by
  simp only [balanceAfter, List.take_succ_cons, List.map_cons, List.sum_cons]
  rfl

/-- No line has both kinds of braces before its comment. -/
def OneKindPerLine (lines : List Text) : Prop :=
  ∀ line ∈ lines, ¬('{' ∈ detector.strip line ∧ '}' ∈ detector.strip line)

instance (lines : List Text) : Decidable (detector.OneKindPerLine lines) :=
  inferInstanceAs (Decidable (∀ line ∈ lines, _))

end CommentDetector

/-- Within a text of one kind of brace the balance is lowest at one of the ends. -/
theorem le_braceBalance_of_prefix {text beginning : Text} (oneKind : ¬('{' ∈ text ∧ '}' ∈ text))
    (isPrefix : beginning <+: text) : min 0 (braceBalance text) ≤ braceBalance beginning := by
  have opens : openBraces beginning ≤ openBraces text := isPrefix.count_le '{'
  have closes : closeBraces beginning ≤ closeBraces text := isPrefix.count_le '}'
  simp only [braceBalance]
  by_cases noOpen : '{' ∈ text
  · have noClose : closeBraces text = 0 := List.count_eq_zero.mpr fun close => oneKind ⟨noOpen, close⟩
    omega
  · have noOpens : openBraces text = 0 := List.count_eq_zero.mpr noOpen
    omega

namespace CommentDetector

variable (detector : CommentDetector)

/-- If the balance is negative at no end of a line, it is so nowhere. The induction on the lines
lets the count start from any balance. -/
theorem nonneg_of_prefix_counted {lines : List Text} (oneKind : detector.OneKindPerLine lines)
    {start : Int} (nonneg : ∀ count, 0 ≤ start + detector.balanceAfter lines count)
    {beginning : Text} (isPrefix : beginning <+: detector.counted lines) :
    0 ≤ start + braceBalance beginning := by
  induction lines generalizing start beginning with
  | nil =>
      have isEmpty : beginning = [] := List.prefix_nil.mp isPrefix
      subst isEmpty
      exact nonneg 0
  | cons line lines ih =>
      have atStart := nonneg 0
      have afterLine := nonneg 1
      rw [detector.balanceAfter_cons_succ] at afterLine
      simp only [balanceAfter, List.take_zero, List.map_nil, List.sum_nil, Int.add_zero]
        at atStart afterLine
      rw [counted, List.flatMap_cons] at isPrefix
      have wholeLine := List.prefix_append (detector.strip line) (detector.counted lines)
      rcases List.prefix_or_prefix_of_prefix isPrefix wholeLine with within | ⟨more, rfl⟩
      · have lowest := le_braceBalance_of_prefix (oneKind line List.mem_cons_self) within
        omega
      · have laterNonneg :
            ∀ count, 0 ≤ start + braceBalance (detector.strip line) +
              detector.balanceAfter lines count := by
          intro count
          have next := nonneg (count + 1)
          rw [detector.balanceAfter_cons_succ] at next
          omega
        have laterOneKind : detector.OneKindPerLine lines :=
          fun other otherMem => oneKind other (List.mem_cons_of_mem _ otherMem)
        have later := ih laterOneKind laterNonneg ((List.prefix_append_right_inj _).mp isPrefix)
        rw [braceBalance_append]
        omega

end CommentDetector

namespace Report

variable (detector : CommentDetector) (text : Text)

theorem isBalanced_ofText_iff :
    (ofText detector text).isBalanced ↔ detector.balanceAfter text.lines text.lines.length = 0 := by
  rw [isBalanced, finalBalance_ofText, decide_eq_true_eq]

/-- The balance is never negative, also not after more lines than there are. -/
theorem isClean_ofText_iff :
    (ofText detector text).isClean ↔
      detector.balanceAfter text.lines text.lines.length = 0 ∧
        ∀ count, 0 ≤ detector.balanceAfter text.lines count := by
  simp only [isClean, Bool.and_eq_true, isBalanced_ofText_iff, wentNegative, Bool.not_not,
    List.isEmpty_iff, negativeLines_ofText, CommentDetector.negativeLinesOf,
    List.filter_eq_nil_iff, List.mem_range'_1, decide_eq_true_eq, Int.not_lt]
  apply and_congr_right
  intro balanced
  constructor
  · intro inside count
    rcases count with _ | count
    · exact Int.le_refl 0
    · by_cases within : count < text.lines.length
      · exact inside (count + 1) ⟨by omega, by omega⟩
      · have beyond : text.lines.length ≤ count + 1 := by omega
        have sameAtEnd := detector.balanceAfter_of_length_le beyond
        omega
  · intro nonneg count _
    exact nonneg count

/-- Well-nested braces make a clean report. A clean report tells that they are well nested if no
line counts braces of both kinds, and a balanced one that there are as many of both. -/
theorem isClean_ofText_of_wellNested :
    (WellNested (detector.countedBraces text.lines) → (ofText detector text).isClean) ∧
    (detector.OneKindPerLine text.lines → (ofText detector text).isClean →
      WellNested (detector.countedBraces text.lines)) ∧
    ((ofText detector text).isBalanced ↔
      openBraces (detector.countedBraces text.lines) =
        closeBraces (detector.countedBraces text.lines)) := by
  have total :
      detector.balanceAfter text.lines text.lines.length =
        braceBalance (detector.counted text.lines) := by
    rw [detector.balanceAfter_eq_braceBalance, List.take_length]
  simp only [CommentDetector.countedBraces, wellNested_filter_isBrace_iff, isClean_ofText_iff,
    isBalanced_ofText_iff, total]
  refine ⟨?_, ?_, ?_⟩
  · rintro ⟨closed, opened⟩
    refine ⟨closed, ?_⟩
    intro count
    rw [detector.balanceAfter_eq_braceBalance]
    exact opened _ (detector.counted_take_prefix text.lines count)
  · rintro oneKind ⟨closed, nonneg⟩
    refine ⟨closed, ?_⟩
    intro beginning isPrefix
    have fromZero : ∀ count, 0 ≤ 0 + detector.balanceAfter text.lines count := by
      simpa using nonneg
    simpa using detector.nonneg_of_prefix_counted oneKind fromZero isPrefix
  · rw [openBraces_filter_isBrace, closeBraces_filter_isBrace, braceBalance]
    omega

/-- Nested braces with both kinds on a line and in comments, and a clean text with one kind on
each of its lines. -/
theorem isClean_ofText_of_wellNested_bothWays :
    let slashes := CommentDetector.quoteParity "//"
    let nested : Text := "if \x7b // \x7d\n\x7d else \x7b f(\x7b\x7d) // \x7b\n\x7d\n"
    let oneKind : Text := "\x7b\x7b\n\n\x7d\n// \x7b\n\x7d"
    (WellNested (slashes.countedBraces nested.lines) ∧ (ofText slashes nested).isClean) ∧
      slashes.OneKindPerLine oneKind.lines ∧ (ofText slashes oneKind).isClean ∧
      WellNested (slashes.countedBraces oneKind.lines) := by
  intro slashes nested oneKind
  have isNested : WellNested (slashes.countedBraces nested.lines) := by decide
  have isOneKind : slashes.OneKindPerLine oneKind.lines := by decide
  have isClean : (ofText slashes oneKind).isClean := by decide
  exact ⟨⟨isNested, (isClean_ofText_of_wellNested slashes nested).1 isNested⟩, isOneKind, isClean,
    (isClean_ofText_of_wellNested slashes oneKind).2.1 isOneKind isClean⟩

/-- A line with both kinds can hide a brace that is closed before it is opened. -/
example :
    (ofText .never "\x7d\x7b").isClean ∧
      ¬WellNested (CommentDetector.never.countedBraces (Text.lines "\x7d\x7b")) := by
  decide

end Report

end BraceBalance
