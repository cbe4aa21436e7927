import BraceBalance.Proofs.Text.Basic
import BraceBalance.Proofs.Text.Lines
import Mathlib.Data.List.Chain

/-!
# Universal line ends

The lines of a text can be told without a scan. Once every terminator is a line feed, they are
what stands between the line feeds, but for an empty piece behind the last one.

Lines that are written with a terminator each, whichever of the three it is, are read back as they
were. There is one exception: a carriage return and the line feed that ends an empty line after it
are one terminator when they are read. The last line may stand without a terminator, unless it is
empty.
-/

namespace BraceBalance

namespace Text

/-! ## Replacing -/

/-- Replaces the occurrences of `needle` from left to right. The next `covered` characters belong
to an occurrence that has been replaced. -/
def replaceFrom (needle replacement : Text) (covered : Nat) : Text → Text
  | [] => []
  | char :: rest =>
      match covered with
      | covered + 1 => replaceFrom needle replacement covered rest
      | 0 =>
          if needle.isPrefixOf (char :: rest) then
            replacement ++ replaceFrom needle replacement (needle.length - 1) rest
          else char :: replaceFrom needle replacement 0 rest

/-- The text with all occurrences of a non-empty `needle` replaced. -/
def replaceAll (text needle replacement : Text) : Text :=
  replaceFrom needle replacement 0 text

theorem replaceFrom_covered (needle replacement : Text) (covered : Nat) (text : Text) :
    replaceFrom needle replacement covered text =
      replaceAll (text.drop covered) needle replacement := by
  induction text generalizing covered with
  | nil => simp [replaceAll, replaceFrom]
  | cons char rest ih =>
      cases covered with
      | zero => rfl
      | succ covered => exact ih covered

theorem replaceAll_cons_of_not_prefix {needle : Text} {char : Char} {rest : Text}
    (absent : ¬needle <+: char :: rest) (replacement : Text) :
    replaceAll (char :: rest) needle replacement =
      char :: replaceAll rest needle replacement := by
  rw [replaceAll, replaceFrom, if_neg (mt List.isPrefixOf_iff_prefix.mp absent)]
  rfl

theorem replaceAll_append {needle : Text} (nonempty : needle ≠ []) (rest replacement : Text) :
    replaceAll (needle ++ rest) needle replacement =
      replacement ++ replaceAll rest needle replacement := by
  rcases List.exists_cons_of_ne_nil nonempty with ⟨first, others, rfl⟩
  have isPrefix : first :: others <+: first :: (others ++ rest) := List.prefix_append _ rest
  rw [List.cons_append, replaceAll, replaceFrom, if_pos (List.isPrefixOf_iff_prefix.mpr isPrefix),
    replaceFrom_covered, List.length_cons, Nat.add_sub_cancel, List.drop_left]

/-! ## Line feeds for all terminators -/

/-- The text with a line feed for every pair of a carriage return and a line feed, and then for
every carriage return. -/
def withLineFeeds (text : Text) : Text :=
  (text.replaceAll ['\r', '\n'] ['\n']).replaceAll ['\r'] ['\n']

/-- What stands between the line feeds of a text, without an empty piece at the end. -/
def betweenLineFeeds (text : Text) : List Text :=
  let pieces := splitOn '\n' text
  if pieces.getLast? = some [] then pieces.dropLast else pieces

def universalLines (text : Text) : List Text :=
  betweenLineFeeds text.withLineFeeds

theorem withLineFeeds_cons {char : Char} (notReturn : char ≠ '\r') (rest : Text) :
    withLineFeeds (char :: rest) = char :: withLineFeeds rest := by
  have noReturn (needle later : Text) : ¬('\r' :: needle) <+: char :: later := by
    intro isPrefix
    exact notReturn (List.cons_prefix_cons.mp isPrefix).1.symm
  rw [withLineFeeds, replaceAll_cons_of_not_prefix (noReturn ['\n'] _),
    replaceAll_cons_of_not_prefix (noReturn [] _)]
  rfl

theorem withLineFeeds_append {line : Text} (noReturn : '\r' ∉ line) (rest : Text) :
    withLineFeeds (line ++ rest) = line ++ withLineFeeds rest := by
  induction line with
  | nil => rfl
  | cons char line ih =>
      have notReturn : char ≠ '\r' := ne_of_mem_of_not_mem List.mem_cons_self noReturn
      have noReturnLater : '\r' ∉ line := fun mem => noReturn (List.mem_cons_of_mem _ mem)
      rw [List.cons_append, withLineFeeds_cons notReturn, ih noReturnLater, List.cons_append]

/-- Whatever ends a line becomes one line feed. A carriage return alone is not changed at first, and
is not taken for a part of a pair, because no line feed follows it. -/
theorem withLineFeeds_terminator {terminator rest : Text} (ends : Terminates terminator rest) :
    withLineFeeds (terminator ++ rest) = '\n' :: withLineFeeds rest := by
  cases ends with
  | lineFeed => exact withLineFeeds_cons (by decide) rest
  | pair =>
      have noReturn (later : Text) : ¬['\r'] <+: '\n' :: later := by simp
      rw [withLineFeeds, replaceAll_append (List.cons_ne_nil _ _), List.singleton_append,
        replaceAll_cons_of_not_prefix (noReturn _)]
      rfl
  | carriageReturn alone =>
      have noPair : ¬['\r', '\n'] <+: '\r' :: rest := by
        intro isPrefix
        rcases (List.cons_prefix_cons.mp isPrefix).2 with ⟨later, rfl⟩
        exact alone rfl
      rw [withLineFeeds, List.singleton_append, replaceAll_cons_of_not_prefix noPair]
      exact replaceAll_append (List.cons_ne_nil _ _) _ _

theorem betweenLineFeeds_cons {line : Text} (noFeed : '\n' ∉ line) (rest : Text) :
    betweenLineFeeds (line ++ '\n' :: rest) = line :: betweenLineFeeds rest := by
  rcases List.exists_cons_of_ne_nil (splitOn_ne_nil '\n' rest) with ⟨piece, pieces, parts⟩
  simp only [betweenLineFeeds, splitOn_append_separator noFeed, parts, List.getLast?_cons_cons,
    List.dropLast_cons_cons]
  split <;> rfl

theorem betweenLineFeeds_of_not_mem {line : Text} (noFeed : '\n' ∉ line) (nonempty : line ≠ []) :
    betweenLineFeeds line = [line] := by
  simp [betweenLineFeeds, splitOn_of_not_mem noFeed, nonempty]

/-- The lines that a scan finds are those between the line feeds that stand for all terminators. -/
theorem lines_eq_universalLines (text : Text) : text.lines = text.universalLines := by
  induction text using lines_induction with
  | nil => rfl
  | line line terminator rest begins ih =>
      rcases begins.unbroken with ⟨noFeed, noReturn⟩
      rw [begins.lines, ih, universalLines, universalLines, withLineFeeds_append noReturn]
      rcases begins.ends with ends | ⟨rfl, rfl⟩
      · rw [withLineFeeds_terminator ends, betweenLineFeeds_cons noFeed]
      · have nonempty : line ≠ [] := by simpa using begins.nonempty
        have noMore : withLineFeeds ([] ++ []) = [] := rfl
        rw [noMore, List.append_nil, betweenLineFeeds_of_not_mem noFeed nonempty]
        rfl

/-! ## Writing lines -/

/-- The ways to end a line. -/
inductive LineEnd where
  | lineFeed
  | pair
  | carriageReturn
deriving DecidableEq

def LineEnd.text : LineEnd → Text
  | lineFeed => ['\n']
  | pair => ['\r', '\n']
  | carriageReturn => ['\r']

/-- A line with what ends it. -/
structure EndedLine where
  line : Text
  unbroken : Unbroken line
  ending : LineEnd

namespace EndedLine

def write (ended : EndedLine) : Text :=
  ended.line ++ ended.ending.text

/-- Between two lines in a row there is only one terminator to be seen: the first one ends with a
carriage return, and the next one is empty and ends with a line feed. -/
def Merges (ended next : EndedLine) : Prop :=
  ended.ending = .carriageReturn ∧ next.line = [] ∧ next.ending = .lineFeed

instance (ended next : EndedLine) : Decidable (ended.Merges next) :=
  inferInstanceAs (Decidable (_ ∧ _ ∧ _))

theorem terminates {ended : EndedLine} {rest : Text}
    (apart : ended.ending = .carriageReturn → rest.head? ≠ some '\n') :
    Terminates ended.ending.text rest := by
  cases isEnding : ended.ending with
  | lineFeed => exact .lineFeed rest
  | pair => exact .pair rest
  | carriageReturn => exact .carriageReturn (apart isEnding)

theorem head?_write_ne (ended : EndedLine) (notFeed : ended.line = [] → ended.ending ≠ .lineFeed)
    (rest : Text) : (ended.write ++ rest).head? ≠ some '\n' := by
  rcases ended with ⟨_ | ⟨char, line⟩, unbroken, ending⟩
  · cases ending with
    | lineFeed => exact absurd rfl (notFeed rfl)
    | pair => simp [write, LineEnd.text]
    | carriageReturn => simp [write, LineEnd.text]
  · have notFeed : char ≠ '\n' := ne_of_mem_of_not_mem List.mem_cons_self unbroken.1
    simpa [write] using notFeed

end EndedLine

/-- A last line that has no terminator, if there is one. -/
def IsOpenEnd (last : Option Text) : Prop :=
  ∀ line ∈ last, Unbroken line ∧ line ≠ []

theorem IsOpenEnd.head?_ne {last : Option Text} (isOpen : IsOpenEnd last) :
    (last.getD []).head? ≠ some '\n' := by
  rcases last with _ | line
  · simp
  · intro isFeed
    exact (isOpen line rfl).1.1 (List.mem_of_mem_head? isFeed)

/-- Lines are read back from the text they are written as, whatever ends each of them. -/
theorem lines_write {endedLines : List EndedLine} {last : Option Text}
    (apart : endedLines.IsChain fun ended next => ¬ended.Merges next) (isOpen : IsOpenEnd last) :
    lines (endedLines.flatMap EndedLine.write ++ last.getD []) =
      endedLines.map EndedLine.line ++ last.toList := by
  induction endedLines with
  | nil =>
      rcases last with _ | line
      · rfl
      · exact lines_unbroken (isOpen line rfl).1 (isOpen line rfl).2
  | cons ended later ih =>
      rw [List.isChain_cons] at apart
      have ends : Terminates ended.ending.text (later.flatMap EndedLine.write ++ last.getD []) := by
        apply EndedLine.terminates
        intro isReturn
        rcases later with _ | ⟨next, later⟩
        · exact isOpen.head?_ne
        · rw [List.flatMap_cons, List.append_assoc]
          apply next.head?_write_ne
          intro isEmpty isFeed
          exact apart.1 next rfl ⟨isReturn, isEmpty, isFeed⟩
      rw [List.flatMap_cons, EndedLine.write, List.append_assoc, List.append_assoc,
        lines_terminated ended.unbroken ends, ih apart.2]
      rfl

end Text

end BraceBalance
