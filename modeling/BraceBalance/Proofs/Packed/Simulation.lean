import BraceBalance.Proofs.Packed.Counting
import BraceBalance.Proofs.Packed.Lines
import BraceBalance.Proofs.Report.NumberBounds

/-!
# The scan of packed texts never traps

The scan of a packed text follows the scan of the text line by line. After each line its offset is
where the bytes of the remaining text begin, and its words are those of the numbers that the scan
of the text has come to.

The bound that keeps every result within its word is carried along: what has been counted is not
more than the characters that have been read, and a text has at least as many bytes. So the scan of
a text whose length a signed word can hold comes to its end, with the same report.
-/

namespace BraceBalance

namespace PackedProgress

open Packed (ofText)

/-- A progress up to an offset, in words. -/
def pack (offset : Nat) (progress : Progress) : PackedProgress where
  offset := .ofNat offset
  linesRead := .ofNat progress.linesRead
  balance := .ofInt progress.balance
  traces := progress.traces
  negativeLines := progress.negativeLines

/-- One more line of a packed text is one more line of the text, if what has been counted leaves
room for what the line can hold. -/
theorem readLine_pack {earlier line terminator rest : Text} {progress : Progress} {lines chars : Nat}
    (marker : Text) (begins : Text.BeginsWithLine line terminator rest)
    (within : progress.Within lines chars)
    (small : (ofText (earlier ++ (line ++ (terminator ++ rest)))).length ≤ Text.maxSigned)
    (linesFit : (lines + 1 : ℕ) ≤ Text.maxSigned)
    (charsFit : (chars + line.length : ℕ) ≤ Text.maxSigned) :
    (pack (ofText earlier).length progress).readLine
        (ofText (earlier ++ (line ++ (terminator ++ rest)))) (ofText marker) =
      .ok (pack (ofText (earlier ++ (line ++ terminator))).length
        (progress.readLine (.quoteParity marker) line)) := by
  have lineSmall : (ofText line).length ≤ Text.maxSigned := by
    simp only [Packed.length_ofText_append] at small
    omega
  have nextCut := Packed.nextLine_ofText begins (Text.fitsUnsigned_of_le small (Nat.le_refl _))
  have stripped := Packed.strip_ofText marker (Text.fitsUnsigned_of_le lineSmall (Nat.le_refl _))
  have strippedLe := (CommentDetector.quoteParity marker).length_strip_le line
  have counted := @Packed.countBraces_ofText ((CommentDetector.quoteParity marker).strip line)
    (Text.fitsUnsigned_of_le charsFit (by omega))
  have before := within.balance
  have after := (within.readLine (.quoteParity marker) line).balance
  simp only [Progress.readLine] at after ⊢
  -- From here on only the two counts matter, not what has been counted.
  have opensLe := (CommentDetector.quoteParity marker).openBraces_strip_le line
  have closesLe := (CommentDetector.quoteParity marker).closeBraces_strip_le line
  generalize openBraces ((CommentDetector.quoteParity marker).strip line) = opens at *
  generalize closeBraces ((CommentDetector.quoteParity marker).strip line) = closes at *
  have numberFits := Text.fitsUnsigned_of_le linesFit (Nat.le_refl _)
  have opensFit : Text.fitsUnsigned opens := Text.fitsUnsigned_of_le charsFit (by omega)
  have closesFit : Text.fitsUnsigned closes := Text.fitsUnsigned_of_le charsFit (by omega)
  have beforeFits : Text.fitsSigned progress.balance := Text.fitsSigned_of_abs_le charsFit (by omega)
  have afterFits := Text.fitsSigned_of_abs_le charsFit after
  have changes := @Word.exists_change progress.balance opens closes _ charsFit (by omega) (by omega)
    (by omega) after
  rcases changes with ⟨change, changed, added⟩
  simp only [readLine, pack, bind, Except.bind, pure, Except.pure, nextCut, within.linesRead,
    Packed.add_one_ofNat numberFits, stripped, counted, changed, added, Packed.toText_ofText,
    Word.toNat_ofNat numberFits, Word.toNat_ofNat opensFit, Word.toNat_ofNat closesFit,
    Word.toInt_ofInt beforeFits, Word.toInt_ofInt afterFits, Word.ofNat_pos_iff opensFit,
    Word.ofNat_pos_iff closesFit, Word.ofInt_neg_iff afterFits]

end PackedProgress

/-! ## Runs -/

/-- The first lines of a text are in `before`, and the other ones are the lines of `rest`. -/
structure Text.SplitsAfter (text : Text) (count : Nat) (before rest : Text) : Prop where
  whole : before ++ rest = text
  later : text.lines.drop count = lines rest
  chars : (text.lines.take count).flatten.length ≤ before.length

namespace Text

variable {text before line terminator rest : Text} {count : Nat}

theorem splitsAfter_zero (text : Text) : SplitsAfter text 0 [] text where
  whole := rfl
  later := rfl
  chars := Nat.le_refl 0

theorem SplitsAfter.rest_eq_nil (splits : SplitsAfter text count before rest)
    (noMore : text.lines.length ≤ count) : rest = [] := by
  by_contra nonempty
  apply lines_ne_nil nonempty
  rw [← splits.later, List.drop_eq_nil_iff]
  exact noMore

theorem SplitsAfter.length_ofText_before_le (splits : SplitsAfter text count before rest) :
    (Packed.ofText before).length ≤ (Packed.ofText text).length := by
  rw [← splits.whole, Packed.length_ofText_append]
  exact Nat.le_add_right _ _

theorem SplitsAfter.take_succ_of_line
    (splits : SplitsAfter text count before (line ++ (terminator ++ rest)))
    (begins : BeginsWithLine line terminator rest) :
    text.lines.take (count + 1) = text.lines.take count ++ [line] := by
  have here : text.lines[count]? = some line := by
    rw [← List.head?_drop, splits.later, begins.lines, List.head?_cons]
  rw [List.take_add_one, here, Option.toList_some]

/-- There are bytes enough for one line more and its characters. -/
theorem SplitsAfter.length_le_of_line
    (splits : SplitsAfter text count before (line ++ (terminator ++ rest)))
    (begins : BeginsWithLine line terminator rest) :
    (text.lines.take count).length + 1 ≤ (Packed.ofText text).length ∧
      before.length + line.length ≤ (Packed.ofText text).length := by
  have bytes := Packed.length_le_length_ofText text
  refine ⟨?_, ?_⟩
  · have lines := text.length_lines_le
    have taken := List.length_take_le' (count + 1) text.lines
    rw [splits.take_succ_of_line begins, List.length_append, List.length_singleton] at taken
    omega
  · have chars := congrArg List.length splits.whole
    simp only [List.length_append] at chars
    omega

theorem SplitsAfter.succ_of_line
    (splits : SplitsAfter text count before (line ++ (terminator ++ rest)))
    (begins : BeginsWithLine line terminator rest) :
    SplitsAfter text (count + 1) (before ++ (line ++ terminator)) rest := by
  refine ⟨?_, ?_, ?_⟩
  · simpa only [List.append_assoc] using splits.whole
  · rw [← List.tail_drop, splits.later, begins.lines, List.tail_cons]
  · have chars := splits.chars
    rw [splits.take_succ_of_line begins]
    simp only [List.flatten_append, List.flatten_singleton, List.length_append]
    omega

theorem SplitsAfter.take_succ_of_end (splits : SplitsAfter text count before []) :
    text.lines.take (count + 1) = text.lines.take count := by
  have noMore : text.lines.length ≤ count := List.drop_eq_nil_iff.mp splits.later
  rw [List.take_of_length_le noMore, List.take_of_length_le (Nat.le_succ_of_le noMore)]

theorem SplitsAfter.succ_of_end (splits : SplitsAfter text count before []) :
    SplitsAfter text (count + 1) before [] := by
  refine ⟨splits.whole, ?_, ?_⟩
  · rw [← List.tail_drop, splits.later]
    rfl
  · rw [splits.take_succ_of_end]
    exact splits.chars

end Text

namespace Progress

/-- The progress after some lines of a text. -/
def afterLines (detector : CommentDetector) (text : Text) (count : Nat) : Progress :=
  (text.lines.take count).foldl (readLine detector) start

variable (detector : CommentDetector) {text before line terminator rest : Text} {count : Nat}

theorem afterLines_succ_of_line
    (splits : text.SplitsAfter count before (line ++ (terminator ++ rest)))
    (begins : Text.BeginsWithLine line terminator rest) :
    afterLines detector text (count + 1) = (afterLines detector text count).readLine detector line := by
  rw [afterLines, splits.take_succ_of_line begins, List.foldl_append]
  rfl

theorem afterLines_succ_of_end (splits : text.SplitsAfter count before []) :
    afterLines detector text (count + 1) = afterLines detector text count := by
  rw [afterLines, splits.take_succ_of_end, afterLines]

theorem within_afterLines (splits : text.SplitsAfter count before rest) :
    (afterLines detector text count).Within (text.lines.take count).length before.length := by
  have within := within_start.foldl_readLine detector (text.lines.take count)
  rw [Nat.zero_add, Nat.zero_add] at within
  exact within.mono splits.chars

end Progress

namespace PackedProgress

open Packed (ofText)

theorem isDone_pack_iff {before rest : Text} (fits : Text.fitsUnsigned (ofText before).length)
    (progress : Progress) :
    (pack (ofText before).length progress).isDone (ofText (before ++ rest)) ↔ rest = [] := by
  rw [isDone, decide_eq_true_iff, pack, Word.toNat_ofNat fits, Packed.length_ofText_append,
    ← Packed.ofText_eq_nil_iff, ← List.length_eq_zero_iff]
  omega

/-- After every number of lines, the scan of a packed text is where the scan of the text is. -/
theorem afterLines_ofText {text : Text} (marker : Text)
    (small : (ofText text).length ≤ Text.maxSigned) (count : Nat) :
    ∃ before rest, text.SplitsAfter count before rest ∧
      afterLines (ofText text) (ofText marker) count =
        .ok (pack (ofText before).length (Progress.afterLines (.quoteParity marker) text count)) := by
  induction count with
  | zero => exact ⟨[], text, text.splitsAfter_zero, rfl⟩
  | succ count ih =>
      rcases ih with ⟨before, rest, splits, reached⟩
      have isDone_iff := @isDone_pack_iff before rest
        (Text.fitsUnsigned_of_le small (splits.length_ofText_before_le))
        (Progress.afterLines (.quoteParity marker) text count)
      rw [splits.whole] at isDone_iff
      rw [afterLines, reached]
      simp only [bind, Except.bind]
      by_cases isEmpty : rest = []
      · -- All bytes have been read, and both scans stay where they are.
        subst isEmpty
        refine ⟨before, [], splits.succ_of_end, ?_⟩
        rw [if_pos (isDone_iff.mpr rfl), Progress.afterLines_succ_of_end _ splits]
        rfl
      · rcases Text.exists_beginsWithLine isEmpty with ⟨line, terminator, after, rfl, begins⟩
        refine ⟨before ++ (line ++ terminator), after, splits.succ_of_line begins, ?_⟩
        rw [if_neg (mt isDone_iff.mp isEmpty), Progress.afterLines_succ_of_line _ splits begins]
        have within := Progress.within_afterLines (.quoteParity marker) splits
        rcases splits.length_le_of_line begins with ⟨linesLe, charsLe⟩
        have step := readLine_pack marker begins within (by rwa [splits.whole]) (by omega) (by omega)
        rwa [splits.whole] at step

/-- The words of a progress that the scan of a text comes to give its numbers back. -/
theorem pack_exact {text before rest : Text} {count : Nat} (detector : CommentDetector)
    (small : (ofText text).length ≤ Text.maxSigned) (splits : text.SplitsAfter count before rest) :
    let progress := Progress.afterLines detector text count
    let packed := pack (ofText before).length progress
    packed.offset.toNat = (ofText before).length ∧
      packed.linesRead.toNat = progress.linesRead ∧ packed.balance.toInt = progress.balance := by
  have within := Progress.within_afterLines detector splits
  have linesRead := within.linesRead
  have lines := List.length_take_le' count text.lines
  have allLines := text.length_lines_le
  have bytes := Packed.length_le_length_ofText text
  have bytesBefore := Packed.length_le_length_ofText before
  have noLonger := splits.length_ofText_before_le
  refine ⟨?_, ?_, ?_⟩
  · exact Word.toNat_ofNat (Text.fitsUnsigned_of_le small noLonger)
  · exact Word.toNat_ofNat (Text.fitsUnsigned_of_le small (by omega))
  · exact Word.toInt_ofInt (Text.fitsSigned_of_abs_le (by omega) within.balance)

/-- The balance after some lines is exact, and at most the number of bytes up to the offset. -/
theorem exists_afterLines_ofText {text : Text} (marker : Text)
    (small : (ofText text).length ≤ Text.maxSigned) (count : Nat) :
    ∃ progress, afterLines (ofText text) (ofText marker) count = .ok progress ∧
      progress.balance.toInt = (Progress.afterLines (.quoteParity marker) text count).balance ∧
      progress.balance.toInt.natAbs ≤ progress.offset.toNat ∧
      progress.offset.toNat ≤ (ofText text).length := by
  rcases afterLines_ofText marker small count with ⟨before, rest, splits, reached⟩
  rcases pack_exact (.quoteParity marker) small splits with ⟨offset, -, balance⟩
  have bound := (Progress.within_afterLines (.quoteParity marker) splits).balance
  have bytesBefore := Packed.length_le_length_ofText before
  refine ⟨_, reached, balance, ?_, ?_⟩
  · rw [balance, offset]
    omega
  · rw [offset]
    exact splits.length_ofText_before_le

end PackedProgress

namespace Packed

/-- A text has no more lines than bytes, so that the scan comes to its end. -/
theorem report_ofText {text : Text} (marker : Text)
    (small : (ofText text).length ≤ Text.maxSigned) :
    report (ofText text) (ofText marker) = .ok (Report.ofText (.quoteParity marker) text) := by
  rcases PackedProgress.afterLines_ofText marker small (ofText text).length with
    ⟨before, rest, splits, reached⟩
  have enough : text.lines.length ≤ (ofText text).length :=
    Nat.le_trans text.length_lines_le (length_le_length_ofText text)
  have isEnd := splits.rest_eq_nil enough
  subst isEnd
  have beforeFits := Text.fitsUnsigned_of_le small splits.length_ofText_before_le
  have isDone := (@PackedProgress.isDone_pack_iff before [] beforeFits
    (Progress.afterLines (.quoteParity marker) text (ofText text).length)).mpr rfl
  rw [splits.whole] at isDone
  rcases PackedProgress.pack_exact (.quoteParity marker) small splits with
    ⟨-, linesRead, balance⟩
  have allRead : Progress.afterLines (.quoteParity marker) text (ofText text).length =
      text.lines.foldl (Progress.readLine (.quoteParity marker)) .start := by
    rw [Progress.afterLines, List.take_of_length_le enough]
  rw [report, reached]
  simp only [bind, Except.bind, if_pos isDone, linesRead, balance]
  rw [allRead]
  rfl

/-- The scan of the bytes of a text never traps, however far it has come: all that is cut out of
them lies between characters, no result leaves its word, and the balance is at no time larger than
the number of bytes that have been read. Its report is that of the text. -/
theorem report_eq_ok_of_isText {content : ByteArray} {text : Text}
    (isText : Text.ofBytes? content = some text) (small : content.size ≤ Text.maxSigned)
    (marker : Text) :
    (∀ count, ∃ progress,
        PackedProgress.afterLines content.data.toList (ofText marker) count = .ok progress ∧
          progress.balance.toInt =
            (Progress.afterLines (.quoteParity marker) text count).balance ∧
          progress.balance.toInt.natAbs ≤ progress.offset.toNat ∧
          progress.offset.toNat ≤ content.size) ∧
      report content.data.toList (ofText marker) =
        .ok (Report.ofText (.quoteParity marker) text) := by
  have isPacked : content.data.toList = ofText text := by
    rw [← Text.toBytes_of_ofBytes? isText, data_toBytes]
  have sizeIs : content.size = (ofText text).length := by
    rw [← isPacked]
    rfl
  rw [sizeIs] at small ⊢
  rw [isPacked]
  exact ⟨PackedProgress.exists_afterLines_ofText marker small, report_ofText marker small⟩

/-- Characters of several bytes in the marker and around it, an escaped quote, and terminators of
all kinds. -/
theorem report_eq_ok_of_isText_multiByte :
    let text : Text := "é\x7b \"\\\"→\x7b\"\r\n\x7d → \x7d\r\x7d\x7d\n€"
    text.toBytes.size = 28 ∧
      (∃ progress,
        PackedProgress.afterLines text.toBytes.data.toList (ofText "→") 3 = .ok progress ∧
          progress.balance.toInt = -1 ∧ 1 ≤ progress.offset.toNat) ∧
      report text.toBytes.data.toList (ofText "→") =
        .ok { path := none
              linesScanned := 4
              finalBalance := -1
              traces :=
                [{ line := 1, text := "é\x7b \"\\\"→\x7b\"", opens := 2, closes := 0, before := 0, after := 2 },
                  { line := 2, text := "\x7d → \x7d", opens := 0, closes := 1, before := 2, after := 1 },
                  { line := 3, text := "\x7d\x7d", opens := 0, closes := 2, before := 1, after := -1 }]
              negativeLines := [3, 4] } := by
  intro text
  have sizeIs : text.toBytes.size = 28 := by decide
  have small : (text.toBytes.size : Int) ≤ Text.maxSigned := by
    rw [sizeIs]
    decide
  rcases report_eq_ok_of_isText (Text.ofBytes?_toBytes text) small "→" with ⟨reached, whole⟩
  refine ⟨sizeIs, ?_, ?_⟩
  · rcases reached 3 with ⟨progress, afterThree, exact, bound, -⟩
    have balance : (Progress.afterLines (.quoteParity "→") text 3).balance = -1 := by decide
    rw [balance] at exact
    rw [exact] at bound
    exact ⟨progress, afterThree, exact, bound⟩
  · rw [whole]
    apply congrArg
    decide

end Packed

end BraceBalance
