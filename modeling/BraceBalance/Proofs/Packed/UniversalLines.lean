import BraceBalance.Proofs.Packed.Lines
import BraceBalance.Proofs.Text.UniversalLines

/-!
# Lines one after the other

A packed text gives its lines one at a time, from the offset behind the line before. Every line
takes up at least one byte, itself or with its terminator, so that the offsets come to the end of
the bytes after as many calls as the text has lines.
-/

namespace BraceBalance

namespace Packed

/-- Called for the next line from an offset on, again and again until no byte is left, a packed
text gives these lines. Each of the lines stands for one call. -/
inductive YieldsLines (packed : Packed) : UInt64 → List Packed → Prop where
  | done {start : UInt64} (noneLeft : packed.length ≤ start.toNat) : YieldsLines packed start []
  | line {start next : UInt64} {line : Packed} {later : List Packed}
      (left : start.toNat < packed.length) (given : packed.nextLine start = .ok (line, next))
      (goesOn : YieldsLines packed next later) : YieldsLines packed start (line :: later)

/-- From the place where a beginning of a text ends, the calls give the lines of the rest. The
induction goes along these lines, and what they take up moves to the beginning. -/
theorem yieldsLines_ofText_append (before rest : Text)
    (fits : Text.fitsUnsigned (ofText (before ++ rest)).length) :
    YieldsLines (ofText (before ++ rest)) (.ofNat (ofText before).length)
      (rest.lines.map ofText) := by
  induction rest using Text.lines_induction generalizing before with
  | nil =>
      rw [List.append_nil] at fits ⊢
      exact .done (Nat.le_of_eq (Word.toNat_ofNat fits).symm)
  | line line terminator rest begins ih =>
      have lengths := length_ofText_append
      have startFits : Text.fitsUnsigned (ofText before).length := by
        apply Word.fitsUnsigned_of_le_fitting fits
        rw [lengths]
        omega
      have left :
          (UInt64.ofNat (ofText before).length).toNat <
            (ofText (before ++ (line ++ (terminator ++ rest)))).length := by
        have positive := List.length_pos_iff.mpr (mt ofText_eq_nil_iff.mp begins.nonempty)
        rw [Word.toNat_ofNat startFits]
        simp only [lengths] at positive ⊢
        omega
      have moved : before ++ (line ++ (terminator ++ rest)) =
          before ++ (line ++ terminator) ++ rest := by
        simp only [List.append_assoc]
      have later := ih (before ++ (line ++ terminator)) (moved ▸ fits)
      rw [begins.lines]
      exact .line left (nextLine_ofText begins fits) (moved ▸ later)

end Packed

namespace Text

open Packed (ofText YieldsLines)

/-- The lines of a text are those of universal line ends. Lines that are written down are read back,
unless a carriage return and the line feed of an empty line come together. And called again and
again, a packed text gives its lines and then has no more; its bytes are no more than a word counts,
as for every text in memory. -/
theorem lines_universal :
    (∀ text : Text, text.lines = text.universalLines) ∧
    (∀ (endedLines : List EndedLine) (last : Option Text),
      (endedLines.IsChain fun ended next => ¬ended.Merges next) → IsOpenEnd last →
        lines (endedLines.flatMap EndedLine.write ++ last.getD []) =
          endedLines.map EndedLine.line ++ last.toList) ∧
    ∀ text : Text, Text.fitsUnsigned (ofText text).length →
      YieldsLines (ofText text) 0 (text.lines.map ofText) := by
  refine ⟨lines_eq_universalLines, ?_, ?_⟩
  · intro endedLines last apart isOpen
    exact lines_write apart isOpen
  · intro text fits
    exact Packed.yieldsLines_ofText_append [] text fits

/-- Terminators of all kinds next to each other, empty lines, and a last line that is open. -/
theorem lines_universal_mixed :
    let endedLines : List EndedLine :=
      [⟨"é", by decide, .carriageReturn⟩, ⟨[], by decide, .pair⟩, ⟨[], by decide, .lineFeed⟩,
        ⟨"\x7b", by decide, .carriageReturn⟩, ⟨[], by decide, .carriageReturn⟩]
    let text : Text := "é\r\r\n\n\x7b\r\rc"
    text = endedLines.flatMap EndedLine.write ++ "c" ∧
      (endedLines.IsChain fun ended next => ¬ended.Merges next) ∧ IsOpenEnd (some "c") ∧
      text.lines = ["é", "", "", "\x7b", "", "c"] ∧ Text.fitsUnsigned (ofText text).length ∧
      YieldsLines (ofText text) 0 [[0xC3, 0xA9], [], [], [0x7B], [], [0x63]] := by
  intro endedLines text
  have written : text = endedLines.flatMap EndedLine.write ++ "c" := by decide
  have apart : endedLines.IsChain fun ended next => ¬ended.Merges next := by decide
  have isOpen : IsOpenEnd (some "c") := by
    rintro line ⟨⟩
    decide
  have fits : Text.fitsUnsigned (ofText text).length := by decide
  refine ⟨written, apart, isOpen, ?_, fits, ?_⟩
  · rw [written]
    exact lines_universal.2.1 endedLines (some "c") apart isOpen
  · exact lines_universal.2.2 text fits

/-- The one exception: two lines are written, and one is read. -/
example : lines "a\r\n" = ["a"] := by
  decide

end Text

end BraceBalance
