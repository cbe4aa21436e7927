import BraceBalance.Proofs.Toml.DocumentRoundTrip

/-!
# Comments above a document

Lines of comments, and blank lines among them, may stand above a document. The reader reads the
document as if they were not there.
-/

namespace BraceBalance

theorem TextReader.skipWhile_run {drops : Char → Bool} {run rest : Text}
    (dropped : ∀ char ∈ run, drops char) (stops : Text.StopsRun drops rest) :
    (skipWhile drops).run (run ++ rest) = some ((), rest) := by
  change some ((), (run ++ rest).dropWhile drops) = _
  rw [List.dropWhile_append_of_pos dropped, Text.dropWhile_of_stopsRun stops]

namespace Toml

open TextReader

/-- A line with a comment, or a blank line. -/
def renderRemark : Option Text → Text
  | some comment => '#' :: (comment ++ "\n")
  | none => "\n"

/-- All characters of the comment may stand in one. -/
def IsRemark (remark : Option Text) : Prop :=
  ∀ comment, remark = some comment → ∀ char ∈ comment, Text.isPlain char

namespace Reader

theorem skipLines_run_remark {remark : Option Text} (isRemark : IsRemark remark) (steps : Nat)
    (rest : Text) :
    (skipLines (steps + 1)).run (renderRemark remark ++ rest) = (skipLines steps).run rest := by
  cases remark with
  | none => exact skipLines_run_lineFeed steps rest
  | some comment =>
      have shape : renderRemark (some comment) ++ rest = '#' :: (comment ++ '\n' :: rest) := by
        simp [renderRemark]
      have begins : skipSpaces.run ('#' :: (comment ++ '\n' :: rest)) =
          some ((), '#' :: (comment ++ '\n' :: rest)) := skipSpaces_run (Text.stopsRun_cons rfl _)
      have marked : (takeText? "#").run ('#' :: (comment ++ '\n' :: rest)) =
          some (true, comment ++ '\n' :: rest) := takeText?_run_append "#" _
      have skipped : (skipWhile Text.isPlain).run (comment ++ '\n' :: rest) =
          some ((), '\n' :: rest) :=
        skipWhile_run (isRemark comment rfl) (Text.stopsRun_cons rfl _)
      have ended : finishLineEnd.run ('\n' :: rest) = some ((), rest) := rfl
      rw [shape, skipLines, run_bind_of_run begins, run_ite_of_run_true marked,
        run_bind_of_run skipped, run_bind_of_run ended]

theorem skipLines_run_remarks {remarks : List (Option Text)}
    (areRemarks : ∀ remark ∈ remarks, IsRemark remark) {steps : Nat}
    (enough : remarks.length < steps) {rest : Text} (stops : Text.StopsRun isSkipped rest) :
    (skipLines steps).run (remarks.flatMap renderRemark ++ rest) = some ((), rest) := by
  induction remarks generalizing steps with
  | nil =>
      rcases Nat.exists_eq_add_of_lt enough with ⟨steps, rfl⟩
      exact skipLines_run_of_stopsRun _ stops
  | cons remark remarks ih =>
      rcases steps with _ | steps
      · contradiction
      · rw [List.flatMap_cons, List.append_assoc,
          skipLines_run_remark (areRemarks remark List.mem_cons_self)]
        exact ih (fun other otherMem => areRemarks other (List.mem_cons_of_mem _ otherMem))
          (Nat.lt_of_succ_lt_succ enough)

theorem length_remarks_le (remarks : List (Option Text)) :
    remarks.length ≤ (remarks.flatMap renderRemark).length := by
  apply Text.length_le_length_flatMap
  rintro (_ | comment) <;> simp [renderRemark]

/-- Statements are read behind remarks as they are without them. -/
theorem statementsFrom_run_remarks {remarks : List (Option Text)}
    (areRemarks : ∀ remark ∈ remarks, IsRemark remark) {text : Text}
    (begins : Text.StopsRun isSkipped text) (read : List Statement) (steps : Nat) :
    (statementsFrom read (steps + 1)).run (remarks.flatMap renderRemark ++ text) =
      (statementsFrom read (steps + 1)).run text := by
  have least := length_remarks_le remarks
  have skips : (skipLines ((remarks.flatMap renderRemark ++ text).length + 1)).run
      (remarks.flatMap renderRemark ++ text) = some ((), text) := by
    apply skipLines_run_remarks areRemarks _ begins
    rw [List.length_append]
    omega
  have stays : (skipLines (text.length + 1)).run text = some ((), text) :=
    skipLines_run_of_stopsRun _ begins
  rw [statementsFrom, run_bind_of_run (get_run _), run_bind_of_run skips,
    run_bind_of_run (get_run _), run_bind_of_run stays]

theorem head?_remarks_ne {remarks : List (Option Text)} {text : Text}
    (notMark : text.head? ≠ some '\uFEFF') :
    (remarks.flatMap renderRemark ++ text).head? ≠ some '\uFEFF' := by
  rcases remarks with _ | ⟨_ | comment, remarks⟩
  · exact notMark
  · simp [renderRemark]
  · simp [renderRemark]

theorem stopsRun_renderDocument {entry : Text × Scalar} (bare : IsBareName entry.1)
    (entries : List (Text × Scalar)) (tables : List (Text × List (Text × Scalar))) :
    Text.StopsRun isSkipped (renderDocument (entry :: entries) tables) := by
  rw [renderDocument, List.flatMap_cons, renderEntry, List.append_assoc, List.append_assoc,
    List.append_assoc, List.append_assoc]
  exact stopsRun_bareName bare _

end Reader

/-- Remarks above a document make no difference to the reader. -/
theorem parse?_remarks_append {remarks : List (Option Text)}
    (areRemarks : ∀ remark ∈ remarks, IsRemark remark) {entry : Text × Scalar}
    {entries : List (Text × Scalar)} {tables : List (Text × List (Text × Scalar))}
    (bareEntries : ∀ other ∈ entry :: entries, IsBareName other.1)
    (bareTables : ∀ table ∈ tables, IsBareName table.1 ∧ ∀ entry ∈ table.2, IsBareName entry.1) :
    parse? (remarks.flatMap renderRemark ++ renderDocument (entry :: entries) tables) =
      parse? (renderDocument (entry :: entries) tables) := by
  let document := renderDocument (entry :: entries) tables
  have begins : Text.StopsRun Reader.isSkipped document :=
    Reader.stopsRun_renderDocument (bareEntries entry List.mem_cons_self) entries tables
  have noMark : (takeText? "\uFEFF").run (remarks.flatMap renderRemark ++ document) =
      some (false, remarks.flatMap renderRemark ++ document) :=
    takeText?_run_of_head?_ne
      (Reader.head?_remarks_ne (Reader.head?_renderDocument_ne bareEntries tables))
  have least : document.length < (remarks.flatMap renderRemark ++ document).length + 1 := by
    rw [List.length_append]
    omega
  have read : Reader.statements.run (remarks.flatMap renderRemark ++ document) =
      Reader.statements.run document := by
    rw [Reader.statements, run_bind_of_run noMark, run_bind_of_run (get_run _),
      Reader.statementsFrom_run_remarks areRemarks begins,
      Reader.statementsFrom_run_renderDocument bareEntries bareTables least]
    exact (Reader.statements_run_renderDocument bareEntries bareTables).symm
  rw [parse?, parse?, read]

end Toml

end BraceBalance
