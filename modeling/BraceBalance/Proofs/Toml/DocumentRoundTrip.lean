import BraceBalance.Proofs.Toml.Table
import BraceBalance.Proofs.Toml.ValueRoundTrip

/-!
# Written documents are read back

A document whose keys need no quotation marks is read back as the statements that it was
written from: one for each entry, and one for the header of each table. The reader refuses the
whole document if it refuses one of the values.
-/

namespace BraceBalance

namespace Toml

open TextReader

/-- The name is written without quotation marks. -/
def IsBareName (name : Text) : Prop :=
  name ≠ [] ∧ ∀ char ∈ name, Reader.isBare char

instance (name : Text) : Decidable (IsBareName name) :=
  decidable_of_iff (name ≠ [] ∧ name.all Reader.isBare) (and_congr_right fun _ => List.all_eq_true)

/-- What is written as an entry. -/
def entryMember (entry : Text × Scalar) : Text × Value :=
  (entry.1, entry.2.toValue)

/-- What is written as a table with its entries. -/
def tableMembers (table : Text × List (Text × Scalar)) : Text × List (Text × Value) :=
  (table.1, table.2.map entryMember)

def entryStatement (entry : Text × Scalar) : Statement :=
  memberStatement (entryMember entry)

/-- The statements that a table is: its header and its entries. -/
def tableStatements (table : Text × List (Text × Scalar)) : List Statement :=
  .table ⟨[], table.1⟩ :: table.2.map entryStatement

theorem tableStatements_eq (table : Text × List (Text × Scalar)) :
    tableStatements table = sectionStatements (tableMembers table) := by
  rw [tableStatements, sectionStatements, tableMembers, List.map_map]
  rfl

/-- The values of the entries are read back. -/
def entriesAreReadable (entries : List (Text × Scalar)) : Bool :=
  entries.all (·.2.isReadable)

theorem entriesAreReadable_cons (entry : Text × Scalar) (entries : List (Text × Scalar)) :
    entriesAreReadable (entry :: entries) = (entry.2.isReadable && entriesAreReadable entries) :=
  rfl

namespace Reader

/-! ## Keys -/

theorem exists_eq_cons_of_isBareName {name : Text} (bare : IsBareName name) :
    ∃ first others, name = first :: others ∧ isBare first := by
  rcases name with _ | ⟨first, others⟩
  · exact absurd rfl bare.1
  · exact ⟨first, others, rfl, bare.2 first List.mem_cons_self⟩

theorem head?_bareName_ne {name : Text} (bare : IsBareName name) (rest : Text) {other : Char}
    (notBare : isBare other = false) : (name ++ rest).head? ≠ some other := by
  rcases exists_eq_cons_of_isBareName bare with ⟨first, others, rfl, isBareFirst⟩
  intro head
  have same : first = other := by simpa using head
  subst same
  rw [notBare] at isBareFirst
  exact absurd isBareFirst (by simp)

theorem isSkipped_of_isBare {char : Char} (bare : isBare char) : isSkipped char = false := by
  rw [Bool.eq_false_iff]
  intro skipped
  simp only [isSkipped, isLayout, Bool.or_eq_true, decide_eq_true_eq] at skipped
  rcases skipped with (((rfl | rfl) | rfl) | rfl) | rfl
  all_goals simp [isBare] at bare

theorem stopsRun_bareName {name : Text} (bare : IsBareName name) (rest : Text) :
    Text.StopsRun isSkipped (name ++ rest) := by
  rcases exists_eq_cons_of_isBareName bare with ⟨first, others, rfl, isBareFirst⟩
  exact Text.stopsRun_cons (isSkipped_of_isBare isBareFirst) _

theorem name_run {name : Text} (bare : IsBareName name) {rest : Text}
    (stops : Text.StopsRun isBare rest) : Reader.name.run (name ++ rest) = some (name, rest) := by
  have noQuotation : (takeText? "\"").run (name ++ rest) = some (false, name ++ rest) :=
    takeText?_run_of_head?_ne (head?_bareName_ne bare rest (rfl : isBare '"' = false))
  have noApostrophe : (takeText? "'").run (name ++ rest) = some (false, name ++ rest) :=
    takeText?_run_of_head?_ne (head?_bareName_ne bare rest (rfl : isBare '\'' = false))
  have notEmpty : ¬name.isEmpty = true := by simpa using bare.1
  rw [Reader.name, run_ite_of_run_false noQuotation, run_ite_of_run_false noApostrophe,
    run_bind_of_run (takeWhile_run bare.2 stops), if_neg notEmpty]
  rfl

/-- A name is a key of its own, if no dot follows. -/
theorem key_run {name : Text} (bare : IsBareName name) {behind next : Text}
    (stops : Text.StopsRun isBare behind) (skips : skipSpaces.run behind = some ((), next))
    (noDot : next.head? ≠ some '.') :
    key.run (name ++ behind) = some (⟨[], name⟩, next) := by
  have noBlanks : skipSpaces.run (name ++ behind) = some ((), name ++ behind) := by
    apply skipSpaces_run
    exact stopsRun_isLayout (stopsRun_bareName bare behind)
  have single : (takeText? ".").run next = some (false, next) := takeText?_run_of_head?_ne noDot
  have names : ∀ steps, (namesFrom [] (steps + 1)).run (name ++ behind) = some ([name], next) := by
    intro steps
    rw [namesFrom, run_bind_of_run noBlanks, run_bind_of_run (name_run bare stops),
      run_bind_of_run skips, run_ite_of_run_false single]
    rfl
  rw [key, run_bind_of_run (get_run _), run_bind_of_run (names _)]
  rfl

/-! ## Statements -/

theorem stopsRun_render (written : Scalar) (rest : Text) :
    Text.StopsRun isLayout (written.render ++ '\n' :: rest) := by
  cases written with
  | string text => exact stopsRun_isLayout (stopsRun_renderString text _)
  | strings texts =>
      rcases texts with _ | ⟨first, _ | ⟨second, more⟩⟩
      · exact Text.stopsRun_cons rfl _
      · exact Text.stopsRun_cons rfl _
      · exact Text.stopsRun_cons rfl _
  | integer number =>
      rcases Text.exists_ofNat_eq_cons number with ⟨digit, later, shape, isDigit⟩
      rw [Scalar.render, shape]
      have bare : isBare digit := by simp [isBare, Char.isAlphanum, isDigit]
      exact stopsRun_isLayout (Text.stopsRun_cons (isSkipped_of_isBare bare) _)
  | boolean truth =>
      cases truth
      · exact Text.stopsRun_cons rfl _
      · exact Text.stopsRun_cons rfl _

theorem finishLine_run (rest : Text) : finishLine.run ('\n' :: rest) = some ((), rest) :=
  rfl

theorem statement_run_renderEntry {entry : Text × Scalar} (bare : IsBareName entry.1)
    (rest : Text) :
    statement.run (renderEntry entry ++ rest) =
      if entry.2.isReadable then some (entryStatement entry, rest) else none := by
  rcases entry with ⟨name, written⟩
  have shape : renderEntry (name, written) ++ rest =
      name ++ (' ' :: '=' :: ' ' :: (written.render ++ '\n' :: rest)) := by
    simp [renderEntry]
  have noElement : (takeText? "[[").run (renderEntry (name, written) ++ rest) =
      some (false, renderEntry (name, written) ++ rest) := by
    rw [shape]
    exact takeText?_run_of_head?_ne (head?_bareName_ne bare _ (rfl : isBare '[' = false))
  have noTable : (takeText? "[").run (renderEntry (name, written) ++ rest) =
      some (false, renderEntry (name, written) ++ rest) := by
    rw [shape]
    exact takeText?_run_of_head?_ne (head?_bareName_ne bare _ (rfl : isBare '[' = false))
  have readsKey : key.run (renderEntry (name, written) ++ rest) =
      some (⟨[], name⟩, '=' :: ' ' :: (written.render ++ '\n' :: rest)) := by
    rw [shape]
    exact key_run bare (Text.stopsRun_cons rfl _) rfl (by simp)
  have equals : (takeText "=").run ('=' :: ' ' :: (written.render ++ '\n' :: rest)) =
      some ((), ' ' :: (written.render ++ '\n' :: rest)) := rfl
  have skips : skipSpaces.run (' ' :: (written.render ++ '\n' :: rest)) =
      some ((), written.render ++ '\n' :: rest) := by
    rw [skipSpaces_run_space]
    exact skipSpaces_run (stopsRun_render written rest)
  have readsValue : value.run (written.render ++ '\n' :: rest) =
      if written.isReadable then some (written.toValue, '\n' :: rest) else none :=
    valueWithin_run_render (depthLimit - 2) written rest
  rw [statement, run_ite_of_run_false noElement, run_ite_of_run_false noTable,
    run_bind_of_run readsKey, run_bind_of_run equals, run_bind_of_run skips]
  by_cases readable : written.isReadable
  · rw [if_pos readable] at readsValue ⊢
    rw [run_bind_of_run readsValue, run_bind_of_run (finishLine_run rest)]
    rfl
  · rw [if_neg readable] at readsValue ⊢
    exact run_bind_of_run_eq_none readsValue _

theorem statement_run_header {name : Text} (bare : IsBareName name) (rest : Text) :
    statement.run ('[' :: (name ++ ']' :: '\n' :: rest)) = some (.table ⟨[], name⟩, rest) := by
  have notBracket := head?_bareName_ne bare (']' :: '\n' :: rest) (rfl : isBare '[' = false)
  have noElement : (takeText? "[[").run ('[' :: (name ++ ']' :: '\n' :: rest)) =
      some (false, '[' :: (name ++ ']' :: '\n' :: rest)) := by
    apply takeText?_run_of_not_isPrefix
    rintro ⟨others, same⟩
    rw [← (List.cons.inj same).2] at notBracket
    exact notBracket rfl
  have opens : (takeText? "[").run ('[' :: (name ++ ']' :: '\n' :: rest)) =
      some (true, name ++ ']' :: '\n' :: rest) := rfl
  have readsKey : key.run (name ++ ']' :: '\n' :: rest) = some (⟨[], name⟩, ']' :: '\n' :: rest) :=
    key_run bare (Text.stopsRun_cons rfl _) rfl (by simp)
  have closes : (takeText "]").run (']' :: '\n' :: rest) = some ((), '\n' :: rest) := rfl
  rw [statement, run_ite_of_run_false noElement, run_ite_of_run_true opens,
    run_bind_of_run readsKey, run_bind_of_run closes, run_bind_of_run (finishLine_run rest)]
  rfl

/-! ## Documents -/

/-- A statement is read where one begins. -/
theorem statementsFrom_run {blanks : Text} (blank : ∀ char ∈ blanks, char = ' ' ∨ char = '\n')
    {text : Text} (begins : Text.StopsRun isSkipped text) (notEmpty : text ≠ [])
    (read : List Statement) (steps : Nat) :
    (statementsFrom read (steps + 1)).run (blanks ++ text) =
      (do statementsFrom ((← statement) :: read) steps : TextReader (List Statement)).run text := by
  have skips : (skipLines ((blanks ++ text).length + 1)).run (blanks ++ text) =
      some ((), text) := by
    apply skipLines_run blank _ begins
    rw [List.length_append]
    omega
  have notAtEnd : ¬text.isEmpty = true := by simpa using notEmpty
  rw [statementsFrom, run_bind_of_run (get_run _), run_bind_of_run skips,
    run_bind_of_run (atEnd_run text), if_neg notAtEnd]

theorem statementsFrom_run_nil (read : List Statement) (steps : Nat) :
    (statementsFrom read (steps + 1)).run [] = some (read.reverse, []) :=
  rfl

theorem statementsFrom_run_entries {entries : List (Text × Scalar)}
    (bare : ∀ entry ∈ entries, IsBareName entry.1) (read : List Statement) (steps : Nat)
    (rest : Text) :
    (statementsFrom read (entries.length + steps)).run (entries.flatMap renderEntry ++ rest) =
      if entriesAreReadable entries then
        (statementsFrom ((entries.map entryStatement).reverse ++ read) steps).run rest
      else none := by
  induction entries generalizing read with
  | nil =>
      rw [List.flatMap_nil, List.nil_append, List.length_nil, Nat.zero_add]
      rfl
  | cons entry entries ih =>
      have bareEntry : IsBareName entry.1 := bare entry List.mem_cons_self
      have bareLater : ∀ entry ∈ entries, IsBareName entry.1 :=
        fun entry entryMem => bare entry (List.mem_cons_of_mem _ entryMem)
      let later := entries.flatMap renderEntry ++ rest
      have begins : Text.StopsRun isSkipped (renderEntry entry ++ later) := by
        rw [renderEntry, List.append_assoc, List.append_assoc, List.append_assoc]
        exact stopsRun_bareName bareEntry _
      have step := @statementsFrom_run [] (by simp) _ begins (by simp [renderEntry]) read
        (entries.length + steps)
      have reads := statement_run_renderEntry bareEntry later
      rw [List.flatMap_cons, List.append_assoc, List.length_cons, Nat.add_right_comm]
      rw [List.nil_append] at step
      rw [step]
      by_cases readable : entry.2.isReadable
      · rw [if_pos readable] at reads
        rw [run_bind_of_run reads, ih bareLater, entriesAreReadable_cons, readable, Bool.true_and]
        simp
      · rw [if_neg readable] at reads
        rw [run_bind_of_run_eq_none reads, entriesAreReadable_cons]
        simp [readable]

theorem statementsFrom_run_tables {tables : List (Text × List (Text × Scalar))}
    (bare : ∀ table ∈ tables, IsBareName table.1 ∧ ∀ entry ∈ table.2, IsBareName entry.1)
    (read : List Statement) (steps : Nat) (rest : Text) :
    (statementsFrom read ((tables.flatMap tableStatements).length + steps)).run
        (tables.flatMap renderTable ++ rest) =
      if tables.all (entriesAreReadable ·.2) then
        (statementsFrom ((tables.flatMap tableStatements).reverse ++ read) steps).run rest
      else none := by
  induction tables generalizing read with
  | nil =>
      rw [List.flatMap_nil, List.flatMap_nil, List.nil_append, List.length_nil, Nat.zero_add]
      rfl
  | cons table tables ih =>
      rcases bare table List.mem_cons_self with ⟨bareName, bareEntries⟩
      have bareLater : ∀ table ∈ tables,
          IsBareName table.1 ∧ ∀ entry ∈ table.2, IsBareName entry.1 := by
        intro table tableMem
        exact bare table (List.mem_cons_of_mem _ tableMem)
      let later := tables.flatMap renderTable ++ rest
      have shape : (table :: tables).flatMap renderTable ++ rest =
          "\n" ++ ('[' :: (table.1 ++ ']' :: '\n' :: (table.2.flatMap renderEntry ++ later))) := by
        simp [renderTable, later]
      have count : ((table :: tables).flatMap tableStatements).length + steps =
          table.2.length + ((tables.flatMap tableStatements).length + steps) + 1 := by
        simp [tableStatements]
        omega
      have header := statement_run_header bareName (table.2.flatMap renderEntry ++ later)
      rw [shape, count, statementsFrom_run (by simp) (Text.stopsRun_cons rfl _) (by simp),
        run_bind_of_run header, statementsFrom_run_entries bareEntries, ih bareLater]
      by_cases readable : entriesAreReadable table.2
      · rw [if_pos readable, List.all_cons, readable, Bool.true_and]
        simp [tableStatements]
      · rw [if_neg readable, List.all_cons]
        simp [readable]

theorem length_entries_le (entries : List (Text × Scalar)) :
    entries.length ≤ (entries.flatMap renderEntry).length :=
  Text.length_le_length_flatMap entries (by simp [renderEntry])

theorem length_tables_le (tables : List (Text × List (Text × Scalar))) :
    (tables.flatMap tableStatements).length ≤ (tables.flatMap renderTable).length := by
  induction tables with
  | nil => exact Nat.le_refl 0
  | cons table tables ih =>
      have entries := length_entries_le table.2
      have opening : ("\n[" : Text).length = 2 := rfl
      simp only [List.flatMap_cons, List.length_append, tableStatements, renderTable,
        List.length_cons, List.length_map]
      omega

/-- No document begins with a byte order mark. -/
theorem head?_renderDocument_ne {entries : List (Text × Scalar)}
    (bare : ∀ entry ∈ entries, IsBareName entry.1) (tables : List (Text × List (Text × Scalar))) :
    (renderDocument entries tables).head? ≠ some '\uFEFF' := by
  rcases entries with _ | ⟨entry, entries⟩
  · rcases tables with _ | ⟨table, tables⟩
    · simp [renderDocument]
    · simp [renderDocument, renderTable]
  · rw [renderDocument, List.flatMap_cons, renderEntry, List.append_assoc, List.append_assoc,
      List.append_assoc, List.append_assoc]
    exact head?_bareName_ne (bare entry List.mem_cons_self) _ rfl

/-- The reader takes a whole document, or refuses it for one of its values. -/
theorem statementsFrom_run_renderDocument {entries : List (Text × Scalar)}
    {tables : List (Text × List (Text × Scalar))}
    (bareEntries : ∀ entry ∈ entries, IsBareName entry.1)
    (bareTables : ∀ table ∈ tables, IsBareName table.1 ∧ ∀ entry ∈ table.2, IsBareName entry.1)
    {steps : Nat} (least : (renderDocument entries tables).length < steps) :
    (statementsFrom [] steps).run (renderDocument entries tables) =
      if entriesAreReadable entries && tables.all (entriesAreReadable ·.2) then
        some (entries.map entryStatement ++ tables.flatMap tableStatements, [])
      else none := by
  have enough : entries.length + (tables.flatMap tableStatements).length < steps := by
    have leastEntries := length_entries_le entries
    have leastTables := length_tables_le tables
    rw [renderDocument, List.length_append] at least
    omega
  rcases Nat.exists_eq_add_of_lt enough with ⟨spare, count⟩
  have split : steps =
      entries.length + ((tables.flatMap tableStatements).length + (spare + 1)) := by
    omega
  rw [split, renderDocument, statementsFrom_run_entries bareEntries]
  by_cases readable : entriesAreReadable entries
  · have shape : tables.flatMap renderTable = tables.flatMap renderTable ++ [] :=
      (List.append_nil _).symm
    rw [if_pos readable, readable, Bool.true_and, shape, statementsFrom_run_tables bareTables,
      statementsFrom_run_nil]
    simp
  · rw [if_neg readable]
    simp [readable]

theorem statements_run_renderDocument {entries : List (Text × Scalar)}
    {tables : List (Text × List (Text × Scalar))}
    (bareEntries : ∀ entry ∈ entries, IsBareName entry.1)
    (bareTables : ∀ table ∈ tables, IsBareName table.1 ∧ ∀ entry ∈ table.2, IsBareName entry.1) :
    statements.run (renderDocument entries tables) =
      if entriesAreReadable entries && tables.all (entriesAreReadable ·.2) then
        some (entries.map entryStatement ++ tables.flatMap tableStatements, [])
      else none := by
  have noMark : (takeText? "\uFEFF").run (renderDocument entries tables) =
      some (false, renderDocument entries tables) :=
    takeText?_run_of_head?_ne (head?_renderDocument_ne bareEntries tables)
  rw [statements, run_bind_of_run noMark, run_bind_of_run (get_run _),
    statementsFrom_run_renderDocument bareEntries bareTables (Nat.lt_succ_self _)]

end Reader

/-- A document with different keys is read back as what was written, unless the reader refuses
one of its values. -/
theorem parse?_renderDocument {entries : List (Text × Scalar)}
    {tables : List (Text × List (Text × Scalar))}
    (bareEntries : ∀ entry ∈ entries, IsBareName entry.1)
    (bareTables : ∀ table ∈ tables, IsBareName table.1 ∧ ∀ entry ∈ table.2, IsBareName entry.1)
    (distinct : (entries.map Prod.fst ++ tables.map Prod.fst).Nodup)
    (distinctWithin : ∀ table ∈ tables, (table.2.map Prod.fst).Nodup) :
    parse? (renderDocument entries tables) =
      if entriesAreReadable entries && tables.all (entriesAreReadable ·.2) then
        some (entries.map entryMember ++
          tables.map fun table => (table.1, .table (table.2.map entryMember)))
      else none := by
  have members : membersOfStatements
      (entries.map entryStatement ++ tables.flatMap tableStatements) =
      some (entries.map entryMember ++
        tables.map fun table => (table.1, .table (table.2.map entryMember))) := by
    have keys : ∀ entries : List (Text × Scalar),
        (entries.map entryMember).map Prod.fst = entries.map Prod.fst := by
      intro entries
      rw [List.map_map]
      rfl
    have names : (tables.map tableMembers).map Prod.fst = tables.map Prod.fst := by
      rw [List.map_map]
      rfl
    have sections : (tables.map tableMembers).flatMap sectionStatements =
        tables.flatMap tableStatements := by
      rw [List.flatMap_map]
      exact List.flatMap_congr fun table _ => (tableStatements_eq table).symm
    have distinctMembers : ((entries.map entryMember).map Prod.fst ++
        (tables.map tableMembers).map Prod.fst).Nodup := by
      rw [keys, names]
      exact distinct
    have distinctWithinMembers :
        ∀ table ∈ tables.map tableMembers, (table.2.map Prod.fst).Nodup := by
      intro table tableMem
      rcases List.mem_map.mp tableMem with ⟨written, writtenMem, rfl⟩
      rw [tableMembers, keys]
      exact distinctWithin written writtenMem
    have built := membersOfStatements_of_nodup distinctMembers distinctWithinMembers
    rw [List.map_map, sections, List.map_map] at built
    exact built
  rw [parse?, Reader.statements_run_renderDocument bareEntries bareTables]
  split
  · exact members
  · rfl

end Toml

end BraceBalance
