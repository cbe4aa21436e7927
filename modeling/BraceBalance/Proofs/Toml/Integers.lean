import BraceBalance.Toml.Reader
import Mathlib.Data.List.Basic

/-!
# The integers of a document

The integers that a document holds have 64 bits, of which one is the sign, in whatever base they
are written and however deep they stand. The reader checks each of them when its digits have been
read, and the tables that statements build hold no other values than those that were read.
-/

namespace BraceBalance

namespace TextReader

variable {α β : Type} {property : α → Prop}

/-- All values that the reader takes off a text have the property. -/
def Yields (reader : TextReader α) (property : α → Prop) : Prop :=
  ∀ text value rest, reader.run text = some (value, rest) → property value

theorem yields_pure {value : α} (holds : property value) : Yields (pure value) property := by
  intro text result rest read
  have same : (value, text) = (result, rest) := Option.some.inj read
  exact (Prod.mk.inj same).1 ▸ holds

theorem yields_failure : Yields (failure : TextReader α) property := by
  intro text result rest read
  cases read

theorem yields_lift {value? : Option α} (holds : ∀ value, value? = some value → property value) :
    Yields (liftM value?) property := by
  intro text result rest read
  rcases value? with _ | value
  · cases read
  · have same : (value, text) = (result, rest) := Option.some.inj read
    exact (Prod.mk.inj same).1 ▸ holds value rfl

theorem yields_bind {reader : TextReader α} {next : α → TextReader β} {result : β → Prop}
    (first : Yields reader property)
    (later : ∀ value, property value → Yields (next value) result) :
    Yields (reader >>= next) result := by
  intro text value rest read
  rw [StateT.run_bind, Option.bind_eq_bind, Option.bind_eq_some_iff] at read
  rcases read with ⟨⟨between, middle⟩, step, read⟩
  exact later between (first text between middle step) middle value rest read

/-- What is read before does not matter to a property of what is read last. -/
theorem yields_after {reader : TextReader α} {next : α → TextReader β} {result : β → Prop}
    (later : ∀ value, Yields (next value) result) : Yields (reader >>= next) result :=
  yields_bind (fun _ _ _ _ => trivial : Yields reader fun _ => True) fun value _ => later value

theorem yields_orElse {first second : TextReader α} (left : Yields first property)
    (right : Yields second property) : Yields (first <|> second) property := by
  intro text value rest read
  have choice : (first <|> second).run text = (first.run text <|> second.run text) := rfl
  rw [choice] at read
  cases step : first.run text with
  | none =>
      rw [step] at read
      exact right text value rest read
  | some reached =>
      rw [step] at read
      have same : reached = (value, rest) := Option.some.inj read
      exact left text value rest (step.trans (congrArg some same))

end TextReader

/-- What every step of a fold keeps, the whole fold keeps. -/
theorem foldlM_keeps {σ α : Type} {step : σ → α → Option σ} {keeps : σ → Prop} {fits : α → Prop}
    (stepKeeps : ∀ before after input, keeps before → fits input →
      step before input = some after → keeps after)
    {inputs : List α} (each : ∀ input ∈ inputs, fits input) {start final : σ}
    (holds : keeps start) (folded : inputs.foldlM step start = some final) : keeps final := by
  induction inputs generalizing start with
  | nil =>
      cases folded
      exact holds
  | cons input inputs ih =>
      rw [List.foldlM_cons] at folded
      rcases Option.bind_eq_some_iff.mp folded with ⟨between, steps, folded⟩
      exact ih (fun later laterMem => each later (List.mem_cons_of_mem _ laterMem))
        (stepKeeps start between input holds (each input List.mem_cons_self) steps) folded

namespace Toml

/-- The integers in the value have 64 bits, of which one is the sign. -/
inductive Value.Fits : Value → Prop where
  | string (text : Text) : Fits (.string text)
  | integer {value : Int} (fits : Text.fitsSigned value) : Fits (.integer value)
  | float (value : Double) : Fits (.float value)
  | boolean (value : Bool) : Fits (.boolean value)
  | datetime (text : Text) : Fits (.datetime text)
  | array {elements : List Value} (each : ∀ element ∈ elements, Fits element) :
      Fits (.array elements)
  | table {members : List (Text × Value)} (each : ∀ member ∈ members, Fits member.2) :
      Fits (.table members)

/-! ## Tables -/

namespace Table

/-- The values at all keys of the table fit. -/
def Fits (table : Table) : Prop :=
  ∀ member ∈ table.items, (valueOf member.2).Fits

theorem membersOf_eq_map (items : List (Text × Item)) :
    membersOf items = items.map fun member => (member.1, valueOf member.2) := by
  induction items with
  | nil => rfl
  | cons member items ih => rw [membersOf, ih, List.map_cons]

theorem valuesOf_eq_map (tables : List Table) : valuesOf tables = tables.map toValue := by
  induction tables with
  | nil => rfl
  | cons table tables ih => rw [valuesOf, ih, List.map_cons]

theorem fits_toValue_iff {table : Table} : table.toValue.Fits ↔ table.Fits := by
  rcases table with ⟨implicit, dotted, items⟩
  rw [toValue, membersOf_eq_map]
  constructor
  · rintro (_ | _ | _ | _ | _ | _ | each)
    intro member memberMem
    exact each (member.1, valueOf member.2) (List.mem_map_of_mem memberMem)
  · intro each
    refine .table ?_
    intro member memberMem
    rcases List.mem_map.mp memberMem with ⟨item, itemMem, rfl⟩
    exact each item itemMem

theorem fits_mk_nil (implicit dotted : Bool) : (mk implicit dotted []).Fits := by
  intro member memberMem
  cases memberMem

theorem fits_tables_iff {tables : List Table} :
    (valueOf (.tables tables)).Fits ↔ ∀ table ∈ tables, table.Fits := by
  rw [valueOf, valuesOf_eq_map]
  constructor
  · rintro (_ | _ | _ | _ | _ | each | _) table tableMem
    exact fits_toValue_iff.mp (each _ (List.mem_map_of_mem tableMem))
  · intro each
    refine .array ?_
    intro value valueMem
    rcases List.mem_map.mp valueMem with ⟨table, tableMem, rfl⟩
    exact fits_toValue_iff.mpr (each table tableMem)

theorem Fits.of_item? {table : Table} (fits : table.Fits) {name : Text} {item : Item}
    (found : table.item? name = some item) : (valueOf item).Fits := by
  rcases List.lookup_eq_some_iff.mp found with ⟨before, after, splits, _⟩
  exact fits (name, item) (splits ▸ List.mem_append_right _ List.mem_cons_self)

theorem Fits.setItem {table : Table} (fits : table.Fits) (name : Text) {item : Item}
    (itemFits : (valueOf item).Fits) : (table.setItem name item).Fits := by
  intro member memberMem
  rw [Table.setItem, items] at memberMem
  split at memberMem
  · rcases List.mem_map.mp memberMem with ⟨old, oldMem, rfl⟩
    split
    · exact itemFits
    · exact fits old oldMem
  · rcases List.mem_append.mp memberMem with oldMem | isNew
    · exact fits member oldMem
    · rw [List.mem_singleton.mp isNew]
      exact itemFits

theorem Fits.updateAt {byKey : Bool} {update : Table → Option Table}
    (keeps : ∀ table updated : Table, table.Fits → update table = some updated → updated.Fits)
    {path : List Text} {table updated : Table} (fits : table.Fits)
    (updates : updateAt byKey update path table = some updated) : updated.Fits := by
  induction path generalizing table updated with
  | nil => exact keeps table updated fits updates
  | cons name rest ih =>
      rw [Table.updateAt] at updates
      split at updates
      · rcases Option.bind_eq_some_iff.mp updates with ⟨child, childUpdates, same⟩
        cases same
        exact fits.setItem name (fits_toValue_iff.mpr (ih (fits_mk_nil _ _) childUpdates))
      · rename_i child found
        have childFits : child.Fits := fits_toValue_iff.mp (fits.of_item? found)
        split at updates
        · cases updates
        · rcases Option.bind_eq_some_iff.mp updates with ⟨after, childUpdates, same⟩
          cases same
          exact fits.setItem name (fits_toValue_iff.mpr (ih childFits childUpdates))
      · rename_i children found
        have childrenFit := fits_tables_iff.mp (fits.of_item? found)
        rcases Option.bind_eq_some_iff.mp updates with ⟨last, isLast, updates⟩
        rcases Option.bind_eq_some_iff.mp updates with ⟨after, lastUpdates, same⟩
        cases same
        refine fits.setItem name (fits_tables_iff.mpr ?_)
        intro child childMem
        rcases List.mem_append.mp childMem with beforeMem | isAfter
        · exact childrenFit child ((List.dropLast_sublist children).subset beforeMem)
        · rw [List.mem_singleton.mp isAfter]
          exact ih (childrenFit last (List.mem_of_getLast? isLast)) lastUpdates
      · cases updates

theorem Fits.insert {table updated : Table} (fits : table.Fits) {key : Key} {value : Value}
    (valueFits : value.Fits) (inserts : table.insert key value = some updated) :
    updated.Fits := by
  refine fits.updateAt ?_ inserts
  intro inner defined innerFits defines
  rw [define] at defines
  split at defines
  · cases defines
  · cases defines
    exact innerFits.setItem key.name valueFits

theorem Fits.openTable {table opened : Table} (fits : table.Fits) {name : Text}
    (opens : table.openTable name = some opened) : opened.Fits := by
  rw [Table.openTable] at opens
  split at opens
  · cases opens
    exact fits.setItem name (fits_toValue_iff.mpr (fits_mk_nil _ _))
  · rename_i child found
    split at opens
    · cases opens
      have childFits : child.Fits := fits_toValue_iff.mp (fits.of_item? found)
      exact fits.setItem name (fits_toValue_iff.mpr childFits)
    · cases opens
  · cases opens

theorem Fits.openElement {table opened : Table} (fits : table.Fits) {name : Text}
    (opens : table.openElement name = some opened) : opened.Fits := by
  rw [Table.openElement] at opens
  split at opens
  · cases opens
    refine fits.setItem name (fits_tables_iff.mpr ?_)
    intro child childMem
    rw [List.mem_singleton.mp childMem]
    exact fits_mk_nil _ _
  · rename_i children found
    cases opens
    refine fits.setItem name (fits_tables_iff.mpr ?_)
    intro child childMem
    rcases List.mem_append.mp childMem with oldMem | isNew
    · exact fits_tables_iff.mp (fits.of_item? found) child oldMem
    · rw [List.mem_singleton.mp isNew]
      exact fits_mk_nil _ _
  · cases opens

theorem fits_ofEntries {entries : List (Key × Value)} (each : ∀ entry ∈ entries, entry.2.Fits)
    {value : Value} (builds : ofEntries entries = some value) : value.Fits := by
  rcases Option.bind_eq_some_iff.mp builds with ⟨table, inserted, same⟩
  cases same
  refine fits_toValue_iff.mpr (foldlM_keeps ?_ each (fits_mk_nil _ _) inserted)
  intro before after entry fits entryFits inserts
  exact fits.insert entryFits inserts

end Table

/-! ## Documents -/

/-- A value that the statement gives to a key fits. -/
def Statement.Fits : Statement → Prop
  | entry _ value => value.Fits
  | table _ | element _ => True

theorem Draft.fits_add {draft added : Draft} (fits : draft.table.Fits) {statement : Statement}
    (statementFits : statement.Fits) (adds : draft.add statement = some added) :
    added.table.Fits := by
  cases statement with
  | entry key value =>
      rcases Option.bind_eq_some_iff.mp adds with ⟨table, updates, same⟩
      cases same
      exact fits.updateAt (fun _ _ inner inserts => inner.insert statementFits inserts) updates
  | table key =>
      rcases Option.bind_eq_some_iff.mp adds with ⟨table, updates, same⟩
      cases same
      exact fits.updateAt (fun _ _ inner opens => inner.openTable opens) updates
  | element key =>
      rcases Option.bind_eq_some_iff.mp adds with ⟨table, updates, same⟩
      cases same
      exact fits.updateAt (fun _ _ inner opens => inner.openElement opens) updates

theorem fits_membersOfStatements {statements : List Statement}
    (each : ∀ statement ∈ statements, statement.Fits) {members : List (Text × Value)}
    (builds : membersOfStatements statements = some members) :
    ∀ member ∈ members, member.2.Fits := by
  rcases Option.bind_eq_some_iff.mp builds with ⟨draft, added, same⟩
  cases same
  have built : draft.table.Fits := by
    have stepKeeps (before after : Draft) (statement : Statement) (fits : before.table.Fits)
        (statementFits : statement.Fits) (adds : before.add statement = some after) :
        after.table.Fits :=
      Draft.fits_add fits statementFits adds
    exact foldlM_keeps stepKeeps each (Table.fits_mk_nil _ _) added
  rw [Table.membersOf_eq_map]
  intro member memberMem
  rcases List.mem_map.mp memberMem with ⟨item, itemMem, rfl⟩
  exact built item itemMem

namespace Reader

open TextReader

theorem yields_inBase (base : Nat) (isDigit : Char → Bool) :
    Yields (inBase base isDigit) Value.Fits := by
  rw [inBase]
  refine yields_after fun digits => ?_
  dsimp only
  split
  · rename_i fits
    exact yields_pure (.integer fits)
  · exact yields_failure

theorem yields_decimal : Yields decimal Value.Fits := by
  rw [decimal]
  refine yields_after fun negative => yields_after fun isInfinite => ?_
  split
  · exact yields_pure (.float _)
  refine yields_after fun isNoNumber => ?_
  split
  · exact yields_pure (.float _)
  -- However the digits are spelled, they end as a float, or as an integer that is checked.
  have finish : ∀ (isFloat : Bool) (float : Double) (integer : Int),
      Yields (if isFloat then
          if float = .infinite false then failure else return Value.float float
        else if Text.fitsSigned integer then return .integer integer else failure)
        Value.Fits := by
    intro isFloat float integer
    split
    · split
      · exact yields_failure
      · exact yields_pure (.float float)
    · split
      · rename_i fits
        exact yields_pure (.integer fits)
      · exact yields_failure
  refine yields_after fun whole => yields_after fun hasFraction => ?_
  dsimp only
  split
  all_goals
    refine yields_after fun fraction => yields_after fun mark => ?_
    split
    · refine yields_after fun _ => yields_after fun below => yields_after fun digits => ?_
      exact yields_after fun exponent => finish _ _ _
    · exact yields_after fun exponent => finish _ _ _

theorem yields_number : Yields number Value.Fits := by
  refine yields_orElse ?_ ?_
  · rw [datetime]
    refine yields_after fun start => yields_after fun _ => yields_after fun rest => ?_
    exact yields_pure (.datetime _)
  · refine yields_after fun isHexadecimal => ?_
    split
    · exact yields_inBase _ _
    refine yields_after fun isOctal => ?_
    split
    · exact yields_inBase _ _
    refine yields_after fun isBinary => ?_
    split
    · exact yields_inBase _ _
    · exact yields_decimal

theorem yields_scalar : Yields scalar Value.Fits := by
  rw [scalar]
  refine yields_after fun first => ?_
  split
  · exact yields_after fun text => yields_pure (.string text)
  · exact yields_after fun text => yields_pure (.string text)
  · exact yields_after fun _ => yields_pure (.boolean true)
  · exact yields_after fun _ => yields_pure (.boolean false)
  · exact yields_number
  · exact yields_number
  · exact yields_number
  · exact yields_number
  · split
    · exact yields_number
    · exact yields_failure
  · exact yields_failure

theorem yields_separatedFrom {α : Type} {element : TextReader α} {property : α → Prop}
    (each : Yields element property) (trailing : Bool) (skip : TextReader Unit) (closing : Text)
    (steps : Nat) {read : List α} (soFar : ∀ value ∈ read, property value) :
    Yields (separatedFrom trailing skip element closing read steps)
      fun values => ∀ value ∈ values, property value := by
  induction steps generalizing read with
  | zero => exact yields_failure
  | succ steps ih =>
      rw [separatedFrom]
      refine yields_after fun _ => yields_bind each fun value holds => ?_
      have withValue : ∀ one ∈ value :: read, property one := by
        simpa using ⟨holds, soFar⟩
      have closed : Yields (pure (value :: read).reverse : TextReader (List α))
          fun values => ∀ value ∈ values, property value :=
        yields_pure fun one oneMem => withValue one (List.mem_reverse.mp oneMem)
      refine yields_after fun _ => yields_after fun isClosed => ?_
      split
      · exact closed
      refine yields_after fun _ => ?_
      split
      · refine yields_after fun _ => yields_after fun isClosed => ?_
        split
        · exact closed
        · exact ih withValue
      · exact ih withValue

theorem yields_separated {α : Type} {element : TextReader α} (property : α → Prop)
    (each : Yields element property) (trailing : Bool) (skip : TextReader Unit) (closing : Text) :
    Yields (separated trailing skip element closing)
      fun values => ∀ value ∈ values, property value := by
  rw [separated]
  refine yields_after fun _ => yields_after fun isClosed => ?_
  split
  · exact yields_pure (by simp)
  · refine yields_after fun rest => ?_
    exact yields_separatedFrom each trailing skip closing _ (by simp)

theorem yields_valueWithin (depth : Nat) : Yields (valueWithin depth) Value.Fits := by
  induction depth with
  | zero => exact yields_scalar
  | succ depth ih =>
      rw [valueWithin]
      refine yields_after fun first => ?_
      split
      · refine yields_after fun _ => ?_
        exact yields_bind (yields_separated Value.Fits ih _ _ _)
          fun elements each => yields_pure (.array each)
      · refine yields_after fun _ => ?_
        refine yields_bind (yields_separated (fun entry => entry.2.Fits) ?_ _ _ _)
          fun entries each => yields_lift fun value builds => Table.fits_ofEntries each builds
        refine yields_after fun key => yields_after fun _ => yields_after fun _ => ?_
        exact yields_bind ih fun value fits => yields_pure fits
      · exact yields_scalar

theorem yields_statement : Yields statement Statement.Fits := by
  rw [statement]
  refine yields_after fun opensElement => ?_
  split
  · refine yields_after fun key => yields_after fun _ => yields_after fun _ => ?_
    exact yields_pure trivial
  refine yields_after fun opensTable => ?_
  split
  · refine yields_after fun key => yields_after fun _ => yields_after fun _ => ?_
    exact yields_pure trivial
  · refine yields_after fun key => yields_after fun _ => yields_after fun _ => ?_
    refine yields_bind (yields_valueWithin _) fun value fits => yields_after fun _ => ?_
    exact yields_pure fits

theorem yields_statementsFrom (steps : Nat) {read : List Statement}
    (soFar : ∀ statement ∈ read, statement.Fits) :
    Yields (statementsFrom read steps) fun statements => ∀ statement ∈ statements,
      statement.Fits := by
  induction steps generalizing read with
  | zero => exact yields_failure
  | succ steps ih =>
      rw [statementsFrom]
      refine yields_after fun rest => yields_after fun _ => yields_after fun ended => ?_
      split
      · exact yields_pure fun one oneMem => soFar one (List.mem_reverse.mp oneMem)
      · refine yields_bind yields_statement fun statement fits => ih ?_
        simpa using ⟨fits, soFar⟩

end Reader

/-- The integers of a document have 64 bits, of which one is the sign. -/
theorem fits_of_parse? {text : Text} {members : List (Text × Value)}
    (isToml : parse? text = some members) : ∀ member ∈ members, member.2.Fits := by
  rcases Option.bind_eq_some_iff.mp isToml with ⟨⟨statements, rest⟩, read, builds⟩
  have yields : TextReader.Yields Reader.statements
      fun statements => ∀ statement ∈ statements, statement.Fits :=
    TextReader.yields_after fun _ => TextReader.yields_after fun rest =>
      Reader.yields_statementsFrom _ (by simp)
  exact fits_membersOfStatements (yields text statements rest read) builds

end Toml

end BraceBalance
