import BraceBalance.Proofs.Report.Decoding
import BraceBalance.Proofs.Report.JsonRoundTrip

/-!
# Reports in every layout

A list of reports is read from every JSON text that holds it: the members of all objects stand in
any order with any others in between, strings are written with escapes of all kinds, integers in
decimal digits, and blanks stand between all tokens. A text in which a field of a report or of a
traced line stands twice in one object is not read at all.
-/

namespace BraceBalance

open JsonReader

theorem JsonTree.natural?_number {number : Nat} (fits : Text.fitsUnsigned number) :
    (JsonTree.number (some number)).natural? = some number := by
  have le_max : (number : Int) ≤ Text.maxUnsigned := ((fitsUnsigned_iff number).mp fits).2
  rw [natural?, integer?, if_pos ⟨Int.natCast_nonneg number, le_max⟩]
  rfl

theorem JsonTree.signed?_number {value : Int} (fits : Text.fitsSigned value) :
    (JsonTree.number (some value)).signed? = some value := by
  simp only [Text.fitsSigned, Bool.and_eq_true, decide_eq_true_eq] at fits
  rw [signed?, integer?, if_pos fits]

namespace JsonTree

/-- Objects are decoded one by one to what they hold. -/
theorem elements?_objects {α : Type} {decode : JsonTree → Option α}
    {holds : α → List (Option Text × JsonTree) → Prop} {values : List α}
    {objects : List (List (Option Text × JsonTree))}
    (decodes : ∀ value ∈ values, ∀ members, holds value members →
      decode (.object members) = some value)
    (held : List.Forall₂ holds values objects) :
    (array (objects.map .object)).elements? decode = some values := by
  rw [elements?]
  induction held with
  | nil => rfl
  | cons first _ ih =>
      rw [List.map_cons, List.mapM_cons, decodes _ List.mem_cons_self _ first,
        ih fun value valueMem => decodes value (List.mem_cons_of_mem _ valueMem)]
      rfl

theorem elements?_map {α : Type} {decode : JsonTree → Option α} {toTree : α → JsonTree}
    {values : List α} (decodes : ∀ value ∈ values, decode (toTree value) = some value) :
    (array (values.map toTree)).elements? decode = some values := by
  rw [elements?]
  induction values with
  | nil => rfl
  | cons first values ih =>
      rw [List.map_cons, List.mapM_cons, decodes first List.mem_cons_self,
        ih fun value valueMem => decodes value (List.mem_cons_of_mem _ valueMem)]
      rfl

/-- One element that cannot be decoded makes the array unfit. -/
theorem elements?_array_eq_none {α : Type} {decode : JsonTree → Option α} {elements : List JsonTree}
    {element : JsonTree} (elementMem : element ∈ elements) (unfit : decode element = none) :
    (array elements).elements? decode = none := by
  rw [elements?]
  induction elements with
  | nil => exact absurd elementMem List.not_mem_nil
  | cons first others ih =>
      rw [List.mapM_cons]
      rcases List.mem_cons.mp elementMem with rfl | later
      · rw [unfit]
        rfl
      · rw [ih later]
        cases decode first <;> rfl

end JsonTree

/-! ## Traced lines -/

namespace TracedLine

/-- The members are those of the traced line, each field once, and others in between. -/
structure IsHeldBy (trace : TracedLine) (members : List (Option Text × JsonTree)) : Prop where
  areTexts : ∀ member ∈ members, member.1.isSome
  line : JsonTree.valuesOf "line" members = [.number (some trace.line)]
  text : JsonTree.valuesOf "text" members = [.string (some trace.text)]
  opens : JsonTree.valuesOf "opens" members = [.number (some trace.opens)]
  closes : JsonTree.valuesOf "closes" members = [.number (some trace.closes)]
  before : JsonTree.valuesOf "before" members = [.number (some trace.before)]
  after : JsonTree.valuesOf "after" members = [.number (some trace.after)]

/-- The tree is an object in which a field of a traced line stands twice. -/
def Repeats (tree : JsonTree) : Prop :=
  ∃ members, tree = .object members ∧
    ∃ key ∈ TraceDraft.keys, 2 ≤ (JsonTree.valuesOf key members).length

theorem ofTree?_of_isHeldBy {trace : TracedLine} (fits : trace.fits)
    {members : List (Option Text × JsonTree)} (held : trace.IsHeldBy members) :
    ofTree? (.object members) = some trace := by
  simp only [TracedLine.fits, Bool.and_eq_true] at fits
  rcases fits with ⟨⟨⟨⟨lineFits, opensFits⟩, closesFits⟩, beforeFits⟩, afterFits⟩
  have line := JsonTree.natural?_number lineFits
  have opens := JsonTree.natural?_number opensFits
  have closes := JsonTree.natural?_number closesFits
  have before := JsonTree.signed?_number beforeFits
  have after := JsonTree.signed?_number afterFits
  have text : (JsonTree.string (some trace.text)).text? = some trace.text := rfl
  have folds : ∃ final, members.foldlM (stepMember TraceDraft.step) {} = some final := by
    apply exists_foldlM_stepMember held.areTexts
    intro key
    by_cases isKey : key ∈ TraceDraft.keys
    · refine .inr ?_
      simp only [TraceDraft.keys, List.mem_cons, List.not_mem_nil, or_false] at isKey
      rcases isKey with rfl | rfl | rfl | rfl | rfl | rfl
      · exact ⟨_, _, _, TraceDraft.fills_line, rfl, held.line ▸ isSingle_singleton line⟩
      · exact ⟨_, _, _, TraceDraft.fills_text, rfl, held.text ▸ isSingle_singleton text⟩
      · exact ⟨_, _, _, TraceDraft.fills_opens, rfl, held.opens ▸ isSingle_singleton opens⟩
      · exact ⟨_, _, _, TraceDraft.fills_closes, rfl, held.closes ▸ isSingle_singleton closes⟩
      · exact ⟨_, _, _, TraceDraft.fills_before, rfl, held.before ▸ isSingle_singleton before⟩
      · exact ⟨_, _, _, TraceDraft.fills_after, rfl, held.after ▸ isSingle_singleton after⟩
    · exact .inl (TraceDraft.step_of_not_mem isKey)
  rcases folds with ⟨final, folded⟩
  rw [ofTree?, JsonTree.record?, folded, Option.bind_some, TraceDraft.complete?,
    TraceDraft.fills_line.place_eq folded rfl held.line line,
    TraceDraft.fills_text.place_eq folded rfl held.text text,
    TraceDraft.fills_opens.place_eq folded rfl held.opens opens,
    TraceDraft.fills_closes.place_eq folded rfl held.closes closes,
    TraceDraft.fills_before.place_eq folded rfl held.before before,
    TraceDraft.fills_after.place_eq folded rfl held.after after]
  rfl

theorem ofTree?_of_repeats {tree : JsonTree} (repeats : Repeats tree) : ofTree? tree = none := by
  rcases repeats with ⟨members, rfl, key, isKey, twice⟩
  rw [ofTree?, JsonTree.record?, Option.bind_eq_none_iff]
  intro final folded
  have single := TraceDraft.length_le_one_of_mem_keys folded isKey
  omega

end TracedLine

/-! ## Reports -/

namespace Report

/-- The values of the path among the members of a report: without a path there is none, or
`null`. -/
inductive HoldsPath : Option Packed → List JsonTree → Prop where
  | absent : HoldsPath none []
  | null : HoldsPath none [.null]
  | text (path : Text) : HoldsPath (some (Packed.ofText path)) [.string (some path)]

/-- The members are those of the report, each field once, and others in between. The same goes for
the traced lines in it. -/
structure IsHeldBy (report : Report) (members : List (Option Text × JsonTree)) : Prop where
  areTexts : ∀ member ∈ members, member.1.isSome
  path : HoldsPath report.path (JsonTree.valuesOf "path" members)
  linesScanned :
    JsonTree.valuesOf "lines_scanned" members = [.number (some report.linesScanned)]
  finalBalance :
    JsonTree.valuesOf "final_balance" members = [.number (some report.finalBalance)]
  traces : ∃ objects, JsonTree.valuesOf "traces" members = [.array (objects.map .object)] ∧
    List.Forall₂ TracedLine.IsHeldBy report.traces objects
  negativeLines : JsonTree.valuesOf "problematic_lines" members =
    [.array (report.negativeLines.map fun (line : Nat) => .number (some line))]

/-- The tree is an object in which a field of a report stands twice, or a field of one of its
traced lines. -/
def Repeats (tree : JsonTree) : Prop :=
  ∃ members, tree = .object members ∧
    ((∃ key ∈ ReportDraft.keys, 2 ≤ (JsonTree.valuesOf key members).length) ∨
      ∃ traces, .array traces ∈ JsonTree.valuesOf "traces" members ∧
        ∃ trace ∈ traces, TracedLine.Repeats trace)

theorem HoldsPath.isSingle {path : Option Packed} {values : List JsonTree}
    (holds : HoldsPath path values) : IsSingle JsonTree.textOrNull? values := by
  cases holds with
  | absent => exact isSingle_nil _
  | null => exact isSingle_singleton JsonTree.textOrNull?_null
  | text path => exact isSingle_singleton (JsonTree.textOrNull?_string path)

/-- A path that is left out is read like `null`. -/
theorem HoldsPath.map_join_eq {path : Option Packed} {values : List JsonTree}
    (holds : HoldsPath path values) {final : Option (Option Text)}
    (filled : fillAll JsonTree.textOrNull? none values = some final) :
    final.join.map Packed.ofText = path := by
  cases holds with
  | absent =>
      cases filled
      rfl
  | null =>
      rw [fillAll_singleton] at filled
      cases filled
      rfl
  | text path =>
      rw [fillAll_singleton] at filled
      cases filled
      rfl

theorem ofTree?_of_isHeldBy {report : Report} (fits : report.fits)
    {members : List (Option Text × JsonTree)} (held : report.IsHeldBy members) :
    ofTree? (.object members) = some report := by
  simp only [Report.fits, Bool.and_eq_true, List.all_eq_true] at fits
  rcases fits with ⟨⟨⟨linesFit, balanceFits⟩, tracesFit⟩, negativeFit⟩
  rcases held.traces with ⟨objects, tracesOnly, areTraces⟩
  have linesScanned := JsonTree.natural?_number linesFit
  have finalBalance := JsonTree.signed?_number balanceFits
  have traces : (JsonTree.array (objects.map .object)).elements? TracedLine.ofTree? =
      some report.traces := by
    refine JsonTree.elements?_objects (fun trace traceMem members traceHeld => ?_) areTraces
    exact TracedLine.ofTree?_of_isHeldBy (tracesFit trace traceMem) traceHeld
  have negativeLines : (JsonTree.array (report.negativeLines.map fun (line : Nat) =>
      .number (some line))).elements? JsonTree.natural? = some report.negativeLines :=
    JsonTree.elements?_map fun line lineMem => JsonTree.natural?_number (negativeFit line lineMem)
  have folds : ∃ final, members.foldlM (stepMember ReportDraft.step) {} = some final := by
    apply exists_foldlM_stepMember held.areTexts
    intro key
    by_cases isKey : key ∈ ReportDraft.keys
    · refine .inr ?_
      simp only [ReportDraft.keys, List.mem_cons, List.not_mem_nil, or_false] at isKey
      rcases isKey with rfl | rfl | rfl | rfl | rfl
      · exact ⟨_, _, _, ReportDraft.fills_path, rfl, held.path.isSingle⟩
      · exact ⟨_, _, _, ReportDraft.fills_linesScanned, rfl,
          held.linesScanned ▸ isSingle_singleton linesScanned⟩
      · exact ⟨_, _, _, ReportDraft.fills_finalBalance, rfl,
          held.finalBalance ▸ isSingle_singleton finalBalance⟩
      · exact ⟨_, _, _, ReportDraft.fills_traces, rfl, tracesOnly ▸ isSingle_singleton traces⟩
      · exact ⟨_, _, _, ReportDraft.fills_negativeLines, rfl,
          held.negativeLines ▸ isSingle_singleton negativeLines⟩
    · exact .inl (ReportDraft.step_of_not_mem isKey)
  rcases folds with ⟨final, folded⟩
  have path := held.path.map_join_eq (ReportDraft.fills_path.foldlM_stepMember folded)
  rw [ofTree?, JsonTree.record?, folded, Option.bind_some, ReportDraft.complete?,
    ReportDraft.fills_linesScanned.place_eq folded rfl held.linesScanned linesScanned,
    ReportDraft.fills_finalBalance.place_eq folded rfl held.finalBalance finalBalance,
    ReportDraft.fills_traces.place_eq folded rfl tracesOnly traces,
    ReportDraft.fills_negativeLines.place_eq folded rfl held.negativeLines negativeLines, path]
  rfl

theorem ofTree?_of_repeats {tree : JsonTree} (repeats : Repeats tree) : ofTree? tree = none := by
  rcases repeats with ⟨members, rfl, twice⟩
  rw [ofTree?, JsonTree.record?, Option.bind_eq_none_iff]
  intro final folded
  rcases twice with ⟨key, isKey, twice⟩ | ⟨traces, tracesMem, trace, traceMem, twice⟩
  · have single := ReportDraft.length_le_one_of_mem_keys folded isKey
    omega
  · have decodes := (ReportDraft.fills_traces.isSingle folded).decodes _ tracesMem
    rw [JsonTree.elements?_array_eq_none traceMem (TracedLine.ofTree?_of_repeats twice)] at decodes
    cases decodes

/-- Reports are read from every text that says them: with the members of all objects in any order
and others in between, with all spellings of strings, and with blanks wherever they may stand. If
a field stands twice in one of the objects, nothing is read, whatever else the text says. -/
theorem parseJson_of_isText {elements : List JsonTree} {text : Text}
    (isText : (JsonTree.array elements).IsText text) :
    (∀ (reports : List Report) (objects : List (List (Option Text × JsonTree))),
      reports.all Report.fits → elements = objects.map .object →
      List.Forall₂ Report.IsHeldBy reports objects → parseJson text = .ok reports) ∧
    ((∃ element ∈ elements, Repeats element) → ∃ failure, parseJson text = .error failure) := by
  have read := toOption_parseJson isText
  refine ⟨?_, ?_⟩
  · rintro reports objects fit rfl held
    rw [List.all_eq_true] at fit
    have decoded : (JsonTree.array (objects.map .object)).elements? ofTree? = some reports := by
      refine JsonTree.elements?_objects (fun report reportMem members reportHeld => ?_) held
      exact ofTree?_of_isHeldBy (fit report reportMem) reportHeld
    rw [decoded] at read
    cases result : parseJson text with
    | error failure =>
        rw [result] at read
        cases read
    | ok found =>
        rw [result] at read
        cases read
        rfl
  · rintro ⟨element, elementMem, repeats⟩
    rw [JsonTree.elements?_array_eq_none elementMem (ofTree?_of_repeats repeats)] at read
    cases result : parseJson text with
    | error failure => exact ⟨failure, rfl⟩
    | ok reports =>
        rw [result] at read
        cases read

/-- A report whose path lies outside of the basic plane of characters. -/
def scattered : Report where
  path := some (Packed.ofText ['😀'])
  linesScanned := 1
  finalBalance := -1
  traces := [⟨1, ['\x7d'], 0, 1, 0, -1⟩]
  negativeLines := [1]

/-- The members of its traced line, from the last to the first. -/
def scatteredTrace : List (Option Text × JsonTree) :=
  [(some "after", .number (some (-1))), (some "before", .number (some 0)),
    (some "closes", .number (some 1)), (some "opens", .number (some 0)),
    (some "text", .string (some ['\x7d'])), (some "line", .number (some 1))]

/-- The members of the report in another order, with one that is not known. -/
def scatteredMembers : List (Option Text × JsonTree) :=
  [(some "x", .array [.number none, .string none]),
    (some "problematic_lines", .array [.number (some 1)]),
    (some "traces", .array [.object scatteredTrace]),
    (some "final_balance", .number (some (-1))),
    (some "path", .string (some ['😀'])),
    (some "lines_scanned", .number (some 1))]

/-- A text of this report, with a lone surrogate in a value that is skipped. -/
def scatteredText : Text :=
  " [\x7b\"x\": [-1.5e+9 , \"\\ud800\"],\"problematic_lines\":[1],\"traces\":"
    ++ "[\x7b\"after\":-1,\"before\":0,\"closes\":1,\"opens\":0,"
    ++ "\"text\":\"\\u007D\",\"line\":1\x7d],"
    ++ "\"final_balance\":-1,\"path\":\"\\uD83D\\ude00\",\"\\u006cines_scanned\":1\x7d]\n"

set_option maxRecDepth 4000 in
open JsonTree StringPiece in
theorem isText_scatteredText :
    (JsonTree.array [.object scatteredMembers]).IsText scatteredText := by
  have noBlank : AllLayout [] := allLayout_nil
  have blank : AllLayout " " := by decide
  have comma : IsSeparator false "," := ⟨[], [], noBlank, noBlank, rfl⟩
  have wideComma : IsSeparator false " , " := ⟨" ", " ", blank, blank, rfl⟩
  have colon : IsAround ':' ":" := ⟨[], [], noBlank, noBlank, rfl⟩
  have wideColon : IsAround ':' ": " := ⟨[], " ", noBlank, blank, rfl⟩
  have float : (JsonTree.number none).IsSpelled "-1.5e+9" := by
    rw [JsonTree.IsSpelled]
    refine ⟨⟨true, 1, some "5", some ⟨'e', "+", "9"⟩⟩, ⟨?_, ?_⟩, rfl, rfl⟩
    · rintro _ ⟨rfl⟩
      decide
    · rintro _ ⟨rfl⟩
      exact ⟨.inl rfl, .inr (.inl rfl), by decide⟩
  have lone : StringPiece.Spells "\\ud800\"" none :=
    ⟨[.unit "d800"], by decide, by decide, rfl⟩
  have brace : StringPiece.Spells "\\u007D\"" (some ['\x7d']) :=
    ⟨[.unit "007D"], by decide, by decide, rfl⟩
  have pair : StringPiece.Spells "\\uD83D\\ude00\"" (some ['😀']) :=
    ⟨[.unit "D83D", .unit "de00"], by decide, by decide, rfl⟩
  have linesScanned : StringPiece.Spells "\\u006cines_scanned\"" (some "lines_scanned") :=
    ⟨.unit "006c" :: ("ines_scanned" : Text).map .plain, by decide, by decide, rfl⟩
  have trace : JsonTree.AreMembers true _ _ :=
    areMembers_cons noBlank (spells_plain (by decide : AllPlain "after")) colon
      (isSpelled_ofInt (-1)) <|
    areMembers_cons comma (spells_plain (by decide : AllPlain "before")) colon
      (isSpelled_ofInt 0) <|
    areMembers_cons comma (spells_plain (by decide : AllPlain "closes")) colon
      (isSpelled_ofInt 1) <|
    areMembers_cons comma (spells_plain (by decide : AllPlain "opens")) colon
      (isSpelled_ofInt 0) <|
    areMembers_cons comma (spells_plain (by decide : AllPlain "text")) colon
      (isSpelled_string brace) <|
    areMembers_cons comma (spells_plain (by decide : AllPlain "line")) colon
      (isSpelled_ofInt 1) <|
    areMembers_nil false noBlank
  have unknown : JsonTree.AreElements true [.number none, .string none] _ :=
    areElements_cons noBlank float <| areElements_cons wideComma (isSpelled_string lone) <|
    areElements_nil false noBlank
  have line : JsonTree.AreElements true _ _ :=
    areElements_cons noBlank (isSpelled_ofInt 1) <| areElements_nil false noBlank
  have traces : JsonTree.AreElements true _ _ :=
    areElements_cons noBlank (isSpelled_object trace) <| areElements_nil false noBlank
  have report : JsonTree.AreMembers true scatteredMembers _ :=
    areMembers_cons noBlank (spells_plain (by decide : AllPlain "x")) wideColon
      (isSpelled_array unknown) <|
    areMembers_cons comma (spells_plain (by decide : AllPlain "problematic_lines")) colon
      (isSpelled_array line) <|
    areMembers_cons comma (spells_plain (by decide : AllPlain "traces")) colon
      (isSpelled_array traces) <|
    areMembers_cons comma (spells_plain (by decide : AllPlain "final_balance")) colon
      (isSpelled_ofInt (-1)) <|
    areMembers_cons comma (spells_plain (by decide : AllPlain "path")) colon
      (isSpelled_string pair) <|
    areMembers_cons comma linesScanned colon (isSpelled_ofInt 1) <|
    areMembers_nil false noBlank
  have reports : JsonTree.AreElements true _ _ :=
    areElements_cons noBlank (isSpelled_object report) <| areElements_nil false noBlank
  exact ⟨" ", _, "\n", blank, by decide, isSpelled_array reports, rfl⟩

open JsonTree StringPiece in
theorem isText_repeatedLine : (JsonTree.array [.object [(some "traces",
    .array [.object [(some "line", .number (some 2)), (some "line", .number (some 1))]])]]).IsText
    "[\x7b\"traces\":[\x7b\"line\":2,\"line\":1\x7d]\x7d]" := by
  have noBlank : AllLayout [] := allLayout_nil
  have comma : IsSeparator false "," := ⟨[], [], noBlank, noBlank, rfl⟩
  have colon : IsAround ':' ":" := ⟨[], [], noBlank, noBlank, rfl⟩
  have trace : JsonTree.AreMembers true _ _ :=
    areMembers_cons noBlank (spells_plain (by decide : AllPlain "line")) colon
      (isSpelled_ofInt 2) <|
    areMembers_cons comma (spells_plain (by decide : AllPlain "line")) colon
      (isSpelled_ofInt 1) <|
    areMembers_nil false noBlank
  have traces : JsonTree.AreElements true _ _ :=
    areElements_cons noBlank (isSpelled_object trace) <| areElements_nil false noBlank
  have report : JsonTree.AreMembers true _ _ :=
    areMembers_cons noBlank (spells_plain (by decide : AllPlain "traces")) colon
      (isSpelled_array traces) <| areMembers_nil false noBlank
  have reports : JsonTree.AreElements true _ _ :=
    areElements_cons noBlank (isSpelled_object report) <| areElements_nil false noBlank
  exact ⟨[], _, [], noBlank, noBlank, isSpelled_array reports, rfl⟩

/-- A report whose members are scattered is read, and one with a traced line whose number stands
twice is not. -/
theorem parseJson_of_isText_scattered :
    (JsonTree.array [.object scatteredMembers]).IsText scatteredText ∧
      parseJson scatteredText = .ok [scattered] ∧
      ∃ failure, parseJson "[\x7b\"traces\":[\x7b\"line\":2,\"line\":1\x7d]\x7d]" =
        .error failure := by
  have held : scattered.IsHeldBy scatteredMembers := by
    refine ⟨by decide, .text _, rfl, rfl, ⟨[scatteredTrace], rfl, ?_⟩, rfl⟩
    exact .cons ⟨by decide, rfl, rfl, rfl, rfl, rfl, rfl⟩ .nil
  have repeats : Repeats (.object [(some "traces",
      .array [.object [(some "line", .number (some 2)), (some "line", .number (some 1))]])]) :=
    ⟨_, rfl, .inr ⟨_, .head _, _, .head _, _, rfl, "line", by decide, Nat.le_refl 2⟩⟩
  refine ⟨isText_scatteredText, ?_, ?_⟩
  · exact (parseJson_of_isText isText_scatteredText).1 [scattered] [scatteredMembers] rfl rfl
      (.cons held .nil)
  · exact (parseJson_of_isText isText_repeatedLine).2 ⟨_, .head _, repeats⟩

end Report

end BraceBalance
