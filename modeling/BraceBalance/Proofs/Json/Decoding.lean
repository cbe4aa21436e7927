import BraceBalance.Proofs.Json.Skipping

/-!
# Values that are decoded

Readers of strings, arrays and objects decode trees, as readers of numbers do. An array is decoded
element by element. The members of an object are folded into a state one after the other, and if
one of them has a key that stands for no text the object is refused. The inductions are on the
list of elements or members; the text behind each of them does not go on with a number.
-/

namespace BraceBalance

namespace JsonTree

def text? : JsonTree → Option Text
  | string value => value
  | _ => none

def textOrNull? : JsonTree → Option (Option Text)
  | null => some none
  | string value => value.map some
  | _ => none

theorem textOrNull?_null : null.textOrNull? = some none :=
  rfl

theorem textOrNull?_string (text : Text) :
    (string (some text)).textOrNull? = some (some text) :=
  rfl

theorem textOrNull?_of_ne {tree : JsonTree} (notNull : tree ≠ null) :
    tree.textOrNull? = tree.text?.map some := by
  cases tree with
  | null => exact absurd rfl notNull
  | _ => rfl

def elements? {α : Type} (decode : JsonTree → Option α) : JsonTree → Option (List α)
  | array elements => elements.mapM decode
  | _ => none

end JsonTree

namespace JsonReader

/-! ## Strings -/

theorem decodes_string : Decodes string JsonTree.text? := by
  have wants : Wants string (· = '"') := by
    intro first token noQuote rest
    rw [string, answer?_peekToken_bind token, if_neg noQuote]
    exact answer?_refuse first _
  intro tree text spelled
  cases tree with
  | string value =>
      rw [JsonTree.IsSpelled] at spelled
      rcases spelled with ⟨content, spells, rfl⟩
      intro rest _
      rw [string, List.cons_append, answer?_peekToken_bind rfl, if_pos rfl,
        answer?_bind_of_run (advance_run _ _)]
      exact answer?_finishString spells rest
  | _ =>
      refine wants.answers spelled fun first begins isQuote => ?_
      subst isQuote
      rcases begins.exists_string with ⟨_, impossible⟩
      cases impossible

/-- What does not begin like `null` must be a string. -/
theorem answer?_string?_of_ne {first : Char} (token : isLayout first = false) (notNull : first ≠ 'n')
    (rest : Text) :
    answer? string? (first :: rest) =
      (answer? string (first :: rest)).map fun taken => (some taken.1, taken.2) := by
  have noBlank : skipBlanks.run (first :: rest) = .ok ((), first :: rest) := by
    change Except.ok ((), (first :: rest).dropWhile isLayout) = _
    rw [List.dropWhile_cons_of_neg (by simp [token])]
  rw [string?, answer?_bind_of_run noBlank, answer?_bind_of_run (peek?_run _),
    if_neg (by simpa using notNull), answer?_bind]
  cases answer? string (first :: rest) <;> rfl

theorem decodes_string? : Decodes string? JsonTree.textOrNull? := by
  intro tree text spelled
  by_cases isNull : tree = .null
  · subst isNull
    rw [JsonTree.IsSpelled] at spelled
    subst spelled
    intro rest _
    rfl
  · intro rest ends
    have read := decodes_string spelled rest ends
    rcases spelled.exists_begins with ⟨first, others, rfl, begins⟩
    have notNull : first ≠ 'n' := by
      rintro rfl
      exact isNull begins.eq_null
    rw [List.cons_append] at read ⊢
    rw [answer?_string?_of_ne begins.isLayout_eq_false.1 notNull, read,
      JsonTree.textOrNull?_of_ne isNull]
    cases tree.text? <;> rfl

/-! ## Arrays -/

theorem answer?_elementsFrom {α : Type} {element : JsonReader α} {decode : JsonTree → Option α}
    (decodes : Decodes element decode) {trees : List JsonTree} {isFirst : Bool} {text : Text}
    (areElements : JsonTree.AreElements isFirst trees text) (read : List α) {steps : Nat}
    (enough : text.length < steps) (rest : Text) :
    answer? (elementsFrom element isFirst read steps) (text ++ rest) =
      (trees.mapM decode).map fun values => (read.reverse ++ values, rest) := by
  induction trees generalizing isFirst text read steps with
  | nil =>
      rw [JsonTree.AreElements] at areElements
      rcases areElements with ⟨blanks, allBlank, rfl⟩
      rcases steps with _ | steps
      · exact absurd enough (by simp)
      rw [elementsFrom, List.append_assoc, List.singleton_append,
        answer?_bind_of_run (peekToken_run allBlank rfl _), if_pos rfl,
        answer?_bind_of_run (advance_run _ _)]
      rw [answer?_pure, List.mapM_nil]
      simp
  | cons tree trees ih =>
      rw [JsonTree.AreElements] at areElements
      rcases areElements with ⟨separator, value, more, separates, spelled, areMore, rfl⟩
      rcases steps with _ | steps
      · exact absurd enough (by simp)
      have taken := decodes spelled _ (endsNumber_elements areMore rest)
      rcases spelled.exists_begins with ⟨first, behind, rfl, begins⟩
      rcases begins.isLayout_eq_false with ⟨token, goesOn⟩
      simp only [List.length_append, List.length_cons] at enough
      have shorter : more.length < steps := by omega
      have others (found : α) := ih areMore (found :: read) shorter
      have elementTaken : answer? (do elementsFrom element false ((← element) :: read) steps)
          (first :: behind ++ (more ++ rest)) =
          ((tree :: trees).mapM decode).map fun values => (read.reverse ++ values, rest) := by
        rw [answer?_bind, taken, List.mapM_cons]
        cases decode tree with
        | none => rfl
        | some found =>
            dsimp only [Option.map_some, Option.bind_some]
            rw [others found]
            cases trees.mapM decode <;> simp
      rw [elementsFrom, List.append_assoc, List.append_assoc]
      cases isFirst with
      | true =>
          have allBlank : AllLayout separator := separates
          rw [List.cons_append, answer?_bind_of_run (peekToken_run allBlank token _), if_neg goesOn,
            if_pos rfl]
          exact elementTaken
      | false =>
          rcases separates with ⟨before, after, beforeBlank, afterBlank, rfl⟩
          simp only [List.append_assoc, List.cons_append] at elementTaken ⊢
          rw [answer?_bind_of_run (peekToken_run beforeBlank rfl _), if_neg (by decide),
            if_neg Bool.false_ne_true, if_pos rfl, answer?_bind_of_run (advance_run _ _),
            answer?_bind_of_run (peekToken_run afterBlank token _), if_neg goesOn]
          exact elementTaken

theorem decodes_array {α : Type} {element : JsonReader α} {decode : JsonTree → Option α}
    (decodes : Decodes element decode) : Decodes (array element) (JsonTree.elements? decode) := by
  have wants : Wants (array element) (· = '[') := by
    intro first token noBracket rest
    rw [array, answer?_peekToken_bind token, if_neg noBracket]
    exact answer?_refuse first _
  intro tree text spelled
  cases tree with
  | array trees =>
      rw [JsonTree.IsSpelled] at spelled
      rcases spelled with ⟨content, areElements, rfl⟩
      intro rest _
      have got : (get : JsonReader Text).run (content ++ rest) =
          .ok (content ++ rest, content ++ rest) := rfl
      rw [array, List.cons_append, answer?_peekToken_bind rfl, if_pos rfl,
        answer?_bind_of_run (advance_run _ _), answer?_bind_of_run got,
        answer?_elementsFrom decodes areElements [] (Text.length_lt_succ_length_append content rest)]
      rfl
  | _ =>
      refine wants.answers spelled fun first begins isBracket => ?_
      subst isBracket
      rcases begins.exists_array with ⟨_, impossible⟩
      cases impossible

/-! ## Objects -/

/-- The value of a member that may occur once only, given its value so far and the next. -/
def fill {α : Type} (known found : Option α) : Option (Option α) :=
  if known.isSome then none else found.map some

/-- The state after a member is what its key and its value lead to, whatever the spelling. -/
def DecodesMember {σ : Type} (member : Text → σ → JsonReader σ)
    (step : σ → Text → JsonTree → Option σ) : Prop :=
  ∀ (key : Text) (state : σ) ⦃tree : JsonTree⦄ ⦃colonText text : Text⦄, IsAround ':' colonText →
    tree.IsSpelled text → Answers (member key state) (colonText ++ text) (step state key tree)

theorem decodes_once {α : Type} {value : JsonReader α} {decode : JsonTree → Option α}
    (decodes : Decodes value decode) (skips : SkipsBlanks value) (known : Option α)
    {tree : JsonTree} {colonText text : Text} (around : IsAround ':' colonText)
    (spelled : tree.IsSpelled text) :
    Answers (once known value) (colonText ++ text) (fill known (decode tree)) := by
  intro rest ends
  rw [once, fill]
  by_cases isKnown : known.isSome
  · rw [if_pos isKnown]
    simp only [isKnown, if_true]
    rfl
  · rw [if_neg isKnown]
    simp only [isKnown, Bool.false_eq_true, if_false]
    rcases colon_run around (text ++ rest) with ⟨blanks, allBlank, colonTaken⟩
    have taken := decodes spelled rest ends
    rw [answer?, ← skips allBlank] at taken
    rw [List.append_assoc, answer?_bind_of_run colonTaken, answer?_bind, answer?, taken]
    cases decode tree <;> rfl

theorem answers_skipped {σ : Type} (state : σ) {tree : JsonTree} {colonText text : Text}
    (around : IsAround ':' colonText) (spelled : tree.IsSpelled text) :
    Answers (do colon; skipValue; return state) (colonText ++ text) (some state) := by
  intro rest ends
  rcases colon_run around (text ++ rest) with ⟨blanks, allBlank, colonTaken⟩
  rw [List.append_assoc, answer?_bind_of_run colonTaken,
    answer?_bind_of_run (skipValue_run allBlank spelled ends)]
  rfl

/-- The state after a member whose key may stand for no text. -/
def stepMember {σ : Type} (step : σ → Text → JsonTree → Option σ) (state : σ)
    (member : Option Text × JsonTree) : Option σ :=
  member.1.bind fun key => step state key member.2

theorem answer?_membersFrom {σ : Type} {member : Text → σ → JsonReader σ}
    {step : σ → Text → JsonTree → Option σ} (decodes : DecodesMember member step)
    {members : List (Option Text × JsonTree)} {isFirst : Bool} {text : Text}
    (areMembers : JsonTree.AreMembers isFirst members text) (state : σ) {steps : Nat}
    (enough : text.length < steps) (rest : Text) :
    answer? (membersFrom member isFirst state steps) (text ++ rest) =
      (members.foldlM (stepMember step) state).map fun final => (final, rest) := by
  induction members generalizing isFirst text state steps with
  | nil =>
      rw [JsonTree.AreMembers] at areMembers
      rcases areMembers with ⟨blanks, allBlank, rfl⟩
      rcases steps with _ | steps
      · exact absurd enough (by simp)
      rw [membersFrom, List.append_assoc, List.singleton_append,
        answer?_bind_of_run (peekToken_run allBlank rfl _), if_pos rfl,
        answer?_bind_of_run (advance_run _ _)]
      rfl
  | cons first members ih =>
      rcases first with ⟨key, tree⟩
      rw [JsonTree.AreMembers] at areMembers
      rcases areMembers with
        ⟨separator, keyText, colonText, value, more, separates, spells, around, spelled, areMore, rfl⟩
      rcases steps with _ | steps
      · exact absurd enough (by simp)
      simp only [List.length_append, List.length_cons] at enough
      have shorter : more.length < steps := by omega
      have later (next : σ) := ih areMore next shorter
      have memberTaken : answer? (do
            let key ← finishString
            membersFrom member false (← member key state) steps)
          (keyText ++ (colonText ++ (value ++ (more ++ rest)))) =
          (((key, tree) :: members).foldlM (stepMember step) state).map
            fun final => (final, rest) := by
        rw [answer?_bind, answer?_finishString spells, List.foldlM_cons, stepMember]
        cases key with
        | none => rfl
        | some key =>
            have taken := decodes key state around spelled _ (endsNumber_members areMore rest)
            rw [List.append_assoc] at taken
            dsimp only [Option.map_some, Option.bind_some]
            rw [answer?_bind, taken]
            cases step state key tree with
            | none => rfl
            | some next => exact later next
      rw [membersFrom]
      cases isFirst with
      | true =>
          have allBlank : AllLayout separator := separates
          simp only [List.append_assoc, List.cons_append]
          rw [answer?_bind_of_run (peekToken_run allBlank rfl _), if_neg (by decide)]
          simp only [Bool.not_true, Bool.false_eq_true, if_false]
          rw [answer?_bind_of_run (peekToken_run_cons rfl _), if_pos rfl,
            answer?_bind_of_run (advance_run _ _)]
          exact memberTaken
      | false =>
          rcases separates with ⟨before, after, beforeBlank, afterBlank, rfl⟩
          simp only [List.append_assoc, List.cons_append]
          rw [answer?_bind_of_run (peekToken_run beforeBlank rfl _), if_neg (by decide)]
          simp only [Bool.not_false, if_true]
          rw [answer?_bind_of_run (advance_run _ _),
            answer?_bind_of_run (peekToken_run afterBlank rfl _), if_pos rfl,
            answer?_bind_of_run (advance_run _ _)]
          exact memberTaken

/-- The members of an object are folded into a state, up to the closing brace. -/
theorem answer?_members {σ : Type} {member : Text → σ → JsonReader σ}
    {step : σ → Text → JsonTree → Option σ} (decodes : DecodesMember member step)
    {trees : List (Option Text × JsonTree)} {text : Text}
    (areMembers : JsonTree.AreMembers true trees text) (start : σ) (rest : Text) :
    answer? (members member start) (text ++ rest) =
      (trees.foldlM (stepMember step) start).map fun final => (final, rest) := by
  have got : (get : JsonReader Text).run (text ++ rest) = .ok (text ++ rest, text ++ rest) := rfl
  rw [members, answer?_bind_of_run got]
  exact answer?_membersFrom decodes areMembers start (Text.length_lt_succ_length_append text rest)
    rest

/-! ## Whole texts -/

theorem toOption_readAll_eq {α : Type} (reader : JsonReader α) (text : Text) :
    (reader.readAll text).toOption =
      (answer? (do let value ← reader; skipBlanks; return value) text).bind
        fun taken => if taken.2.isEmpty then some taken.1 else none := by
  rw [readAll, answer?]
  cases (StateT.run (do let value ← reader; skipBlanks; return value : JsonReader α) text) with
  | error failure => rfl
  | ok taken =>
      change (if taken.2.isEmpty then .ok taken.1 else throw .malformed :
        Except ReadFailure α).toOption = if taken.2.isEmpty then some taken.1 else none
      cases taken.2.isEmpty <;> rfl

/-- A whole text is read as what its tree is decoded to. -/
theorem toOption_readAll {α : Type} {reader : JsonReader α} {decode : JsonTree → Option α}
    (decodes : Decodes reader decode) (skips : SkipsBlanks reader) {tree : JsonTree} {text : Text}
    (isText : tree.IsText text) : (reader.readAll text).toOption = decode tree := by
  rcases isText with ⟨before, value, after, beforeBlank, afterBlank, spelled, rfl⟩
  have ends : EndsNumber after := by
    have stops := endsNumber_layout_append afterBlank (Text.stopsRun_nil _)
    rwa [List.append_nil] at stops
  have dropped : skipBlanks.run after = .ok ((), []) := by
    have skipped := skipsBlanks_skipBlanks afterBlank []
    rwa [List.append_nil] at skipped
  have taken := decodes spelled after ends
  rw [answer?, ← skips beforeBlank] at taken
  rw [toOption_readAll_eq, List.append_assoc, answer?_bind, answer?, taken]
  cases decode tree with
  | none => rfl
  | some value =>
      dsimp only [Option.map_some, Option.bind_some]
      rw [answer?_bind_of_run dropped]
      rfl

end JsonReader

end BraceBalance
