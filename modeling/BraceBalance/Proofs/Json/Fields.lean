import BraceBalance.Proofs.Json.Decoding
import Mathlib.Data.List.Induction

/-!
# Fields of a record

A record is read from an object or from an array of its fields in their order. Of an object the
reader fills a draft member by member. What the draft has for a field after some members depends
on the values of this field among them (`Fills.foldlM_stepMember`), whatever stands between; so a
field that occurs once ends up with its value, and one that occurs twice makes the reader fail.
-/

namespace BraceBalance

open JsonReader

namespace JsonTree

/-- The values of the members with the key, in their order. -/
def valuesOf (key : Text) (members : List (Option Text × JsonTree)) : List JsonTree :=
  members.filterMap fun member => if member.1 = some key then some member.2 else none

theorem valuesOf_append (key : Text) (before after : List (Option Text × JsonTree)) :
    valuesOf key (before ++ after) = valuesOf key before ++ valuesOf key after :=
  List.filterMap_append

theorem valuesOf_singleton (key : Text) (member : Option Text × JsonTree) :
    valuesOf key [member] = if member.1 = some key then [member.2] else [] := by
  rw [valuesOf, List.filterMap_cons]
  by_cases same : member.1 = some key
  · rw [if_pos same, if_pos same]
    rfl
  · rw [if_neg same, if_neg same]
    rfl

theorem mem_valuesOf {key : Text} {members : List (Option Text × JsonTree)}
    {member : Option Text × JsonTree} (memberMem : member ∈ members) (same : member.1 = some key) :
    member.2 ∈ valuesOf key members :=
  List.mem_filterMap.mpr ⟨member, memberMem, if_pos same⟩

/-- The first of some elements is decoded, and the later ones after it. -/
def next? {α β : Type} (decode : JsonTree → Option α) (later : α → List JsonTree → Option β) :
    List JsonTree → Option β
  | [] => none
  | tree :: trees => (decode tree).bind fun value => later value trees

/-- The value, if there are no more elements. -/
def last? {α : Type} (value : α) : List JsonTree → Option α
  | [] => some value
  | _ :: _ => none

/-- A record is decoded member by member from an object, and from an array of its fields. -/
def record? {σ α : Type} (step : σ → Text → JsonTree → Option σ) (start : σ)
    (complete? : σ → Option α) (ofElements : List JsonTree → Option α) : JsonTree → Option α
  | object members => (members.foldlM (stepMember step) start).bind complete?
  | array elements => ofElements elements
  | _ => none

end JsonTree

namespace JsonReader

/-! ## Fields of an object -/

/-- The value of a member that may occur once only, after all its values. -/
def fillAll {α : Type} (decode : JsonTree → Option α) (known : Option α) (values : List JsonTree) :
    Option (Option α) :=
  values.foldlM (fun known value => fill known (decode value)) known

theorem fill_eq_some {α : Type} {known found final : Option α}
    (filled : fill known found = some final) :
    known = none ∧ ∃ value, found = some value ∧ final = some value := by
  rw [fill] at filled
  split at filled
  · cases filled
  · rename_i empty
    rcases Option.map_eq_some_iff.mp filled with ⟨value, isFound, same⟩
    exact ⟨by simpa using empty, value, isFound, same.symm⟩

theorem fillAll_singleton {α : Type} (decode : JsonTree → Option α) (value : JsonTree) :
    fillAll decode none [value] = (decode value).map some := by
  rw [fillAll, List.foldlM_cons, fill]
  cases decode value <;> rfl

/-- There is one value at most, and it can be decoded. -/
structure IsSingle {α : Type} (decode : JsonTree → Option α) (values : List JsonTree) : Prop where
  length : values.length ≤ 1
  decodes : ∀ value ∈ values, (decode value).isSome

theorem isSingle_nil {α : Type} (decode : JsonTree → Option α) : IsSingle decode [] :=
  ⟨by simp, by simp⟩

theorem isSingle_singleton {α : Type} {decode : JsonTree → Option α} {value : JsonTree} {found : α}
    (decodes : decode value = some found) : IsSingle decode [value] :=
  ⟨by simp, by simp [decodes]⟩

/-- After its first value a member may not occur again. -/
theorem isSingle_of_fillAll {α : Type} {decode : JsonTree → Option α} {known final : Option α}
    {values : List JsonTree} (filled : fillAll decode known values = some final) :
    IsSingle decode values := by
  rcases values with _ | ⟨value, later⟩
  · exact isSingle_nil decode
  rw [fillAll, List.foldlM_cons] at filled
  rcases Option.bind_eq_some_iff.mp filled with ⟨between, first, filled⟩
  rcases fill_eq_some first with ⟨_, found, decodes, rfl⟩
  rcases later with _ | ⟨second, later⟩
  · exact isSingle_singleton decodes
  rw [List.foldlM_cons] at filled
  rcases Option.bind_eq_some_iff.mp filled with ⟨_, again, _⟩
  exact absurd (fill_eq_some again).1 (by simp)

/-- The place of a field in a draft is filled by the values of the key and by no other. -/
structure Fills {σ α : Type} (step : σ → Text → JsonTree → Option σ) (key : Text)
    (place : σ → Option α) (decode : JsonTree → Option α) : Prop where
  here : ∀ state value next, step state key value = some next →
    fill (place state) (decode value) = some (place next)
  elsewhere : ∀ state other value next, other ≠ key → step state other value = some next →
    place next = place state
  takes : ∀ state value, place state = none → (decode value).isSome →
    ∃ next, step state key value = some next

variable {σ α : Type} {step : σ → Text → JsonTree → Option σ} {key : Text} {place : σ → Option α}
  {decode : JsonTree → Option α} {members : List (Option Text × JsonTree)} {start final : σ}

theorem Fills.foldlM_stepMember (fills : Fills step key place decode)
    (folded : members.foldlM (stepMember step) start = some final) :
    fillAll decode (place start) (JsonTree.valuesOf key members) = some (place final) := by
  induction members using List.reverseRecOn generalizing final with
  | nil =>
      cases folded
      rfl
  | append_singleton members member ih =>
      rw [List.foldlM_append] at folded
      rcases Option.bind_eq_some_iff.mp folded with ⟨state, before, last⟩
      rw [List.foldlM_cons] at last
      rcases Option.bind_eq_some_iff.mp last with ⟨next, stepped, same⟩
      cases same
      have filled := ih before
      rcases Option.bind_eq_some_iff.mp stepped with ⟨other, isKey, stepped⟩
      rw [JsonTree.valuesOf_append, JsonTree.valuesOf_singleton, isKey]
      by_cases same : other = key
      · subst same
        rw [if_pos rfl, fillAll, List.foldlM_append]
        rw [fillAll] at filled
        rw [filled]
        change (fill (place state) (decode member.2)).bind some = _
        rw [fills.here state member.2 _ stepped]
        rfl
      · rw [if_neg (by simpa using same), List.append_nil, filled,
          fills.elsewhere state other member.2 _ same stepped]

theorem Fills.place_eq (fills : Fills step key place decode)
    (folded : members.foldlM (stepMember step) start = some final) (empty : place start = none)
    {value : JsonTree} (only : JsonTree.valuesOf key members = [value]) {found : α}
    (decodes : decode value = some found) : place final = some found := by
  have filled := fills.foldlM_stepMember folded
  rw [empty, only, fillAll_singleton, decodes] at filled
  exact (Option.some.inj filled).symm

/-- All members are read if those of each field are single. -/
theorem exists_foldlM_stepMember (areTexts : ∀ member ∈ members, member.1.isSome)
    (each : ∀ key, (∀ state value, step state key value = some state) ∨
      ∃ (α : Type) (place : σ → Option α) (decode : JsonTree → Option α),
        Fills step key place decode ∧ place start = none ∧
          IsSingle decode (JsonTree.valuesOf key members)) :
    ∃ final, members.foldlM (stepMember step) start = some final := by
  suffices beginnings : ∀ before after, members = before ++ after →
      ∃ state, before.foldlM (stepMember step) start = some state from
    beginnings members [] (List.append_nil _).symm
  intro before
  induction before using List.reverseRecOn with
  | nil => exact fun _ _ => ⟨start, rfl⟩
  | append_singleton before member ih =>
      intro after split
      rw [List.append_assoc, List.singleton_append] at split
      rcases ih _ split with ⟨state, folded⟩
      have memberMem : member ∈ members := by simp [split]
      rcases Option.isSome_iff_exists.mp (areTexts member memberMem) with ⟨key, isKey⟩
      have stepped : ∃ next, step state key member.2 = some next := by
        rcases each key with free | ⟨α, place, decode, fills, empty, single⟩
        · exact ⟨state, free state member.2⟩
        · have filled := fills.foldlM_stepMember folded
          have here : 0 < (JsonTree.valuesOf key (member :: after)).length :=
            List.length_pos_of_mem (JsonTree.mem_valuesOf List.mem_cons_self isKey)
          have noneBefore : JsonTree.valuesOf key before = [] := by
            have count := single.length
            rw [split, JsonTree.valuesOf_append, List.length_append] at count
            exact List.length_eq_zero_iff.mp (by omega)
          rw [noneBefore, empty] at filled
          exact fills.takes state member.2 (Option.some.inj filled).symm
            (single.decodes member.2 (JsonTree.mem_valuesOf memberMem isKey))
      rcases stepped with ⟨next, stepped⟩
      refine ⟨next, ?_⟩
      rw [List.foldlM_append, folded]
      change (stepMember step state member).bind some = _
      rw [stepMember, isKey, Option.bind_some, stepped]
      rfl

theorem Fills.isSingle (fills : Fills step key place decode)
    (folded : members.foldlM (stepMember step) start = some final) :
    IsSingle decode (JsonTree.valuesOf key members) :=
  isSingle_of_fillAll (fills.foldlM_stepMember folded)

/-- A field is filled by a step that decodes its value and puts it in its place. -/
theorem fills_of_put {put : σ → Option α → σ}
    (here : ∀ state value, step state key value =
      (fill (place state) (decode value)).map (put state))
    (placed : ∀ state found, place (put state found) = found)
    (elsewhere : ∀ state other value next, other ≠ key → step state other value = some next →
      place next = place state) : Fills step key place decode where
  here state value next stepped := by
    rw [here] at stepped
    rcases Option.map_eq_some_iff.mp stepped with ⟨found, filled, rfl⟩
    rw [filled, placed]
  elsewhere := elsewhere
  takes state value empty decodes := by
    rcases Option.isSome_iff_exists.mp decodes with ⟨found, decodes⟩
    rw [here, empty, decodes]
    exact ⟨_, rfl⟩

/-! ## Fields in an array -/

/-- The elements that follow in an array are decoded one after the other, up to the closing
bracket. -/
def DecodesElements {α : Type} (reader : JsonReader α) (isFirst : Bool)
    (decode : List JsonTree → Option α) : Prop :=
  ∀ ⦃trees : List JsonTree⦄ ⦃text : Text⦄, JsonTree.AreElements isFirst trees text → ∀ rest,
    answer? reader (text ++ rest) = (decode trees).map fun value => (value, rest)

theorem decodes_closeArray {α : Type} (value : α) :
    DecodesElements (do closeArray; return value) false (JsonTree.last? value) := by
  intro trees text areElements rest
  cases trees with
  | nil =>
      rw [JsonTree.AreElements] at areElements
      rcases areElements with ⟨blanks, allBlank, rfl⟩
      have closed : closeArray.run (blanks ++ [']'] ++ rest) = .ok ((), rest) := by
        rw [closeArray, List.append_assoc, List.singleton_append,
          run_bind_of_run (peekToken_run allBlank rfl _), if_pos rfl]
        rfl
      rw [answer?_bind_of_run closed]
      rfl
  | cons tree trees =>
      rw [JsonTree.AreElements] at areElements
      rcases areElements with ⟨_, element, more, ⟨before, after, beforeBlank, _, rfl⟩, _, _, rfl⟩
      have refused : answer? closeArray
          (before ++ ',' :: after ++ element ++ more ++ rest) = none := by
        simp only [List.append_assoc, List.cons_append]
        rw [closeArray, answer?_bind_of_run (peekToken_run beforeBlank rfl _), if_neg (by decide)]
        rfl
      rw [answer?_bind, refused]
      rfl

variable {α β : Type} {element : JsonReader α} {decode : JsonTree → Option α}
  {next : α → JsonReader β} {later : α → List JsonTree → Option β}

/-- One element is decoded where it stands, and the later ones after it. -/
theorem answer?_element_bind (decodes : Decodes element decode)
    (decodesLater : ∀ value, DecodesElements (next value) false (later value)) {tree : JsonTree}
    {trees : List JsonTree} {text more : Text} (spelled : tree.IsSpelled text)
    (areMore : JsonTree.AreElements false trees more) (rest : Text) :
    answer? (element >>= next) (text ++ (more ++ rest)) =
      (JsonTree.next? decode later (tree :: trees)).map fun value => (value, rest) := by
  rw [answer?_bind, decodes spelled _ (endsNumber_elements areMore rest), JsonTree.next?]
  cases decode tree with
  | none => rfl
  | some value => exact decodesLater value areMore rest

theorem decodes_nextElement (decodes : Decodes element decode)
    (decodesLater : ∀ value, DecodesElements (next value) false (later value)) :
    DecodesElements (nextElement element >>= next) false (JsonTree.next? decode later) := by
  intro trees text areElements rest
  rw [answer?_bind]
  cases trees with
  | nil =>
      rw [JsonTree.AreElements] at areElements
      rcases areElements with ⟨blanks, allBlank, rfl⟩
      rw [nextElement, List.append_assoc, List.singleton_append,
        answer?_bind_of_run (peekToken_run allBlank rfl _), if_pos rfl]
      rfl
  | cons tree trees =>
      rw [JsonTree.AreElements] at areElements
      rcases areElements with
        ⟨_, value, more, ⟨before, after, beforeBlank, afterBlank, rfl⟩, spelled, areMore, rfl⟩
      have taken := answer?_element_bind decodes decodesLater spelled areMore rest
      rcases spelled.exists_begins with ⟨first, behind, rfl, begins⟩
      rcases begins.isLayout_eq_false with ⟨token, goesOn⟩
      simp only [List.append_assoc, List.cons_append] at taken ⊢
      rw [nextElement, answer?_bind_of_run (peekToken_run beforeBlank rfl _), if_neg (by decide),
        if_pos rfl, answer?_bind_of_run (advance_run _ _),
        answer?_bind_of_run (peekToken_run afterBlank token _), if_neg goesOn, ← answer?_bind]
      exact taken

theorem decodes_firstElement (decodes : Decodes element decode)
    (decodesLater : ∀ value, DecodesElements (next value) false (later value)) :
    DecodesElements (firstElement element >>= next) true (JsonTree.next? decode later) := by
  intro trees text areElements rest
  rw [answer?_bind]
  cases trees with
  | nil =>
      rw [JsonTree.AreElements] at areElements
      rcases areElements with ⟨blanks, allBlank, rfl⟩
      rw [firstElement, List.append_assoc, List.singleton_append,
        answer?_bind_of_run (peekToken_run allBlank rfl _), if_pos rfl]
      rfl
  | cons tree trees =>
      rw [JsonTree.AreElements] at areElements
      rcases areElements with ⟨blanks, value, more, allBlank, spelled, areMore, rfl⟩
      have blanksFirst : AllLayout blanks := allBlank
      have taken := answer?_element_bind decodes decodesLater spelled areMore rest
      rcases spelled.exists_begins with ⟨first, behind, rfl, begins⟩
      rcases begins.isLayout_eq_false with ⟨token, goesOn⟩
      simp only [List.append_assoc, List.cons_append] at taken ⊢
      rw [firstElement, answer?_bind_of_run (peekToken_run blanksFirst token _), if_neg goesOn,
        ← answer?_bind]
      exact taken

/-! ## Records -/

/-- A record is read as it is decoded, from an object and from an array. -/
theorem decodes_record {σ α : Type} {member : Text → σ → JsonReader σ}
    {step : σ → Text → JsonTree → Option σ} (decodesMember : DecodesMember member step) {start : σ}
    {finish : σ → JsonReader α} {complete? : σ → Option α}
    (finishes : ∀ final rest, answer? (finish final) rest =
      (complete? final).map fun value => (value, rest))
    {fields : JsonReader α} {ofElements : List JsonTree → Option α}
    (decodesElements : DecodesElements fields true ofElements) :
    Decodes (do
      let first ← peekToken
      if first = '\x7b' then
        advance
        finish (← JsonReader.members member start)
      else if first = '[' then
        advance
        fields
      else refuse first) (JsonTree.record? step start complete? ofElements) := by
  intro tree text spelled rest _
  rcases spelled.exists_begins with ⟨first, behind, shape, begins⟩
  rcases begins.isLayout_eq_false with ⟨token, _⟩
  cases tree with
  | object trees =>
      rw [JsonTree.IsSpelled] at spelled
      rcases spelled with ⟨content, areMembers, rfl⟩
      rw [List.cons_append, answer?_peekToken_bind rfl, if_pos rfl,
        answer?_bind_of_run (advance_run _ _), answer?_bind,
        answer?_members decodesMember areMembers, JsonTree.record?]
      cases trees.foldlM (stepMember step) start with
      | none => rfl
      | some final => exact finishes final rest
  | array trees =>
      rw [JsonTree.IsSpelled] at spelled
      rcases spelled with ⟨content, areElements, rfl⟩
      rw [List.cons_append, answer?_peekToken_bind rfl, if_neg (by decide), if_pos rfl,
        answer?_bind_of_run (advance_run _ _), JsonTree.record?]
      exact decodesElements areElements rest
  | _ =>
      have noObject : first ≠ '\x7b' := by
        rintro rfl
        rcases begins.exists_object with ⟨_, impossible⟩
        cases impossible
      have noArray : first ≠ '[' := by
        rintro rfl
        rcases begins.exists_array with ⟨_, impossible⟩
        cases impossible
      rw [shape, List.cons_append, answer?_peekToken_bind token, if_neg noObject, if_neg noArray]
      exact answer?_refuse first _

end JsonReader

end BraceBalance
