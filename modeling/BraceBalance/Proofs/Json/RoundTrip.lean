import BraceBalance.Json.Basic
import BraceBalance.Proofs.Json.Reader
import Mathlib.Tactic.IntervalCases

/-!
# Rendered JSON is read back

Strings, arrays and objects as they are rendered, at any depth, are spellings of what they
were rendered from. Every character is escaped to something that reads back to it alone, the
blanks of the layout stand only where blanks may stand, and empty arrays, which have no line
of their own for the closing bracket, are spelled like all others.
-/

namespace BraceBalance

open JsonReader

namespace Json

/-! ## Strings -/

theorem takeUnicodeEscape_run {code : Nat} (control : code < 0x20) (rest : Text) :
    takeUnicodeEscape.run (Text.ofNatPadded 16 4 code ++ rest) = .ok (Char.ofNat code, rest) := by
  interval_cases code <;> rfl

/-- A character is read from what stands for it in a string, whether it is escaped or not. -/
theorem stringFrom_run_escapeChar (read : Text) (steps : Nat) (char : Char) (rest : Text) :
    (stringFrom read (steps + 1)).run (escapeChar char ++ rest) =
      (stringFrom (char :: read) steps).run rest := by
  unfold escapeChar
  split
  · rfl
  · rfl
  · rfl
  · rfl
  · rfl
  · rfl
  · rfl
  · rename_i notQuote notBackslash _ _ _ _ _
    split
    · rename_i control
      have escape : takeEscape.run ('u' :: (Text.ofNatPadded 16 4 char.toNat ++ rest)) =
          .ok (char, rest) := by
        rw [takeEscape, run_bind_of_run (take_run _ _), if_pos rfl,
          takeUnicodeEscape_run control, Char.ofNat_toNat]
      change (stringFrom read (steps + 1)).run
        ('\\' :: 'u' :: (Text.ofNatPadded 16 4 char.toNat ++ rest)) = _
      rw [stringFrom, run_bind_of_run (take_run _ _), if_neg (by simp), if_pos rfl,
        run_bind_of_run escape]
    · rename_i printed
      rw [stringFrom, List.singleton_append, run_bind_of_run (take_run _ _),
        if_neg notQuote, if_neg notBackslash, if_neg printed]

theorem length_escapeChar_pos (char : Char) : 0 < (escapeChar char).length := by
  unfold escapeChar
  split
  all_goals try exact Nat.succ_pos _
  split <;> exact Nat.succ_pos _

theorem stringFrom_run_flatMap (read text : Text) {steps : Nat}
    (enough : (text.flatMap escapeChar).length < steps) (rest : Text) :
    (stringFrom read steps).run (text.flatMap escapeChar ++ '"' :: rest) =
      .ok (read.reverse ++ text, rest) := by
  induction text generalizing read steps with
  | nil =>
      rcases Nat.exists_eq_add_of_lt enough with ⟨steps, rfl⟩
      rw [List.flatMap_nil, List.nil_append, stringFrom, run_bind_of_run (take_run _ _),
        if_pos rfl, List.append_nil]
      rfl
  | cons char text ih =>
      have shorter := length_escapeChar_pos char
      rcases Nat.exists_eq_add_of_lt enough with ⟨steps, rfl⟩
      rw [List.flatMap_cons, List.length_append] at enough ⊢
      rw [List.append_assoc, stringFrom_run_escapeChar, ih _ (by omega), List.reverse_cons,
        List.append_assoc, List.singleton_append]

/-- What stands between the quotes spells the text. -/
theorem spellsString_flatMap (text : Text) :
    SpellsString (text.flatMap escapeChar ++ "\"") text := by
  intro rest
  have closing : text.flatMap escapeChar ++ "\"" ++ rest = text.flatMap escapeChar ++ '"' :: rest :=
    List.append_assoc _ _ _
  rw [closing]
  exact stringFrom_run_flatMap [] text (Text.length_lt_succ_length_append _ _) rest

theorem reads_string_quote (text : Text) : Reads JsonReader.string (quote text) text :=
  reads_string (spellsString_flatMap text)

/-! ## Arrays and objects -/

theorem allLayout_newline (depth : Nat) : AllLayout (newline depth) := by
  intro char charMem
  rcases List.mem_cons.mp charMem with rfl | blank
  · rfl
  · have same := List.eq_of_mem_replicate blank
    subst same
    rfl

/-- A rendered value begins with a token that closes no array. -/
theorem exists_renderAt_eq_cons (depth : Nat) (value : Json) :
    ∃ token text, value.renderAt depth = token :: text ∧ isLayout token = false ∧ token ≠ ']' := by
  cases value with
  | null => exact ⟨'n', "ull", rfl, rfl, by simp⟩
  | bool value =>
      cases value
      · exact ⟨'f', "alse", rfl, rfl, by simp⟩
      · exact ⟨'t', "rue", rfl, rfl, by simp⟩
  | number value =>
      rcases exists_ofInt_eq_cons value with ⟨first, others, shape, begins⟩
      refine ⟨first, others, shape, ?_, ?_⟩
      · rcases begins with rfl | digit
        · decide
        · exact isLayout_of_isDigit digit
      · rintro rfl
        exact absurd begins (by simp)
  | string value => exact ⟨'"', _, rfl, rfl, by simp⟩
  | array elements =>
      cases elements
      · exact ⟨'[', _, rfl, rfl, by simp⟩
      · exact ⟨'[', _, rfl, rfl, by simp⟩
  | object members =>
      cases members
      · exact ⟨'\x7b', _, rfl, rfl, by simp⟩
      · exact ⟨'\x7b', _, rfl, rfl, by simp⟩

theorem renderAt_array_cons (depth : Nat) (first : Json) (others : List Json) :
    (array (first :: others)).renderAt depth =
      "[" ++ newline (depth + 1) ++ first.renderAt (depth + 1)
        ++ renderElements (depth + 1) others ++ newline depth ++ "]" :=
  rfl

theorem renderAt_object_cons (depth : Nat) (key : Text) (value : Json)
    (others : List (Text × Json)) :
    (object ((key, value) :: others)).renderAt depth =
      "\x7b" ++ newline (depth + 1) ++ quote key ++ ": " ++ value.renderAt (depth + 1)
        ++ renderMembers (depth + 1) others ++ newline depth ++ "\x7d" :=
  rfl

section Elements

variable {α : Type} {element : JsonReader α} {toJson : α → Json} {depth : Nat}

theorem spellsElements_renderElements (outer : Nat) {values : List α}
    (reads : ∀ value ∈ values, Reads element ((toJson value).renderAt depth) value) :
    SpellsElements element false
      (renderElements depth (values.map toJson) ++ newline outer ++ "]") values := by
  induction values with
  | nil => exact .close (allLayout_newline outer)
  | cons value values ih =>
      rcases exists_renderAt_eq_cons depth (toJson value) with ⟨token, text, shape, noBlank, goesOn⟩
      have taken := reads value (by simp)
      have others := ih fun other otherMem => reads other (by simp [otherMem])
      rw [shape] at taken
      have spelled :=
        SpellsElements.next allLayout_nil (allLayout_newline depth) noBlank goesOn taken others
      simp only [List.map_cons, renderElements, shape, List.nil_append, List.append_assoc,
        List.cons_append] at spelled ⊢
      exact spelled

/-- An array is read back if its elements are, at the depth at which they stand in it. -/
theorem reads_array_renderAt {values : List α}
    (reads : ∀ value ∈ values, Reads element ((toJson value).renderAt (depth + 1)) value) :
    Reads (JsonReader.array element) ((array (values.map toJson)).renderAt depth) values := by
  cases values with
  | nil => exact reads_array (.close allLayout_nil)
  | cons value values =>
      rcases exists_renderAt_eq_cons (depth + 1) (toJson value) with
        ⟨token, text, shape, noBlank, goesOn⟩
      have taken := reads value (by simp)
      have others := spellsElements_renderElements depth fun other otherMem =>
        reads other (List.mem_cons_of_mem value otherMem)
      rw [shape] at taken
      have spelled :=
        SpellsElements.first (allLayout_newline (depth + 1)) noBlank goesOn taken others
      have read := reads_array spelled
      simp only [List.map_cons, renderAt_array_cons, shape, List.append_assoc,
        List.cons_append] at read ⊢
      exact read

end Elements

section Members

variable {σ : Type} {member : Text → σ → JsonReader σ} {depth : Nat}

/-- Reading the members one after the other leads from one state to another. -/
inductive MembersLead (member : Text → σ → JsonReader σ) (depth : Nat) :
    σ → List (Text × Json) → σ → Prop where
  | nil (state : σ) : MembersLead member depth state [] state
  | cons {state next final : σ} {key : Text} {value : Json} {rest : List (Text × Json)}
      (reads : Reads (member key state) (": " ++ value.renderAt depth) next)
      (lead : MembersLead member depth next rest final) :
      MembersLead member depth state ((key, value) :: rest) final

theorem spellsMembers_renderMembers (outer : Nat) {state final : σ}
    {members : List (Text × Json)} (lead : MembersLead member depth state members final) :
    SpellsMembers member false state
      (renderMembers depth members ++ newline outer ++ "\x7d") final := by
  induction lead with
  | nil state => exact .close (allLayout_newline outer)
  | @cons state next final key value rest reads lead ih =>
      have spelled := SpellsMembers.next allLayout_nil (allLayout_newline depth)
        (spellsString_flatMap key) reads ih
      simp only [renderMembers, quote, List.nil_append, List.append_assoc,
        List.cons_append] at spelled ⊢
      exact spelled

/-- The members of an object that has some are read back behind its opening brace. -/
theorem members_run_renderAt {state final : σ} {first : Text × Json}
    {others : List (Text × Json)}
    (lead : MembersLead member (depth + 1) state (first :: others) final) :
    ∃ text, (object (first :: others)).renderAt depth = '\x7b' :: text ∧
      ∀ rest, (members member state).run (text ++ rest) = .ok (final, rest) := by
  cases lead with
  | @cons state next final key value rest reads lead =>
      have spelled := SpellsMembers.first (allLayout_newline (depth + 1))
        (spellsString_flatMap key) reads (spellsMembers_renderMembers depth lead)
      refine ⟨_, ?_, members_run spelled⟩
      simp only [renderAt_object_cons, quote, List.append_assoc, List.cons_append]
      rfl

end Members

theorem reads_once_renderAt {α : Type} {reader : JsonReader α} (skips : SkipsBlanks reader)
    {value : Json} {depth : Nat} {result : α} (reads : Reads reader (value.renderAt depth) result) :
    Reads (once none reader) (": " ++ value.renderAt depth) (some result) := by
  have blank : AllLayout " " := by decide
  exact reads_once skips blank reads

end Json

end BraceBalance
