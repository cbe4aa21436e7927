import BraceBalance.Text.Basic
import Mathlib.Data.List.DropRight
import Mathlib.Data.List.Forall2
import Mathlib.Data.List.TakeDrop

/-!
# Cutting and encoding texts

The longest run at the beginning of a text is the run that was put there, if what follows
does not go on with it. A text that is encoded in UTF-8 is decoded to itself.
-/

namespace BraceBalance

namespace Text

/-- The text does not begin with a character of a run. -/
def StopsRun (accepts : Char → Bool) (text : Text) : Prop :=
  ∀ char, text.head? = some char → accepts char = false

theorem stopsRun_nil (accepts : Char → Bool) : StopsRun accepts [] := by
  intro char head
  simp at head

theorem stopsRun_cons {accepts : Char → Bool} {char : Char} (stops : accepts char = false)
    (rest : Text) : StopsRun accepts (char :: rest) := by
  intro first head
  have same : char = first := by simpa using head
  subst same
  exact stops

theorem StopsRun.head?_ne {accepts : Char → Bool} {text : Text} (stops : StopsRun accepts text)
    {char : Char} (accepted : accepts char) : text.head? ≠ some char := by
  intro head
  have refused := stops char head
  simp [accepted] at refused

theorem dropWhile_of_stopsRun {accepts : Char → Bool} {text : Text}
    (stops : StopsRun accepts text) : text.dropWhile accepts = text := by
  rcases text with _ | ⟨char, rest⟩
  · rfl
  · exact List.dropWhile_cons_of_neg (by simp [stops char rfl])

theorem takeWhile_of_stopsRun {accepts : Char → Bool} {text : Text}
    (stops : StopsRun accepts text) : text.takeWhile accepts = [] := by
  rcases text with _ | ⟨char, rest⟩
  · rfl
  · exact List.takeWhile_cons_of_neg (by simp [stops char rfl])

/-- A run is cut off as it was put before a text that does not go on with it. -/
theorem span_append {accepts : Char → Bool} {run rest : Text}
    (accepted : ∀ char ∈ run, accepts char) (stops : StopsRun accepts rest) :
    (run ++ rest).span accepts = (run, rest) := by
  rw [List.span_eq_takeWhile_dropWhile, List.takeWhile_append_of_pos accepted,
    List.dropWhile_append_of_pos accepted, takeWhile_of_stopsRun stops,
    dropWhile_of_stopsRun stops, List.append_nil]

/-- A run before a text that does not go on with it can be told apart from that text. -/
theorem run_append_inj {accepts : Char → Bool} {run otherRun rest otherRest : Text}
    (accepted : ∀ char ∈ run, accepts char) (otherAccepted : ∀ char ∈ otherRun, accepts char)
    (stops : StopsRun accepts rest) (otherStops : StopsRun accepts otherRest)
    (same : run ++ rest = otherRun ++ otherRest) : run = otherRun ∧ rest = otherRest := by
  have cut := span_append accepted stops
  rw [same, span_append otherAccepted otherStops, Prod.mk.injEq] at cut
  exact ⟨cut.1.symm, cut.2.symm⟩

/-- A run behind a text that does not end with a part of it can be told apart from that text. -/
theorem append_run_inj {accepts : Char → Bool} {run otherRun before otherBefore : Text}
    (accepted : ∀ char ∈ run, accepts char) (otherAccepted : ∀ char ∈ otherRun, accepts char)
    (stops : StopsRun accepts before.reverse) (otherStops : StopsRun accepts otherBefore.reverse)
    (same : before ++ run = otherBefore ++ otherRun) : before = otherBefore ∧ run = otherRun := by
  have reversed : run.reverse ++ before.reverse = otherRun.reverse ++ otherBefore.reverse := by
    rw [← List.reverse_append, ← List.reverse_append, same]
  have cut := run_append_inj (by simpa using accepted) (by simpa using otherAccepted) stops
    otherStops reversed
  exact ⟨List.reverse_injective cut.2, List.reverse_injective cut.1⟩

/-- A text is cut at the first place where a character stands. -/
theorem cut_inj {stop : Char} {before otherBefore rest otherRest : Text} (absent : stop ∉ before)
    (otherAbsent : stop ∉ otherBefore)
    (same : before ++ stop :: rest = otherBefore ++ stop :: otherRest) :
    before = otherBefore ∧ rest = otherRest := by
  have stops (text : Text) : StopsRun (· ≠ stop) (stop :: text) := stopsRun_cons (by simp) text
  have accepted {text : Text} (absent : stop ∉ text) : ∀ char ∈ text, decide (char ≠ stop) := by
    intro char charMem
    simpa using ne_of_mem_of_not_mem charMem absent
  have cut := run_append_inj (accepted absent) (accepted otherAbsent) (stops rest) (stops otherRest)
    same
  exact ⟨cut.1, List.tail_eq_of_cons_eq cut.2⟩

/-- Parts written one after the other can be told apart if each of them can be told apart from
what may follow a part, and none can be taken for the ending. -/
theorem flatMap_append_inj {α : Type} {render : α → Text} {alike : α → α → Prop}
    {follows : Text → Prop} {parts others : List α} {ending otherEnding : Text}
    (delimited : ∀ part ∈ parts, ∀ other ∈ others, ∀ rest otherRest, follows rest →
      follows otherRest → render part ++ rest = render other ++ otherRest →
      alike part other ∧ rest = otherRest)
    (partFollows : ∀ part rest, follows (render part ++ rest))
    (endingFollows : follows ending) (otherEndingFollows : follows otherEnding)
    (notEnding : ∀ part rest, render part ++ rest ≠ ending ∧ render part ++ rest ≠ otherEnding)
    (same : parts.flatMap render ++ ending = others.flatMap render ++ otherEnding) :
    List.Forall₂ alike parts others ∧ ending = otherEnding := by
  have restFollows (parts : List α) {ending : Text} (endingFollows : follows ending) :
      follows (parts.flatMap render ++ ending) := by
    cases parts with
    | nil => exact endingFollows
    | cons part parts =>
        rw [List.flatMap_cons, List.append_assoc]
        exact partFollows part _
  induction parts generalizing others with
  | nil =>
      cases others with
      | nil => exact ⟨.nil, same⟩
      | cons other others =>
          rw [List.flatMap_cons, List.append_assoc] at same
          exact absurd same.symm (notEnding other _).1
  | cons part parts ih =>
      cases others with
      | nil =>
          rw [List.flatMap_cons, List.append_assoc] at same
          exact absurd same (notEnding part _).2
      | cons other others =>
          simp only [List.flatMap_cons, List.append_assoc] at same
          have first := delimited part List.mem_cons_self other List.mem_cons_self _ _
            (restFollows parts endingFollows) (restFollows others otherEndingFollows) same
          have later := @ih others
            (fun part partMem other otherMem => delimited part (List.mem_cons_of_mem _ partMem) other
              (List.mem_cons_of_mem _ otherMem)) first.2
          exact ⟨.cons first.1 later.1, later.2⟩

section Splitting

/-! ## Splitting -/

variable {α : Type} [DecidableEq α]

theorem splitOn_cons_separator (separator : α) (text : List α) :
    splitOn separator (separator :: text) = [] :: splitOn separator text := by
  rw [splitOn, List.foldr_cons, if_pos rfl]
  rfl

theorem splitOn_cons_of_ne {separator char : α} (other : char ≠ separator) {text part : List α}
    {later : List (List α)} (parts : splitOn separator text = part :: later) :
    splitOn separator (char :: text) = (char :: part) :: later := by
  rw [splitOn] at parts ⊢
  rw [List.foldr_cons, if_neg other, parts]

theorem splitOn_append_separator {separator : α} {part : List α} (absent : separator ∉ part)
    (text : List α) :
    splitOn separator (part ++ separator :: text) = part :: splitOn separator text := by
  induction part with
  | nil => exact splitOn_cons_separator separator text
  | cons char part ih =>
      have other : char ≠ separator := by
        rintro rfl
        exact absent List.mem_cons_self
      have absentLater : separator ∉ part := fun mem => absent (List.mem_cons_of_mem _ mem)
      exact splitOn_cons_of_ne other (ih absentLater)

theorem splitOn_of_not_mem {separator : α} {part : List α} (absent : separator ∉ part) :
    splitOn separator part = [part] := by
  induction part with
  | nil => rfl
  | cons char part ih =>
      have other : char ≠ separator := ne_of_mem_of_not_mem List.mem_cons_self absent
      have absentLater : separator ∉ part := fun mem => absent (List.mem_cons_of_mem _ mem)
      exact splitOn_cons_of_ne other (ih absentLater)

/-- Also the empty text has a part. -/
theorem splitOn_ne_nil (separator : α) (text : List α) : splitOn separator text ≠ [] := by
  rcases text with _ | ⟨char, text⟩
  · simp [splitOn]
  · rw [splitOn, List.foldr_cons]
    split
    · exact List.cons_ne_nil _ _
    · split <;> exact List.cons_ne_nil _ _

end Splitting

/-! ## Trimming -/

theorem mem_of_mem_trimBy {drops : Char → Bool} {text : Text} {char : Char}
    (charMem : char ∈ text.trimBy drops) : char ∈ text := by
  rw [trimBy, dropEndWhile, List.mem_reverse] at charMem
  have insideMem := List.mem_reverse.mp ((List.dropWhile_sublist drops).mem charMem)
  exact (List.dropWhile_sublist drops).mem insideMem

/-- What is trimmed from the ends of a text is what there is to drop. -/
theorem exists_eq_append_trimBy (drops : Char → Bool) (text : Text) :
    ∃ before after, (∀ char ∈ before, drops char) ∧ (∀ char ∈ after, drops char) ∧
      text = before ++ (trimBy drops text ++ after) := by
  refine ⟨text.takeWhile drops, (text.dropWhile drops).rtakeWhile drops, ?_, ?_, ?_⟩
  · exact fun char charMem => List.mem_takeWhile_imp charMem
  · exact fun char charMem => List.mem_rtakeWhile_imp charMem
  · have inner :
        trimBy drops text ++ (text.dropWhile drops).rtakeWhile drops = text.dropWhile drops :=
      List.rdropWhile_append_rtakeWhile
    rw [inner, List.takeWhile_append_dropWhile]

theorem stopsRun_dropWhile (drops : Char → Bool) (text : Text) :
    StopsRun drops (text.dropWhile drops) := by
  intro char head
  have notDropped := List.head?_dropWhile_not drops text
  rwa [head] at notDropped

theorem StopsRun.ofBeginning {accepts : Char → Bool} {text beginning : Text}
    (stops : StopsRun accepts text) (isPrefix : beginning <+: text) : StopsRun accepts beginning := by
  rcases isPrefix with ⟨rest, rfl⟩
  intro char head
  exact stops char (by simp [head])

theorem trimBy_trimBy (drops : Char → Bool) (text : Text) :
    trimBy drops (trimBy drops text) = trimBy drops text := by
  have isPrefix : trimBy drops text <+: text.dropWhile drops := List.rdropWhile_prefix drops _
  have stops := (stopsRun_dropWhile drops text).ofBeginning isPrefix
  calc trimBy drops (trimBy drops text)
      = dropEndWhile drops (trimBy drops text) := by rw [trimBy, dropWhile_of_stopsRun stops]
    _ = trimBy drops text := List.rdropWhile_idempotent drops (text.dropWhile drops)

/-! ## Lengths and encoding -/

theorem length_lt_succ_length_append (text rest : Text) :
    text.length < (text ++ rest).length + 1 := by
  rw [List.length_append]
  omega

/-- A list is no longer than the text in which none of its elements is written as nothing. -/
theorem length_le_length_flatMap {α : Type} {render : α → Text} (elements : List α)
    (written : ∀ element, render element ≠ []) :
    elements.length ≤ (elements.flatMap render).length := by
  induction elements with
  | nil => exact Nat.le_refl 0
  | cons element elements ih =>
      have positive : 0 < (render element).length := List.length_pos_iff.mpr (written element)
      rw [List.flatMap_cons, List.length_append, List.length_cons]
      omega

theorem ofBytes?_toBytes (text : Text) : ofBytes? text.toBytes = some text := by
  have valid : (String.ofList text).toUTF8.IsValidUTF8 := (String.ofList text).isValidUTF8
  have decoded : String.fromUTF8? (String.ofList text).toUTF8 = some (String.ofList text) := by
    rw [String.fromUTF8?, dif_pos valid]
    rfl
  rw [ofBytes?, toBytes, decoded, Option.map_some, String.toList_ofList]

theorem toBytes_of_ofBytes? {bytes : ByteArray} {text : Text} (isText : ofBytes? bytes = some text) :
    text.toBytes = bytes := by
  rw [ofBytes?, Option.map_eq_some_iff] at isText
  rcases isText with ⟨string, decoded, rfl⟩
  unfold String.fromUTF8? at decoded
  split at decoded
  · rw [Option.some.injEq] at decoded
    rw [toBytes, String.ofList_toList, ← decoded]
    rfl
  · contradiction

theorem length_le_size_toBytes (text : Text) : text.length ≤ text.toBytes.size := by
  change text.length ≤ text.utf8Encode.size
  induction text with
  | nil => exact Nat.zero_le _
  | cons char text ih =>
      rw [List.utf8Encode_cons, ByteArray.size_append, List.length_cons]
      have positive : 0 < [char].utf8Encode.size := by
        rw [List.utf8Encode_singleton, List.size_toByteArray, String.length_utf8EncodeChar]
        exact char.utf8Size_pos
      omega

end Text

end BraceBalance
