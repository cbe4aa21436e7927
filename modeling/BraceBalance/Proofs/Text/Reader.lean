import BraceBalance.Proofs.Text.Basic
import BraceBalance.Text.Reader

/-!
# What readers of texts take

The spec of each reader that others are made of: what it takes off the front of a text, and
when it fails. Readers in sequence are followed one at a time.
-/

namespace BraceBalance

namespace TextReader

variable {α β : Type} {text rest : Text}

/-- A reader that succeeds hands its value and the rest of the text on to what follows. -/
theorem run_bind_of_run {first : TextReader α} {value : α}
    (run : first.run text = some (value, rest)) (next : α → TextReader β) :
    (first >>= next).run text = (next value).run rest := by
  rw [StateT.run_bind, run]
  rfl

/-- What follows on a reader that fails is not reached. -/
theorem run_bind_of_run_eq_none {first : TextReader α} (fails : first.run text = none)
    (next : α → TextReader β) : (first >>= next).run text = none := by
  rw [StateT.run_bind, fails]
  rfl

theorem run_ite_of_run_true {first : TextReader Bool} (run : first.run text = some (true, rest))
    (chosen other : TextReader β) :
    (first >>= fun found => if found = true then chosen else other).run text = chosen.run rest := by
  rw [run_bind_of_run run, if_pos rfl]

theorem run_ite_of_run_false {first : TextReader Bool} (run : first.run text = some (false, rest))
    (other chosen : TextReader β) :
    (first >>= fun found => if found = true then other else chosen).run text = chosen.run rest := by
  rw [run_bind_of_run run, if_neg Bool.false_ne_true]

/-- The second of two readers starts where the first did, if that fails. -/
theorem run_orElse_of_run_eq_none {first second : TextReader α} (fails : first.run text = none) :
    (first <|> second).run text = second.run text := by
  have choice : (first <|> second).run text = (first.run text <|> second.run text) := rfl
  rw [choice, fails]
  rfl

theorem get_run (text : Text) : (get : TextReader Text).run text = some (text, text) :=
  rfl

theorem peek?_run (text : Text) : peek?.run text = some (text.head?, text) :=
  rfl

theorem atEnd_run (text : Text) : atEnd.run text = some (text.isEmpty, text) :=
  rfl

theorem take_run (char : Char) (rest : Text) : take.run (char :: rest) = some (char, rest) :=
  rfl

theorem takeIf_run {accepts : Char → Bool} {char : Char} (accepted : accepts char) (rest : Text) :
    (takeIf accepts).run (char :: rest) = some (char, rest) := by
  rw [takeIf, run_bind_of_run (take_run char rest), if_pos accepted]
  rfl

theorem takeIf_run_of_stopsRun {accepts : Char → Bool} (stops : Text.StopsRun accepts text) :
    (takeIf accepts).run text = none := by
  rcases text with _ | ⟨char, rest⟩
  · rfl
  · have refused : ¬accepts char = true := by simp [stops char rfl]
    rw [takeIf, run_bind_of_run (take_run char rest), if_neg refused]
    rfl

theorem takeWhile_run {accepts : Char → Bool} {run : Text} (accepted : ∀ char ∈ run, accepts char)
    (stops : Text.StopsRun accepts rest) :
    (takeWhile accepts).run (run ++ rest) = some (run, rest) := by
  change some (((run ++ rest).span accepts).1, ((run ++ rest).span accepts).2) = _
  rw [Text.span_append accepted stops]

theorem takeWhile_run_of_stopsRun {accepts : Char → Bool} (stops : Text.StopsRun accepts text) :
    (takeWhile accepts).run text = some ([], text) := by
  have noRun : ∀ char ∈ ([] : Text), accepts char := by simp
  exact takeWhile_run noRun stops

theorem skipWhile_run_of_stopsRun {drops : Char → Bool} (stops : Text.StopsRun drops text) :
    (skipWhile drops).run text = some ((), text) := by
  change some ((), text.dropWhile drops) = _
  rw [Text.dropWhile_of_stopsRun stops]

theorem takeText?_run_append (wanted rest : Text) :
    (takeText? wanted).run (wanted ++ rest) = some (true, rest) := by
  have found : Text.dropBeginning? (wanted ++ rest) wanted = some rest := by
    rw [Text.dropBeginning?,
      if_pos (List.isPrefixOf_iff_prefix.mpr (List.prefix_append wanted rest)), List.drop_left]
  rw [takeText?, run_bind_of_run (get_run _), found]
  rfl

theorem takeText?_run_of_not_isPrefix {wanted : Text} (absent : ¬wanted <+: text) :
    (takeText? wanted).run text = some (false, text) := by
  have missing : Text.dropBeginning? text wanted = none := by
    rw [Text.dropBeginning?, if_neg (fun found => absent (List.isPrefixOf_iff_prefix.mp found))]
  rw [takeText?, run_bind_of_run (get_run _), missing]
  rfl

theorem takeText?_run_of_head?_ne {first : Char} {wanted : Text}
    (absent : text.head? ≠ some first) :
    (takeText? (first :: wanted)).run text = some (false, text) := by
  apply takeText?_run_of_not_isPrefix
  rintro ⟨rest, rfl⟩
  exact absent rfl

theorem takeText_run_append (wanted rest : Text) :
    (takeText wanted).run (wanted ++ rest) = some ((), rest) := by
  rw [takeText, run_bind_of_run (takeText?_run_append wanted rest)]
  rfl

theorem takeText_run_of_head?_ne {first : Char} {wanted : Text} (absent : text.head? ≠ some first) :
    (takeText (first :: wanted)).run text = none := by
  rw [takeText, run_bind_of_run (takeText?_run_of_head?_ne absent)]
  rfl

end TextReader

end BraceBalance
