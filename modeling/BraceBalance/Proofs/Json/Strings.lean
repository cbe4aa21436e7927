import BraceBalance.Proofs.Json.Answers

/-!
# Strings with escapes of all kinds

A string is read as the text that its pieces stand for, and not at all if they stand for none. The
pieces are taken one by one but for the two halves of a pair of surrogates, which are taken at
once; so the induction on the pieces goes together with the case in which a first half stands
before them. A string that nobody wants is skipped without a look at what its escapes stand for.
-/

namespace BraceBalance

namespace Text

theorem utf8Size_of_isHexDigit {digit : Char} (isHexDigit : Text.isHexDigit digit) :
    digit.utf8Size = 1 := by
  have small : digit.toNat ≤ 127 := by
    simp only [Text.isHexDigit, hexDigit?] at isHexDigit
    split at isHexDigit
    · rename_i isDigit
      have upper := (Char.isDigit_iff_toNat.mp isDigit).2
      exact Nat.le_trans upper (by decide)
    · split at isHexDigit
      · rename_i between
        exact Nat.le_trans (Char.le_def.mp between.2) (by decide)
      · split at isHexDigit
        · rename_i between
          exact Nat.le_trans (Char.le_def.mp between.2) (by decide)
        · cases isHexDigit
  exact Char.utf8Size_eq_one_iff.mpr small

theorem byteLength_of_isHexDigit {digits : Text}
    (hexDigits : ∀ digit ∈ digits, Text.isHexDigit digit) : digits.byteLength = digits.length := by
  induction digits with
  | nil => rfl
  | cons digit digits ih =>
      rw [byteLength, utf8Size_of_isHexDigit (hexDigits digit List.mem_cons_self),
        ih fun later laterMem => hexDigits later (List.mem_cons_of_mem _ laterMem),
        List.length_cons, Nat.add_comm]

end Text

namespace JsonReader

theorem takeCodeUnit_run {digits : Text} (length : digits.length = 4)
    (hexDigits : ∀ digit ∈ digits, Text.isHexDigit digit) (rest : Text) :
    takeCodeUnit.run (digits ++ rest) = .ok (Text.numberOf 16 digits, rest) := by
  have first : (digits ++ rest).take 4 = digits := List.take_left' length
  have behind : (digits ++ rest).drop 4 = rest := List.drop_left' length
  have enough : ¬digits.byteLength < 4 := by
    rw [Text.byteLength_of_isHexDigit hexDigits, length]
    decide
  have fits : (digits.length = 4 && digits.all Text.isHexDigit) = true := by
    simpa [length] using hexDigits
  have got : (get : JsonReader Text).run (digits ++ rest) = .ok (digits ++ rest, digits ++ rest) := rfl
  rw [takeCodeUnit, run_bind_of_run got]
  dsimp only
  rw [first, behind, if_neg enough, if_pos fits]
  rfl

theorem simpleEscape?_of_mem_escapes {letter char : Char}
    (isEscape : (letter, char) ∈ StringPiece.escapes) :
    simpleEscape? letter = some char ∧ letter ≠ 'u' := by
  simp only [StringPiece.escapes, List.mem_cons, List.not_mem_nil, or_false, Prod.mk.injEq]
    at isEscape
  rcases isEscape with ⟨rfl, rfl⟩ | ⟨rfl, rfl⟩ | ⟨rfl, rfl⟩ | ⟨rfl, rfl⟩ | ⟨rfl, rfl⟩ |
    ⟨rfl, rfl⟩ | ⟨rfl, rfl⟩ | ⟨rfl, rfl⟩ <;> exact ⟨rfl, by decide⟩

/-! ## Strings that are read -/

theorem answer?_stringFrom_quote (read : Text) (steps : Nat) (rest : Text) :
    answer? (stringFrom read (steps + 1)) ('"' :: rest) = some (read.reverse, rest) :=
  rfl

theorem answer?_stringFrom_plain {char : Char} (written : (StringPiece.plain char).IsWritten)
    (read : Text) (steps : Nat) (rest : Text) :
    answer? (stringFrom read (steps + 1)) (char :: rest) =
      answer? (stringFrom (char :: read) steps) rest := by
  rcases written with ⟨notQuote, notBackslash, printed⟩
  rw [stringFrom, answer?_bind_of_run (take_run _ _), if_neg notQuote, if_neg notBackslash,
    if_neg (Nat.not_lt.mpr printed)]

theorem answer?_stringFrom_backslash (read : Text) (steps : Nat) (rest : Text) :
    answer? (stringFrom read (steps + 1)) ('\\' :: rest) =
      (answer? takeEscape rest).bind fun taken =>
        answer? (stringFrom (taken.1 :: read) steps) taken.2 := by
  rw [stringFrom, answer?_bind_of_run (take_run _ _), if_neg (by decide), if_pos rfl, answer?_bind]

theorem takeEscape_run_letter {letter char : Char}
    (isEscape : (letter, char) ∈ StringPiece.escapes) (rest : Text) :
    answer? takeEscape (letter :: rest) = some (char, rest) := by
  rcases simpleEscape?_of_mem_escapes isEscape with ⟨escapes, notUnit⟩
  rw [takeEscape, answer?_bind_of_run (take_run _ _), if_neg notUnit, escapes]
  rfl

/-- The character of a pair of surrogates, whose first half has been taken. -/
def secondHalf (leading : Nat) : JsonReader Char := do
  if (← take) ≠ '\\' then throw .malformed
  if (← take) ≠ 'u' then throw .malformed
  let trailing ← takeCodeUnit
  if isTrailingSurrogate trailing then return StringPiece.ofSurrogates leading trailing
  else throw .malformed

theorem answer?_takeEscape_unit {digits : Text} (written : (StringPiece.unit digits).IsWritten)
    (rest : Text) :
    answer? takeEscape ('u' :: (digits ++ rest)) =
      if isTrailingSurrogate (Text.numberOf 16 digits) then none
      else if isLeadingSurrogate (Text.numberOf 16 digits) then
        answer? (secondHalf (Text.numberOf 16 digits)) rest
      else some (Char.ofNat (Text.numberOf 16 digits), rest) := by
  rw [takeEscape, answer?_bind_of_run (take_run _ _), if_pos rfl, takeUnicodeEscape,
    answer?_bind_of_run (takeCodeUnit_run written.1 written.2 rest)]
  by_cases trailing : isTrailingSurrogate (Text.numberOf 16 digits)
  · rw [if_pos trailing]
    simp only [trailing, if_true]
    rfl
  · rw [if_neg trailing]
    simp only [trailing, Bool.false_eq_true, if_false]
    by_cases leading : isLeadingSurrogate (Text.numberOf 16 digits)
    · rw [if_pos leading, if_pos leading]
      rfl
    · rw [if_neg leading, if_neg leading]
      rfl

theorem answer?_secondHalf_of_ne (leading : Nat) {char : Char} (notBackslash : char ≠ '\\')
    (rest : Text) : answer? (secondHalf leading) (char :: rest) = none := by
  rw [secondHalf, answer?_bind_of_run (take_run _ _), if_pos notBackslash]
  rfl

theorem answer?_secondHalf_letter (leading : Nat) {letter : Char} (notUnit : letter ≠ 'u')
    (rest : Text) : answer? (secondHalf leading) ('\\' :: letter :: rest) = none := by
  rw [secondHalf, answer?_bind_of_run (take_run _ _), if_neg (by simp)]
  dsimp only
  rw [answer?_bind_of_run (take_run _ _), if_pos notUnit]
  rfl

theorem answer?_secondHalf_unit (leading : Nat) {digits : Text}
    (written : (StringPiece.unit digits).IsWritten) (rest : Text) :
    answer? (secondHalf leading) ('\\' :: 'u' :: (digits ++ rest)) =
      if isTrailingSurrogate (Text.numberOf 16 digits) then
        some (StringPiece.ofSurrogates leading (Text.numberOf 16 digits), rest)
      else none := by
  rw [secondHalf, answer?_bind_of_run (take_run _ _), if_neg (by simp)]
  dsimp only
  rw [answer?_bind_of_run (take_run _ _), if_neg (by simp),
    answer?_bind_of_run (takeCodeUnit_run written.1 written.2 rest)]
  by_cases trailing : isTrailingSurrogate (Text.numberOf 16 digits)
  · rw [if_pos trailing, if_pos trailing]
    rfl
  · rw [if_neg trailing, if_neg trailing]
    rfl

/-- What is read of the pieces is the text that they stand for, also behind the first half of a
pair. -/
theorem answer?_stringFrom {pieces : List StringPiece}
    (written : ∀ piece ∈ pieces, piece.IsWritten) :
    (∀ (read : Text) {steps : Nat}, (pieces.flatMap StringPiece.render).length < steps →
      ∀ rest, answer? (stringFrom read steps) (pieces.flatMap StringPiece.render ++ '"' :: rest) =
        (StringPiece.textFrom? none pieces).map fun text => (read.reverse ++ text, rest)) ∧
    ∀ (leading : Nat) (read : Text) {steps : Nat},
      (pieces.flatMap StringPiece.render).length ≤ steps → ∀ rest,
      ((answer? (secondHalf leading) (pieces.flatMap StringPiece.render ++ '"' :: rest)).bind
        fun taken => answer? (stringFrom (taken.1 :: read) steps) taken.2) =
      (StringPiece.textFrom? (some leading) pieces).map fun text => (read.reverse ++ text, rest) := by
  induction pieces with
  | nil =>
      refine ⟨?_, ?_⟩
      · intro read steps enough rest
        rcases steps with _ | steps
        · exact absurd enough (by simp)
        · rw [StringPiece.textFrom?, Option.map_some, List.append_nil]
          exact answer?_stringFrom_quote read steps rest
      · intro leading read steps enough rest
        rfl
  | cons piece pieces ih =>
      rcases ih fun later laterMem => written later (List.mem_cons_of_mem _ laterMem) with
        ⟨reads, readsBehind⟩
      have here := written piece List.mem_cons_self
      -- What is read of the later pieces stands behind the character of the first.
      have behind (char : Char) (text? : Option Text) (read rest : Text) :
          (text?.map fun text => ((char :: read).reverse ++ text, rest)) =
            (text?.map (char :: ·)).map fun text => (read.reverse ++ text, rest) := by
        cases text? <;> simp
      rw [List.flatMap_cons, List.length_append]
      refine ⟨?_, ?_⟩
      · intro read steps enough rest
        rcases steps with _ | steps
        · exact absurd enough (by simp)
        cases piece with
        | plain char =>
            simp only [StringPiece.render, List.length_singleton, List.cons_append,
              List.nil_append] at enough ⊢
            rw [answer?_stringFrom_plain here, reads _ (by omega), behind]
            rfl
        | escape letter char =>
            simp only [StringPiece.render, List.length_cons, List.length_nil, List.cons_append,
              List.nil_append] at enough ⊢
            rw [answer?_stringFrom_backslash, takeEscape_run_letter here, Option.bind_some,
              reads _ (by omega), behind]
            rfl
        | unit digits =>
            simp only [StringPiece.render, List.length_cons, List.cons_append,
              List.append_assoc] at enough ⊢
            rw [answer?_stringFrom_backslash, answer?_takeEscape_unit here, StringPiece.textFrom?]
            split
            · rfl
            split
            · exact readsBehind _ read (by omega) rest
            · rw [Option.bind_some, reads _ (by omega), behind]
      · intro leading read steps enough rest
        cases piece with
        | plain char =>
            rcases here with ⟨_, notBackslash, _⟩
            simp only [StringPiece.render, List.cons_append]
            rw [answer?_secondHalf_of_ne leading notBackslash]
            rfl
        | escape letter char =>
            have notUnit := (simpleEscape?_of_mem_escapes here).2
            simp only [StringPiece.render, List.cons_append, List.nil_append]
            rw [answer?_secondHalf_letter leading notUnit]
            rfl
        | unit digits =>
            simp only [StringPiece.render, List.length_cons, List.cons_append,
              List.append_assoc] at enough ⊢
            rw [answer?_secondHalf_unit leading here, StringPiece.textFrom?]
            split
            · rw [Option.bind_some, reads _ (by omega), behind]
            · rfl

/-- A string is read as the text that it stands for. -/
theorem answer?_finishString {content : Text} {value : Option Text}
    (spells : StringPiece.Spells content value) (rest : Text) :
    answer? finishString (content ++ rest) = value.map fun text => (text, rest) := by
  rcases spells with ⟨pieces, written, rfl, rfl⟩
  have closing : pieces.flatMap StringPiece.render ++ "\"" ++ rest =
      pieces.flatMap StringPiece.render ++ '"' :: rest := List.append_assoc _ _ _
  rw [closing]
  exact (answer?_stringFrom written).1 [] (Text.length_lt_succ_length_append _ _) rest

/-! ## Strings that are skipped -/

theorem skipStringFrom_run {pieces : List StringPiece}
    (written : ∀ piece ∈ pieces, piece.IsWritten) {steps : Nat}
    (enough : (pieces.flatMap StringPiece.render).length < steps) (rest : Text) :
    (skipStringFrom steps).run (pieces.flatMap StringPiece.render ++ '"' :: rest) =
      .ok ((), rest) := by
  induction pieces generalizing steps with
  | nil =>
      rcases steps with _ | steps
      · exact absurd enough (by simp)
      · rfl
  | cons piece pieces ih =>
      have later : ∀ {steps}, (pieces.flatMap StringPiece.render).length < steps →
          (skipStringFrom steps).run (pieces.flatMap StringPiece.render ++ '"' :: rest) =
            .ok ((), rest) :=
        ih fun later laterMem => written later (List.mem_cons_of_mem _ laterMem)
      have here := written piece List.mem_cons_self
      rw [List.flatMap_cons, List.length_append] at enough
      rw [List.flatMap_cons]
      rcases steps with _ | steps
      · exact absurd enough (by simp)
      rw [skipStringFrom]
      cases piece with
      | plain char =>
          rcases here with ⟨notQuote, notBackslash, printed⟩
          simp only [StringPiece.render, List.length_singleton, List.cons_append,
            List.nil_append] at enough ⊢
          rw [run_bind_of_run (take_run _ _), if_neg notQuote, if_neg notBackslash,
            if_neg (Nat.not_lt.mpr printed)]
          exact later (by omega)
      | escape letter char =>
          rcases simpleEscape?_of_mem_escapes here with ⟨escapes, notUnit⟩
          simp only [StringPiece.render, List.length_cons, List.length_nil, List.cons_append,
            List.nil_append] at enough ⊢
          rw [run_bind_of_run (take_run _ _), if_neg (by decide), if_pos rfl,
            run_bind_of_run (take_run _ _), if_neg notUnit]
          simp only [escapes, Option.isNone_some, Bool.false_eq_true, if_false]
          exact later (by omega)
      | unit digits =>
          simp only [StringPiece.render, List.length_cons, List.cons_append,
            List.append_assoc] at enough ⊢
          rw [run_bind_of_run (take_run _ _), if_neg (by decide), if_pos rfl,
            run_bind_of_run (take_run _ _), if_pos rfl,
            run_bind_of_run (takeCodeUnit_run here.1 here.2 _)]
          exact later (by omega)

theorem skipString_run {content : Text} {value : Option Text}
    (spells : StringPiece.Spells content value) (rest : Text) :
    skipString.run (content ++ rest) = .ok ((), rest) := by
  rcases spells with ⟨pieces, written, _, rfl⟩
  have closing : pieces.flatMap StringPiece.render ++ "\"" ++ rest =
      pieces.flatMap StringPiece.render ++ '"' :: rest := List.append_assoc _ _ _
  rw [closing]
  exact skipStringFrom_run written (Text.length_lt_succ_length_append _ _) rest

end JsonReader

end BraceBalance
