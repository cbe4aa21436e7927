import BraceBalance.Text.Packed
import BraceBalance.Proofs.Text.Basic

/-!
# Where characters begin

In UTF-8 the first byte of a character is none of the other bytes of any character. So the bytes
of a text can be taken apart in one way only, and a byte that is a character on its own stands
only where this character does. All that a byte-wise program relies on follows from these two
facts.
-/

namespace BraceBalance

namespace Packed

@[simp]
theorem ofText_nil : ofText [] = [] :=
  rfl

theorem ofText_cons (char : Char) (text : Text) :
    ofText (char :: text) = String.utf8EncodeChar char ++ ofText text :=
  List.flatMap_cons

@[simp]
theorem ofText_of_append (left right : Text) : ofText (left ++ right) = ofText left ++ ofText right :=
  List.flatMap_append

theorem toByteArray_ofText (text : Text) : (ofText text).toByteArray = text.toBytes :=
  rfl

theorem data_toBytes (text : Text) : text.toBytes.data.toList = ofText text := by
  rw [← toByteArray_ofText, List.toList_data_toByteArray]

theorem text?_ofText (text : Text) : text? (ofText text) = some text := by
  have bytes : (⟨(ofText text).toArray⟩ : ByteArray) = text.toBytes := by
    rw [← data_toBytes]
  rw [text?, bytes, Text.ofBytes?_toBytes]

/-- The bytes of a character are one that begins it, and others that begin none. -/
theorem exists_utf8EncodeChar_eq_cons (char : Char) :
    ∃ first others, String.utf8EncodeChar char = first :: others ∧ first.IsUTF8FirstByte ∧
      ∀ other ∈ others, ¬other.IsUTF8FirstByte := by
  rcases bytes : String.utf8EncodeChar char with _ | ⟨first, others⟩
  · exact absurd bytes String.utf8EncodeChar_ne_nil
  refine ⟨first, others, rfl, ?_, ?_⟩
  · have begins := @UInt8.isUTF8FirstByte_getElem_utf8EncodeChar char 0 (by simp [bytes])
    simpa [bytes] using begins
  · intro other otherMem
    rcases List.getElem_of_mem otherMem with ⟨index, within, rfl⟩
    have continues := @UInt8.isUTF8FirstByte_getElem_utf8EncodeChar char (index + 1)
      (by simp [bytes, within])
    simpa [bytes] using continues

/-- The bytes of a character cannot be the beginning of those of another one. -/
theorem utf8EncodeChar_append_inj {char other : Char} {rest otherRest : Packed}
    (same : String.utf8EncodeChar char ++ rest = String.utf8EncodeChar other ++ otherRest) :
    char = other ∧ rest = otherRest := by
  have decoded (char : Char) (rest : Packed) :
      ByteArray.utf8DecodeChar? (String.utf8EncodeChar char ++ rest).toByteArray 0 = some char := by
    rw [List.toByteArray_append]
    exact ByteArray.utf8DecodeChar?_utf8EncodeChar_append
  have sameChar : char = other := by
    have first := decoded char rest
    rw [same, decoded other otherRest] at first
    exact (Option.some.inj first).symm
  subst sameChar
  exact ⟨rfl, List.append_cancel_left same⟩

theorem ofText_prefix_iff {needle text : Text} : ofText needle <+: ofText text ↔ needle <+: text := by
  constructor
  · intro isPrefix
    induction needle generalizing text with
    | nil => exact List.nil_prefix
    | cons char needle ih =>
        rcases isPrefix with ⟨rest, whole⟩
        rw [ofText_cons, List.append_assoc] at whole
        rcases text with _ | ⟨other, text⟩
        · rcases exists_utf8EncodeChar_eq_cons char with ⟨first, others, bytes, -⟩
          simp [bytes] at whole
        · rw [ofText_cons] at whole
          rcases utf8EncodeChar_append_inj whole with ⟨rfl, later⟩
          exact (List.prefix_cons_inj char).mpr (ih ⟨rest, later⟩)
  · rintro ⟨rest, rfl⟩
    exact ⟨ofText rest, (ofText_of_append needle rest).symm⟩

/-- The bytes of a text that is not empty begin with the first byte of a character. -/
theorem exists_ofText_eq_cons {text : Text} (nonempty : text ≠ []) :
    ∃ first others, ofText text = first :: others ∧ first.IsUTF8FirstByte := by
  rcases text with _ | ⟨char, text⟩
  · exact absurd rfl nonempty
  · rcases exists_utf8EncodeChar_eq_cons char with ⟨first, others, bytes, isFirst, -⟩
    exact ⟨first, others ++ ofText text, by rw [ofText_cons, bytes, List.cons_append], isFirst⟩

theorem ofText_eq_nil_iff {text : Text} : ofText text = [] ↔ text = [] := by
  constructor
  · intro isEmpty
    by_contra nonempty
    rcases exists_ofText_eq_cons nonempty with ⟨first, others, bytes, -⟩
    rw [isEmpty] at bytes
    contradiction
  · rintro rfl
    rfl

/-- A byte that is a character on its own is no byte of another character. -/
theorem mem_of_mem_ofText {char : Char} {byte : UInt8} (single : String.utf8EncodeChar char = [byte])
    {text : Text} (byteMem : byte ∈ ofText text) : char ∈ text := by
  rcases List.mem_flatMap.mp byteMem with ⟨other, otherMem, byteOfOther⟩
  rcases exists_utf8EncodeChar_eq_cons char with ⟨_, _, bytes, isFirst, -⟩
  rw [single, List.cons.injEq] at bytes
  rcases exists_utf8EncodeChar_eq_cons other with ⟨first, others, otherBytes, _, noneFirst⟩
  rw [otherBytes] at byteOfOther
  rcases List.mem_cons.mp byteOfOther with rfl | laterByte
  · have same : String.utf8EncodeChar char ++ others = String.utf8EncodeChar other ++ [] := by
      rw [single, otherBytes, List.append_nil, List.singleton_append]
    exact (utf8EncodeChar_append_inj same).1 ▸ otherMem
  · exact absurd (bytes.1 ▸ isFirst) (noneFirst byte laterByte)

theorem eq_ofText_of_text? {packed : Packed} {text : Text} (isText : packed.text? = some text) :
    packed = ofText text := by
  have bytes := congrArg (·.data.toList) (Text.toBytes_of_ofBytes? isText)
  rw [data_toBytes] at bytes
  exact bytes.symm

theorem text?_eq_some_iff {packed : Packed} {text : Text} :
    packed.text? = some text ↔ packed = ofText text := by
  refine ⟨eq_ofText_of_text?, ?_⟩
  rintro rfl
  exact text?_ofText text

section Shown

/-! ## What is shown

A packed text is shown as the text that it stands for. What stands at both sides of a slash is
shown on its own, for a slash is no part of another character, nor of a broken one. -/

theorem firstChar?_utf8EncodeChar_append (char : Char) (rest : Packed) :
    firstChar? (String.utf8EncodeChar char ++ rest) = some char := by
  rw [firstChar?, List.toByteArray_append]
  exact ByteArray.utf8DecodeChar?_utf8EncodeChar_append

theorem exists_of_firstChar? {packed : Packed} {char : Char}
    (isFirst : packed.firstChar? = some char) :
    ∃ rest, packed = String.utf8EncodeChar char ++ rest := by
  rcases ByteArray.exists_of_utf8DecodeChar?_eq_some isFirst with ⟨rest, bytes⟩
  refine ⟨rest.data.toList, ?_⟩
  have lists := congrArg (·.data.toList) bytes
  simpa using lists

@[simp]
theorem shown_nil : shown [] = [] := by
  rw [shown]

theorem shown_utf8EncodeChar_append (char : Char) (rest : Packed) :
    shown (String.utf8EncodeChar char ++ rest) = char :: shown rest := by
  have isFirst := firstChar?_utf8EncodeChar_append char rest
  have size := String.length_utf8EncodeChar char
  rcases exists_utf8EncodeChar_eq_cons char with ⟨first, others, bytes, -, -⟩
  rw [bytes, List.cons_append] at isFirst ⊢
  have othersSize : char.utf8Size - 1 = others.length := by
    rw [← size, bytes, List.length_cons, Nat.add_sub_cancel]
  rw [shown, isFirst]
  simp only [othersSize, List.drop_left]

theorem shown_ofText_append (text : Text) (rest : Packed) :
    shown (ofText text ++ rest) = text ++ shown rest := by
  induction text with
  | nil => rfl
  | cons char text ih =>
      rw [ofText_cons, List.append_assoc, shown_utf8EncodeChar_append, ih, List.cons_append]

@[simp]
theorem shown_ofText (text : Text) : shown (ofText text) = text := by
  simpa using shown_ofText_append text []

theorem shown_of_broken {first : UInt8} {rest : Packed}
    (broken : firstChar? (first :: rest) = none) :
    shown (first :: rest) =
      '\uFFFD' :: shown (rest.drop (brokenLength (first :: rest) - 1)) := by
  rw [shown, broken]

/-- What holds of the empty packed text, and goes on from the rest to a text that begins with a
character or with a broken one, holds of every packed text. -/
@[elab_as_elim]
theorem shown_induction {motive : Packed → Prop} (packed : Packed) (nil : motive [])
    (char : ∀ char rest, motive rest → motive (String.utf8EncodeChar char ++ rest))
    (broken : ∀ first rest, firstChar? (first :: rest) = none →
      motive (rest.drop (brokenLength (first :: rest) - 1)) → motive (first :: rest)) :
    motive packed := by
  induction sizeIs : packed.length using Nat.strongRecOn generalizing packed with
  | ind size ih =>
      rcases packed with _ | ⟨first, rest⟩
      · exact nil
      cases isFirst : firstChar? (first :: rest) with
      | some found =>
          rcases exists_of_firstChar? isFirst with ⟨later, bytes⟩
          have shorter : later.length < size := by
            rw [← sizeIs, bytes, List.length_append, String.length_utf8EncodeChar]
            have positive := found.utf8Size_pos
            omega
          exact bytes ▸ char found later (ih _ shorter later rfl)
      | none =>
          have shorter : (rest.drop (brokenLength (first :: rest) - 1)).length < size := by
            rw [← sizeIs, List.length_drop, List.length_cons]
            omega
          exact broken first rest isFirst (ih _ shorter _ rfl)

/-- Every packed text without a mark for what is broken is shown as what it stands for. -/
theorem eq_ofText_shown {packed : Packed} (unmarked : '\uFFFD' ∉ packed.shown) :
    packed = ofText packed.shown := by
  induction packed using shown_induction with
  | nil => simp
  | char char rest ih =>
      rw [shown_utf8EncodeChar_append] at unmarked ⊢
      rw [ofText_cons, ← ih (List.not_mem_of_not_mem_cons unmarked)]
  | broken first rest isBroken ih => simp [shown_of_broken isBroken] at unmarked

theorem shown_eq_iff {packed : Packed} {text : Text} (unmarked : '\uFFFD' ∉ text) :
    packed.shown = text ↔ packed = ofText text := by
  constructor
  · rintro rfl
    exact eq_ofText_shown unmarked
  · rintro rfl
    exact shown_ofText text

/-- A slash is none of the later bytes of a character. -/
theorem slash_notMem_of_utf8EncodeChar {char : Char} {first : UInt8} {others : Packed}
    (bytes : String.utf8EncodeChar char = first :: others) : slash ∉ others := by
  rcases exists_utf8EncodeChar_eq_cons char with ⟨_, _, charBytes, -, noneFirst⟩
  rw [bytes, List.cons.injEq] at charBytes
  rw [charBytes.2]
  exact fun slashMem => noneFirst slash slashMem (by decide)

theorem firstChar?_append_slash {packed : Packed} (nonempty : packed ≠ []) (rest : Packed) :
    firstChar? (packed ++ slash :: rest) = firstChar? packed := by
  cases isFirst : firstChar? packed with
  | some char =>
      rcases exists_of_firstChar? isFirst with ⟨later, rfl⟩
      rw [List.append_assoc, firstChar?_utf8EncodeChar_append]
  | none =>
      by_contra decoded
      rcases Option.ne_none_iff_exists'.mp decoded with ⟨char, isChar⟩
      rcases exists_of_firstChar? isChar with ⟨later, bytes⟩
      have notAlone (later : Packed) : packed ≠ String.utf8EncodeChar char ++ later := by
        rintro rfl
        rw [firstChar?_utf8EncodeChar_append] at isFirst
        contradiction
      rcases List.append_eq_append_iff.mp bytes with ⟨others, charBytes, tail⟩ | ⟨others, whole, -⟩
      · rcases others with _ | ⟨byte, others⟩
        · exact notAlone [] (by simpa using charBytes.symm)
        · rcases packed with _ | ⟨first, packed⟩
          · contradiction
          rw [List.cons_append, List.cons.injEq] at tail
          have slashMem : slash ∈ packed ++ byte :: others := by simp [← tail.1]
          exact slash_notMem_of_utf8EncodeChar charBytes slashMem
      · exact notAlone others whole

theorem isContinuation_slash : isContinuation slash = false := by
  decide

theorem continues_slash (first : UInt8) : continues first slash = false := by
  unfold continues
  split <;> rfl

theorem brokenLength_append_slash (first : UInt8) (packed rest : Packed) :
    brokenLength (first :: packed ++ slash :: rest) = brokenLength (first :: packed) := by
  rcases packed with _ | ⟨second, _ | ⟨third, packed⟩⟩
  · simp [brokenLength, continues_slash]
  · simp [brokenLength, isContinuation_slash]
  · simp [brokenLength]

theorem brokenLength_le (first : UInt8) (rest : Packed) :
    brokenLength (first :: rest) - 1 ≤ rest.length := by
  rcases rest with _ | ⟨second, _ | ⟨third, rest⟩⟩
  · simp [brokenLength]
  · simp only [brokenLength, List.head?_nil, Option.any_none]
    split_ifs <;> simp
  · simp only [brokenLength]
    split_ifs <;> simp

/-- What stands at both sides of a slash is shown on its own. -/
theorem shown_append_slash (packed rest : Packed) :
    shown (packed ++ slash :: rest) = shown packed ++ '/' :: shown rest := by
  induction packed using shown_induction with
  | nil =>
      have encoded : String.utf8EncodeChar '/' = [slash] := by decide
      simpa [encoded] using shown_utf8EncodeChar_append '/' rest
  | char char packed ih =>
      rw [List.append_assoc, shown_utf8EncodeChar_append, shown_utf8EncodeChar_append, ih,
        List.cons_append]
  | broken first packed isBroken ih =>
      have stillBroken := firstChar?_append_slash (List.cons_ne_nil first packed) rest
      have sameLength := brokenLength_append_slash first packed rest
      rw [isBroken, List.cons_append] at stillBroken
      rw [List.cons_append] at sameLength
      rw [List.cons_append, shown_of_broken stillBroken, shown_of_broken isBroken, sameLength,
        List.drop_append_of_le_length (brokenLength_le first packed), ih, List.cons_append]

/-- A beginning of a character is shown as one mark, and so is a byte that begins none. -/
example : shown [0xE2, 0x82, slash, 0xFF] = "\uFFFD/\uFFFD".toList := by cbv

theorem slash_mem_of_mem_shown {packed : Packed} (shownMem : '/' ∈ packed.shown) :
    slash ∈ packed := by
  induction packed using shown_induction with
  | nil => simp at shownMem
  | char char rest ih =>
      rw [shown_utf8EncodeChar_append] at shownMem
      rw [List.mem_append]
      rcases List.mem_cons.mp shownMem with rfl | laterMem
      · exact Or.inl (by decide)
      · exact Or.inr (ih laterMem)
  | broken first rest isBroken ih =>
      rw [shown_of_broken isBroken, List.mem_cons, or_iff_right (by decide)] at shownMem
      exact List.mem_cons_of_mem _ (List.mem_of_mem_drop (ih shownMem))

end Shown

end Packed

end BraceBalance
