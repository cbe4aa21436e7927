import BraceBalance.Packed.Scan
import BraceBalance.Proofs.Packed.Encoding
import BraceBalance.Proofs.Packed.Word
import BraceBalance.Proofs.Text.Lines

/-!
# Lines of packed texts

The scan of a packed text finds the end of a line byte by byte. The byte of a line feed and that of
a carriage return are no bytes of other characters, so that it stops where the first line of the
remaining text ends, and goes on behind the terminator of this line. Both offsets are places where
characters begin, and the line can be cut out.
-/

namespace BraceBalance

namespace Packed

theorem utf8EncodeChar_lineFeed : String.utf8EncodeChar '\n' = [lineFeed] := by
  decide

theorem utf8EncodeChar_carriageReturn : String.utf8EncodeChar '\r' = [carriageReturn] := by
  decide

/-- The bytes of a line hold no byte that ends it. -/
theorem ne_lineEnd_of_mem_ofText {line : Text} (unbroken : line.Unbroken) {byte : UInt8}
    (byteMem : byte ∈ ofText line) : ¬(byte = lineFeed ∨ byte = carriageReturn) := by
  rintro (rfl | rfl)
  · exact unbroken.1 (mem_of_mem_ofText utf8EncodeChar_lineFeed byteMem)
  · exact unbroken.2 (mem_of_mem_ofText utf8EncodeChar_carriageReturn byteMem)

theorem lineEnd_append {bytes rest : Packed}
    (noneEnds : ∀ byte ∈ bytes, ¬(byte = lineFeed ∨ byte = carriageReturn))
    (stops : ∀ byte, rest.head? = some byte → byte = lineFeed ∨ byte = carriageReturn) {offset : Nat}
    (fits : Text.fitsUnsigned (offset + bytes.length)) :
    lineEnd (.ofNat offset) (bytes ++ rest) = .ok (.ofNat (offset + bytes.length)) := by
  induction bytes generalizing offset with
  | nil =>
      rcases rest with _ | ⟨byte, rest⟩
      · rfl
      · rw [List.nil_append, lineEnd, if_pos (stops byte rfl)]
        rfl
  | cons byte bytes ih =>
      rw [List.length_cons, Nat.add_comm bytes.length, ← Nat.add_assoc] at fits ⊢
      have next : Word.add (.ofNat offset) 1 = .ok (.ofNat (offset + 1)) :=
        Word.add_ofNat (Word.fitsUnsigned_of_le_fitting fits (Nat.le_add_right _ _))
      rw [List.cons_append, lineEnd, if_neg (noneEnds byte List.mem_cons_self), next]
      exact ih (fun other otherMem => noneEnds other (List.mem_cons_of_mem _ otherMem)) fits

variable {before line terminator rest : Text}

/-- The bytes at and behind the place where a beginning of a text ends. -/
theorem getElem?_ofText_append (before rest : Text) (index : Nat) :
    (ofText (before ++ rest))[(ofText before).length + index]? = (ofText rest)[index]? := by
  rw [ofText_of_append, List.getElem?_append_right (Nat.le_add_right _ _), Nat.add_sub_cancel_left]

theorem head?_ofText_ne_lineFeed {text : Text} (notFeed : text.head? ≠ some '\n') :
    (ofText text).head? ≠ some lineFeed := by
  intro isFeed
  rcases text with _ | ⟨char, text⟩
  · simp at isFeed
  · rcases exists_utf8EncodeChar_eq_cons char with ⟨first, others, bytes, -⟩
    rw [ofText_cons, bytes] at isFeed
    have sameByte : first = lineFeed := by simpa using isFeed
    subst sameByte
    have same : String.utf8EncodeChar char ++ [] = String.utf8EncodeChar '\n' ++ others := by
      rw [bytes, utf8EncodeChar_lineFeed, List.append_nil, List.singleton_append]
    exact notFeed (congrArg some (utf8EncodeChar_append_inj same).1)

theorem length_ofText_append (left right : Text) :
    (ofText (left ++ right)).length = (ofText left).length + (ofText right).length := by
  rw [ofText_of_append, List.length_append]

section Terminator

variable {packed : Packed} {offset : Nat}

theorem skipTerminator_of_none (fits : Text.fitsUnsigned offset) (atEnd : packed[offset]? = none) :
    packed.skipTerminator (.ofNat offset) = .ok (.ofNat offset) := by
  simp only [skipTerminator, Word.toNat_ofNat fits, atEnd]

theorem add_one_ofNat (fits : Text.fitsUnsigned (offset + 1)) :
    Word.add (.ofNat offset) 1 = .ok (.ofNat (offset + 1)) :=
  Word.add_ofNat fits

theorem skipTerminator_of_lineFeed (fits : Text.fitsUnsigned (offset + 1))
    (here : packed[offset]? = some lineFeed) :
    packed.skipTerminator (.ofNat offset) = .ok (.ofNat (offset + 1)) := by
  have offsetFits := Word.fitsUnsigned_of_le_fitting fits (Nat.le_succ offset)
  have noReturn : lineFeed ≠ carriageReturn := by decide
  simp only [skipTerminator, Word.toNat_ofNat offsetFits, here, noReturn, if_false,
    add_one_ofNat fits]

theorem skipTerminator_of_carriageReturn (fits : Text.fitsUnsigned (offset + 1))
    (here : packed[offset]? = some carriageReturn) (alone : packed[offset + 1]? ≠ some lineFeed) :
    packed.skipTerminator (.ofNat offset) = .ok (.ofNat (offset + 1)) := by
  have offsetFits := Word.fitsUnsigned_of_le_fitting fits (Nat.le_succ offset)
  simp only [skipTerminator, Word.toNat_ofNat offsetFits, here, if_true, add_one_ofNat fits, bind,
    Except.bind, Word.toNat_ofNat fits, alone, if_false]

theorem skipTerminator_of_pair (fits : Text.fitsUnsigned (offset + 2))
    (here : packed[offset]? = some carriageReturn) (pair : packed[offset + 1]? = some lineFeed) :
    packed.skipTerminator (.ofNat offset) = .ok (.ofNat (offset + 2)) := by
  have offsetFits := Word.fitsUnsigned_of_le_fitting fits (Nat.le_add_right offset 2)
  have nextFits := Word.fitsUnsigned_of_le_fitting fits (Nat.le_succ (offset + 1))
  have afterPair : Word.add (.ofNat offset) 2 = .ok (.ofNat (offset + 2)) := Word.add_ofNat fits
  simp only [skipTerminator, Word.toNat_ofNat offsetFits, here, if_true, add_one_ofNat nextFits, bind,
    Except.bind, Word.toNat_ofNat nextFits, pair, afterPair]

end Terminator

theorem skipTerminator_ofText (ends : Text.Terminates terminator rest ∨ terminator = [] ∧ rest = [])
    (fits : Text.fitsUnsigned (ofText (before ++ terminator)).length) :
    skipTerminator (ofText (before ++ (terminator ++ rest))) (.ofNat (ofText before).length) =
      .ok (.ofNat (ofText (before ++ terminator)).length) := by
  have here := getElem?_ofText_append before (terminator ++ rest) 0
  have behind := getElem?_ofText_append before (terminator ++ rest) 1
  rw [Nat.add_zero] at here
  rw [length_ofText_append] at fits ⊢
  rcases ends with (_ | _ | alone) | ⟨rfl, rfl⟩
  · apply skipTerminator_of_lineFeed fits
    rw [here]
    simp [ofText_cons, utf8EncodeChar_lineFeed]
  · apply skipTerminator_of_pair fits
    · rw [here]
      simp [ofText_cons, utf8EncodeChar_carriageReturn]
    · rw [behind]
      simp [ofText_cons, utf8EncodeChar_carriageReturn, utf8EncodeChar_lineFeed]
  · apply skipTerminator_of_carriageReturn fits
    · rw [here]
      simp [ofText_cons, utf8EncodeChar_carriageReturn]
    · have notFeed := head?_ofText_ne_lineFeed alone
      rw [behind]
      simpa [ofText_cons, utf8EncodeChar_carriageReturn, List.head?_eq_getElem?] using notFeed
  · apply skipTerminator_of_none fits
    simp

/-- The bytes behind a line begin with one that ends it, if there are any. -/
theorem lineEnd_of_head?_ofText (ends : Text.Terminates terminator rest ∨ terminator = [] ∧ rest = [])
    {byte : UInt8} (head : (ofText (terminator ++ rest)).head? = some byte) :
    byte = lineFeed ∨ byte = carriageReturn := by
  rcases ends with (_ | _ | _) | ⟨rfl, rfl⟩
  · simp [ofText_cons, utf8EncodeChar_lineFeed] at head
    exact Or.inl head.symm
  · simp [ofText_cons, utf8EncodeChar_carriageReturn] at head
    exact Or.inr head.symm
  · simp [ofText_cons, utf8EncodeChar_carriageReturn] at head
    exact Or.inr head.symm
  · simp at head

/-- The next line of a packed text is the packed first line of the remaining text, and the offset
behind it is where the bytes after its terminator begin. -/
theorem nextLine_ofText (begins : Text.BeginsWithLine line terminator rest)
    (fits : Text.fitsUnsigned (ofText (before ++ (line ++ (terminator ++ rest)))).length) :
    nextLine (ofText (before ++ (line ++ (terminator ++ rest)))) (.ofNat (ofText before).length) =
      .ok (ofText line, .ofNat (ofText (before ++ (line ++ terminator))).length) := by
  have lengths := length_ofText_append
  have behindFits : Text.fitsUnsigned (ofText (before ++ (line ++ terminator))).length := by
    apply Word.fitsUnsigned_of_le_fitting fits
    simp only [lengths]
    omega
  have stopFits : Text.fitsUnsigned (ofText (before ++ line)).length := by
    apply Word.fitsUnsigned_of_le_fitting fits
    simp only [lengths]
    omega
  have startFits : Text.fitsUnsigned (ofText before).length := by
    apply Word.fitsUnsigned_of_le_fitting fits
    simp only [lengths]
    omega
  have remaining :
      (ofText (before ++ (line ++ (terminator ++ rest)))).drop (ofText before).length =
        ofText line ++ ofText (terminator ++ rest) := by
    rw [ofText_of_append, List.drop_left, ofText_of_append]
  have stop := lineEnd_append (fun byte byteMem => ne_lineEnd_of_mem_ofText begins.unbroken byteMem)
    (fun byte head => lineEnd_of_head?_ofText begins.ends head) (lengths before line ▸ stopFits)
  have skipped := @skipTerminator_ofText (before ++ line) terminator rest begins.ends
    (by rwa [List.append_assoc])
  have isCut := cut_ofText before line (terminator ++ rest) (Word.toNat_ofNat startFits)
    (Word.toNat_ofNat stopFits)
  rw [List.append_assoc, List.append_assoc] at skipped
  rw [nextLine, Word.toNat_ofNat startFits, remaining, stop, ← lengths]
  simp only [bind, Except.bind, skipped, isCut]
  rfl

end Packed

end BraceBalance
