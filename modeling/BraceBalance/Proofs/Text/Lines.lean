import BraceBalance.Proofs.Text.Basic
import BraceBalance.Text.Lines
import Mathlib.Data.List.Basic

/-!
# Where lines end

Every text is empty, or it is a line, its terminator and a shorter text, where only a last line
can do without a terminator. The lines of a text follow this shape, so that what holds of all
lines is proved by induction on it.

A carriage return before a line feed is only the first half of a terminator. This is the one
place where the end of a line depends on what follows it, and the reason why the lines of two
texts are those of both together only if the cut between them does not halve such a pair.
-/

namespace BraceBalance

namespace Text

/-- The text holds no character that ends a line. -/
def Unbroken (line : Text) : Prop :=
  '\n' ∉ line ∧ '\r' ∉ line

instance (line : Text) : Decidable (Unbroken line) :=
  inferInstanceAs (Decidable (_ ∧ _))

theorem Unbroken.trimBy {line : Text} (unbroken : Unbroken line) (drops : Char → Bool) :
    Unbroken (line.trimBy drops) :=
  ⟨fun feedMem => unbroken.1 (mem_of_mem_trimBy feedMem),
    fun returnMem => unbroken.2 (mem_of_mem_trimBy returnMem)⟩

/-- What ends a line, given what follows it. -/
inductive Terminates : Text → Text → Prop where
  | lineFeed (rest : Text) : Terminates ['\n'] rest
  | pair (rest : Text) : Terminates ['\r', '\n'] rest
  | carriageReturn {rest : Text} (alone : rest.head? ≠ some '\n') : Terminates ['\r'] rest

theorem linesFrom_append (finished earlier : List Text) (current text : Text) :
    linesFrom (finished ++ earlier) current text =
      earlier.reverse ++ linesFrom finished current text := by
  fun_induction linesFrom finished current text with
  | case1 finished current isEmpty => simp [linesFrom, isEmpty]
  | case2 finished current notEmpty => simp [linesFrom, notEmpty]
  | case3 finished current rest ih => simpa [linesFrom] using ih
  | case4 finished current rest ih => simpa [linesFrom] using ih
  | case5 finished current rest alone ih => simpa [linesFrom, alone] using ih
  | case6 finished current char rest notPair notFeed notReturn ih =>
      rw [linesFrom.eq_5 _ _ _ _ notPair notFeed notReturn, ih]

theorem linesFrom_terminator {terminator rest : Text} (ends : Terminates terminator rest)
    (finished : List Text) (current : Text) :
    linesFrom finished current (terminator ++ rest) =
      linesFrom (current.reverse :: finished) [] rest := by
  cases ends with
  | lineFeed => rfl
  | pair => rfl
  | carriageReturn alone =>
      apply linesFrom.eq_4
      rintro rest rfl
      exact alone rfl

theorem linesFrom_unbroken {line : Text} (unbroken : Unbroken line) (finished : List Text)
    (current rest : Text) :
    linesFrom finished current (line ++ rest) = linesFrom finished (line.reverse ++ current) rest := by
  induction line generalizing current with
  | nil => rfl
  | cons char line ih =>
      simp only [Unbroken, List.mem_cons, not_or] at unbroken
      rcases unbroken with ⟨⟨notFeed, lineNotFeed⟩, notReturn, lineNotReturn⟩
      rw [List.cons_append, linesFrom.eq_5, ih ⟨lineNotFeed, lineNotReturn⟩]
      · simp
      · intro _ isReturn
        exact absurd isReturn.symm notReturn
      · exact fun isFeed => notFeed isFeed.symm
      · exact fun isReturn => notReturn isReturn.symm

theorem lines_nil : lines [] = [] :=
  rfl

/-- A last line needs no terminator, but it is a line only if it is not empty. -/
theorem lines_unbroken {line : Text} (unbroken : Unbroken line) (nonempty : line ≠ []) :
    lines line = [line] := by
  have read := linesFrom_unbroken unbroken [] [] []
  simpa [lines, linesFrom, nonempty] using read

theorem lines_terminated {line terminator rest : Text} (unbroken : Unbroken line)
    (ends : Terminates terminator rest) :
    lines (line ++ (terminator ++ rest)) = line :: lines rest := by
  rw [lines, linesFrom_unbroken unbroken, linesFrom_terminator ends]
  simpa [lines] using linesFrom_append [] [line] [] rest

/-- The first line of a text, and what follows it. -/
theorem exists_firstLine (text : Text) :
    Unbroken text ∨ ∃ line terminator rest, Unbroken line ∧ Terminates terminator rest ∧
      text = line ++ (terminator ++ rest) := by
  induction text with
  | nil => simp [Unbroken]
  | cons char text ih =>
      by_cases isFeed : char = '\n'
      · subst isFeed
        exact Or.inr ⟨[], _, text, by simp [Unbroken], .lineFeed text, rfl⟩
      by_cases isReturn : char = '\r'
      · subst isReturn
        by_cases isPair : text.head? = some '\n'
        · rcases List.head?_eq_some_iff.mp isPair with ⟨rest, rfl⟩
          exact Or.inr ⟨[], _, rest, by simp [Unbroken], .pair rest, rfl⟩
        · exact Or.inr ⟨[], _, text, by simp [Unbroken], .carriageReturn isPair, rfl⟩
      have unbrokenCons {line : Text} (unbroken : Unbroken line) : Unbroken (char :: line) := by
        simpa [Unbroken, Ne.symm isFeed, Ne.symm isReturn] using unbroken
      rcases ih with unbroken | ⟨line, terminator, rest, unbroken, ends, rfl⟩
      · exact Or.inl (unbrokenCons unbroken)
      · exact Or.inr ⟨char :: line, terminator, rest, unbrokenCons unbroken, ends, rfl⟩

theorem Terminates.ne_nil {terminator rest : Text} (ends : Terminates terminator rest) :
    terminator ≠ [] := by
  cases ends <;> simp

/-- A text that is not empty begins with a line, which its terminator or the end of the text
ends. -/
structure BeginsWithLine (line terminator rest : Text) : Prop where
  unbroken : Unbroken line
  ends : Terminates terminator rest ∨ terminator = [] ∧ rest = []
  nonempty : line ++ terminator ≠ []

theorem exists_beginsWithLine {text : Text} (nonempty : text ≠ []) :
    ∃ line terminator rest, text = line ++ (terminator ++ rest) ∧
      BeginsWithLine line terminator rest := by
  rcases exists_firstLine text with unbroken | ⟨line, terminator, rest, unbroken, ends, whole⟩
  · exact ⟨text, [], [], by simp, unbroken, Or.inr ⟨rfl, rfl⟩, by simpa using nonempty⟩
  · exact ⟨line, terminator, rest, whole, unbroken, Or.inl ends, by simp [ends.ne_nil]⟩

theorem BeginsWithLine.lines {line terminator rest : Text}
    (begins : BeginsWithLine line terminator rest) :
    lines (line ++ (terminator ++ rest)) = line :: lines rest := by
  rcases begins.ends with ends | ⟨rfl, rfl⟩
  · exact lines_terminated begins.unbroken ends
  · have nonempty : line ≠ [] := by simpa using begins.nonempty
    rw [lines_nil, List.append_nil, List.append_nil]
    exact lines_unbroken begins.unbroken nonempty

/-- What holds of the empty text, and of a text whenever it holds of what follows the first line,
holds of every text. -/
@[elab_as_elim]
theorem lines_induction {motive : Text → Prop} (text : Text) (nil : motive [])
    (line : ∀ line terminator rest, BeginsWithLine line terminator rest → motive rest →
      motive (line ++ (terminator ++ rest))) : motive text := by
  induction sizeIs : text.length using Nat.strongRecOn generalizing text with
  | ind size ih =>
      by_cases isEmpty : text = []
      · exact isEmpty ▸ nil
      · rcases exists_beginsWithLine isEmpty with ⟨first, terminator, rest, rfl, begins⟩
        have shorter : rest.length < size := by
          have positive := List.length_pos_iff.mpr begins.nonempty
          simp only [List.length_append] at positive sizeIs
          omega
        exact line first terminator rest begins (ih _ shorter rest rfl)

theorem lines_ne_nil {text : Text} (nonempty : text ≠ []) : text.lines ≠ [] := by
  rcases exists_beginsWithLine nonempty with ⟨line, terminator, rest, rfl, begins⟩
  simp [begins.lines]

theorem unbroken_of_mem_lines {text line : Text} (lineMem : line ∈ text.lines) :
    Unbroken line := by
  induction text using lines_induction with
  | nil =>
      rw [lines_nil] at lineMem
      contradiction
  | line first terminator rest begins ih =>
      rw [begins.lines] at lineMem
      rcases List.mem_cons.mp lineMem with rfl | laterMem
      · exact begins.unbroken
      · exact ih laterMem

theorem length_lines_le (text : Text) : text.lines.length ≤ text.length := by
  induction text using lines_induction with
  | nil =>
      rw [lines_nil]
      exact Nat.le_refl 0
  | line first terminator rest begins ih =>
      have positive := List.length_pos_iff.mpr begins.nonempty
      rw [begins.lines]
      simp only [List.length_cons, List.length_append] at positive ⊢
      omega

/-- Lines that are not empty need no more than line feeds between them. -/
theorem lines_join {texts : List Text} (areLines : ∀ text ∈ texts, Unbroken text ∧ text ≠ []) :
    lines (join ['\n'] texts) = texts := by
  induction texts with
  | nil => rfl
  | cons text texts ih =>
      have isLine := areLines text List.mem_cons_self
      have later := ih fun other otherMem => areLines other (List.mem_cons_of_mem _ otherMem)
      rcases texts with _ | ⟨next, texts⟩
      · rw [join, List.flatMap_nil, List.append_nil]
        exact lines_unbroken isLine.1 isLine.2
      · have joined : join ['\n'] (text :: next :: texts) =
            text ++ (['\n'] ++ join ['\n'] (next :: texts)) := by
          simp only [join, List.flatMap_cons, List.append_assoc]
        rw [joined, lines_terminated isLine.1 (.lineFeed _), later]

/-! ## Lines of two texts -/

/-- No line of both texts together begins in the left one and goes on in the right one, and no
terminator does. -/
def MeetAtLineEnd (left right : Text) : Prop :=
  left = [] ∨ left.getLast? = some '\n' ∨
    left.getLast? = some '\r' ∧ right.head? ≠ some '\n'

theorem Terminates.append {terminator rest : Text} (ends : Terminates terminator rest)
    {right : Text} (apart : MeetAtLineEnd (terminator ++ rest) right) :
    Terminates terminator (rest ++ right) := by
  cases ends with
  | lineFeed => exact .lineFeed _
  | pair => exact .pair _
  | carriageReturn alone =>
      apply Terminates.carriageReturn
      rcases rest with _ | ⟨char, rest⟩
      · simpa [MeetAtLineEnd] using apart
      · exact alone

theorem MeetAtLineEnd.of_terminated {line terminator rest right : Text}
    (apart : MeetAtLineEnd (line ++ (terminator ++ rest)) right) (ends : Terminates terminator rest) :
    MeetAtLineEnd (terminator ++ rest) right ∧ MeetAtLineEnd rest right := by
  have lastOfBoth : (line ++ (terminator ++ rest)).getLast? = (terminator ++ rest).getLast? :=
    List.getLast?_append_of_ne_nil _ (by simp [ends.ne_nil])
  simp only [MeetAtLineEnd, lastOfBoth] at apart ⊢
  refine ⟨?_, ?_⟩
  · rcases apart with isEmpty | later
    · simp [ends.ne_nil] at isEmpty
    · exact Or.inr later
  · by_cases isEmpty : rest = []
    · exact Or.inl isEmpty
    · rw [List.getLast?_append_of_ne_nil _ isEmpty] at apart
      rcases apart with isEmpty | later
      · simp [ends.ne_nil] at isEmpty
      · exact Or.inr later

theorem lines_append {left right : Text} (apart : MeetAtLineEnd left right) :
    lines (left ++ right) = lines left ++ lines right := by
  induction left using lines_induction with
  | nil => rfl
  | line line terminator rest begins ih =>
      rcases begins.ends with ends | ⟨rfl, rfl⟩
      · rcases apart.of_terminated ends with ⟨apartAfterLine, apartAfterTerminator⟩
        have endsBoth := ends.append apartAfterLine
        simp only [List.append_assoc]
        rw [lines_terminated begins.unbroken endsBoth, begins.lines, ih apartAfterTerminator,
          List.cons_append]
      · -- Without a terminator the two texts do not meet at the end of a line.
        exfalso
        have nonempty := begins.nonempty
        simp only [List.append_nil] at apart nonempty
        rcases apart with isEmpty | isFeed | ⟨isReturn, _⟩
        · exact nonempty isEmpty
        · exact begins.unbroken.1 (List.mem_of_getLast? isFeed)
        · exact begins.unbroken.2 (List.mem_of_getLast? isReturn)

end Text

end BraceBalance
