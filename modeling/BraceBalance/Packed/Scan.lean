import BraceBalance.Packed.Basic
import BraceBalance.Report.Basic
import BraceBalance.Text.Blank

/-!
# The scan of packed texts

The scan cuts one line after the other out of a packed text, takes off its comment and counts the
braces of what is left, with machine words for all numbers. Its steps are those of the running
balance of a text; here they can trap.
-/

namespace BraceBalance

namespace Packed

def lineFeed : UInt8 := 0x0A

def carriageReturn : UInt8 := 0x0D

/-- The offset of the first line feed or carriage return of the remaining bytes, or of their end,
if they begin at `offset`. -/
def lineEnd (offset : UInt64) : Packed → Except Trap UInt64
  | [] => .ok offset
  | byte :: rest =>
      if byte = lineFeed ∨ byte = carriageReturn then .ok offset
      else do lineEnd (← Word.add offset 1) rest

/-- The offset behind the terminator that stands at an offset, if the text does not end there. -/
def skipTerminator (packed : Packed) (stop : UInt64) : Except Trap UInt64 :=
  match packed[stop.toNat]? with
  | none => .ok stop
  | some byte =>
      if byte = carriageReturn then do
        if packed[(← Word.add stop 1).toNat]? = some lineFeed then Word.add stop 2
        else Word.add stop 1
      else Word.add stop 1

/-- The line that begins at an offset, and the offset of the line after it. -/
def nextLine (packed : Packed) (start : UInt64) : Except Trap (Packed × UInt64) := do
  let stop ← lineEnd start (packed.drop start.toNat)
  let next ← packed.skipTerminator stop
  return (← packed.cut start stop, next)

/-- The number of quotes less those behind a backslash. -/
def unescapedQuotes (quote : Char) (packed : Packed) : Except Trap UInt64 := do
  let quotes ← Word.ofNat? (countMatches (ofText [quote]) 0 packed)
  let escaped ← Word.ofNat? (countMatches (ofText ['\\', quote]) 0 packed)
  Word.sub quotes escaped

def outsideQuotes (before : Packed) : Except Trap Bool := do
  let single ← unescapedQuotes '\'' before
  let double ← unescapedQuotes '"' before
  return single % 2 = 0 && double % 2 = 0

/-- The offset of the first marker of a line, if quote parity takes it for a comment. -/
def commentStart? (marker line : Packed) : Except Trap (Option UInt64) := do
  if marker.isEmpty then return none
  match firstMatch? marker line with
  | none => return none
  | some found =>
      let offset ← Word.ofNat? found
      if ← outsideQuotes (← line.cut 0 offset) then return some offset
      else return none

def strip (marker line : Packed) : Except Trap Packed := do
  match ← commentStart? marker line with
  | some offset => line.cut 0 offset
  | none => return line

/-- The numbers of opening and of closing braces, with one more character. -/
def countBrace (counts : UInt64 × UInt64) (char : Char) : Except Trap (UInt64 × UInt64) := do
  if char = '{' then return (← Word.add counts.1 1, counts.2)
  else if char = '}' then return (counts.1, ← Word.add counts.2 1)
  else return counts

def countBraces (packed : Packed) : Except Trap (UInt64 × UInt64) := do
  (← packed.toText).foldlM countBrace (0, 0)

end Packed

/-- What is known after some lines of a packed text have been read. The numbers in the lists are
those of machine words. -/
structure PackedProgress where
  /-- The offset up to which the text has been read. -/
  offset : UInt64
  linesRead : UInt64
  balance : Int64
  traces : List TracedLine
  negativeLines : List Nat

namespace PackedProgress

def start : PackedProgress := ⟨0, 0, 0, [], []⟩

def readLine (packed marker : Packed) (progress : PackedProgress) :
    Except Trap PackedProgress := do
  let (line, next) ← packed.nextLine progress.offset
  let number ← Word.add progress.linesRead 1
  let (opens, closes) ← Packed.countBraces (← Packed.strip marker line)
  let change ← Word.subSigned opens.toInt64 closes.toInt64
  let after ← Word.addSigned progress.balance change
  let text ← line.toText
  return {
    offset := next
    linesRead := number
    balance := after
    traces :=
      if opens > 0 ∨ closes > 0 then
        { line := number.toNat, text := text.trimForDisplay, opens := opens.toNat
          closes := closes.toNat, before := progress.balance.toInt, after := after.toInt }
            :: progress.traces
      else progress.traces
    negativeLines :=
      if after < 0 then number.toNat :: progress.negativeLines else progress.negativeLines }

/-- All bytes have been read. -/
def isDone (packed : Packed) (progress : PackedProgress) : Bool :=
  packed.length ≤ progress.offset.toNat

/-- The progress after a number of lines, or after all of them if there are less. -/
def afterLines (packed marker : Packed) : Nat → Except Trap PackedProgress
  | 0 => .ok start
  | count + 1 => do
      let progress ← afterLines packed marker count
      if progress.isDone packed then return progress else progress.readLine packed marker

end PackedProgress

namespace Packed

/-- The report on a packed text. No text has more lines than bytes. -/
def report (packed marker : Packed) : Except Trap Report := do
  let progress ← PackedProgress.afterLines packed marker packed.length
  if progress.isDone packed then
    return {
      path := none
      linesScanned := progress.linesRead.toNat
      finalBalance := progress.balance.toInt
      traces := progress.traces.reverse
      negativeLines := progress.negativeLines.reverse }
  else throw .endless

end Packed

end BraceBalance
