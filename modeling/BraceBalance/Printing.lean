import BraceBalance.Fault

/-!
# Runs that print

A run prints texts one after the other and may stop with a fault. What it has printed by
then stays on the console.
-/

namespace BraceBalance

/-- A run that prints and that a fault may stop, given what is on the console. -/
abbrev Printing := ExceptT Fault (StateM Text)

namespace Printing

variable {α : Type}

def print (text : Text) : Printing Unit :=
  modify (· ++ text)

/-- Goes on with a result, or stops with the fault in its place. -/
def orStop (result : Except Fault α) : Printing α :=
  ExceptT.mk (pure result)

/-- The result of a run that finds the console empty, and all that it prints. -/
def onConsole (printing : Printing α) : Except Fault α × Text :=
  printing.run.run []

variable {β : Type}

theorem onConsole_orStop_ok_bind {result : Except Fault α} {value : α} (isOk : result = .ok value)
    (next : α → Printing β) : (orStop result >>= next).onConsole = (next value).onConsole := by
  rw [isOk]
  rfl

theorem onConsole_orStop_error_bind {result : Except Fault α} {fault : Fault}
    (isError : result = .error fault) (next : α → Printing β) :
    (orStop result >>= next).onConsole = (.error fault, []) := by
  rw [isError]
  rfl

/-- A result that is changed in the end is printed for in the same way. -/
theorem onConsole_bind_pure (printing : Printing α) (change : α → β) :
    (printing >>= fun value => pure (change value)).onConsole =
      (printing.onConsole.1.map change, printing.onConsole.2) := by
  rw [onConsole, onConsole, ExceptT.run_bind, StateT.run_bind]
  rcases printing.run.run [] with ⟨fault | value, output⟩ <;> rfl

end Printing

end BraceBalance
