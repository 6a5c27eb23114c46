import HciSerial.Command.Failure

/-!
# Outcomes

How a command can end.
-/

namespace HciSerial

/-- How a command ends. -/
inductive Outcome where
  /-- It did what was asked. -/
  | success
  /-- It failed with a code and a message. -/
  | failed (failure : CommandFailure)
  /-- The time to wait until is beyond the end of the clock, which aborts the program. -/
  | clockOverflow
  /-- It is still waiting after all the turns that it was given. -/
  | unfinished
deriving DecidableEq

/-- The exit code of a program that is aborted. -/
def abortNumber : Nat := 101

namespace Outcome

/-- The exit code of a program that ends so. -/
def exitNumber : Outcome → Nat
  | success => ExitCode.success.number
  | failed failure => failure.code.number
  | clockOverflow => abortNumber
  | unfinished => 0

/-- The message of a failure. -/
def message? : Outcome → Option String
  | failed failure => some failure.message
  | _ => none

end Outcome

end HciSerial
