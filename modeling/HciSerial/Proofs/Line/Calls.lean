import HciSerial.Line.Basic
import Mathlib.Data.List.Induction

/-!
# Calls on a serial line

A run of a line is a list of calls.  What can be seen of it from outside are the blocks that
it completes and the lengths that it asks for.

## Main Definitions

* `LineCall`: everything that can be done with a serial line.
* `LineCall.after`, `LineCall.blocks`: the line that a run leaves, and the blocks it completes.
* `LineCall.Orderly`: a block is asked for only once all earlier ones have been completed.

## Main Results

* `LineCall.after_concat`, `LineCall.blocks_concat`: one call more.
* `LineCall.run_invariant`: what every call keeps, a run keeps.
-/

namespace HciSerial

/-- A call on a serial line. -/
inductive LineCall where
  | init (config : LineConfig)
  | openLine
  | close
  | setBaudrate (rate : Nat)
  | receive (length : Nat)
  | send (block : List UInt8)
  | poll

/-- The block that an outcome of a poll reports as received. -/
def Completion.block? : Except LineError (Option Completion) → Option (List UInt8)
  | .ok (some (.received block)) => some block
  | _ => none

namespace LineCall

/-- The length that a call asks for. -/
def requested? : LineCall → Option Nat
  | receive length => some length
  | _ => none

/-- Whether a call opens or closes the line. -/
def isLifecycle : LineCall → Bool
  | openLine | close => true
  | _ => false

/-- The lengths that are asked for, in order. -/
def requests (calls : List LineCall) : List Nat :=
  calls.filterMap requested?

variable {L : Type} [SerialLine L]

/-- Makes a call; only a poll reports a completion. -/
def run (line : L) : LineCall → Step L (Except LineError (Option Completion))
  | init config => { state := SerialLine.init config line, value := .ok none }
  | openLine =>
    let step := SerialLine.openLine line
    { step with value := step.value.map fun _ => none }
  | close =>
    let step := SerialLine.close line
    { step with value := step.value.map fun _ => none }
  | setBaudrate rate =>
    let step := SerialLine.setBaudrate rate line
    { step with value := step.value.map fun _ => none }
  | receive length =>
    let step := SerialLine.receive length line
    { step with value := .ok none }
  | send block =>
    let step := SerialLine.send block line
    { step with value := .ok none }
  | poll => SerialLine.poll line

/-- The line after a run. -/
def after (line : L) : List LineCall → L
  | [] => line
  | call :: rest => after (call.run line).state rest

/-- The blocks that a run completes, in order. -/
def blocks (line : L) : List LineCall → List (List UInt8)
  | [] => []
  | call :: rest =>
    (Completion.block? (call.run line).value).toList ++ blocks (call.run line).state rest

/-- Every request to receive is made only once all earlier ones have been completed. -/
def Orderly (line : L) (calls : List LineCall) : Prop :=
  ∀ earlier length, earlier ++ [receive length] <+: calls →
    (blocks line earlier).length = (requests earlier).length

/-- One call more at the end of a run is made on the line that the run has left. -/
theorem after_concat (line : L) (calls : List LineCall) (call : LineCall) :
    after line (calls ++ [call]) = (call.run (after line calls)).state := by
  induction calls generalizing line with
  | nil => rfl
  | cons first rest ih => exact ih _

/-- One call more at the end of a run may complete one block more. -/
theorem blocks_concat (line : L) (calls : List LineCall) (call : LineCall) :
    blocks line (calls ++ [call]) =
      blocks line calls ++ (Completion.block? (call.run (after line calls)).value).toList := by
  induction calls generalizing line with
  | nil => exact List.append_nil _
  | cons first rest ih =>
    show _ ++ blocks _ (rest ++ [call]) = (_ ++ blocks _ rest) ++ _
    rw [ih, List.append_assoc]
    rfl

theorem requests_concat (calls : List LineCall) (call : LineCall) :
    requests (calls ++ [call]) = requests calls ++ call.requested?.toList := by
  rw [requests, List.filterMap_append]
  cases call <;> rfl

/-- What every call keeps, a run keeps: `motive` speaks of the calls so far and of the line
after them. -/
theorem run_invariant (motive : List LineCall → L → Prop) {line : L} {calls : List LineCall}
    (start : motive [] line)
    (step : ∀ earlier call, earlier ++ [call] <+: calls → motive earlier (after line earlier) →
      motive (earlier ++ [call]) (call.run (after line earlier)).state) :
    motive calls (after line calls) := by
  -- from the end, since a run goes on after its last call
  induction calls using List.reverseRecOn with
  | nil => exact start
  | append_singleton earlier last ih =>
    rw [after_concat]
    refine step earlier last List.prefix_rfl (ih ?_)
    intro first call within
    exact step first call (within.trans (List.prefix_append earlier [last]))

end LineCall

end HciSerial
