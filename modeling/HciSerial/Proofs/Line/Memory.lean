import HciSerial.Line.Memory

/-!
# Opening and polling a line in memory

What an opening and a poll of a line in memory can do, each with the state that it
requires.

## Main Definitions

* `MemoryLine.Opened`: the two outcomes of an opening.
* `MemoryLine.Polled`: the five things that a poll can do.

## Main Results

* `MemoryLine.opened`, `MemoryLine.polled`: there are no others.
-/

namespace HciSerial.MemoryLine

/-- What an opening of a line in memory can do. -/
inductive Opened (line : MemoryLine) : Step MemoryLine (Except LineError Unit) → Prop where
  | refused {error : LineError} (armed : line.failNextOpen = some error) :
      Opened line { state := { line with failNextOpen := none }, value := .error error }
  | opened (unarmed : line.failNextOpen = none) :
      Opened line {
        state := { line with isOpen := true }
        value := .ok ()
        records := [record .debug "mock uart opened" [("baudrate", .number line.config.baudrate)]] }

/-- Every opening has one of the two outcomes. -/
theorem opened (line : MemoryLine) : Opened line line.openLine := by
  unfold openLine
  split
  case h_1 error armed => exact .refused armed
  case h_2 unarmed => exact .opened unarmed

/-- What a poll of a line in memory can do.

A failure comes before a finished send, and a finished send before a full block. -/
inductive Polled (line : MemoryLine) : Step MemoryLine (Except LineError (Option Completion)) → Prop
    where
  | closed (isClosed : line.isOpen = false) : Polled line { state := line, value := .ok none }
  | failed {error : LineError} (isOpen : line.isOpen = true)
      (armed : line.failNextPoll = some error) :
      Polled line {
        state := { line with failNextPoll := none, sending := .idle }
        value := .error error }
  | sent (isOpen : line.isOpen = true) (unarmed : line.failNextPoll = none)
      (ready : line.sending = .ready) :
      Polled line { state := { line with sending := .idle }, value := .ok (some .sent) }
  | received {block rest : List UInt8} (isOpen : line.isOpen = true)
      (unarmed : line.failNextPoll = none) (unready : line.sending ≠ .ready)
      (asked : line.pendingRead = some block.length) (arrived : line.incoming = block ++ rest) :
      Polled line {
        state := { line with pendingRead := none, incoming := rest }
        value := .ok (some (.received block)) }
  | quiet (isOpen : line.isOpen = true) (unarmed : line.failNextPoll = none)
      (unready : line.sending ≠ .ready)
      (short : ∀ length, line.pendingRead = some length → line.incoming.length < length) :
      Polled line { state := line, value := .ok none }

/-- Every poll is one of the five. -/
theorem polled (line : MemoryLine) : Polled line line.poll := by
  unfold poll
  split
  case isTrue isClosed => exact .closed (by simpa using isClosed)
  case isFalse isOpen =>
    have isOpen : line.isOpen = true := by simpa using isOpen
    split
    case h_1 error armed => exact .failed isOpen armed
    case h_2 unarmed =>
      split
      case isTrue ready => exact .sent isOpen unarmed ready
      case isFalse unready =>
        split
        case h_1 unasked => exact .quiet isOpen unarmed unready (by simp [unasked])
        case h_2 length asked =>
          split
          case h_1 missing =>
            refine .quiet isOpen unarmed unready fun wanted same => ?_
            obtain rfl : length = wanted := Option.some.inj (asked.symm.trans same)
            exact splitBlock?_eq_none_iff.mp missing
          case h_2 block rest found =>
            obtain ⟨arrived, rfl⟩ := splitBlock?_eq_some_iff.mp found
            exact .received isOpen unarmed unready asked arrived

end HciSerial.MemoryLine
