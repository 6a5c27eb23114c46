import HciSerial.Proofs.Host.Alike
import HciSerial.Proofs.Line.Calls
import HciSerial.Proofs.Line.Terminal

/-!
# Terminal lines on systems that are alike

A terminal line sees of its system what the calls on its open device give.  If no such call
tells two systems apart, nor does the line, until it is opened anew.

## Main Definitions

* `LineCall.reports`: what the calls of a run report.
* `Step.Matches`: two steps report the same.
* `TerminalLine.Resembles`: lines that differ in their systems only, as far as the open device
  cannot tell.

## Main Results

* `TerminalLine.Resembles.run`: every call but an opening is the same on such lines.
* `TerminalLine.Resembles.reports`: so is every run without an opening.
-/

namespace HciSerial

/-- What the calls of a run report: their outcomes and log records. -/
def LineCall.reports {L : Type} [SerialLine L] (line : L) :
    List LineCall → List (Except LineError (Option Completion) × List Log.Record)
  | [] => []
  | call :: rest =>
    ((call.run line).value, (call.run line).records) :: reports (call.run line).state rest

/-- Two steps report the same and leave related states. -/
structure Step.Matches {σ α : Type} (related : σ → σ → Prop) (first second : Step σ α) :
    Prop where
  value : second.value = first.value
  records : second.records = first.records
  state : related first.state second.state

namespace TerminalLine

variable {W : Type} [TerminalSystem W]

section Agreement

variable {device : Nat} {related : W → W → Prop}

/-- An attempt to read gives the same on systems that the device cannot tell apart. -/
theorem fetch_agrees (indistinct : Indistinct device related) (timeout count : Nat) :
    Agrees related (fetch device timeout count) := by
  intro left right start
  obtain ⟨waited, leftWoken, rightWoken, onLeft, onRight, woken⟩ :=
    indistinct.waitReadable (min timeout longestWait) left right start
  unfold fetch
  simp only [onLeft, onRight]
  rcases waited with cause | _ | _ | _
  case error =>
    by_cases interrupted : cause.kind = .interrupted
    · exact ⟨_, _, _, if_pos interrupted, if_pos interrupted, woken⟩
    · exact ⟨_, _, _, if_neg interrupted, if_neg interrupted, woken⟩
  case ok.timedOut | ok.hungUp => exact ⟨_, _, _, rfl, rfl, woken⟩
  case ok.readable =>
    obtain ⟨result, leftAfter, rightAfter, onLeft, onRight, after⟩ :=
      indistinct.read count leftWoken rightWoken woken
    simp only [onLeft, onRight]
    rcases result with cause | _ | ⟨first, rest⟩
    · by_cases again : cause.kind = .interrupted ∨ cause.kind = .wouldBlock
      · exact ⟨_, _, _, if_pos again, if_pos again, after⟩
      · exact ⟨_, _, _, if_neg again, if_neg again, after⟩
    · exact ⟨_, _, _, rfl, rfl, after⟩
    · exact ⟨_, _, _, rfl, rfl, after⟩

theorem writeBlock_agrees (indistinct : Indistinct device related) (block : List UInt8) :
    Agrees related (writeBlock device block) := by
  cases block with
  | nil => exact fun _ _ start => ⟨_, _, _, rfl, rfl, start⟩
  | cons first rest => exact indistinct.write (first :: rest)

theorem applySpeed_agrees (indistinct : Indistinct device related) (speed : Nat) :
    Agrees related (applySpeed device speed) :=
  indistinct.readSettings.andThen fun _ => indistinct.writeSettings _

end Agreement

/-- A line that differs in its system only, as far as the open device cannot tell. -/
inductive Resembles (line : TerminalLine W) : TerminalLine W → Prop where
  | resembles {system : W}
      (alike : ∀ device, line.device = some device → Alike device line.system system) :
      Resembles line { line with system }

variable {line other : TerminalLine W} {device : Nat} {left right : W}

theorem Resembles.refl (line : TerminalLine W) : line.Resembles line :=
  .resembles fun device _ => .refl device line.system

/-- Lines resemble each other if their systems are alike. -/
theorem Resembles.of_alike (line : TerminalLine W) (isOpen : line.device = some device)
    (alike : Alike device left right) :
    Resembles { line with system := left } { line with system := right } := by
  refine .resembles fun other same => ?_
  obtain rfl := Option.some.inj (isOpen.symm.trans same)
  exact alike

/-- Handing over a block is the same on both systems. -/
theorem deliver_matches (line : TerminalLine W) (isOpen : line.device = some device)
    (alike : Alike device left right) (length : Nat) :
    Step.Matches Resembles (deliver { line with system := left } length)
      (deliver { line with system := right } length) := by
  unfold deliver
  split
  · exact ⟨rfl, rfl, .of_alike line isOpen alike⟩
  · exact ⟨rfl, rfl, .of_alike { line with pendingRead := none, collected := [] } isOpen alike⟩

/-- A poll is the same on lines that resemble each other. -/
theorem Resembles.poll (resembles : line.Resembles other) :
    Step.Matches Resembles line.poll other.poll := by
  have whole := resembles
  obtain @⟨right, alike⟩ := resembles
  obtain ⟨left, config, opened, timeout, asked, collected, pending⟩ := line
  cases opened with
  | none => exact ⟨rfl, rfl, whole⟩
  | some device =>
    have together : Alike device left right := alike device rfl
    have indistinct := indistinct_alike (W := W) device
    unfold TerminalLine.poll
    cases pending with
    | some block =>
      obtain ⟨written, leftAfter, rightAfter, onLeft, onRight, after⟩ :=
        writeBlock_agrees indistinct block left right together
      let sent : TerminalLine W :=
        ⟨left, config, some device, timeout, asked, collected, none⟩
      simp only [onLeft, onRight]
      cases written with
      | error => exact ⟨rfl, rfl, .of_alike sent rfl after⟩
      | ok => exact ⟨rfl, rfl, .of_alike sent rfl after⟩
    | none =>
      cases asked with
      | none => exact ⟨rfl, rfl, whole⟩
      | some length =>
        let asking : TerminalLine W :=
          ⟨left, config, some device, timeout, some length, collected, none⟩
        by_cases short : collected.length < length
        · obtain ⟨fetched, leftAfter, rightAfter, onLeft, onRight, after⟩ :=
            fetch_agrees indistinct timeout (length - collected.length) left right together
          simp only [short, if_true]
          rw [collect_eq short, collect_eq short]
          simp only [onLeft, onRight]
          cases fetched with
          | error => exact ⟨rfl, rfl, .of_alike asking rfl after⟩
          | ok bytes =>
            exact deliver_matches { asking with collected := collected ++ bytes } rfl after length
        · simp only [short, if_false]
          exact deliver_matches asking rfl together length

/-- A change of the speed is the same on lines that resemble each other. -/
theorem Resembles.setBaudrate (resembles : line.Resembles other) (rate : Nat) :
    Step.Matches Resembles (line.setBaudrate rate) (other.setBaudrate rate) := by
  have whole := resembles
  obtain @⟨right, alike⟩ := resembles
  obtain ⟨left, config, opened, timeout, asked, collected, pending⟩ := line
  unfold TerminalLine.setBaudrate
  cases speedConstant? rate with
  | none => exact ⟨rfl, rfl, whole⟩
  | some speed =>
    cases opened with
    | none => exact ⟨rfl, rfl, .resembles nofun⟩
    | some device =>
      obtain ⟨applied, leftAfter, rightAfter, onLeft, onRight, after⟩ :=
        applySpeed_agrees (indistinct_alike device) speed left right (alike device rfl)
      let before : TerminalLine W :=
        ⟨left, config, some device, timeout, asked, collected, pending⟩
      simp only [onLeft, onRight]
      cases applied with
      | error => exact ⟨rfl, rfl, .of_alike before rfl after⟩
      | ok =>
        let stored := { before with config := { config with baudrate := rate } }
        exact ⟨rfl, rfl, .of_alike stored rfl after⟩

/-- A closing is the same on lines that resemble each other. -/
theorem Resembles.close (resembles : line.Resembles other) :
    Step.Matches Resembles line.close other.close := by
  obtain ⟨alike⟩ := resembles
  obtain ⟨left, config, opened, timeout, asked, collected, pending⟩ := line
  cases opened with
  | none => exact ⟨rfl, rfl, .resembles nofun⟩
  | some device => exact ⟨rfl, rfl, .resembles nofun⟩

/-- Every call but an opening is the same on lines that resemble each other. -/
theorem Resembles.run (resembles : line.Resembles other) {call : LineCall}
    (stays : call ≠ .openLine) : Step.Matches Resembles (call.run line) (call.run other) := by
  cases call with
  | openLine => exact absurd rfl stays
  | poll => exact resembles.poll
  | setBaudrate rate =>
    have step := resembles.setBaudrate rate
    exact ⟨congrArg (Except.map _) step.value, step.records, step.state⟩
  | close =>
    have step := resembles.close
    exact ⟨congrArg (Except.map _) step.value, step.records, step.state⟩
  | init | receive | send =>
    obtain ⟨alike⟩ := resembles
    exact ⟨rfl, rfl, .resembles alike⟩

/-- Every run without an opening reports the same on lines that resemble each other. -/
theorem Resembles.reports (resembles : line.Resembles other) {calls : List LineCall}
    (stays : LineCall.openLine ∉ calls) :
    LineCall.reports other calls = LineCall.reports line calls := by
  induction calls generalizing line other with
  | nil => rfl
  | cons first rest ih =>
    rw [List.mem_cons, not_or] at stays
    obtain ⟨different, stays⟩ := stays
    have step := resembles.run (Ne.symm different)
    rw [LineCall.reports, LineCall.reports, step.value, step.records, ih step.state stays]

end TerminalLine

end HciSerial
