import HciSerial.Proofs.Line.Calls
import HciSerial.Proofs.Line.View

/-!
# A terminal line on a tapped system

A tap records what a terminal line reads and changes nothing else.

## Main Definitions

* `TerminalLine.tap`, `TerminalLine.untap`: a line with and without a record of what it reads.

## Main Results

* `TerminalLine.fetch_tapped`: an attempt to read is recorded as a read is.
* `TerminalLine.Gains.taken`: what a poll collects is what it reads from the device.
* `TerminalLine.run_tap`: every call does the same with the record.
* `TerminalLine.after_tap`: so does every run.
-/

namespace HciSerial

namespace TerminalLine

variable {W : Type}

/-- The line with a record of what it reads, on top of what has been read before. -/
def tap (taken : List UInt8) (line : TerminalLine W) : TerminalLine (Tapped W) :=
  ⟨⟨line.system, taken⟩, line.config, line.device, line.pollTimeout, line.pendingRead,
    line.collected, line.pendingSend⟩

/-- The line without the record. -/
def untap (line : TerminalLine (Tapped W)) : TerminalLine W :=
  ⟨line.system.system, line.config, line.device, line.pollTimeout, line.pendingRead,
    line.collected, line.pendingSend⟩

theorem deliver_tap (taken : List UInt8) (line : TerminalLine W) (length : Nat) :
    (line.tap taken).deliver length = (line.deliver length).map (tap taken) :=
  deliver_mapSystem (fun system => Tapped.mk system taken) line length

variable [TerminalSystem W]

/-! ## Calls on the system -/

/-- An attempt to read is recorded as a read is. -/
theorem fetch_tapped (device timeout count : Nat) :
    fetch (W := Tapped W) device timeout count = Tapped.record (fetch device timeout count) := by
  funext tapped
  have waited : TerminalSystem.waitReadable device (min timeout longestWait) tapped =
      Tapped.pass (TerminalSystem.waitReadable device (min timeout longestWait)) tapped := rfl
  have read (woken : Tapped W) : TerminalSystem.read device count woken =
      Tapped.record (TerminalSystem.read device count) woken := rfl
  have unread {outcome : Except LineError (List UInt8)} (nothing : SystemCall.gained outcome = [])
      (system : W) : (outcome, { tapped with system }) =
        (outcome, Tapped.mk system (tapped.taken ++ SystemCall.gained outcome)) := by
    rw [nothing, List.append_nil]
  unfold Tapped.record fetch
  simp only [waited, read, Tapped.pass, Tapped.record]
  generalize TerminalSystem.waitReadable device _ tapped.system = result
  rcases result with ⟨cause | _ | _ | _, woken⟩
  case error =>
    by_cases interrupted : cause.kind = .interrupted <;> simp only [interrupted, if_true, if_false]
    · exact unread rfl woken
    · exact unread rfl woken
  case ok.timedOut => exact unread rfl woken
  case ok.hungUp => exact unread rfl woken
  case ok.readable =>
    simp only
    generalize TerminalSystem.read device count woken = result
    rcases result with ⟨cause | _ | ⟨first, rest⟩, changed⟩
    · by_cases again : cause.kind = .interrupted ∨ cause.kind = .wouldBlock <;>
        simp only [again, if_true, if_false] <;> rfl
    · rfl
    · rfl

theorem writeBlock_tapped (device : Nat) (block : List UInt8) :
    writeBlock (W := Tapped W) device block = Tapped.pass (writeBlock device block) := by
  cases block <;> rfl

/-! ## What is read from the device -/

section Taken

variable {line : TerminalLine (Tapped W)} {start system : Tapped W} {device length : Nat}

theorem taken_of_fetch {timeout count : Nat} {outcome : Except LineError (List UInt8)}
    (fetched : fetch device timeout count start = (outcome, system)) :
    system.taken = start.taken ++ SystemCall.gained outcome := by
  rw [fetch_tapped] at fetched
  cases fetched
  rfl

/-- What a poll collects is what it reads from the device. -/
theorem Gains.taken {bytes : List UInt8} (gains : line.Gains device length bytes system) :
    system.taken = line.system.taken ++ bytes := by
  cases gains with
  | full => exact (List.append_nil _).symm
  | fetched _ fetched => exact taken_of_fetch fetched

theorem taken_of_writeBlock {block : List UInt8} {outcome : Except IoError Unit}
    (written : writeBlock device block start = (outcome, system)) :
    system.taken = start.taken := by
  rw [writeBlock_tapped] at written
  cases written
  rfl

end Taken

/-! ## Every call with and without the record -/

section Call

theorem openLine_tap (taken : List UInt8) (line : TerminalLine W) :
    (line.tap taken).openLine = line.openLine.map (tap taken) :=
  line.openLine_mapSystem (Tapped.settingsView taken) fun _ _ => rfl

theorem close_tap (taken : List UInt8) (line : TerminalLine W) :
    (line.tap taken).close = line.close.map (tap taken) :=
  line.close_mapSystem (Tapped.settingsView taken)

theorem setBaudrate_tap (taken : List UInt8) (rate : Nat) (line : TerminalLine W) :
    (line.tap taken).setBaudrate rate = (line.setBaudrate rate).map (tap taken) :=
  line.setBaudrate_mapSystem (Tapped.settingsView taken) rate

theorem openLine_taken (line : TerminalLine (Tapped W)) :
    line.openLine.state.system.taken = line.system.taken :=
  congrArg (fun step => step.state.system.taken) (openLine_tap line.system.taken line.untap)

theorem setBaudrate_taken (rate : Nat) (line : TerminalLine (Tapped W)) :
    (line.setBaudrate rate).state.system.taken = line.system.taken :=
  congrArg (fun step => step.state.system.taken)
    (setBaudrate_tap line.system.taken rate line.untap)

theorem collect_tap (taken : List UInt8) (line : TerminalLine W) (device : Nat) {length : Nat}
    (short : line.collected.length < length) :
    ∃ read, (line.tap taken).collect device length =
      (line.collect device length).map (tap (taken ++ read)) := by
  have stillShort : (line.tap taken).collected.length < length := short
  rw [collect_eq short, collect_eq stillShort]
  simp only [tap, fetch_tapped, Tapped.record]
  generalize fetch device line.pollTimeout _ line.system = result
  obtain ⟨_ | bytes, changed⟩ := result
  · exact ⟨[], rfl⟩
  · exact ⟨bytes, deliver_tap (taken ++ bytes)
      { line with system := changed, collected := line.collected ++ bytes } length⟩

theorem poll_tap (taken : List UInt8) (line : TerminalLine W) :
    ∃ read, (line.tap taken).poll = line.poll.map (tap (taken ++ read)) := by
  obtain ⟨system, config, device, timeout, asked, collected, pending⟩ := line
  have nothing : taken ++ [] = taken := List.append_nil taken
  unfold poll
  simp only [tap, writeBlock_tapped, Tapped.pass]
  cases device with
  | none => exact ⟨[], by rw [nothing]; rfl⟩
  | some device =>
    cases pending with
    | some block =>
      simp only
      generalize writeBlock device block system = result
      obtain ⟨_ | _, changed⟩ := result <;> exact ⟨[], by rw [nothing]; rfl⟩
    | none =>
      cases asked with
      | none => exact ⟨[], by rw [nothing]; rfl⟩
      | some length =>
        let asking : TerminalLine W :=
          ⟨system, config, some device, timeout, some length, collected, none⟩
        by_cases short : collected.length < length
        · simp only [short, if_true]
          exact collect_tap taken asking device short
        · simp only [short, if_false]
          exact ⟨[], by rw [nothing]; exact deliver_tap taken asking length⟩

/-- Every call does the same with the record of what it reads. -/
theorem run_tap (taken : List UInt8) (line : TerminalLine W) (call : LineCall) :
    ∃ read, call.run (line.tap taken) = (call.run line).map (tap (taken ++ read)) := by
  have nothing : taken ++ [] = taken := List.append_nil taken
  cases call with
  | init | receive | send => exact ⟨[], by rw [nothing]; rfl⟩
  | openLine =>
    refine ⟨[], ?_⟩
    have same : SerialLine.openLine (line.tap taken) = _ := openLine_tap taken line
    rw [nothing, LineCall.run, same]
    rfl
  | close =>
    refine ⟨[], ?_⟩
    have same : SerialLine.close (line.tap taken) = _ := close_tap taken line
    rw [nothing, LineCall.run, same]
    rfl
  | setBaudrate rate =>
    refine ⟨[], ?_⟩
    have same : SerialLine.setBaudrate rate (line.tap taken) = _ := setBaudrate_tap taken rate line
    rw [nothing, LineCall.run, same]
    rfl
  | poll => exact poll_tap taken line

/-- Every run leaves the same line and completes the same blocks with the record of what it
reads. -/
theorem after_tap (taken : List UInt8) (line : TerminalLine W) (calls : List LineCall) :
    ∃ read, LineCall.after (line.tap taken) calls =
        (LineCall.after line calls).tap (taken ++ read) ∧
      LineCall.blocks (line.tap taken) calls = LineCall.blocks line calls := by
  induction calls generalizing taken line with
  | nil =>
    refine ⟨[], ?_, rfl⟩
    rw [List.append_nil]
    rfl
  | cons call rest ih =>
    obtain ⟨first, same⟩ := run_tap taken line call
    obtain ⟨more, after, blocks⟩ := ih (taken ++ first) (call.run line).state
    rw [LineCall.after, LineCall.blocks, same, LineCall.blocks]
    refine ⟨first ++ more, ?_, ?_⟩
    · rw [← List.append_assoc]
      exact after
    · exact congrArg _ blocks

end Call

end TerminalLine

end HciSerial
