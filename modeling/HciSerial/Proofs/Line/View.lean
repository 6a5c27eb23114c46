import HciSerial.Proofs.Host.View
import HciSerial.Proofs.Line.Terminal

/-!
# Terminal lines on a view of the system

A terminal line does the same on a view of its system if the calls that it makes do.

## Main Definitions

* `Step.map`: a step with another view of its state.
* `TerminalLine.mapSystem`: the line on a view of its system.

## Main Results

* `TerminalLine.fetch_mirrors`, `TerminalLine.configure_mirrors`: reading from a device and
  configuring it are quiet.
* `TerminalLine.openLine_mapSystem`, `TerminalLine.close_mapSystem`,
  `TerminalLine.setBaudrate_mapSystem`, `TerminalLine.poll_mapSystem`: the operations of a line.
-/

namespace HciSerial

/-- The step with another view of its state. -/
def Step.map {σ τ α : Type} (view : σ → τ) (step : Step σ α) : Step τ α where
  state := view step.state
  value := step.value
  records := step.records

namespace TerminalLine

variable {V W : Type} {view : V → W}

/-- The line on a view of its system. -/
def mapSystem (view : V → W) (line : TerminalLine V) : TerminalLine W :=
  ⟨view line.system, line.config, line.device, line.pollTimeout, line.pendingRead,
    line.collected, line.pendingSend⟩

theorem deliver_mapSystem (view : V → W) (line : TerminalLine V) (length : Nat) :
    (line.mapSystem view).deliver length = (line.deliver length).map (mapSystem view) := by
  have same : (line.mapSystem view).collected = line.collected := rfl
  unfold deliver
  rw [same]
  split <;> rfl

variable [TerminalSystem V] [TerminalSystem W]

/-! ## Reading and configuring -/

/-- An attempt to read does the same on a quiet view of the system. -/
theorem fetch_mirrors (quiet : QuietView view) (device timeout count : Nat) :
    Mirrors view (fetch device timeout count) (fetch device timeout count) := by
  intro system
  unfold fetch
  rw [quiet.waitReadable]
  generalize TerminalSystem.waitReadable device _ system = waited
  rcases waited with ⟨cause | _ | _ | _, woken⟩
  case error => by_cases interrupted : cause.kind = .interrupted <;> simp [interrupted]
  case ok.timedOut | ok.hungUp => rfl
  case ok.readable =>
    simp only [Prod.map, id_eq, quiet.read device count woken]
    generalize TerminalSystem.read device count woken = result
    rcases result with ⟨cause | _ | ⟨first, rest⟩, changed⟩
    · by_cases again : cause.kind = .interrupted ∨ cause.kind = .wouldBlock <;> simp [again]
    · rfl
    · rfl

/-- Configuring a device does the same on a view of the system on which its calls do. -/
theorem configure_mirrors (sets : SettingsView view) (device speed : Nat) (flow : FlowControl) :
    Mirrors view (configure device speed flow) (configure device speed flow) := by
  refine (sets.readSettings device).andThen fun settings => ?_
  refine (sets.writeSettings device _).andThen fun _ => ?_
  exact (sets.discardQueued device).andThen fun _ => sets.makeBlocking device

theorem applySpeed_mirrors (sets : SettingsView view) (device speed : Nat) :
    Mirrors view (applySpeed device speed) (applySpeed device speed) :=
  (sets.readSettings device).andThen fun _ => sets.writeSettings device _

theorem collect_mapSystem (quiet : QuietView view) (line : TerminalLine V) (device : Nat)
    {length : Nat} (short : line.collected.length < length) :
    (line.mapSystem view).collect device length =
      (line.collect device length).map (mapSystem view) := by
  have stillShort : (line.mapSystem view).collected.length < length := short
  rw [collect_eq short, collect_eq stillShort]
  simp only [mapSystem, fetch_mirrors quiet device _ _ line.system, Prod.map]
  generalize fetch device line.pollTimeout _ line.system = result
  obtain ⟨_ | bytes, changed⟩ := result
  · rfl
  · exact deliver_mapSystem view
      { line with system := changed, collected := line.collected ++ bytes } length

/-! ## The operations of a line -/

/-- An opening does the same on a view of the system on which its calls do. -/
theorem openLine_mapSystem (sets : SettingsView view)
    (opens : ∀ path, Mirrors view (TerminalSystem.openDevice path)
      (TerminalSystem.openDevice path)) (line : TerminalLine V) :
    (line.mapSystem view).openLine = line.openLine.map (mapSystem view) := by
  unfold openLine
  simp only [mapSystem]
  cases line.config.device with
  | none => rfl
  | some path =>
    simp only [opens path line.system, Prod.map]
    generalize TerminalSystem.openDevice path line.system = result
    obtain ⟨_ | device, system⟩ := result
    · rfl
    · cases speedConstant? line.config.baudrate with
      | none =>
        simp only [id_eq, abandon, sets.closeDevice]
        rfl
      | some speed =>
        simp only [id_eq, configure_mirrors sets device speed line.config.flowControl system,
          Prod.map]
        generalize configure device speed line.config.flowControl system = result
        obtain ⟨_ | _, changed⟩ := result
        · simp only [abandon, sets.closeDevice]
          rfl
        · cases line.device with
          | none => rfl
          | some old =>
            simp only [sets.closeDevice]
            rfl

/-- A closing does the same on a view of the system on which its call does. -/
theorem close_mapSystem (sets : SettingsView view) (line : TerminalLine V) :
    (line.mapSystem view).close = line.close.map (mapSystem view) := by
  obtain ⟨system, config, device, timeout, asked, collected, pending⟩ := line
  cases device with
  | none => rfl
  | some device =>
    simp only [close, mapSystem, sets.closeDevice]
    rfl

/-- A change of the speed does the same on a view of the system on which its calls do. -/
theorem setBaudrate_mapSystem (sets : SettingsView view) (rate : Nat) (line : TerminalLine V) :
    (line.mapSystem view).setBaudrate rate = (line.setBaudrate rate).map (mapSystem view) := by
  unfold setBaudrate
  simp only [mapSystem]
  cases speedConstant? rate with
  | none => rfl
  | some speed =>
    cases line.device with
    | none => rfl
    | some device =>
      simp only [applySpeed_mirrors sets device speed line.system, Prod.map]
      generalize applySpeed device speed line.system = result
      obtain ⟨_ | _, changed⟩ := result <;> rfl

theorem writeBlock_mirrors (mirrors : TerminalView view) (device : Nat) (block : List UInt8) :
    Mirrors view (writeBlock device block) (writeBlock device block) := by
  cases block with
  | nil => exact fun _ => rfl
  | cons first rest => exact mirrors.write device (first :: rest)

/-- A poll does the same on a view of the system. -/
theorem poll_mapSystem (mirrors : TerminalView view) (line : TerminalLine V) :
    (line.mapSystem view).poll = line.poll.map (mapSystem view) := by
  obtain ⟨system, config, device, timeout, asked, collected, pending⟩ := line
  unfold poll
  simp only [mapSystem]
  cases device with
  | none => rfl
  | some device =>
    cases pending with
    | some block =>
      simp only [writeBlock_mirrors mirrors device block system, Prod.map]
      generalize writeBlock device block system = result
      obtain ⟨_ | _, changed⟩ := result <;> rfl
    | none =>
      cases asked with
      | none => rfl
      | some length =>
        let asking : TerminalLine V :=
          ⟨system, config, some device, timeout, some length, collected, none⟩
        by_cases short : collected.length < length
        · simp only [short, if_true]
          exact collect_mapSystem mirrors.toQuietView asking device short
        · simp only [short, if_false]
          exact deliver_mapSystem view asking length

end TerminalLine

end HciSerial
