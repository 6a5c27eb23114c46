import HciSerial.Proofs.Line.Alike

/-!
# Failing calls on a terminal line

An opening and a change of the speed are made of several calls on the system, and each of them
can fail.  Whichever does, the line keeps its state, as long as the settings of the new device
have not been written.

## Main Definitions

* `TerminalLine.Unopened`, `TerminalLine.Spoiled`: why an opening fails, before the settings of
  the new device have been written and after.
* `TerminalLine.Renewed`: what a successful opening leaves.
* `TerminalLine.Unset`, `TerminalLine.Sped`: why a change of the speed fails, and what one leaves
  that succeeds.
* `TerminalLine.Kept`: what a failing call keeps.

## Main Results

* `TerminalLine.unopened_or_sets`, `TerminalLine.Sets.openLine`: what an opening can do.
* `TerminalLine.setBaudrate_cases`: what a change of the speed can do.
* `TerminalLine.kept_on_failure`: a failing call keeps the line, and a successful one does what
  is asked for.

## Design Notes

An opening that fails late opens a device and closes it again, which the holder of another one
does not notice on a steady system.  So the line before and the line after are not equal, but
resemble each other.
-/

namespace HciSerial.TerminalLine

variable {W : Type} [TerminalSystem W]

/-! ## What is kept -/

/-- What a failing call keeps: everything but the system, and of that the settings of the open
device and whatever a run without another opening reports. -/
structure Kept (line next : TerminalLine W) : Prop where
  same : next = { line with system := next.system }
  settings : ∀ device, line.device = some device →
    (TerminalSystem.readSettings device next.system).1 =
      (TerminalSystem.readSettings device line.system).1
  reports : ∀ calls, LineCall.openLine ∉ calls →
    LineCall.reports next calls = LineCall.reports line calls

/-- What resembles a line keeps all of it. -/
theorem Resembles.kept {line next : TerminalLine W} (resembles : line.Resembles next) :
    line.Kept next where
  same := by
    obtain ⟨_⟩ := resembles
    rfl
  settings device isOpen := by
    obtain ⟨alike⟩ := resembles
    obtain ⟨result, _, _, onLine, onNext, _⟩ :=
      (indistinct_alike device).readSettings _ _ (alike device isOpen)
    rw [onLine, onNext]
  reports _ := resembles.reports

/-! ## Openings -/

/-- The settings of a raw line of some speed and flow control. -/
def lineSettings (speed : Nat) (flow : FlowControl) (settings : TerminalSettings) :
    TerminalSettings :=
  (settings.raw.withRtsCts flow.isEnabled).withSpeed speed

/-- Readies a device whose settings have been written. -/
def settle (device : Nat) : SystemCall W Unit :=
  SystemCall.andThen (TerminalSystem.discardQueued device) fun _ =>
    TerminalSystem.makeBlocking device

/-- Closes the device that was open before. -/
def release (line : TerminalLine W) (system : W) : W :=
  match line.device with
  | none => system
  | some old => TerminalSystem.closeDevice old system

/-- An opening finds a device, and the stored rate has a speed. -/
structure Reaches (line : TerminalLine W) (device speed : Nat) (opened : W) : Prop where
  found : ∃ path, line.config.device = some path ∧
    TerminalSystem.openDevice path line.system = (.ok device, opened)
  supported : speedConstant? line.config.baudrate = some speed

/-- An opening writes the settings of the device that it finds. -/
inductive Sets (line : TerminalLine W) (device : Nat) : TerminalSettings → W → Prop where
  | sets {speed : Nat} {before : TerminalSettings} {opened written : W}
      (reaches : line.Reaches device speed opened)
      (seen : (TerminalSystem.readSettings device opened).1 = .ok before)
      (done : TerminalSystem.writeSettings device
        (lineSettings speed line.config.flowControl before)
        (TerminalSystem.readSettings device opened).2 = (.ok (), written)) :
      Sets line device (lineSettings speed line.config.flowControl before) written

/-- Why an opening fails before the line is touched: no device is named, it cannot be opened,
the stored rate has no speed, the device is no terminal, or its settings cannot be written. -/
inductive Unopened (line : TerminalLine W) : LineError → Prop where
  | unnamed (unnamed : line.config.device = none) : Unopened line .missingDevice
  | missing {path : String} {cause : IoError} {system : W}
      (named : line.config.device = some path)
      (failed : TerminalSystem.openDevice path line.system = (.error cause, system)) :
      Unopened line (.openFailed path cause)
  | unsupported {path : String} {device : Nat} {opened : W}
      (named : line.config.device = some path)
      (found : TerminalSystem.openDevice path line.system = (.ok device, opened))
      (unsupported : speedConstant? line.config.baudrate = none) :
      Unopened line (.unsupportedBaudrate line.config.baudrate)
  | noTerminal {device speed : Nat} {opened : W} {cause : IoError}
      (reaches : line.Reaches device speed opened)
      (failed : (TerminalSystem.readSettings device opened).1 = .error cause) :
      Unopened line (.io cause)
  | unset {device speed : Nat} {opened : W} {before : TerminalSettings} {cause : IoError}
      (reaches : line.Reaches device speed opened)
      (seen : (TerminalSystem.readSettings device opened).1 = .ok before)
      (failed : (TerminalSystem.writeSettings device
        (lineSettings speed line.config.flowControl before)
        (TerminalSystem.readSettings device opened).2).1 = .error cause) :
      Unopened line (.io cause)

/-- Why an opening fails after the settings have been written. -/
inductive Spoiled (line : TerminalLine W) : LineError → Prop where
  | spoiled {device : Nat} {settings : TerminalSettings} {written : W} {cause : IoError}
      (sets : line.Sets device settings written)
      (failed : (settle device written).1 = .error cause) : Spoiled line (.io cause)

/-- An opening fails before the line is touched, or gets as far as to write the settings. -/
theorem unopened_or_sets (line : TerminalLine W) :
    (∃ error, line.Unopened error) ∨
      ∃ device settings written, line.Sets device settings written := by
  cases named : line.config.device with
  | none => exact .inl ⟨_, .unnamed named⟩
  | some path =>
    rcases found : TerminalSystem.openDevice path line.system with ⟨cause | device, opened⟩
    · exact .inl ⟨_, .missing named found⟩
    · cases supported : speedConstant? line.config.baudrate with
      | none => exact .inl ⟨_, .unsupported named found supported⟩
      | some speed =>
        have reaches : line.Reaches device speed opened := ⟨⟨path, named, found⟩, supported⟩
        rcases seen : (TerminalSystem.readSettings device opened).1 with cause | before
        · exact .inl ⟨_, .noTerminal reaches seen⟩
        · rcases done : TerminalSystem.writeSettings device
            (lineSettings speed line.config.flowControl before)
            (TerminalSystem.readSettings device opened).2 with ⟨cause | _, written⟩
          · exact .inl ⟨_, .unset reaches seen (congrArg Prod.fst done)⟩
          · exact .inr ⟨device, _, written, .sets reaches seen done⟩

section Opening

variable {line : TerminalLine W} {device speed : Nat} {opened written system : W}
  {settings : TerminalSettings} {error : LineError} {cause : IoError}

/-- If the new device cannot be configured, it is given up. -/
theorem Reaches.openLine_of_error (reaches : line.Reaches device speed opened)
    (failed : configure device speed line.config.flowControl opened = (.error cause, system)) :
    line.openLine = line.abandon device system (.io cause) := by
  obtain ⟨⟨path, named, found⟩, supported⟩ := reaches
  simp only [openLine, named, found, supported, failed]

/-- If the new device can be configured, the line has no other one and nothing is pending. -/
theorem Reaches.openLine_of_ok (reaches : line.Reaches device speed opened)
    (done : configure device speed line.config.flowControl opened = (.ok (), system)) :
    line.openLine.value = .ok () ∧ line.openLine.state =
      { line.dropRequests with system := line.release system, device := some device } := by
  obtain ⟨⟨path, named, found⟩, supported⟩ := reaches
  simp only [openLine, named, found, supported, done]
  exact ⟨trivial, rfl⟩

/-- Once the settings have been written, the device is only readied. -/
theorem configure_of_written {flow : FlowControl} {before : TerminalSettings}
    (seen : (TerminalSystem.readSettings device opened).1 = .ok before)
    (done : TerminalSystem.writeSettings device (lineSettings speed flow before)
      (TerminalSystem.readSettings device opened).2 = (.ok (), written)) :
    configure device speed flow opened = settle device written := by
  have inspected : TerminalSystem.readSettings device opened =
      (.ok before, (TerminalSystem.readSettings device opened).2) := Prod.ext seen rfl
  unfold configure SystemCall.andThen
  rw [inspected]
  unfold lineSettings at done
  simp only [done]
  rfl

/-- A device that is no terminal cannot be configured, and is left as it is. -/
theorem configure_of_unread (steady : Steady W) {flow : FlowControl}
    (failed : (TerminalSystem.readSettings device opened).1 = .error cause) :
    configure device speed flow opened = (.error cause, opened) := by
  have inspected : TerminalSystem.readSettings device opened = (.error cause, opened) :=
    Prod.ext failed (steady.inspected device opened)
  unfold configure SystemCall.andThen
  rw [inspected]

/-- A device that refuses its settings cannot be configured, and is left as it is. -/
theorem configure_of_unwritten (steady : Steady W) {flow : FlowControl} {before : TerminalSettings}
    (seen : (TerminalSystem.readSettings device opened).1 = .ok before)
    (failed : (TerminalSystem.writeSettings device (lineSettings speed flow before)
      (TerminalSystem.readSettings device opened).2).1 = .error cause) :
    configure device speed flow opened = (.error cause, opened) := by
  rw [steady.inspected] at failed
  have inspected : TerminalSystem.readSettings device opened = (.ok before, opened) :=
    Prod.ext seen (steady.inspected device opened)
  unfold configure SystemCall.andThen
  rw [inspected]
  unfold lineSettings at failed
  rcases refused : TerminalSystem.writeSettings device
    ((before.raw.withRtsCts flow.isEnabled).withSpeed speed) opened with ⟨result, changed⟩
  rw [refused] at failed
  obtain rfl : result = .error cause := failed
  simp only [refused]
  rw [steady.unwritten refused]

/-- Readying a device keeps its settings. -/
theorem readSettings_settle (steady : Steady W) (device : Nat) (system : W) :
    (TerminalSystem.readSettings device (settle device system).2).1 =
      (TerminalSystem.readSettings device system).1 := by
  rw [← steady.discarded device system]
  unfold settle SystemCall.andThen
  rcases TerminalSystem.discardQueued device system with ⟨_ | _, discarded⟩
  · rfl
  · exact steady.blocking device discarded

/-- A line whose new device is given up resembles the line before. -/
theorem resembles_abandon (steady : Steady W) {path : String} (error : LineError)
    (found : TerminalSystem.openDevice path line.system = (.ok device, opened)) :
    line.Resembles (line.abandon device opened error).state :=
  .resembles fun held _ => steady.reclosed found held

/-- If the new device cannot be configured and is left as it is, the line resembles the line
before. -/
theorem Reaches.given_up (steady : Steady W) (reaches : line.Reaches device speed opened)
    (failed : configure device speed line.config.flowControl opened = (.error cause, opened)) :
    line.openLine.value = .error (.io cause) ∧ line.Resembles line.openLine.state := by
  rw [reaches.openLine_of_error failed]
  obtain ⟨path, _, found⟩ := reaches.found
  exact ⟨rfl, resembles_abandon steady _ found⟩

/-- An opening that fails before the line is touched reports why, and leaves a line that
resembles the line before. -/
theorem Unopened.openLine (steady : Steady W) (unopened : line.Unopened error) :
    line.openLine.value = .error error ∧ line.Resembles line.openLine.state := by
  cases unopened with
  | unnamed unnamed =>
    simp only [TerminalLine.openLine, unnamed]
    exact ⟨trivial, .refl line⟩
  | missing named failed =>
    obtain rfl := steady.unopened failed
    simp only [TerminalLine.openLine, named, failed]
    exact ⟨trivial, .refl line⟩
  | unsupported named found unsupported =>
    simp only [TerminalLine.openLine, named, found, unsupported]
    exact ⟨rfl, resembles_abandon steady _ found⟩
  | noTerminal reaches failed =>
    exact reaches.given_up steady (configure_of_unread steady failed)
  | unset reaches seen failed =>
    exact reaches.given_up steady (configure_of_unwritten steady seen failed)

/-- An opening that has written the settings succeeds or fails with readying the device. -/
theorem Sets.openLine (sets : line.Sets device settings written) :
    (∃ cause, (settle device written).1 = .error cause ∧
      line.openLine = line.abandon device (settle device written).2 (.io cause)) ∨
    (line.openLine.value = .ok () ∧ line.openLine.state = { line.dropRequests with
      system := line.release (settle device written).2, device := some device }) := by
  obtain ⟨reaches, seen, done⟩ := sets
  have configured := configure_of_written seen done
  rcases result : settle device written with ⟨cause | _, system⟩
  · rw [result] at configured
    exact .inl ⟨cause, rfl, reaches.openLine_of_error configured⟩
  · rw [result] at configured
    exact .inr (reaches.openLine_of_ok configured)

/-- Every opening that fails does so before the line is touched or after. -/
theorem unopened_or_spoiled (steady : Steady W) (failed : line.openLine.value = .error error) :
    (line.Unopened error ∨ line.Spoiled error) ∧
      line.openLine.state = { line with system := line.openLine.state.system } := by
  rcases line.unopened_or_sets with ⟨_, unopened⟩ | ⟨device, settings, written, sets⟩
  · obtain ⟨value, resembles⟩ := unopened.openLine steady
    obtain rfl := Except.error.inj (value.symm.trans failed)
    exact ⟨.inl unopened, resembles.kept.same⟩
  · rcases sets.openLine with ⟨cause, unsettled, step⟩ | ⟨value, _⟩
    · rw [step] at failed ⊢
      obtain rfl := Except.error.inj failed
      exact ⟨.inr (.spoiled sets unsettled), rfl⟩
    · cases value.symm.trans failed

/-- Closing the device that is open does not change the settings of one that an opening finds. -/
def Apart (line : TerminalLine W) : Prop :=
  ∀ old path device opened, line.device = some old →
    TerminalSystem.openDevice path line.system = (.ok device, opened) →
    ∀ later : W, (TerminalSystem.readSettings device (TerminalSystem.closeDevice old later)).1 =
      (TerminalSystem.readSettings device later).1

/-- What a successful opening leaves: a new device with the settings of a raw line of the stored
rate and flow control, and nothing pending. -/
inductive Renewed (line : TerminalLine W) : TerminalLine W → Prop where
  | renewed {device speed : Nat} {before : TerminalSettings} {opened system : W}
      (reaches : line.Reaches device speed opened)
      (seen : (TerminalSystem.readSettings device opened).1 = .ok before)
      (now : (TerminalSystem.readSettings device system).1 =
        .ok (lineSettings speed line.config.flowControl before)) :
      Renewed line { line with
        system
        device := some device
        pendingRead := none
        collected := []
        pendingSend := none }

/-- A successful opening leaves a new line. -/
theorem renewed (steady : Steady W) (apart : line.Apart) (done : line.openLine.value = .ok ()) :
    line.Renewed line.openLine.state := by
  rcases line.unopened_or_sets with ⟨_, unopened⟩ | ⟨device, settings, written, sets⟩
  · cases (unopened.openLine steady).1.symm.trans done
  · rcases sets.openLine with ⟨cause, _, step⟩ | ⟨_, state⟩
    · rw [step] at done
      cases done
    · rw [state]
      obtain ⟨reaches, seen, set⟩ := sets
      refine .renewed reaches seen ?_
      -- what was written is still there once the device is ready and the old one is closed
      have settled : (TerminalSystem.readSettings device (settle device written).2).1 = _ :=
        (readSettings_settle steady device written).trans (steady.written set)
      unfold release
      split
      case h_1 => exact settled
      case h_2 old isOpen =>
        obtain ⟨path, _, found⟩ := reaches.found
        exact (apart old path device _ isOpen found _).trans settled

end Opening

/-! ## Changes of the speed -/

/-- Why a change of the speed fails. -/
inductive Unset (line : TerminalLine W) (rate : Nat) : LineError → Prop where
  | unsupported (unsupported : speedConstant? rate = none) :
      Unset line rate (.unsupportedBaudrate rate)
  | failed {device speed : Nat} {cause : IoError} (supported : speedConstant? rate = some speed)
      (isOpen : line.device = some device)
      (failed : (applySpeed device speed line.system).1 = .error cause) :
      Unset line rate (.io cause)

/-- What a successful change of the speed leaves: the stored rate, and the speed of an open
device, are changed. -/
inductive Sped (line : TerminalLine W) (rate : Nat) : TerminalLine W → Prop where
  | closed {speed : Nat} (supported : speedConstant? rate = some speed)
      (closed : line.device = none) :
      Sped line rate { line with config := { line.config with baudrate := rate } }
  | opened {device speed : Nat} {before : TerminalSettings} {system : W}
      (supported : speedConstant? rate = some speed) (isOpen : line.device = some device)
      (seen : (TerminalSystem.readSettings device line.system).1 = .ok before)
      (done : TerminalSystem.writeSettings device (before.withSpeed speed) line.system =
        (.ok (), system))
      (now : (TerminalSystem.readSettings device system).1 = .ok (before.withSpeed speed)) :
      Sped line rate { line with system, config := { line.config with baudrate := rate } }

/-- A change of the speed of a device fails and changes nothing, or writes the settings. -/
theorem applySpeed_cases (steady : Steady W) (device speed : Nat) (system : W) :
    (∃ cause, applySpeed device speed system = (.error cause, system)) ∨
    ∃ before changed, (TerminalSystem.readSettings device system).1 = .ok before ∧
      TerminalSystem.writeSettings device (before.withSpeed speed) system = (.ok (), changed) ∧
      applySpeed device speed system = (.ok (), changed) := by
  have same := steady.inspected device system
  unfold applySpeed SystemCall.andThen
  rcases seen : TerminalSystem.readSettings device system with ⟨cause | before, inspected⟩
  · rw [seen] at same
    obtain rfl : inspected = system := same
    exact .inl ⟨cause, rfl⟩
  · rw [seen] at same
    obtain rfl : inspected = system := same
    simp only
    rcases done : TerminalSystem.writeSettings device (before.withSpeed speed) inspected
      with ⟨cause | _, changed⟩
    · rw [steady.unwritten done]
      exact .inl ⟨cause, rfl⟩
    · exact .inr ⟨before, changed, rfl, done, rfl⟩

/-- A change of the speed fails and changes nothing, or changes nothing but the speed. -/
theorem setBaudrate_cases (steady : Steady W) (line : TerminalLine W) (rate : Nat) :
    (∃ error, (line.setBaudrate rate).value = .error error ∧ line.Unset rate error ∧
      (line.setBaudrate rate).state = line) ∨
    ((line.setBaudrate rate).value = .ok () ∧ line.Sped rate (line.setBaudrate rate).state) := by
  obtain ⟨system, config, opened, timeout, asked, collected, pending⟩ := line
  unfold setBaudrate
  cases supported : speedConstant? rate with
  | none => exact .inl ⟨_, rfl, .unsupported supported, rfl⟩
  | some speed =>
    cases opened with
    | none => exact .inr ⟨rfl, .closed supported rfl⟩
    | some device =>
      rcases applySpeed_cases steady device speed system with
        ⟨cause, failed⟩ | ⟨before, changed, seen, done, applied⟩
      · simp only [failed]
        exact .inl ⟨_, rfl, .failed supported rfl (congrArg Prod.fst failed), trivial⟩
      · simp only [applied]
        exact .inr ⟨trivial, .opened supported rfl seen done (steady.written done)⟩

/-! ## Failures and successes -/

/-- A terminal line keeps its state when an opening or a change of its speed fails.

In any state, on a steady system: an opening for which no device is named, or whose device
cannot be opened, is no terminal or cannot be set, or whose rate has no speed, reports just
that and keeps everything, so that a run of other calls goes on as if it had not been made; an
opening fails for no other reason before it has written the settings of the new device, and
after that it still keeps the line but for the system.  A change of the speed fails if the rate
has no speed or the device refuses it, and changes nothing.  If it succeeds, it changes the
stored rate, and the speed of an open device to that of the rate, and nothing else.  A
successful opening leaves a device that has the settings of a raw line of the stored rate and
flow control, and nothing pending. -/
theorem kept_on_failure (steady : Steady W) (line : TerminalLine W) (apart : line.Apart) :
    (∀ error, line.Unopened error →
        line.openLine.value = .error error ∧ line.Kept line.openLine.state) ∧
      (∀ error, line.openLine.value = .error error →
        (line.Unopened error ∨ line.Spoiled error) ∧
          line.openLine.state = { line with system := line.openLine.state.system }) ∧
      (∀ rate error, (line.setBaudrate rate).value = .error error →
        line.Unset rate error ∧ (line.setBaudrate rate).state = line) ∧
      (∀ rate, (line.setBaudrate rate).value = .ok () →
        line.Sped rate (line.setBaudrate rate).state) ∧
      (line.openLine.value = .ok () → line.Renewed line.openLine.state) := by
  refine ⟨fun error unopened => ?unopened, fun _ => unopened_or_spoiled steady,
    fun rate error failed => ?unset, fun rate done => ?sped, renewed steady apart⟩
  case unopened =>
    obtain ⟨value, resembles⟩ := unopened.openLine steady
    exact ⟨value, resembles.kept⟩
  case unset =>
    rcases setBaudrate_cases steady line rate with ⟨found, value, unset, state⟩ | ⟨value, _⟩
    · obtain rfl := Except.error.inj (value.symm.trans failed)
      exact ⟨unset, state⟩
    · cases value.symm.trans failed
  case sped =>
    rcases setBaudrate_cases steady line rate with ⟨found, value, _⟩ | ⟨_, sped⟩
    · cases value.symm.trans done
    · exact sped

/-- A line on a simulated terminal, with a block half received and one to be sent, that is
configured for some device. -/
def busyLine (device : String) : TerminalLine SimulatedHost where
  system := { terminal := some { toProgram := [0x0E, 0x00] } }
  config := { device := some device }
  device := some SimulatedHost.terminalDevice
  pendingRead := some 3
  collected := [0x04]
  pendingSend := some [0x01, 0x03, 0x0C, 0x00]

/-- The device that is no terminal keeps the line, and so does a rate without a speed; another
rate changes the speed, and the terminal is opened anew. -/
theorem busyLine_kept :
    let stuck := busyLine "/dev/null"
    let ready := busyLine "/dev/pts/0"
    (stuck.openLine.value = .error (.io (.system 25)) ∧
      LineCall.reports stuck.openLine.state [.poll, .poll] =
        [(.ok (some .sent), []), (.ok (some (.received [0x04, 0x0E, 0x00])), [])]) ∧
    ((stuck.setBaudrate 300).value = .error (.unsupportedBaudrate 300) ∧
      (stuck.setBaudrate 300).state = stuck) ∧
    ((stuck.setBaudrate 57600).value = .ok () ∧
      stuck.Sped 57600 (stuck.setBaudrate 57600).state) ∧
    ready.openLine.value = .ok () ∧ ready.Renewed ready.openLine.state := by
  have null : (SimulatedHost.openDevice "/dev/null" (busyLine "/dev/null").system).1 =
      .ok SimulatedHost.otherDevice := by rfl
  have opens : (busyLine "/dev/pts/0").openLine.value = .ok () := by rfl
  intro stuck ready
  have apart (line : TerminalLine SimulatedHost) : line.Apart := fun _ _ _ _ _ _ _ => rfl
  obtain ⟨unopened, _, unset, sped, _⟩ :=
    kept_on_failure SimulatedHost.steady stuck (apart stuck)
  obtain ⟨_, _, _, _, renewed⟩ := kept_on_failure SimulatedHost.steady ready (apart ready)
  have found : TerminalSystem.openDevice "/dev/null" stuck.system =
      (.ok SimulatedHost.otherDevice, stuck.system) :=
    Prod.ext null (stuck.system.openDevice_snd "/dev/null")
  have reaches : stuck.Reaches SimulatedHost.otherDevice 4098 stuck.system :=
    ⟨⟨"/dev/null", rfl, found⟩, rfl⟩
  obtain ⟨value, kept⟩ := unopened (.io (.system 25)) (.noTerminal reaches rfl)
  have polled : LineCall.reports stuck [.poll, .poll] =
      [(.ok (some .sent), []), (.ok (some (.received [0x04, 0x0E, 0x00])), [])] := rfl
  have unsupported : (stuck.setBaudrate 300).value = .error (.unsupportedBaudrate 300) := rfl
  have set : (stuck.setBaudrate 57600).value = .ok () := rfl
  exact ⟨⟨value, (kept.reports _ (by simp)).trans polled⟩,
    ⟨unsupported, (unset 300 _ unsupported).2⟩, ⟨set, sped 57600 set⟩, opens, renewed opens⟩

end HciSerial.TerminalLine
