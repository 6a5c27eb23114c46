import HciSerial.Host.TerminalSystem
import HciSerial.Line.Basic
import HciSerial.Text.Duration

/-!
# A serial line on a terminal device

The line driver for a terminal device of an operating system.  A send is written when
the line is polled; a receive request collects what arrives, over as many polls as it
takes, until its block is full.

## Main Definitions

* `TerminalLine W`: the driver together with the system `W` that it runs on.
* The instance `SerialLine (TerminalLine W)`.

## Design Notes

Opening touches the state of the driver only after every call has succeeded, so a
failure leaves an open line with its pending requests as it was.  The baud rate is
looked up once the device is open and before anything is done to it.  A wait that is
interrupted, or a read that would have to wait, counts as nothing yet.
-/

namespace HciSerial

/-- The driver of a terminal device on a system `W`. -/
structure TerminalLine (W : Type) where
  system : W
  config : LineConfig := {}
  /-- The number of the open device. -/
  device : Option Nat := none
  /-- How long one poll waits for input, in milliseconds. -/
  pollTimeout : Nat := 100
  /-- The length asked for by the outstanding receive request. -/
  pendingRead : Option Nat := none
  /-- What has arrived of the requested block. -/
  collected : List UInt8 := []
  /-- The block that waits to be written. -/
  pendingSend : Option (List UInt8) := none

namespace TerminalLine

variable {W : Type}

/-- The name of the driver in diagnostics. -/
def driverName : String := "posix-tty"

/-- Whether a device is open. -/
def isOpen (line : TerminalLine W) : Bool :=
  line.device.isSome

/-- The diagnostic text of the driver. -/
def inspect (line : TerminalLine W) : String :=
  "PosixUart \x7b device: " ++ Quoted.renderOption line.config.device ++
    ", baudrate: " ++ toString line.config.baudrate ++
    ", open: " ++ toString line.isOpen ++ " \x7d"

/-- The longest wait that the system can express, in milliseconds. -/
def longestWait : Nat := Nat.pow 2 31 - 1

/-- Drops the pending requests. -/
def dropRequests (line : TerminalLine W) : TerminalLine W :=
  { line with pendingRead := none, collected := [], pendingSend := none }

variable [TerminalSystem W]

/-- Makes a device a raw line of the given speed and flow control, without old bytes. -/
def configure (device speed : Nat) (flow : FlowControl) : SystemCall W Unit :=
  SystemCall.andThen (TerminalSystem.readSettings device) fun settings =>
  SystemCall.andThen (TerminalSystem.writeSettings device
    ((settings.raw.withRtsCts flow.isEnabled).withSpeed speed)) fun _ =>
  SystemCall.andThen (TerminalSystem.discardQueued device) fun _ =>
  TerminalSystem.makeBlocking device

/-- Changes the speed of an open device. -/
def applySpeed (device speed : Nat) : SystemCall W Unit :=
  SystemCall.andThen (TerminalSystem.readSettings device) fun settings =>
  TerminalSystem.writeSettings device (settings.withSpeed speed)

/-- Writes a block; an empty one is written without a call. -/
def writeBlock (device : Nat) : List UInt8 → SystemCall W Unit
  | [] => fun system => (.ok (), system)
  | block => TerminalSystem.write device block

/-- Gives up a device that was opened in vain. -/
def abandon (line : TerminalLine W) (device : Nat) (system : W) (error : LineError) :
    Step (TerminalLine W) (Except LineError Unit) where
  state := { line with system := TerminalSystem.closeDevice device system }
  value := .error error

/-- Opens the configured device and makes it a line; an open one is closed after that. -/
def openLine (line : TerminalLine W) : Step (TerminalLine W) (Except LineError Unit) :=
  match line.config.device with
  | none => { state := line, value := .error .missingDevice }
  | some path =>
    match TerminalSystem.openDevice path line.system with
    | (.error cause, system) =>
      { state := { line with system }, value := .error (.openFailed path cause) }
    | (.ok device, system) =>
      match speedConstant? line.config.baudrate with
      | none => line.abandon device system (.unsupportedBaudrate line.config.baudrate)
      | some speed =>
        match configure device speed line.config.flowControl system with
        | (.error cause, system) => line.abandon device system (.io cause)
        | (.ok (), system) =>
          let closed := match line.device with
            | none => system
            | some old => TerminalSystem.closeDevice old system
          { state := { line.dropRequests with system := closed, device := some device }
            value := .ok ()
            records := [⟨.info, .terminalLine, "opened serial device", [
              ("device", .text (Quoted.render path)),
              ("baudrate", .number line.config.baudrate),
              ("flow_control", .text line.config.flowControl.name)]⟩] }

/-- Closes the device, if one is open, and drops the pending requests. -/
def close (line : TerminalLine W) : Step (TerminalLine W) (Except LineError Unit) :=
  match line.device with
  | none => { state := line.dropRequests, value := .ok () }
  | some device =>
    { state := { line.dropRequests with
        system := TerminalSystem.closeDevice device line.system
        device := none }
      value := .ok ()
      records := [⟨.debug, .terminalLine, "closed serial device",
        [("device", .text (Quoted.renderOption line.config.device))]⟩] }

/-- Changes the speed: of the device first, if one is open, then in the configuration. -/
def setBaudrate (rate : Nat) (line : TerminalLine W) :
    Step (TerminalLine W) (Except LineError Unit) :=
  match speedConstant? rate with
  | none => { state := line, value := .error (.unsupportedBaudrate rate) }
  | some speed =>
    let stored := { line with config := { line.config with baudrate := rate } }
    match line.device with
    | none => { state := stored, value := .ok () }
    | some device =>
      match applySpeed device speed line.system with
      | (.error cause, system) => { state := { line with system }, value := .error (.io cause) }
      | (.ok (), system) => { state := { stored with system }, value := .ok () }

/-- Hands the collected block over if it is full. -/
def deliver (line : TerminalLine W) (length : Nat) :
    Step (TerminalLine W) (Except LineError (Option Completion)) :=
  if line.collected.length < length then { state := line, value := .ok none }
  else
    { state := { line with pendingRead := none, collected := [] }
      value := .ok (some (.received line.collected)) }

/-- Waits for input and collects what one read gives. -/
def collect (line : TerminalLine W) (device length : Nat) :
    Step (TerminalLine W) (Except LineError (Option Completion)) :=
  match TerminalSystem.waitReadable device (min line.pollTimeout longestWait) line.system with
  | (.error cause, system) =>
    if cause.kind = .interrupted then { state := { line with system }, value := .ok none }
    else { state := { line with system }, value := .error (.io cause) }
  | (.ok .timedOut, system) => { state := { line with system }, value := .ok none }
  | (.ok .hungUp, system) => { state := { line with system }, value := .error .closed }
  | (.ok .readable, system) =>
    match TerminalSystem.read device (length - line.collected.length) system with
    | (.error cause, system) =>
      if cause.kind = .interrupted ∨ cause.kind = .wouldBlock then
        { state := { line with system }, value := .ok none }
      else { state := { line with system }, value := .error (.io cause) }
    | (.ok [], system) => { state := { line with system }, value := .error .closed }
    | (.ok bytes, system) =>
      deliver { line with system, collected := line.collected ++ bytes } length

/-- Reports a completion: a pending send is written first, else the receive request goes on. -/
def poll (line : TerminalLine W) :
    Step (TerminalLine W) (Except LineError (Option Completion)) :=
  match line.device with
  | none => { state := line, value := .ok none }
  | some device =>
    match line.pendingSend with
    | some block =>
      match writeBlock device block line.system with
      | (.error cause, system) =>
        { state := { line with system, pendingSend := none }, value := .error (.io cause) }
      | (.ok (), system) =>
        { state := { line with system, pendingSend := none }, value := .ok (some .sent) }
    | none =>
      match line.pendingRead with
      | none => { state := line, value := .ok none }
      | some length =>
        if line.collected.length < length then line.collect device length
        else line.deliver length

/-- A new receive request forgets what was collected for the old one. -/
def receive (length : Nat) (line : TerminalLine W) : Step (TerminalLine W) Unit where
  state := { line with pendingRead := some length, collected := [] }
  value := ()

/-- A new block replaces one that has not been written. -/
def send (block : List UInt8) (line : TerminalLine W) : Step (TerminalLine W) Unit where
  state := { line with pendingSend := some block }
  value := ()

instance : SerialLine (TerminalLine W) where
  init config line := { line with config }
  openLine := openLine
  close := close
  setBaudrate := setBaudrate
  receive := receive
  send := send
  poll := poll

end TerminalLine

end HciSerial
