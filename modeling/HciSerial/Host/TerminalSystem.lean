import HciSerial.Host.IoError

/-!
# Terminal devices of an operating system

The system calls that a program needs to use a terminal device.

## Main Definitions

* `TerminalSettings`: speed, flow control and line discipline of a terminal.
* `SystemCall`: a call that succeeds or reports an error, and changes the system.
* `TerminalSystem`: the calls.

## Design Notes

The state `W` stands for everything outside the program, and an instance of
`TerminalSystem` for one behaviour of it: whatever happens outside, such as bytes that
arrive or a far end that goes away, is in the transitions of `W`.  A statement for
every `W` and every instance is a statement for every behaviour of the system.
-/

namespace HciSerial

/-- The settings of a terminal device. -/
structure TerminalSettings where
  /-- The speed constant for received bytes. -/
  inputSpeed : Nat
  /-- The speed constant for sent bytes. -/
  outputSpeed : Nat
  /-- Whether the line handshakes. -/
  rtsCts : Bool
  /-- Whether the device echoes or edits lines. -/
  cooked : Bool
  /-- The number of bytes that a read waits for. -/
  minBytes : Nat
  /-- The time after which a read gives up, in tenths of a second; zero for never. -/
  readTimeout : Nat
deriving DecidableEq

namespace TerminalSettings

/-- Bytes pass unchanged and a read waits for one of them. -/
def raw (settings : TerminalSettings) : TerminalSettings :=
  { settings with cooked := false, minBytes := 1, readTimeout := 0 }

/-- The same speed both ways. -/
def withSpeed (speed : Nat) (settings : TerminalSettings) : TerminalSettings :=
  { settings with inputSpeed := speed, outputSpeed := speed }

/-- Handshaking on or off. -/
def withRtsCts (enabled : Bool) (settings : TerminalSettings) : TerminalSettings :=
  { settings with rtsCts := enabled }

end TerminalSettings

/-- What a wait for input ends with. -/
inductive Readiness where
  /-- Nothing arrived in time. -/
  | timedOut
  /-- A read will not wait. -/
  | readable
  /-- The far end has gone and nothing is left to read. -/
  | hungUp
deriving DecidableEq

/-- A call that succeeds or reports an error, and may change the system either way. -/
abbrev SystemCall (W α : Type) := W → Except IoError α × W

namespace SystemCall

variable {W α β : Type}

/-- Goes on after a call that succeeded. -/
def andThen (first : SystemCall W α) (next : α → SystemCall W β) : SystemCall W β :=
  fun system =>
    match first system with
    | (.ok value, changed) => next value changed
    | (.error error, changed) => (.error error, changed)

end SystemCall

/-- The calls of an operating system on terminal devices; devices that are open are known
by a number. -/
class TerminalSystem (W : Type) where
  /-- Opens a device for reading and writing. -/
  openDevice : String → SystemCall W Nat
  /-- Reads the settings; a device that is no terminal has none. -/
  readSettings : Nat → SystemCall W TerminalSettings
  /-- Changes the settings at once. -/
  writeSettings : Nat → TerminalSettings → SystemCall W Unit
  /-- Discards bytes that wait in either direction. -/
  discardQueued : Nat → SystemCall W Unit
  /-- Lets calls on the device wait. -/
  makeBlocking : Nat → SystemCall W Unit
  /-- Waits for input for at most a number of milliseconds. -/
  waitReadable : Nat → Nat → SystemCall W Readiness
  /-- Reads at most a number of bytes. -/
  read : Nat → Nat → SystemCall W (List UInt8)
  /-- Writes all of a block. -/
  write : Nat → List UInt8 → SystemCall W Unit
  /-- Closes a device. -/
  closeDevice : Nat → W → W

end HciSerial
