import HciSerial.Host.Basic
import HciSerial.Proofs.Host.Tap

/-!
# Views of a host

A view shows one host as another, for example without the records that someone keeps of it.
If every call on the one is the same call on the other, then so is every program that is made
of calls.

## Main Definitions

* `Mirrors`: a call does the same on a view of the system.
* `TerminalView`, `HostView`: every call of a terminal system and of a host does.
* `SettingsView`, `QuietView`: the calls that set up a device and close it do, and those that
  read from it too.
* The instance `Host (Tapped W)`.

## Main Results

* `Mirrors.andThen`: calls one after the other.
* `Tapped.hostView`: a tap changes nothing.
-/

namespace HciSerial

/-- A call gives the same on the view of a system, and leaves the view of what it leaves. -/
def Mirrors {V W α : Type} (view : V → W) (call : V → α × V) (mirrored : W → α × W) : Prop :=
  ∀ system, mirrored (view system) = Prod.map id view (call system)

namespace Mirrors

variable {V W α β : Type} {view : V → W}

/-- Calls one after the other do the same on a view of the system if each of them does. -/
theorem andThen {first : SystemCall V α} {firstMirrored : SystemCall W α}
    {next : α → SystemCall V β} {nextMirrored : α → SystemCall W β}
    (mirrors : Mirrors view first firstMirrored)
    (goesOn : ∀ value, Mirrors view (next value) (nextMirrored value)) :
    Mirrors view (SystemCall.andThen first next)
      (SystemCall.andThen firstMirrored nextMirrored) := by
  intro system
  have same := mirrors system
  unfold SystemCall.andThen
  rw [same]
  generalize first system = result
  obtain ⟨cause | value, changed⟩ := result
  · rfl
  · exact goesOn value changed

end Mirrors

/-- A view of a terminal system on which the calls that set up a device and close it do the
same. -/
structure SettingsView {V W : Type} [TerminalSystem V] [TerminalSystem W] (view : V → W) :
    Prop where
  readSettings (device : Nat) :
    Mirrors view (TerminalSystem.readSettings device) (TerminalSystem.readSettings device)
  writeSettings (device : Nat) (settings : TerminalSettings) :
    Mirrors view (TerminalSystem.writeSettings device settings)
      (TerminalSystem.writeSettings device settings)
  discardQueued (device : Nat) :
    Mirrors view (TerminalSystem.discardQueued device) (TerminalSystem.discardQueued device)
  makeBlocking (device : Nat) :
    Mirrors view (TerminalSystem.makeBlocking device) (TerminalSystem.makeBlocking device)
  closeDevice (device : Nat) (system : V) :
    TerminalSystem.closeDevice device (view system) =
      view (TerminalSystem.closeDevice device system)

/-- A view of a terminal system on which every call does the same, except perhaps opening a
device and writing to it. -/
structure QuietView {V W : Type} [TerminalSystem V] [TerminalSystem W] (view : V → W) : Prop
    extends SettingsView view where
  waitReadable (device milliseconds : Nat) :
    Mirrors view (TerminalSystem.waitReadable device milliseconds)
      (TerminalSystem.waitReadable device milliseconds)
  read (device count : Nat) :
    Mirrors view (TerminalSystem.read device count) (TerminalSystem.read device count)

/-- A view of a terminal system on which every call does the same. -/
structure TerminalView {V W : Type} [TerminalSystem V] [TerminalSystem W] (view : V → W) : Prop
    extends QuietView view where
  openDevice (path : String) :
    Mirrors view (TerminalSystem.openDevice path) (TerminalSystem.openDevice path)
  write (device : Nat) (bytes : List UInt8) :
    Mirrors view (TerminalSystem.write device bytes) (TerminalSystem.write device bytes)

/-- A view of a host on which every call does the same. -/
structure HostView {V W : Type} [Host V] [Host W] (view : V → W) : Prop
    extends TerminalView view where
  readFile (path : String) : Mirrors view (Host.readFile path) (Host.readFile path)
  now : Mirrors view Host.now Host.now
  print (text : String) (system : V) : Host.print text (view system) = view (Host.print text system)
  report (record : Log.Record) (system : V) :
    Host.report record (view system) = view (Host.report record system)
  interrupted : Mirrors view Host.interrupted Host.interrupted

/-! ## Tapped hosts -/

namespace Tapped

variable {W : Type}

/-- What has been read stays as it is while a device is set up and closed. -/
theorem settingsView [TerminalSystem W] (taken : List UInt8) :
    SettingsView fun system : W => Tapped.mk system taken where
  readSettings _ _ := rfl
  writeSettings _ _ _ := rfl
  discardQueued _ _ := rfl
  makeBlocking _ _ := rfl
  closeDevice _ _ := rfl

variable [Host W]

instance : Host (Tapped W) where
  readFile path := pass (Host.readFile path)
  now tapped := ((Host.now tapped.system).1, { tapped with system := (Host.now tapped.system).2 })
  print text tapped := { tapped with system := Host.print text tapped.system }
  report record tapped := { tapped with system := Host.report record tapped.system }
  interrupted tapped :=
    ((Host.interrupted tapped.system).1,
      { tapped with system := (Host.interrupted tapped.system).2 })

/-- A tap changes nothing: without its record, every call does the same. -/
theorem hostView : HostView (Tapped.system (W := W)) where
  openDevice _ _ := rfl
  readSettings _ _ := rfl
  writeSettings _ _ _ := rfl
  discardQueued _ _ := rfl
  makeBlocking _ _ := rfl
  waitReadable _ _ _ := rfl
  read _ _ _ := rfl
  write _ _ _ := rfl
  closeDevice _ _ := rfl
  readFile _ _ := rfl
  now _ := rfl
  print _ _ := rfl
  report _ _ := rfl
  interrupted _ := rfl

end Tapped

end HciSerial
