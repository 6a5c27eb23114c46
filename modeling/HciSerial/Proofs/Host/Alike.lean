import HciSerial.Host.Simulated

/-!
# Systems that a device cannot tell apart

Whoever holds an open device sees of the system what the calls on that device give.  Two
systems on which all such calls give the same, now and later, are alike for the holder, however
they differ elsewhere.

## Main Definitions

* `Agrees`: a call gives the same on related systems.
* `Indistinct`: a relation of systems that no call on a device tells apart.
* `Alike`: systems that no calls on a device tell apart.
* `Steady`: what a program may take for granted of the calls that open and set up a device.

## Main Results

* `Agrees.andThen`: calls one after the other.
* `indistinct_alike`: systems that are alike stay so.
* `SimulatedHost.steady`: a simulated host is steady.
-/

namespace HciSerial

variable {W α β : Type}

/-- A call gives the same on related systems, and leaves them related. -/
def Agrees (related : W → W → Prop) (call : W → α × W) : Prop :=
  ∀ left right, related left right → ∃ result leftAfter rightAfter,
    call left = (result, leftAfter) ∧ call right = (result, rightAfter) ∧
      related leftAfter rightAfter

/-- Calls one after the other give the same on related systems if each of them does. -/
theorem Agrees.andThen {related : W → W → Prop} {first : SystemCall W α}
    {next : α → SystemCall W β} (agrees : Agrees related first)
    (goesOn : ∀ value, Agrees related (next value)) :
    Agrees related (SystemCall.andThen first next) := by
  intro left right start
  obtain ⟨result, leftAfter, rightAfter, onLeft, onRight, after⟩ := agrees left right start
  unfold SystemCall.andThen
  rw [onLeft, onRight]
  cases result with
  | error cause => exact ⟨_, _, _, rfl, rfl, after⟩
  | ok value => exact goesOn value leftAfter rightAfter after

variable [TerminalSystem W]

/-- A relation of systems that no call on a device tells apart. -/
structure Indistinct (device : Nat) (related : W → W → Prop) : Prop where
  readSettings : Agrees related (TerminalSystem.readSettings device)
  writeSettings (settings : TerminalSettings) :
    Agrees related (TerminalSystem.writeSettings device settings)
  discardQueued : Agrees related (TerminalSystem.discardQueued device)
  makeBlocking : Agrees related (TerminalSystem.makeBlocking device)
  waitReadable (milliseconds : Nat) :
    Agrees related (TerminalSystem.waitReadable device milliseconds)
  read (count : Nat) : Agrees related (TerminalSystem.read device count)
  write (bytes : List UInt8) : Agrees related (TerminalSystem.write device bytes)

/-- No calls on a device, one after the other, tell two systems apart. -/
def Alike (device : Nat) (left right : W) : Prop :=
  ∃ related, Indistinct device related ∧ related left right

theorem Alike.refl (device : Nat) (system : W) : Alike device system system := by
  have agrees {α : Type} (call : W → α × W) : Agrees Eq call := by
    rintro left _ rfl
    exact ⟨_, _, _, rfl, rfl, rfl⟩
  exact ⟨Eq, ⟨agrees _, fun _ => agrees _, agrees _, agrees _, fun _ => agrees _,
    fun _ => agrees _, fun _ => agrees _⟩, rfl⟩

/-- A call that gives the same in every relation that no call tells apart gives the same on
systems that are alike. -/
theorem Agrees.alike {device : Nat} {call : W → α × W}
    (agrees : ∀ related, Indistinct device related → Agrees related call) :
    Agrees (Alike device) call := by
  rintro left right ⟨related, indistinct, start⟩
  obtain ⟨result, leftAfter, rightAfter, onLeft, onRight, after⟩ :=
    agrees related indistinct left right start
  exact ⟨result, leftAfter, rightAfter, onLeft, onRight, related, indistinct, after⟩

/-- Systems that are alike stay so. -/
theorem indistinct_alike (device : Nat) : Indistinct device (Alike (W := W) device) where
  readSettings := .alike fun _ indistinct => indistinct.readSettings
  writeSettings settings := .alike fun _ indistinct => indistinct.writeSettings settings
  discardQueued := .alike fun _ indistinct => indistinct.discardQueued
  makeBlocking := .alike fun _ indistinct => indistinct.makeBlocking
  waitReadable milliseconds := .alike fun _ indistinct => indistinct.waitReadable milliseconds
  read count := .alike fun _ indistinct => indistinct.read count
  write bytes := .alike fun _ indistinct => indistinct.write bytes

/-! ## Steady systems -/

/-- What a program may take for granted of the calls that open and set up a device. -/
structure Steady (W : Type) [TerminalSystem W] : Prop where
  /-- An opening that fails changes nothing. -/
  unopened {path : String} {system changed : W} {cause : IoError}
    (failed : TerminalSystem.openDevice path system = (.error cause, changed)) : changed = system
  /-- Looking at the settings changes nothing. -/
  inspected (device : Nat) (system : W) :
    (TerminalSystem.readSettings device system).2 = system
  /-- Settings that cannot be written change nothing. -/
  unwritten {device : Nat} {settings : TerminalSettings} {system changed : W} {cause : IoError}
    (failed : TerminalSystem.writeSettings device settings system = (.error cause, changed)) :
    changed = system
  /-- Settings that have been written are read. -/
  written {device : Nat} {settings : TerminalSettings} {system changed : W}
    (done : TerminalSystem.writeSettings device settings system = (.ok (), changed)) :
    (TerminalSystem.readSettings device changed).1 = .ok settings
  /-- Discarding bytes keeps the settings. -/
  discarded (device : Nat) (system : W) :
    (TerminalSystem.readSettings device (TerminalSystem.discardQueued device system).2).1 =
      (TerminalSystem.readSettings device system).1
  /-- Letting calls wait keeps the settings. -/
  blocking (device : Nat) (system : W) :
    (TerminalSystem.readSettings device (TerminalSystem.makeBlocking device system).2).1 =
      (TerminalSystem.readSettings device system).1
  /-- Who holds a device does not notice that one is opened and closed again. -/
  reclosed {path : String} {device : Nat} {system changed : W}
    (opened : TerminalSystem.openDevice path system = (.ok device, changed)) (held : Nat) :
    Alike held system (TerminalSystem.closeDevice device changed)

namespace SimulatedHost

theorem openDevice_snd (path : String) (host : SimulatedHost) :
    (openDevice path host).2 = host := by
  unfold openDevice
  split <;> rfl

/-- A simulated host is steady. -/
theorem steady : Steady SimulatedHost where
  unopened {path system changed _} failed := by
    have same := system.openDevice_snd path
    rwa [show openDevice path system = _ from failed] at same
  inspected device host := by
    show (onTerminal device _ host).2 = host
    rcases onTerminal_cases device host with ⟨_, _, made⟩ | ⟨_, failed⟩
    · rw [made]
    · rw [failed]
  unwritten {device settings host _ _} failed := by
    change onTerminal device _ host = _ at failed
    rcases onTerminal_cases device host with ⟨_, _, made⟩ | ⟨_, fails⟩
    · rw [made] at failed
      cases failed
    · rw [fails] at failed
      cases failed
      rfl
  written {device settings host _} done := by
    change onTerminal device _ host = _ at done
    rcases onTerminal_cases device host with ⟨terminal, ⟨_, rfl, up⟩, made⟩ | ⟨_, fails⟩
    · rw [made] at done
      cases done
      show (onTerminal terminalDevice _ _).1 = _
      simp [onTerminal, up]
    · rw [fails] at done
      cases done
  discarded device host := by
    show (onTerminal device _ (onTerminal device _ host).2).1 = (onTerminal device _ host).1
    rcases onTerminal_cases device host with ⟨terminal, ⟨_, rfl, up⟩, made⟩ | ⟨_, fails⟩
    · rw [made, made]
      simp [onTerminal, up]
    · rw [fails]
  blocking _ _ := rfl
  reclosed {path _ system changed} opened held := by
    have same := system.openDevice_snd path
    rw [show openDevice path system = _ from opened] at same
    exact same ▸ Alike.refl held system

end SimulatedHost

end HciSerial
