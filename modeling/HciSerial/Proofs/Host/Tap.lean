import HciSerial.Host.Simulated

/-!
# Reads of a terminal system

What a program may rely on when it reads from a terminal device, and a record of all that
it has read.

## Main Definitions

* `ReadsAtMost`: a read gives at most as many bytes as it is asked for.
* `Tapped`: a system together with the bytes that have been read from it.

## Main Results

* `SimulatedHost.readsAtMost`, `Tapped.readsAtMost`: systems that keep to it.

## Design Notes

A tapped system makes every call on the system inside and passes the result on; the
record is only written.
-/

namespace HciSerial

/-- A read gives at most as many bytes as it is asked for. -/
def ReadsAtMost (W : Type) [TerminalSystem W] : Prop :=
  ∀ (device count : Nat) (system : W) (bytes : List UInt8),
    (TerminalSystem.read device count system).1 = .ok bytes → bytes.length ≤ count

/-- A simulated host reads a beginning of the bytes that wait. -/
theorem SimulatedHost.readsAtMost : ReadsAtMost SimulatedHost := by
  intro device count host bytes gained
  change (onTerminal device _ host).1 = .ok bytes at gained
  rcases onTerminal_cases device host with ⟨_, _, made⟩ | ⟨_, failed⟩
  · rw [made] at gained
    cases gained
    exact List.length_take_le _ _
  · rw [failed] at gained
    cases gained

/-- The bytes that a call has given; none if it has failed. -/
def SystemCall.gained {ε : Type} : Except ε (List UInt8) → List UInt8
  | .ok bytes => bytes
  | .error _ => []

/-- A system together with the bytes that have been read from it. -/
structure Tapped (W : Type) where
  system : W
  /-- The bytes of all reads that succeeded, in order. -/
  taken : List UInt8 := []

namespace Tapped

variable {W α : Type}

/-- Makes a call on the system inside. -/
def pass (call : SystemCall W α) : SystemCall (Tapped W) α := fun tapped =>
  ((call tapped.system).1, { tapped with system := (call tapped.system).2 })

/-- Makes a call on the system inside and records the bytes that it gives. -/
def record {ε : Type} (call : W → Except ε (List UInt8) × W) :
    Tapped W → Except ε (List UInt8) × Tapped W := fun tapped =>
  ((call tapped.system).1, {
    system := (call tapped.system).2
    taken := tapped.taken ++ SystemCall.gained (call tapped.system).1 })

instance [TerminalSystem W] : TerminalSystem (Tapped W) where
  openDevice path := pass (TerminalSystem.openDevice path)
  readSettings device := pass (TerminalSystem.readSettings device)
  writeSettings device settings := pass (TerminalSystem.writeSettings device settings)
  discardQueued device := pass (TerminalSystem.discardQueued device)
  makeBlocking device := pass (TerminalSystem.makeBlocking device)
  waitReadable device milliseconds := pass (TerminalSystem.waitReadable device milliseconds)
  read device count := record (TerminalSystem.read device count)
  write device bytes := pass (TerminalSystem.write device bytes)
  closeDevice device tapped :=
    { tapped with system := TerminalSystem.closeDevice device tapped.system }

/-- Tapping a system does not change how much a read gives. -/
theorem readsAtMost [TerminalSystem W] (bounded : ReadsAtMost W) : ReadsAtMost (Tapped W) :=
  fun device count tapped bytes gained => bounded device count tapped.system bytes gained

end Tapped

end HciSerial
