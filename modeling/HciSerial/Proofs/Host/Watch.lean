import HciSerial.Proofs.Host.View

/-!
# Watching a host

What a program does to a host as far as it is seen from outside: the devices that it opens,
the blocks that it writes to them, and the texts that it prints.

## Main Definitions

* `Sight`: what has been seen.
* `Watched`: a host together with what has been seen of it.

## Main Results

* `Watched.hostView`: watching changes nothing.
* `Watched.quietView`: nothing is seen of most calls.

## Design Notes

Only calls that can be seen are recorded; all others are passed on.  A call is recorded with
its result, so an opening in vain or a block that was not written is seen too.
-/

namespace HciSerial

/-- What has been seen of a host, in order. -/
structure Sight where
  /-- The devices that were to be opened, and what came of it. -/
  opened : List (String × Except IoError Nat) := []
  /-- The blocks that were to be written, with their devices, and what came of it. -/
  written : List (Nat × List UInt8 × Except IoError Unit) := []
  /-- The texts that were printed. -/
  printed : List String := []

/-- A host together with what has been seen of it. -/
structure Watched (W : Type) where
  world : W
  sight : Sight := {}

namespace Watched

variable {W α : Type}

/-- Makes a call on the host inside and notes what is seen of it. -/
def note (call : W → α × W) (see : α → Sight → Sight) (watched : Watched W) : α × Watched W :=
  ((call watched.world).1, {
    world := (call watched.world).2
    sight := see (call watched.world).1 watched.sight })

/-- Makes a call on the host inside; nothing is seen of it. -/
def pass (call : W → α × W) : Watched W → α × Watched W :=
  note call fun _ sight => sight

instance [Host W] : Host (Watched W) where
  openDevice path := note (TerminalSystem.openDevice path) fun result sight =>
    { sight with opened := sight.opened ++ [(path, result)] }
  readSettings device := pass (TerminalSystem.readSettings device)
  writeSettings device settings := pass (TerminalSystem.writeSettings device settings)
  discardQueued device := pass (TerminalSystem.discardQueued device)
  makeBlocking device := pass (TerminalSystem.makeBlocking device)
  waitReadable device milliseconds := pass (TerminalSystem.waitReadable device milliseconds)
  read device count := pass (TerminalSystem.read device count)
  write device bytes := note (TerminalSystem.write device bytes) fun result sight =>
    { sight with written := sight.written ++ [(device, bytes, result)] }
  closeDevice device watched :=
    { watched with world := TerminalSystem.closeDevice device watched.world }
  readFile path := pass (Host.readFile path)
  now := pass Host.now
  print text watched := {
    world := Host.print text watched.world
    sight := { watched.sight with printed := watched.sight.printed ++ [text] } }
  report record watched := { watched with world := Host.report record watched.world }
  interrupted := pass Host.interrupted

variable [Host W]

/-- Watching changes nothing: without what has been seen, every call does the same. -/
theorem hostView : HostView (Watched.world (W := W)) where
  openDevice _ _ := rfl
  readSettings _ _ := rfl
  writeSettings _ _ _ := rfl
  discardQueued _ _ := rfl
  makeBlocking _ _ := rfl
  waitReadable _ _ _ := rfl
  read _ _ _ := rfl
  write _ _ _ := rfl
  closeDevice _ _ := rfl
  readFile _ _ := rfl
  now _ := rfl
  print _ _ := rfl
  report _ _ := rfl
  interrupted _ := rfl

theorem readsAtMost (bounded : ReadsAtMost W) : ReadsAtMost (Watched W) :=
  fun device count watched bytes gained => bounded device count watched.world bytes gained

/-- A host of which nothing has been seen and from which nothing has been read. -/
def unseen (world : W) : Tapped (Watched W) := ⟨⟨world, {}⟩, []⟩

/-- Nothing is seen of a call that neither opens a device nor writes to one. -/
theorem quietView (sight : Sight) :
    QuietView fun tapped : Tapped W => Tapped.mk (Watched.mk tapped.system sight) tapped.taken where
  readSettings _ _ := rfl
  writeSettings _ _ _ := rfl
  discardQueued _ _ := rfl
  makeBlocking _ _ := rfl
  waitReadable _ _ _ := rfl
  read _ _ _ := rfl
  closeDevice _ _ := rfl

end Watched

end HciSerial
