import HciSerial.Proofs.Transport.Polling
import HciSerial.Proofs.Transport.Requests
import HciSerial.Proofs.Transport.Transcript

/-!
# The speed at which a session begins

A transport and its line both hold a configuration.  Configuring the transport writes both, and
changing the speed writes that of the line only, so the two disagree from then on; an opening
writes neither.

## Main Definitions

* `Tuning`: the last accepted configuration, and the speeds that have been set since.
* `Transport.tuning?`: the tuning that a run leaves.
* `Transport.Tuned`: what transport and line hold under a tuning.

## Main Results

* `Transport.settings_perform`: no other action touches a configuration.
* `Transport.Tuned.perform`: every action keeps transport and line tuned.
* `Transport.rate_of_openLine`: the speed after a successful opening.
-/

namespace HciSerial

/-- What has been said about the speed of a line. -/
structure Tuning where
  /-- The last accepted configuration. -/
  setup : SerialSetup
  /-- The speeds that have been set since, oldest first. -/
  changes : List Nat := []
deriving DecidableEq

namespace Tuning

/-- The speed in force: the last one that was set, else that of the configuration. -/
def rate (tuning : Tuning) : Nat :=
  tuning.changes.getLast?.getD tuning.setup.initialBaudrate

/-- What a line is configured with. -/
def lineConfig (tuning : Tuning) : LineConfig :=
  { tuning.setup.lineConfig with baudrate := tuning.rate }

/-- The tuning after one more change. -/
def change (rate : Nat) (tuning : Tuning) : Tuning :=
  { tuning with changes := tuning.changes ++ [rate] }

@[simp] theorem rate_change (rate : Nat) (tuning : Tuning) : (tuning.change rate).rate = rate := by
  rw [change, Tuning.rate, List.getLast?_concat]
  rfl

/-- The configured speed is in force exactly if the last change, if any, was back to it. -/
theorem rate_eq_initial_iff (tuning : Tuning) :
    tuning.rate = tuning.setup.initialBaudrate ↔
      ∀ last ∈ tuning.changes.getLast?, last = tuning.setup.initialBaudrate := by
  rw [rate]
  cases tuning.changes.getLast? with
  | none => simp
  | some last => simp

end Tuning

/-- What an action that was answered so makes of a tuning. -/
def Action.tune {C : Type} : Action C → Answer → Option Tuning → Option Tuning
  | host (.init (.serial setup)), .done, _ => some { setup }
  | host (.setBaudrate rate), .done, tuning => tuning.map (.change rate)
  | _, _, tuning => tuning

/-- Whether an action writes a configuration. -/
def Action.configures {C : Type} : Action C → Bool
  | host (.init (.serial _)) | host (.setBaudrate _) => true
  | _ => false

/-- An action that writes no configuration leaves the tuning as it is. -/
theorem Action.tune_of_not_configures {C : Type} {action : Action C}
    (aside : action.configures = false) (answer : Answer) (tuning : Option Tuning) :
    action.tune answer tuning = tuning := by
  unfold Action.tune
  split
  case h_1 | h_2 => cases aside
  case h_3 => rfl

namespace Transport

/-- The tuning that a run leaves, if the transport was ever configured. -/
def tuning? {L C : Type} [FiniteLine L] [Controllable L C] (past : List (Occurrence L C)) :
    Option Tuning :=
  past.foldl (fun tuning occurrence => occurrence.action.tune occurrence.answer tuning) none

/-- The configurations of a transport and of its line. -/
def settings (transport : Transport MemoryLine) : Option LineConfig × LineConfig :=
  (transport.config, transport.line.config)

/-! ## Actions that write no configuration -/

theorem settings_poll (transport : Transport MemoryLine) :
    transport.poll.state.settings = transport.settings := by
  have cases := polled transport
  generalize transport.poll = report at cases ⊢
  cases cases <;> rfl

theorem settings_drain (transport : Transport MemoryLine) :
    transport.drain.state.settings = transport.settings :=
  drainWithin_invariant (motive := fun _ next => next.settings = transport.settings) _ 0 rfl
    fun _ middle before => (settings_poll middle).trans before

theorem settings_openLine (transport : Transport MemoryLine) :
    transport.openLine.state.settings = transport.settings := by
  have cases := opened transport
  generalize transport.openLine = report at cases ⊢
  cases cases <;> rfl

theorem settings_send (kind : PacketKind) (packet : OutgoingPacket)
    (transport : Transport MemoryLine) :
    (transport.send kind packet).state.settings = transport.settings := by
  have cases := sent kind packet transport
  generalize transport.send kind packet = report at cases ⊢
  cases cases <;> rfl

/-- Only configuring a serial line and changing its speed write a configuration. -/
theorem settings_perform (transport : Transport MemoryLine) {action : Action MemoryLine.Control}
    (aside : action.configures = false) :
    (transport.perform action).state.settings = transport.settings := by
  rcases action with operation | control
  · cases operation with
    | init config =>
      cases config with
      | serial => cases aside
      | usb => rfl
    | setBaudrate => cases aside
    | openLine => exact settings_openLine transport
    | send kind packet => exact settings_send kind packet transport
    | poll => exact settings_poll transport
    | drain => exact settings_drain transport
    | complete completion => cases completion <;> rfl
    | close | register => rfl
  · cases control with
    | completeSend =>
      show (transport.config, (transport.line.control .completeSend).config) = _
      rw [MemoryLine.control]
      split <;> rfl
    | inject | completeSends | failOpen | failPoll => rfl

/-! ## Tuned transports -/

/-- A transport holds the configuration that it was given, and its line the same one at the
speed in force. -/
structure Tuned (tuning : Option Tuning) (transport : Transport MemoryLine) : Prop where
  configured : transport.config = tuning.map fun told => told.setup.lineConfig
  running : ∀ told ∈ tuning, transport.line.config = told.lineConfig

namespace Tuned

variable {tuning : Option Tuning} {transport : Transport MemoryLine}

theorem of_settings (tuned : transport.Tuned tuning) {next : Transport MemoryLine}
    (same : next.settings = transport.settings) : next.Tuned tuning := by
  obtain ⟨config, line⟩ := Prod.ext_iff.mp same
  exact ⟨config.trans tuned.configured, fun told member => line.trans (tuned.running told member)⟩

/-- A configuration starts anew, whatever was set before. -/
theorem init (setup : SerialSetup) (transport : Transport MemoryLine) :
    (transport.init (.serial setup)).state.Tuned (some { setup }) where
  configured := rfl
  running := by
    intro told known
    obtain rfl : { setup } = told := Option.some.inj known
    rfl

/-- A change of the speed is for the line only. -/
theorem setBaudrate (tuned : transport.Tuned tuning) (rate : Nat) :
    (transport.setBaudrate rate).state.Tuned (tuning.map (.change rate)) where
  configured := by
    show transport.config = _
    rw [tuned.configured, Option.map_map]
    rfl
  running := by
    rintro changed member
    obtain ⟨told, known, rfl⟩ := Option.mem_map.mp member
    show { transport.line.config with baudrate := rate } = _
    rw [tuned.running told known, Tuning.lineConfig, Tuning.lineConfig, Tuning.rate_change]
    rfl

/-- Every action keeps transport and line tuned. -/
theorem perform (tuned : transport.Tuned tuning) (action : Action MemoryLine.Control) :
    (transport.perform action).state.Tuned
      (action.tune (transport.perform action).value tuning) := by
  cases writes : action.configures with
  | false =>
    rw [Action.tune_of_not_configures writes]
    exact tuned.of_settings (settings_perform transport writes)
  | true =>
    rcases action with operation | control
    · cases operation with
      | init config =>
        cases config with
        | serial setup => exact init setup transport
        | usb => cases writes
      | setBaudrate rate => exact tuned.setBaudrate rate
      | openLine | close | register | send | poll | drain | complete => cases writes
    · cases writes

end Tuned

/-! ## A whole run -/

/-- Every run leaves transport and line tuned to what it has said. -/
theorem tuned_after (buffer : ReceiveBuffer) (actions : List (Action MemoryLine.Control)) :
    ((new ({} : MemoryLine) buffer).after actions).Tuned
      (tuning? ((new ({} : MemoryLine) buffer).transcript actions)) := by
  refine transcript_invariant (fun past now => now.Tuned (tuning? past)) (fun _ => True)
    (fun _ _ => trivial) ⟨rfl, nofun⟩ ?_
  intro past now action tuned _
  rw [tuning?, List.foldl_concat]
  exact tuned.perform action

/-- A session begins at the last speed that was set since the last accepted configuration,
whether the line was open or closed at the time, and at the configured speed if none was.

So transport and line agree on the speed exactly if nothing was set since then, or the
configured speed was set last. -/
theorem rate_of_openLine (buffer : ReceiveBuffer) {actions : List (Action MemoryLine.Control)}
    (success : ((new ({} : MemoryLine) buffer).after actions).openLine.value = .ok ()) :
    let past := (new ({} : MemoryLine) buffer).transcript actions
    let opened := ((new ({} : MemoryLine) buffer).after actions).openLine.state
    ∃ told, tuning? past = some told ∧
      opened.config = some told.setup.lineConfig ∧
      opened.line.config = { told.setup.lineConfig with baudrate := told.rate } ∧
      (opened.config = some opened.line.config ↔
        ∀ last ∈ told.changes.getLast?, last = told.setup.initialBaudrate) := by
  intro past opened
  have tuned : opened.Tuned (tuning? past) :=
    (tuned_after buffer actions).of_settings (settings_openLine _)
  have configured : opened.config ≠ none := by
    have cases := Transport.opened ((new ({} : MemoryLine) buffer).after actions)
    show ((new ({} : MemoryLine) buffer).after actions).openLine.state.config ≠ none
    generalize ((new ({} : MemoryLine) buffer).after actions).openLine = report at cases success ⊢
    cases cases with
    | unconfigured | refused => cases success
    | opened configured => exact configured
  obtain ⟨config, line⟩ := tuned
  cases known : tuning? past with
  | none =>
    rw [known] at config
    exact absurd config configured
  | some told =>
    rw [known] at config
    have running : opened.line.config = told.lineConfig := line told known
    refine ⟨told, rfl, config, running, ?_⟩
    rw [config, running, ← told.rate_eq_initial_iff, Option.map_some, Option.some_inj]
    constructor
    · exact fun same => (congrArg LineConfig.baudrate same).symm
    · intro same
      rw [Tuning.lineConfig, same]
      rfl

/-- A run that changes the speed of a session and configures the transport again. -/
def changedThenConfigured : List (Action MemoryLine.Control) :=
  [.host (.init (.serial {})), .host .openLine, .host (.setBaudrate 921600), .host .close,
    .host (.init (.serial { initialBaudrate := 57600 }))]

/-- A new configuration is what the next session begins with. -/
theorem rate_changedThenConfigured :
    let now := (new ({} : MemoryLine) .default).after changedThenConfigured
    now.openLine.value = .ok () ∧
      now.openLine.state.config = some now.openLine.state.line.config := by
  intro now
  have success : now.openLine.value = .ok () := rfl
  obtain ⟨told, known, _, _, agree⟩ := rate_of_openLine .default success
  refine ⟨success, agree.mpr ?_⟩
  have same : told = { setup := { initialBaudrate := 57600 } } := (Option.some.inj known).symm
  rw [same]
  nofun

/-- A run that changes the speed of a session and closes it. -/
def changedThenClosed : List (Action MemoryLine.Control) :=
  [.host (.init (.serial {})), .host .openLine, .host (.setBaudrate 921600), .host .close]

/-- The next session begins at the changed speed, which is not the configured one. -/
theorem rate_changedThenClosed :
    let now := (new ({} : MemoryLine) .default).after changedThenClosed
    now.openLine.value = .ok () ∧
      now.openLine.state.config.map LineConfig.baudrate = some 115200 ∧
      now.openLine.state.line.config.baudrate = 921600 ∧
      now.openLine.state.config.map LineConfig.baudrate ≠
        some now.openLine.state.line.config.baudrate :=
  ⟨rfl, rfl, rfl, by decide +kernel⟩

end Transport

end HciSerial
