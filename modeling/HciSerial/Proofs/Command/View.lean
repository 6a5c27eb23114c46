import HciSerial.Command.Monitor
import HciSerial.Command.Send
import HciSerial.Proofs.Line.View

/-!
# Commands on a view of the host

A command is made of calls on its host.  So it does the same on every view of the host on
which the calls do.

## Main Definitions

* `Transport.mapSystem`, `Session.mapWorld`: transports and sessions on a view of the host.
* `Send.waitFrom`: the part of a sending that begins when the clock has been read.

## Main Results

* `Session.poll_mirrors`, `Session.send_mirrors`, `Session.close_mirrors`,
  `Session.start_mapWorld`: the operations of a session.
* `send_mirrors`: sending a packet.
* `monitor_mirrors`: monitoring a line.

## Design Notes

`Send.waitFrom` keeps the comparison with the end of the clock out of the statements about a
whole sending: a proof that computes with this number does not end.
-/

namespace HciSerial

variable {V W : Type} {view : V → W}

/-! ## Transports -/

namespace Transport

/-- The transport on a view of the system. -/
def mapSystem (view : V → W) (transport : Transport (TerminalLine V)) :
    Transport (TerminalLine W) :=
  ⟨transport.line.mapSystem view, transport.framer, transport.config, transport.mainBaudrate,
    transport.handler, transport.sendActive, transport.isOpen⟩

/-- What an operation leaves behind, on a view of the system. -/
def Report.mapSystem {α : Type} (view : V → W) (report : Report (TerminalLine V) α) :
    Report (TerminalLine W) α :=
  ⟨report.state.mapSystem view, report.value, report.events⟩

variable [TerminalSystem V] [TerminalSystem W]

theorem init_mapSystem (view : V → W) (config : TransportConfig)
    (transport : Transport (TerminalLine V)) :
    (transport.mapSystem view).init config = (transport.init config).mapSystem view := by
  cases config <;> rfl

theorem openLine_mapSystem (mirrors : TerminalView view)
    (transport : Transport (TerminalLine V)) :
    (transport.mapSystem view).openLine = transport.openLine.mapSystem view := by
  have line : SerialLine.openLine (transport.mapSystem view).line =
      (SerialLine.openLine transport.line).map (TerminalLine.mapSystem view) :=
    transport.line.openLine_mapSystem mirrors.toSettingsView mirrors.openDevice
  have configured : (transport.mapSystem view).config = transport.config := rfl
  unfold openLine
  rw [line, configured]
  generalize SerialLine.openLine transport.line = step
  obtain ⟨state, value, records⟩ := step
  split
  · rfl
  · cases value <;> rfl

theorem close_mapSystem (mirrors : TerminalView view) (transport : Transport (TerminalLine V)) :
    (transport.mapSystem view).close = transport.close.mapSystem view := by
  have line : SerialLine.close (transport.mapSystem view).line =
      (SerialLine.close transport.line).map (TerminalLine.mapSystem view) :=
    transport.line.close_mapSystem mirrors.toSettingsView
  unfold close
  rw [line]
  rfl

theorem send_mapSystem (view : V → W) (kind : PacketKind) (packet : OutgoingPacket)
    (transport : Transport (TerminalLine V)) :
    (transport.mapSystem view).send kind packet =
      (transport.send kind packet).mapSystem view := by
  obtain ⟨line, framer, config, rate, handler, sendActive, isOpen⟩ := transport
  cases isOpen <;> cases sendActive <;> rfl

theorem poll_mapSystem (mirrors : TerminalView view) (transport : Transport (TerminalLine V)) :
    (transport.mapSystem view).poll = transport.poll.mapSystem view := by
  have line : SerialLine.poll (transport.mapSystem view).line =
      (SerialLine.poll transport.line).map (TerminalLine.mapSystem view) :=
    transport.line.poll_mapSystem mirrors
  unfold poll
  rw [line]
  generalize SerialLine.poll transport.line = step
  obtain ⟨state, value, records⟩ := step
  rcases value with error | _ | _ | _ <;> rfl

end Transport

/-! ## Sessions -/

namespace Session

/-- The session on a view of the host. -/
def mapWorld (view : V → W) (session : Session V) : Session W :=
  ⟨session.transport.mapSystem view, session.queue⟩

variable [Host V] [Host W]

theorem report_mapWorld (mirrors : HostView view) (session : Session V) (record : Log.Record) :
    (session.mapWorld view).report record = (session.report record).mapWorld view := by
  have same : Host.report record (session.mapWorld view).world = _ :=
    mirrors.report record session.world
  unfold report
  rw [same]
  rfl

theorem reports_mapWorld (mirrors : HostView view) (records : List Log.Record)
    (session : Session V) :
    records.foldl Session.report (session.mapWorld view) =
      (records.foldl Session.report session).mapWorld view :=
  List.foldl_hom (mapWorld view) fun session record => session.report_mapWorld mirrors record

theorem print_mapWorld (mirrors : HostView view) (session : Session V) (text : String) :
    (session.mapWorld view).print text = (session.print text).mapWorld view := by
  have same : Host.print text (session.mapWorld view).world = _ :=
    mirrors.print text session.world
  unfold print
  rw [same]
  rfl

theorem now_mirrors (mirrors : HostView view) :
    Mirrors (mapWorld view) Session.now Session.now := by
  intro session
  have same : Host.now (session.mapWorld view).world = _ := mirrors.now session.world
  unfold now
  rw [same]
  rfl

theorem interrupted_mirrors (mirrors : HostView view) :
    Mirrors (mapWorld view) Session.interrupted Session.interrupted := by
  intro session
  have same : Host.interrupted (session.mapWorld view).world = _ :=
    mirrors.interrupted session.world
  unfold interrupted
  rw [same]
  rfl

/-- An operation of the transport that does the same on a view of the host is absorbed
alike. -/
theorem absorb_mirrors (mirrors : HostView view) {α : Type}
    {operation : Transport (TerminalLine V) → Transport.Report (TerminalLine V) α}
    {mirrored : Transport (TerminalLine W) → Transport.Report (TerminalLine W) α}
    (same : ∀ transport, mirrored (transport.mapSystem view) =
      (operation transport).mapSystem view) :
    Mirrors (mapWorld view) (fun session => session.absorb (operation session.transport))
      (fun session => session.absorb (mirrored session.transport)) := by
  intro session
  show (session.mapWorld view).absorb (mirrored (session.transport.mapSystem view)) = _
  rw [same]
  let report := operation session.transport
  exact congrArg (report.value, ·) (reports_mapWorld mirrors report.records
    ⟨report.state, session.queue ++ report.packets⟩)

/-- A poll does the same on a view of the host. -/
theorem poll_mirrors (mirrors : HostView view) :
    Mirrors (mapWorld view) Session.poll Session.poll :=
  absorb_mirrors mirrors (Transport.poll_mapSystem mirrors.toTerminalView)

/-- A request to send does the same on a view of the host. -/
theorem send_mirrors (mirrors : HostView view) (kind : PacketKind) (packet : OutgoingPacket) :
    Mirrors (mapWorld view) (Session.send kind packet) (Session.send kind packet) :=
  absorb_mirrors mirrors (Transport.send_mapSystem view kind packet)

/-- A closing does the same on a view of the host. -/
theorem close_mirrors (mirrors : HostView view) :
    Mirrors (mapWorld view) Session.close Session.close :=
  absorb_mirrors mirrors (Transport.close_mapSystem mirrors.toTerminalView)

theorem openLine_mirrors (mirrors : HostView view) :
    Mirrors (mapWorld view) Session.openLine Session.openLine :=
  absorb_mirrors mirrors (Transport.openLine_mapSystem mirrors.toTerminalView)

theorem finish_mapWorld (mirrors : HostView view) (session : Session V) :
    (session.mapWorld view).finish = Prod.map id view session.finish := by
  unfold finish
  rw [close_mirrors mirrors session]
  rfl

theorem configure_mirrors (mirrors : HostView view) (setup : SerialSetup) :
    Mirrors (mapWorld view) (configure setup) (configure setup) := by
  intro session
  have absorbed : (session.mapWorld view).absorb
        ((session.mapWorld view).transport.init (.serial setup)) = _ :=
    absorb_mirrors mirrors (Transport.init_mapSystem view (.serial setup)) session
  unfold configure
  rw [absorbed]
  rfl

/-- A session starts alike on a view of the host. -/
theorem start_mapWorld (mirrors : HostView view) (setup : SerialSetup) (world : V) :
    start setup (view world) = Prod.map id (mapWorld view) (start setup world) := by
  have configured : (new (view world)).configure setup = _ :=
    configure_mirrors mirrors setup (new world)
  unfold start
  rw [configured]
  generalize (new world).configure setup = result
  obtain ⟨error | _, session⟩ := result
  · rfl
  · simp only [Prod.map, id_eq, openLine_mirrors mirrors session]

end Session

/-! ## Sending a packet -/

variable [Host V] [Host W]

namespace Send

theorem acceptAll_mirrors (mirrors : HostView view) (format : ListingFormat)
    (packets : List Packet) (waiter : Waiter) :
    Mirrors (Session.mapWorld view) (acceptAll format packets waiter)
      (acceptAll format packets waiter) := by
  intro session
  unfold acceptAll
  show packets.foldl _ (Prod.map id (Session.mapWorld view) (waiter, session)) = _
  refine List.foldl_hom (Prod.map id (Session.mapWorld view)) ?_
  rintro ⟨waiter, session⟩ packet
  simp only [Prod.map, id_eq]
  generalize waiter.accept packet = accepted
  obtain ⟨response, records, waiter⟩ := accepted
  have reported := Session.reports_mapWorld mirrors records session
  cases response with
  | none => exact congrArg (waiter, ·) reported
  | some packet =>
    refine congrArg (waiter, ·) ?_
    simp only [reported]
    exact Session.print_mapWorld mirrors _ _

theorem loop_mapWorld (mirrors : HostView view) (format : ListingFormat) (timeout : Duration)
    (deadline fuel : Nat) (waiter : Waiter) (session : Session V) :
    loop format timeout deadline fuel waiter (session.mapWorld view) =
      Prod.map id view (loop format timeout deadline fuel waiter session) := by
  induction fuel generalizing waiter session with
  | zero => rfl
  | succ fuel ih =>
    unfold loop
    rw [Session.poll_mirrors mirrors session]
    generalize session.poll = result
    obtain ⟨error | found, session⟩ := result
    · rfl
    · have queued : (session.mapWorld view).takeQueue =
          Prod.map id (Session.mapWorld view) session.takeQueue := rfl
      simp only [Prod.map, id_eq, queued]
      generalize session.takeQueue = result
      obtain ⟨packets, session⟩ := result
      simp only [acceptAll_mirrors mirrors format packets waiter session, Prod.map, id_eq]
      generalize acceptAll format packets waiter session = result
      obtain ⟨waiter, session⟩ := result
      cases done : waiter.isDone with
      | true =>
        simp only [if_true, Session.finish_mapWorld mirrors session, Prod.map, id_eq]
        generalize session.finish = result
        obtain ⟨failure | _, world⟩ := result <;> rfl
      | false =>
        simp only [Session.now_mirrors mirrors session, Prod.map, id_eq]
        generalize session.now = result
        obtain ⟨instant, session⟩ := result
        by_cases late : deadline ≤ instant
        · simp only [late, if_true, Session.close_mirrors mirrors session, Prod.map]
          rfl
        · simp only [late, if_false, ih]
          rfl

/-- Waits for what is awaited from an instant on. -/
def waitFrom (fuel : Nat) (waits : Bool) (format : ListingFormat) (timeout : Duration)
    (instant : Nat) (session : Session W) : Outcome × W :=
  if clockLimit ≤ instant + timeout.total then (.clockOverflow, session.world)
  else loop format timeout (instant + timeout.total) fuel { waits } session

theorem transmit_eq (fuel : Nat) (waits : Bool) (format : ListingFormat) (timeout : Duration)
    (packet : Packet) (session : Session W) :
    transmit fuel waits format timeout packet session =
      match session.send packet.kind (.ofPayload packet.data) with
      | (.error error, session) => (.failed (.ofTransport "send failed" error), session.world)
      | (.ok (), session) => waitFrom fuel waits format timeout session.now.1 session.now.2 := rfl

theorem waitFrom_mapWorld (mirrors : HostView view) (fuel : Nat) (waits : Bool)
    (format : ListingFormat) (timeout : Duration) (instant : Nat) (session : Session V) :
    waitFrom fuel waits format timeout instant (session.mapWorld view) =
      Prod.map id view (waitFrom fuel waits format timeout instant session) := by
  unfold waitFrom
  split
  · rfl
  · exact loop_mapWorld mirrors _ _ _ _ _ session

theorem transmit_mapWorld (mirrors : HostView view) (fuel : Nat) (waits : Bool)
    (format : ListingFormat) (timeout : Duration) (packet : Packet) (session : Session V) :
    transmit fuel waits format timeout packet (session.mapWorld view) =
      Prod.map id view (transmit fuel waits format timeout packet session) := by
  rw [transmit_eq, transmit_eq]
  rw [Session.send_mirrors mirrors packet.kind (.ofPayload packet.data) session]
  generalize session.send packet.kind (.ofPayload packet.data) = result
  obtain ⟨error | _, session⟩ := result
  · rfl
  · show waitFrom fuel waits format timeout (session.mapWorld view).now.1
        (session.mapWorld view).now.2 =
      Prod.map id view (waitFrom fuel waits format timeout session.now.1 session.now.2)
    rw [Session.now_mirrors mirrors session]
    exact waitFrom_mapWorld mirrors fuel waits format timeout _ _

end Send

/-- Sending a packet does the same on every view of the host on which all calls do. -/
theorem send_mirrors (mirrors : HostView view) (fuel : Nat) (choice : SendChoice)
    (format : ListingFormat) :
    Mirrors view (send fuel choice format) (send fuel choice format) := by
  intro world
  unfold send
  generalize Send.prepare choice = prepared
  rcases prepared with failure | ⟨timeout, packet⟩
  · rfl
  · simp only [Session.start_mapWorld mirrors, Prod.map, id_eq]
    generalize Session.start choice.line.setup world = result
    obtain ⟨failure | _, session⟩ := result
    · rfl
    · exact Send.transmit_mapWorld mirrors fuel choice.waits format timeout packet session

/-! ## Monitoring a line -/

namespace Monitor

theorem printAll_mapWorld (mirrors : HostView view) (format : ListingFormat)
    (packets : List Packet) (session : Session V) :
    printAll format packets (session.mapWorld view) =
      (printAll format packets session).mapWorld view :=
  List.foldl_hom (Session.mapWorld view) fun session packet =>
    session.print_mapWorld mirrors (listing format [packet])

theorem stop_mapWorld (mirrors : HostView view) (printed : Nat) (session : Session V) :
    stop printed (session.mapWorld view) = Prod.map id view (stop printed session) := by
  unfold stop
  simp only [Session.report_mapWorld mirrors, Session.finish_mapWorld mirrors, Prod.map, id_eq]
  generalize @Session.finish V _ _ = result
  obtain ⟨failure | _, world⟩ := result <;> rfl

theorem loop_mapWorld (mirrors : HostView view) (count : Option Nat) (format : ListingFormat)
    (fuel printed : Nat) (session : Session V) :
    loop count format fuel printed (session.mapWorld view) =
      Prod.map id view (loop count format fuel printed session) := by
  induction fuel generalizing printed session with
  | zero => rfl
  | succ fuel ih =>
    unfold loop
    rw [Session.interrupted_mirrors mirrors session]
    generalize session.interrupted = result
    obtain ⟨stopRequested, session⟩ := result
    cases stopRequested with
    | true => exact stop_mapWorld mirrors printed session
    | false =>
      simp only [Prod.map, id_eq, Bool.false_eq_true, if_false,
        Session.poll_mirrors mirrors session]
      generalize session.poll = result
      obtain ⟨error | found, session⟩ := result
      · rfl
      · have queued : (session.mapWorld view).takeQueue =
            Prod.map id (Session.mapWorld view) session.takeQueue := rfl
        simp only [queued, Prod.map, id_eq]
        generalize session.takeQueue = result
        obtain ⟨packets, session⟩ := result
        generalize take count printed packets = taken
        obtain ⟨shown, total, enough⟩ := taken
        simp only [printAll_mapWorld mirrors]
        cases enough with
        | true =>
          simp only [if_true, Session.close_mirrors mirrors (printAll format shown session)]
          rfl
        | false => exact ih total (printAll format shown session)

end Monitor

/-- Monitoring a line does the same on every view of the host on which all calls do. -/
theorem monitor_mirrors (mirrors : HostView view) (fuel : Nat) (line : LineChoice)
    (count : Option Nat) (format : ListingFormat) :
    Mirrors view (monitor fuel line count format) (monitor fuel line count format) := by
  intro world
  unfold monitor
  rw [Session.start_mapWorld mirrors]
  generalize Session.start line.setup world = result
  obtain ⟨failure | _, session⟩ := result
  · rfl
  · exact Monitor.loop_mapWorld mirrors count format fuel 0 session

end HciSerial
