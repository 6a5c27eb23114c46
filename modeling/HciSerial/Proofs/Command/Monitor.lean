import HciSerial.Proofs.Command.Session
import HciSerial.Proofs.Command.View

/-!
# Monitoring prints the first packets

A monitor with a count prints the packets that its polls deliver, in order, until it has
printed as many as it was asked for, and one if it was asked for none.  It reports success then,
and only then unless the user stops it.

## Main Definitions

* `Monitor.quota`: how many packets are printed at most.
* `Monitor.delivered`, `Monitor.ending`: the packets of a list of poll results, and their end.
* `Monitor.Turn`, `Monitor.turns`, `monitorTurns`: what the turns of a run come to.
* `Grammar.Yields`: the packets that have been delivered from what has been read.
* `Monitor.Follows`: what a monitor leaves behind after given turns.

## Main Results

* `Monitor.take_eq`: the packets of one poll.
* `Monitor.watch_eq`: any list of poll results.
* `Monitor.follows_loop`: a run follows its turns.
* `monitor_prints_first`: the command.

## Design Notes

What a poll comes to depends on what has been printed before it, since the far end may answer to
that.  So `Monitor.turns` goes through the same sessions as the loop, and notes what the loop
forgets.
-/

namespace HciSerial

open Grammar

namespace Monitor

/-! ## Counting -/

/-- How many packets a monitor with a count prints at most: whether they are enough is asked
after each of them, so one is not too many. -/
def quota (count : Nat) : Nat :=
  max count 1

variable {count printed : Nat}

/-- The number of printed packets grows by one as long as packets are wanted. -/
theorem advance_of_wanted (representable : count < wordCount) (wanted : printed < quota count) :
    advance printed = printed + 1 := by
  have word : 1 < wordCount := by decide
  unfold advance
  unfold quota at wanted
  omega

/-- The packets that are printed are the first ones, up to the quota. -/
theorem take_eq (representable : count < wordCount) (wanted : printed < quota count)
    (packets : List Packet) :
    take (some count) printed packets =
      (packets.take (quota count - printed), min (printed + packets.length) (quota count),
        decide (quota count ≤ printed + packets.length)) := by
  induction packets generalizing printed with
  | nil =>
    simp only [take, List.take_nil, List.length_nil, Nat.add_zero, Nat.min_eq_left wanted.le,
      wanted.not_ge, decide_false]
  | cons packet rest ih =>
    have counted := advance_of_wanted representable wanted
    have first : quota count - printed = quota count - (printed + 1) + 1 := by omega
    rw [take, counted, first, List.take_succ_cons, List.length_cons]
    by_cases enough : count ≤ printed + 1
    · have reached : quota count = printed + 1 := by
        unfold quota at wanted ⊢
        omega
      simp [enough, reached]
    · have still : printed + 1 < quota count := by
        unfold quota
        omega
      simp only [Option.any_some, enough, decide_false, Bool.false_eq_true, if_false, ih still]
      rw [Nat.add_assoc, Nat.add_comm 1]

/-! ## Watching -/

/-- The packets that are delivered before a poll fails. -/
def delivered : List (Except TransportError (List Packet)) → List Packet
  | [] => []
  | .error _ :: _ => []
  | .ok packets :: rest => packets ++ delivered rest

/-- How polls end that do not deliver enough packets. -/
def ending : List (Except TransportError (List Packet)) → Verdict
  | [] => .watching
  | .error error :: _ => .failed error
  | .ok _ :: rest => ending rest

/-- A monitor prints the packets that are delivered first, up to its quota, and has enough as
soon as the quota has been delivered. -/
theorem watch_eq (representable : count < wordCount) (wanted : printed < quota count)
    (results : List (Except TransportError (List Packet))) :
    watch (some count) printed results =
      ((delivered results).take (quota count - printed),
        if quota count ≤ printed + (delivered results).length then .enough
        else ending results) := by
  fun_induction delivered results generalizing printed with
  | case1 => simp [watch, ending, wanted]
  | case2 error => simp [watch, ending, wanted]
  | case3 packets rest ih =>
    rw [watch, take_eq representable wanted, List.take_append, List.length_append]
    by_cases enough : quota count ≤ printed + packets.length
    · have whole : quota count - printed - packets.length = 0 := by omega
      have more : quota count ≤ printed + (packets.length + (delivered rest).length) := by omega
      simp only [enough, decide_true, whole, more, List.take_zero, List.append_nil, if_true]
    · have still : printed + packets.length < quota count := Nat.not_le.mp enough
      have all : packets.take (quota count - printed) = packets :=
        List.take_of_length_le (by omega)
      simp only [enough, decide_false, Nat.min_eq_left still.le, ih still, all, Nat.sub_add_eq,
        Nat.add_assoc]
      rfl

/-- Polls that do not deliver enough packets never end with enough. -/
theorem ending_ne_enough (results : List (Except TransportError (List Packet))) :
    ending results ≠ .enough := by
  fun_induction ending results with
  | case1 => simp
  | case2 error => simp
  | case3 packets rest ih => exact ih

/-- A monitor has enough if and only if its quota has been delivered. -/
theorem watch_enough_iff (representable : count < wordCount) (wanted : printed < quota count)
    (results : List (Except TransportError (List Packet))) :
    (watch (some count) printed results).2 = .enough ↔
      quota count ≤ printed + (delivered results).length := by
  rw [watch_eq representable wanted]
  constructor
  · intro enough
    by_contra short
    exact ending_ne_enough results ((if_neg short).symm.trans enough)
  · intro full
    exact if_pos full

/-! ## Turns -/

/-- What a turn of a monitor comes to. -/
inductive Turn where
  /-- The user asks to stop. -/
  | stopped
  /-- A poll, with the packets that it delivers. -/
  | polled (result : Except TransportError (List Packet))
deriving DecidableEq

/-- The result of a poll. -/
def Turn.result? : Turn → Option (Except TransportError (List Packet))
  | stopped => none
  | polled result => some result

/-- The results of the polls of some turns. -/
def results (turns : List Turn) : List (Except TransportError (List Packet)) :=
  turns.filterMap Turn.result?

end Monitor

/-! ## What has been read -/

/-- The packets that bytes read as, where the last one may be missing if it has no payload: such
a packet is complete before the empty block for it has been asked for. -/
def Grammar.Yields (bytes : List UInt8) (packets : List Packet) : Prop :=
  ∃ later, (parse defaultPacketSize bytes).1.filterMap Item.packet? = packets ++ later ∧
    (later = [] ∨ ∃ packet, later = [packet] ∧ packet.declaredLength? = some 0)

theorem Grammar.yields_nil : Yields [] [] := by
  refine ⟨[], ?_, .inl rfl⟩
  rw [parse_of_unfinished rfl]
  rfl

variable {W : Type}

/-- What an open session has read yields the packets that it has reported. -/
theorem Session.Listens.yields {items : List Item} {device : Nat}
    {pending : Option (List UInt8)} {session : Session (Tapped (Watched W))}
    (listens : session.Listens items device pending) :
    Yields session.world.taken (items.filterMap Item.packet?) := by
  obtain ⟨later, read, ends⟩ := listens.parse_ahead
  refine ⟨later.filterMap Item.packet?, by rw [read, List.filterMap_append], ?_⟩
  rcases ends with rfl | ⟨packet, rfl, declared⟩
  · exact .inl rfl
  · exact .inr ⟨packet, rfl, declared⟩

namespace Monitor

/-! ## What a run leaves behind -/

/-- What a monitor leaves behind after `turns`, if `before` has been delivered, `texts` have
been printed and `printed` packets counted, and `fuel` turns are left. -/
structure Follows (count : Option Nat) (format : ListingFormat) (before : List Packet)
    (texts : List String) (fuel printed : Nat) (turns : List Turn)
    (run : Outcome × Tapped (Watched W)) : Prop where
  yields : Yields run.2.taken (before ++ delivered (results turns))
  shown : run.2.system.sight.printed = texts ++
    (watch count printed (results turns)).1.map fun packet => listing format [packet]
  enough : (watch count printed (results turns)).2 = .enough → run.1 = .success
  fails : ∀ error, (watch count printed (results turns)).2 = .failed error →
    run.1 = .failed (.ofTransport "receive failed" error)
  success : run.1 = .success →
    (watch count printed (results turns)).2 = .enough ∨ .stopped ∈ turns
  patient : run.1 = .unfinished → turns.length = fuel

namespace Follows

variable {count : Option Nat} {format : ListingFormat} {before packets shown : List Packet}
variable {texts : List String} {fuel printed total : Nat} {turns : List Turn}
variable {run : Outcome × Tapped (Watched W)} {world : Tapped (Watched W)}

/-- Without a poll nothing is printed. -/
theorem unpolled (unpolled : results turns = []) (yields : Yields run.2.taken before)
    (unseen : run.2.system.sight.printed = texts)
    (success : run.1 = .success → .stopped ∈ turns)
    (patient : run.1 = .unfinished → turns.length = fuel) :
    Follows count format before texts fuel printed turns run := by
  have nothing : watch count printed (results turns) = ([], .watching) := by
    rw [unpolled, watch]
  refine ⟨?_, ?_, ?_, ?_, fun succeeds => .inr (success succeeds), patient⟩
  · rw [unpolled, delivered, List.append_nil]
    exact yields
  · rw [nothing, List.map_nil, List.append_nil]
    exact unseen
  · rw [nothing]
    exact nofun
  · rw [nothing]
    exact nofun

/-- A poll that fails prints nothing. -/
theorem failed (error : TransportError) (yields : Yields world.taken before)
    (unseen : world.system.sight.printed = texts) :
    Follows count format before texts fuel printed [.polled (.error error)]
      (.failed (.ofTransport "receive failed" error), world) := by
  refine ⟨?_, unseen.trans (List.append_nil texts).symm, nofun, ?_, nofun, nofun⟩
  · show Yields world.taken (before ++ [])
    rw [List.append_nil]
    exact yields
  · intro _ same
    cases same
    rfl

/-- A poll that delivers enough packets is the last one. -/
theorem last (taken : take count printed packets = (shown, total, true))
    (yields : Yields world.taken (before ++ packets))
    (seen : world.system.sight.printed =
      texts ++ shown.map fun packet => listing format [packet]) :
    Follows count format before texts fuel printed [.polled (.ok packets)] (.success, world) := by
  have watched : watch count printed (results [.polled (.ok packets)]) = (shown, .enough) := by
    show watch count printed [.ok packets] = _
    rw [watch, taken]
  refine ⟨?_, ?_, fun _ => rfl, ?_, fun _ => .inl ?_, nofun⟩
  · show Yields world.taken (before ++ (packets ++ []))
    rw [List.append_nil]
    exact yields
  · rw [watched]
    exact seen
  · rw [watched]
    exact nofun
  · rw [watched]

/-- A poll that does not deliver enough packets is followed by another turn. -/
theorem next (taken : take count printed packets = (shown, total, false))
    (later : Follows count format (before ++ packets)
      (texts ++ shown.map fun packet => listing format [packet]) fuel total turns run) :
    Follows count format before texts (fuel + 1) printed (.polled (.ok packets) :: turns) run := by
  have watched : watch count printed (results (.polled (.ok packets) :: turns)) =
      (shown ++ (watch count total (results turns)).1,
        (watch count total (results turns)).2) := by
    show watch count printed (.ok packets :: results turns) = _
    rw [watch, taken]
  refine ⟨?_, ?_, ?_, ?_, ?_, fun unfinished => congrArg (· + 1) (later.patient unfinished)⟩
  · show Yields run.2.taken (before ++ (packets ++ delivered (results turns)))
    rw [← List.append_assoc]
    exact later.yields
  · rw [later.shown, watched, List.map_append, List.append_assoc]
  · rw [watched]
    exact later.enough
  · rw [watched]
    exact later.fails
  · rw [watched]
    exact fun succeeds => (later.success succeeds).imp_right (List.mem_cons_of_mem _)

end Follows

variable [Host W]

/-! ## One turn -/

theorem prints_printAll (format : ListingFormat) (packets : List Packet)
    (session : Session (Tapped (Watched W))) :
    Session.Prints (packets.map fun packet => listing format [packet]) session
      (printAll format packets session) := by
  induction packets generalizing session with
  | nil => exact .nothing session session.world.system.world
  | cons packet rest ih => exact (session.prints_print _).trans (ih _)

/-- A monitor that is asked to stop succeeds, and nothing more is seen or read. -/
theorem stop_eq (printed : Nat) (session : Session (Tapped (Watched W))) :
    ∃ world, stop printed session = (.success, world) ∧
      world.system.sight = session.sight ∧ world.taken = session.world.taken := by
  let record : Log.Record :=
    ⟨.info, .monitor, "monitor interrupted", [("printed", .number printed)]⟩
  have logged : Session.Prints [] session (session.report record) :=
    session.prints_reports [record]
  obtain ⟨world, finished, seen, taken⟩ := (session.report record).finish_ok
  refine ⟨world, ?_, seen.trans logged.sight_eq, taken.trans logged.taken_eq⟩
  unfold stop
  simp only
  rw [finished]

/-- Prints the packets of a poll, and ends if they are enough, else goes on. -/
def settle (count : Option Nat) (format : ListingFormat) (fuel printed : Nat)
    (packets : List Packet) (session : Session W) : Outcome × W :=
  let (shown, total, enough) := take count printed packets
  let session := printAll format shown session
  if enough then (.success, session.close.2.world)
  else loop count format fuel total session

theorem loop_succ (count : Option Nat) (format : ListingFormat) (fuel printed : Nat)
    (session : Session W) :
    loop count format (fuel + 1) printed session =
      if session.interrupted.1 then stop printed session.interrupted.2
      else match session.interrupted.2.poll with
        | (.error error, session) =>
          (.failed (.ofTransport "receive failed" error), session.world)
        | (.ok _, session) =>
          settle count format fuel printed session.queue session.takeQueue.2 := rfl

/-- The turns of at most `fuel` polls. -/
def turns (count : Option Nat) (format : ListingFormat) : Nat → Nat → Session W → List Turn
  | 0, _, _ => []
  | fuel + 1, printed, session =>
    if session.interrupted.1 then [.stopped]
    else match session.interrupted.2.poll with
      | (.error error, _) => [.polled (.error error)]
      | (.ok _, session) =>
        let (shown, total, enough) := take count printed session.queue
        .polled (.ok session.queue) :: if enough then [] else
          turns count format fuel total (printAll format shown session.takeQueue.2)

variable {items : List Item} {device : Nat} {session : Session (Tapped (Watched W))}

/-- The packets of a poll are printed up to the last one that is wanted, and then there are
enough, or another turn follows. -/
theorem follows_settle {count : Option Nat} {format : ListingFormat}
    {before packets : List Packet} {fuel printed : Nat}
    (listens : session.Listens items device none)
    (reported : items.filterMap Item.packet? = before ++ packets)
    (goesOn : ∀ (next : Session (Tapped (Watched W))) (total : Nat),
      next.Listens items device none →
        Follows count format (items.filterMap Item.packet?) next.sight.printed fuel total
          (turns count format fuel total next) (loop count format fuel total next)) :
    Follows count format before session.sight.printed (fuel + 1) printed
      (let (shown, total, enough) := take count printed packets
      .polled (.ok packets) :: if enough then [] else
        turns count format fuel total (printAll format shown session))
      (settle count format fuel printed packets session) := by
  unfold settle
  generalize taken : take count printed packets = result
  obtain ⟨shown, total, enough⟩ := result
  have prints := prints_printAll format shown session
  have listening := listens.prints prints
  have seen : (printAll format shown session).sight.printed =
      session.sight.printed ++ shown.map fun packet => listing format [packet] := by
    obtain ⟨world, same⟩ := prints
    rw [same]
    rfl
  simp only
  generalize printAll format shown session = next at seen listening ⊢
  cases enough with
  | true =>
    obtain ⟨-, unseen, read⟩ := next.close_ok
    refine .last taken ?_ ((congrArg Sight.printed unseen).trans seen)
    rw [read, ← reported]
    exact listening.yields
  | false =>
    have follows := goesOn next total listening
    rw [seen, reported] at follows
    exact .next taken follows

/-! ## All turns -/

/-- A run of a monitor follows its turns. -/
theorem follows_loop (bounded : ReadsAtMost W) (count : Option Nat) (format : ListingFormat)
    (listens : session.Listens items device none) (fuel printed : Nat) :
    Follows count format (items.filterMap Item.packet?) session.sight.printed fuel printed
      (turns count format fuel printed session) (loop count format fuel printed session) := by
  -- the items grow by those of each poll, so what they yield is what has been delivered so far
  induction fuel generalizing printed session items with
  | zero => exact .unpolled rfl listens.yields rfl nofun fun _ => rfl
  | succ fuel ih =>
    have asked := session.prints_interrupted
    rw [turns, loop_succ, ← asked.sight_eq]
    generalize session.interrupted = result at asked ⊢
    obtain ⟨stopRequested, middle⟩ := result
    have listening := listens.prints asked
    cases stopRequested with
    | true =>
      obtain ⟨world, stops, seen, taken⟩ := stop_eq printed middle
      rw [if_pos rfl, if_pos rfl, stops]
      refine .unpolled rfl ?_ (congrArg Sight.printed seen) (fun _ => List.mem_cons_self) nofun
      rw [taken]
      exact listening.yields
    | false =>
      have polls := listening.poll_of_unsent bounded
      have fails : ∀ error, middle.poll.1 = .error error → middle.poll.2.queue = [] :=
        fun _ => listening.queue_of_failed
      rw [if_neg Bool.false_ne_true, if_neg Bool.false_ne_true]
      simp only
      generalize middle.poll = result at polls fails ⊢
      obtain ⟨seen, more, queue, after⟩ := polls
      obtain ⟨outcome, polled⟩ := result
      have reported : (items ++ more).filterMap Item.packet? =
          items.filterMap Item.packet? ++ polled.queue := by
        rw [List.filterMap_append, queue]
      rw [← seen]
      cases outcome with
      | error error =>
        have yields := after.yields
        rw [reported, fails error rfl, List.append_nil] at yields
        exact .failed error yields rfl
      | ok found => exact follows_settle after reported fun _ total listens => ih listens total

end Monitor

/-! ## The command -/

variable [Host W]

/-- The turns of a monitor; one whose device cannot be opened has none. -/
def monitorTurns (fuel : Nat) (line : LineChoice) (count : Option Nat) (format : ListingFormat)
    (world : W) : List Monitor.Turn :=
  match Session.start line.setup world with
  | (.error _, _) => []
  | (.ok (), session) => Monitor.turns count format fuel 0 session

/-- A monitor follows its turns. -/
theorem follows_monitor (bounded : ReadsAtMost W) (fuel : Nat) (line : LineChoice)
    (count : Option Nat) (format : ListingFormat) (world : W) :
    Monitor.Follows count format [] [] fuel 0
      (monitorTurns fuel line count format (Watched.unseen world))
      (monitor fuel line count format (Watched.unseen world)) := by
  have named : line.setup.device = some line.device := rfl
  have starts := Session.listens_start named world
  have unread := Session.start_taken line.setup world
  unfold monitor monitorTurns
  generalize Session.start line.setup (Watched.unseen world) = result at starts unread ⊢
  obtain ⟨opened, seen, opens⟩ := starts
  have unprinted := congrArg Sight.printed seen
  obtain ⟨failure | _, session⟩ := result
  · refine .unpolled rfl ?_ unprinted nofun nofun
    simp only at unread ⊢
    rw [unread]
    exact yields_nil
  · obtain ⟨device, -, listens⟩ := opens rfl
    have follows := Monitor.follows_loop bounded count format listens fuel 0
    simp only at unprinted
    rw [unprinted] at follows
    exact follows

/-- A monitor with a count prints the packets that are delivered first.

Of any list of poll results it prints the packets that are delivered first, up to its quota, and
it has enough as soon as the quota has been delivered.  A run does so with the results of its
polls: watching the host changes nothing; what is delivered is what the bytes from the line read
as, but for a last packet without payload that may not have been delivered yet; a poll that
fails makes the run fail, and a run that does not end takes all its turns.  The run prints at
most its quota, and reports success if it has printed so many, and only then unless the user
stops it. -/
theorem monitor_prints_first (bounded : ReadsAtMost W) (fuel : Nat) (line : LineChoice)
    (count : UInt64) (format : ListingFormat) (world : W) :
    let quota := Monitor.quota count.toNat
    let watch := Monitor.watch (some count.toNat) 0
    let turns := monitorTurns fuel line (some count.toNat) format (Watched.unseen world)
    let results := Monitor.results turns
    let (outcome, after) := monitor fuel line (some count.toNat) format (Watched.unseen world)
    let printed := after.system.sight.printed
    (∀ results, watch results = ((Monitor.delivered results).take quota,
        if quota ≤ (Monitor.delivered results).length then .enough
        else Monitor.ending results)) ∧
      monitor fuel line (some count.toNat) format world = (outcome, after.system.world) ∧
      Yields after.taken (Monitor.delivered results) ∧
      printed = (watch results).1.map (fun packet => listing format [packet]) ∧
      (∀ error, (watch results).2 = .failed error →
        outcome = .failed (.ofTransport "receive failed" error)) ∧
      (outcome = .unfinished → turns.length = fuel) ∧
      printed.length ≤ quota ∧ (printed.length = quota → outcome = .success) ∧
      (.stopped ∉ turns → outcome = .success → printed.length = quota) := by
  intro quota watch turns results
  have representable : count.toNat < wordCount := count.toNat_lt
  have wanted : 0 < quota := Nat.le_max_right count.toNat 1
  have watched := Monitor.watch_eq representable wanted
  have sufficient := Monitor.watch_enough_iff representable wanted
  simp only [Nat.sub_zero, Nat.zero_add] at watched sufficient
  have quiet : monitor fuel line (some count.toNat) format world =
      Prod.map id Watched.world (Prod.map id Tapped.system
        (monitor fuel line (some count.toNat) format (Watched.unseen world))) := by
    rw [← monitor_mirrors Tapped.hostView fuel line (some count.toNat) format]
    exact monitor_mirrors Watched.hostView fuel line (some count.toNat) format ⟨world, {}⟩
  have follows := follows_monitor bounded fuel line (some count.toNat) format world
  rw [quiet]
  generalize monitor fuel line (some count.toNat) format (Watched.unseen world) = run at follows
  obtain ⟨outcome, after⟩ := run
  obtain ⟨yields, shown, enough, fails, success, patient⟩ := follows
  rw [List.nil_append] at yields shown
  rw [sufficient] at enough success
  have length : after.system.sight.printed.length =
      min quota (Monitor.delivered results).length := by
    have counted := congrArg List.length shown
    rw [watched, List.length_map, List.length_take] at counted
    exact counted
  refine ⟨watched, rfl, yields, shown, fails, patient, ?_, fun full => ?_, ?_⟩
  · rw [length]
    exact Nat.min_le_left _ _
  · rw [length, min_eq_left_iff] at full
    exact enough full
  · intro undisturbed succeeds
    rw [length, min_eq_left_iff]
    exact (success succeeds).resolve_right undisturbed

/-- A host whose far end reports three events. -/
def eventfulHost : SimulatedHost :=
  { terminal := some {}
    script := [.write [0x04, 0x0F, 0x00], .write [0x04, 0x0E, 0x00], .write [0x04, 0x10, 0x00]] }

/-- Two packets of three are printed when two are wanted. -/
theorem monitor_two_of_three :
    let line : LineChoice := { device := "/dev/pts/0" }
    let (outcome, after) :=
      monitor 20 line (some (2 : UInt64).toNat) .table (Watched.unseen eventfulHost)
    ReadsAtMost SimulatedHost ∧
      .stopped ∉ monitorTurns 20 line (some (2 : UInt64).toNat) .table
        (Watched.unseen eventfulHost) ∧
      outcome = .success ∧ after.system.sight.printed =
        [listing .table [⟨.event, [0x0F, 0x00]⟩], listing .table [⟨.event, [0x0E, 0x00]⟩]] := by
  intro line
  have first := monitor_prints_first SimulatedHost.readsAtMost 20 line 2 .table eventfulHost
  have succeeds : (monitor 20 line (some (2 : UInt64).toNat) .table
      (Watched.unseen eventfulHost)).1 = .success := by
    decide +kernel
  have taken : (monitor 20 line (some (2 : UInt64).toNat) .table
      (Watched.unseen eventfulHost)).2.taken = [0x04, 0x0F, 0x00, 0x04, 0x0E, 0x00] := by
    decide +kernel
  have undisturbed : .stopped ∉ monitorTurns 20 line (some (2 : UInt64).toNat) .table
      (Watched.unseen eventfulHost) := by
    decide +kernel
  generalize monitor 20 line (some (2 : UInt64).toNat) .table
    (Watched.unseen eventfulHost) = run at first succeeds taken ⊢
  obtain ⟨outcome, after⟩ := run
  obtain ⟨watched, -, ⟨later, read, -⟩, shown, -, -, -, -, counts⟩ := first
  have two := counts undisturbed succeeds
  have event (code : UInt8) :
      Segment defaultPacketSize [0x04, code, 0x00] (.packet ⟨.event, [code, 0x00]⟩) :=
    @Segment.packet _ .event [code, 0x00] [] rfl rfl rfl nofun
  have made : Segments defaultPacketSize [0x04, 0x0F, 0x00, 0x04, 0x0E, 0x00]
      [.packet ⟨.event, [0x0F, 0x00]⟩, .packet ⟨.event, [0x0E, 0x00]⟩] :=
    .cons (event 0x0F) (.cons (event 0x0E) .nil)
  rw [taken, parse_of_segments made] at read
  rw [shown, watched, List.length_map, List.length_take] at two
  have enough := min_eq_left_iff.mp two
  refine ⟨SimulatedHost.readsAtMost, undisturbed, succeeds, ?_⟩
  -- both packets have been delivered, so the first two of what was read are printed
  rw [shown, watched, ← List.take_append_of_le_length enough, ← read]
  rfl

/-- One packet is printed when none is wanted. -/
theorem monitor_zero_prints_one :
    let line : LineChoice := { device := "/dev/pts/0" }
    let (outcome, after) := monitor 20 line (some 0) .table (Watched.unseen eventfulHost)
    .stopped ∉ monitorTurns 20 line (some 0) .table (Watched.unseen eventfulHost) ∧
      outcome = .success ∧ after.system.sight.printed.length = 1 := by
  decide +kernel

end HciSerial
