import HciSerial.Proofs.Line.Calls
import HciSerial.Proofs.Line.Memory
import Mathlib.Data.List.Infix

/-!
# A line in memory is a faithful pipe

Whatever is done with a line in memory, from inside and from outside and in any order, the
bytes that arrive are handed out once and in order, and a completion answers a request that
was made and has not been answered or dropped.

## Main Definitions

* `MemoryLine.Act`, `MemoryLine.Turn`: what can be done with the line, and what it reports.
* `MemoryLine.Since`: something has begun in the past and has not ended since.
* `MemoryLine.Turn.Due`: a turn reports a completion only if it is due.

## Main Results

* `MemoryLine.Accounts.perform`: every act goes on with the account of a run.
* `MemoryLine.faithful_pipe`: what holds after every run.

## Design Notes

What is due is told by the past turns alone, without looking at the line.
-/

namespace HciSerial.MemoryLine

/-! ## Acts and turns -/

/-- What can be done with the line: a call, or a control from outside. -/
inductive Act where
  | call (call : LineCall)
  | control (control : Control)

namespace Act

/-- The length that is asked for. -/
def requested? : Act → Option Nat
  | .call inner => inner.requested?
  | .control _ => none

/-- The bytes that arrive. -/
def injected : Act → List UInt8
  | .control (.inject bytes) => bytes
  | _ => []

end Act

/-- Does something with the line; a control reports nothing. -/
def perform (line : MemoryLine) : Act → Step MemoryLine (Except LineError (Option Completion))
  | .call call => call.run line
  | .control control => { state := line.control control, value := .ok none }

/-- An act and what it reports. -/
structure Turn where
  act : Act
  outcome : Except LineError (Option Completion)

namespace Turn

/-- Whether a block of some length is asked for. -/
def asks (length : Nat) (turn : Turn) : Bool :=
  turn.act.requested? = some length

/-- Whether a block is handed over for sending. -/
def offers (turn : Turn) : Bool :=
  match turn.act with
  | .call (.send _) => true
  | _ => false

/-- Whether the line is opened, with success. -/
def opens (turn : Turn) : Bool :=
  match turn.act, turn.outcome with
  | .call .openLine, .ok _ => true
  | _, _ => false

/-- Whether the line is closed. -/
def closes (turn : Turn) : Bool :=
  match turn.act with
  | .call .close => true
  | _ => false

/-- Whether a poll reports a failure. -/
def fails (turn : Turn) : Bool :=
  match turn.act, turn.outcome with
  | .call .poll, .error _ => true
  | _, _ => false

/-- The block that is reported as received. -/
def received? (turn : Turn) : Option (List UInt8) :=
  Completion.block? turn.outcome

/-- Whether a block is reported as sent. -/
def isSent (turn : Turn) : Bool :=
  match turn.outcome with
  | .ok (some .sent) => true
  | _ => false

/-- A request to receive ends with its answer, with a new request or with a closing. -/
def endsRead (turn : Turn) : Bool :=
  turn.act.requested?.isSome || turn.received?.isSome || turn.closes

/-- A send ends with its completion, with a failure or with a closing. -/
def endsSend (turn : Turn) : Bool :=
  turn.isSent || turn.fails || turn.closes

end Turn

/-- The turn that an act leads to. -/
def turn (line : MemoryLine) (act : Act) : Turn :=
  ⟨act, (line.perform act).value⟩

/-- The line that a run leaves. -/
def after (line : MemoryLine) (acts : List Act) : MemoryLine :=
  acts.foldl (fun line act => (line.perform act).state) line

/-- The turns of a run, in order. -/
def history (line : MemoryLine) : List Act → List Turn
  | [] => []
  | act :: rest => line.turn act :: history (line.perform act).state rest

theorem after_concat (line : MemoryLine) (acts : List Act) (act : Act) :
    line.after (acts ++ [act]) = ((line.after acts).perform act).state := by
  rw [after, List.foldl_append]
  rfl

theorem history_concat (line : MemoryLine) (acts : List Act) (act : Act) :
    line.history (acts ++ [act]) = line.history acts ++ [(line.after acts).turn act] := by
  induction acts generalizing line with
  | nil => rfl
  | cons first rest ih => exact congrArg (line.turn first :: ·) (ih _)

/-! ## What has not ended -/

/-- Some turn of the past has begun something, and no later turn has ended it. -/
def Since (begins ends : Turn → Bool) (past : List Turn) : Prop :=
  ∃ before turn later, past = before ++ turn :: later ∧ begins turn = true ∧
    ∀ next ∈ later, ends next = false

/-- After one turn more, something goes on if the turn begins it, or if it went on before and
the turn does not end it. -/
theorem since_concat {begins ends : Turn → Bool} {past : List Turn} {last : Turn} :
    Since begins ends (past ++ [last]) ↔
      begins last = true ∨ (ends last = false ∧ Since begins ends past) := by
  constructor
  · -- the turn that began it is the last one or one of the past
    rintro ⟨before, turn, later, whole, began, unended⟩
    rcases List.eq_nil_or_concat later with rfl | ⟨earlier, final, rfl⟩
    · obtain ⟨-, same⟩ := List.append_inj' whole rfl
      rw [List.singleton_inj.mp same]
      exact .inl began
    · rw [List.concat_eq_append, ← List.cons_append, ← List.append_assoc] at whole
      obtain ⟨rfl, same⟩ := List.append_inj' whole rfl
      rw [List.singleton_inj.mp same]
      rw [List.concat_eq_append] at unended
      obtain ⟨unended, last⟩ := List.forall_mem_append.mp unended
      exact .inr ⟨last final (List.mem_singleton_self final), before, turn, earlier, rfl, began,
        unended⟩
  · rintro (began | ⟨goesOn, before, turn, later, rfl, began, unended⟩)
    · exact ⟨past, last, [], rfl, began, List.forall_mem_nil _⟩
    · refine ⟨before, turn, later ++ [last], ?_, began, ?_⟩
      · rw [List.append_assoc, List.cons_append]
      · exact List.forall_mem_append.mpr ⟨unended, List.forall_mem_singleton.mpr goesOn⟩

theorem not_since_nil (begins ends : Turn → Bool) : ¬ Since begins ends [] := by
  rintro ⟨before, turn, later, whole, -⟩
  exact List.append_ne_nil_of_right_ne_nil before (List.cons_ne_nil turn later) whole.symm

/-! ## One act -/

/-- The number of sends that have not been reported. -/
def pendingSends (line : MemoryLine) : Nat :=
  match line.sending with
  | .idle => 0
  | .held | .ready => 1

/-- What an act does to the pipe, told by its turn. -/
structure Effect (line : MemoryLine) (turn : Turn) (next : MemoryLine) : Prop where
  /-- What is handed out, followed by what is left, is what was there, followed by what arrives. -/
  incoming : turn.received?.toList.flatten ++ next.incoming = line.incoming ++ turn.act.injected
  pendingRead : ∀ length, next.pendingRead = some length ↔
    turn.asks length = true ∨ (turn.endsRead = false ∧ line.pendingRead = some length)
  sending : next.sending ≠ .idle ↔
    turn.offers = true ∨ (turn.endsSend = false ∧ line.sending ≠ .idle)
  isOpen : next.isOpen = true ↔
    turn.opens = true ∨ (turn.closes = false ∧ line.isOpen = true)
  received : ∀ block, turn.received? = some block →
    line.pendingRead = some block.length ∧ line.isOpen = true
  sent : turn.isSent = true → line.sending ≠ .idle ∧ line.isOpen = true
  sends : [turn].countP Turn.isSent + next.pendingSends ≤
    line.pendingSends + [turn].countP Turn.offers

section Effect

attribute [local simp] Act.requested? LineCall.requested? Act.injected Completion.block?
  Turn.asks Turn.offers Turn.opens Turn.closes Turn.fails Turn.received? Turn.isSent Turn.endsRead
  Turn.endsSend pendingSends

/-- An opening has such an effect. -/
theorem effect_openLine (line : MemoryLine) :
    Effect line (line.turn (.call .openLine)) line.openLine.state := by
  show Effect line ⟨.call .openLine, line.openLine.value.map fun _ => none⟩ line.openLine.state
  have opening := line.opened
  generalize line.openLine = step at opening ⊢
  cases opening with
  | refused | opened => constructor <;> simp [Except.map]

/-- A poll has such an effect. -/
theorem effect_poll (line : MemoryLine) :
    Effect line (line.turn (.call .poll)) line.poll.state := by
  show Effect line ⟨.call .poll, line.poll.value⟩ line.poll.state
  have polling := line.polled
  generalize line.poll = step at polling ⊢
  cases polling with
  | closed | failed | quiet => constructor <;> simp
  | sent isOpen _ ready => constructor <;> simp [isOpen, ready]
  | received isOpen _ _ asked arrived => constructor <;> simp [isOpen, asked, arrived]

/-- A control has such an effect. -/
theorem effect_control (line : MemoryLine) (control : Control) :
    Effect line (line.turn (.control control)) (line.control control) := by
  show Effect line ⟨.control control, .ok none⟩ (line.control control)
  cases control with
  | inject | completeSends | failOpen | failPoll =>
    constructor <;> simp [MemoryLine.control]
  | completeSend =>
    cases sending : line.sending <;> constructor <;> simp [MemoryLine.control, sending]

/-- Every act has such an effect. -/
theorem effect (line : MemoryLine) (act : Act) :
    Effect line (line.turn act) (line.perform act).state := by
  rcases act with call | control
  · cases call with
    | openLine => exact line.effect_openLine
    | poll => exact line.effect_poll
    | init config =>
      show Effect line ⟨.call (.init config), .ok none⟩ (line.init config)
      constructor <;> simp [MemoryLine.init]
    | close =>
      show Effect line ⟨.call .close, .ok none⟩ line.close.state
      constructor <;> simp [close]
    | setBaudrate rate =>
      show Effect line ⟨.call (.setBaudrate rate), .ok none⟩ (line.setBaudrate rate).state
      constructor <;> simp [setBaudrate]
    | receive length =>
      show Effect line ⟨.call (.receive length), .ok none⟩ (line.receive length).state
      constructor <;> simp [receive]
    | send block =>
      show Effect line ⟨.call (.send block), .ok none⟩ (line.send block).state
      cases completes : line.completesSends <;> constructor <;> simp [send, completes]
  · exact line.effect_control control

end Effect

/-! ## A whole run -/

/-- A turn reports a completion only if it is due: a block if one of its length has been asked
for, a send if a block has been handed over, and either only while the line is open. -/
structure Turn.Due (earlier : List Turn) (turn : Turn) : Prop where
  received : ∀ block, turn.received? = some block →
    Since (asks block.length) endsRead earlier ∧ Since opens closes earlier
  sent : turn.isSent = true → Since offers endsSend earlier ∧ Since opens closes earlier

/-- What holds after a run: the past turns tell what is on the line and what is pending, and
every completion was due. -/
structure Accounts (past : List Turn) (now : MemoryLine) : Prop where
  incoming : (past.filterMap Turn.received?).flatten ++ now.incoming =
    past.flatMap fun turn => turn.act.injected
  pendingRead : ∀ length, now.pendingRead = some length ↔
    Since (Turn.asks length) Turn.endsRead past
  sending : now.sending ≠ .idle ↔ Since Turn.offers Turn.endsSend past
  isOpen : now.isOpen = true ↔ Since Turn.opens Turn.closes past
  due : ∀ earlier turn, earlier ++ [turn] <+: past → turn.Due earlier
  sends : past.countP Turn.isSent + now.pendingSends ≤ past.countP Turn.offers

/-- A new line has nothing to account for. -/
theorem accounts_new : Accounts [] {} where
  incoming := rfl
  pendingRead length := ⟨nofun, fun since => absurd since (not_since_nil _ _)⟩
  sending := ⟨fun pending => absurd rfl pending, fun since => absurd since (not_since_nil _ _)⟩
  isOpen := ⟨nofun, fun since => absurd since (not_since_nil _ _)⟩
  due earlier turn within := by
    cases List.append_eq_nil_iff.mp (List.prefix_nil.mp within) with
    | intro _ empty => cases empty
  sends := Nat.le_refl 0

namespace Accounts

variable {past : List Turn} {now : MemoryLine}

/-- A completion that such an effect reports is due. -/
theorem due_turn (accounts : Accounts past now) {turn : Turn} {next : MemoryLine}
    (effect : Effect now turn next) : turn.Due past where
  received block received := by
    obtain ⟨asked, isOpen⟩ := effect.received block received
    exact ⟨(accounts.pendingRead _).mp asked, accounts.isOpen.mp isOpen⟩
  sent sent := by
    obtain ⟨pending, isOpen⟩ := effect.sent sent
    exact ⟨accounts.sending.mp pending, accounts.isOpen.mp isOpen⟩

/-- Every act goes on with the account. -/
theorem perform (accounts : Accounts past now) (act : Act) :
    Accounts (past ++ [now.turn act]) (now.perform act).state := by
  have effect := now.effect act
  refine ⟨?incoming, ?pendingRead, ?sending, ?isOpen, ?due, ?sends⟩
  case incoming =>
    rw [List.filterMap_append, List.flatten_append, List.append_assoc, List.flatMap_append,
      List.flatMap_singleton, ← accounts.incoming, List.append_assoc]
    refine congrArg (_ ++ ·) (Eq.trans ?_ effect.incoming)
    cases block : (now.turn act).received? <;> simp [block]
  case pendingRead =>
    intro length
    rw [effect.pendingRead, since_concat, accounts.pendingRead]
  case sending => rw [effect.sending, since_concat, accounts.sending]
  case isOpen => rw [effect.isOpen, since_concat, accounts.isOpen]
  case due =>
    intro earlier turn within
    rcases List.prefix_concat_iff.mp within with whole | before
    · -- what the last turn reports was pending on the line before it
      obtain ⟨rfl, last⟩ := List.append_inj' whole rfl
      obtain rfl := List.singleton_inj.mp last
      exact accounts.due_turn effect
    · exact accounts.due earlier turn before
  case sends =>
    have before := accounts.sends
    have step := effect.sends
    rw [List.countP_append, List.countP_append]
    omega

end Accounts

/-- The account is right after every run. -/
theorem accounts_after (acts : List Act) : Accounts (history {} acts) (after {} acts) := by
  induction acts using List.reverseRecOn with
  | nil => exact accounts_new
  | append_singleton earlier last ih =>
    rw [history_concat, after_concat]
    exact ih.perform last

/-- A poll of an open line with nothing else to report hands over the block that is asked for
as soon as enough bytes have arrived. -/
theorem poll_of_arrived {line : MemoryLine} {length : Nat} (isOpen : line.isOpen = true)
    (unarmed : line.failNextPoll = none) (unready : line.sending ≠ .ready)
    (asked : line.pendingRead = some length) (arrived : length ≤ line.incoming.length) :
    line.poll.value = .ok (some (.received (line.incoming.take length))) := by
  have polling := line.polled
  generalize line.poll = step at polling ⊢
  cases polling with
  | closed isClosed => cases isOpen.symm.trans isClosed
  | failed _ armed => cases armed.symm.trans unarmed
  | sent _ _ ready => exact absurd ready unready
  | quiet _ _ _ short => exact absurd (short length asked) (Nat.not_lt.mpr arrived)
  | received _ _ _ wanted split =>
    obtain rfl := Option.some.inj (asked.symm.trans wanted)
    rw [split, List.take_left]

/-- A line in memory is a faithful pipe.

After any run of calls and controls in any order: the blocks that have been received, followed
by what still waits, are all bytes that have arrived, in order.  Every completion was due: a
block has the length of the latest request, which has been neither answered nor dropped by a
closing, a send is reported only after a block that was handed over and has been neither
reported nor dropped by a closing or a failing poll, and both only while the line is open.  No
more sends are reported than blocks were handed over.  And a block that is due is handed over
by the next poll that has nothing else to report, once enough bytes wait. -/
theorem faithful_pipe (acts : List Act) :
    let past := history {} acts
    let now := after {} acts
    (past.filterMap Turn.received?).flatten ++ now.incoming =
        (past.flatMap fun turn => turn.act.injected) ∧
      (∀ earlier turn, earlier ++ [turn] <+: past → turn.Due earlier) ∧
      past.countP Turn.isSent ≤ past.countP Turn.offers ∧
      ∀ length, Since (Turn.asks length) Turn.endsRead past → Since Turn.opens Turn.closes past →
        now.failNextPoll = none → now.sending ≠ .ready → length ≤ now.incoming.length →
        now.poll.value = .ok (some (.received (now.incoming.take length))) := by
  intro past now
  have accounts : Accounts past now := accounts_after acts
  refine ⟨accounts.incoming, accounts.due, ?sends, ?answers⟩
  case sends => exact Nat.le_of_add_right_le accounts.sends
  case answers =>
    intro length asked opened unarmed unready arrived
    exact poll_of_arrived (accounts.isOpen.mpr opened) unarmed unready
      ((accounts.pendingRead length).mpr asked) arrived

/-- A request that is replaced, a send that fails, and one that completes before a block. -/
def crossedRun : List Act :=
  [.control (.inject [4, 14]), .call (.receive 9), .call .openLine, .call (.receive 1),
    .call (.send [1]), .control (.failPoll .closed), .call .poll, .call (.send [2]), .call .poll,
    .call .poll, .call (.receive 1)]

/-- The block answers the second request, the send that is reported is the second one, and a
third request is to be answered by what is left. -/
theorem crossedRun_faithful :
    let past := history {} crossedRun
    let now := after {} crossedRun
    past.filterMap Turn.received? = [[4]] ∧ [4] ++ now.incoming = [4, 14] ∧
      (∃ earlier turn, earlier ++ [turn] <+: past ∧ turn.received? = some [4] ∧
        Since (Turn.asks 1) Turn.endsRead earlier) ∧
      (∃ earlier turn, earlier ++ [turn] <+: past ∧ turn.isSent = true ∧
        Since Turn.offers Turn.endsSend earlier) ∧
      past.countP Turn.isSent = 1 ∧ 1 ≤ past.countP Turn.offers ∧
      now.poll.value = .ok (some (.received [14])) := by
  intro past now
  obtain ⟨conserved, due, counted, answers⟩ := faithful_pipe crossedRun
  have received : past.take 9 ++ [⟨.call .poll, .ok (some (.received [4]))⟩] <+: past := ⟨_, rfl⟩
  have sent : past.take 8 ++ [⟨.call .poll, .ok (some .sent)⟩] <+: past := ⟨_, rfl⟩
  have asked : Since (Turn.asks 1) Turn.endsRead past :=
    ⟨past.take 10, _, [], rfl, rfl, List.forall_mem_nil _⟩
  have opened : Since Turn.opens Turn.closes past := by
    refine ⟨past.take 2, _, _, rfl, rfl, ?_⟩
    decide
  exact ⟨rfl, conserved, ⟨_, _, received, rfl, ((due _ _ received).received [4] rfl).1⟩,
    ⟨_, _, sent, rfl, ((due _ _ sent).sent rfl).1⟩, rfl, counted,
    answers 1 asked opened rfl nofun (Nat.le_refl 1)⟩

end HciSerial.MemoryLine
