import HciSerial.Transport.Queues
import Mathlib.Data.List.Induction

/-!
# Shared queues are first in, first out

A handle is made anew or by copying another one.  Handles that descend from one handle by
copying share a queue: what is taken through any of them, and what is still queued, is what was
pushed through any of them, in order.  Handles of different descent do not notice each other.

## Main Definitions

* `SharedQueues.Call`, `SharedQueues.Answer`: what can be done with handles, and what it gives.
* `SharedQueues.founders`: the handle that each handle descends from.
* `SharedQueues.history`: the calls of a run, each with the founder of its handle.
* `SharedQueues.pushed`, `SharedQueues.taken`: what went into a class of handles and came out.
* `SharedQueues.Shares`: handles see the same queue exactly if they have the same founder.

## Main Results

* `SharedQueues.contents_store`: who notices that a queue has changed.
* `SharedQueues.call_eq_store`: a call through a handle changes its queue only.
* `SharedQueues.shared_first_in_first_out`: what holds after every run.

## Design Notes

Classes are given by the calls alone, without looking at the queues.  A call through a handle
that does not exist belongs to no class.
-/

namespace HciSerial.SharedQueues

/-! ## Calls -/

/-- What can be done with handles. -/
inductive Call where
  | fresh
  | copy (handle : Nat)
  | push (handle : Nat) (packet : Packet)
  | pop (handle : Nat)
  | drain (handle : Nat)
  | length (handle : Nat)
  | isEmpty (handle : Nat)

/-- What a call gives. -/
inductive Answer where
  | done
  | popped (packet : Option Packet)
  | drained (packets : List Packet)
  | length (length : Nat)
  | isEmpty (isEmpty : Bool)
deriving DecidableEq

/-- The packets that an answer hands over. -/
def Answer.taken : Answer → List Packet
  | popped packet => packet.toList
  | drained packets => packets
  | _ => []

namespace Call

/-- The handle that a call goes through. -/
def handle? : Call → Option Nat
  | fresh => none
  | copy handle | push handle _ | pop handle | drain handle | length handle | isEmpty handle =>
    some handle

/-- The packets that a call hands in. -/
def pushed : Call → List Packet
  | push _ packet => [packet]
  | _ => []

/-- Whether a call makes a handle. -/
def makes : Call → Bool
  | fresh | copy _ => true
  | _ => false

/-- The founders after a call: a handle that is made anew founds a class, and a copy has the
founder of its original. -/
def grow (founders : List Nat) : Call → List Nat
  | fresh => founders ++ [founders.length]
  | copy handle => founders ++ founders[handle]?.toList
  | _ => founders

end Call

/-- Makes a call. -/
def call (shared : SharedQueues) : Call → Answer × SharedQueues
  | .fresh => (.done, shared.fresh)
  | .copy handle => (.done, shared.copy handle)
  | .push handle packet => (.done, shared.push handle packet)
  | .pop handle => Prod.map .popped id (shared.pop handle)
  | .drain handle => Prod.map .drained id (shared.drain handle)
  | .length handle => (.length (shared.length handle), shared)
  | .isEmpty handle => (.isEmpty (shared.isEmpty handle), shared)

/-! ## Runs -/

/-- The queues that a run leaves, which begins without handles. -/
def after (calls : List Call) : SharedQueues :=
  calls.foldl (fun shared call => (shared.call call).2) ⟨[], []⟩

/-- The handle that each handle descends from, in the order in which they are made. -/
def founders (calls : List Call) : List Nat :=
  calls.foldl Call.grow []

/-- The founder of the handle that a call goes through, `none` if there is no such handle. -/
def founder? (calls : List Call) (call : Call) : Option Nat :=
  call.handle?.bind fun handle => (founders calls)[handle]?

/-- A call, the founder of the handle that it goes through, and the answer to it. -/
structure Turn where
  call : Call
  founder : Option Nat
  answer : Answer

/-- A call that is made after a run. -/
def turn (calls : List Call) (call : Call) : Turn :=
  ⟨call, founder? calls call, ((after calls).call call).1⟩

/-- The turns of calls that are made after a run. -/
def historyAfter (earlier : List Call) : List Call → List Turn
  | [] => []
  | call :: rest => turn earlier call :: historyAfter (earlier ++ [call]) rest

/-- The turns of a run, in order. -/
def history (calls : List Call) : List Turn :=
  historyAfter [] calls

/-- What has been pushed through the handles of a founder, in order. -/
def pushed (founder : Nat) (past : List Turn) : List Packet :=
  (past.filter (·.founder = some founder)).flatMap fun turn => turn.call.pushed

/-- What has been taken through the handles of a founder, in order. -/
def taken (founder : Nat) (past : List Turn) : List Packet :=
  (past.filter (·.founder = some founder)).flatMap fun turn => turn.answer.taken

theorem after_concat (calls : List Call) (call : Call) :
    after (calls ++ [call]) = ((after calls).call call).2 := by
  rw [after, List.foldl_append]
  rfl

theorem founders_concat (calls : List Call) (call : Call) :
    founders (calls ++ [call]) = call.grow (founders calls) := by
  rw [founders, List.foldl_append]
  rfl

theorem history_concat (calls : List Call) (call : Call) :
    history (calls ++ [call]) = history calls ++ [turn calls call] := by
  have general (earlier : List Call) : historyAfter earlier (calls ++ [call]) =
      historyAfter earlier calls ++ [turn (earlier ++ calls) call] := by
    induction calls generalizing earlier with
    | nil => rw [List.append_nil]; rfl
    | cons first rest ih =>
      show turn earlier first :: historyAfter _ (rest ++ [call]) = _
      rw [ih, List.append_assoc]
      rfl
  exact general []

theorem pushed_concat (founder : Nat) (past : List Turn) (last : Turn) :
    pushed founder (past ++ [last]) =
      pushed founder past ++ if last.founder = some founder then last.call.pushed else [] := by
  rw [pushed, List.filter_append, List.flatMap_append, pushed]
  by_cases own : last.founder = some founder <;> simp [own]

theorem taken_concat (founder : Nat) (past : List Turn) (last : Turn) :
    taken founder (past ++ [last]) =
      taken founder past ++ if last.founder = some founder then last.answer.taken else [] := by
  rw [taken, List.filter_append, List.flatMap_append, taken]
  by_cases own : last.founder = some founder <;> simp [own]

/-! ## One call -/

variable {shared : SharedQueues}

/-- Packets are stored through a handle for all handles of its queue, and for no others. -/
theorem contents_store (inside : ∀ queue ∈ shared.handles, queue < shared.queues.length)
    {handle queue : Nat} (found : shared.queueOf? handle = some queue) (packets : List Packet)
    (other : Nat) :
    (shared.store handle packets).contents other =
      if shared.queueOf? other = some queue then packets else shared.contents other := by
  have range : queue < shared.queues.length := inside queue (List.mem_of_getElem? found)
  have same : (shared.store handle packets).queueOf? other = shared.queueOf? other := by
    rw [store, found]
    rfl
  have stored : (shared.store handle packets).queues = shared.queues.set queue packets := by
    rw [store, found]
  unfold contents
  rw [same, stored]
  cases shared.queueOf? other with
  | none => rfl
  | some seen =>
    simp only [List.getD_eq_getElem?_getD, List.getElem?_set, Option.some.injEq]
    by_cases own : seen = queue
    · subst own
      simp [range]
    · simp [own, Ne.symm own]

/-- Storing what a handle sees changes nothing. -/
theorem store_contents (shared : SharedQueues) (handle : Nat) :
    shared.store handle (shared.contents handle) = shared := by
  unfold store contents
  cases shared.queueOf? handle with
  | none => rfl
  | some queue =>
    simp only [List.getD_eq_getElem?_getD]
    by_cases range : queue < shared.queues.length
    · rw [List.getElem?_eq_getElem range, Option.getD_some, List.set_getElem_self]
    · rw [List.set_eq_of_length_le (Nat.not_lt.mp range)]

/-- A call through a handle that makes no other changes its queue only: what is handed over,
followed by what is left, is what was there, followed by what is handed in. -/
theorem call_eq_store (shared : SharedQueues) {call : Call} {handle : Nat}
    (through : call.handle? = some handle) (keeps : call.makes = false) :
    ∃ rest, (shared.call call).2 = shared.store handle rest ∧
      (shared.call call).1.taken ++ rest = shared.contents handle ++ call.pushed := by
  cases call with
  | fresh | copy => cases keeps
  | push _ packet =>
    cases through
    exact ⟨_, rfl, rfl⟩
  | pop =>
    cases through
    simp only [SharedQueues.call, pop]
    cases seen : shared.contents handle with
    | nil =>
      have same := (congrArg (shared.store handle) seen).symm.trans (shared.store_contents handle)
      exact ⟨[], same.symm, rfl⟩
    | cons packet rest => exact ⟨rest, rfl, (List.append_nil _).symm⟩
  | drain =>
    cases through
    exact ⟨[], rfl, rfl⟩
  | length | isEmpty =>
    cases through
    exact ⟨_, (shared.store_contents handle).symm, (List.append_nil _).symm⟩

/-- What is answered through a handle depends on the packets that it sees only. -/
theorem answer_congr {other : SharedQueues} {call : Call} {handle : Nat}
    (through : call.handle? = some handle) (same : shared.contents handle = other.contents handle) :
    (shared.call call).1 = (other.call call).1 := by
  cases call with
  | fresh => cases through
  | copy | push => rfl
  | pop =>
    cases through
    simp only [SharedQueues.call, pop, same]
    cases other.contents handle <;> rfl
  | drain | length | isEmpty =>
    cases through
    simp only [SharedQueues.call, drain, length, isEmpty, same, Prod.map_fst]

/-! ## Descent and sharing -/

/-- Every queue is shared by the handles of one founder, its `root`, and by no others. -/
structure Shares (root : Nat → Nat) (founders : List Nat) (shared : SharedQueues) : Prop where
  inside : ∀ queue ∈ shared.handles, queue < shared.queues.length
  known : ∀ founder ∈ founders, founder < founders.length
  descent : founders = shared.handles.map root
  injective : ∀ first ∈ shared.handles, ∀ second ∈ shared.handles,
    root first = root second → first = second

namespace Shares

variable {root : Nat → Nat} {founders : List Nat}

/-- A handle of a founder has a queue of which it is the root. -/
theorem queue_of_founder (shares : Shares root founders shared) {handle founder : Nat}
    (own : founders[handle]? = some founder) :
    ∃ queue, shared.queueOf? handle = some queue ∧ queue ∈ shared.handles ∧
      root queue = founder := by
  rw [shares.descent, List.getElem?_map, Option.map_eq_some_iff] at own
  obtain ⟨queue, found, rfl⟩ := own
  exact ⟨queue, found, List.mem_of_getElem? found, rfl⟩

theorem queueOf?_eq_none (shares : Shares root founders shared) {handle : Nat}
    (missing : founders[handle]? = none) : shared.queueOf? handle = none := by
  rwa [shares.descent, List.getElem?_map, Option.map_eq_none_iff] at missing

/-- Storing packets does not change which handles share a queue. -/
theorem store (shares : Shares root founders shared) (handle : Nat) (packets : List Packet) :
    Shares root founders (shared.store handle packets) := by
  unfold SharedQueues.store
  split
  · refine ⟨?_, shares.known, shares.descent, shares.injective⟩
    simp only [List.length_set]
    exact shares.inside
  · exact shares

/-- Packets are stored through a handle for all handles of its founder, and for no others. -/
theorem contents_store (shares : Shares root founders shared) {handle founder : Nat}
    (own : founders[handle]? = some founder) (packets : List Packet) {other seen : Nat}
    (its : founders[other]? = some seen) :
    (shared.store handle packets).contents other =
      if seen = founder then packets else shared.contents other := by
  obtain ⟨queue, found, member, rfl⟩ := shares.queue_of_founder own
  obtain ⟨otherQueue, otherFound, otherMember, rfl⟩ := shares.queue_of_founder its
  have same : root otherQueue = root queue ↔ otherQueue = queue :=
    ⟨shares.injective _ otherMember _ member, congrArg root⟩
  rw [SharedQueues.contents_store shares.inside found, otherFound]
  simp only [Option.some.injEq, same]

/-- Handles of one founder see the same packets. -/
theorem contents_eq (shares : Shares root founders shared) {first second founder : Nat}
    (left : founders[first]? = some founder) (right : founders[second]? = some founder) :
    shared.contents first = shared.contents second := by
  obtain ⟨queue, found, member, rfl⟩ := shares.queue_of_founder left
  obtain ⟨otherQueue, otherFound, otherMember, same⟩ := shares.queue_of_founder right
  obtain rfl := shares.injective _ otherMember _ member same
  rw [contents, contents, found, otherFound]

/-- A handle that is made anew founds a class of its own. -/
theorem fresh (shares : Shares root founders shared) :
    Shares (Function.update root shared.queues.length founders.length)
      (founders ++ [founders.length]) shared.fresh := by
  have old {queue : Nat} (member : queue ∈ shared.handles) :
      Function.update root shared.queues.length founders.length queue = root queue :=
    Function.update_of_ne (Nat.ne_of_lt (shares.inside queue member)) _ _
  have known {queue : Nat} (member : queue ∈ shared.handles) : root queue < founders.length := by
    refine shares.known _ ?_
    rw [shares.descent]
    exact List.mem_map_of_mem member
  refine ⟨?inside, ?known, ?descent, ?injective⟩
  case inside =>
    rw [SharedQueues.fresh, List.length_append]
    refine List.forall_mem_append.mpr ⟨fun queue member => ?_, ?_⟩
    · exact Nat.lt_succ_of_lt (shares.inside queue member)
    · exact List.forall_mem_singleton.mpr (Nat.lt_succ_self _)
  case known =>
    rw [List.length_append]
    refine List.forall_mem_append.mpr ⟨fun founder member => ?_, ?_⟩
    · exact Nat.lt_succ_of_lt (shares.known founder member)
    · exact List.forall_mem_singleton.mpr (Nat.lt_succ_self _)
  case descent =>
    rw [SharedQueues.fresh, List.map_append, List.map_singleton, Function.update_self,
      List.map_congr_left fun queue member => old member, ← shares.descent]
  case injective =>
    refine List.forall_mem_append.mpr ⟨fun first before => ?_, ?_⟩
    · refine List.forall_mem_append.mpr ⟨fun second other same => ?_, ?_⟩
      · rw [old before, old other] at same
        exact shares.injective _ before _ other same
      · refine List.forall_mem_singleton.mpr fun same => ?_
        rw [old before, Function.update_self] at same
        exact absurd same (Nat.ne_of_lt (known before))
    · refine List.forall_mem_singleton.mpr ?_
      refine List.forall_mem_append.mpr ⟨fun second other same => ?_, ?_⟩
      · rw [old other, Function.update_self] at same
        exact absurd same.symm (Nat.ne_of_lt (known other))
      · exact List.forall_mem_singleton.mpr fun _ => rfl

/-- A copied handle joins the class of its original. -/
theorem copy (shares : Shares root founders shared) (handle : Nat) :
    Shares root (founders ++ founders[handle]?.toList) (shared.copy handle) := by
  cases original : founders[handle]? with
  | none =>
    rw [SharedQueues.copy, shares.queueOf?_eq_none original, Option.toList_none, List.append_nil]
    exact shares
  | some founder =>
    obtain ⟨queue, found, member, rfl⟩ := shares.queue_of_founder original
    rw [SharedQueues.copy, found, Option.toList_some]
    refine ⟨?inside, ?known, ?descent, ?injective⟩
    case inside =>
      exact List.forall_mem_append.mpr
        ⟨shares.inside, List.forall_mem_singleton.mpr (shares.inside queue member)⟩
    case known =>
      rw [List.length_append]
      refine List.forall_mem_append.mpr ⟨fun founder member => ?_, ?_⟩
      · exact Nat.lt_succ_of_lt (shares.known founder member)
      · refine List.forall_mem_singleton.mpr (Nat.lt_succ_of_lt (shares.known _ ?_))
        exact List.mem_of_getElem? original
    case descent =>
      rw [List.map_append, List.map_singleton, ← shares.descent]
    case injective =>
      have before : ∀ seen ∈ shared.handles ++ [queue], seen ∈ shared.handles :=
        List.forall_mem_append.mpr ⟨fun _ => id, List.forall_mem_singleton.mpr member⟩
      intro first firstMember second secondMember
      exact shares.injective _ (before _ firstMember) _ (before _ secondMember)

end Shares

/-! ## What the handles see -/

section Sight

variable {root : Nat → Nat} {founders : List Nat}

/-- A handle that is made anew sees nothing, as before, and no other handle notices it. -/
theorem Shares.contents_fresh (shares : Shares root founders shared) (handle : Nat) :
    shared.fresh.contents handle = shared.contents handle := by
  unfold contents SharedQueues.queueOf? SharedQueues.fresh
  simp only [List.getElem?_append, List.getD_eq_getElem?_getD]
  by_cases old : handle < shared.handles.length
  · have range := shares.inside _ (List.getElem_mem old)
    simp only [if_pos old, List.getElem?_eq_getElem old, if_pos range]
  · rw [if_neg old, List.getElem?_eq_none (Nat.not_lt.mp old)]
    cases handle - shared.handles.length <;> simp

/-- No handle notices that another one is copied. -/
theorem contents_copy_of_lt (shared : SharedQueues) (original : Nat) {handle : Nat}
    (old : handle < shared.handles.length) :
    (shared.copy original).contents handle = shared.contents handle := by
  unfold SharedQueues.copy
  split
  · simp only [contents, SharedQueues.queueOf?, List.getElem?_append_left old]
  · rfl

/-- A call does not change what the handles of other founders see. -/
theorem Shares.contents_call (shares : Shares root founders shared) {call : Call}
    {handle founder : Nat} (its : founders[handle]? = some founder)
    (apart : (call.handle?.bind fun handle => founders[handle]?) ≠ some founder) :
    (shared.call call).2.contents handle = shared.contents handle := by
  have made : handle < shared.handles.length := by
    obtain ⟨made, _⟩ := List.getElem?_eq_some_iff.mp its
    rwa [shares.descent, List.length_map] at made
  cases through : call.handle? with
  | none =>
    cases call <;> cases through
    exact shares.contents_fresh handle
  | some own =>
    rw [through, Option.bind_some] at apart
    cases makes : call.makes with
    | true =>
      cases call <;> cases makes <;> cases through
      exact shared.contents_copy_of_lt own made
    | false =>
      obtain ⟨rest, stored, -⟩ := shared.call_eq_store through makes
      rw [stored]
      cases owner : founders[own]? with
      | none =>
        rw [SharedQueues.store, shares.queueOf?_eq_none owner]
      | some other =>
        rw [shares.contents_store owner rest its, if_neg]
        rintro rfl
        exact apart owner

/-! ## The books of a run -/

/-- In every class, what has been taken, followed by what is still queued, is what has been
pushed. -/
structure Tallies (root : Nat → Nat) (past : List Turn) (founders : List Nat)
    (shared : SharedQueues) : Prop extends Shares root founders shared where
  acted : ∀ turn ∈ past, ∀ founder, turn.founder = some founder → founder < founders.length
  balance : ∀ handle founder, founders[handle]? = some founder →
    taken founder past ++ shared.contents handle = pushed founder past

namespace Tallies

variable {past : List Turn}

/-- A call that makes no handle keeps the books. -/
theorem use (tallies : Tallies root past founders shared) {call : Call} {own : Nat}
    (through : call.handle? = some own) (keeps : call.makes = false) :
    Tallies root (past ++ [⟨call, founders[own]?, (shared.call call).1⟩]) founders
      (shared.call call).2 := by
  obtain ⟨rest, stored, kept⟩ := shared.call_eq_store through keeps
  have shares := tallies.toShares.store own rest
  rw [← stored] at shares
  refine ⟨shares, ?acted, fun handle founder its => ?balance⟩
  case acted =>
    refine List.forall_mem_append.mpr ⟨tallies.acted, List.forall_mem_singleton.mpr ?_⟩
    exact fun founder found => tallies.known founder (List.mem_of_getElem? found)
  case balance =>
    have before := tallies.balance handle founder its
    rw [taken_concat, pushed_concat]
    by_cases same : founders[own]? = some founder
    · rw [if_pos same, if_pos same, stored, tallies.contents_store same rest its, if_pos rfl,
        List.append_assoc, kept, tallies.contents_eq same its, ← before, List.append_assoc]
    · have apart : (call.handle?.bind fun handle => founders[handle]?) ≠ some founder := by
        rwa [through, Option.bind_some]
      rw [if_neg same, if_neg same, List.append_nil, List.append_nil,
        tallies.contents_call its apart, before]

/-- A handle that is made anew opens new books. -/
theorem fresh (tallies : Tallies root past founders shared) :
    Tallies (Function.update root shared.queues.length founders.length)
      (past ++ [⟨.fresh, none, .done⟩]) (founders ++ [founders.length]) shared.fresh := by
  refine ⟨tallies.toShares.fresh, ?acted, fun handle founder its => ?balance⟩
  case acted =>
    rw [List.length_append]
    refine List.forall_mem_append.mpr ⟨fun turn member founder acted => ?_, ?_⟩
    · exact Nat.lt_succ_of_lt (tallies.acted turn member founder acted)
    · exact List.forall_mem_singleton.mpr nofun
  case balance =>
    rw [taken_concat, pushed_concat, if_neg nofun, if_neg nofun, List.append_nil, List.append_nil,
      tallies.contents_fresh]
    rw [List.getElem?_append] at its
    split at its
    case isTrue old => exact tallies.balance handle founder its
    case isFalse new =>
      obtain rfl := List.mem_singleton.mp (List.mem_of_getElem? its)
      -- nobody has acted for the new founder yet
      have idle : past.filter (·.founder = some founders.length) = [] := by
        refine List.filter_eq_nil_iff.mpr fun turn member acted => ?_
        exact Nat.lt_irrefl _ (tallies.acted turn member _ (of_decide_eq_true acted))
      have missing : shared.queueOf? handle = none :=
        tallies.queueOf?_eq_none (List.getElem?_eq_none (Nat.not_lt.mp new))
      rw [taken, pushed, idle, contents, missing]
      rfl

/-- A copied handle shares the books of its original. -/
theorem copy (tallies : Tallies root past founders shared) (original : Nat) :
    Tallies root (past ++ [⟨.copy original, founders[original]?, .done⟩])
      (founders ++ founders[original]?.toList) (shared.copy original) := by
  have size : founders.length = shared.handles.length := by
    rw [tallies.descent, List.length_map]
  refine ⟨tallies.toShares.copy original, ?acted, fun handle founder its => ?balance⟩
  case acted =>
    rw [List.length_append]
    refine List.forall_mem_append.mpr ⟨fun turn member founder acted => ?_, ?_⟩
    · exact Nat.lt_add_right _ (tallies.acted turn member founder acted)
    · refine List.forall_mem_singleton.mpr fun founder found => ?_
      exact Nat.lt_add_right _ (tallies.known founder (List.mem_of_getElem? found))
  case balance =>
    have nothing : (if founders[original]? = some founder then ([] : List Packet) else []) = [] :=
      ite_self []
    show taken founder (past ++ _) ++ _ = pushed founder (past ++ _)
    rw [taken_concat, pushed_concat]
    simp only [Answer.taken, Call.pushed, nothing, List.append_nil]
    by_cases old : handle < founders.length
    · rw [List.getElem?_append_left old] at its
      rw [shared.contents_copy_of_lt original (size ▸ old)]
      exact tallies.balance handle founder its
    · -- the copy sees what its original sees
      have descends : founders[original]? = some founder := by
        rw [List.getElem?_append_right (Nat.not_lt.mp old)] at its
        exact Option.mem_toList.mp (List.mem_of_getElem? its)
      obtain ⟨made, _⟩ := List.getElem?_eq_some_iff.mp descends
      have source := descends
      rw [← List.getElem?_append_left made] at source
      rw [(tallies.toShares.copy original).contents_eq its source,
        shared.contents_copy_of_lt original (size ▸ made)]
      exact tallies.balance original founder descends

/-- Every call keeps the books. -/
theorem call (tallies : Tallies root past founders shared) (call : Call) :
    ∃ root, Tallies root
      (past ++ [⟨call, call.handle?.bind fun handle => founders[handle]?, (shared.call call).1⟩])
      (call.grow founders) (shared.call call).2 := by
  cases call with
  | fresh => exact ⟨_, tallies.fresh⟩
  | copy original => exact ⟨root, tallies.copy original⟩
  | push | pop | drain | length | isEmpty => exact ⟨root, tallies.use rfl rfl⟩

end Tallies

end Sight

/-- The books are right after every run. -/
theorem tallies_after (calls : List Call) :
    ∃ root, Tallies root (history calls) (founders calls) (after calls) := by
  induction calls using List.reverseRecOn with
  | nil => exact ⟨id, ⟨nofun, nofun, rfl, nofun⟩, nofun, nofun⟩
  | append_singleton earlier last ih =>
    obtain ⟨root, tallies⟩ := ih
    rw [history_concat, founders_concat, after_concat]
    exact tallies.call last

/-- Queues that are shared by handles are first in, first out.

After any run of calls through any number of handles, in each class of handles, those that
descend from one founder by copying: what has been taken through any of them, in order, followed
by what each of them sees, is what has been pushed through any of them, in order.  The length
that each of them reports is the number of packets still queued, and it reports an empty queue
exactly if all have been taken.  And no call through a handle of another class, and no new
handle, changes what is answered to any call through it. -/
theorem shared_first_in_first_out (calls : List Call) :
    let past := history calls
    let now := after calls
    ∀ handle founder, (founders calls)[handle]? = some founder →
      taken founder past ++ now.contents handle = pushed founder past ∧
      now.length handle = (pushed founder past).length - (taken founder past).length ∧
      (now.isEmpty handle = true ↔ taken founder past = pushed founder past) ∧
      ∀ other question, founder? calls other ≠ some founder → question.handle? = some handle →
        ((now.call other).2.call question).1 = (now.call question).1 := by
  intro past now handle founder its
  obtain ⟨root, tallies⟩ := tallies_after calls
  have balance : taken founder past ++ now.contents handle = pushed founder past :=
    tallies.balance handle founder its
  refine ⟨balance, ?length, ?isEmpty, fun other question apart through => ?apart⟩
  case length =>
    rw [← balance, List.length_append, Nat.add_sub_cancel_left]
    rfl
  case isEmpty =>
    rw [← balance, isEmpty, List.isEmpty_iff]
    exact List.self_eq_append_right.symm
  case apart =>
    exact answer_congr through (tallies.contents_call its apart)

/-- Three handles in two classes: what was pushed through a copy is taken through its original,
and emptying the other queue is not noticed. -/
theorem shared_copy_and_stranger :
    let first : Packet := ⟨.sco, [1, 0, 0]⟩
    let second : Packet := ⟨.event, [0x0E, 0]⟩
    let calls : List Call := [.fresh, .copy 0, .fresh, .push 1 first, .push 2 second,
      .push 0 second, .pop 0]
    (founders calls)[1]? = some 0 ∧ taken 0 (history calls) = [first] ∧
      [first] ++ (after calls).contents 1 = [first, second] ∧ (after calls).length 1 = 1 ∧
      founder? calls (.drain 2) ≠ some 0 ∧ (Call.length 1).handle? = some 1 ∧
      (((after calls).call (.drain 2)).2.call (.length 1)).1 = .length 1 := by
  intro first second calls
  have descends : (founders calls)[1]? = some 0 := rfl
  have apart : founder? calls (.drain 2) ≠ some 0 := by decide
  obtain ⟨balance, length, -, unnoticed⟩ := shared_first_in_first_out calls 1 0 descends
  have others := unnoticed (.drain 2) (.length 1) apart rfl
  exact ⟨descends, rfl, balance, length, apart, rfl, others⟩

end HciSerial.SharedQueues
