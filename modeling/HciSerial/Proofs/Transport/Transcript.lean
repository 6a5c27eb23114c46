import HciSerial.Transport.Operation
import Mathlib

/-!
# Transcripts of a transport

A run is a list of actions: what a host does with a transport, and what is done to its
line from outside.  Its transcript records each action with the transport it met.

## Main Definitions

* `Controllable`: lines that can be controlled from outside.
* `Action`: one step of a run.
* `Transport.transcript`, `Transport.after`: what has happened, and what is left.
* `Occurrence.opens`, `Transport.session?`: the last successful opening, and what came
  after it.

## Main Results

* `Transport.transcript_concat`, `Transport.after_concat`: one action more.
* `Transport.transcript_invariant`: what every admissible action keeps, a run keeps.
* `Transport.session?_concat`: the session goes on unless the transport is opened anew.

## Design Notes

An occurrence stores the transport before the action only; answer, events and the
transport afterwards are computed from it, so a transcript cannot disagree with the run.
-/

namespace HciSerial

/-- Lines `L` that can be controlled from outside by values of type `C`. -/
class Controllable (L : Type) (C : outParam Type) where
  /-- Applies a control. -/
  control : L → C → L

instance : Controllable MemoryLine MemoryLine.Control where
  control := MemoryLine.control

/-- One step of a run. -/
inductive Action (C : Type) where
  /-- A host uses the transport. -/
  | host (operation : Operation)
  /-- The line is changed from outside. -/
  | line (control : C)

/-- Whether a completion is handed to the transport that its line has not reported. -/
def Action.isDirect {C : Type} : Action C → Bool
  | host (.complete _) => true
  | _ => false

/-- Whether an action that was answered so opens the transport. -/
def Action.opens {C : Type} : Action C → Answer → Bool
  | host .openLine, answer => answer = .done
  | _, _ => false

/-- An action together with the transport that it meets. -/
structure Occurrence (L C : Type) where
  before : Transport L
  action : Action C

variable {L C : Type} [FiniteLine L] [Controllable L C]

namespace Transport

/-- Performs an action; a control of the line is not answered. -/
def perform (transport : Transport L) : Action C → Report L Answer
  | .host operation => transport.apply operation
  | .line control => {
      state := { transport with line := Controllable.control transport.line control }
      value := .done }

/-- The actions of a run in order, each with the transport that it meets. -/
def transcript (transport : Transport L) : List (Action C) → List (Occurrence L C)
  | [] => []
  | action :: rest => ⟨transport, action⟩ :: transcript (transport.perform action).state rest

/-- The transport after a run. -/
def after (transport : Transport L) : List (Action C) → Transport L
  | [] => transport
  | action :: rest => after (transport.perform action).state rest

end Transport

namespace Occurrence

/-- What an action leaves behind. -/
def report (occurrence : Occurrence L C) : Transport.Report L Answer :=
  occurrence.before.perform occurrence.action

/-- The answer to an action. -/
def answer (occurrence : Occurrence L C) : Answer :=
  occurrence.report.value

/-- The events of an action. -/
def events (occurrence : Occurrence L C) : List Transport.Event :=
  occurrence.report.events

/-- Whether an action opens the transport. -/
def opens (occurrence : Occurrence L C) : Bool :=
  occurrence.action.opens occurrence.answer

end Occurrence

namespace Transport

/-- One action more at the end of a run meets the transport that the run has left. -/
theorem transcript_concat (transport : Transport L) (actions : List (Action C))
    (action : Action C) :
    transport.transcript (actions ++ [action]) =
      transport.transcript actions ++ [⟨transport.after actions, action⟩] := by
  induction actions generalizing transport with
  | nil => rfl
  | cons first rest ih =>
    show _ :: transcript _ (rest ++ [action]) = _ :: (transcript _ rest ++ [_])
    rw [ih]
    rfl

/-- One action more at the end of a run is performed on the transport that the run has
left. -/
theorem after_concat (transport : Transport L) (actions : List (Action C)) (action : Action C) :
    transport.after (actions ++ [action]) = ((transport.after actions).perform action).state := by
  induction actions generalizing transport with
  | nil => rfl
  | cons first rest ih => exact ih _

/-- A transcript has the actions of its run. -/
theorem map_action_transcript (transport : Transport L) (actions : List (Action C)) :
    (transport.transcript actions).map Occurrence.action = actions := by
  induction actions generalizing transport with
  | nil => rfl
  | cons first rest ih =>
    show first :: (transcript _ rest).map _ = _
    rw [ih]

/-- What holds of every action of a run holds of the action of every occurrence. -/
theorem forall_mem_transcript (property : Action C → Prop) {transport : Transport L}
    {actions : List (Action C)} (all : ∀ action ∈ actions, property action) :
    ∀ occurrence ∈ transport.transcript actions, property occurrence.action := by
  intro occurrence member
  refine all occurrence.action ?_
  rw [← map_action_transcript transport actions]
  exact List.mem_map_of_mem member

/-- What every admissible action keeps, a run keeps: `motive` speaks of the transcript so
far and of the transport after it. -/
theorem transcript_invariant (motive : List (Occurrence L C) → Transport L → Prop)
    (admissible : Occurrence L C → Prop) {transport : Transport L} {actions : List (Action C)}
    (allowed : ∀ occurrence ∈ transport.transcript actions, admissible occurrence)
    (start : motive [] transport)
    (step : ∀ past now action, motive past now → admissible ⟨now, action⟩ →
      motive (past ++ [⟨now, action⟩]) (now.perform action).state) :
    motive (transport.transcript actions) (transport.after actions) := by
  -- from the end, since a run goes on after its last action
  induction actions using List.reverseRecOn with
  | nil => exact start
  | append_singleton earlier last ih =>
    rw [transcript_concat] at allowed ⊢
    rw [after_concat]
    obtain ⟨before, final⟩ := List.forall_mem_append.mp allowed
    exact step _ _ _ (ih before) (final _ (List.mem_singleton_self _))

/-! ## Sessions -/

/-- The last successful opening of a transcript, and what came after it. -/
def session? : List (Occurrence L C) → Option (Occurrence L C × List (Occurrence L C))
  | [] => none
  | occurrence :: rest =>
    match session? rest with
    | some found => some found
    | none => if occurrence.opens then some (occurrence, rest) else none

/-- A transcript without a successful opening has no session. -/
theorem session?_eq_none_iff {past : List (Occurrence L C)} :
    session? past = none ↔ ∀ occurrence ∈ past, occurrence.opens = false := by
  induction past with
  | nil => simp [session?]
  | cons first rest ih =>
    rw [List.forall_mem_cons, ← ih, session?]
    cases session? rest <;> simp

/-- The session of a transcript begins with its last successful opening. -/
theorem session?_eq_some_iff {past later : List (Occurrence L C)} {opening : Occurrence L C} :
    session? past = some (opening, later) ↔
      ∃ earlier, past = earlier ++ opening :: later ∧ opening.opens = true ∧
        ∀ occurrence ∈ later, occurrence.opens = false := by
  induction past with
  | nil => simp [session?]
  | cons first rest ih =>
    rw [session?]
    constructor
    · intro found
      cases inRest : session? rest with
      | some pair =>
        rw [inRest] at ih found
        obtain ⟨earlier, rfl, opens, unopened⟩ := ih.mp found
        exact ⟨first :: earlier, rfl, opens, unopened⟩
      | none =>
        rw [inRest] at found
        obtain ⟨opens, same⟩ := Option.ite_none_right_eq_some.mp found
        cases same
        exact ⟨[], rfl, opens, session?_eq_none_iff.mp inRest⟩
    · rintro ⟨earlier, split, opens, unopened⟩
      rcases earlier with _ | ⟨_, others⟩
      · cases split
        rw [session?_eq_none_iff.mpr unopened]
        exact if_pos opens
      · cases split
        rw [ih.mpr ⟨others, rfl, opens, unopened⟩]

/-- A successful opening begins a session, and any other action goes on with the last one. -/
theorem session?_concat (past : List (Occurrence L C)) (last : Occurrence L C) :
    session? (past ++ [last]) =
      if last.opens then some (last, [])
      else (session? past).map fun session => (session.1, session.2 ++ [last]) := by
  induction past with
  | nil => rfl
  | cons first rest ih =>
    rw [List.cons_append, session?, ih, session?]
    cases last.opens
    · cases session? rest <;> cases first.opens <;> rfl
    · rfl

end Transport

end HciSerial
