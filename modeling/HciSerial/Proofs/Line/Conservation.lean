import HciSerial.Proofs.Line.Tap
import Mathlib

/-!
# A terminal line loses and duplicates nothing

However a system splits the bytes of a device into reads, and whatever calls fail in
between, the blocks that a terminal line completes are what it has read.

## Main Definitions

* `TerminalLine.Conserves`: what has been read is in the completed blocks and in the one that
  is being collected.

## Main Results

* `TerminalLine.Conserves.run`: every call keeps this, if one block is asked for at a time.
* `TerminalLine.conserves_after`: it holds after every such run.
* `TerminalLine.conserves_of_opens`: so it does of what is read after an opening.
* `TerminalLine.Conserves.length_le`: nothing beyond the requests is read.
-/

namespace HciSerial.TerminalLine

open LineCall (blocks requests after Orderly)

variable {W : Type} [TerminalSystem W]

/-- What holds of the calls made since `start` and of the line after them: what has been read
is in the completed blocks and in the one that is being collected, the blocks have the
lengths that were asked for, and no more is collected than the pending request asks for. -/
structure Conserves (start : TerminalLine (Tapped W)) (calls : List LineCall)
    (line : TerminalLine (Tapped W)) : Prop where
  taken : line.system.taken = start.system.taken ++ (blocks start calls).flatten ++ line.collected
  requested : requests calls = (blocks start calls).map List.length ++ line.pendingRead.toList
  within : line.collected.length ≤ line.pendingRead.getD 0

namespace Conserves

variable {start line next : TerminalLine (Tapped W)} {calls : List LineCall} {call : LineCall}

/-- Nothing beyond the requests is read. -/
theorem length_le (conserves : Conserves start calls line) :
    line.system.taken.length ≤ start.system.taken.length + (requests calls).sum := by
  have pending : line.pendingRead.getD 0 = line.pendingRead.toList.sum := by
    cases line.pendingRead <;> rfl
  have within := pending ▸ conserves.within
  rw [conserves.taken, conserves.requested, List.length_append, List.length_append,
    List.length_flatten, List.sum_append]
  omega

/-- If all blocks that were asked for have been completed, no request is pending. -/
theorem unasked (conserves : Conserves start calls line)
    (completed : (blocks start calls).length = (requests calls).length) :
    line.pendingRead = none := by
  rw [conserves.requested, List.length_append, List.length_map] at completed
  cases asked : line.pendingRead with
  | none => rfl
  | some length =>
    rw [asked] at completed
    exact absurd completed (Nat.ne_of_lt (Nat.lt_succ_self _))

/-- A call that completes no block and asks for none keeps the account if what it reads is
collected. -/
theorem collect (conserves : Conserves start calls line) (requested : call.requested? = none)
    (uncompleted : blocks start (calls ++ [call]) = blocks start calls) {bytes : List UInt8}
    (taken : next.system.taken = line.system.taken ++ bytes)
    (collected : next.collected = line.collected ++ bytes)
    (asked : next.pendingRead = line.pendingRead)
    (within : (line.collected ++ bytes).length ≤ line.pendingRead.getD 0) :
    Conserves start (calls ++ [call]) next := by
  refine ⟨?_, ?_, ?_⟩
  · rw [uncompleted, taken, collected, conserves.taken, List.append_assoc]
  · rw [uncompleted, asked, LineCall.requests_concat, requested, conserves.requested]
    exact List.append_nil _
  · rw [collected, asked]
    exact within

/-- A call that reads nothing, completes no block and asks for none keeps the account. -/
theorem congr (conserves : Conserves start calls line) (requested : call.requested? = none)
    (uncompleted : blocks start (calls ++ [call]) = blocks start calls)
    (taken : next.system.taken = line.system.taken) (collected : next.collected = line.collected)
    (asked : next.pendingRead = line.pendingRead) : Conserves start (calls ++ [call]) next := by
  rw [← List.append_nil line.system.taken] at taken
  rw [← List.append_nil line.collected] at collected
  refine conserves.collect requested uncompleted taken collected asked ?_
  rw [List.append_nil]
  exact conserves.within

/-- A poll keeps the account. -/
theorem poll (bounded : ReadsAtMost (Tapped W)) (line_eq : line = after start calls)
    (conserves : Conserves start calls line) :
    Conserves start (calls ++ [.poll]) line.poll.state := by
  have completed : blocks start (calls ++ [.poll]) =
      blocks start calls ++ (Completion.block? line.poll.value).toList := by
    rw [LineCall.blocks_concat, line_eq]
    rfl
  have cases := polled line
  generalize line.poll = step at cases completed ⊢
  cases cases with
  | closed | unasked =>
    exact conserves.congr rfl (completed.trans (List.append_nil _)) rfl rfl rfl
  | sent _ _ written | lost _ _ written =>
    have silent := taken_of_writeBlock written
    exact conserves.congr rfl (completed.trans (List.append_nil _)) silent rfl rfl
  | failed _ _ _ failure =>
    have silent := (taken_of_fetch failure).trans (List.append_nil _)
    exact conserves.congr rfl (completed.trans (List.append_nil _)) silent rfl rfl
  | @waiting device length bytes system _ _ asked gains short =>
    refine conserves.collect rfl (completed.trans (List.append_nil _)) gains.taken rfl rfl ?_
    rw [asked]
    exact Nat.le_of_lt short
  | @received device length bytes system _ _ asked gains full =>
    have within : line.collected.length ≤ length := by
      have within := conserves.within
      rwa [asked] at within
    -- no more arrives than is missing, so the block has exactly the length asked for
    have fits : (line.collected ++ bytes).length = length :=
      Nat.le_antisymm (gains.length_le bounded within) full
    refine ⟨?_, ?_, Nat.le_refl 0⟩
    · rw [completed, gains.taken, conserves.taken]
      simp [Completion.block?]
    · rw [completed, LineCall.requests_concat, conserves.requested, asked, List.map_append]
      simp [Completion.block?, LineCall.requested?, ← fits]

/-- Every call but an opening or a closing keeps the account, if a block is asked for only
once all earlier ones have been completed. -/
theorem run (bounded : ReadsAtMost (Tapped W)) (line_eq : line = after start calls)
    (conserves : Conserves start calls line) (steady : call.isLifecycle = false)
    (orderly : ∀ length, call = .receive length →
      (blocks start calls).length = (requests calls).length) :
    Conserves start (calls ++ [call]) (call.run line).state := by
  have uncompleted (nothing : Completion.block? (call.run line).value = none) :
      blocks start (calls ++ [call]) = blocks start calls := by
    rw [LineCall.blocks_concat, ← line_eq, nothing]
    exact List.append_nil _
  cases call with
  | openLine | close => cases steady
  | init config => exact conserves.congr rfl (uncompleted rfl) rfl rfl rfl
  | setBaudrate rate =>
    have completed : Completion.block? (LineCall.run line (.setBaudrate rate)).value = none := by
      show Completion.block? ((line.setBaudrate rate).value.map fun _ => none) = none
      cases (line.setBaudrate rate).value <;> rfl
    obtain ⟨system, config, state, _⟩ := setBaudrate_state rate line
    refine conserves.congr rfl (uncompleted completed) (setBaudrate_taken rate line) ?_ ?_
    · show (line.setBaudrate rate).state.collected = line.collected
      rw [state]
    · show (line.setBaudrate rate).state.pendingRead = line.pendingRead
      rw [state]
  | receive length =>
    have unasked := conserves.unasked (orderly length rfl)
    have nothing : line.collected = [] := by
      have within := conserves.within
      rw [unasked] at within
      exact List.length_eq_zero_iff.mp (Nat.le_zero.mp within)
    refine ⟨?_, ?_, Nat.zero_le _⟩
    · rw [uncompleted rfl]
      show line.system.taken = _ ++ []
      rw [conserves.taken, nothing]
    · rw [uncompleted rfl, LineCall.requests_concat, conserves.requested, unasked]
      exact congrArg (· ++ [length]) (List.append_nil _)
  | send block => exact conserves.congr rfl (uncompleted rfl) rfl rfl rfl
  | poll => exact conserves.poll bounded line_eq

end Conserves

/-- A line without requests has nothing to account for. -/
theorem conserves_of_unasked {start : TerminalLine (Tapped W)} (unasked : start.pendingRead = none)
    (nothing : start.collected = []) : Conserves start [] start := by
  refine ⟨?_, ?_, ?_⟩
  · rw [nothing]
    simp [blocks]
  · rw [unasked]
    rfl
  · rw [nothing]
    exact Nat.zero_le _

/-- The account holds after every run of a line without requests, without an opening or closing
in between, if a block is asked for only once all earlier ones have been completed. -/
theorem conserves_after (bounded : ReadsAtMost (Tapped W)) {start : TerminalLine (Tapped W)}
    (unasked : start.pendingRead = none) (nothing : start.collected = []) {calls : List LineCall}
    (steady : ∀ call ∈ calls, call.isLifecycle = false) (orderly : Orderly start calls) :
    Conserves start calls (after start calls) := by
  refine LineCall.run_invariant (Conserves start) (conserves_of_unasked unasked nothing) ?_
  intro earlier call within conserves
  have member : call ∈ calls := within.subset (List.mem_append_right _ List.mem_cons_self)
  refine conserves.run bounded rfl (steady call member) ?_
  rintro length rfl
  exact orderly earlier length within

theorem orderly_tap {start : TerminalLine W} {calls : List LineCall}
    (orderly : Orderly start calls) : Orderly (start.tap []) calls := by
  intro earlier length within
  obtain ⟨_, _, completed⟩ := after_tap [] start earlier
  rw [completed]
  exact orderly earlier length within

/-- The account holds of the record of what a line reads after it has been opened. -/
theorem conserves_of_opens (bounded : ReadsAtMost W) {line : TerminalLine W}
    (opens : line.openLine.value = .ok ()) {calls : List LineCall}
    (steady : ∀ call ∈ calls, call.isLifecycle = false)
    (orderly : Orderly line.openLine.state calls) :
    Conserves (line.openLine.state.tap []) calls (after (line.openLine.state.tap []) calls) := by
  refine conserves_after (Tapped.readsAtMost bounded) ?unasked ?nothing steady (orderly_tap orderly)
  all_goals
    have cases := opened line
    generalize line.openLine = step at cases opens ⊢
    cases cases with
    | refused => cases opens
    | opened => rfl

end HciSerial.TerminalLine
