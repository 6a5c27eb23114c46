import HciSerial.Proofs.Framing.Simulation

/-!
# Serving the framer from a byte list

A framer that is served its requests from a byte list reports the items of the
grammar, in order, and stops only when fewer bytes are left than it asks for.

## Main Results

* `Framer.feedWithin_spec`: from any state that blocks of the requested lengths lead to.
* `Framer.feed_new`, `Framer.feed_eq_parse`: from a packet boundary.
-/

namespace HciSerial.Framer

open Grammar

/-- More blocks than the framer can ask for while `bytes` last: every byte counts
twice, because an empty block may follow it. -/
def blocksLeft (framer : Framer) (bytes : List UInt8) : Nat :=
  2 * bytes.length + if framer.wanted = 0 then 1 else 0

/-- A block leaves fewer blocks to ask for: an empty one is followed by one of a byte. -/
theorem Progress.blocksLeft_lt {maxPacket : Nat} {framer next : Framer}
    {received block rest : List UInt8} {verdict : Verdict}
    (progress : Progress maxPacket received block (verdict, next))
    (asked : block.length = framer.wanted) :
    next.blocksLeft rest < framer.blocksLeft (block ++ rest) := by
  unfold blocksLeft
  rw [List.length_append, asked]
  cases progress with
  | ongoing unread =>
    have : 0 < framer.wanted := asked ▸ List.length_pos_iff.mpr unread
    split <;> split <;> omega
  | complete _ _ holds =>
    rw [holds.wanted_eq_one, if_neg Nat.one_ne_zero]
    split <;> omega

theorem feedWithin_of_short {fuel : Nat} {framer : Framer} {bytes : List UInt8}
    (short : bytes.length < framer.wanted) :
    feedWithin (fuel + 1) framer bytes = ([], framer, bytes) := by
  rw [feedWithin, splitBlock?_eq_none_iff.mpr short]

theorem feedWithin_of_block {fuel : Nat} {framer : Framer} {block rest : List UInt8}
    (asked : block.length = framer.wanted) :
    feedWithin (fuel + 1) framer (block ++ rest) =
      let served := feedWithin fuel (framer.receive block).2 rest
      ((framer.receive block).1 :: served.1, served.2) := by
  rw [feedWithin, splitBlock?_eq_some_iff.mpr ⟨rfl, asked⟩]

/-- With enough fuel, the verdicts are the items of what was received and what is
served, and the unfinished bytes are those received since and those left. -/
theorem feedWithin_spec {maxPacket fuel : Nat} {framer : Framer} {received bytes : List UInt8}
    (holds : framer.Holds maxPacket received) (enough : framer.blocksLeft bytes < fuel) :
    ∃ verdicts final unfinished left,
      feedWithin fuel framer bytes = (verdicts, final, left) ∧
      final.Holds maxPacket unfinished ∧ left.length < final.wanted ∧
      parse maxPacket (received ++ bytes) =
        (verdicts.filterMap Item.ofVerdict?, unfinished ++ left) := by
  induction fuel generalizing framer received bytes with
  | zero => exact absurd enough (Nat.not_lt_zero _)
  | succ fuel ih =>
    cases found : splitBlock? framer.wanted bytes with
    | none =>
      have short := splitBlock?_eq_none_iff.mp found
      exact ⟨[], framer, received, bytes, feedWithin_of_short short, holds, short,
        parse_of_unfinished (holds.stage.unfinished short)⟩
    | some pair =>
      -- either the block is received and waits, or it ends a segment and nothing waits
      obtain ⟨block, rest⟩ := pair
      obtain ⟨rfl, asked⟩ := splitBlock?_eq_some_iff.mp found
      have progress := holds.receive asked
      rw [feedWithin_of_block asked]
      generalize framer.receive block = result at progress ⊢
      obtain ⟨verdict, next⟩ := result
      have bound : next.blocksLeft rest < fuel :=
        Nat.lt_of_lt_of_le (progress.blocksLeft_lt asked) (Nat.le_of_lt_succ enough)
      cases progress with
      | ongoing _ more =>
        obtain ⟨verdicts, final, unfinished, left, served, after, short, whole⟩ := ih more bound
        refine ⟨.ok none :: verdicts, final, unfinished, left, by rw [served], after, short, ?_⟩
        rw [← List.append_assoc, whole]
        rfl
      | @complete _ item _ reports segment boundary =>
        obtain ⟨verdicts, final, unfinished, left, served, after, short, whole⟩ := ih boundary bound
        rw [List.nil_append] at whole
        refine ⟨verdict :: verdicts, final, unfinished, left, by rw [served], after, short, ?_⟩
        rw [← List.append_assoc, parse_segment_append segment, whole,
          List.filterMap_cons_some reports]

/-- From a packet boundary, the verdicts are the items of the stream, and the framer
stops because fewer bytes are left than it asks for. -/
theorem feed_new {buffer : ReceiveBuffer} (formed : buffer.WellFormed) (bytes : List UInt8) :
    ∃ verdicts final unfinished left,
      (new buffer).feed bytes = (verdicts, final, left) ∧
      final.Holds buffer.maxPacket unfinished ∧ left.length < final.wanted ∧
      parse buffer.maxPacket bytes =
        (verdicts.filterMap Item.ofVerdict?, unfinished ++ left) := by
  have enough : (new buffer).blocksLeft bytes < 2 * bytes.length + 2 := by
    unfold blocksLeft new
    split <;> omega
  exact feedWithin_spec (holds_new formed) enough

/-- Served from a packet boundary, the framer reports what the grammar reads, stops only
when the bytes run short, and then holds what the grammar leaves over. -/
theorem feed_eq_parse {buffer : ReceiveBuffer} (formed : buffer.WellFormed) (bytes : List UInt8) :
    ∃ verdicts final left, (new buffer).feed bytes = (verdicts, final, left) ∧
      verdicts.filterMap Item.ofVerdict? = (parse buffer.maxPacket bytes).1 ∧
      left.length < final.wanted ∧
      final.buffer.logical.take final.position ++ left = (parse buffer.maxPacket bytes).2 := by
  obtain ⟨verdicts, final, unfinished, left, served, holds, short, whole⟩ := feed_new formed bytes
  refine ⟨verdicts, final, left, served, ?_⟩
  rw [whole]
  exact ⟨rfl, short, by rw [holds.contents]⟩

end HciSerial.Framer
