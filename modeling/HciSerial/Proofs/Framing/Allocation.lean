import HciSerial.Proofs.Framing.Safety

/-!
# The sizes of a new buffer

Three sums are taken of the sizes that a buffer is asked for: the size of its storage, the
beginning of its logical view and its capacity.  In every buffer that is made they agree.  For
sizes that are not refused there is always such a buffer, unless the size of the storage is
beyond what can be allocated; then the program ends.

## Main Definitions

* `ReceiveBuffer.Faults`: the sizes that are met with a fault.
* `ReceiveBuffer.logical?`: the logical view, with its beginning checked.
* `ReceiveBuffer.Exact`: a buffer is as it was asked for.

## Main Results

* `ReceiveBuffer.new_eq_error_iff`: which fault is met by which sizes.
* `ReceiveBuffer.endsProgram_iff`: which sizes end the program.
* `ReceiveBuffer.new_exact_or_faults`: the outcome for all sizes.

## Design Notes

Dropping a pre-buffer that is longer than the storage would leave an empty list, where the
program has no view at all; `logical?` is `none` there, like `write?`.
-/

namespace HciSerial.ReceiveBuffer

variable {preBuffer maxPacket : UInt64} {buffer : ReceiveBuffer}

/-! ## Faults -/

/-- The sizes that are met with a fault.  The bounds are looked at before the sum, and the sum
before the allocation. -/
inductive Faults (preBuffer maxPacket : UInt64) : ConstructionFault → Prop where
  | noPreBuffer (missing : preBuffer = 0) : Faults preBuffer maxPacket (.refused .noPreBuffer)
  | tooSmall (present : preBuffer ≠ 0) (small : maxPacket.toNat < minPacketSize) :
      Faults preBuffer maxPacket (.refused (.bufferTooSmall maxPacket.toNat minPacketSize))
  | sumOverflow (present : preBuffer ≠ 0) (enough : minPacketSize ≤ maxPacket.toNat)
      (unsized : wordCount ≤ preBuffer.toNat + 1 + maxPacket.toNat) :
      Faults preBuffer maxPacket .sumOverflow
  | allocationOverflow (present : preBuffer ≠ 0) (enough : minPacketSize ≤ maxPacket.toNat)
      (sized : preBuffer.toNat + 1 + maxPacket.toNat < wordCount)
      (unallocated : allocationLimit ≤ preBuffer.toNat + 1 + maxPacket.toNat) :
      Faults preBuffer maxPacket .allocationOverflow

/-- The constructor reports the fault that its sizes are met with. -/
theorem new_eq_error_iff {fault : ConstructionFault} :
    new preBuffer maxPacket = .error fault ↔ Faults preBuffer maxPacket fault := by
  constructor
  · intro failed
    unfold new at failed
    split at failed
    case isTrue missing =>
      cases failed
      exact .noPreBuffer missing
    split at failed
    case isTrue present small =>
      cases failed
      exact .tooSmall present small
    simp only at failed
    split at failed
    case isTrue present enough unsized =>
      cases failed
      exact .sumOverflow present (Nat.not_lt.mp enough) unsized
    split at failed
    case isTrue present enough sized unallocated =>
      cases failed
      exact .allocationOverflow present (Nat.not_lt.mp enough) (Nat.not_le.mp sized) unallocated
    cases failed
  · intro faults
    cases faults with
    | noPreBuffer missing => rw [new, if_pos missing]
    | tooSmall present small => rw [new, if_neg present, if_pos small]
    | sumOverflow present enough unsized =>
      rw [new, if_neg present, if_neg (Nat.not_lt.mpr enough)]
      exact if_pos unsized
    | allocationOverflow present enough sized unallocated =>
      rw [new, if_neg present, if_neg (Nat.not_lt.mpr enough)]
      exact (if_neg (Nat.not_le.mpr sized)).trans (if_pos unallocated)

/-- The program ends for sizes that are not refused, but cannot be allocated. -/
theorem endsProgram_iff :
    (∃ fault, new preBuffer maxPacket = .error fault ∧ fault.endsProgram = true) ↔
      preBuffer ≠ 0 ∧ minPacketSize ≤ maxPacket.toNat ∧
        allocationLimit ≤ preBuffer.toNat + 1 + maxPacket.toNat := by
  have limit : allocationLimit ≤ wordCount := by decide
  simp only [new_eq_error_iff]
  constructor
  · rintro ⟨fault, faults, ends⟩
    cases faults with
    | noPreBuffer | tooSmall => cases ends
    | sumOverflow present enough unsized => exact ⟨present, enough, limit.trans unsized⟩
    | allocationOverflow present enough _ unallocated => exact ⟨present, enough, unallocated⟩
  · rintro ⟨present, enough, unallocated⟩
    by_cases sized : preBuffer.toNat + 1 + maxPacket.toNat < wordCount
    · exact ⟨_, .allocationOverflow present enough sized unallocated, rfl⟩
    · exact ⟨_, .sumOverflow present enough (Nat.not_lt.mp sized), rfl⟩

/-! ## Buffers -/

/-- The logical view, `none` where the pre-buffer is longer than the storage. -/
def logical? (buffer : ReceiveBuffer) : Option (List UInt8) :=
  if buffer.preBuffer ≤ buffer.storage.length then some buffer.logical else none

/-- A buffer is as it was asked for: it has every byte, its view is as long as its capacity, and
every block inside the capacity has its place. -/
structure Exact (preBuffer maxPacket : Nat) (buffer : ReceiveBuffer) : Prop where
  preBuffer_eq : buffer.preBuffer = preBuffer
  maxPacket_eq : buffer.maxPacket = maxPacket
  length_storage : buffer.storage.length = preBuffer + 1 + maxPacket
  capacity_eq : buffer.capacity = 1 + maxPacket
  view : ∃ bytes, buffer.logical? = some bytes ∧ bytes.length = 1 + maxPacket
  writes : ∀ offset block, offset + block.length ≤ 1 + maxPacket →
    ∃ next, buffer.write? offset block = some (.ok next)

theorem WellFormed.exact (formed : buffer.WellFormed) :
    buffer.Exact buffer.preBuffer buffer.maxPacket where
  preBuffer_eq := rfl
  maxPacket_eq := rfl
  length_storage := formed.length_storage
  capacity_eq := rfl
  view := by
    have inside : buffer.preBuffer ≤ buffer.storage.length := by
      rw [formed.length_storage]
      omega
    exact ⟨buffer.logical, if_pos inside, formed.length_logical⟩
  writes offset block fits := by
    rw [formed.write?_eq, formed.write_eq fits]
    exact ⟨_, rfl⟩

/-- What is made is what was asked for. -/
theorem exact_of_new (made : new preBuffer maxPacket = .ok buffer) :
    buffer.Exact preBuffer.toNat maxPacket.toNat := by
  have formed := (wellFormed_of_new made).1
  obtain ⟨-, -, -, rfl⟩ := new_eq_ok_iff.mp made
  exact formed.exact

/-- For all sizes the outcome is a fault or the buffer that was asked for.

A missing pre-buffer and a packet size that is too small are refused, each with its own error.
Sizes that are not refused give a buffer exactly if the sum of them and one can be allocated, and
end the program otherwise.  Every buffer that is made has exactly the bytes, the view and the
capacity that were asked for, and every block inside the capacity has its place. -/
theorem new_exact_or_faults (preBuffer maxPacket : UInt64) :
    let size := preBuffer.toNat + 1 + maxPacket.toNat
    let result := new preBuffer maxPacket
    (∀ fault, result = .error fault ↔ Faults preBuffer maxPacket fault) ∧
      ((∃ fault, result = .error fault ∧ fault.endsProgram = true) ↔
        preBuffer ≠ 0 ∧ minPacketSize ≤ maxPacket.toNat ∧ allocationLimit ≤ size) ∧
      ((∃ buffer, result = .ok buffer) ↔
        preBuffer ≠ 0 ∧ minPacketSize ≤ maxPacket.toNat ∧ size < allocationLimit) ∧
      ∀ buffer, result = .ok buffer → buffer.Exact preBuffer.toNat maxPacket.toNat := by
  intro size result
  refine ⟨fun _ => new_eq_error_iff, endsProgram_iff, ⟨?made, ?given⟩, fun _ => exact_of_new⟩
  case made =>
    rintro ⟨buffer, made⟩
    obtain ⟨present, enough, small, -⟩ := new_eq_ok_iff.mp made
    exact ⟨present, enough, small⟩
  case given =>
    rintro ⟨present, enough, small⟩
    exact ⟨_, new_eq_ok_iff.mpr ⟨present, enough, small, rfl⟩⟩

/-- The smallest sizes give the buffer that was asked for; a packet size of half a word ends the
program. -/
theorem new_least_exact :
    (∃ buffer, new 1 258 = .ok buffer ∧ buffer.Exact 1 258) ∧
      ∃ fault, new 1 0x8000000000000000 = .error fault ∧ fault.endsProgram = true := by
  refine ⟨?least, ?ended⟩
  case least =>
    obtain ⟨-, -, given, exactly⟩ := new_exact_or_faults 1 258
    obtain ⟨buffer, made⟩ := given.mpr (by decide)
    exact ⟨buffer, made, exactly buffer made⟩
  case ended =>
    obtain ⟨-, ended, -, -⟩ := new_exact_or_faults 1 0x8000000000000000
    exact ended.mpr (by decide)

/-- With the largest packet size there is neither an error nor a buffer: the sum is no word, and
the program ends. -/
theorem new_largest_ends_program :
    new 1 0xFFFFFFFFFFFFFFFF = .error .sumOverflow ∧
      ConstructionFault.sumOverflow.endsProgram = true ∧
      ¬ ((∃ error, new 1 0xFFFFFFFFFFFFFFFF = .error (.refused error)) ∨
        ∃ buffer, new 1 0xFFFFFFFFFFFFFFFF = .ok buffer ∧ buffer.Exact 1 (2 ^ 64 - 1)) := by
  have ended : new 1 0xFFFFFFFFFFFFFFFF = .error .sumOverflow := by decide
  refine ⟨ended, rfl, ?_⟩
  rw [ended]
  rintro (⟨error, refused⟩ | ⟨buffer, made, -⟩)
  · cases refused
  · cases made

end HciSerial.ReceiveBuffer
