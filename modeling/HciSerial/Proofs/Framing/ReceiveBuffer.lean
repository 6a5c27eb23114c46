import HciSerial.Framing.ReceiveBuffer
import Mathlib

/-!
# Writing into a receive buffer

A buffer that its constructor made keeps its layout for ever, and a write inside
the capacity replaces exactly the bytes it covers.

## Main Definitions

* `ReceiveBuffer.WellFormed`: the layout that the constructor establishes.

## Main Results

* `ReceiveBuffer.new_eq_ok_iff`: which buffer is made, and for which sizes.
* `ReceiveBuffer.wellFormed_of_new`: the constructor establishes the layout.
* `ReceiveBuffer.WellFormed.write_eq`, `ReceiveBuffer.WellFormed.write_eq_ok`: what a write inside
  the capacity does.
-/

namespace HciSerial.ReceiveBuffer

/-- The storage holds the pre-buffer, a tag and the largest packet, and a position in
it is a machine word. -/
structure WellFormed (buffer : ReceiveBuffer) : Prop where
  least : minPacketSize ≤ buffer.maxPacket
  length_storage : buffer.storage.length = buffer.preBuffer + 1 + buffer.maxPacket
  addressable : 1 + buffer.maxPacket < wordCount

variable {preBuffer maxPacket : UInt64}

/-- Which buffer is made, and for which sizes. -/
theorem new_eq_ok_iff {buffer : ReceiveBuffer} :
    new preBuffer maxPacket = .ok buffer ↔
      preBuffer ≠ 0 ∧ minPacketSize ≤ maxPacket.toNat ∧
        preBuffer.toNat + 1 + maxPacket.toNat < allocationLimit ∧
        buffer = {
          storage := List.replicate (preBuffer.toNat + 1 + maxPacket.toNat) 0
          preBuffer := preBuffer.toNat
          maxPacket := maxPacket.toNat } := by
  have limit : allocationLimit < wordCount := by decide
  unfold new
  split
  case isTrue missing => exact ⟨nofun, fun ⟨present, _⟩ => absurd missing present⟩
  case isFalse present =>
    split
    case isTrue small => exact ⟨nofun, fun ⟨_, enough, _⟩ => absurd small (Nat.not_lt.mpr enough)⟩
    case isFalse enough =>
      simp only
      -- the two limits are met in the order in which the program meets them
      split
      case isTrue unsized => exact ⟨nofun, fun ⟨_, _, small, _⟩ => by omega⟩
      case isFalse sized =>
        split
        case isTrue unallocated => exact ⟨nofun, fun ⟨_, _, small, _⟩ => by omega⟩
        case isFalse allocated =>
          rw [Except.ok.injEq, eq_comm]
          exact ⟨fun same => ⟨present, Nat.not_lt.mp enough, Nat.not_le.mp allocated, same⟩,
            fun ⟨_, _, _, same⟩ => same⟩

/-- A new buffer has the layout, and the packet size that it was asked for. -/
theorem wellFormed_of_new {buffer : ReceiveBuffer}
    (made : new preBuffer maxPacket = .ok buffer) :
    buffer.WellFormed ∧ buffer.maxPacket = maxPacket.toNat := by
  obtain ⟨-, enough, small, rfl⟩ := new_eq_ok_iff.mp made
  have limit : allocationLimit < wordCount := by decide
  refine ⟨⟨enough, List.length_replicate, ?_⟩, rfl⟩
  show 1 + maxPacket.toNat < wordCount
  omega

theorem new_default : new 1 1025 = .ok default := by
  rfl

namespace WellFormed

variable {buffer : ReceiveBuffer}

/-- The end of a block is accepted exactly inside the capacity. -/
theorem filter_blockEnd? (formed : buffer.WellFormed) (offset length : Nat) :
    (blockEnd? offset length).filter (· ≤ buffer.capacity) =
      if offset + length ≤ 1 + buffer.maxPacket then some (offset + length) else none := by
  have word := formed.addressable
  unfold blockEnd? capacity
  split
  · rw [Option.filter_some]
    simp only [decide_eq_true_eq]
  · rw [Option.filter_none, if_neg (by omega)]

theorem length_logical (formed : buffer.WellFormed) :
    buffer.logical.length = 1 + buffer.maxPacket := by
  rw [logical, List.length_drop, formed.length_storage]
  omega

/-- A write inside the capacity splices the block into the storage. -/
theorem write_eq (formed : buffer.WellFormed) {offset : Nat} {block : List UInt8}
    (fits : offset + block.length ≤ 1 + buffer.maxPacket) :
    buffer.write offset block = .ok { buffer with
      storage := buffer.storage.take (buffer.preBuffer + offset) ++ block ++
        buffer.storage.drop (buffer.preBuffer + offset + block.length) } := by
  rw [write, formed.filter_blockEnd?, if_pos fits]

/-- A write inside the capacity succeeds: it replaces the bytes it covers, and the
layout stays. -/
theorem write_eq_ok (formed : buffer.WellFormed) {offset : Nat} {block : List UInt8}
    (fits : offset + block.length ≤ 1 + buffer.maxPacket) :
    ∃ next, buffer.write offset block = .ok next ∧ next.WellFormed ∧
      next.maxPacket = buffer.maxPacket ∧
      next.logical = buffer.logical.take offset ++ block ++
        buffer.logical.drop (offset + block.length) := by
  have storage := formed.length_storage
  have start : (buffer.storage.take (buffer.preBuffer + offset)).length =
      buffer.preBuffer + offset := List.length_take_of_le (by omega)
  refine ⟨_, formed.write_eq fits, ⟨formed.least, ?_, formed.addressable⟩, rfl, ?_⟩
  · simp only [List.length_append, start, List.length_drop]
    omega
  · show (buffer.storage.take (buffer.preBuffer + offset) ++ block ++
        buffer.storage.drop (buffer.preBuffer + offset + block.length)).drop buffer.preBuffer = _
    rw [List.append_assoc, List.drop_append_of_le_length (by omega), List.drop_take,
      Nat.add_sub_cancel_left, logical, List.drop_drop, List.append_assoc, Nat.add_assoc]

/-- What stood before a written block still stands before it. -/
theorem take_write (formed : buffer.WellFormed) {offset : Nat} {block : List UInt8}
    (fits : offset + block.length ≤ 1 + buffer.maxPacket) {next : ReceiveBuffer}
    (contents : next.logical = buffer.logical.take offset ++ block ++
      buffer.logical.drop (offset + block.length)) :
    next.logical.take (offset + block.length) = buffer.logical.take offset ++ block := by
  have start : (buffer.logical.take offset).length = offset := by
    rw [List.length_take_of_le]
    rw [formed.length_logical]
    omega
  rw [contents, List.take_left']
  rw [List.length_append, start]

end WellFormed

theorem byteAt_of_take {buffer : ReceiveBuffer} {count position : Nat} {bytes : List UInt8}
    (contents : buffer.logical.take count = bytes) (inside : position < bytes.length) :
    buffer.byteAt position = bytes[position] := by
  subst contents
  rw [byteAt, List.getElem_take, List.getD_eq_getElem?_getD, List.getElem?_eq_getElem,
    Option.getD_some]

end HciSerial.ReceiveBuffer
