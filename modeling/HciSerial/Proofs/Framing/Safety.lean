import HciSerial.Proofs.Framing.Simulation

/-!
# The framer under any driver

Whatever blocks a driver hands over, and however framers are reset and copied in
between, what a framer awaits agrees with the bytes in its buffer and fits behind them.
So no index leaves the buffer, no difference is negative, and nothing overflows.

## Main Definitions

* `ReceiveBuffer.Allocated`: the buffers that can be made.
* `Framer.Coherent`: what is awaited agrees with the bytes in the buffer.
* `Framer.receive?`: taking a block, with every index and every difference checked.
* `Framer.Handling`: what can be done with framers that are copied and used in any order.

## Main Results

* `Framer.Holds.coherent`: blocks, resets and copies lead to coherent framers only.
* `Framer.Holds.receive?_eq`: no check of `Framer.receive?` ever fails.
* `Framer.coherent_of_handled`: both, over every run.

## Design Notes

Reads outside a list give a default value, and differences stop at zero, so the definition
of `Framer.receive` alone does not show that it stays inside the buffer.  `receive?` takes
the same steps and gives `none` where an index, a range or a difference is improper.
-/

namespace HciSerial

namespace ReceiveBuffer

/-! ## Buffers -/

/-- The buffers that can be made, so that their sizes can be allocated, and the one used unless
another is asked for. -/
inductive Allocated : ReceiveBuffer → Prop where
  | made {preBuffer maxPacket : UInt64} {buffer : ReceiveBuffer}
      (made : new preBuffer maxPacket = .ok buffer) : Allocated buffer
  | default : Allocated .default

theorem Allocated.wellFormed {buffer : ReceiveBuffer} (allocated : buffer.Allocated) :
    buffer.WellFormed := by
  cases allocated with
  | made made => exact (wellFormed_of_new made).1
  | default => exact (wellFormed_of_new new_default).1

/-- Other bytes in the storage leave the layout as it is. -/
theorem WellFormed.refill {buffer : ReceiveBuffer} (formed : buffer.WellFormed)
    {contents : List UInt8} (same : contents.length = buffer.storage.length) :
    WellFormed { buffer with storage := contents } where
  least := formed.least
  length_storage := same.trans formed.length_storage
  addressable := formed.addressable

/-- The byte at a position of the logical view, `none` outside it. -/
def byteAt? (buffer : ReceiveBuffer) (position : Nat) : Option UInt8 :=
  buffer.logical[position]?

/-- The bytes of the logical view from `start` up to `stop`, `none` for an improper range. -/
def slice? (buffer : ReceiveBuffer) (start stop : Nat) : Option (List UInt8) :=
  if start ≤ stop ∧ stop ≤ buffer.logical.length then
    some ((buffer.logical.drop start).take (stop - start))
  else none

/-- Copies a block, `none` for one that is accepted but has no place in the storage. -/
def write? (buffer : ReceiveBuffer) (offset : Nat) (block : List UInt8) :
    Option (Except FramingError ReceiveBuffer) :=
  match (blockEnd? offset block.length).filter (· ≤ buffer.capacity) with
  | none => some (buffer.write offset block)
  | some stop =>
    if buffer.preBuffer ≤ buffer.storage.length ∧ offset ≤ stop ∧
        stop ≤ buffer.logical.length then
      some (buffer.write offset block)
    else none

theorem byteAt?_eq {buffer : ReceiveBuffer} {position : Nat}
    (inside : position < buffer.logical.length) :
    buffer.byteAt? position = some (buffer.byteAt position) := by
  rw [byteAt?, byteAt, List.getElem?_eq_getElem inside, List.getD_eq_getElem _ _ inside]

/-- In a buffer of the established layout, an accepted block has its place. -/
theorem WellFormed.write?_eq {buffer : ReceiveBuffer} (formed : buffer.WellFormed)
    (offset : Nat) (block : List UInt8) :
    buffer.write? offset block = some (buffer.write offset block) := by
  unfold write?
  split
  case h_1 => rfl
  case h_2 stop accepted =>
    rw [formed.filter_blockEnd?, Option.ite_none_right_eq_some] at accepted
    obtain ⟨inside, same⟩ := accepted
    obtain rfl := Option.some.inj same
    have storage := formed.length_storage
    refine if_pos ⟨by omega, Nat.le_add_right _ _, ?_⟩
    rw [formed.length_logical]
    exact inside

end ReceiveBuffer

namespace Framer

variable {framer : Framer} {maxPacket : Nat}

/-! ## The state of a framer -/

/-- The framer awaits the header of a kind, behind its tag. -/
structure AwaitsHeader (framer : Framer) (kind : PacketKind) : Prop where
  tag : framer.buffer.byteAt 0 = kind.tag
  position : framer.position = 1
  wanted : framer.wanted = kind.headerSize

/-- The framer awaits the payload that the header in the buffer declares, behind it. -/
structure AwaitsPayload (framer : Framer) (kind : PacketKind) : Prop where
  tag : PacketKind.ofReceivableTag? (framer.buffer.byteAt 0) = some kind
  position : framer.position = 1 + kind.headerSize
  wanted : kind.payloadLength? ((framer.buffer.logical.take framer.position).drop 1) =
    some framer.wanted

/-- What is awaited agrees with the bytes in the buffer, and fits behind them. -/
structure Coherent (framer : Framer) : Prop where
  kind : framer.state = .awaitingKind → framer.position = 0 ∧ framer.wanted = 1
  header : ∀ kind : PacketKind, kind.receivable = true → framer.state = .header kind →
    framer.AwaitsHeader kind
  payload : framer.state = .awaitingPayload → ∃ kind, framer.AwaitsPayload kind
  room : framer.position + framer.wanted ≤ framer.buffer.capacity

theorem header_ne_awaitingKind (kind : PacketKind) : FrameState.header kind ≠ .awaitingKind := by
  cases kind <;> decide

theorem header_ne_awaitingPayload (kind : PacketKind) :
    FrameState.header kind ≠ .awaitingPayload := by
  cases kind <;> decide

theorem header_injective {left right : PacketKind} (first : left.receivable = true)
    (second : right.receivable = true)
    (same : FrameState.header left = FrameState.header right) : left = right := by
  cases left <;> cases right <;> simp_all [FrameState.header, PacketKind.receivable]

/-- A framer that has received the beginning of a segment is coherent. -/
theorem Holds.coherent {received : List UInt8} (holds : framer.Holds maxPacket received) :
    framer.Coherent := by
  have room : framer.position + framer.wanted ≤ framer.buffer.capacity := by
    rw [ReceiveBuffer.capacity, holds.size, holds.position_eq]
    exact holds.stage.room (holds.size ▸ holds.formed.least)
  have position := holds.position_eq
  have first : ∀ inside : 0 < received.length, framer.buffer.byteAt 0 = received[0] :=
    holds.toCarries.byteAt
  have contents := holds.contents
  have stage := holds.stage
  generalize stateEq : framer.state = state at stage
  generalize wantedEq : framer.wanted = wanted at stage
  -- each stage is the one of a state, so the other two fields speak of no state
  cases stage with
  | boundary =>
    refine ⟨fun _ => ⟨position, wantedEq⟩, fun kind _ same => ?_, fun same => ?_, room⟩
    · exact absurd (same.symm.trans stateEq) (header_ne_awaitingKind kind)
    · cases stateEq.symm.trans same
  | @header awaited receivable =>
    refine ⟨fun same => ?_, fun kind other same => ?_, fun same => ?_, room⟩
    · exact absurd (stateEq.symm.trans same) (header_ne_awaitingKind awaited)
    · obtain rfl := header_injective other receivable (same.symm.trans stateEq)
      exact ⟨first Nat.one_pos, position, wantedEq⟩
    · exact absurd (stateEq.symm.trans same) (header_ne_awaitingPayload awaited)
  | @payload kind header length receivable complete declared fits =>
    refine ⟨fun same => ?_, fun other _ same => ?_, fun _ => ⟨kind, ?_, ?_, ?_⟩, room⟩
    · cases stateEq.symm.trans same
    · exact absurd (same.symm.trans stateEq) (header_ne_awaitingPayload other)
    · rw [first (Nat.succ_pos _)]
      exact PacketKind.ofReceivableTag?_eq_some_iff.mpr ⟨rfl, receivable⟩
    · rw [position, List.length_cons, complete, Nat.add_comm]
    · rw [contents, wantedEq]
      exact declared

/-! ## Checked steps -/

/-- Looks at the buffer as `advance` does, with every index and every difference checked. -/
def advance? (framer : Framer) : Option (Verdict × Framer) :=
  match framer.state with
  | .awaitingKind => do
    let tag ← framer.buffer.byteAt? 0
    match PacketKind.ofReceivableTag? tag with
    | none => some (.error (.invalidKind tag), framer.reset)
    | some kind =>
      some (.ok none, { framer with state := .header kind, wanted := kind.headerSize })
  | .awaitingEventHeader => do
    let length ← framer.buffer.byteAt? 2
    some (.ok none, framer.awaitPayload length.toNat)
  | .awaitingAclHeader => do
    let low ← framer.buffer.byteAt? 3
    let high ← framer.buffer.byteAt? 4
    let length := low.toNat + 256 * high.toNat
    if PacketKind.acl.headerSize + length > framer.buffer.maxPacket then
      let room ← framer.buffer.maxPacket.psub PacketKind.acl.headerSize
      some (.error (.aclTooLarge length room), framer.reset)
    else some (.ok none, framer.awaitPayload length)
  | .awaitingScoHeader => do
    let length ← framer.buffer.byteAt? 3
    some (.ok none, framer.awaitPayload length.toNat)
  | .awaitingPayload => do
    let tag ← framer.buffer.byteAt? 0
    match PacketKind.ofTag? tag with
    | none => some (.error (.invalidKind tag), framer.reset)
    | some kind =>
      let data ← framer.buffer.slice? 1 framer.position
      some (.ok (some ⟨kind, data⟩), framer.reset)

/-- Takes a block as `receive` does, with every index and every difference checked. -/
def receive? (framer : Framer) (block : List UInt8) : Option (Verdict × Framer) :=
  if block.length ≠ framer.wanted then
    some (.error (.unexpectedLength framer.wanted block.length), framer.reset)
  else do
    match ← framer.buffer.write? framer.position block with
    | .error e => some (.error e, framer.reset)
    | .ok buffer =>
      advance? { framer with buffer, position := framer.position + framer.wanted }

/-- Once a byte has been received, no check fails. -/
theorem Carries.advance?_eq {bytes : List UInt8} (carries : framer.Carries maxPacket bytes)
    (nonempty : bytes ≠ []) : framer.advance? = some framer.advance := by
  have long : 258 < framer.buffer.logical.length := by
    rw [carries.formed.length_logical]
    exact Nat.lt_of_le_of_lt carries.formed.least (by omega)
  have byte : ∀ position, position ≤ 4 →
      framer.buffer.byteAt? position = some (framer.buffer.byteAt position) :=
    fun position low => ReceiveBuffer.byteAt?_eq (by omega)
  have room : framer.buffer.maxPacket.psub PacketKind.acl.headerSize =
      some (framer.buffer.maxPacket - PacketKind.acl.headerSize) := by
    refine Nat.psub_eq_sub (Nat.le_trans ?_ carries.formed.least)
    decide
  have data : framer.buffer.slice? 1 framer.position =
      some ((framer.buffer.logical.drop 1).take (framer.position - 1)) := by
    have inside : framer.position ≤ framer.buffer.logical.length := by
      have held := congrArg List.length carries.contents
      rw [List.length_take, ← carries.position_eq] at held
      omega
    refine if_pos ⟨?_, inside⟩
    rw [carries.position_eq]
    exact List.length_pos_iff.mpr nonempty
  unfold advance? advance
  cases framer.state with
  | awaitingKind =>
    simp only [byte 0 (by omega), Option.bind_eq_bind, Option.bind_some]
    cases PacketKind.ofReceivableTag? (framer.buffer.byteAt 0) <;> rfl
  | awaitingEventHeader => simp only [byte 2 (by omega), Option.bind_eq_bind, Option.bind_some]
  | awaitingAclHeader =>
    simp only [byte 3 (by omega), byte 4 (by omega), room, Option.bind_eq_bind, Option.bind_some]
    split <;> rfl
  | awaitingScoHeader => simp only [byte 3 (by omega), Option.bind_eq_bind, Option.bind_some]
  | awaitingPayload =>
    simp only [byte 0 (by omega), data, Option.bind_eq_bind, Option.bind_some]
    cases PacketKind.ofTag? (framer.buffer.byteAt 0) <;> rfl

theorem Stage.append_ne_nil {received block : List UInt8} {state : FrameState}
    (stage : Stage maxPacket received state block.length) : received ++ block ≠ [] := by
  generalize lengthEq : block.length = length at stage
  cases stage with
  | boundary =>
    rw [List.nil_append]
    exact List.ne_nil_of_length_eq_add_one lengthEq
  | header | payload => exact List.cons_ne_nil _ _

/-- No check of a block fails, whatever its length. -/
theorem Holds.receive?_eq {received : List UInt8} (holds : framer.Holds maxPacket received)
    (block : List UInt8) : framer.receive? block = some (framer.receive block) := by
  unfold receive? Framer.receive
  split
  case isTrue => rfl
  case isFalse same =>
    have asked : block.length = framer.wanted := not_not.mp same
    obtain ⟨buffer, written, carries⟩ := holds.write asked
    rw [holds.formed.write?_eq, written]
    exact carries.advance?_eq (Stage.append_ne_nil (asked.symm ▸ holds.stage))

/-! ## Verdicts -/

/-- Only a byte at a packet boundary is rejected alone. -/
theorem Stage.awaitingKind_of_stray {received block : List UInt8} {state : FrameState}
    {byte : UInt8} (stage : Stage maxPacket received state block.length)
    (alone : received ++ block = [byte]) : state = .awaitingKind := by
  have length := congrArg List.length alone
  rw [List.length_append, List.length_singleton] at length
  generalize block.length = wanted at stage length
  cases stage with
  | boundary => rfl
  | @header kind =>
    rw [List.length_singleton] at length
    cases kind <;> simp only [PacketKind.headerSize] at length <;> omega
  | @payload kind header _ _ complete =>
    rw [List.length_cons, complete] at length
    cases kind <;> simp only [PacketKind.headerSize] at length <;> omega

/-- A block is never refused by the buffer. -/
theorem Holds.receive_ne_overflow {received : List UInt8}
    (holds : framer.Holds maxPacket received) (block : List UInt8)
    (offset length capacity : Nat) :
    (framer.receive block).1 ≠ .error (.overflow offset length capacity) := by
  intro refused
  by_cases asked : block.length = framer.wanted
  · have progress := holds.receive asked
    generalize framer.receive block = result at progress refused
    cases progress with
    | ongoing => cases refused
    | complete reports segment =>
      subst refused
      cases reports
      generalize received ++ block = bytes at segment
      cases segment
  · rw [Framer.receive, if_pos asked] at refused
    cases refused

/-- A tag is rejected at a packet boundary only. -/
theorem Holds.awaitingKind_of_invalidKind {received : List UInt8}
    (holds : framer.Holds maxPacket received) {block : List UInt8} {byte : UInt8}
    (rejected : (framer.receive block).1 = .error (.invalidKind byte)) :
    framer.state = .awaitingKind := by
  by_cases asked : block.length = framer.wanted
  · have stage := holds.stage
    rw [← asked] at stage
    have progress := holds.receive asked
    generalize framer.receive block = result at progress rejected
    cases progress with
    | ongoing => cases rejected
    | complete reports segment =>
      subst rejected
      cases reports
      generalize whole : received ++ block = bytes at segment
      cases segment
      exact stage.awaitingKind_of_stray whole
  · rw [Framer.receive, if_pos asked] at rejected
    cases rejected

/-! ## Framers in use -/

/-- What can be done with framers that are known by their places in a list. -/
inductive Handling where
  /-- A framer takes a block. -/
  | receive (index : Nat) (block : List UInt8)
  /-- A framer goes back to the packet boundary. -/
  | reset (index : Nat)
  /-- A framer is copied, to be used beside the old one. -/
  | copy (index : Nat)

/-- The framers after one handling. -/
def handle (framers : List Framer) : Handling → List Framer
  | .receive index block => framers.modify index fun framer => (framer.receive block).2
  | .reset index => framers.modify index reset
  | .copy index => framers ++ framers[index]?.toList

/-- The framers after handlings in order. -/
def handleAll (framers : List Framer) (handlings : List Handling) : List Framer :=
  handlings.foldl handle framers

/-- What a change keeps of every framer, it keeps of all when it is made to one of them. -/
theorem forall_mem_modify {property : Framer → Prop} {framers : List Framer}
    (all : ∀ framer ∈ framers, property framer) (index : Nat) {change : Framer → Framer}
    (keeps : ∀ framer, property framer → property (change framer)) :
    ∀ framer ∈ framers.modify index change, property framer := by
  intro framer member
  obtain ⟨place, found⟩ := List.mem_iff_getElem?.mp member
  rw [List.getElem?_modify, Option.map_eq_map, Option.map_eq_some_iff] at found
  obtain ⟨old, there, rfl⟩ := found
  have before := all old (List.mem_of_getElem? there)
  split
  · exact keeps old before
  · exact before

/-- What blocks and resets keep of a framer, handlings keep of all framers. -/
theorem forall_mem_handleAll {property : Framer → Prop} {start : Framer} (holds : property start)
    (receives : ∀ framer block, property framer → property (framer.receive block).2)
    (resets : ∀ framer, property framer → property framer.reset) (handlings : List Handling) :
    ∀ framer ∈ handleAll [start] handlings, property framer := by
  refine List.foldlRecOn (motive := fun framers => ∀ framer ∈ framers, property framer) _ _
    (List.forall_mem_singleton.mpr holds) fun framers all handling _ => ?_
  cases handling with
  | receive index block => exact forall_mem_modify all index fun framer => receives framer block
  | reset index => exact forall_mem_modify all index resets
  | copy index =>
    refine List.forall_mem_append.mpr ⟨all, fun framer member => ?_⟩
    exact all framer (List.mem_of_getElem? (Option.mem_toList.mp member))

/-- Every run of handlings keeps every framer between a boundary and the next. -/
theorem handleAll_holds {buffer : ReceiveBuffer} (formed : buffer.WellFormed)
    (handlings : List Handling) :
    ∀ framer ∈ handleAll [new buffer] handlings,
      ∃ received, framer.Holds buffer.maxPacket received := by
  refine forall_mem_handleAll ⟨[], holds_new formed⟩ ?_ ?_ handlings
  · rintro framer block ⟨received, holds⟩
    exact holds.receive_any block
  · rintro framer ⟨received, holds⟩
    exact ⟨[], holds.reset⟩

/-- Framers that begin with an allocated buffer stay coherent, whatever the buffer contains
and whatever is done with them and with their copies.

Hence a block that is asked for always fits the buffer, no index and no difference is ever
improper, no block is refused by the buffer, and a tag is rejected at a packet boundary
only. -/
theorem coherent_of_handled {buffer : ReceiveBuffer} (allocated : buffer.Allocated)
    {contents : List UInt8} (same : contents.length = buffer.storage.length)
    (handlings : List Handling) :
    ∀ framer ∈ handleAll [new { buffer with storage := contents }] handlings,
      framer.Coherent ∧
        framer.nextRead.1 + framer.nextRead.2 ≤ framer.buffer.capacity ∧
        ∀ block, framer.receive? block = some (framer.receive block) ∧
          (∀ offset length capacity,
            (framer.receive block).1 ≠ .error (.overflow offset length capacity)) ∧
          ∀ byte, (framer.receive block).1 = .error (.invalidKind byte) →
            framer.state = .awaitingKind := by
  intro framer member
  obtain ⟨received, holds⟩ := handleAll_holds (allocated.wellFormed.refill same) handlings
    framer member
  refine ⟨holds.coherent, holds.coherent.room, fun block => ⟨holds.receive?_eq block, ?_, ?_⟩⟩
  · exact holds.receive_ne_overflow block
  · exact fun byte => holds.awaitingKind_of_invalidKind

/-- A copy that is made behind a tag is given a block that is too short, over a buffer full
of old bytes. -/
theorem coherent_copy_short_header :
    let stale := { ReceiveBuffer.default with storage := List.replicate 1027 0x02 }
    let framers := handleAll [new stale] [.receive 0 [0x04], .copy 0, .receive 1 [0x6E]]
    ReceiveBuffer.default.Allocated ∧
      (List.replicate 1027 (0x02 : UInt8)).length = ReceiveBuffer.default.storage.length ∧
      ∀ framer ∈ framers, framer.Coherent ∧
        framer.receive? [0x6E, 0x00] = some (framer.receive [0x6E, 0x00]) := by
  intro stale framers
  have same : (List.replicate 1027 (0x02 : UInt8)).length =
      ReceiveBuffer.default.storage.length := by
    rw [List.length_replicate]
    exact List.length_replicate.symm
  refine ⟨.default, same, fun framer member => ?_⟩
  obtain ⟨coherent, _, steps⟩ := coherent_of_handled .default same _ framer member
  exact ⟨coherent, (steps [0x6E, 0x00]).1⟩

end Framer

end HciSerial
