import HciSerial.Proofs.Packet.Delivery

/-!
# Old bytes do not matter

The buffer of a framer is never cleared, so behind the bytes of the packet that goes on stand
those of earlier packets.  Two framers that differ only there, or in the bytes in front of the
logical view, cannot be told apart by anything that is done with them.

## Main Definitions

* `Framer.Sound`: what holds of every framer in use.
* `Framer.Agrees`: two framers differ only in bytes that have not been received.
* `Framer.observations`: what is seen of a run.
* `FrameState.reach`: how many bytes of the buffer a state looks at.

## Main Results

* `Framer.Coherent.reach_le`: every byte that is looked at has been received.
* `Framer.Sound.holds`: a sound framer holds the bytes in front of its position.
* `Framer.Agrees.receive`, `Framer.Agrees.run`: two framers that agree, block by block and over
  whole runs.
* `Framer.stale_bytes_unseen`: old bytes are never seen.

## Design Notes

This is noninterference with the received bytes as what is public.  The relation speaks of two
runs and is carried through them in lockstep; that no step looks further than what has been
received is a fact about one framer, and comes from `Framer.Coherent`.
-/

namespace HciSerial

/-- How many bytes at the front of the logical view are looked at once the awaited block has
been copied. -/
def FrameState.reach : FrameState → Nat
  | awaitingKind => 1
  | awaitingEventHeader => 3
  | awaitingAclHeader => 5
  | awaitingScoHeader => 4
  | awaitingPayload => 1

/-- A tag, the header of a receivable kind or a payload is awaited. -/
theorem FrameState.eq_awaitingKind_or_header_or_awaitingPayload (state : FrameState) :
    state = awaitingKind ∨
      (∃ kind : PacketKind, kind.receivable = true ∧ state = header kind) ∨
      state = awaitingPayload := by
  cases state with
  | awaitingKind => exact .inl rfl
  | awaitingEventHeader => exact .inr (.inl ⟨.event, rfl, rfl⟩)
  | awaitingAclHeader => exact .inr (.inl ⟨.acl, rfl, rfl⟩)
  | awaitingScoHeader => exact .inr (.inl ⟨.sco, rfl, rfl⟩)
  | awaitingPayload => exact .inr (.inr rfl)

/-- A header is looked at as far as it goes, and no further. -/
theorem FrameState.reach_header {kind : PacketKind} (receivable : kind.receivable = true) :
    (header kind).reach = 1 + kind.headerSize := by
  cases kind with
  | command => cases receivable
  | acl | sco | event => rfl

namespace Framer

variable {framer left right : Framer} {maxPacket : Nat}

/-! ## Framers in use -/

/-- What holds of every framer in use: its buffer has the layout, and what it awaits agrees with
the bytes in the buffer. -/
structure Sound (framer : Framer) : Prop where
  formed : framer.buffer.WellFormed
  coherent : framer.Coherent

/-- What the state looks at lies in front of the end of the awaited block. -/
theorem Coherent.reach_le (coherent : framer.Coherent) :
    framer.state.reach ≤ framer.position + framer.wanted := by
  rcases framer.state.eq_awaitingKind_or_header_or_awaitingPayload with
    boundary | ⟨kind, receivable, header⟩ | payload
  · obtain ⟨position, wanted⟩ := coherent.kind boundary
    rw [boundary, position, wanted]
    exact Nat.le_refl _
  · have awaits := coherent.header kind receivable header
    rw [header, FrameState.reach_header receivable, awaits.position, awaits.wanted]
  · obtain ⟨kind, awaits⟩ := coherent.payload payload
    rw [payload, awaits.position, Nat.add_assoc]
    exact Nat.le_add_right _ _

/-- The bytes in front of the position begin with the byte at the front. -/
theorem take_position_eq (some : 0 < framer.position)
    (inside : framer.position ≤ framer.buffer.logical.length) :
    framer.buffer.logical.take framer.position =
      framer.buffer.byteAt 0 :: (framer.buffer.logical.take framer.position).drop 1 := by
  have first : 0 < (framer.buffer.logical.take framer.position).length := by
    rw [List.length_take_of_le inside]
    exact some
  rw [ReceiveBuffer.byteAt_of_take rfl first]
  exact List.drop_eq_getElem_cons first

/-- A sound framer has received the bytes in front of its position. -/
theorem Sound.holds (sound : framer.Sound) :
    framer.Holds framer.buffer.maxPacket (framer.buffer.logical.take framer.position) := by
  obtain ⟨formed, coherent⟩ := sound
  have room := coherent.room
  rw [ReceiveBuffer.capacity] at room
  have inside : framer.position ≤ framer.buffer.logical.length := by
    rw [formed.length_logical]
    omega
  have position : framer.position = (framer.buffer.logical.take framer.position).length :=
    (List.length_take_of_le inside).symm
  refine ⟨⟨formed, rfl, position, rfl⟩, ?_⟩
  rcases framer.state.eq_awaitingKind_or_header_or_awaitingPayload with
    boundary | ⟨kind, receivable, header⟩ | payload
  · obtain ⟨first, wanted⟩ := coherent.kind boundary
    rw [first, wanted, boundary, List.take_zero]
    exact .boundary
  · have awaits := coherent.header kind receivable header
    have bytes := take_position_eq (awaits.position ▸ Nat.one_pos) inside
    rw [awaits.tag, List.drop_take, awaits.position, Nat.sub_self, List.take_zero] at bytes
    rw [awaits.position, bytes, header, awaits.wanted]
    exact .header receivable
  · obtain ⟨kind, awaits⟩ := coherent.payload payload
    obtain ⟨tag, receivable⟩ := PacketKind.ofReceivableTag?_eq_some_iff.mp awaits.tag
    have size := awaits.position
    have bytes := take_position_eq (by omega) inside
    have complete : ((framer.buffer.logical.take framer.position).drop 1).length =
        kind.headerSize := by
      rw [List.length_drop, ← position, size, Nat.add_sub_cancel_left]
    rw [bytes, tag, payload]
    exact .payload receivable complete awaits.wanted fun _ => by omega

theorem Holds.sound {received : List UInt8} (holds : framer.Holds maxPacket received) :
    framer.Sound :=
  ⟨holds.formed, holds.coherent⟩

theorem Sound.use (sound : framer.Sound) (use : Use) : (framer.use use).Sound :=
  (sound.holds.use use).sound

/-! ## Two framers -/

/-- Two framers differ only in bytes that neither has received. -/
structure Agrees (left right : Framer) : Prop where
  maxPacket : left.buffer.maxPacket = right.buffer.maxPacket
  state : left.state = right.state
  position : left.position = right.position
  wanted : left.wanted = right.wanted
  contents : left.buffer.logical.take left.position = right.buffer.logical.take right.position

namespace Agrees

/-- Framers at the packet boundary agree, whatever their buffers contain. -/
theorem boundary {first second : ReceiveBuffer} (same : first.maxPacket = second.maxPacket) :
    (new first).Agrees (new second) :=
  ⟨same, rfl, rfl, rfl, rfl⟩

theorem reset (agrees : left.Agrees right) : left.reset.Agrees right.reset :=
  boundary agrees.maxPacket

/-- Both have the same byte at a position that has been received. -/
theorem byteAt_eq (agrees : left.Agrees right) {position : Nat}
    (received : position < left.position) :
    left.buffer.byteAt position = right.buffer.byteAt position := by
  have same := congrArg (·[position]?) agrees.contents
  simp only [List.getElem?_take, if_pos received, if_pos (agrees.position ▸ received)] at same
  unfold ReceiveBuffer.byteAt
  rw [List.getD_eq_getElem?_getD, List.getD_eq_getElem?_getD, same]

theorem data_eq (agrees : left.Agrees right) :
    (left.buffer.logical.drop 1).take (left.position - 1) =
      (right.buffer.logical.drop 1).take (right.position - 1) := by
  rw [← List.drop_take, ← List.drop_take, agrees.contents]

theorem await (agrees : left.Agrees right) (state : FrameState) (wanted : Nat) :
    Agrees { left with state, wanted } { right with state, wanted } :=
  ⟨agrees.maxPacket, rfl, agrees.position, rfl, agrees.contents⟩

/-- If all that is looked at has been received, both come to the same verdict. -/
theorem advance (agrees : left.Agrees right) (deep : left.state.reach ≤ left.position) :
    left.advance.1 = right.advance.1 ∧ left.advance.2.Agrees right.advance.2 := by
  have byte : ∀ position, position < left.state.reach →
      right.buffer.byteAt position = left.buffer.byteAt position :=
    fun position near => (agrees.byteAt_eq (Nat.lt_of_lt_of_le near deep)).symm
  unfold Framer.advance
  rw [← agrees.state]
  cases state : left.state with
  | awaitingKind =>
    rw [state] at byte
    simp only [byte 0 (by decide)]
    cases PacketKind.ofReceivableTag? (left.buffer.byteAt 0) with
    | none => exact ⟨rfl, agrees.reset⟩
    | some kind => exact ⟨rfl, agrees.await _ _⟩
  | awaitingEventHeader =>
    rw [state] at byte
    rw [byte 2 (by decide)]
    exact ⟨rfl, agrees.await _ _⟩
  | awaitingAclHeader =>
    rw [state] at byte
    simp only [byte 3 (by decide), byte 4 (by decide), ← agrees.maxPacket]
    split
    · exact ⟨rfl, agrees.reset⟩
    · exact ⟨rfl, agrees.await _ _⟩
  | awaitingScoHeader =>
    rw [state] at byte
    rw [byte 3 (by decide)]
    exact ⟨rfl, agrees.await _ _⟩
  | awaitingPayload =>
    rw [state] at byte
    simp only [byte 0 (by decide), agrees.data_eq]
    cases PacketKind.ofTag? (left.buffer.byteAt 0) <;> exact ⟨rfl, agrees.reset⟩

/-- A block that is asked for is copied behind the same bytes in both. -/
theorem write (agrees : left.Agrees right) (leftFormed : left.buffer.WellFormed)
    (rightFormed : right.buffer.WellFormed) {block : List UInt8}
    (fits : left.position + block.length ≤ 1 + left.buffer.maxPacket)
    (asked : block.length = left.wanted) :
    ∃ first second, left.buffer.write left.position block = .ok first ∧
      right.buffer.write right.position block = .ok second ∧
      Agrees { left with buffer := first, position := left.position + left.wanted }
        { right with buffer := second, position := right.position + right.wanted } := by
  have fitsRight : right.position + block.length ≤ 1 + right.buffer.maxPacket := by
    rw [← agrees.position, ← agrees.maxPacket]
    exact fits
  obtain ⟨first, written, -, size, contents⟩ := leftFormed.write_eq_ok fits
  obtain ⟨second, writtenRight, -, sizeRight, contentsRight⟩ := rightFormed.write_eq_ok fitsRight
  have front := leftFormed.take_write fits contents
  have frontRight := rightFormed.take_write fitsRight contentsRight
  have position : left.position + left.wanted = right.position + right.wanted := by
    rw [agrees.position, agrees.wanted]
  refine ⟨first, second, written, writtenRight, ?_, agrees.state, position, agrees.wanted, ?_⟩
  · exact size.trans (agrees.maxPacket.trans sizeRight.symm)
  · show first.logical.take (left.position + left.wanted) =
      second.logical.take (right.position + right.wanted)
    rw [← agrees.wanted, ← asked, front, frontRight, agrees.contents]

/-- A block of any length is answered alike by both, and they still agree. -/
theorem receive (agrees : left.Agrees right) (leftSound : left.Sound) (rightSound : right.Sound)
    (block : List UInt8) :
    (left.receive block).1 = (right.receive block).1 ∧
      (left.receive block).2.Agrees (right.receive block).2 := by
  unfold Framer.receive
  rw [← agrees.wanted]
  by_cases asked : block.length = left.wanted
  · rw [if_neg (not_not.mpr asked), if_neg (not_not.mpr asked)]
    have fits := leftSound.coherent.room
    rw [ReceiveBuffer.capacity, ← asked] at fits
    obtain ⟨first, second, written, writtenRight, agree⟩ :=
      agrees.write leftSound.formed rightSound.formed fits asked
    rw [written, writtenRight, agrees.wanted]
    rw [agrees.wanted] at agree
    exact agree.advance (agrees.wanted ▸ leftSound.coherent.reach_le)
  · rw [if_pos asked, if_pos asked]
    exact ⟨rfl, agrees.reset⟩

end Agrees

/-! ## Runs -/

/-- What is seen of a use: the verdict on a block, the packets that it delivers, and the block
that is wanted next. -/
structure Observation where
  verdict : Option Verdict
  packets : List Packet
  nextRead : Nat × Nat
deriving DecidableEq

/-- What is seen of one use. -/
def observe (framer : Framer) : Use → Observation
  | .receive block => ⟨some (framer.receive block).1, delivered (framer.receive block).1,
      (framer.receive block).2.nextRead⟩
  | .reset => ⟨none, [], framer.reset.nextRead⟩

/-- What is seen of the uses of a run, in order. -/
def observations (framer : Framer) (uses : List Use) : List Observation :=
  (framer.history uses).map fun turn => turn.before.observe turn.use

/-- One use is seen alike of framers that agree, and they still agree. -/
theorem Agrees.use (agrees : left.Agrees right) (leftSound : left.Sound)
    (rightSound : right.Sound) (use : Use) :
    left.observe use = right.observe use ∧ (left.use use).Agrees (right.use use) := by
  cases use with
  | reset => exact ⟨rfl, agrees.reset⟩
  | receive block =>
    obtain ⟨verdict, after⟩ := agrees.receive leftSound rightSound block
    refine ⟨?_, after⟩
    have next : (left.receive block).2.nextRead = (right.receive block).2.nextRead := by
      rw [nextRead, nextRead, after.position, after.wanted]
    rw [observe, observe, verdict, next]

/-- A run is seen alike of framers that agree, and they agree after it. -/
theorem Agrees.run (agrees : left.Agrees right) (leftSound : left.Sound)
    (rightSound : right.Sound) (uses : List Use) :
    left.observations uses = right.observations uses ∧
      (left.afterUses uses).Agrees (right.afterUses uses) := by
  induction uses generalizing left right with
  | nil => exact ⟨rfl, agrees⟩
  | cons use rest ih =>
    obtain ⟨same, after⟩ := agrees.use leftSound rightSound use
    obtain ⟨later, final⟩ := ih after (leftSound.use use) (rightSound.use use)
    exact ⟨List.cons_eq_cons.mpr ⟨same, later⟩, final⟩

/-- A sound framer that awaits a tag is as good as new. -/
theorem Sound.eq_new (sound : framer.Sound) (state : framer.state = .awaitingKind) :
    framer = new framer.buffer := by
  obtain ⟨position, wanted⟩ := sound.coherent.kind state
  obtain ⟨buffer, _, _, _⟩ := framer
  cases state
  cases position
  cases wanted
  rfl

/-- What earlier packets have left in a buffer is never seen.

Whatever is done with a framer, over any buffer that can be made and whatever it contains, the
framer stays sound.  Sound framers for packets of one size that await the same block behind the
same bytes, whatever stands elsewhere in their buffers and however large their pre-buffers are,
give the same verdicts and packets and want the same blocks in every run, and have received the
same bytes after it.  So at a packet boundary a framer is as good as a new one. -/
theorem stale_bytes_unseen :
    (∀ (preBuffer maxPacket : UInt64) (buffer : ReceiveBuffer) (contents : List UInt8)
        (past : List Use), ReceiveBuffer.new preBuffer maxPacket = .ok buffer →
      contents.length = buffer.storage.length →
      ((new { buffer with storage := contents }).afterUses past).Sound) ∧
      (∀ (left right : Framer) (uses : List Use), left.Sound → right.Sound → left.Agrees right →
        left.observations uses = right.observations uses ∧
          (left.afterUses uses).Agrees (right.afterUses uses)) ∧
      ∀ (framer : Framer) (buffer : ReceiveBuffer) (uses : List Use), framer.Sound →
        framer.state = .awaitingKind → (new buffer).Sound →
        buffer.maxPacket = framer.buffer.maxPacket →
        framer.observations uses = (new buffer).observations uses := by
  refine ⟨?reached, ?lockstep, ?fresh⟩
  case reached =>
    intro preBuffer maxPacket buffer contents past made same
    exact ((holds_new_refilled made same).afterUses past).sound
  case lockstep =>
    intro left right uses leftSound rightSound agrees
    exact agrees.run leftSound rightSound uses
  case fresh =>
    intro framer buffer uses sound state newSound size
    have agrees : framer.Agrees (new buffer) := by
      rw [sound.eq_new state]
      exact .boundary size.symm
    exact (agrees.run sound newSound uses).1

/-- Two framers have received the tag of an event, one over a buffer full of old bytes, the
other over an empty buffer with a larger pre-buffer: the rest of the event makes the same packet
for both. -/
theorem stale_event_unseen :
    let stale := { ReceiveBuffer.default with storage := List.replicate 1027 0x02 }
    let blank : ReceiveBuffer := ⟨List.replicate 1033 0, 7, 1025⟩
    let left := (new stale).afterUses [.receive [0x04]]
    let right := (new blank).afterUses [.receive [0x04]]
    let uses : List Use := [.receive [0x0E, 0x01], .receive [0xAB]]
    ReceiveBuffer.new 7 1025 = .ok blank ∧ left.Sound ∧ right.Sound ∧ left.Agrees right ∧
      left.observations uses = [⟨some (.ok none), [], (3, 1)⟩,
        ⟨some (.ok (some ⟨.event, [0x0E, 0x01, 0xAB]⟩)), [⟨.event, [0x0E, 0x01, 0xAB]⟩], (0, 1)⟩] ∧
      right.observations uses = left.observations uses ∧
      ((new stale).afterUses (.receive [0x04] :: uses)).observations uses =
        (new blank).observations uses := by
  intro stale blank left right uses
  obtain ⟨reached, lockstep, fresh⟩ := stale_bytes_unseen
  have same : (List.replicate 1027 (0x02 : UInt8)).length =
      ReceiveBuffer.default.storage.length := by
    rw [List.length_replicate]
    exact List.length_replicate.symm
  have made : ReceiveBuffer.new 7 1025 = .ok blank := by decide +kernel
  have leftSound : ∀ past, ((new stale).afterUses past).Sound := fun past =>
    reached 1 1025 .default (List.replicate 1027 0x02) past ReceiveBuffer.new_default same
  have rightSound : ∀ past, ((new blank).afterUses past).Sound := fun past =>
    reached 7 1025 blank blank.storage past made rfl
  have agrees : left.Agrees right :=
    ⟨rfl, by decide +kernel, by decide +kernel, by decide +kernel, by decide +kernel⟩
  have whole : ((new stale).afterUses (.receive [0x04] :: uses)).state = .awaitingKind := by
    decide +kernel
  refine ⟨made, leftSound _, rightSound _, agrees, by decide +kernel, ?_, ?_⟩
  · exact (lockstep left right uses (leftSound _) (rightSound _) agrees).1.symm
  · exact fresh _ blank uses (leftSound _) whole (rightSound []) (by decide +kernel)

end Framer

end HciSerial
