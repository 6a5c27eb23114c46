import HciSerial.Framing.Framer
import HciSerial.Proofs.Framing.ReceiveBuffer
import HciSerial.Proofs.Framing.Segment

/-!
# The framer follows the grammar

While blocks of the requested lengths arrive, the state of the framer is a function
of the bytes since the last packet boundary: they lie at the front of the logical
view, and they decide what is awaited and how much of it.

## Main Definitions

* `Framer.Stage`: what is awaited after the bytes since the last boundary.
* `Framer.Holds`: the framer has received exactly these bytes since the last boundary.
* `Framer.Paced`: an empty block is wanted only as a payload.
* `Grammar.Item.ofVerdict?`: the item that a verdict of the framer reports.

## Main Results

* `Framer.Stage.unfinished`: no item is complete before the awaited block is.
* `Framer.Holds.receive`: one block leads to a later stage or completes a segment.
* `Framer.Holds.receive_segments`: the same, for the segments before the block.
* `Framer.Paced.wanted_receive_nil`: an empty block is followed by one of a byte.
-/

namespace HciSerial

/-- The item that a verdict reports, `none` while a packet goes on. -/
def Grammar.Item.ofVerdict? : Framer.Verdict → Option Grammar.Item
  | .ok none => none
  | .ok (some complete) => some (.packet complete)
  | .error error => some (.fault error)

namespace Framer

open Grammar

/-! ## What is awaited -/

/-- After the bytes since the last boundary: what is awaited, and how many bytes of it. -/
inductive Stage (maxPacket : Nat) : List UInt8 → FrameState → Nat → Prop where
  | boundary : Stage maxPacket [] .awaitingKind 1
  | header {kind : PacketKind} (receivable : kind.receivable = true) :
      Stage maxPacket [kind.tag] (.header kind) kind.headerSize
  | payload {kind : PacketKind} {header : List UInt8} {length : Nat}
      (receivable : kind.receivable = true)
      (complete : header.length = kind.headerSize)
      (declared : kind.payloadLength? header = some length)
      (fits : kind = .acl → kind.headerSize + length ≤ maxPacket) :
      Stage maxPacket (kind.tag :: header) .awaitingPayload length

namespace Stage

variable {maxPacket wanted : Nat} {received : List UInt8} {state : FrameState}

/-- The awaited block fits behind what has been received.

Events and synchronous data are not checked against the buffer; they fit because the
packet size is at least that of the largest of them. -/
theorem room (stage : Stage maxPacket received state wanted)
    (least : minPacketSize ≤ maxPacket) : received.length + wanted ≤ 1 + maxPacket := by
  unfold minPacketSize at least
  cases stage with
  | boundary => exact Nat.le_trans (by decide) (Nat.add_le_add_left least 1)
  | @header kind receivable => cases kind <;> simp only [PacketKind.headerSize,
      List.length_singleton] <;> omega
  | @payload kind header length receivable complete declared fits =>
    rw [List.length_cons, complete]
    -- only asynchronous data declares more than a byte can, and it has been checked
    by_cases isAcl : kind = .acl
    · have := fits isAcl
      omega
    · have small := PacketKind.payloadLength?_le declared isAcl
      cases kind with
      | command => cases receivable
      | acl => exact absurd rfl isAcl
      | sco | event => simp only [PacketKind.headerSize]; omega

/-- No item is complete before the awaited block is. -/
theorem unfinished (stage : Stage maxPacket received state wanted) {bytes : List UInt8}
    (short : bytes.length < wanted) : next? maxPacket (received ++ bytes) = none := by
  cases stage with
  | boundary =>
    have empty : bytes = [] := List.length_eq_zero_iff.mp (Nat.lt_one_iff.mp short)
    rw [empty]
    rfl
  | @header kind receivable =>
    have known := PacketKind.ofReceivableTag?_eq_some_iff.mpr ⟨rfl, receivable⟩
    have undeclared := PacketKind.payloadLength?_eq_none_iff.mpr short
    simp only [List.singleton_append, next?, known, undeclared]
  | @payload kind header length receivable complete declared fits =>
    have known := PacketKind.ofReceivableTag?_eq_some_iff.mpr ⟨rfl, receivable⟩
    have length? := PacketKind.payloadLength?_append complete bytes
    rw [declared] at length?
    have small : ¬ (kind = .acl ∧ kind.headerSize + wanted > maxPacket) := by
      rintro ⟨isAcl, large⟩
      exact absurd (fits isAcl) (Nat.not_le.mpr large)
    have cut : (header ++ bytes).length < kind.headerSize + wanted := by
      rw [List.length_append, complete]
      exact Nat.add_lt_add_left short _
    simp only [List.cons_append, next?, known, length?]
    rw [if_neg small, if_pos cut]

/-- An awaited payload of no bytes belongs to a packet that is complete already. -/
theorem segment_of_empty (stage : Stage maxPacket received state 0) :
    ∃ packet : Packet, Segment maxPacket received (.packet packet) ∧
      packet.declaredLength? = some 0 := by
  generalize empty : 0 = length at stage
  cases stage with
  | boundary => cases empty
  | @header kind => cases kind <;> cases empty
  | @payload kind header length receivable complete declared fits =>
    subst empty
    have whole : Segment maxPacket (kind.tag :: (header ++ [])) (.packet ⟨kind, header ++ []⟩) :=
      .packet receivable complete declared fits
    rw [List.append_nil] at whole
    exact ⟨⟨kind, header⟩, whole, declared⟩

end Stage

/-! ## What has been received -/

/-- The bytes before the write position of a buffer for packets of `maxPacket` bytes. -/
structure Carries (framer : Framer) (maxPacket : Nat) (bytes : List UInt8) : Prop where
  formed : framer.buffer.WellFormed
  size : framer.buffer.maxPacket = maxPacket
  position_eq : framer.position = bytes.length
  contents : framer.buffer.logical.take framer.position = bytes

/-- The framer has received exactly `received` since the last packet boundary. -/
structure Holds (framer : Framer) (maxPacket : Nat) (received : List UInt8) : Prop
    extends Carries framer maxPacket received where
  stage : Stage maxPacket received framer.state framer.wanted

/-- At a packet boundary one byte is awaited. -/
theorem Holds.wanted_eq_one {framer : Framer} {maxPacket : Nat}
    (holds : framer.Holds maxPacket []) : framer.wanted = 1 := by
  have stage := holds.stage
  generalize framer.state = state at stage
  generalize framer.wanted = wanted at stage ⊢
  cases stage
  rfl

/-- A framer at a packet boundary has received nothing. -/
theorem holds_new {buffer : ReceiveBuffer} (formed : buffer.WellFormed) :
    (new buffer).Holds buffer.maxPacket [] where
  formed := formed
  size := rfl
  position_eq := rfl
  contents := List.take_zero
  stage := .boundary

variable {framer : Framer} {maxPacket : Nat}

namespace Carries

variable {bytes : List UInt8}

theorem byteAt (carries : framer.Carries maxPacket bytes) {position : Nat}
    (inside : position < bytes.length) : framer.buffer.byteAt position = bytes[position] :=
  ReceiveBuffer.byteAt_of_take carries.contents inside

theorem reset (carries : framer.Carries maxPacket bytes) : framer.reset.Holds maxPacket [] :=
  carries.size ▸ holds_new carries.formed

theorem await (carries : framer.Carries maxPacket bytes) {state : FrameState} {wanted : Nat}
    (stage : Stage maxPacket bytes state wanted) :
    Holds { framer with state, wanted } maxPacket bytes :=
  ⟨⟨carries.formed, carries.size, carries.position_eq, carries.contents⟩, stage⟩

end Carries

/-! ## One block -/

/-- What one block amounts to: the packet goes on, or a segment ends with the block.

A packet goes on only after a block of at least one byte. -/
inductive Progress (maxPacket : Nat) (received block : List UInt8) : Verdict × Framer → Prop where
  | ongoing {next : Framer} (unread : block ≠ [])
      (holds : next.Holds maxPacket (received ++ block)) :
      Progress maxPacket received block (.ok none, next)
  | complete {verdict : Verdict} {item : Item} {next : Framer}
      (reports : Item.ofVerdict? verdict = some item)
      (segment : Segment maxPacket (received ++ block) item) (holds : next.Holds maxPacket []) :
      Progress maxPacket received block (verdict, next)

/-- A tag decides which header is awaited, and any other byte is rejected. -/
theorem advance_kind {byte : UInt8} (carries : framer.Carries maxPacket [byte])
    (state : framer.state = .awaitingKind) : Progress maxPacket [] [byte] framer.advance := by
  have first : framer.buffer.byteAt 0 = byte := carries.byteAt Nat.one_pos
  simp only [advance, state, first]
  cases known : PacketKind.ofReceivableTag? byte with
  | none => exact .complete rfl (.stray known) carries.reset
  | some kind =>
    obtain ⟨rfl, receivable⟩ := PacketKind.ofReceivableTag?_eq_some_iff.mp known
    exact .ongoing (List.cons_ne_nil _ _) (carries.await (.header receivable))

/-- A header decides how much payload is awaited; one that declares more than fits is
rejected. -/
theorem advance_header {kind : PacketKind} {header : List UInt8}
    (carries : framer.Carries maxPacket (kind.tag :: header))
    (state : framer.state = .header kind) (receivable : kind.receivable = true)
    (complete : header.length = kind.headerSize) :
    Progress maxPacket [kind.tag] header framer.advance := by
  have going : ∀ length, kind.payloadLength? header = some length →
      (kind = .acl → kind.headerSize + length ≤ maxPacket) →
      (framer.awaitPayload length).Holds maxPacket (kind.tag :: header) :=
    fun length declared fits => carries.await (.payload receivable complete declared fits)
  cases kind with
  | command => cases receivable
  | event =>
    obtain ⟨code, length, rfl⟩ := List.length_eq_two.mp complete
    have second : framer.buffer.byteAt 2 = length := carries.byteAt (by simp)
    simp only [advance, state, FrameState.header, second]
    exact .ongoing (List.cons_ne_nil _ _) (going _ rfl (by simp))
  | sco =>
    obtain ⟨low, high, length, rfl⟩ := List.length_eq_three.mp complete
    have third : framer.buffer.byteAt 3 = length := carries.byteAt (by simp)
    simp only [advance, state, FrameState.header, third]
    exact .ongoing (List.cons_ne_nil _ _) (going _ rfl (by simp))
  | acl =>
    obtain ⟨first, second, low, high, rfl⟩ := List.length_eq_four.mp complete
    have third : framer.buffer.byteAt 3 = low := carries.byteAt (by simp)
    have fourth : framer.buffer.byteAt 4 = high := carries.byteAt (by simp)
    simp only [advance, state, FrameState.header, third, fourth, carries.size]
    split
    · rename_i large
      exact .complete rfl (.oversized rfl rfl large) carries.reset
    · rename_i small
      exact .ongoing (List.cons_ne_nil _ _) (going _ rfl fun _ => Nat.not_lt.mp small)

/-- A payload completes the packet. -/
theorem advance_payload {kind : PacketKind} {header payload : List UInt8}
    (carries : framer.Carries maxPacket (kind.tag :: header ++ payload))
    (state : framer.state = .awaitingPayload) (receivable : kind.receivable = true)
    (complete : header.length = kind.headerSize)
    (declared : kind.payloadLength? header = some payload.length)
    (fits : kind = .acl → kind.headerSize + payload.length ≤ maxPacket) :
    Progress maxPacket (kind.tag :: header) payload framer.advance := by
  have first : framer.buffer.byteAt 0 = kind.tag := carries.byteAt (by simp)
  have data : (framer.buffer.logical.drop 1).take (framer.position - 1) = header ++ payload := by
    rw [← List.drop_take, carries.contents]
    rfl
  simp only [advance, state, first, PacketKind.ofTag?_tag, data]
  exact .complete rfl (.packet receivable complete declared fits) carries.reset

/-- Once the awaited block has been copied, the stage decides what it amounts to. -/
theorem advance_progress {received block : List UInt8} {state : FrameState}
    (carries : framer.Carries maxPacket (received ++ block)) (state_eq : framer.state = state)
    (stage : Stage maxPacket received state block.length) :
    Progress maxPacket received block framer.advance := by
  generalize length_eq : block.length = length at stage
  cases stage with
  | boundary =>
    obtain ⟨byte, rfl⟩ := List.length_eq_one_iff.mp length_eq
    exact advance_kind carries state_eq
  | header receivable => exact advance_header carries state_eq receivable length_eq
  | payload receivable complete declared fits =>
    subst length_eq
    exact advance_payload carries state_eq receivable complete declared fits

/-- A block of the requested length fits, so it is copied behind what has been received. -/
theorem Holds.write {received block : List UInt8} (holds : framer.Holds maxPacket received)
    (asked : block.length = framer.wanted) :
    ∃ buffer, framer.buffer.write framer.position block = .ok buffer ∧
      Carries { framer with buffer, position := framer.position + framer.wanted } maxPacket
        (received ++ block) := by
  have room := holds.stage.room (holds.size ▸ holds.formed.least)
  rw [← holds.position_eq, ← asked, ← holds.size] at room
  obtain ⟨buffer, written, formed, size, contents⟩ := holds.formed.write_eq_ok room
  have front := holds.formed.take_write room contents
  rw [holds.contents, asked] at front
  have position : framer.position + framer.wanted = (received ++ block).length := by
    rw [List.length_append, ← holds.position_eq, asked]
  exact ⟨buffer, written, formed, size.trans holds.size, position, front⟩

/-- A block of the requested length leads to a later stage or completes a segment. -/
theorem Holds.receive {received block : List UInt8} (holds : framer.Holds maxPacket received)
    (asked : block.length = framer.wanted) :
    Progress maxPacket received block (framer.receive block) := by
  obtain ⟨buffer, written, carries⟩ := holds.write asked
  rw [Framer.receive, if_neg (fun wrong => wrong asked), written]
  exact advance_progress carries rfl (asked.symm ▸ holds.stage)

/-- A block of the requested length goes on with the segments before it: what the verdict
reports is added to them, and the framer holds the bytes behind them. -/
theorem Holds.receive_segments {received block reported : List UInt8} {items : List Item}
    (holds : framer.Holds maxPacket received) (asked : block.length = framer.wanted)
    (made : Segments maxPacket reported items) :
    ∃ more next ahead, (Item.ofVerdict? (framer.receive block).1).toList = more ∧
      (framer.receive block).2.Holds maxPacket next ∧ Segments maxPacket ahead (items ++ more) ∧
      reported ++ received ++ block = ahead ++ next := by
  have progress := holds.receive asked
  generalize framer.receive block = result at progress ⊢
  cases progress with
  | ongoing _ after =>
    refine ⟨[], _, reported, rfl, after, ?_, List.append_assoc _ _ _⟩
    rw [List.append_nil]
    exact made
  | @complete verdict item next reports segment after =>
    refine ⟨[item], [], _, ?_, after, made.concat segment, ?_⟩
    · rw [reports]
      rfl
    · rw [List.append_nil, List.append_assoc]

/-- A block of any length leaves the framer between a boundary and the next; a wrong
length leads back to the boundary. -/
theorem Holds.receive_any {received : List UInt8} (holds : framer.Holds maxPacket received)
    (block : List UInt8) : ∃ next, (framer.receive block).2.Holds maxPacket next := by
  by_cases asked : block.length = framer.wanted
  · have progress := holds.receive asked
    generalize framer.receive block = result at progress ⊢
    cases progress with
    | ongoing _ more => exact ⟨_, more⟩
    | complete _ _ boundary => exact ⟨_, boundary⟩
  · rw [Framer.receive, if_pos asked]
    exact ⟨[], holds.toCarries.reset⟩

/-! ## Empty blocks -/

/-- An empty block is wanted only as a payload, which comes after a tag and a header. -/
def Paced (framer : Framer) : Prop :=
  framer.wanted = 0 → framer.state = .awaitingPayload

theorem paced_reset (framer : Framer) : framer.reset.Paced :=
  fun none => absurd none Nat.one_ne_zero

/-- Whatever the buffer tells, an empty block is wanted next only as a payload. -/
theorem paced_advance (framer : Framer) : framer.advance.2.Paced := by
  unfold advance
  split
  · split
    · exact framer.paced_reset
    · exact fun none => absurd none (PacketKind.headerSize_ne_zero _)
  · exact fun _ => rfl
  · simp only
    split
    · exact framer.paced_reset
    · exact fun _ => rfl
  · exact fun _ => rfl
  · split <;> exact framer.paced_reset

/-- After any block, an empty one is wanted only as a payload. -/
theorem paced_receive (framer : Framer) (block : List UInt8) :
    (framer.receive block).2.Paced := by
  unfold Framer.receive
  split
  · exact framer.paced_reset
  · split
    · exact framer.paced_reset
    · exact paced_advance _

/-- After an empty block one byte is wanted, whether the block was asked for or not. -/
theorem Paced.wanted_receive_nil (paced : framer.Paced) : (framer.receive []).2.wanted = 1 := by
  unfold Framer.receive
  split
  case isTrue => rfl
  case isFalse asked =>
    -- a payload ends the packet, be it accepted or not
    have state : framer.state = .awaitingPayload := paced (Decidable.not_not.mp asked).symm
    split
    · rfl
    · simp only [advance, state]
      split <;> rfl

/-- A framer between a boundary and the next wants an empty block only as a payload. -/
theorem Holds.paced {received : List UInt8} (holds : framer.Holds maxPacket received) :
    framer.Paced := by
  have stage := holds.stage
  unfold Paced
  generalize framer.state = state at stage ⊢
  generalize framer.wanted = wanted at stage ⊢
  cases stage with
  | boundary => exact fun none => absurd none Nat.one_ne_zero
  | @header kind => exact fun none => absurd none kind.headerSize_ne_zero
  | payload => exact fun _ => rfl

end Framer

end HciSerial
