import HciSerial.Proofs.Framing.Safety

/-!
# Every byte is what was written last

A receive buffer is changed by blocks that are copied into it and by bytes that are changed in
place.  After any sequence of such edits, a byte of the logical view is the one that was
written there last, and everything else is as the constructor left it.

## Main Definitions

* `ReceiveBuffer.Edit`: a change of the logical view.
* `ReceiveBuffer.afterEdits`: the buffer that edits leave.
* `ReceiveBuffer.lastWritten?`: the last byte that edits put at a position.

## Main Results

* `ReceiveBuffer.set?_eq_write`: changing a byte in place is copying a block of one byte.
* `ReceiveBuffer.WellFormed.edited`: one edit keeps the layout and everything outside its range.
* `ReceiveBuffer.Edited.afterEdits`: what holds after any sequence of edits.
* `Framer.edited_of_handled`: a framer changes its buffer by edits behind its position only.
* `ReceiveBuffer.writes_exact_and_confined`: all of this, for the buffers that can be allocated.

## Design Notes

A change of a longer stretch in place is one `Edit.set` for each of its bytes.
-/

namespace HciSerial

namespace ReceiveBuffer

/-! ## Edits -/

/-- A change of the logical view. -/
inductive Edit where
  /-- A block is copied to an offset. -/
  | write (offset : Nat) (block : List UInt8)
  /-- One byte is changed in place. -/
  | set (position : Nat) (value : UInt8)

namespace Edit

/-- Where an edit begins. -/
def offset : Edit → Nat
  | write offset _ => offset
  | set position _ => position

/-- The bytes that an edit brings. -/
def block : Edit → List UInt8
  | write _ block => block
  | set _ value => [value]

/-- Whether an edit ends inside the logical view for a packet size. -/
def fits (maxPacket : Nat) (edit : Edit) : Bool :=
  edit.offset + edit.block.length ≤ 1 + maxPacket

/-- The byte that an edit brings to a position, if it covers it. -/
def byte? (edit : Edit) (position : Nat) : Option UInt8 :=
  if edit.offset ≤ position then edit.block[position - edit.offset]? else none

/-- The byte that an edit puts at a position, if it covers it and ends inside the view. -/
def written? (maxPacket : Nat) (edit : Edit) (position : Nat) : Option UInt8 :=
  if edit.fits maxPacket then edit.byte? position else none

/-- An edit brings nothing to the positions outside its range. -/
theorem byte?_eq_none_iff {edit : Edit} {position : Nat} :
    edit.byte? position = none ↔
      position < edit.offset ∨ edit.offset + edit.block.length ≤ position := by
  unfold byte?
  split
  · rw [List.getElem?_eq_none_iff]
    omega
  · simp only [true_iff]
    omega

end Edit

/-- The buffer after an edit; one that is refused changes nothing. -/
def edit (buffer : ReceiveBuffer) : Edit → ReceiveBuffer
  | .write offset block => (buffer.write offset block).toOption.getD buffer
  | .set position value => (buffer.set? position value).getD buffer

/-- The buffer after edits in order. -/
def afterEdits (buffer : ReceiveBuffer) (edits : List Edit) : ReceiveBuffer :=
  edits.foldl edit buffer

/-- The last byte that edits put at a position, `none` if no edit did. -/
def lastWritten? (maxPacket : Nat) (edits : List Edit) (position : Nat) : Option UInt8 :=
  edits.reverse.findSome? fun edit => edit.written? maxPacket position

theorem lastWritten?_singleton (maxPacket : Nat) (edit : Edit) (position : Nat) :
    lastWritten? maxPacket [edit] position = edit.written? maxPacket position := by
  rw [lastWritten?, List.reverse_singleton, List.findSome?_cons, List.findSome?_nil]
  cases edit.written? maxPacket position <;> rfl

theorem lastWritten?_append (maxPacket : Nat) (edits later : List Edit) (position : Nat) :
    lastWritten? maxPacket (edits ++ later) position =
      (lastWritten? maxPacket later position).or (lastWritten? maxPacket edits position) := by
  rw [lastWritten?, List.reverse_append, List.findSome?_append]
  rfl

/-! ## One edit -/

variable {buffer : ReceiveBuffer}

theorem WellFormed.write_eq_error (formed : buffer.WellFormed) {offset : Nat}
    {block : List UInt8} (outside : 1 + buffer.maxPacket < offset + block.length) :
    buffer.write offset block = .error (.overflow offset block.length (1 + buffer.maxPacket)) := by
  rw [write, formed.filter_blockEnd?, if_neg (Nat.not_le.mpr outside)]
  rfl

/-- A write succeeds exactly inside the capacity, which is not reached by wrapping around. -/
theorem WellFormed.write_ok_iff (formed : buffer.WellFormed) (offset : Nat)
    (block : List UInt8) :
    (∃ next, buffer.write offset block = .ok next) ↔
      offset + block.length ≤ 1 + buffer.maxPacket := by
  refine ⟨fun ⟨next, written⟩ => ?_, fun fits => ⟨_, formed.write_eq fits⟩⟩
  by_contra outside
  rw [formed.write_eq_error (Nat.lt_of_not_le outside)] at written
  cases written

/-- A byte of a list into which a block has been spliced. -/
theorem getElem?_splice {bytes : List UInt8} {start : Nat} (inside : start ≤ bytes.length)
    (block : List UInt8) (index : Nat) :
    (bytes.take start ++ block ++ bytes.drop (start + block.length))[index]? =
      (if start ≤ index then block[index - start]? else none).or bytes[index]? := by
  have front : (bytes.take start).length = start := List.length_take_of_le inside
  rw [List.append_assoc]
  split
  case isTrue behind =>
    rw [List.getElem?_append_right (by omega), front]
    by_cases covered : index - start < block.length
    · rw [List.getElem?_append_left covered, List.getElem?_eq_getElem covered]
      rfl
    · rw [List.getElem?_append_right (by omega), List.getElem?_drop,
        List.getElem?_eq_none (by omega : block.length ≤ index - start), Option.none_or]
      congr 1
      omega
  case isFalse before =>
    rw [List.getElem?_append_left (by omega), List.getElem?_take_of_lt (by omega),
      Option.none_or]

/-- What a write that succeeds makes of a buffer: the sizes and the pre-buffer stay, and a byte
of the view comes from the block if the block covers it. -/
theorem WellFormed.of_write (formed : buffer.WellFormed) {offset : Nat} {block : List UInt8}
    {next : ReceiveBuffer} (written : buffer.write offset block = .ok next) :
    next.WellFormed ∧ next.preBuffer = buffer.preBuffer ∧ next.maxPacket = buffer.maxPacket ∧
      next.storage.take buffer.preBuffer = buffer.storage.take buffer.preBuffer ∧
      ∀ position, next.byteAt? position =
        (if offset ≤ position then block[position - offset]? else none).or
          (buffer.byteAt? position) := by
  have fits := (formed.write_ok_iff offset block).mp ⟨next, written⟩
  have storage := formed.length_storage
  obtain ⟨_, same, nextFormed, -, -⟩ := formed.write_eq_ok fits
  obtain rfl := Except.ok.inj (same.symm.trans written)
  obtain rfl := Except.ok.inj ((formed.write_eq fits).symm.trans written)
  have inside : buffer.preBuffer + offset ≤ buffer.storage.length := by omega
  refine ⟨nextFormed, rfl, rfl, ?front, fun position => ?contents⟩
  case front =>
    simp only
    rw [List.append_assoc, List.take_append_of_le_length, List.take_take, Nat.min_eq_left]
    · exact Nat.le_add_right _ _
    · rw [List.length_take_of_le inside]
      exact Nat.le_add_right _ _
  case contents =>
    simp only [byteAt?, logical, List.getElem?_drop]
    rw [getElem?_splice inside, Nat.add_sub_add_left]
    simp only [Nat.add_le_add_iff_left]

/-- Changing a byte in place is copying a block of one byte. -/
theorem set?_eq_write (formed : buffer.WellFormed) (position : Nat) (value : UInt8) :
    buffer.set? position value = (buffer.write position [value]).toOption := by
  have long := formed.length_logical
  unfold set?
  split
  case isTrue inside =>
    rw [formed.write_eq (by simp only [List.length_singleton]; omega)]
    have storage := formed.length_storage
    rw [List.set_eq_take_append_cons_drop, if_pos (by omega), List.append_assoc]
    rfl
  case isFalse outside =>
    rw [formed.write_eq_error (by simp only [List.length_singleton]; omega)]
    rfl

theorem edit_eq_write (formed : buffer.WellFormed) (edit : Edit) :
    buffer.edit edit = (buffer.write edit.offset edit.block).toOption.getD buffer := by
  cases edit with
  | write => rfl
  | set position value => rw [ReceiveBuffer.edit, set?_eq_write formed]; rfl

/-- What holds of the buffer that edits have made of another one: the layout and the pre-buffer
are as they were, and every byte is what was written there last. -/
structure Edited (start : ReceiveBuffer) (edits : List Edit) (now : ReceiveBuffer) : Prop where
  formed : now.WellFormed
  preBuffer : now.preBuffer = start.preBuffer
  maxPacket : now.maxPacket = start.maxPacket
  front : now.storage.take start.preBuffer = start.storage.take start.preBuffer
  contents : ∀ position, now.byteAt? position =
    (lastWritten? start.maxPacket edits position).or (start.byteAt? position)

theorem WellFormed.unedited (formed : buffer.WellFormed) : Edited buffer [] buffer :=
  ⟨formed, rfl, rfl, rfl, fun _ => rfl⟩

theorem Edited.trans {start middle now : ReceiveBuffer} {edits later : List Edit}
    (first : Edited start edits middle) (second : Edited middle later now) :
    Edited start (edits ++ later) now where
  formed := second.formed
  preBuffer := second.preBuffer.trans first.preBuffer
  maxPacket := second.maxPacket.trans first.maxPacket
  front := by
    have front := second.front
    rw [first.preBuffer] at front
    exact front.trans first.front
  contents position := by
    rw [second.contents, first.contents, first.maxPacket, lastWritten?_append, Option.or_assoc]

/-- One edit changes the bytes that it covers, and nothing if it is refused. -/
theorem WellFormed.edited (formed : buffer.WellFormed) (edit : Edit) :
    Edited buffer [edit] (buffer.edit edit) := by
  rw [edit_eq_write formed]
  cases result : buffer.write edit.offset edit.block with
  | ok next =>
    have fits : edit.fits buffer.maxPacket = true :=
      decide_eq_true ((formed.write_ok_iff _ _).mp ⟨next, result⟩)
    obtain ⟨nextFormed, preBuffer, size, front, contents⟩ := formed.of_write result
    refine ⟨nextFormed, preBuffer, size, front, fun position => ?_⟩
    rw [lastWritten?_singleton, Edit.written?, if_pos fits]
    exact contents position
  | error cause =>
    have outside : ¬ edit.fits buffer.maxPacket = true := fun fits => by
      obtain ⟨next, written⟩ := (formed.write_ok_iff _ _).mpr (of_decide_eq_true fits)
      cases result.symm.trans written
    refine ⟨formed, rfl, rfl, rfl, fun position => ?_⟩
    rw [lastWritten?_singleton, Edit.written?, if_neg outside, Option.none_or]
    rfl

/-- Outside its range an edit changes no byte. -/
theorem WellFormed.byteAt?_edit (formed : buffer.WellFormed) {edit : Edit} {position : Nat}
    (outside : position < edit.offset ∨ edit.offset + edit.block.length ≤ position) :
    (buffer.edit edit).byteAt? position = buffer.byteAt? position := by
  have nothing : edit.written? buffer.maxPacket position = none := by
    rw [Edit.written?, Edit.byte?_eq_none_iff.mpr outside, ite_self]
  rw [(formed.edited edit).contents, lastWritten?_singleton, nothing, Option.none_or]

/-- After any sequence of edits, every byte is what was written there last. -/
theorem WellFormed.afterEdits (formed : buffer.WellFormed) (edits : List Edit) :
    Edited buffer edits (buffer.afterEdits edits) := by
  induction edits using List.reverseRecOn with
  | nil => exact formed.unedited
  | append_singleton earlier last ih =>
    rw [ReceiveBuffer.afterEdits, List.foldl_append]
    exact ih.trans (ih.formed.edited last)

/-- A new buffer contains nothing but zeros. -/
theorem Allocated.storage_eq (allocated : buffer.Allocated) :
    buffer.storage = List.replicate (buffer.preBuffer + 1 + buffer.maxPacket) 0 := by
  have blank : ∃ count, buffer.storage = List.replicate count 0 := by
    cases allocated with
    | default => exact ⟨_, rfl⟩
    | made made =>
      obtain ⟨-, -, -, rfl⟩ := new_eq_ok_iff.mp made
      exact ⟨_, rfl⟩
  obtain ⟨count, storage⟩ := blank
  rw [← allocated.wellFormed.length_storage, storage, List.length_replicate]

end ReceiveBuffer

/-! ## The buffer of a framer -/

namespace Framer

open ReceiveBuffer (Edit Edited)

/-- Looking at the buffer does not change it. -/
theorem buffer_advance (framer : Framer) : framer.advance.2.buffer = framer.buffer := by
  unfold advance
  cases framer.state with
  | awaitingKind => cases PacketKind.ofReceivableTag? _ <;> rfl
  | awaitingEventHeader | awaitingScoHeader => rfl
  | awaitingAclHeader =>
    simp only
    split <;> rfl
  | awaitingPayload => cases PacketKind.ofTag? _ <;> rfl

/-- A block of the wanted length is written behind the position; any other changes nothing. -/
theorem buffer_receive (framer : Framer) (block : List UInt8) :
    (framer.receive block).2.buffer =
      if block.length = framer.wanted then framer.buffer.edit (.write framer.position block)
      else framer.buffer := by
  unfold receive
  by_cases asked : block.length = framer.wanted
  · rw [if_neg (not_not.mpr asked), if_pos asked, ReceiveBuffer.edit]
    cases framer.buffer.write framer.position block with
    | ok next => exact buffer_advance _
    | error cause => rfl
  · rw [if_pos asked, if_neg asked]
    rfl

/-- Whatever is done with framers and their copies, their buffers are changed by edits only. -/
theorem edited_of_handled {buffer : ReceiveBuffer} (formed : buffer.WellFormed)
    (handlings : List Handling) :
    ∀ framer ∈ handleAll [new buffer] handlings, ∃ edits, Edited buffer edits framer.buffer := by
  refine forall_mem_handleAll ⟨[], formed.unedited⟩ ?_ ?_ handlings
  · rintro framer block ⟨edits, edited⟩
    rw [buffer_receive]
    split
    · exact ⟨_, edited.trans (edited.formed.edited _)⟩
    · exact ⟨edits, edited⟩
  · rintro framer ⟨edits, edited⟩
    exact ⟨edits, edited⟩

/-- A block changes nothing in front of the position and nothing behind its own end. -/
theorem byteAt?_receive {framer : Framer} (formed : framer.buffer.WellFormed)
    {block : List UInt8} {position : Nat}
    (outside : position < framer.position ∨ framer.position + block.length ≤ position) :
    (framer.receive block).2.buffer.byteAt? position = framer.buffer.byteAt? position := by
  rw [buffer_receive]
  split
  · exact formed.byteAt?_edit outside
  · rfl

end Framer

/-! ## Buffers that can be allocated -/

namespace ReceiveBuffer

/-- Edits of a new buffer leave its pre-buffer and its size as they were. -/
theorem Edited.confined {start now : ReceiveBuffer} {edits : List Edit}
    (edited : Edited start edits now) (allocated : start.Allocated) :
    now.storage.length = start.preBuffer + 1 + start.maxPacket ∧
      now.storage.take start.preBuffer = List.replicate start.preBuffer 0 := by
  refine ⟨?size, ?front⟩
  case size => rw [edited.formed.length_storage, edited.preBuffer, edited.maxPacket]
  case front =>
    rw [edited.front, allocated.storage_eq, List.take_replicate, Nat.min_eq_left]
    omega

/-- A byte of a new buffer is zero until something is written there. -/
theorem Edited.byteAt?_eq {start now : ReceiveBuffer} {edits : List Edit}
    (edited : Edited start edits now) (allocated : start.Allocated) {position : Nat}
    (inside : position ≤ start.maxPacket) :
    now.byteAt? position = some ((lastWritten? start.maxPacket edits position).getD 0) := by
  have blank : start.byteAt? position = some 0 := by
    rw [byteAt?, logical, List.getElem?_drop, allocated.storage_eq,
      List.getElem?_replicate_of_lt (by omega)]
  rw [edited.contents, blank, Option.or_some]

/-- Writes are exact and stay inside the logical view.

After any sequence of edits of a buffer that can be allocated, a write succeeds exactly if it
ends inside the capacity, for offsets of any size, and one that fails reports offset, length and
capacity and changes nothing.  Every byte of the view is what was written there last, zero if
nothing was; the pre-buffer stays zero and the buffer keeps its size.  So it does over every run
of framers and their copies, in which a block changes no byte in front of the position of its
framer and none behind the end of the block. -/
theorem writes_exact_and_confined {buffer : ReceiveBuffer} (allocated : buffer.Allocated) :
    (∀ edits : List Edit,
      let now := buffer.afterEdits edits
      (∀ offset block,
        ((∃ next, now.write offset block = .ok next) ↔
          offset + block.length ≤ 1 + buffer.maxPacket) ∧
        ∀ error, now.write offset block = .error error →
          error = .overflow offset block.length (1 + buffer.maxPacket) ∧
            now.edit (.write offset block) = now) ∧
      (∀ position ≤ buffer.maxPacket,
        now.byteAt? position = some ((lastWritten? buffer.maxPacket edits position).getD 0)) ∧
      now.storage.length = buffer.preBuffer + 1 + buffer.maxPacket ∧
      now.storage.take buffer.preBuffer = List.replicate buffer.preBuffer 0) ∧
    ∀ handlings, ∀ framer ∈ Framer.handleAll [.new buffer] handlings,
      framer.buffer.storage.length = buffer.preBuffer + 1 + buffer.maxPacket ∧
      framer.buffer.storage.take buffer.preBuffer = List.replicate buffer.preBuffer 0 ∧
      ∀ block position, position < framer.position ∨ framer.position + block.length ≤ position →
        (framer.receive block).2.buffer.byteAt? position = framer.buffer.byteAt? position := by
  refine ⟨fun edits => ?edits, fun handlings framer member => ?framers⟩
  case edits =>
    intro now
    have edited : Edited buffer edits now := allocated.wellFormed.afterEdits edits
    have size := edited.maxPacket
    refine ⟨fun offset block => ⟨?_, fun error refused => ?_⟩, ?_, edited.confined allocated⟩
    · rw [edited.formed.write_ok_iff, size]
    · have outside : 1 + now.maxPacket < offset + block.length := by
        by_contra fits
        rw [edited.formed.write_eq (Nat.not_lt.mp fits)] at refused
        cases refused
      have reported := edited.formed.write_eq_error outside
      refine ⟨?_, ?_⟩
      · rw [← size]
        exact Except.error.inj (refused.symm.trans reported)
      · rw [ReceiveBuffer.edit, reported]
        rfl
    · exact fun position inside => edited.byteAt?_eq allocated inside
  case framers =>
    obtain ⟨edits, edited⟩ :=
      Framer.edited_of_handled allocated.wellFormed handlings framer member
    obtain ⟨length, front⟩ := edited.confined allocated
    exact ⟨length, front, fun block position => Framer.byteAt?_receive edited.formed⟩

/-- Edits that overlap, one that ends behind the view and one at the last offset there is; and a
framer, copied behind a tag, that is given a block that is too short. -/
theorem writes_overlapping_confined :
    let buffer : ReceiveBuffer := ⟨List.replicate 305 0, 4, 300⟩
    let edits : List Edit :=
      [.write 0 [0x04, 0x0E], .set 1 0x6E, .write 299 [1, 2, 3], .write (2 ^ 64 - 1) [9]]
    let now := buffer.afterEdits edits
    let framers := Framer.handleAll [.new buffer] [.receive 0 [0x04], .copy 0, .receive 1 [0x6E]]
    buffer.Allocated ∧ now.byteAt? 0 = some 0x04 ∧ now.byteAt? 1 = some 0x6E ∧
      now.byteAt? 299 = some 0 ∧ (¬ ∃ next, now.write (2 ^ 64 - 1) [9] = .ok next) ∧
      now.storage.take 4 = [0, 0, 0, 0] ∧
      ∀ framer ∈ framers, framer.buffer.storage.take 4 = [0, 0, 0, 0] := by
  intro buffer edits now framers
  have allocated : buffer.Allocated := @Allocated.made 4 300 _ rfl
  obtain ⟨edited, handled⟩ := writes_exact_and_confined allocated
  obtain ⟨exact, contents, -, front⟩ := edited edits
  refine ⟨allocated, contents 0 ?_, contents 1 ?_, contents 299 ?_, ?_, front, ?_⟩
  · decide
  · decide
  · decide
  · rw [(exact _ _).1]
    decide
  · exact fun framer member => (handled _ framer member).2.1

end ReceiveBuffer

end HciSerial
