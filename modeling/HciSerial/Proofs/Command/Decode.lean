import HciSerial.Command.Decode
import HciSerial.Proofs.Transport.Calm

/-!
# Decoding is reading the grammar

A replayed stream is decoded into the packets that the grammar reads from it, the
errors of its rejected segments are logged, and the bytes that are left over are those
of the unfinished packet at its end.

## Main Definitions

* `Transport.listening`: the transport of a replay, opened and about to be drained.

## Main Results

* `decodeStream_packets`, `decodeStream_errors`, `decodeStream_trailing`: what a stream
  decodes to.
* `feed_and_decodeStream_eq_parse`: the framer and the decoder read the grammar.
-/

namespace HciSerial

open Grammar Transport

namespace Transport

/-! ## What is seen of items -/

/-- The packets that items are reported with. -/
theorem packets_ofItem (items : List Item) :
    (items.map Event.ofItem).filterMap Event.packet? = items.filterMap Item.packet? := by
  rw [List.filterMap_map]
  refine List.filterMap_congr fun item _ => ?_
  cases item <;> rfl

/-- The log records that items are reported with. -/
theorem errors_ofItem (items : List Item) :
    ((items.map Event.ofItem).filterMap Event.record?).filter (·.level = .error) =
      (items.filterMap Item.error?).map faultRecord := by
  rw [List.filterMap_map, List.filter_filterMap, List.map_filterMap]
  refine List.filterMap_congr fun item _ => ?_
  cases item <;> rfl

/-! ## The replay -/

/-- The transport of a replay: opened, and about to be drained. -/
def listening (bytes : List UInt8) : Transport MemoryLine where
  line := { incoming := bytes, isOpen := true, pendingRead := some 1, readLog := [1] }
  framer := Framer.new .default
  config := some {}
  handler := .queue
  isOpen := true

theorem receives_listening (bytes : List UInt8) :
    (listening bytes).Receives defaultPacketSize bytes [] [] where
  holds := Framer.holds_new (ReceiveBuffer.wellFormed_of_new ReceiveBuffer.new_default).1
  asked := rfl
  split := ⟨[], .nil, rfl⟩

theorem calm_listening (bytes : List UInt8) : (listening bytes).Calm := ⟨rfl, rfl⟩

end Transport

/-- A replay is a drain of the listening transport. -/
theorem replay_eq (bytes : List UInt8) : ∃ opening : List Event,
    replay bytes =
      ({ transport := (listening bytes).drain.state,
         mailbox := { queue := (listening bytes).drain.packets } },
        [.done, .done, .done, ((listening bytes).apply .drain).value],
        opening ++ (listening bytes).drain.events) ∧
      framing opening = [] ∧ ∀ event ∈ opening, event.IsMild := by
  let start : Transport MemoryLine := .new { incoming := bytes }
  let ready : Transport MemoryLine := (start.init (.serial {})).state.register .queue
  -- up to the drain, nothing is given to the handler and the mailbox stays empty
  refine ⟨(start.init (.serial {})).events ++ ready.openLine.events, ?_, rfl, ?_⟩
  · rw [List.append_assoc, ← List.append_nil (listening bytes).drain.events]
    rfl
  · refine List.forall_mem_cons.mpr ⟨.inr ⟨_, rfl, nofun⟩, ?_⟩
    refine List.forall_mem_cons.mpr ⟨.inr ⟨_, rfl, nofun⟩, ?_⟩
    exact List.forall_mem_cons.mpr ⟨.inr ⟨_, rfl, nofun⟩, nofun⟩

/-- The drain of a replay succeeds and reports the items of the stream; the framer and
the line are left with the unfinished bytes. -/
theorem drain_listening (bytes : List UInt8) :
    let report := (listening bytes).drain
    (∃ count, report.value = .ok count) ∧ (∀ event ∈ report.events, event.IsMild) ∧
      framing report.events = (parse defaultPacketSize bytes).1.map Event.ofItem ∧
      report.state.framer.position + report.state.line.incoming.length =
        (parse defaultPacketSize bytes).2.length := by
  intro report
  have receives := receives_listening bytes
  have drains := Transport.drains receives.holds
  obtain ⟨mild, count, ok⟩ := (calm_listening bytes).drains drains
  obtain ⟨items, rest, after, told, whole⟩ := receives.parse_drained rfl drains ok
  rw [List.nil_append] at whole
  refine ⟨⟨count, ok⟩, mild, by rw [whole, told], ?_⟩
  rw [whole, List.length_append, after.holds.position_eq]

/-- No step of a replay fails. -/
theorem replay_answers (bytes : List UInt8) :
    ∃ count, (replay bytes).2.1 = [.done, .done, .done, .drained count] := by
  obtain ⟨opening, whole, _⟩ := replay_eq bytes
  obtain ⟨⟨count, ok⟩, _⟩ := drain_listening bytes
  refine ⟨count, ?_⟩
  rw [whole]
  simp only [Transport.apply, ok]

/-- A stream decodes to the packets that the grammar reads from it. -/
theorem decodeStream_packets (bytes : List UInt8) :
    (decodeStream bytes).packets =
      (parse defaultPacketSize bytes).1.filterMap Item.packet? := by
  obtain ⟨opening, whole, _⟩ := replay_eq bytes
  obtain ⟨_, mild, told, _⟩ := drain_listening bytes
  unfold decodeStream
  rw [whole]
  show (listening bytes).drain.events.filterMap Event.packet? = _
  rw [packets_of_isMild mild, told, packets_ofItem]

/-- What is trailing are the bytes that the grammar leaves over. -/
theorem decodeStream_trailing (bytes : List UInt8) :
    (decodeStream bytes).trailing = (parse defaultPacketSize bytes).2.length := by
  obtain ⟨opening, whole, _⟩ := replay_eq bytes
  obtain ⟨_, _, _, rest⟩ := drain_listening bytes
  unfold decodeStream
  rw [whole]
  exact rest

/-- The errors in the log of a decoded stream are those of its rejected segments. -/
theorem decodeStream_errors (bytes : List UInt8) :
    (decodeStream bytes).records.filter (·.level = .error) =
      ((parse defaultPacketSize bytes).1.filterMap Item.error?).map faultRecord := by
  obtain ⟨opening, whole, silent, mildOpening⟩ := replay_eq bytes
  obtain ⟨_, mild, told, _⟩ := drain_listening bytes
  have mildAll : ∀ event ∈ opening ++ (listening bytes).drain.events, event.IsMild :=
    List.forall_mem_append.mpr ⟨mildOpening, mild⟩
  have noted : (decodeStream bytes).records.filter (·.level = .error) =
      ((opening ++ (listening bytes).drain.events).filterMap Event.record?).filter
        (·.level = .error) := by
    unfold decodeStream
    rw [whole]
    simp only [List.filter_append]
    split <;> simp
  rw [noted, errors_of_isMild mildAll, framing_append, silent, List.nil_append, told,
    errors_ofItem]

/-! ## The grammar as the standard -/

/-- Every byte of a decoded stream belongs to a segment that was completed or rejected, or
is counted as trailing. -/
theorem decodeStream_accounts (bytes : List UInt8) :
    ∃ consumed rest, bytes = consumed ++ rest ∧
      Segments defaultPacketSize consumed (parse defaultPacketSize bytes).1 ∧
      next? defaultPacketSize rest = none ∧ (decodeStream bytes).trailing = rest.length := by
  obtain ⟨consumed, split, made, unfinished⟩ := segments_parse defaultPacketSize bytes
  exact ⟨consumed, _, split, made, unfinished, decodeStream_trailing bytes⟩

/-- Nothing is trailing exactly if the stream ends between two segments. -/
theorem decodeStream_trailing_eq_zero_iff (bytes : List UInt8) :
    (decodeStream bytes).trailing = 0 ↔ ∃ items, Segments defaultPacketSize bytes items := by
  rw [decodeStream_trailing, List.length_eq_zero_iff, parse_complete_iff]

/-- The framer and the decoder read the grammar.

A framer over any buffer that can be made, served the blocks that it asks
for until too few bytes are left, reports the items of the stream in order and holds the
unfinished bytes.  A stream is decoded without a failure, into the packets of the grammar,
and every byte belongs to a segment or is trailing. -/
theorem feed_and_decodeStream_eq_parse {preBuffer maxPacket : UInt64} {buffer : ReceiveBuffer}
    (made : ReceiveBuffer.new preBuffer maxPacket = .ok buffer) (bytes : List UInt8) :
    (∃ verdicts final left, (Framer.new buffer).feed bytes = (verdicts, final, left) ∧
        verdicts.filterMap Item.ofVerdict? = (parse maxPacket.toNat bytes).1 ∧
        left.length < final.wanted ∧
        final.buffer.logical.take final.position ++ left = (parse maxPacket.toNat bytes).2) ∧
      (∃ count, (replay bytes).2.1 = [.done, .done, .done, .drained count]) ∧
      (decodeStream bytes).packets =
        (parse defaultPacketSize bytes).1.filterMap Item.packet? ∧
      (∃ consumed rest, bytes = consumed ++ rest ∧
        Segments defaultPacketSize consumed (parse defaultPacketSize bytes).1 ∧
        next? defaultPacketSize rest = none ∧ (decodeStream bytes).trailing = rest.length) ∧
      ((decodeStream bytes).trailing = 0 ↔
        ∃ items, Segments defaultPacketSize bytes items) ∧
      ((parse defaultPacketSize bytes).1.map Item.size).sum + (decodeStream bytes).trailing =
        bytes.length := by
  obtain ⟨formed, size⟩ := ReceiveBuffer.wellFormed_of_new made
  refine ⟨?_, replay_answers bytes, decodeStream_packets bytes, decodeStream_accounts bytes,
    decodeStream_trailing_eq_zero_iff bytes, ?_⟩
  · rw [← size]
    exact Framer.feed_eq_parse formed bytes
  · rw [decodeStream_trailing]
    exact size_parse defaultPacketSize bytes

/-- A stray byte is skipped, and the event after it is delivered. -/
theorem decodeStream_stray_event :
    ReceiveBuffer.new 1 1025 = .ok .default ∧
      (decodeStream [0x99, 0x04, 0x6E, 0x00]).packets = [⟨.event, [0x6E, 0x00]⟩] ∧
      (decodeStream [0x99, 0x04, 0x6E, 0x00]).trailing = 0 := by
  obtain ⟨_, _, packets, _, complete, _⟩ :=
    feed_and_decodeStream_eq_parse ReceiveBuffer.new_default [0x99, 0x04, 0x6E, 0x00]
  have event : Segment defaultPacketSize [0x04, 0x6E, 0x00] (.packet ⟨.event, [0x6E, 0x00]⟩) :=
    @Segment.packet _ .event [0x6E, 0x00] [] rfl rfl rfl nofun
  have made : Segments defaultPacketSize [0x99, 0x04, 0x6E, 0x00]
      [.fault (.invalidKind 0x99), .packet ⟨.event, [0x6E, 0x00]⟩] :=
    .cons (.stray rfl) (.cons event .nil)
  rw [parse_of_segments made] at packets
  exact ⟨ReceiveBuffer.new_default, packets, complete.mpr ⟨_, made⟩⟩

end HciSerial
