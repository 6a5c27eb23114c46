import HciSerial.Packet.Encoding
import HciSerial.Proofs.Command.Decode

/-!
# Decoding undoes encoding

Encoded packets with stray bytes between them, cut off after any number of bytes: the
receiver gets back exactly the pieces that lie wholly before the cut.

## Main Definitions

* `Piece`: an encoded packet or a stray byte.
* `Piece.wire`: pieces one after the other on the line.
* `Piece.within`: the pieces that lie wholly inside the first bytes.

## Main Results

* `Packet.encode_eq_ok_iff`: what is encoded, and how.
* `Piece.prefix_within_iff`: `within` is the longest prefix that fits.
* `Piece.parse_take_wire`: what the grammar reads before a cut.
* `Piece.feed_and_decodeStream_take_wire`: what the framer and the decoder make of it.
-/

namespace HciSerial

open Grammar

/-- A packet is encoded exactly if its header is complete and declares the rest of it. -/
theorem Packet.encode_eq_ok_iff {packet : Packet} {wire : List UInt8} :
    packet.encode = .ok wire ↔
      (∃ declared, packet.declaredLength? = some declared ∧
        packet.kind.headerSize + declared = packet.data.length) ∧
      wire = packet.kind.tag :: packet.data := by
  unfold encode check
  cases packet.declaredLength? with
  | none => simp
  | some declared =>
    by_cases agrees : packet.kind.headerSize + declared = packet.data.length
    · simp [agrees, eq_comm]
    · simp [agrees]

/-- The wire form of a receivable packet that fits the receiver is a segment. -/
theorem Packet.segment_of_encode {packet : Packet} {wire : List UInt8} {maxPacket : Nat}
    (encoded : packet.encode = .ok wire) (receivable : packet.kind.receivable = true)
    (fits : packet.kind = .acl → packet.data.length ≤ maxPacket) :
    Segment maxPacket wire (.packet packet) := by
  obtain ⟨kind, data⟩ := packet
  obtain ⟨⟨length, declared, agrees⟩, rfl⟩ := Packet.encode_eq_ok_iff.mp encoded
  have complete : (data.take kind.headerSize).length = kind.headerSize :=
    List.length_take_of_le (Nat.le.intro agrees)
  have payload : (data.drop kind.headerSize).length = length := by
    rw [List.length_drop, ← agrees, Nat.add_sub_cancel_left]
  have inHeader : kind.payloadLength? (data.take kind.headerSize) = some length := by
    rw [← PacketKind.payloadLength?_append complete (data.drop kind.headerSize),
      List.take_append_drop]
    exact declared
  rw [← payload] at inHeader agrees
  have whole := Segment.packet receivable complete inHeader fun isAcl => agrees ▸ fits isAcl
  rw [List.take_append_drop] at whole
  exact whole

/-! ## Pieces on the line -/

/-- What stands on a line to a receiver of `maxPacket` bytes: an encoded packet that the
receiver can hold, or a byte that no packet starts with. -/
inductive Piece (maxPacket : Nat) where
  | packet (packet : Packet) (wire : List UInt8) (encoded : packet.encode = .ok wire)
      (receivable : packet.kind = .event ∨ packet.kind = .acl ∨ packet.kind = .sco)
      (fits : packet.kind = .acl → packet.data.length ≤ maxPacket)
  | stray (byte : UInt8) (unknown : byte ≠ 2 ∧ byte ≠ 3 ∧ byte ≠ 4)

namespace Piece

variable {maxPacket : Nat}

/-- The bytes of one piece. -/
def bytes : Piece maxPacket → List UInt8
  | packet _ wire _ _ _ => wire
  | stray byte _ => [byte]

/-- What the receiver of a piece is told. -/
def item : Piece maxPacket → Item
  | packet original _ _ _ _ => .packet original
  | stray byte _ => .fault (.invalidKind byte)

/-- The packet of a piece, if it is one. -/
def packet? : Piece maxPacket → Option Packet
  | packet original _ _ _ _ => some original
  | stray _ _ => none

/-- The byte of a piece that is no packet. -/
def stray? : Piece maxPacket → Option UInt8
  | packet _ _ _ _ _ => none
  | stray byte _ => some byte

/-- The bytes of pieces one after the other. -/
def wire (pieces : List (Piece maxPacket)) : List UInt8 :=
  pieces.flatMap bytes

/-- The pieces that lie wholly inside the first `count` bytes. -/
def within : Nat → List (Piece maxPacket) → List (Piece maxPacket)
  | _, [] => []
  | count, piece :: rest =>
    if piece.bytes.length ≤ count then piece :: within (count - piece.bytes.length) rest else []

@[simp] theorem wire_nil : wire ([] : List (Piece maxPacket)) = [] := rfl

@[simp] theorem wire_cons (piece : Piece maxPacket) (rest : List (Piece maxPacket)) :
    wire (piece :: rest) = piece.bytes ++ wire rest := rfl

/-- A piece is one segment. -/
theorem segment (piece : Piece maxPacket) : Segment maxPacket piece.bytes piece.item := by
  cases piece with
  | packet original wire encoded receivable fits =>
    refine Packet.segment_of_encode encoded ?_ fits
    rcases receivable with kind | kind | kind <;> rw [kind] <;> rfl
  | stray byte unknown => exact .stray (PacketKind.ofReceivableTag?_eq_none_iff.mpr unknown)

/-- Among the pieces in front, those that lie inside the first bytes are the ones whose
bytes are that few. -/
theorem prefix_within_iff {count : Nat} {front pieces : List (Piece maxPacket)} :
    front <+: within count pieces ↔ front <+: pieces ∧ (wire front).length ≤ count := by
  induction pieces generalizing count front with
  | nil =>
    rw [within, List.prefix_nil]
    constructor
    · rintro rfl
      exact ⟨rfl, Nat.zero_le count⟩
    · exact And.left
  | cons piece rest ih =>
    rcases front with _ | ⟨first, others⟩
    · simp
    rw [within, List.cons_prefix_cons, wire_cons, List.length_append]
    split
    case isTrue fits =>
      rw [List.cons_prefix_cons, ih, and_assoc]
      refine and_congr_right fun same => and_congr_right fun _ => ?_
      rw [same]
      omega
    case isFalse cut =>
      rw [List.prefix_nil]
      constructor
      · nofun
      · rintro ⟨⟨rfl, _⟩, few⟩
        exact absurd (Nat.le_trans (Nat.le_add_right _ _) few) cut

theorem within_length_wire (pieces : List (Piece maxPacket)) :
    within (wire pieces).length pieces = pieces := by
  have whole := prefix_within_iff.mpr ⟨List.prefix_refl pieces, Nat.le_refl _⟩
  have part := (prefix_within_iff.mp (List.prefix_refl (within (wire pieces).length pieces))).1
  exact part.eq_of_length_le whole.length_le

/-! ## Reading up to a cut -/

/-- Before a cut, the grammar reads the pieces that lie wholly before it and leaves the
bytes after them. -/
theorem parse_take_wire (count : Nat) (pieces : List (Piece maxPacket)) :
    parse maxPacket ((wire pieces).take count) =
      ((within count pieces).map item,
        ((wire pieces).take count).drop (wire (within count pieces)).length) := by
  induction pieces generalizing count with
  | nil =>
    rw [within, wire_nil, List.take_nil]
    exact parse_of_unfinished rfl
  | cons piece rest ih =>
    rw [within, wire_cons, List.take_append]
    split
    case isTrue fits =>
      rw [List.take_of_length_le fits, parse_segment_append piece.segment, ih, wire_cons,
        List.length_append, List.drop_append, List.drop_of_length_le (Nat.le_add_right _ _),
        Nat.add_sub_cancel_left]
      rfl
    case isFalse cut =>
      -- the cut is inside the first piece, and no segment begins with a whole shorter one
      have none : count - piece.bytes.length = 0 := Nat.sub_eq_zero_of_le (Nat.le_of_not_le cut)
      rw [none, List.take_zero, List.append_nil]
      exact parse_of_unfinished (piece.segment.next?_take (Nat.not_le.mp cut))

theorem length_parse_take_wire {count : Nat} {pieces : List (Piece maxPacket)}
    (inside : count ≤ (wire pieces).length) :
    (parse maxPacket ((wire pieces).take count)).2.length =
      count - (wire (within count pieces)).length := by
  rw [parse_take_wire, List.length_drop, List.length_take_of_le inside]

/-- Cut anywhere, a line of encoded packets and stray bytes gives back the pieces that lie
wholly before the cut.

The framer reports exactly these packets and one error for each of these bytes, and holds
the bytes after them; the decoder shows the same packets, logs the same errors and counts
the same bytes as trailing.  Without a cut, every piece comes back. -/
theorem feed_and_decodeStream_take_wire {preBuffer maxPacket : UInt64} {buffer : ReceiveBuffer}
    (made : ReceiveBuffer.new preBuffer maxPacket = .ok buffer)
    (pieces : List (Piece maxPacket.toNat)) {count : Nat} (inside : count ≤ (wire pieces).length) :
    (∃ verdicts final left,
      (Framer.new buffer).feed ((wire pieces).take count) = (verdicts, final, left) ∧
        verdicts.filterMap Item.ofVerdict? = (within count pieces).map item ∧
        left.length < final.wanted ∧
        final.position + left.length = count - (wire (within count pieces)).length) ∧
      (maxPacket.toNat = defaultPacketSize →
        let bytes := (wire pieces).take count
        (∃ found, (replay bytes).2.1 = [.done, .done, .done, .drained found]) ∧
          (decodeStream bytes).packets = (within count pieces).filterMap packet? ∧
          (decodeStream bytes).records.filter (·.level = .error) =
            ((within count pieces).filterMap stray?).map
              (fun byte => Transport.faultRecord (.invalidKind byte)) ∧
          (decodeStream bytes).trailing = count - (wire (within count pieces)).length) ∧
      (count = (wire pieces).length → within count pieces = pieces) := by
  have read := parse_take_wire count pieces
  have rest := length_parse_take_wire inside
  refine ⟨?_, ?_, ?_⟩
  · obtain ⟨formed, size⟩ := ReceiveBuffer.wellFormed_of_new made
    obtain ⟨verdicts, final, unfinished, left, served, holds, short, whole⟩ :=
      Framer.feed_new formed ((wire pieces).take count)
    rw [size] at whole
    refine ⟨verdicts, final, left, served, ?_, short, ?_⟩
    · rw [← (Prod.mk.inj (whole.symm.trans read)).1]
    · rw [← rest, whole, List.length_append, holds.position_eq]
  · intro usual bytes
    refine ⟨replay_answers bytes, ?_, ?_, ?_⟩
    · rw [decodeStream_packets, ← usual, read, List.filterMap_map]
      refine List.filterMap_congr fun piece _ => ?_
      cases piece <;> rfl
    · rw [decodeStream_errors, ← usual, read, List.filterMap_map, List.map_filterMap,
        List.map_filterMap]
      refine List.filterMap_congr fun piece _ => ?_
      cases piece <;> rfl
    · rw [decodeStream_trailing, ← usual]
      exact rest
  · rintro rfl
    exact within_length_wire pieces

/-- Cut inside its second packet, a line gives back the first packet and the stray byte. -/
theorem decodeStream_cut_event :
    let event : Packet := ⟨.event, [0x6E, 0x00]⟩
    let pieces : List (Piece (1025 : UInt64).toNat) :=
      [.packet event [0x04, 0x6E, 0x00] rfl (.inl rfl) nofun, .stray 0x99 (by decide),
        .packet event [0x04, 0x6E, 0x00] rfl (.inl rfl) nofun]
    ReceiveBuffer.new 1 1025 = .ok .default ∧ 5 ≤ (wire pieces).length ∧
      (decodeStream [0x04, 0x6E, 0x00, 0x99, 0x04]).packets = [event] ∧
      (decodeStream [0x04, 0x6E, 0x00, 0x99, 0x04]).trailing = 1 := by
  intro event pieces
  have inside : 5 ≤ (wire pieces).length := by decide
  obtain ⟨_, decoded, _⟩ := feed_and_decodeStream_take_wire ReceiveBuffer.new_default pieces inside
  obtain ⟨_, packets, _, trailing⟩ := decoded rfl
  exact ⟨ReceiveBuffer.new_default, inside, packets, trailing⟩

end Piece

end HciSerial
