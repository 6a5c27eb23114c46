import HciSerial.Proofs.Packet.RoundTrip

/-!
# Encoding packet after packet

Packets of all four kinds are written one after the other into a buffer.  A packet is written
whole or not at all, and the bytes that are written tell which packets they are: a header ends
where its kind says, it declares where its packet ends, and so no packet is the beginning of
another.

## Main Definitions

* `Packet.IsWhole`: the header is complete and declares exactly the rest of the packet.
* `Packet.written`: the bytes of the packets that are accepted, one after the other.

## Main Results

* `Packet.encode_append_inj`: the first packet of a stretch of bytes, and where it ends.
* `Packet.appendAll_append`, `Packet.appendAll_snd`: a run of the encoder in two parts, and what
  it leaves in the buffer.
* `Packet.written_inj`: packets that are accepted are known from their bytes.
* `Packet.appendAll_uniquely_decodable`: both for every buffer and every list.
-/

namespace HciSerial

/-- A length that has been declared stays declared when bytes follow. -/
theorem PacketKind.payloadLength?_append_of_declared {kind : PacketKind} {data : List UInt8}
    {length : Nat} (declared : kind.payloadLength? data = some length) (rest : List UInt8) :
    kind.payloadLength? (data ++ rest) = some length := by
  have complete : kind.headerSize ≤ data.length := by
    rw [← Nat.not_lt, ← payloadLength?_eq_none_iff, declared]
    exact Option.some_ne_none length
  -- only the header matters, whether the rest of the packet or anything else follows it
  have header : (data.take kind.headerSize).length = kind.headerSize :=
    List.length_take_of_le complete
  have inHeader := payloadLength?_append header (data.drop kind.headerSize)
  have whole := payloadLength?_append header (data.drop kind.headerSize ++ rest)
  rw [List.take_append_drop, declared] at inHeader
  rw [← List.append_assoc, List.take_append_drop, ← inHeader] at whole
  exact whole

namespace Packet

/-- The header is complete and declares exactly the bytes that follow it. -/
def IsWhole (packet : Packet) : Prop :=
  packet.kind.headerSize ≤ packet.data.length ∧
    ∃ declared, packet.declaredLength? = some declared ∧
      packet.data.length = packet.kind.headerSize + declared

/-- The encoder accepts exactly the whole packets, and puts the tag in front of them. -/
theorem encode_eq_ok_iff_isWhole {packet : Packet} {bytes : List UInt8} :
    packet.encode = .ok bytes ↔ packet.IsWhole ∧ bytes = packet.kind.tag :: packet.data := by
  rw [encode_eq_ok_iff]
  refine and_congr_left fun _ => ⟨?_, ?_⟩
  · rintro ⟨declared, known, agrees⟩
    exact ⟨Nat.le.intro agrees, declared, known, agrees.symm⟩
  · rintro ⟨_, declared, known, agrees⟩
    exact ⟨declared, known, agrees.symm⟩

theorem encode_eq_error_of_not_isWhole {packet : Packet} (broken : ¬ packet.IsWhole) :
    ∃ error, packet.encode = .error error := by
  cases encoded : packet.encode with
  | ok bytes => exact absurd (encode_eq_ok_iff_isWhole.mp encoded).1 broken
  | error error => exact ⟨error, rfl⟩

/-! ## One packet and what follows it -/

/-- The bytes of a packet tell which packet it is and where it ends. -/
theorem encode_append_inj {left right : Packet} {first second rest more : List UInt8}
    (left_eq : left.encode = .ok first) (right_eq : right.encode = .ok second)
    (same : first ++ rest = second ++ more) : left = right ∧ rest = more := by
  obtain ⟨kind, data⟩ := left
  obtain ⟨otherKind, otherData⟩ := right
  obtain ⟨⟨_, length, declared, size⟩, rfl⟩ := encode_eq_ok_iff_isWhole.mp left_eq
  obtain ⟨⟨_, otherLength, otherDeclared, otherSize⟩, rfl⟩ := encode_eq_ok_iff_isWhole.mp right_eq
  simp only [List.cons_append, List.cons.injEq] at declared size otherDeclared otherSize same
  obtain ⟨tags, same⟩ := same
  obtain rfl := PacketKind.tag_injective tags
  -- both headers stand at the front of the same bytes, so they declare the same length
  have lengths : length = otherLength := by
    have inFirst := PacketKind.payloadLength?_append_of_declared declared rest
    have inSecond := PacketKind.payloadLength?_append_of_declared otherDeclared more
    exact Option.some.inj (inFirst.symm.trans (same ▸ inSecond))
  obtain ⟨rfl, rest_eq⟩ := List.append_inj same (by rw [size, otherSize, lengths])
  exact ⟨rfl, rest_eq⟩

/-! ## Packets one after the other -/

theorem appendTo_of_encode {packet : Packet} {bytes : List UInt8}
    (encoded : packet.encode = .ok bytes) (wire : List UInt8) :
    appendTo wire packet = (.ok (), wire ++ bytes) := by
  rw [appendTo, encoded]

theorem appendTo_of_refused {packet : Packet} {error : FramingError}
    (refused : packet.encode = .error error) (wire : List UInt8) :
    appendTo wire packet = (.error error, wire) := by
  rw [appendTo, refused]

/-- A run of the encoder goes on with the buffer that its first part leaves. -/
theorem appendAll_append (wire : List UInt8) (earlier later : List Packet) :
    appendAll wire (earlier ++ later) =
      ((appendAll wire earlier).1 ++ (appendAll (appendAll wire earlier).2 later).1,
        (appendAll (appendAll wire earlier).2 later).2) := by
  induction earlier generalizing wire with
  | nil => rfl
  | cons packet rest ih =>
    simp only [List.cons_append, appendAll, ih]

theorem length_appendAll_fst (wire : List UInt8) (packets : List Packet) :
    (appendAll wire packets).1.length = packets.length := by
  induction packets generalizing wire with
  | nil => rfl
  | cons packet rest ih => exact congrArg (· + 1) (ih _)

/-- The bytes of the packets that are accepted, one after the other. -/
def written (packets : List Packet) : List UInt8 :=
  packets.flatMap fun packet => packet.encode.toOption.getD []

/-- The bytes of the first packet, if it is accepted, stand in front of those of the others. -/
theorem written_cons (packet : Packet) (rest : List Packet) :
    written (packet :: rest) = packet.encode.toOption.getD [] ++ written rest :=
  List.flatMap_cons

/-- What a run of the encoder leaves in the buffer. -/
theorem appendAll_snd (wire : List UInt8) (packets : List Packet) :
    (appendAll wire packets).2 = wire ++ written packets := by
  induction packets generalizing wire with
  | nil => exact (List.append_nil wire).symm
  | cons packet rest ih =>
    show (appendAll (appendTo wire packet).2 rest).2 = _
    rw [ih, written_cons, appendTo]
    cases packet.encode with
    | ok bytes => exact List.append_assoc _ _ _
    | error => rfl

/-- Packets that are accepted are known from their bytes. -/
theorem written_inj {left right : List Packet}
    (left_accepted : ∀ packet ∈ left, ∃ bytes, packet.encode = .ok bytes)
    (right_accepted : ∀ packet ∈ right, ∃ bytes, packet.encode = .ok bytes)
    (same : written left = written right) : left = right := by
  -- a packet has a tag at least, so a list that has one is not written as nothing
  have nonempty {packet : Packet} {rest : List Packet}
      (accepted : ∃ bytes, packet.encode = .ok bytes) : written (packet :: rest) ≠ [] := by
    obtain ⟨bytes, encoded⟩ := accepted
    obtain ⟨_, rfl⟩ := encode_eq_ok_iff_isWhole.mp encoded
    rw [written_cons, encoded]
    exact List.cons_ne_nil _ _
  induction left generalizing right with
  | nil =>
    cases right with
    | nil => rfl
    | cons packet rest => exact absurd same.symm (nonempty (right_accepted _ List.mem_cons_self))
  | cons packet rest ih =>
    cases right with
    | nil => exact absurd same (nonempty (left_accepted _ List.mem_cons_self))
    | cons other others =>
      obtain ⟨first, encoded⟩ := left_accepted _ List.mem_cons_self
      obtain ⟨second, otherEncoded⟩ := right_accepted _ List.mem_cons_self
      rw [written_cons, written_cons, encoded, otherEncoded] at same
      obtain ⟨rfl, same⟩ := encode_append_inj encoded otherEncoded same
      rw [ih (fun _ member => left_accepted _ (List.mem_cons_of_mem _ member))
        (fun _ member => right_accepted _ (List.mem_cons_of_mem _ member)) same]

/-- Encoding packet after packet is atomic and uniquely decodable.

In every run over any buffer, a packet is accepted exactly if it is whole; it then adds its tag
and its data to the buffer, and a refused packet leaves the buffer as it is.  Lists of packets
that are accepted, of all kinds and sizes, are equal if the bytes that they leave are. -/
theorem appendAll_uniquely_decodable :
    (∀ (wire : List UInt8) (earlier later : List Packet) (packet : Packet),
      let before := (appendAll wire earlier).2
      let after := (appendAll wire (earlier ++ [packet])).2
      ∃ verdict,
        (appendAll wire (earlier ++ packet :: later)).1[earlier.length]? =
          some (verdict, after.length) ∧
        (verdict = .ok () ↔ packet.IsWhole) ∧
        (verdict = .ok () → after = before ++ packet.kind.tag :: packet.data ∧
          after.length = before.length + (1 + packet.data.length)) ∧
        ∀ error, verdict = .error error → after = before) ∧
    ∀ (wire : List UInt8) (left right : List Packet),
      (∀ packet ∈ left, ∃ bytes, packet.encode = .ok bytes) →
      (∀ packet ∈ right, ∃ bytes, packet.encode = .ok bytes) →
      (appendAll wire left).2 = (appendAll wire right).2 → left = right := by
  refine ⟨?atomic, ?unique⟩
  case atomic =>
    intro wire earlier later packet before after
    have after_eq : after = (appendTo before packet).2 := by
      show (appendAll wire (earlier ++ [packet])).2 = _
      rw [appendAll_append]
      rfl
    refine ⟨(appendTo before packet).1, ?_, ?_⟩
    · rw [after_eq, appendAll_append, List.getElem?_append_right
        (Nat.le_of_eq (length_appendAll_fst wire earlier)), length_appendAll_fst, Nat.sub_self]
      rfl
    · rw [after_eq]
      by_cases whole : packet.IsWhole
      · rw [appendTo_of_encode (encode_eq_ok_iff_isWhole.mpr ⟨whole, rfl⟩)]
        refine ⟨iff_of_true rfl whole, fun _ => ⟨rfl, ?_⟩, nofun⟩
        rw [List.length_append, List.length_cons, Nat.add_comm 1]
      · obtain ⟨error, refused⟩ := encode_eq_error_of_not_isWhole whole
        rw [appendTo_of_refused refused]
        exact ⟨iff_of_false nofun whole, nofun, fun _ _ => rfl⟩
  case unique =>
    intro wire left right left_accepted right_accepted same
    rw [appendAll_snd, appendAll_snd] at same
    exact written_inj left_accepted right_accepted (List.append_cancel_left same)

/-- A command, asynchronous data that declares too much, and an event are written into a buffer
that is not empty: the data in the middle leaves no trace, and the others are known from the
bytes. -/
theorem appendAll_around_refused :
    let command : Packet := ⟨.command, [0x03, 0x0C, 0x00]⟩
    let broken : Packet := ⟨.acl, [0x01, 0x20, 0x02, 0x00, 0xAA]⟩
    let event : Packet := ⟨.event, [0x0E, 0x01, 0x00]⟩
    let wire : List UInt8 := [0xFF]
    ¬ broken.IsWhole ∧ (∀ packet ∈ [command, event], ∃ bytes, packet.encode = .ok bytes) ∧
      (appendAll wire [command, broken]).2 = (appendAll wire [command]).2 ∧
      ∀ packets, (∀ packet ∈ packets, ∃ bytes, packet.encode = .ok bytes) →
        (appendAll wire packets).2 = (appendAll wire [command, broken, event]).2 →
        packets = [command, event] := by
  intro command broken event wire
  obtain ⟨atomic, unique⟩ := appendAll_uniquely_decodable
  have accepted : ∀ packet ∈ [command, event], ∃ bytes, packet.encode = .ok bytes := by
    simp only [List.forall_mem_cons]
    exact ⟨⟨_, rfl⟩, ⟨_, rfl⟩, List.forall_mem_nil _⟩
  obtain ⟨verdict, found, whole, _, unchanged⟩ := atomic wire [command] [event] broken
  obtain rfl : verdict = .error (.unexpectedLength 6 5) := by
    cases found
    rfl
  have notWhole : ¬ broken.IsWhole := by
    intro isWhole
    cases whole.mpr isWhole
  refine ⟨notWhole, accepted, unchanged _ rfl, ?_⟩
  intro packets all same
  exact unique wire packets [command, event] all accepted same

end Packet

end HciSerial
