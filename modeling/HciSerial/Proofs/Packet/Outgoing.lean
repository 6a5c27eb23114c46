import HciSerial.Packet.Outgoing
import HciSerial.Proofs.Packet.Encoding

/-!
# Building outgoing packets

A packet under construction is a list of bytes for its user: whatever the room in front of its
payload, the same edits lead to the same payload as on a plain list.  What goes to the line is
then what the encoder writes for that payload.

## Main Definitions

* `OutgoingPacket.Origin`: the ways to begin a packet, with the bytes that it begins with.
* `OutgoingPacket.Edit`: the ways to change a packet, on the packet and on a plain list.

## Main Results

* `OutgoingPacket.Origin.payload_build`: what a packet begins with.
* `OutgoingPacket.map_payload_editAll?`: edits of a packet are edits of its payload.
* `OutgoingPacket.command_encode`: a command is accepted by the encoder.
* `OutgoingPacket.edited_wire_eq_encoded`: line and encoder get the same bytes.
-/

namespace HciSerial

namespace OutgoingPacket

/-! ## The payload -/

/-- The free bytes in front do not belong to the payload. -/
@[simp] theorem payload_build (headroom : Nat) (headroom_pos : 0 < headroom)
    (payload : List UInt8) : (build headroom headroom_pos payload).payload = payload :=
  List.drop_left' List.length_replicate

@[simp] theorem payload_extend (packet : OutgoingPacket) (bytes : List UInt8) :
    (packet.extend bytes).payload = packet.payload ++ bytes :=
  List.drop_append_of_le_length packet.headroom_le

/-- A byte that is changed is that of the payload, and only the payload can be changed. -/
theorem map_payload_set? (packet : OutgoingPacket) (position : Nat) (value : UInt8) :
    (packet.set? position value).map payload =
      if position < packet.payload.length then some (packet.payload.set position value)
      else none := by
  unfold set?
  split
  · exact congrArg some List.set_drop.symm
  · rfl

/-! ## How packets begin -/

/-- The ways to begin a packet. -/
inductive Origin where
  | empty
  | withHeadroom (headroom : Nat)
  | ofPayload (payload : List UInt8)
  | command (opcode : UInt16) (parameters : List UInt8)

theorem toNat_shiftRight_eight (opcode : UInt16) : (opcode >>> 8).toNat = opcode.toNat / 256 := by
  rw [UInt16.toNat_shiftRight]
  exact Nat.shiftRight_eq_div_pow _ 8

/-- The header and the parameters of a command: operation code with its low byte first, number
of parameters, parameters. -/
def commandBytes (opcode : UInt16) (parameters : List UInt8) : List UInt8 :=
  opcode.toUInt8 :: (opcode >>> 8).toUInt8 :: UInt8.ofNat parameters.length :: parameters

namespace Origin

/-- Begins a packet. -/
def build : Origin → Except FramingError OutgoingPacket
  | empty => .ok .empty
  | withHeadroom headroom => OutgoingPacket.withHeadroom headroom
  | ofPayload payload => .ok (.ofPayload payload)
  | command opcode parameters => OutgoingPacket.command opcode parameters

/-- The bytes that a packet begins with, whatever the room in front of them. -/
def contents : Origin → List UInt8
  | empty => []
  | withHeadroom _ => []
  | ofPayload payload => payload
  | command opcode parameters => commandBytes opcode parameters

/-- A command that is not refused holds its bytes. -/
theorem payload_command {opcode : UInt16} {parameters : List UInt8} {packet : OutgoingPacket}
    (built : OutgoingPacket.command opcode parameters = .ok packet) :
    packet.payload = commandBytes opcode parameters := by
  unfold OutgoingPacket.command at built
  split at built
  · cases built
  · cases built
    have low : UInt8.ofNat (opcode.toNat % 256) = opcode.toUInt8 := by
      rw [← UInt8.toNat_inj, UInt8.toNat_ofNat', UInt16.toNat_toUInt8]
      omega
    have high : UInt8.ofNat (opcode.toNat / 256) = (opcode >>> 8).toUInt8 := by
      rw [← UInt8.toNat_inj, UInt8.toNat_ofNat', UInt16.toNat_toUInt8, toNat_shiftRight_eight]
    rw [OutgoingPacket.ofPayload, payload_build, low, high, commandBytes]

/-- A packet begins with the bytes that it was asked to begin with. -/
theorem payload_build {origin : Origin} {packet : OutgoingPacket}
    (built : origin.build = .ok packet) : packet.payload = origin.contents := by
  cases origin with
  | empty =>
    cases built
    exact OutgoingPacket.payload_build _ _ _
  | withHeadroom headroom =>
    simp only [build, OutgoingPacket.withHeadroom] at built
    split at built <;> cases built
    exact OutgoingPacket.payload_build _ _ _
  | ofPayload payload =>
    cases built
    exact OutgoingPacket.payload_build _ _ _
  | command opcode parameters => exact payload_command built

end Origin

/-! ## How packets are changed -/

/-- The ways to change a packet. -/
inductive Edit where
  | extend (bytes : List UInt8)
  | set (position : Nat) (value : UInt8)

/-- Changes a plain list of bytes, `none` for a position outside it. -/
def Edit.onBytes? (bytes : List UInt8) : Edit → Option (List UInt8)
  | extend more => some (bytes ++ more)
  | set position value => if position < bytes.length then some (bytes.set position value) else none

/-- Changes a packet, `none` for a position outside its payload. -/
def edit? (packet : OutgoingPacket) : Edit → Option OutgoingPacket
  | .extend bytes => some (packet.extend bytes)
  | .set position value => packet.set? position value

/-- Changes a packet again and again. -/
def editAll? (packet : OutgoingPacket) (edits : List Edit) : Option OutgoingPacket :=
  edits.foldlM edit? packet

theorem map_payload_edit? (packet : OutgoingPacket) (edit : Edit) :
    (packet.edit? edit).map payload = edit.onBytes? packet.payload := by
  cases edit with
  | extend bytes => exact congrArg some (packet.payload_extend bytes)
  | set position value => exact packet.map_payload_set? position value

/-- Edits of a packet are edits of its payload. -/
theorem map_payload_editAll? (packet : OutgoingPacket) (edits : List Edit) :
    (packet.editAll? edits).map payload = edits.foldlM Edit.onBytes? packet.payload := by
  induction edits generalizing packet with
  | nil => rfl
  | cons edit rest ih =>
    rw [editAll?, List.foldlM_cons, List.foldlM_cons, ← packet.map_payload_edit? edit]
    cases packet.edit? edit with
    | none => rfl
    | some next => exact ih next

/-! ## What the line gets -/

/-- A command is refused exactly if it has more parameters than a byte can count. -/
theorem command_eq_error_iff {opcode : UInt16} {parameters : List UInt8} :
    (∃ error, command opcode parameters = .error error) ↔ 255 < parameters.length := by
  unfold command
  split
  case isTrue long => exact iff_of_true ⟨_, rfl⟩ long
  case isFalse short => exact iff_of_false nofun short

/-- The encoder accepts a command: its header declares the number of its parameters. -/
theorem command_encode {opcode : UInt16} {parameters : List UInt8} {packet : OutgoingPacket}
    (built : command opcode parameters = .ok packet) :
    (⟨.command, packet.payload⟩ : Packet).declaredLength? = some parameters.length ∧
      (⟨.command, packet.payload⟩ : Packet).encode = .ok (packet.wire .command) := by
  have short : parameters.length ≤ 255 := by
    refine Nat.not_lt.mp fun long => ?_
    obtain ⟨error, refused⟩ := command_eq_error_iff.mpr long
    cases built.symm.trans refused
  have declared : (⟨.command, packet.payload⟩ : Packet).declaredLength? =
      some parameters.length := by
    rw [Origin.payload_command built]
    exact congrArg some (UInt8.toNat_ofNat_of_lt' (Nat.lt_succ_of_le short))
  refine ⟨declared, Packet.encode_eq_ok_iff.mpr ⟨⟨_, declared, ?_⟩, packet.wire_eq .command⟩⟩
  rw [Origin.payload_command built, commandBytes]
  exact Nat.add_comm _ _

/-- The bytes of an operation code, low byte first, make up the operation code. -/
theorem toNat_opcode (opcode : UInt16) :
    opcode.toUInt8.toNat + 256 * (opcode >>> 8).toUInt8.toNat = opcode.toNat := by
  have bound := opcode.toNat_lt
  rw [UInt16.toNat_toUInt8, UInt16.toNat_toUInt8, toNat_shiftRight_eight]
  omega

/-- The line gets what the encoder writes.

Edits of a packet, in any number and order, succeed or fail as on a plain list of the bytes
that it begins with and lead to the same payload, whatever the room in front of it.  The line
gets the tag and this payload, and whenever the encoder accepts the payload, it appends just
these bytes.  A packet can always be begun, but for one without room for the tag and a command
with more than 255 parameters.  Any other command is accepted by the encoder, with a declared
length of as many bytes as it has parameters, and holds the operation code and the parameters. -/
theorem edited_wire_eq_encoded :
    (∀ (origin : Origin) (packet : OutgoingPacket), origin.build = .ok packet →
      ∀ edits : List Edit,
        (packet.editAll? edits).map payload = edits.foldlM Edit.onBytes? origin.contents ∧
        ∀ edited, packet.editAll? edits = some edited → ∀ kind,
          edited.wire kind = kind.tag :: edited.payload ∧
          ∀ before, (Packet.appendTo before ⟨kind, edited.payload⟩).1 = .ok () →
            Packet.appendTo before ⟨kind, edited.payload⟩ =
              (.ok (), before ++ edited.wire kind)) ∧
    (∀ origin : Origin, (∃ error, origin.build = .error error) ↔
      origin = .withHeadroom 0 ∨
        ∃ opcode parameters, origin = .command opcode parameters ∧ 255 < parameters.length) ∧
    ∀ (opcode : UInt16) (parameters : List UInt8), parameters.length ≤ 255 →
      ∃ packet, command opcode parameters = .ok packet ∧
        (∀ before, (Packet.appendTo before ⟨.command, packet.payload⟩).1 = .ok ()) ∧
        (⟨.command, packet.payload⟩ : Packet).declaredLength? = some parameters.length ∧
        ∃ low high count, packet.payload = low :: high :: count :: parameters ∧
          low.toNat + 256 * high.toNat = opcode.toNat := by
  refine ⟨?edited, ?refused, ?command⟩
  case edited =>
    intro origin packet built edits
    rw [map_payload_editAll?, Origin.payload_build built]
    refine ⟨rfl, fun edited _ kind => ⟨edited.wire_eq kind, fun before accepted => ?_⟩⟩
    cases encoded : (⟨kind, edited.payload⟩ : Packet).encode with
    | error error =>
      rw [Packet.appendTo_of_refused encoded] at accepted
      cases accepted
    | ok bytes =>
      obtain ⟨_, rfl⟩ := Packet.encode_eq_ok_iff.mp encoded
      rw [Packet.appendTo_of_encode encoded, edited.wire_eq]
  case refused =>
    intro origin
    cases origin with
    | empty | ofPayload => simp [Origin.build]
    | withHeadroom headroom => cases headroom <;> simp [Origin.build, withHeadroom]
    | command opcode parameters =>
      show (∃ error, OutgoingPacket.command opcode parameters = .error error) ↔ _
      rw [command_eq_error_iff]
      simp
  case command =>
    intro opcode parameters short
    cases built : command opcode parameters with
    | error error => exact absurd (command_eq_error_iff.mp ⟨error, built⟩) (Nat.not_lt.mpr short)
    | ok packet =>
      obtain ⟨declared, encoded⟩ := command_encode built
      refine ⟨packet, rfl, fun before => ?_, declared, _, _, _, Origin.payload_command built,
        toNat_opcode opcode⟩
      rw [Packet.appendTo_of_encode encoded]

/-- Asynchronous data is built behind eight free bytes, and one byte of it is changed. -/
theorem edited_wire_behind_headroom :
    let edits : List Edit := [.extend [0x40, 0x00, 0x01, 0x00], .extend [0x00], .set 4 0x99]
    let data : List UInt8 := [0x40, 0x00, 0x01, 0x00, 0x99]
    let packet := build 8 (by decide) []
    Origin.build (.withHeadroom 8) = .ok packet ∧
      (packet.editAll? edits).map payload = some data ∧
      (∀ edited, packet.editAll? edits = some edited →
        Packet.appendTo [0xFF] ⟨.acl, edited.payload⟩ = (.ok (), [0xFF] ++ edited.wire .acl)) ∧
      ([0xAA] : List UInt8).length ≤ 255 ∧
      ∃ command, OutgoingPacket.command 0x0C03 [0xAA] = .ok command ∧
        (⟨.command, command.payload⟩ : Packet).declaredLength? = some 1 := by
  intro edits data packet
  obtain ⟨agrees, _, command⟩ := edited_wire_eq_encoded
  obtain ⟨payloads, lines⟩ := agrees (.withHeadroom 8) packet rfl edits
  have short : ([0xAA] : List UInt8).length ≤ 255 := by decide
  obtain ⟨built, built_eq, _, declared, _⟩ := command 0x0C03 [0xAA] short
  refine ⟨rfl, payloads, fun edited edited_eq => ?_, short, built, built_eq, declared⟩
  have edited_payload : edited.payload = data := by
    rw [edited_eq] at payloads
    exact Option.some.inj payloads
  refine (lines edited edited_eq .acl).2 [0xFF] ?_
  rw [edited_payload]
  rfl

end OutgoingPacket

end HciSerial
