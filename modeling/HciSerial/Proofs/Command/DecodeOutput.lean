import HciSerial.Host.Offline
import HciSerial.Proofs.Packet.Encoding
import HciSerial.Proofs.Packet.Listing

/-!
# What decoding prints

Whatever is wrong with a stream, all of its packets are printed before the command ends, and
what is printed in JSON tells which packets they are.

## Main Definitions

* `Decoded.logged`: the host after the log records of a decoded stream have been written.

## Main Results

* `decode_of_text`, `decode_of_file`: the command on a text and on a file.
* `Packet.segments_written`: encoded packets that the decoder can receive are segments.
* `decode_prints_all`: what is printed, how the command ends, and what can be got back.
-/

namespace HciSerial

open Grammar

/-! ## The command -/

section Command

variable {W : Type} [Host W]

/-- The host after the log records of a decoded stream have been written. -/
def Decoded.logged (decoded : Decoded) (world : W) : W :=
  decoded.records.foldl (fun world record => Host.report record world) world

/-- A stream given as text is decoded and shown. -/
theorem decode_of_text {text : String} {bytes : List UInt8} (read : Hex.parse text = .ok bytes)
    (file : Option String) (format : ListingFormat) (world : W) :
    decode (some text) file format world =
      let decoded := decodeStream bytes
      (decoded.outcome, Host.print (listing format decoded.packets) (decoded.logged world)) := by
  have input : decodeInput (some text) file world = (.ok bytes, world) := by
    simp only [decodeInput, read]
  rw [decode, input]
  rfl

/-- A stream in a file is decoded and shown. -/
theorem decode_of_file {path : String} {bytes : List UInt8} {world after : W}
    (read : Host.readFile path world = (.ok bytes, after)) (format : ListingFormat) :
    decode none (some path) format world =
      let decoded := decodeStream bytes
      (decoded.outcome, Host.print (listing format decoded.packets) (decoded.logged after)) := by
  have input : decodeInput none (some path) world = (.ok bytes, after) := by
    simp only [decodeInput, read]
  rw [decode, input]
  rfl

end Command

/-- A stream is decoded with success exactly if nothing is trailing, and else its data are
invalid. -/
theorem Decoded.outcome_cases (decoded : Decoded) :
    (decoded.outcome = .success ∧ decoded.trailing = 0) ∨
      (decoded.trailing ≠ 0 ∧ ∃ message, decoded.outcome = .failed ⟨.dataInvalid, message⟩) := by
  unfold outcome
  split
  case isTrue trailing => exact .inr ⟨Nat.ne_zero_of_lt trailing, _, rfl⟩
  case isFalse complete => exact .inl ⟨rfl, Nat.eq_zero_of_not_pos complete⟩

/-! ## Encoded packets -/

/-- Encoded packets that a receiver can hold are segments. -/
theorem Packet.segments_written {maxPacket : Nat} {packets : List Packet}
    (held : ∀ packet ∈ packets, (∃ wire, packet.encode = .ok wire) ∧
      packet.kind.receivable = true ∧ (packet.kind = .acl → packet.data.length ≤ maxPacket)) :
    Segments maxPacket (written packets) (packets.map .packet) := by
  induction packets with
  | nil => exact .nil
  | cons packet rest ih =>
    obtain ⟨⟨⟨wire, encoded⟩, receivable, fits⟩, others⟩ := List.forall_mem_cons.mp held
    rw [written_cons, encoded]
    exact .cons (segment_of_encode encoded receivable fits) (ih others)

/-- Encoded packets that the decoder can hold are decoded completely. -/
theorem decodeStream_written {packets : List Packet}
    (held : ∀ packet ∈ packets, (∃ wire, packet.encode = .ok wire) ∧
      packet.kind.receivable = true ∧
      (packet.kind = .acl → packet.data.length ≤ defaultPacketSize)) :
    (decodeStream (Packet.written packets)).packets = packets ∧
      (decodeStream (Packet.written packets)).trailing = 0 := by
  have made := Packet.segments_written held
  constructor
  · rw [decodeStream_packets, parse_of_segments made, List.filterMap_map]
    exact List.filterMap_some
  · exact (decodeStream_trailing_eq_zero_iff _).mpr ⟨_, made⟩

/-! ## Completeness -/

/-- What is printed for a stream is complete, and nothing is lost in it.

Replaying a stream never fails.  Given as text or as a file, the stream is decoded, and its
packets are printed on every host, however the command ends; it succeeds exactly if nothing is
trailing, and else it tells that the data are invalid.  The printed text has one line for each
packet, in order, which is read back as its summary; and a summary names the kind of its packet
by the tag, its bytes by their digits, and their number, and the first byte of an event.  If the
stream is made of encoded packets that the decoder can hold, the command succeeds, and encoding
the packets that are read back from the printed text gives the stream again. -/
theorem decode_prints_all (bytes : List UInt8) :
    let decoded := decodeStream bytes
    let text := listing .json decoded.packets
    (∃ count, (replay bytes).2.1 = [.done, .done, .done, .drained count]) ∧
    (∀ (W : Type) [Host W] (world : W),
      (∀ hex file, Hex.parse hex = .ok bytes →
        decode (some hex) file .json world =
          (decoded.outcome, Host.print text (decoded.logged world))) ∧
      ∀ path after, Host.readFile path world = (.ok bytes, after) →
        decode none (some path) .json world =
          (decoded.outcome, Host.print text (decoded.logged after))) ∧
    (decoded.outcome = .success ↔ decoded.trailing = 0) ∧
    (decoded.trailing ≠ 0 → ∃ message, decoded.outcome = .failed ⟨.dataInvalid, message⟩) ∧
    Listing.read? text = some (decoded.packets.map PacketSummary.ofPacket) ∧
    (∀ packet : Packet,
      let summary := PacketSummary.ofPacket packet
      PacketKind.ofTag? summary.tag = some packet.kind ∧
        Hex.parse summary.data = .ok packet.data ∧ summary.size = packet.data.length ∧
        ∀ code, summary.eventCode = some code ↔
          packet.kind = .event ∧ ∃ rest, packet.data = code :: rest) ∧
    ∀ packets : List Packet,
      (∀ packet ∈ packets, (∃ wire, packet.encode = .ok wire) ∧
        (packet.kind = .event ∨ packet.kind = .acl ∨ packet.kind = .sco) ∧
        (packet.kind = .acl → packet.data.length ≤ packet.kind.headerSize + 1021)) →
      (Packet.appendAll [] packets).2 = bytes →
        decoded.outcome = .success ∧ decoded.packets = packets ∧
          (Listing.packets? text).map (fun shown => (Packet.appendAll [] shown).2) =
            some bytes := by
  intro decoded text
  refine ⟨replay_answers bytes, ?runs, ?verdict, ?invalid, Listing.read?_listing _, ?summary,
    ?encoded⟩
  case runs =>
    intro W _ world
    exact ⟨fun hex file read => decode_of_text read file .json world,
      fun path after read => decode_of_file read .json⟩
  case verdict =>
    rcases decoded.outcome_cases with ⟨success, complete⟩ | ⟨trailing, message, failed⟩
    · exact iff_of_true success complete
    · refine iff_of_false ?_ trailing
      rw [failed]
      nofun
  case invalid =>
    intro trailing
    rcases decoded.outcome_cases with ⟨_, complete⟩ | ⟨_, failed⟩
    · exact absurd complete trailing
    · exact failed
  case summary =>
    exact fun packet => ⟨PacketKind.ofTag?_tag packet.kind, Hex.parse_render packet.data, rfl,
      fun _ => PacketSummary.eventCode_eq_some_iff⟩
  case encoded =>
    intro packets held whole
    rw [Packet.appendAll_snd, List.nil_append] at whole
    have receivable : ∀ packet ∈ packets, (∃ wire, packet.encode = .ok wire) ∧
        packet.kind.receivable = true ∧
        (packet.kind = .acl → packet.data.length ≤ defaultPacketSize) := by
      intro packet member
      obtain ⟨encoded, kind, fits⟩ := held packet member
      refine ⟨encoded, ?_, fun isAcl => ?_⟩
      · rcases kind with kind | kind | kind <;> rw [kind] <;> rfl
      · rw [isAcl] at fits
        exact fits rfl
    obtain ⟨packets_eq, complete⟩ := decodeStream_written receivable
    rw [whole] at packets_eq complete
    rcases decoded.outcome_cases with ⟨success, _⟩ | ⟨trailing, _⟩
    · refine ⟨success, packets_eq, ?_⟩
      rw [Listing.packets?_listing, Option.map_some, Packet.appendAll_snd, List.nil_append]
      exact congrArg some (packets_eq ▸ whole)
    · exact absurd complete trailing

/-- On a host prepared beforehand, what is printed for a stream is all that is printed. -/
theorem OfflineHost.output_print_logged (decoded : Decoded) (host : OfflineHost)
    (unprinted : host.printed = []) (text : String) :
    (Host.print text (decoded.logged host)).output = text := by
  have quiet : ∀ (records : List Log.Record) (host : OfflineHost),
      (records.foldl (fun host record => Host.report record host) host).printed =
        host.printed := by
    intro records
    induction records with
    | nil => exact fun _ => rfl
    | cons record rest ih => exact fun host => ih (Host.report record host)
  show String.join (text :: (decoded.logged host).printed).reverse = text
  rw [Decoded.logged, quiet, unprinted]
  simp

/-- The event in front of a cut one is printed before the command fails, and a whole stream that
is given as text is got back from what is printed. -/
theorem decode_prints_before_cut :
    let capture : OfflineHost := { files := [("capture", .ok [0x04, 0x0E, 0x00, 0x04])] }
    let (outcome, after) := decode none (some "capture") .json capture
    let (verdict, shown) := decode (some "04:0E:00") none .json ({} : OfflineHost)
    (∃ message, outcome = .failed ⟨.dataInvalid, message⟩) ∧
      Listing.packets? after.output = some [⟨.event, [0x0E, 0x00]⟩] ∧
      verdict = .success ∧
      (Listing.packets? shown.output).map (fun packets => (Packet.appendAll [] packets).2) =
        some [0x04, 0x0E, 0x00] := by
  intro capture
  obtain ⟨-, cutRuns, -, invalid, -⟩ := decode_prints_all [0x04, 0x0E, 0x00, 0x04]
  obtain ⟨-, wholeRuns, -, -, -, -, encoded⟩ := decode_prints_all [0x04, 0x0E, 0x00]
  have cutTrailing : (decodeStream [0x04, 0x0E, 0x00, 0x04]).trailing ≠ 0 := by decide +kernel
  have cutPackets : (decodeStream [0x04, 0x0E, 0x00, 0x04]).packets =
      [⟨.event, [0x0E, 0x00]⟩] := by decide +kernel
  have digits : Hex.parse "04:0E:00" = .ok [0x04, 0x0E, 0x00] := by decide +kernel
  obtain ⟨success, _, again⟩ := encoded [⟨.event, [0x0E, 0x00]⟩] (by simp [Packet.encode,
    Packet.check, Packet.declaredLength?, PacketKind.payloadLength?, PacketKind.headerSize]) rfl
  rw [(cutRuns OfflineHost capture).2 "capture" capture rfl,
    (wholeRuns OfflineHost {}).1 "04:0E:00" none digits]
  refine ⟨invalid cutTrailing, ?_, success, ?_⟩
  · rw [OfflineHost.output_print_logged _ capture rfl, cutPackets, Listing.packets?_listing]
  · rw [OfflineHost.output_print_logged _ {} rfl]
    exact again

end HciSerial
