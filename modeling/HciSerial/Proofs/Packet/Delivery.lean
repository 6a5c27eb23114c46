import HciSerial.Proofs.Framing.Safety
import HciSerial.Proofs.Packet.RoundTrip

/-!
# What is delivered is what was received

Whatever blocks a driver hands over, and wherever the framer is reset in between, a packet
that is delivered consists of the blocks since the last packet, error or reset, and of
nothing else.

## Main Definitions

* `Framer.Use`, `Framer.Turn`: what is done with one framer, and the framer that it meets.
* `Framer.history`, `Framer.afterUses`: the turns of a run, and the framer after it.
* `Framer.unsettled`: the blocks since the last packet, error or reset.
* `Framer.Outcome`: what a block leads to.

## Main Results

* `Grammar.Segment.encode_packet`: a segment that makes a packet is its encoded form.
* `Framer.Holds.outcome`: one block settles the bytes so far, or adds to them.
* `Framer.Holds.afterUses`: after a run, the framer holds what is not settled.
* `Framer.delivered_eq_received`: what is delivered after any run.
-/

namespace HciSerial

namespace Grammar.Segment

variable {maxPacket : Nat} {bytes : List UInt8} {packet : Packet}

/-- A segment that makes a packet is the encoded form of that packet. -/
theorem encode_packet (made : Segment maxPacket bytes (.packet packet)) :
    packet.encode = .ok bytes := by
  cases made with
  | @packet kind header payload receivable complete declared fits =>
    refine Packet.encode_eq_ok_iff.mpr ⟨⟨payload.length, ?_, ?_⟩, rfl⟩
    · show kind.payloadLength? (header ++ payload) = _
      rw [PacketKind.payloadLength?_append complete, declared]
    · rw [List.length_append, complete]

/-- No segment makes a packet that only a host sends. -/
theorem kind_ne_command (made : Segment maxPacket bytes (.packet packet)) :
    packet.kind ≠ .command := by
  cases made with
  | packet receivable =>
    rintro rfl
    cases receivable

/-- A packet that a segment makes is no larger than the receiver allows.

Events and synchronous data are not checked for that; the least packet size has room for the
largest of them. -/
theorem length_data_le (made : Segment maxPacket bytes (.packet packet))
    (least : minPacketSize ≤ maxPacket) : packet.data.length ≤ maxPacket := by
  cases made with
  | @packet kind header payload receivable complete declared fits =>
    rw [List.length_append, complete]
    by_cases isAcl : kind = .acl
    · exact fits isAcl
    · have small := PacketKind.payloadLength?_le declared isAcl
      unfold minPacketSize at least
      cases kind with
      | command => cases receivable
      | acl => exact absurd rfl isAcl
      | sco | event => simp only [PacketKind.headerSize]; omega

end Grammar.Segment

namespace Framer

open Grammar

/-! ## Runs of one framer -/

/-- What is done with one framer. -/
inductive Use where
  /-- It takes a block. -/
  | receive (block : List UInt8)
  /-- It goes back to the packet boundary. -/
  | reset

/-- The bytes that a use hands over. -/
def Use.bytes : Use → List UInt8
  | receive block => block
  | reset => []

/-- The framer after a use. -/
def use (framer : Framer) : Use → Framer
  | .receive block => (framer.receive block).2
  | .reset => framer.reset

/-- A use together with the framer that it meets. -/
structure Turn where
  before : Framer
  use : Use

/-- The uses of a run in order, each with the framer that it meets. -/
def history (framer : Framer) : List Use → List Turn
  | [] => []
  | use :: rest => ⟨framer, use⟩ :: history (framer.use use) rest

/-- The framer after a run. -/
def afterUses (framer : Framer) (uses : List Use) : Framer :=
  uses.foldl use framer

/-- The packets that are given to the handler with a verdict. -/
def delivered : Verdict → List Packet
  | .ok (some packet) => [packet]
  | _ => []

/-- Whether a verdict neither delivers a packet nor refuses the block. -/
def isOngoing : Verdict → Bool
  | .ok none => true
  | _ => false

/-- Whether the packet goes on after a turn: no packet, no error, no reset. -/
def Turn.goesOn (turn : Turn) : Bool :=
  match turn.use with
  | .receive block => isOngoing (turn.before.receive block).1
  | .reset => false

/-- The blocks since the last packet, error or reset, one after the other. -/
def unsettled (past : List Turn) : List UInt8 :=
  (past.rtakeWhile Turn.goesOn).flatMap fun turn => turn.use.bytes

theorem history_concat (framer : Framer) (uses : List Use) (use : Use) :
    framer.history (uses ++ [use]) = framer.history uses ++ [⟨framer.afterUses uses, use⟩] := by
  induction uses generalizing framer with
  | nil => rfl
  | cons first rest ih =>
    show _ :: history _ (rest ++ [use]) = _ :: (history _ rest ++ [_])
    rw [ih]
    rfl

theorem afterUses_concat (framer : Framer) (uses : List Use) (use : Use) :
    framer.afterUses (uses ++ [use]) = (framer.afterUses uses).use use := by
  rw [afterUses, List.foldl_append]
  rfl

/-- A turn adds its block to the bytes so far, or settles them. -/
theorem unsettled_concat (past : List Turn) (last : Turn) :
    unsettled (past ++ [last]) = if last.goesOn then unsettled past ++ last.use.bytes else [] := by
  rw [unsettled, List.rtakeWhile_concat]
  split
  · rw [List.flatMap_append, List.flatMap_singleton, unsettled]
  · rfl

/-! ## What a block leads to -/

variable {maxPacket : Nat} {received : List UInt8} {framer : Framer}

/-- What a block leads to, with `bytes` the ones so far and those of the block: they go on,
make a packet, or are given up. -/
inductive Outcome (maxPacket : Nat) (bytes : List UInt8) : Verdict × Framer → Prop where
  | ongoing {next : Framer} (holds : next.Holds maxPacket bytes) :
      Outcome maxPacket bytes (.ok none, next)
  | complete {packet : Packet} {next : Framer} (least : minPacketSize ≤ maxPacket)
      (segment : Segment maxPacket bytes (.packet packet)) (boundary : next.Holds maxPacket []) :
      Outcome maxPacket bytes (.ok (some packet), next)
  | refused {error : FramingError} {next : Framer} (boundary : next.Holds maxPacket []) :
      Outcome maxPacket bytes (.error error, next)

/-- A framer that holds nothing is at the packet boundary. -/
theorem Holds.at_boundary (holds : framer.Holds maxPacket []) :
    framer.state = .awaitingKind ∧ framer.nextRead = (0, 1) := by
  rw [nextRead, holds.position_eq, holds.wanted_eq_one]
  refine ⟨?_, rfl⟩
  have stage := holds.stage
  generalize framer.wanted = wanted at stage
  generalize framer.state = state at stage
  cases stage
  rfl

/-- A block of any length goes on from the bytes so far, makes a packet of them, or gives
them up. -/
theorem Holds.outcome (holds : framer.Holds maxPacket received) (block : List UInt8) :
    Outcome maxPacket (received ++ block) (framer.receive block) := by
  by_cases asked : block.length = framer.wanted
  · have least : minPacketSize ≤ maxPacket := holds.size ▸ holds.formed.least
    have progress := holds.receive asked
    generalize framer.receive block = result at progress ⊢
    cases progress with
    | ongoing _ more => exact .ongoing more
    | @complete verdict item next reports segment boundary =>
      rcases verdict with error | _ | packet
      · exact .refused boundary
      · cases reports
      · cases reports
        exact .complete least segment boundary
  · rw [Framer.receive, if_pos asked]
    exact .refused holds.toCarries.reset

/-- After every turn the framer holds the bytes that are not settled. -/
theorem Holds.use (holds : framer.Holds maxPacket received) (use : Use) :
    (framer.use use).Holds maxPacket
      (if Turn.goesOn ⟨framer, use⟩ then received ++ use.bytes else []) := by
  cases use with
  | reset => exact holds.toCarries.reset
  | receive block =>
    have outcome := holds.outcome block
    show (framer.receive block).2.Holds maxPacket
      (if isOngoing (framer.receive block).1 then received ++ block else [])
    generalize framer.receive block = result at outcome ⊢
    cases outcome with
    | ongoing holds => exact holds
    | complete _ _ boundary | refused boundary => exact boundary

/-- After any run the framer holds the bytes that are not settled. -/
theorem Holds.afterUses (start : framer.Holds maxPacket []) (uses : List Use) :
    (framer.afterUses uses).Holds maxPacket (unsettled (framer.history uses)) := by
  induction uses using List.reverseRecOn with
  | nil => exact start
  | append_singleton earlier last ih =>
    rw [history_concat, afterUses_concat, unsettled_concat]
    exact ih.use last

/-- A new framer holds nothing, whatever its buffer contains. -/
theorem holds_new_refilled {preBuffer maxPacket : UInt64} {buffer : ReceiveBuffer}
    (made : ReceiveBuffer.new preBuffer maxPacket = .ok buffer) {contents : List UInt8}
    (same : contents.length = buffer.storage.length) :
    (new { buffer with storage := contents }).Holds maxPacket.toNat [] := by
  obtain ⟨formed, size⟩ := ReceiveBuffer.wellFormed_of_new made
  exact size ▸ holds_new (formed.refill same)

/-- A packet that is delivered consists of what was received.

After any run of blocks and resets, a block delivers at most one packet.  If it is refused, it
delivers none, and the framer is at the packet boundary again.  If it delivers a packet, then
the packet is not a command, is no larger than the buffer allows, and its tag and data, which
are also its encoded form, are exactly the blocks since the last packet, error or reset.

The buffer is any that can be made, with any contents. -/
theorem delivered_eq_received {preBuffer maxPacket : UInt64} {buffer : ReceiveBuffer}
    (made : ReceiveBuffer.new preBuffer maxPacket = .ok buffer) {contents : List UInt8}
    (same : contents.length = buffer.storage.length) (uses : List Use) (block : List UInt8) :
    let start := new { buffer with storage := contents }
    let received := unsettled (start.history uses) ++ block
    let verdict := ((start.afterUses uses).receive block).1
    let next := ((start.afterUses uses).receive block).2
    (delivered verdict).length ≤ 1 ∧
      (∀ error, verdict = .error error →
        delivered verdict = [] ∧ next.state = .awaitingKind ∧ next.nextRead = (0, 1)) ∧
      ∀ packet ∈ delivered verdict,
        packet.kind.tag :: packet.data = received ∧ packet.kind ≠ .command ∧
          packet.data.length ≤ maxPacket.toNat ∧ packet.encode = .ok received := by
  intro start received verdict next
  have outcome : Outcome maxPacket.toNat received (verdict, next) :=
    ((holds_new_refilled made same).afterUses uses).outcome block
  generalize verdict = verdict, next = next at outcome
  cases outcome with
  | ongoing => exact ⟨Nat.zero_le 1, nofun, fun packet member => nomatch member⟩
  | refused boundary =>
    refine ⟨Nat.zero_le 1, fun _ _ => ⟨rfl, boundary.at_boundary⟩, ?_⟩
    exact fun packet member => nomatch member
  | complete least segment =>
    refine ⟨Nat.le_refl 1, nofun, fun packet member => ?_⟩
    obtain rfl := List.mem_singleton.mp member
    have encoded := segment.encode_packet
    exact ⟨(Packet.encode_eq_ok_iff.mp encoded).2.symm, segment.kind_ne_command,
      segment.length_data_le least, encoded⟩

/-- An event is delivered after a header of the wrong length, over a buffer full of old
bytes. -/
theorem delivered_after_short_header :
    let stale := { ReceiveBuffer.default with storage := List.replicate 1027 0x02 }
    let uses : List Use := [.receive [0x04], .receive [0x6E], .receive [0x04], .receive [0x0E, 1]]
    let verdict := (((new stale).afterUses uses).receive [0xAB]).1
    ReceiveBuffer.new 1 1025 = .ok .default ∧
      (List.replicate 1027 (0x02 : UInt8)).length = ReceiveBuffer.default.storage.length ∧
      delivered verdict = [⟨.event, [0x0E, 1, 0xAB]⟩] ∧
      ∀ packet ∈ delivered verdict, packet.encode = .ok [0x04, 0x0E, 1, 0xAB] := by
  intro stale uses verdict
  have same : (List.replicate 1027 (0x02 : UInt8)).length =
      ReceiveBuffer.default.storage.length := by
    rw [List.length_replicate]
    exact List.length_replicate.symm
  obtain ⟨_, _, packets⟩ := delivered_eq_received ReceiveBuffer.new_default same uses [0xAB]
  refine ⟨ReceiveBuffer.new_default, same, by decide +kernel, fun packet member => ?_⟩
  exact (packets packet member).2.2.2.trans (by decide +kernel)

end Framer

end HciSerial
