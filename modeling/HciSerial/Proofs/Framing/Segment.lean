import HciSerial.Framing.Grammar
import Mathlib

/-!
# Segments of a received stream

The grammar read as a set of segments instead of as a function: a stream is a
concatenation of segments, followed by bytes that no segment starts.

## Main Definitions

* `Grammar.Segment`: the stretches of bytes that are rejected or make a packet.
* `Grammar.Segments`: concatenations of segments, with their items.
* `Grammar.Item.size`: the number of bytes that an item takes on the link.
* `Grammar.Item.packet?`, `Grammar.Item.error?`: the two kinds of item.

## Main Results

* `Grammar.next?_eq_some_iff`: the reader of one item splits off exactly a segment.
* `Grammar.parse_append`: segments in front of a stream are read first.
* `Grammar.segments_parse`: what the reader consumes is made of segments.
-/

namespace HciSerial

namespace PacketKind

/-- A byte stands for a receivable kind exactly if it is the tag of that kind. -/
theorem ofReceivableTag?_eq_some_iff {byte : UInt8} {kind : PacketKind} :
    ofReceivableTag? byte = some kind ↔ byte = kind.tag ∧ kind.receivable = true := by
  have found : ofTag? byte = some kind ↔ byte = kind.tag := by
    constructor
    · intro found
      unfold ofTag? at found
      split at found <;> cases found <;> rfl
    · rintro rfl
      exact ofTag?_tag kind
  rw [ofReceivableTag?, Option.filter_eq_some_iff, found]

/-- The tag of a receivable kind is one of three bytes. -/
theorem ofReceivableTag?_eq_none_iff {byte : UInt8} :
    ofReceivableTag? byte = none ↔ byte ≠ 2 ∧ byte ≠ 3 ∧ byte ≠ 4 := by
  constructor
  · intro unknown
    refine ⟨?_, ?_, ?_⟩ <;> rintro rfl <;> exact absurd unknown (by decide)
  · rintro ⟨acl, sco, event⟩
    rw [Option.eq_none_iff_forall_not_mem]
    intro kind found
    obtain ⟨rfl, receivable⟩ := ofReceivableTag?_eq_some_iff.mp found
    cases kind with
    | command => cases receivable
    | acl => exact acl rfl
    | sco => exact sco rfl
    | event => exact event rfl

/-- A header declares no length exactly if it is incomplete. -/
theorem payloadLength?_eq_none_iff {kind : PacketKind} {header : List UInt8} :
    kind.payloadLength? header = none ↔ header.length < kind.headerSize := by
  rcases header with _ | ⟨first, _ | ⟨second, _ | ⟨third, _ | ⟨fourth, more⟩⟩⟩⟩
  all_goals cases kind <;> simp [headerSize, payloadLength?]

theorem payloadLength?_append {kind : PacketKind} {header : List UInt8}
    (complete : header.length = kind.headerSize) (rest : List UInt8) :
    kind.payloadLength? (header ++ rest) = kind.payloadLength? header := by
  rcases header with _ | ⟨first, _ | ⟨second, _ | ⟨third, _ | ⟨fourth, more⟩⟩⟩⟩
  all_goals cases kind <;> simp_all [headerSize, payloadLength?]

theorem headerSize_ne_zero (kind : PacketKind) : kind.headerSize ≠ 0 := by
  cases kind <;> decide

/-- A length declared by one byte is at most 255. -/
theorem payloadLength?_le {kind : PacketKind} {header : List UInt8} {length : Nat}
    (declared : kind.payloadLength? header = some length) (single : kind ≠ .acl) :
    length ≤ 255 := by
  unfold payloadLength? at declared
  split at declared
  case h_2 => exact absurd rfl single
  all_goals cases declared
  all_goals exact Nat.le_of_lt_succ (UInt8.toNat_lt _)

end PacketKind

namespace Grammar

variable {maxPacket : Nat}

/-! ## One segment -/

/-- The stretches of a stream that make one item.

Asynchronous data that is too large is rejected with its tag and header, so the
stretch ends where its payload would begin. -/
inductive Segment (maxPacket : Nat) : List UInt8 → Item → Prop where
  | stray {byte : UInt8} (unknown : PacketKind.ofReceivableTag? byte = none) :
      Segment maxPacket [byte] (.fault (.invalidKind byte))
  | oversized {header : List UInt8} {length : Nat}
      (complete : header.length = PacketKind.acl.headerSize)
      (declared : PacketKind.acl.payloadLength? header = some length)
      (large : maxPacket < PacketKind.acl.headerSize + length) :
      Segment maxPacket (PacketKind.acl.tag :: header)
        (.fault (.aclTooLarge length (maxPacket - PacketKind.acl.headerSize)))
  | packet {kind : PacketKind} {header payload : List UInt8}
      (receivable : kind.receivable = true)
      (complete : header.length = kind.headerSize)
      (declared : kind.payloadLength? header = some payload.length)
      (fits : kind = .acl → kind.headerSize + payload.length ≤ maxPacket) :
      Segment maxPacket (kind.tag :: (header ++ payload)) (.packet ⟨kind, header ++ payload⟩)

/-- The number of bytes that an item takes on the link. -/
def Item.size : Item → Nat
  | .packet complete => complete.wireSize
  | .fault (.invalidKind _) => 1
  | .fault (.aclTooLarge _ _) => 1 + PacketKind.acl.headerSize
  | .fault _ => 0

/-- The packet of an item, if it is one. -/
def Item.packet? : Item → Option Packet
  | .packet complete => some complete
  | .fault _ => none

/-- The error of an item that was rejected. -/
def Item.error? : Item → Option FramingError
  | .packet _ => none
  | .fault error => some error

/-- A segment is as long as its item says. -/
theorem Segment.length_eq {segment : List UInt8} {item : Item}
    (made : Segment maxPacket segment item) : segment.length = item.size := by
  cases made with
  | stray => rfl
  | oversized complete => rw [Item.size, List.length_cons, complete, Nat.add_comm]
  | packet => rw [Item.size, Packet.wireSize, List.length_cons, Nat.add_comm]

/-- The reader splits a segment off, whatever follows it. -/
theorem Segment.next? {segment : List UInt8} {item : Item}
    (made : Segment maxPacket segment item) (rest : List UInt8) :
    next? maxPacket (segment ++ rest) = some (item, rest) := by
  cases made with
  | stray unknown => simp [Grammar.next?, unknown]
  | @oversized header length complete declared large =>
    have known : PacketKind.ofReceivableTag? PacketKind.acl.tag = some .acl := rfl
    have length? := PacketKind.payloadLength?_append complete rest
    rw [declared] at length?
    simp only [List.cons_append, Grammar.next?, known, length?]
    rw [if_pos ⟨trivial, large⟩, List.drop_left' complete]
  | @packet kind header payload receivable complete declared fits =>
    have known := PacketKind.ofReceivableTag?_eq_some_iff.mpr ⟨rfl, receivable⟩
    have length? := PacketKind.payloadLength?_append complete (payload ++ rest)
    rw [declared, ← List.append_assoc] at length?
    have size : (header ++ payload).length = kind.headerSize + payload.length := by
      rw [List.length_append, complete]
    have small : ¬ (kind = .acl ∧ kind.headerSize + payload.length > maxPacket) := by
      rintro ⟨isAcl, large⟩
      exact absurd (fits isAcl) (Nat.not_le.mpr large)
    have enough : ¬ (header ++ payload ++ rest).length < kind.headerSize + payload.length := by
      rw [List.length_append, size]
      exact Nat.not_lt.mpr (Nat.le_add_right _ _)
    simp only [List.cons_append, Grammar.next?, known, length?]
    rw [if_neg small, if_neg enough, List.take_left' size, List.drop_left' size]

/-- What the reader splits off is a segment. -/
theorem segment_of_next? {bytes rest : List UInt8} {item : Item}
    (found : next? maxPacket bytes = some (item, rest)) :
    ∃ segment, Segment maxPacket segment item ∧ bytes = segment ++ rest := by
  rcases bytes with _ | ⟨tag, tail⟩
  · cases found
  simp only [next?] at found
  split at found
  case h_1 unknown =>
    cases found
    exact ⟨[tag], .stray unknown, rfl⟩
  case h_2 kind known =>
    obtain ⟨rfl, receivable⟩ := PacketKind.ofReceivableTag?_eq_some_iff.mp known
    split at found
    case h_1 => cases found
    case h_2 length declared =>
      -- a declared length shows that the header is complete
      have long : kind.headerSize ≤ tail.length := by
        rw [← Nat.not_lt, ← PacketKind.payloadLength?_eq_none_iff, declared]
        exact Option.some_ne_none length
      have complete : (tail.take kind.headerSize).length = kind.headerSize :=
        List.length_take_of_le long
      have inHeader : kind.payloadLength? (tail.take kind.headerSize) = some length := by
        rw [← PacketKind.payloadLength?_append complete (tail.drop kind.headerSize),
          List.take_append_drop, declared]
      split at found
      case isTrue large =>
        obtain ⟨rfl, large⟩ := large
        cases found
        refine ⟨_, .oversized complete inHeader large, ?_⟩
        rw [List.cons_append, List.take_append_drop]
      case isFalse small =>
        split at found
        case isTrue => cases found
        case isFalse enough =>
          cases found
          have payload : ((tail.drop kind.headerSize).take length).length = length := by
            rw [List.length_take_of_le]
            rw [List.length_drop]
            omega
          refine ⟨kind.tag :: tail.take (kind.headerSize + length), ?_, ?_⟩
          · rw [List.take_add]
            refine .packet receivable complete (by rw [inHeader, payload]) fun isAcl => ?_
            rw [payload]
            exact Nat.not_lt.mp fun large => small ⟨isAcl, large⟩
          · rw [List.cons_append, List.take_append_drop]

/-- The reader of one item splits off exactly a segment. -/
theorem next?_eq_some_iff {bytes rest : List UInt8} {item : Item} :
    next? maxPacket bytes = some (item, rest) ↔
      ∃ segment, Segment maxPacket segment item ∧ bytes = segment ++ rest := by
  constructor
  · exact segment_of_next?
  · rintro ⟨segment, made, rfl⟩
    exact made.next? rest

/-- No segment begins with a whole shorter one: a cut segment is unfinished. -/
theorem Segment.next?_take {segment : List UInt8} {item : Item}
    (made : Segment maxPacket segment item) {count : Nat} (cut : count < segment.length) :
    Grammar.next? maxPacket (segment.take count) = none := by
  rw [Option.eq_none_iff_forall_ne_some]
  rintro ⟨shorter, rest⟩ found
  obtain ⟨inner, within, split⟩ := segment_of_next? found
  -- the shorter segment would be split off the whole one too, and leave something of it
  have whole : segment = inner ++ (rest ++ segment.drop count) := by
    rw [← List.append_assoc, ← split, List.take_append_drop]
  have first := within.next? (rest ++ segment.drop count)
  rw [← whole, ← List.append_nil segment, made.next? []] at first
  have empty : rest ++ segment.drop count = [] := by
    injection first with pair
    injection pair with _ tail
    rw [List.append_nil] at tail
    exact tail.symm
  have left : segment.drop count = [] := (List.append_eq_nil_iff.mp empty).2
  rw [List.drop_eq_nil_iff] at left
  omega

/-! ## Streams of segments -/

/-- Concatenations of segments, with their items in order. -/
inductive Segments (maxPacket : Nat) : List UInt8 → List Item → Prop where
  | nil : Segments maxPacket [] []
  | cons {segment bytes : List UInt8} {item : Item} {items : List Item}
      (first : Segment maxPacket segment item) (others : Segments maxPacket bytes items) :
      Segments maxPacket (segment ++ bytes) (item :: items)

/-- One more segment at the end. -/
theorem Segments.concat {bytes segment : List UInt8} {items : List Item} {item : Item}
    (made : Segments maxPacket bytes items) (last : Segment maxPacket segment item) :
    Segments maxPacket (bytes ++ segment) (items ++ [item]) := by
  induction made with
  | nil => simpa using Segments.cons last .nil
  | cons first _ ih =>
    rw [List.append_assoc]
    exact .cons first ih

theorem Segments.length_eq {bytes : List UInt8} {items : List Item}
    (made : Segments maxPacket bytes items) : bytes.length = (items.map Item.size).sum := by
  induction made with
  | nil => rfl
  | cons first _ ih => rw [List.length_append, first.length_eq, ih, List.map_cons, List.sum_cons]

/-- Nothing is read from an unfinished stream. -/
theorem parse_of_unfinished {bytes : List UInt8} (unfinished : next? maxPacket bytes = none) :
    parse maxPacket bytes = ([], bytes) := by
  rw [parse]
  split
  · rfl
  · rename_i found
    rw [unfinished] at found
    cases found

theorem parse_segment_append {segment : List UInt8} {item : Item}
    (made : Segment maxPacket segment item) (rest : List UInt8) :
    parse maxPacket (segment ++ rest) =
      (item :: (parse maxPacket rest).1, (parse maxPacket rest).2) := by
  rw [parse]
  split
  · rename_i found
    rw [made.next? rest] at found
    cases found
  · rename_i found
    rw [made.next? rest] at found
    cases found
    rfl

/-- Segments in front of a stream are read first, in order. -/
theorem parse_append {bytes : List UInt8} {items : List Item}
    (made : Segments maxPacket bytes items) (rest : List UInt8) :
    parse maxPacket (bytes ++ rest) =
      (items ++ (parse maxPacket rest).1, (parse maxPacket rest).2) := by
  induction made with
  | nil => rfl
  | cons first _ ih => rw [List.append_assoc, parse_segment_append first, ih, List.cons_append]

/-- A concatenation of segments is read without a rest. -/
theorem parse_of_segments {bytes : List UInt8} {items : List Item}
    (made : Segments maxPacket bytes items) : parse maxPacket bytes = (items, []) := by
  have whole := parse_append made []
  have empty : parse maxPacket [] = ([], []) := parse_of_unfinished rfl
  rw [empty, List.append_nil, List.append_nil] at whole
  exact whole

/-- What the reader consumes is made of segments, and what it leaves is unfinished. -/
theorem segments_parse (maxPacket : Nat) (bytes : List UInt8) :
    ∃ consumed, bytes = consumed ++ (parse maxPacket bytes).2 ∧
      Segments maxPacket consumed (parse maxPacket bytes).1 ∧
      next? maxPacket (parse maxPacket bytes).2 = none := by
  cases found : next? maxPacket bytes with
  | none =>
    rw [parse_of_unfinished found]
    exact ⟨[], rfl, .nil, found⟩
  | some head =>
    obtain ⟨item, rest⟩ := head
    have shorter := length_lt_of_next? found
    obtain ⟨segment, made, rfl⟩ := segment_of_next? found
    obtain ⟨consumed, split, others, unfinished⟩ := segments_parse maxPacket rest
    rw [parse_segment_append made]
    refine ⟨segment ++ consumed, ?_, .cons made others, unfinished⟩
    rw [List.append_assoc, ← split]
termination_by bytes.length

/-- Every byte of a stream belongs to one item or to the unfinished rest. -/
theorem size_parse (maxPacket : Nat) (bytes : List UInt8) :
    ((parse maxPacket bytes).1.map Item.size).sum + (parse maxPacket bytes).2.length =
      bytes.length := by
  obtain ⟨consumed, split, made, _⟩ := segments_parse maxPacket bytes
  rw [← made.length_eq, ← List.length_append, ← split]

/-- Nothing is left of a stream exactly if it ends between two segments. -/
theorem parse_complete_iff {bytes : List UInt8} :
    (parse maxPacket bytes).2 = [] ↔ ∃ items, Segments maxPacket bytes items := by
  constructor
  · intro complete
    obtain ⟨consumed, split, made, _⟩ := segments_parse maxPacket bytes
    rw [complete, List.append_nil] at split
    rw [← split] at made
    exact ⟨_, made⟩
  · rintro ⟨items, made⟩
    rw [parse_of_segments made]

end Grammar

end HciSerial
