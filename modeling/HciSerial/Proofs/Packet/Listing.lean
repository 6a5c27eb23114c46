import HciSerial.Packet.Listing
import HciSerial.Proofs.Text.JsonObject

/-!
# Reading listings back

A listing in JSON is one object a line, and the packets that are shown in it are read back from
its text.

## Main Definitions

* `PacketSummary.values`: the entries of a summary.
* `PacketSummary.read?`: a reader of lines.
* `PacketSummary.packet?`: the packet that a summary is made of.
* `Listing.lines`, `Listing.read?`, `Listing.packets?`: a reader of listings.

## Main Results

* `PacketSummary.read?_json`: a summary is read back from its line.
* `PacketSummary.packet?_ofPacket`: a packet is got back from its summary.
* `Listing.read?_listing`, `Listing.packets?_listing`: the same for whole listings.
-/

namespace HciSerial

/-! ## Summaries -/

namespace PacketSummary

open JsonObject

/-- The entries of a summary in order. -/
def values (summary : PacketSummary) : List (String × Value) :=
  let eventCode : List (String × Value) :=
    match summary.eventCode with
    | some code => [("event_code", .number code.toNat)]
    | none => []
  ("packet_type", .text summary.kindName) :: ("tag", .number summary.tag.toNat) ::
    ("size", .number summary.size) :: (eventCode ++ [("data", .text summary.data)])

/-- The text among entries under a key. -/
def text? (key : String) (entries : List (String × Value)) : Option String :=
  match entries.lookup key with
  | some (.text content) => some content
  | _ => none

/-- The number among entries under a key. -/
def count? (key : String) (entries : List (String × Value)) : Option Nat :=
  match entries.lookup key with
  | some (.number count) => some count
  | _ => none

/-- The byte among entries under a key. -/
def byte? (key : String) (entries : List (String × Value)) : Option UInt8 :=
  match count? key entries with
  | some count => if count < 256 then some (UInt8.ofNat count) else none
  | none => none

/-- The summary that entries make up; only the event code may be missing. -/
def ofValues? (entries : List (String × Value)) : Option PacketSummary := do
  let kindName ← text? "packet_type" entries
  let tag ← byte? "tag" entries
  let size ← count? "size" entries
  let data ← text? "data" entries
  return { kindName, tag, size, eventCode := byte? "event_code" entries, data }

/-- Reads the line of a summary, which has five entries at most. -/
def read? (line : List Char) : Option PacketSummary :=
  (JsonObject.read? 5 line).bind ofValues?

/-- The packet that a summary is made of. -/
def packet? (summary : PacketSummary) : Option Packet :=
  match PacketKind.ofTag? summary.tag, Hex.parse summary.data with
  | some kind, .ok data => some ⟨kind, data⟩
  | _, _ => none

/-- The line of a summary is the object of its entries. -/
theorem json_eq_render (summary : PacketSummary) : summary.json = render summary.values := by
  obtain ⟨_, _, _, _ | _, _⟩ := summary <;> rfl

theorem byte?_of_lookup {key : String} {entries : List (String × Value)} {byte : UInt8}
    (found : entries.lookup key = some (.number byte.toNat)) : byte? key entries = some byte := by
  have small : byte.toNat < 256 := UInt8.toNat_lt byte
  rw [byte?, count?, found]
  simp only [if_pos small, UInt8.ofNat_toNat]

/-- A summary is made up by its entries. -/
theorem ofValues?_values (summary : PacketSummary) :
    ofValues? summary.values = some summary := by
  obtain ⟨kindName, tag, size, eventCode, data⟩ := summary
  have tagged : byte? "tag" (values ⟨kindName, tag, size, eventCode, data⟩) = some tag :=
    byte?_of_lookup rfl
  have coded : byte? "event_code" (values ⟨kindName, tag, size, eventCode, data⟩) = eventCode := by
    cases eventCode with
    | none => rfl
    | some code => exact byte?_of_lookup rfl
  have last : text? "data" (values ⟨kindName, tag, size, eventCode, data⟩) = some data := by
    cases eventCode <;> rfl
  rw [ofValues?, tagged, coded, last]
  rfl

/-- A summary is read back from its line. -/
theorem read?_json (summary : PacketSummary) : read? summary.json.toList = some summary := by
  have nonempty : summary.values ≠ [] := by simp [values]
  have few : summary.values.length ≤ 5 := by
    obtain ⟨_, _, _, _ | _, _⟩ := summary <;> simp [values]
  rw [read?, json_eq_render, JsonObject.read?_render nonempty few, Option.bind_some,
    ofValues?_values]

theorem newline_notMem_json (summary : PacketSummary) : '\n' ∉ summary.json.toList := by
  rw [json_eq_render]
  exact newline_notMem_render summary.values

/-- A packet is got back from its summary. -/
theorem packet?_ofPacket (packet : Packet) : (ofPacket packet).packet? = some packet := by
  have kind : PacketKind.ofTag? (ofPacket packet).tag = some packet.kind :=
    PacketKind.ofTag?_tag packet.kind
  have data : Hex.parse (ofPacket packet).data = .ok packet.data := Hex.parse_render packet.data
  rw [packet?, kind, data]

/-- An event code is shown exactly if the packet is an event that has a byte, and is that byte. -/
theorem eventCode_eq_some_iff {packet : Packet} {code : UInt8} :
    (ofPacket packet).eventCode = some code ↔
      packet.kind = .event ∧ ∃ rest, packet.data = code :: rest := by
  rw [ofPacket, Option.ite_none_right_eq_some]
  refine and_congr_right fun _ => ?_
  cases packet.data with
  | nil => simp
  | cons first rest => simp

end PacketSummary

/-! ## Listings -/

namespace Listing

/-- The lines of a text, each of which ends with a newline. -/
def lines (text : String) : List (List Char) :=
  (text.toList.splitOn '\n').dropLast

/-- Reads a listing: the summaries, line by line. -/
def read? (text : String) : Option (List PacketSummary) :=
  (lines text).mapM PacketSummary.read?

/-- The packets that are shown in a listing. -/
def packets? (text : String) : Option (List Packet) :=
  (read? text).bind (·.mapM PacketSummary.packet?)

/-- A listing has one line for each packet, in order. -/
theorem lines_listing (packets : List Packet) :
    lines (listing .json packets) =
      packets.map fun packet => (PacketSummary.ofPacket packet).json.toList := by
  induction packets with
  | nil => rfl
  | cons packet rest ih =>
    have whole : (listing .json (packet :: rest)).toList =
        (PacketSummary.ofPacket packet).json.toList ++ '\n' :: (listing .json rest).toList := by
      simp [listing]
    unfold lines at ih ⊢
    rw [whole, List.splitOn_append_cons_self_of_not_mem
      (PacketSummary.newline_notMem_json (.ofPacket packet)),
      List.dropLast_cons_of_ne_nil (List.splitOn_ne_nil _ _), ih, List.map_cons]

/-- A listing is read back as the summaries of its packets. -/
theorem read?_listing (packets : List Packet) :
    read? (listing .json packets) = some (packets.map PacketSummary.ofPacket) := by
  rw [read?, lines_listing, List.mapM_map]
  have each : (PacketSummary.read? ∘ fun packet => (PacketSummary.ofPacket packet).json.toList) =
      fun packet => pure (PacketSummary.ofPacket packet) :=
    funext fun packet => PacketSummary.read?_json (.ofPacket packet)
  rw [each, List.mapM_pure]
  rfl

/-- The packets are got back from their listing. -/
theorem packets?_listing (packets : List Packet) :
    packets? (listing .json packets) = some packets := by
  rw [packets?, read?_listing, Option.bind_some, List.mapM_map]
  have each : PacketSummary.packet? ∘ PacketSummary.ofPacket = pure :=
    funext PacketSummary.packet?_ofPacket
  rw [each, List.mapM_pure, List.map_id']
  rfl

end Listing

end HciSerial
