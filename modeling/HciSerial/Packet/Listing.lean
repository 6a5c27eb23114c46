import HciSerial.Packet.Basic
import HciSerial.Text.Hex
import HciSerial.Text.JsonString
import HciSerial.Text.Table

/-!
# Packet listings

How packets are shown to a user: as JSON lines, as a table, or as plain lines.

## Main Definitions

* `PacketSummary`: the entries of a JSON line.
* `Packet.detail`: what a packet is about, in a few characters.
* `ListingFormat`, `listing`: the text of a list of packets.
-/

namespace HciSerial

/-- The entries of a packet's JSON line. -/
structure PacketSummary where
  kindName : String
  tag : UInt8
  /-- The number of header and payload bytes. -/
  size : Nat
  /-- The first byte of an event that has one. -/
  eventCode : Option UInt8
  /-- Header and payload as hexadecimal digits. -/
  data : String
deriving DecidableEq

namespace PacketSummary

/-- The summary of a packet. -/
def ofPacket (packet : Packet) : PacketSummary where
  kindName := packet.kind.name
  tag := packet.kind.tag
  size := packet.data.length
  eventCode := if packet.kind = .event then packet.data.head? else none
  data := Hex.render packet.data

/-- The entries in order, with their values as JSON text. -/
def entries (summary : PacketSummary) : List (String × String) :=
  [("packet_type", JsonString.render summary.kindName), ("tag", toString summary.tag.toNat),
    ("size", toString summary.size)] ++
  (match summary.eventCode with
    | some code => [("event_code", toString code.toNat)]
    | none => []) ++
  [("data", JsonString.render summary.data)]

/-- The summary as one JSON object. -/
def json (summary : PacketSummary) : String :=
  "\x7b" ++
    String.intercalate "," (summary.entries.map fun entry =>
      JsonString.render entry.1 ++ ":" ++ entry.2) ++
    "\x7d"

end PacketSummary

namespace Packet

/-- What a packet is about: the code of an event, else the declared payload length. -/
def detail (packet : Packet) : String :=
  match packet.kind, packet.data with
  | .event, code :: _ =>
    if code = sentCode then "transport-packet-sent" else "event=0x" ++ Hex.render [code]
  | _, _ =>
    match packet.declaredLength? with
    | some length => s!"payload={length}"
    | none => ""

/-- A packet as a plain line. -/
def plainLine (packet : Packet) : String :=
  "type=" ++ packet.kind.name ++ " size=" ++ toString packet.data.length ++ " " ++
    packet.detail ++ " data=" ++ Hex.render packet.data

/-- A packet as a row of a table. -/
def row (packet : Packet) : List String :=
  [packet.kind.name, toString packet.data.length, packet.detail, Hex.render packet.data]

end Packet

/-- How packets are shown. -/
inductive ListingFormat where
  | json
  | table
  | pretty
deriving DecidableEq

namespace ListingFormat

/-- The formats by the names they have on the command line. -/
def names : List (String × ListingFormat) :=
  [("json", json), ("table", table), ("pretty", pretty)]

end ListingFormat

/-- The text of a list of packets; an empty list has none. -/
def listing (format : ListingFormat) (packets : List Packet) : String :=
  match format with
  | .json => String.join (packets.map fun packet => (PacketSummary.ofPacket packet).json ++ "\n")
  | .pretty => String.join (packets.map fun packet => packet.plainLine ++ "\n")
  | .table =>
    if packets.isEmpty then ""
    else Table.render ["TYPE", "SIZE", "DETAIL", "DATA"] (packets.map Packet.row) ++ "\n"

end HciSerial
