import HciSerial.Packet.Basic

/-!
# Shared packet queues

A packet queue is used through handles.  A copied handle shares its queue with the
one it was copied from, so one of them can be given to a transport while the other
is emptied by a consumer.

## Main Definitions

* `SharedQueues`: queues, and the queue that each handle stands for.
* `SharedQueues.copy`, `fresh`, `push`, `pop`, `drain`: the operations.

## Design Notes

Handles and queues are numbered in the order in which they were made.  A handle that
does not exist has an empty queue, and operations on it change nothing.
-/

namespace HciSerial

/-- Queues and the handles that stand for them. -/
structure SharedQueues where
  /-- The contents of each queue, oldest packet first. -/
  queues : List (List Packet)
  /-- The queue of each handle. -/
  handles : List Nat
deriving DecidableEq

namespace SharedQueues

/-- One handle of one empty queue. -/
def single : SharedQueues := ⟨[[]], [0]⟩

/-- The queue that a handle stands for. -/
def queueOf? (shared : SharedQueues) (handle : Nat) : Option Nat :=
  shared.handles[handle]?

/-- The packets that a handle sees. -/
def contents (shared : SharedQueues) (handle : Nat) : List Packet :=
  match shared.queueOf? handle with
  | some queue => shared.queues.getD queue []
  | none => []

/-- Replaces the packets that a handle sees. -/
def store (shared : SharedQueues) (handle : Nat) (packets : List Packet) : SharedQueues :=
  match shared.queueOf? handle with
  | some queue => { shared with queues := shared.queues.set queue packets }
  | none => shared

/-- A new handle that shares its queue with an old one. -/
def copy (shared : SharedQueues) (handle : Nat) : SharedQueues :=
  match shared.queueOf? handle with
  | some queue => { shared with handles := shared.handles ++ [queue] }
  | none => shared

/-- A new handle of a new queue. -/
def fresh (shared : SharedQueues) : SharedQueues where
  queues := shared.queues ++ [[]]
  handles := shared.handles ++ [shared.queues.length]

/-- Queues a packet. -/
def push (shared : SharedQueues) (handle : Nat) (packet : Packet) : SharedQueues :=
  shared.store handle (shared.contents handle ++ [packet])

/-- Takes the oldest packet. -/
def pop (shared : SharedQueues) (handle : Nat) : Option Packet × SharedQueues :=
  match shared.contents handle with
  | [] => (none, shared)
  | packet :: rest => (some packet, shared.store handle rest)

/-- Takes every packet. -/
def drain (shared : SharedQueues) (handle : Nat) : List Packet × SharedQueues :=
  (shared.contents handle, shared.store handle [])

/-- The number of packets that a handle sees. -/
def length (shared : SharedQueues) (handle : Nat) : Nat :=
  (shared.contents handle).length

/-- Whether a handle sees no packet. -/
def isEmpty (shared : SharedQueues) (handle : Nat) : Bool :=
  (shared.contents handle).isEmpty

end SharedQueues

end HciSerial
