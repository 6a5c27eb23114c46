import HciSerial.Command.Send
import HciSerial.Proofs.Command.Session

/-!
# What a sender takes from the packets that it is given

A sender goes through the packets that are delivered one by one.  It takes at most one of them
for the response, and prints it.

## Main Definitions

* `Waiter.acceptEach`: the responses among packets, and what is still awaited after them.
* `Waiter.response?`: the packet that answers what is awaited.

## Main Results

* `Waiter.acceptEach_eq`: the response is the first packet that is no notice of a sent packet.
* `Waiter.acceptEach_depends_on`: what is awaited depends on what has come, and not on its order.
* `Send.acceptAll_prints`: exactly the responses are printed.
-/

namespace HciSerial

/-! ## Responses -/

namespace Waiter

/-- The responses among packets that are accepted one by one, and what is still awaited. -/
def acceptEach (waiter : Waiter) : List Packet → List Packet × Waiter
  | [] => ([], waiter)
  | packet :: rest =>
    let (response, _, next) := waiter.accept packet
    let (responses, final) := next.acceptEach rest
    (response.toList ++ responses, final)

/-- The packet that answers what is awaited: the first one that is no notice of a sent packet,
if a response is still awaited. -/
def response? (waiter : Waiter) (packets : List Packet) : Option Packet :=
  if waiter.waits && !waiter.responded then packets.find? (!·.isSentNotice) else none

/-- Nothing but the first packet that is no notice is taken for the response, and nothing but
a notice for the end of the sending. -/
theorem acceptEach_eq (waiter : Waiter) (packets : List Packet) :
    waiter.acceptEach packets = ((waiter.response? packets).toList, { waiter with
      sent := waiter.sent || packets.any (·.isSentNotice)
      responded := waiter.responded || (waiter.response? packets).isSome }) := by
  induction packets generalizing waiter with
  | nil => simp [acceptEach, response?]
  | cons packet rest ih =>
    rw [acceptEach, accept]
    -- a notice, the response, or a packet that nobody waits for
    cases notice : packet.isSentNotice with
    | true => simp [ih, response?, notice]
    | false =>
      cases awaited : waiter.waits && !waiter.responded with
      | true => simp [ih, response?, notice, awaited]
      | false => simp [ih, response?, notice, awaited]

/-! ## What they depend on -/

variable {packets front back : List Packet} {first second : Packet} {waits : Bool}

theorem isSentNotice_iff {packet : Packet} :
    packet.isSentNotice = true ↔ packet.kind = .event ∧ packet.data.head? = some 0x6E := by
  simp [Packet.isSentNotice, Packet.sentCode]

theorem acceptEach_sent_iff :
    (acceptEach { waits } packets).2.sent = true ↔ ∃ packet ∈ packets, packet.isSentNotice := by
  simp [acceptEach_eq]

/-- A sender awaits nothing any more once a notice has come and, if it waits for a response,
a packet that is none. -/
theorem acceptEach_isDone_iff :
    (acceptEach { waits } packets).2.isDone = true ↔
      (∃ packet ∈ packets, packet.isSentNotice) ∧
        (waits = false ∨ ∃ packet ∈ packets, packet.isSentNotice = false) := by
  cases waits <;> simp [acceptEach_eq, isDone, response?]

/-- What has come stays, so a sender that awaits nothing never awaits anything again. -/
theorem acceptEach_isDone_of_prefix (front_le : front <+: packets)
    (done : (acceptEach { waits } front).2.isDone = true) :
    (acceptEach { waits } packets).2.isDone = true := by
  rw [acceptEach_isDone_iff] at done ⊢
  obtain ⟨⟨notice, member, isNotice⟩, answered⟩ := done
  refine ⟨⟨notice, front_le.subset member, isNotice⟩, answered.imp_right ?_⟩
  rintro ⟨response, member, isNone⟩
  exact ⟨response, front_le.subset member, isNone⟩

/-- A notice and another packet next to it can come in either order. -/
theorem acceptEach_swap (apart : first.isSentNotice ≠ second.isSentNotice) :
    acceptEach { waits } (front ++ second :: first :: back) =
      acceptEach { waits } (front ++ first :: second :: back) := by
  have answer : response? { waits } (front ++ second :: first :: back) =
      response? { waits } (front ++ first :: second :: back) := by
    unfold response?
    rw [List.find?_append, List.find?_append]
    cases isFirst : first.isSentNotice <;> cases isSecond : second.isSentNotice <;>
      simp_all
  have same : (front ++ second :: first :: back).any (·.isSentNotice) =
      (front ++ first :: second :: back).any (·.isSentNotice) := by
    simp only [List.any_append, List.any_cons, Bool.or_left_comm]
  rw [acceptEach_eq, acceptEach_eq, answer, same]

/-- What a sender makes of any packets that are given to it.

A notice is an event whose first byte is `0x6E`.  Asked to wait, a sender takes the first packet
that is no notice for the response, and otherwise none.  After any beginning of the packets it
counts its own packet as sent exactly if a notice is among them, and awaits nothing exactly if
then it was not asked to wait or another packet is among them too.  Once it awaits nothing, no
further packet changes that.  A notice and another packet next to it can come in either
order. -/
theorem acceptEach_depends_on (waits : Bool) (packets : List Packet) :
    let given := acceptEach { waits }
    (∀ packet : Packet, packet.isSentNotice = true ↔
        packet.kind = .event ∧ packet.data.head? = some 0x6E) ∧
      (given packets).1 =
        (if waits then packets.find? (·.isSentNotice = false) else none).toList ∧
      (∀ front, front <+: packets →
        ((given front).2.sent = true ↔ ∃ packet ∈ front, packet.isSentNotice = true) ∧
        ((given front).2.isDone = true ↔ (given front).2.sent = true ∧
          (waits = false ∨ ∃ packet ∈ front, packet.isSentNotice = false)) ∧
        ((given front).2.isDone = true →
          ∀ longer, front <+: longer → (given longer).2.isDone = true)) ∧
      ∀ front first second back, packets = front ++ first :: second :: back →
        first.isSentNotice ≠ second.isSentNotice →
          (given (front ++ second :: first :: back)).1 = (given packets).1 ∧
          (given (front ++ second :: first :: back)).2.isDone = (given packets).2.isDone := by
  intro given
  refine ⟨fun _ => isSentNotice_iff, ?response, ?front, ?swap⟩
  case response =>
    show (acceptEach { waits } packets).1 = _
    rw [acceptEach_eq]
    cases waits <;> simp [response?]
  case front =>
    intro front _
    refine ⟨acceptEach_sent_iff, ?_, fun done longer front_le =>
      acceptEach_isDone_of_prefix front_le done⟩
    rw [acceptEach_sent_iff, acceptEach_isDone_iff]
  case swap =>
    rintro front first second back rfl apart
    have same : acceptEach { waits } (front ++ second :: first :: back) =
        acceptEach { waits } (front ++ first :: second :: back) := acceptEach_swap apart
    exact ⟨congrArg (·.1) same, congrArg (·.2.isDone) same⟩

/-- Data that begins with the code of the notice is a response, before the notice as after it. -/
theorem acceptEach_response_first :
    let notice : Packet := ⟨.event, [0x6E, 0x00]⟩
    let response : Packet := ⟨.acl, [0x6E, 0x00, 0x00, 0x00]⟩
    let given := acceptEach { waits := true }
    notice.isSentNotice ≠ response.isSentNotice ∧
      [notice, response] <+: [notice, response, ⟨.event, []⟩] ∧
      (given [response, notice, ⟨.event, []⟩]).1 = [response] ∧
      (given [response, notice, ⟨.event, []⟩]).2.isDone = true := by
  intro notice response given
  have apart : notice.isSentNotice ≠ response.isSentNotice := by decide
  have begins : [notice, response] <+: [notice, response, ⟨.event, []⟩] := ⟨[⟨.event, []⟩], rfl⟩
  obtain ⟨-, taken, fronts, swaps⟩ :=
    acceptEach_depends_on true [notice, response, ⟨.event, []⟩]
  obtain ⟨sent, done, stays⟩ := fronts [notice, response] begins
  have enough : (given [notice, response]).2.isDone = true :=
    done.mpr ⟨sent.mpr ⟨notice, List.mem_cons_self, rfl⟩,
      .inr ⟨response, List.mem_cons_of_mem _ List.mem_cons_self, rfl⟩⟩
  obtain ⟨sameResponse, sameEnd⟩ := swaps [] notice response [⟨.event, []⟩] rfl apart
  exact ⟨apart, begins, sameResponse.trans taken, sameEnd.trans (stays enough _ begins)⟩

end Waiter

/-! ## Printing them -/

namespace Send

variable {W : Type} [Host W]

theorem acceptAll_cons (format : ListingFormat) (packet : Packet) (rest : List Packet)
    (waiter : Waiter) (session : Session W) :
    acceptAll format (packet :: rest) waiter session =
      let (response, records, next) := waiter.accept packet
      let session := records.foldl Session.report session
      acceptAll format rest next (match response with
        | some packet => session.print (listing format [packet])
        | none => session) := rfl

/-- Accepting packets prints exactly the responses among them. -/
theorem acceptAll_prints (format : ListingFormat) (packets : List Packet) (waiter : Waiter)
    (session : Session (Tapped (Watched W))) :
    let (responses, next) := waiter.acceptEach packets
    (acceptAll format packets waiter session).1 = next ∧
      Session.Prints (responses.map fun packet => listing format [packet]) session
        (acceptAll format packets waiter session).2 := by
  induction packets generalizing waiter session with
  | nil => exact ⟨rfl, .nothing session session.world.system.world⟩
  | cons packet rest ih =>
    rw [acceptAll_cons, Waiter.acceptEach]
    generalize waiter.accept packet = accepted
    obtain ⟨response, records, next⟩ := accepted
    have logged := Session.prints_reports records session
    cases response with
    | none =>
      obtain ⟨awaited, prints⟩ := ih next (records.foldl Session.report session)
      exact ⟨awaited, logged.trans prints⟩
    | some packet =>
      obtain ⟨awaited, prints⟩ :=
        ih next ((records.foldl Session.report session).print (listing format [packet]))
      exact ⟨awaited, logged.trans ((Session.prints_print _ _).trans prints)⟩

end Send

end HciSerial
