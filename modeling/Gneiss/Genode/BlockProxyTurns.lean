import Gneiss.Genode.BlockFlights
import Gneiss.Genode.BlockProxyEntries

/-!
A turn of an entry of the block proxy keeps what `Faithful` says. The entry is completed by the
answer to its packet and then acknowledged, or it is sent on with the next number.
-/

namespace Gneiss.Genode.BlockProxy

open Block

/-! The callbacks find what they check, so they always copy. -/

def Serving (world : ProxyWorld) : Prop :=
  world.session.initialized = true ∧ world.ready = some true ∧
    world.server.server.initialized = true

theorem Faithful.asked {world : ProxyWorld} (faithful : Faithful world) {index : RequestIndex}
    {serial : Nat} {entry : Sent} (follows : Follows world index serial entry) :
    Carries (world.client.requests index).packet (world.server.requests index).request := by
  have carries := faithful.carries entry (List.mem_of_getElem? follows.sent)
  have same := follows.request
  rw [follows.packet] at carries
  obtain ⟨data, opcode, start, length, some_⟩ := carries
  simp only [bare, StreamRequest.mk.injEq] at same
  obtain ⟨kind, number, count, _⟩ := same
  rw [kind] at data opcode
  rw [number] at start
  rw [count] at length some_
  exact ⟨data, opcode, start, length, some_⟩

theorem Faithful.copies {world : ProxyWorld} (faithful : Faithful world) (serving : Serving world)
    (index : RequestIndex) (kind : RequestKind) (length : Int)
    (pending : (world.server.requests index).status = .pending)
    (asked : serverKind (world.server.requests index).request.kind = kind)
    (sized : crwLength unsignedLong world.session.blockSize
      (world.server.requests index).request.blockCount = some length) :
    world.copies index kind length = true := by
  obtain ⟨_, ready, initialized⟩ := serving
  have assigned : world.server.server.assigned (world.server.requests index) = true := by
    simp [ServerSession.assigned, faithful.tag initialized, faithful.tags index pending]
  simp only [ProxyWorld.copies, pending, asked, ready, initialized, assigned, sized]
  rfl

theorem opcode_read (kind : RequestKind) (reads : opcode kind = 0) : kind = .read := by
  cases kind <;> simp_all [opcode]

theorem opcode_write (kind : RequestKind) (writes : opcode kind = 1) : kind = .write := by
  cases kind <;> simp_all [opcode]

/-- Of what `Faithful` is about, only the list of answers to reads grows. -/
theorem Faithful.withReturned {world : ProxyWorld} (faithful : Faithful world)
    (after : ProxyWorld) (server : after.server.requests = world.server.requests)
    (session : after.server.server = world.server.server) (client : after.client = world.client)
    (taken : after.taken = world.taken) (sent : after.sent = world.sent)
    (answers : after.answers = world.answers) (relayed : after.relayed = world.relayed)
    (more : world.returned ⊆ after.returned)
    (returned : ∀ entry ∈ after.returned, entry.whole) : Faithful after := by
  have pair : after.pair = world.pair := by
    unfold ProxyWorld.pair
    rw [server, client]
  have answered : world.answers ⊆ after.answers := by
    rw [answers]
    exact List.Subset.refl _
  have grown : ∃ more, after.sent = world.sent ++ more := ⟨[], by rw [sent, List.append_nil]⟩
  constructor
  · exact faithful.underway.congr client sent answers
  · exact fun other => (faithful.state other).mono (by rw [server]) (by rw [client]) grown answered
  · rw [sent]
    exact faithful.carries
  · rw [relayed]
    exact fun entry member => (faithful.truthful entry member).mono grown answered more
  · rw [taken, relayed, ProxyWorld.held, pair]
    exact faithful.taken
  · rw [sent, relayed, ProxyWorld.heldSent, pair]
    exact faithful.sent
  · rw [sent]
    exact faithful.written
  · exact returned
  · rw [session]
    exact faithful.tag
  · rw [server]
    exact faithful.tags

theorem Faithful.halt {world : ProxyWorld} (faithful : Faithful world) :
    Faithful { world with halted := true } :=
  faithful.withReturned _ rfl rfl rfl rfl rfl rfl rfl (List.Subset.refl _) faithful.returned

/-- What a turn leaves alone: the two sessions and the data of the device. -/
structure Steady (world after : ProxyWorld) : Prop where
  device : after.session.device = world.session.device
  size : after.session.blockSize = world.session.blockSize
  tag : after.session.tag = world.session.tag
  count : after.blockCount = world.blockCount
  server : after.server.server = world.server.server

theorem Serving.steady {world after : ProxyWorld} (serving : Serving world)
    (steady : Steady world after) : Serving after := by
  obtain ⟨initialized, ready, served⟩ := serving
  have same : after.session.initialized = world.session.initialized := by
    rw [ClientSession.initialized, ClientSession.initialized, steady.device, steady.tag]
  refine ⟨same.trans initialized, ?_, ?_⟩
  · rw [← ready]
    simp only [ProxyWorld.ready, same, steady.size, steady.count]
  · rw [steady.server]
    exact served

theorem readPacket_keeps (world : ProxyWorld) (index : RequestIndex) (input : TurnInput) :
    (world.readPacket index input).client = world.client ∧
      (world.readPacket index input).server.requests = world.server.requests ∧
      Steady world (world.readPacket index input) := by
  cases found : crwLength unsignedLong world.session.blockSize
      (world.client.requests index).packet.blockCount with
  | none =>
      simp only [ProxyWorld.readPacket, found]
      exact ⟨trivial, trivial, rfl, rfl, rfl, rfl, rfl⟩
  | some length =>
      simp only [ProxyWorld.readPacket, found]
      split <;> exact ⟨rfl, rfl, rfl, rfl, rfl, rfl, rfl⟩

/-- The data of the packet are handed to `Read`, unless the length of them raises an exception. -/
theorem Faithful.readPacket {world : ProxyWorld} (faithful : Faithful world)
    (serving : Serving world) (index : RequestIndex) (input : TurnInput)
    (pending : (world.server.requests index).status = .pending)
    (used : (world.client.requests index).status ≠ .raw)
    (reads : (world.client.requests index).packet.opcode = 0) :
    Faithful (world.readPacket index input) ∧
      ((world.readPacket index input).halted = true ∨
        Delivered (world.readPacket index input) index) := by
  obtain ⟨serial, entry, follows⟩ := (faithful.state index).follows pending used
  have asked := faithful.asked follows
  have kind : serverKind (world.server.requests index).request.kind = .read :=
    opcode_read _ (asked.opcode.symm.trans reads)
  cases found : crwLength unsignedLong world.session.blockSize
      (world.client.requests index).packet.blockCount with
  | none =>
      have result : world.readPacket index input = { world with halted := true } := by
        simp only [ProxyWorld.readPacket, found]
      rw [result]
      exact ⟨faithful.halt, Or.inl rfl⟩
  | some length =>
      have copied := faithful.copies serving index .read length pending kind
        (by rw [← asked.length, found])
      let data := packetData input.packet length
      let copy : Returned := ⟨(world.server.requests index).request,
        (world.client.requests index).ticket.map (·.serial), (world.client.requests index).packet,
        data, input.window, input.window.map (copyBytes data length.toNat)⟩
      have result : world.readPacket index input =
          { world with
            server := world.server.apply index
            returned := world.returned ++ [copy] } := by
        simp only [ProxyWorld.readPacket, found, copied, if_true, copy, data]
      have last : copy ∈ world.returned ++ [copy] :=
        List.mem_append_right _ (List.mem_singleton_self _)
      rw [result]
      constructor
      · refine faithful.withReturned _ rfl rfl rfl rfl rfl rfl rfl (List.subset_append_left _ _) ?_
        intro entry member
        rcases List.mem_append.mp member with old | new
        · exact faithful.returned entry old
        · rw [List.mem_singleton.mp new]
          intro before given same
          have whole := copyBytes_whole data before same
          rw [show data.length = length.toNat from packetData_length _ _] at whole
          simp only [copy] at given ⊢
          rw [given, Option.map_some, whole]
      · refine Or.inr fun _ _ serial entry follows => ⟨copy, last, ?_, ?_, rfl⟩
        · exact follows.ticket
        · exact follows.packet.symm

/-! `Update_Request` takes the answer to the packet of the entry out of what is under way. -/

theorem settled_nil (request : ClientRequest Unit) : settled request [] = request := rfl

theorem settled_last (request : ClientRequest Unit) {removed : List (Acknowledged Unit)}
    {last : Acknowledged Unit} (found : removed.getLast? = some last) :
    settled request removed = { request with status := if last.success then .ok else .error } := by
  rw [settled, found]

theorem Underway.updated {world after : ProxyWorld} (underway : Underway world)
    {index : RequestIndex} {removed : List (Acknowledged Unit)}
    (updated : Collected world.client after.client index removed)
    (sent : after.sent = world.sent) (answers : after.answers = world.answers)
    (tag : (world.client.requests index).packet.tag = index.val) : Underway after := by
  obtain ⟨owned, distinct, submitted, answered, once, numbered, enqueued⟩ := underway
  have left_ : after.session.submitted = world.session.submitted := updated.submitted
  have flying : world.flying.Perm
      (after.flying ++ removed.map fun ack => (ack.tag, ack.ticket.serial)) := updated.flying
  have distinct' := (flying.map Prod.fst).nodup_iff.mp distinct
  rw [List.map_append, List.nodup_append] at distinct'
  obtain ⟨apart, _, disjoint⟩ := distinct'
  have before : ∀ item ∈ after.flying, item ∈ world.flying := fun item member =>
    flying.mem_iff.mpr (List.mem_append_left _ member)
  constructor
  · intro item member
    obtain ⟨other, sameTag, pending, ticket⟩ := owned item (before item member)
    refine ⟨other, sameTag, ?_⟩
    rw [updated.requests]
    by_cases here : other = index
    · have nothing : removed = [] := by
        rw [List.eq_nil_iff_forall_not_mem]
        intro ack taken
        refine disjoint item.1 (List.mem_map_of_mem member) ack.tag ?_ ?_
        · exact List.mem_map_of_mem (List.mem_map_of_mem taken)
        · rw [sameTag, here, updated.own ack taken, tag]
      rw [here] at pending ticket
      rw [here, Function.update_self, nothing, settled_nil]
      exact ⟨pending, ticket⟩
    · rw [Function.update_of_ne here]
      exact ⟨pending, ticket⟩
  · exact apart
  · rw [left_, sent]
    exact submitted
  · intro ack member
    rw [sent, answers]
    exact answered ack (updated.conserved.mem_iff.mpr (List.mem_append_left _ member))
  · rw [left_, answers]
    exact once
  · rw [sent, answers]
    exact numbered
  · rw [updated.enqueued, sent]
    exact enqueued

theorem settled_ticket (request : ClientRequest Unit) (removed : List (Acknowledged Unit)) :
    (settled request removed).ticket = request.ticket := by
  unfold settled
  split <;> rfl

/-- What the entry is completed with is the answer to its own packet. -/
theorem Follows.updated {world after : ProxyWorld} (underway : Underway world)
    {index : RequestIndex} {serial : Nat} {entry : Sent}
    (follows : Follows world index serial entry)
    {removed : List (Acknowledged Unit)}
    (updated : Collected world.client after.client index removed)
    (pending : (world.client.requests index).status = .pending)
    (server : after.server.requests = world.server.requests)
    (sent : after.sent = world.sent) (answers : after.answers = world.answers) :
    Follows after index serial entry ∧
      ((after.client.requests index).status = .pending ∨
        (after.client.requests index).status = .ok ∨
        (after.client.requests index).status = .error) := by
  have request : after.client.requests index =
      settled (world.client.requests index) removed := by
    rw [updated.requests, Function.update_self]
  have ticket : (after.client.requests index).ticket.map (·.serial) = some serial := by
    rw [request, settled_ticket]
    exact follows.ticket
  have packet : entry.packet = (after.client.requests index).packet := by
    rw [request, settled_tag]
    exact follows.packet
  cases found : removed.getLast? with
  | none =>
      have nothing := List.getLast?_eq_none_iff.mp found
      have same : (after.client.requests index).status = .pending := by
        rw [request, nothing, settled_nil]
        exact pending
      refine ⟨⟨ticket, ?_, packet, ?_, follows.tag, fun changed => (changed same).elim⟩,
        Or.inl same⟩
      · rw [sent]
        exact follows.sent
      · rw [server]
        exact follows.request
  | some last =>
      have taken : last ∈ removed := List.mem_of_getLast? found
      have status : (after.client.requests index).status =
          if last.success then .ok else .error := by
        rw [request, settled_last _ found]
      have held : last ∈ entries world.client.cache ++ world.session.acked :=
        updated.conserved.mem_iff.mpr (List.mem_append_right _ taken)
      have flown : (last.tag, last.ticket.serial) ∈ world.flying :=
        List.mem_append_right _ (List.mem_map_of_mem held)
      obtain ⟨other, sameTag, _, owner⟩ := underway.owned _ flown
      have here : other = index := by
        apply Fin.ext
        rw [← sameTag, updated.own last taken, ← follows.packet]
        exact follows.tag
      have serials : last.ticket.serial = serial := by
        rw [here, follows.ticket, Option.some.injEq] at owner
        exact owner.symm
      obtain ⟨other', there, answered⟩ := underway.answered last held
      rw [serials] at there answered
      obtain rfl : other' = entry := by
        exact Option.some.inj (there.symm.trans follows.sent)
      refine ⟨⟨ticket, ?_, packet, ?_, follows.tag, fun _ => ?_⟩, ?_⟩
      · rw [sent]
        exact follows.sent
      · rw [server]
        exact follows.request
      · rw [answers, status]
        cases success : last.success with
        | true => simpa [success] using answered
        | false => simpa [success] using answered
      · right
        rw [status]
        cases last.success with
        | true => exact Or.inl rfl
        | false => exact Or.inr rfl

theorem Faithful.update {world : ProxyWorld} (faithful : Faithful world) (index : RequestIndex)
    (pending : (world.server.requests index).status = .pending) :
    Faithful (world.update index) := by
  simp only [ProxyWorld.update]
  split
  · rename_i allowed
    obtain ⟨sentOn, _⟩ := allowed
    obtain ⟨serial, entry, follows⟩ := (faithful.state index).follows pending (by simp [sentOn])
    obtain ⟨removed, updated, _⟩ := updateRequest_collected world.client index
    let after : ProxyWorld := { world with client := world.client.updateRequest () index }
    have followed : Follows after index serial entry ∧
        ((after.client.requests index).status = .pending ∨
          (after.client.requests index).status = .ok ∨
          (after.client.requests index).status = .error) :=
      follows.updated faithful.underway updated sentOn rfl rfl rfl
    obtain ⟨now, status⟩ := followed
    have server : after.server.requests =
        Function.update world.server.requests index (world.server.requests index) :=
      (Function.update_eq_self _ _).symm
    have held := held_of_same takenItem world after index server updated.requests rfl
    have used : (after.client.requests index).status ≠ .raw := by
      rcases status with status | status | status <;> simp [status]
    have heldSent := held_of_same sentItem world after index server updated.requests (by
      have both : (world.pair index).1.status = .pending ∧ (world.pair index).2.status ≠ .raw :=
        ⟨pending, by simp [ProxyWorld.pair, sentOn]⟩
      have after_ : (settled (world.client.requests index) removed).status ≠ .raw := by
        have request : after.client.requests index =
            settled (world.client.requests index) removed := by
          rw [updated.requests, Function.update_self]
        rw [← request]
        exact used
      rw [sentItem, sentItem, if_pos both, if_pos ⟨pending, after_⟩, settled_ticket]
      rfl)
    change Faithful after
    refine { faithful with
      underway := faithful.underway.updated updated rfl rfl ?_
      state := fun other => ?_
      taken := ?_
      sent := ?_ }
    · rw [← follows.packet]
      exact follows.tag
    · by_cases here : other = index
      · rw [here]
        exact .sent pending status serial entry now
      · refine (faithful.state other).mono rfl ?_ ⟨[], (List.append_nil _).symm⟩
          (List.Subset.refl _)
        rw [updated.requests, Function.update_of_ne here]
    · rw [ProxyWorld.held, held]
      exact faithful.taken
    · rw [ProxyWorld.heldSent, heldSent]
      exact faithful.sent
  · exact faithful

theorem Faithful.acknowledge {world : ProxyWorld} (faithful : Faithful world)
    (index : RequestIndex) (submitted : Bool)
    (pending : (world.server.requests index).status = .pending)
    (done_ : (world.client.requests index).status = .ok ∨
      (world.client.requests index).status = .error) (delivered : Delivered world index) :
    Faithful (world.acknowledge index (world.client.requests index).status submitted) := by
  cases submitted with
  | true => exact faithful.acknowledged index pending done_ delivered
  | false => exact faithful.notAcknowledged index pending _

theorem Faithful.complete {world : ProxyWorld} (faithful : Faithful world)
    (serving : Serving world) (index : RequestIndex) (input : TurnInput)
    (pending : (world.server.requests index).status = .pending) :
    Faithful (world.complete index input) := by
  simp only [ProxyWorld.complete]
  split
  · rename_i allowed
    obtain ⟨done_, _⟩ := allowed
    have answered (after : ProxyWorld) (still : Faithful after)
        (client : after.client = world.client)
        (server : after.server.requests = world.server.requests)
        (delivered : after.halted = true ∨ Delivered after index) :
        Faithful (if after.halted = true then after
          else if after.server.server.assigned (after.server.requests index) = true then
            after.acknowledge index (world.client.requests index).status input.submitted
          else after) := by
      split
      · exact still
      · rename_i running
        split
        · rw [← client]
          refine still.acknowledge index input.submitted ?_ ?_ (delivered.resolve_left running)
          · rw [server]
            exact pending
          · rw [client]
            exact done_
        · exact still
    split
    · rename_i reads
      obtain ⟨ok, opcode⟩ := reads
      obtain ⟨client, server, _⟩ := readPacket_keeps world index input
      obtain ⟨still, delivered⟩ :=
        faithful.readPacket serving index input pending (by simp [ok]) opcode
      exact answered _ still client server delivered
    · rename_i other
      refine answered world faithful rfl rfl (Or.inr ?_)
      intro reads ok serial entry follows
      -- A request to read was sent on as a packet to read.
      have asked := (faithful.asked follows).opcode
      rw [reads] at asked
      exact (other ⟨ok, asked⟩).elim
  · exact faithful

/-! A request that is sent on gets the next number. -/

/-- The client side behind `Allocate_Request` and `Enqueue`. -/
structure SentOn (world after : ProxyWorld) (index : RequestIndex) (entry : Sent)
    (c : ClientRequest Unit) : Prop where
  client : after.client = (world.client.setRequest index c).enqueue () index
  packet : entry.packet = c.packet
  sent : after.sent = world.sent ++ [entry]
  answers : after.answers = world.answers

theorem SentOn.requests {world after : ProxyWorld} {index : RequestIndex} {entry : Sent}
    {c : ClientRequest Unit} (sentOn : SentOn world after index entry c) :
    after.client.requests = Function.update world.client.requests index
      { c with status := .pending, ticket := some ⟨world.client.enqueued, ()⟩ } := by
  rw [sentOn.client]
  simp [ClientWorld.enqueue, ClientWorld.setRequest, ClientWorld.setSession]

theorem SentOn.session {world after : ProxyWorld} {index : RequestIndex} {entry : Sent}
    {c : ClientRequest Unit} (sentOn : SentOn world after index entry c) :
    after.session = { world.session with submitted :=
      world.session.submitted ++ [⟨c.packet, ⟨world.client.enqueued, ()⟩⟩] } := by
  rw [ProxyWorld.session, sentOn.client]
  simp [ClientWorld.enqueue, ClientWorld.setRequest, ClientWorld.setSession, ProxyWorld.session]

theorem Underway.unsent {world : ProxyWorld} (underway : Underway world) (index : RequestIndex)
    (unsent : (world.client.requests index).status ≠ .pending) :
    index.val ∉ world.flying.map Prod.fst := by
  intro member
  obtain ⟨item, inside, tag⟩ := List.mem_map.mp member
  obtain ⟨other, same, pending, _⟩ := underway.owned item inside
  have here : other = index := Fin.ext (same.symm.trans tag)
  rw [here] at pending
  exact unsent pending

theorem Underway.sentOn {world after : ProxyWorld} (underway : Underway world)
    {index : RequestIndex} {entry : Sent} {c : ClientRequest Unit}
    (sentOn : SentOn world after index entry c)
    (unsent : (world.client.requests index).status ≠ .pending)
    (tag : c.packet.tag = index.val) : Underway after := by
  have alone := underway.unsent index unsent
  obtain ⟨owned, distinct, submitted, answered, once, numbered, enqueued⟩ := underway
  have cache : after.client.cache = world.client.cache := by
    rw [sentOn.client]
    rfl
  have flying : after.flying.Perm ((index.val, world.client.enqueued) :: world.flying) := by
    unfold ProxyWorld.flying
    rw [sentOn.session, cache]
    simp only [List.map_append, List.map_cons, List.map_nil, tag, List.append_assoc]
    exact List.perm_middle
  constructor
  · intro item member
    rw [sentOn.requests]
    rcases List.mem_cons.mp (flying.mem_iff.mp member) with rfl | before
    · refine ⟨index, rfl, ?_⟩
      rw [Function.update_self]
      exact ⟨rfl, rfl⟩
    · obtain ⟨other, sameTag, pending, ticket⟩ := owned item before
      have different : other ≠ index := by
        rintro rfl
        exact unsent pending
      refine ⟨other, sameTag, ?_⟩
      rw [Function.update_of_ne different]
      exact ⟨pending, ticket⟩
  · refine (flying.map Prod.fst).nodup_iff.mpr ?_
    exact List.nodup_cons.mpr ⟨alone, distinct⟩
  · rw [sentOn.session, sentOn.sent]
    intro item member
    rcases List.mem_append.mp member with before | new
    · obtain ⟨old, found, same⟩ := submitted item before
      exact ⟨old, getElem?_grown found, same⟩
    · rw [List.mem_singleton.mp new]
      refine ⟨entry, ?_, sentOn.packet⟩
      simp [enqueued]
  · rw [sentOn.session, cache, sentOn.sent, sentOn.answers]
    intro ack member
    obtain ⟨old, found, given⟩ := answered ack member
    exact ⟨old, getElem?_grown found, given⟩
  · rw [sentOn.session, sentOn.answers]
    have fresh : world.client.enqueued ∉ world.session.submitted.map (·.ticket.serial) ++
        world.answers.map Answer.serial := by
      intro member
      rw [enqueued] at member
      rcases List.mem_append.mp member with inside | inside
      · obtain ⟨item, there, same⟩ := List.mem_map.mp inside
        obtain ⟨_, found, _⟩ := submitted item there
        have bound := (List.getElem?_eq_some_iff.mp found).1
        omega
      · obtain ⟨answer, there, same⟩ := List.mem_map.mp inside
        have bound := numbered answer there
        omega
    simp only [List.map_append, List.map_cons, List.map_nil, List.append_assoc]
    exact List.perm_middle.nodup_iff.mpr (List.nodup_cons.mpr ⟨fresh, once⟩)
  · rw [sentOn.answers, sentOn.sent]
    intro answer member
    have bound := numbered answer member
    rw [List.length_append]
    omega
  · rw [sentOn.client, sentOn.sent, List.length_append, ← enqueued]
    rfl

theorem Faithful.sentOn {world after : ProxyWorld} (faithful : Faithful world)
    {index : RequestIndex} {entry : Sent} {c : ClientRequest Unit}
    (sentOn : SentOn world after index entry c)
    (pending : (world.server.requests index).status = .pending)
    (unsent : (world.client.requests index).status = .raw)
    (request : entry.request = (world.server.requests index).request)
    (carries : Carries c.packet (world.server.requests index).request)
    (tag : c.packet.tag = index.val) (whole : entry.whole)
    (server : after.server.requests = world.server.requests)
    (session : after.server.server = world.server.server)
    (taken : after.taken = world.taken) (relayed : after.relayed = world.relayed)
    (returned : after.returned = world.returned) : Faithful after := by
  have notPending : (world.client.requests index).status ≠ .pending := by simp [unsent]
  have underway := faithful.underway.sentOn sentOn notPending tag
  have grown : ∃ more, after.sent = world.sent ++ more := ⟨[entry], sentOn.sent⟩
  have answered : world.answers ⊆ after.answers := by
    rw [sentOn.answers]
    exact List.Subset.refl _
  have updated : after.server.requests =
      Function.update world.server.requests index (world.server.requests index) :=
    server.trans (Function.update_eq_self _ _).symm
  have held := held_of_same takenItem world after index updated sentOn.requests rfl
  have heldSent := held_of_updates sentItem world after index updated sentOn.requests
  have before : sentItem (world.pair index) = none := by
    simp [sentItem, ProxyWorld.pair, unsent]
  rw [before, Option.toList_none, List.nil_append] at heldSent
  constructor
  · exact underway
  · intro other
    by_cases here : other = index
    · rw [here]
      refine .sent (by rw [server]; exact pending) (Or.inl ?_) world.client.enqueued entry
        ⟨?_, ?_, ?_, ?_, ?_, ?_⟩
      · rw [sentOn.requests, Function.update_self]
      · rw [sentOn.requests, Function.update_self]
        rfl
      · rw [sentOn.sent, faithful.underway.enqueued]
        simp
      · rw [sentOn.requests, Function.update_self]
        exact sentOn.packet
      · rw [server, request]
      · rw [sentOn.packet, tag]
      · intro changed
        rw [sentOn.requests, Function.update_self] at changed
        exact (changed rfl).elim
    · refine (faithful.state other).mono (by rw [server]) ?_ grown answered
      rw [sentOn.requests, Function.update_of_ne here]
  · rw [sentOn.sent]
    intro other member
    rcases List.mem_append.mp member with old | new
    · exact faithful.carries other old
    · rw [List.mem_singleton.mp new, sentOn.packet, request]
      exact carries
  · rw [relayed]
    exact fun other member =>
      (faithful.truthful other member).mono grown answered (by simp [returned])
  · rw [taken, relayed, ProxyWorld.held, held]
    exact faithful.taken
  · rw [sentOn.sent, relayed, List.zipIdx_append, List.map_append]
    refine (faithful.sent.append_right _).trans ?_
    rw [List.append_assoc]
    apply List.Perm.append_left
    refine List.perm_append_comm.trans ?_
    have last : [(bare entry.request, some world.sent.length)] =
        (sentItem (world.server.requests index, { c with
          status := .pending, ticket := some ⟨world.client.enqueued, ()⟩ })).toList := by
      simp [sentItem, pending, request, faithful.underway.enqueued]
    simp only [List.zipIdx_cons, List.zipIdx_nil, List.map_cons, List.map_nil, Nat.zero_add]
    rw [last]
    exact heldSent.symm
  · rw [sentOn.sent]
    intro other member
    rcases List.mem_append.mp member with old | new
    · exact faithful.written other old
    · rw [List.mem_singleton.mp new]
      exact whole
  · rw [returned]
    exact faithful.returned
  · rw [session]
    exact faithful.tag
  · rw [server]
    exact faithful.tags

theorem allocateRequest_cases (session : ClientSession Unit) (c : ClientRequest Unit)
    (kind : RequestKind) (start length id : Nat) (memory : Option Int)
    (unused : c.status = .raw) :
    let (after, result) := allocateRequest session c kind start length id memory
    (result = .success ∧ (opcode kind = 0 ∨ opcode kind = 1) ∧ 0 < length ∧
        ∃ offset, after.packet =
          ⟨offset, session.blockSize * length % 2 ^ 64, opcode kind, id, start, length⟩) ∨
      result ≠ .success ∧ after.status = .raw := by
  unfold allocateRequest
  simp only
  by_cases data : opcode kind = 0 ∨ opcode kind = 1
  · rw [if_pos data]
    cases memory with
    | none => exact Or.inr ⟨by simp, unused⟩
    | some offset =>
        by_cases some_ : 0 < length
        · simp only [if_pos some_]
          exact Or.inl ⟨trivial, data, some_, offset, rfl⟩
        · simp only [if_neg some_]
          exact Or.inr ⟨by simp, unused⟩
  · rw [if_neg data]
    exact Or.inr ⟨by simp, unused⟩

theorem serverKind_data (kind : Nat) (data : opcode (serverKind kind) = 0 ∨
    opcode (serverKind kind) = 1) : kind = 1 ∨ kind = 2 := by
  rcases data with reads | writes
  · have read := opcode_read _ reads
    unfold serverKind at read
    split at read
    · exact Or.inl rfl
    all_goals cases read
  · have write := opcode_write _ writes
    unfold serverKind at write
    split at write
    · cases write
    · exact Or.inr rfl
    all_goals cases write

theorem Faithful.enqueue {world : ProxyWorld} (faithful : Faithful world) {index : RequestIndex}
    {c : ClientRequest Unit} (window : Option Text) (content : Text)
    (pending : (world.server.requests index).status = .pending)
    (unsent : (world.client.requests index).status = .raw)
    (carries : Carries c.packet (world.server.requests index).request)
    (tag : c.packet.tag = index.val)
    (whole : Sent.whole ⟨(world.server.requests index).request, c.packet, window, content⟩) :
    Faithful (world.enqueue index c window content) :=
  faithful.sentOn ⟨rfl, rfl, rfl, rfl⟩ pending unsent rfl carries tag whole rfl rfl rfl rfl rfl

theorem Faithful.writePacket {world : ProxyWorld} (faithful : Faithful world)
    (serving : Serving world) {index : RequestIndex} {c : ClientRequest Unit} (input : TurnInput)
    (pending : (world.server.requests index).status = .pending)
    (unsent : (world.client.requests index).status = .raw)
    (carries : Carries c.packet (world.server.requests index).request)
    (tag : c.packet.tag = index.val) (writes : c.packet.opcode = 1)
    (bytes : c.packet.bytes = world.session.blockSize * c.packet.blockCount % 2 ^ 64) :
    Faithful (world.writePacket index c input) := by
  cases found : crwLength unsignedLong world.session.blockSize c.packet.blockCount with
  | none =>
      have result : world.writePacket index c input = { world with halted := true } := by
        simp only [ProxyWorld.writePacket, found]
      rw [result]
      exact faithful.halt
  | some length =>
      have kind : serverKind (world.server.requests index).request.kind = .write :=
        opcode_write _ (carries.opcode.symm.trans writes)
      have copied := faithful.copies serving index .write length pending kind
        (by rw [← carries.length, found])
      have sized : length.toNat = c.packet.bytes := by
        rw [bytes, crwLength_bytes found, Int.toNat_natCast]
      let applied : ProxyWorld := { world with server := world.server.apply index }
      have still : Faithful applied :=
        faithful.withReturned _ rfl rfl rfl rfl rfl rfl rfl (List.Subset.refl _) faithful.returned
      cases window : input.window with
      | none =>
          have result : world.writePacket index c input =
              applied.enqueue index c none (packetData input.packet length) := by
            simp only [ProxyWorld.writePacket, found, copied, window, if_true, applied]
          rw [result]
          refine still.enqueue none _ pending unsent carries tag fun _ => ⟨?_, ?_⟩
          · exact (packetData_length _ _).trans sized
          · exact fun _ impossible => by cases impossible
      | some payload =>
          have result : world.writePacket index c input =
              applied.enqueue index c (some payload)
                (copyBytes payload length.toNat (packetData input.packet length)) := by
            simp only [ProxyWorld.writePacket, found, copied, window, if_true, applied]
          rw [result]
          refine still.enqueue (some payload) _ pending unsent carries tag fun _ => ⟨?_, ?_⟩
          · exact (copyBytes_length _ _ _).trans ((packetData_length _ _).trans sized)
          · intro given same long
            rw [Option.some.injEq] at same
            subst same
            have whole := copyBytes_whole payload (packetData input.packet length)
              ((packetData_length _ _).trans (sized.trans long.symm))
            rw [long, ← sized] at whole
            exact whole

theorem Faithful.forward {world : ProxyWorld} (faithful : Faithful world)
    (serving : Serving world) (index : RequestIndex) (input : TurnInput)
    (pending : (world.client.requests index).status = .raw →
      (world.server.requests index).status = .pending) :
    Faithful (world.forward index input) := by
  by_cases unsent : (world.client.requests index).status = .raw
  · have waiting := pending unsent
    simp only [ProxyWorld.forward, if_pos unsent]
    split
    · exact faithful.halt
    · have outcome := allocateRequest_cases world.session (world.client.requests index)
        (serverKind (world.server.requests index).request.kind)
        (world.server.requests index).request.blockNumber
        (world.server.requests index).request.blockCount index input.memory unsent
      generalize allocateRequest _ _ _ _ _ _ _ = answer at outcome
      obtain ⟨c, result⟩ := answer
      rcases outcome with ⟨rfl, data, some_, offset, packet⟩ | ⟨refused, unused⟩
      · have carries : Carries c.packet (world.server.requests index).request := by
          rw [packet]
          exact ⟨serverKind_data _ data, rfl, rfl, rfl, some_⟩
        have tag : c.packet.tag = index.val := by rw [packet]
        simp only
        split
        · rename_i writes
          exact faithful.writePacket serving input waiting unsent carries tag writes
            (by rw [packet])
        · rename_i reads
          exact faithful.enqueue none [] waiting unsent carries tag fun writes =>
            (reads writes).elim
      · simp only
        refine faithful.setRequest index c (by simp [unsent]) (.waiting waiting ?_) ?_
        · simp [ClientWorld.setRequest, unused]
        · simp [sentItem, ProxyWorld.pair, unsent, unused]
  · simp only [ProxyWorld.forward, if_neg unsent]
    exact faithful

/-! A turn, from the parts of it. -/

theorem complete_keeps (world : ProxyWorld) (index : RequestIndex) (input : TurnInput) :
    (world.complete index input).client = world.client ∧
      Steady world (world.complete index input) := by
  have read := readPacket_keeps world index input
  have same : Steady world world := ⟨rfl, rfl, rfl, rfl, rfl⟩
  simp only [ProxyWorld.complete]
  split
  · split
    · split
      · exact ⟨read.1, read.2.2⟩
      · split
        · obtain ⟨client, _, device, size, tag, count, server⟩ := read
          exact ⟨client, device, size, tag, count, server⟩
        · exact ⟨read.1, read.2.2⟩
    · split
      · exact ⟨rfl, same⟩
      · split
        · exact ⟨rfl, rfl, rfl, rfl, rfl, rfl⟩
        · exact ⟨rfl, same⟩
  · exact ⟨rfl, same⟩

theorem complete_raw (world : ProxyWorld) (index : RequestIndex) (input : TurnInput)
    (unsent : (world.client.requests index).status = .raw) :
    world.complete index input = world := by
  simp [ProxyWorld.complete, unsent]

theorem update_steady (world : ProxyWorld) (index : RequestIndex) :
    Steady world (world.update index) := by
  simp only [ProxyWorld.update]
  split
  · constructor <;> simp [ProxyWorld.session, ClientWorld.updateRequest, ClientWorld.setRequest,
      ClientWorld.setSession]
  · exact ⟨rfl, rfl, rfl, rfl, rfl⟩

theorem update_server (world : ProxyWorld) (index : RequestIndex) :
    (world.update index).server = world.server := by
  simp only [ProxyWorld.update]
  split <;> rfl

theorem Faithful.resume_eq {world : ProxyWorld} (faithful : Faithful world)
    (index : RequestIndex) (input : TurnInput) : world.resume index input = world := by
  apply if_neg
  rintro ⟨allocated, _⟩
  have never : (world.client.requests index).status ≠ .allocated := by
    cases faithful.state index with
    | free _ done_ => rcases done_ with status | status | status <;> simp [status]
    | waiting _ unsent => simp [unsent]
    | sent _ sent_ => rcases sent_ with status | status | status <;> simp [status]
  exact never allocated

theorem Faithful.fail_eq {world : ProxyWorld} (faithful : Faithful world) (index : RequestIndex)
    (submitted : Bool) : world.fail index submitted = world := by
  apply if_neg
  rintro ⟨error, _⟩
  cases faithful.state index with
  | free unused _ =>
      rw [unused] at error
      cases error
  | waiting pending _ =>
      rw [pending] at error
      cases error
  | sent pending _ =>
      rw [pending] at error
      cases error

theorem Faithful.serve {world : ProxyWorld} (faithful : Faithful world) (serving : Serving world)
    (index : RequestIndex) (input : TurnInput)
    (pending : (world.server.requests index).status = .pending) :
    Faithful (world.serve index input) := by
  have updated := faithful.update index pending
  have ready := serving.steady (update_steady world index)
  have still : ((world.update index).server.requests index).status = .pending := by
    rw [update_server]
    exact pending
  have completed := updated.complete ready index input still
  obtain ⟨client, steady⟩ := complete_keeps (world.update index) index input
  have forwarded := completed.forward (ready.steady steady) index input (by
    intro unsent
    rw [client] at unsent
    rw [complete_raw _ index input unsent]
    exact still)
  simp only [ProxyWorld.serve]
  split
  · exact completed
  · split
    · exact forwarded
    · rw [forwarded.resume_eq]
      exact forwarded

theorem release_steady (world : ProxyWorld) (index : RequestIndex) :
    Steady world (world.release index) := by
  simp only [ProxyWorld.release]
  split <;> exact ⟨rfl, rfl, rfl, rfl, rfl⟩

theorem take_steady (world : ProxyWorld) (index : RequestIndex) (arrived : Option StreamRequest) :
    Steady world (world.take index arrived) := by
  simp only [ProxyWorld.take]
  split
  · cases arrived <;> exact ⟨rfl, rfl, rfl, rfl, rfl⟩
  · exact ⟨rfl, rfl, rfl, rfl, rfl⟩

theorem Faithful.turn {world : ProxyWorld} (faithful : Faithful world) (serving : Serving world)
    (index : RequestIndex) (input : TurnInput) : Faithful (world.turn index input) := by
  have released := faithful.release index
  have ready := serving.steady (release_steady world index)
  have took := released.take index input.arrived ready.2.2
  have readyThen := ready.steady (take_steady _ index input.arrived)
  simp only [ProxyWorld.turn, took.fail_eq]
  split
  · rename_i pending
    exact took.serve readyThen index input pending
  · exact took

end Gneiss.Genode.BlockProxy
