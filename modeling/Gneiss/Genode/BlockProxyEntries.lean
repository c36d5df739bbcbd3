import Gneiss.Genode.BlockProxy

/-!
One entry of the block proxy changes: it becomes free, takes a request, or is acknowledged. What the
other entries hold and follow stays, and so does what is under way.
-/

namespace Gneiss.Genode.BlockProxy

open Block

/-! What one entry holds counts in both lists. -/

theorem pair_of_updates (world after : ProxyWorld) (index : RequestIndex)
    {request : ServerRequest} {c : ClientRequest Unit}
    (server : after.server.requests = Function.update world.server.requests index request)
    (client : after.client.requests = Function.update world.client.requests index c) :
    after.pair = Function.update world.pair index (request, c) := by
  funext other
  unfold ProxyWorld.pair
  rw [server, client]
  by_cases same : other = index
  · rw [same]
    simp
  · simp [Function.update_of_ne same]

theorem held_of_updates {Item : Type} (item : ServerRequest × ClientRequest Unit → Option Item)
    (world after : ProxyWorld) (index : RequestIndex) {request : ServerRequest}
    {c : ClientRequest Unit}
    (server : after.server.requests = Function.update world.server.requests index request)
    (client : after.client.requests = Function.update world.client.requests index c) :
    ((item (world.pair index)).toList ++ Slots.held (List.finRange 64) item after.pair).Perm
      ((item (request, c)).toList ++ Slots.held (List.finRange 64) item world.pair) := by
  rw [pair_of_updates world after index server client]
  exact Slots.held_update _ (List.nodup_finRange 64) _ _ index (List.mem_finRange index) _

/-- An entry that changes and holds what it held before. -/
theorem held_of_same {Item : Type} (item : ServerRequest × ClientRequest Unit → Option Item)
    (world after : ProxyWorld) (index : RequestIndex) {request : ServerRequest}
    {c : ClientRequest Unit}
    (server : after.server.requests = Function.update world.server.requests index request)
    (client : after.client.requests = Function.update world.client.requests index c)
    (same : item (request, c) = item (world.pair index)) :
    Slots.held (List.finRange 64) item after.pair =
      Slots.held (List.finRange 64) item world.pair := by
  rw [pair_of_updates world after index server client]
  apply Slots.held_congr
  intro other _
  by_cases here : other = index
  · rw [here, Function.update_self, same]
  · rw [Function.update_of_ne here]

/-! An entry that is not touched follows what it followed. -/

theorem getElem?_grown {α : Type} {list more : List α} {place : Nat} {element : α}
    (found : list[place]? = some element) : (list ++ more)[place]? = some element := by
  rw [List.getElem?_append_left (List.getElem?_eq_some_iff.mp found).1, found]

theorem Follows.mono {world after : ProxyWorld} {index : RequestIndex} {serial : Nat}
    {entry : Sent} (follows : Follows world index serial entry)
    (client : after.client.requests index = world.client.requests index)
    (request : bare (after.server.requests index).request =
      bare (world.server.requests index).request)
    (sent : ∃ more, after.sent = world.sent ++ more)
    (answers : world.answers ⊆ after.answers) : Follows after index serial entry := by
  obtain ⟨more, grown⟩ := sent
  obtain ⟨ticket, found, packet, asked, tag, answered⟩ := follows
  refine ⟨?_, ?_, ?_, ?_, tag, ?_⟩
  · rw [client]
    exact ticket
  · rw [grown]
    exact getElem?_grown found
  · rw [client]
    exact packet
  · rw [request]
    exact asked
  · rw [client]
    exact fun done_ => answers (answered done_)

theorem EntryState.mono {world after : ProxyWorld} {index : RequestIndex}
    (state : EntryState world index)
    (server : after.server.requests index = world.server.requests index)
    (client : after.client.requests index = world.client.requests index)
    (sent : ∃ more, after.sent = world.sent ++ more)
    (answers : world.answers ⊆ after.answers) : EntryState after index := by
  cases state with
  | free unused done_ => exact .free (by rw [server]; exact unused) (by rw [client]; exact done_)
  | waiting pending unsent =>
      exact .waiting (by rw [server]; exact pending) (by rw [client]; exact unsent)
  | sent pending sent_ serial entry follows =>
      exact .sent (by rw [server]; exact pending) (by rw [client]; exact sent_) serial entry
        (follows.mono client (by rw [server]) sent answers)

theorem Truthful.mono {world after : ProxyWorld} {relayed : Relayed}
    (truthful : Truthful world relayed) (sent : ∃ more, after.sent = world.sent ++ more)
    (answers : world.answers ⊆ after.answers) (returned : world.returned ⊆ after.returned) :
    Truthful after relayed := by
  obtain ⟨more, grown⟩ := sent
  obtain ⟨serial, entry, same, found, asked, answered, copied⟩ := truthful
  refine ⟨serial, entry, same, ?_, asked, answers answered, ?_⟩
  · rw [grown]
    exact getElem?_grown found
  · intro reads success
    obtain ⟨copy, member, rest⟩ := copied reads success
    exact ⟨copy, returned member, rest⟩

theorem Underway.congr {world after : ProxyWorld} (underway : Underway world)
    (client : after.client = world.client) (sent : after.sent = world.sent)
    (answers : after.answers = world.answers) : Underway after := by
  obtain ⟨owned, distinct, submitted, answered, once, numbered, enqueued⟩ := underway
  have flying : after.flying = world.flying := by
    unfold ProxyWorld.flying ProxyWorld.session
    rw [client]
  constructor
  · rw [flying, client]
    exact owned
  · rw [flying]
    exact distinct
  · rw [ProxyWorld.session, client, sent]
    exact submitted
  · rw [ProxyWorld.session, client, sent, answers]
    exact answered
  · rw [ProxyWorld.session, client, answers]
    exact once
  · rw [sent, answers]
    exact numbered
  · rw [client, sent]
    exact enqueued

/-- A request of the client side that is not under way changes into another one. -/
theorem Underway.setRequest {world : ProxyWorld} (underway : Underway world)
    (index : RequestIndex) (c : ClientRequest Unit)
    (idle : (world.client.requests index).status ≠ .pending) :
    Underway { world with client := world.client.setRequest index c } := by
  obtain ⟨owned, distinct, submitted, answered, once, numbered, enqueued⟩ := underway
  refine ⟨?_, distinct, submitted, answered, once, numbered, enqueued⟩
  intro item member
  obtain ⟨other, tag, pending, ticket⟩ := owned item member
  have different : other ≠ index := by
    rintro rfl
    exact idle pending
  refine ⟨other, tag, ?_, ?_⟩
  · simpa [ClientWorld.setRequest, Function.update_of_ne different] using pending
  · simpa [ClientWorld.setRequest, Function.update_of_ne different] using ticket

theorem Faithful.setRequest {world : ProxyWorld} (faithful : Faithful world)
    (index : RequestIndex) (c : ClientRequest Unit)
    (idle : (world.client.requests index).status ≠ .pending)
    (state : EntryState { world with client := world.client.setRequest index c } index)
    (same : sentItem (world.server.requests index, c) = sentItem (world.pair index)) :
    Faithful { world with client := world.client.setRequest index c } := by
  have server : world.server.requests =
      Function.update world.server.requests index (world.server.requests index) :=
    (Function.update_eq_self _ _).symm
  have held := held_of_same takenItem world
    { world with client := world.client.setRequest index c } index server rfl rfl
  have heldSent := held_of_same sentItem world
    { world with client := world.client.setRequest index c } index server rfl same
  refine { faithful with
    underway := faithful.underway.setRequest index c idle
    state := fun other => ?_
    taken := ?_
    sent := ?_ }
  · by_cases here : other = index
    · rw [here]
      exact state
    · exact (faithful.state other).mono rfl (Function.update_of_ne here _ _) ⟨[], by simp⟩
        (List.Subset.refl _)
  · rw [ProxyWorld.held, held]
    exact faithful.taken
  · rw [ProxyWorld.heldSent, heldSent]
    exact faithful.sent

theorem Faithful.release {world : ProxyWorld} (faithful : Faithful world)
    (index : RequestIndex) : Faithful (world.release index) := by
  simp only [ProxyWorld.release]
  split
  · rename_i allowed
    obtain ⟨unused, done_, _⟩ := allowed
    refine faithful.setRequest index _ ?_ (.free unused (Or.inl ?_)) ?_
    · rcases done_ with ok | error
      · simp [ok]
      · simp [error]
    · simp [ClientWorld.setRequest]
    · simp [sentItem, ProxyWorld.pair, unused]
  · exact faithful

theorem Faithful.take {world : ProxyWorld} (faithful : Faithful world) (index : RequestIndex)
    (arrived : Option StreamRequest) (serving : world.server.server.initialized = true) :
    Faithful (world.take index arrived) := by
  simp only [ProxyWorld.take]
  split
  · rename_i allowed
    obtain ⟨unused, unsent⟩ := allowed
    cases arrived with
    | none =>
        simp only [ServerWorld.process, Option.toList_none, List.append_nil]
        exact faithful
    | some request =>
        let taken : ServerRequest :=
          ⟨request, .pending, world.server.server.tag, world.server.server.session.getD 0⟩
        let after : ProxyWorld := { world with
          server := world.server.process index (some request)
          taken := world.taken ++ [request] }
        have server : after.server.requests =
            Function.update world.server.requests index taken := rfl
        have client : after.client.requests =
            Function.update world.client.requests index (world.client.requests index) :=
          (Function.update_eq_self _ _).symm
        have held := held_of_updates takenItem world after index server client
        have heldSent := held_of_same sentItem world after index server client
          (by simp [sentItem, ProxyWorld.pair, unused, unsent])
        change Faithful after
        refine { faithful with
          underway := faithful.underway.congr rfl rfl rfl
          state := fun other => ?_
          taken := ?_
          sent := ?_
          tags := fun other => ?_ }
        · by_cases here : other = index
          · refine .waiting ?_ ?_
            · rw [here, server, Function.update_self]
            · rw [here]
              exact unsent
          · refine (faithful.state other).mono ?_ rfl ⟨[], by simp [after]⟩ (List.Subset.refl _)
            rw [server, Function.update_of_ne here]
        · have before : takenItem (world.pair index) = none := by
            simp [takenItem, ProxyWorld.pair, unused]
          have now : takenItem (taken, world.client.requests index) = some (bare request) := rfl
          rw [before, now, Option.toList_none, Option.toList_some, List.nil_append] at held
          change ((world.taken ++ [request]).map bare).Perm (_ ++ after.held)
          rw [List.map_append, List.map_singleton]
          refine (List.perm_append_singleton _ _).trans ?_
          refine (faithful.taken.cons _).trans ?_
          refine List.perm_middle.symm.trans ?_
          exact held.symm.append_left _
        · rw [ProxyWorld.heldSent, heldSent]
          exact faithful.sent
        · by_cases here : other = index
          · rw [here, server, Function.update_self]
            exact fun _ => faithful.tag serving
          · rw [server, Function.update_of_ne here]
            exact faithful.tags other
  · exact faithful

theorem EntryState.follows {world : ProxyWorld} {index : RequestIndex}
    (state : EntryState world index)
    (pending : (world.server.requests index).status = .pending)
    (sent : (world.client.requests index).status ≠ .raw) :
    ∃ serial entry, Follows world index serial entry := by
  cases state with
  | free unused done_ =>
      rw [unused] at pending
      cases pending
  | waiting pending unsent => exact (sent unsent).elim
  | sent pending sent_ serial entry follows => exact ⟨serial, entry, follows⟩

/-- `Read` was called for the packet of the entry, if it is an answered read. -/
def Delivered (world : ProxyWorld) (index : RequestIndex) : Prop :=
  (world.server.requests index).request.kind = 1 →
    (world.client.requests index).status = .ok → ∀ serial entry,
      Follows world index serial entry →
      Copied world serial entry.packet (world.server.requests index).request

theorem Faithful.acknowledged {world : ProxyWorld} (faithful : Faithful world)
    (index : RequestIndex) (pending : (world.server.requests index).status = .pending)
    (done_ : (world.client.requests index).status = .ok ∨
      (world.client.requests index).status = .error) (delivered : Delivered world index) :
    Faithful (world.acknowledge index (world.client.requests index).status true) := by
  let c := world.client.requests index
  let request := (world.server.requests index).request
  have used : c.status ≠ .raw := by
    rcases done_ with ok | error
    · simp [c, ok]
    · simp [c, error]
  have notPending : c.status ≠ .pending := by
    rcases done_ with ok | error
    · simp [c, ok]
    · simp [c, error]
  obtain ⟨serial, entry, follows⟩ := (faithful.state index).follows pending used
  let answered : StreamRequest := { request with success := decide (c.status = .ok) }
  let after := world.acknowledge index c.status true
  have server : after.server.requests = Function.update world.server.requests index
      { world.server.requests index with request := answered, status := .raw } := rfl
  have client : after.client.requests = Function.update world.client.requests index c :=
    (Function.update_eq_self _ _).symm
  have relayed : after.relayed = world.relayed ++ [⟨answered, c.ticket.map (·.serial)⟩] := rfl
  have held := held_of_updates takenItem world after index server client
  have heldSent := held_of_updates sentItem world after index server client
  have takenBefore : takenItem (world.pair index) = some (bare request) := by
    simp [takenItem, ProxyWorld.pair, pending, request]
  have sentBefore : sentItem (world.pair index) =
      some (bare request, c.ticket.map (·.serial)) := by
    have both : (world.pair index).1.status = .pending ∧ (world.pair index).2.status ≠ .raw :=
      ⟨pending, used⟩
    exact if_pos both
  rw [takenBefore] at held
  rw [sentBefore] at heldSent
  change Faithful after
  refine { faithful with
    underway := faithful.underway.congr rfl rfl rfl
    state := fun other => ?_
    truthful := fun entry member => ?_
    taken := ?_
    sent := ?_
    tags := fun other => ?_ }
  · by_cases here : other = index
    · rw [here]
      refine .free ?_ (Or.inr done_)
      rw [server, Function.update_self]
    · refine (faithful.state other).mono ?_ rfl ⟨[], (List.append_nil _).symm⟩
        (List.Subset.refl _)
      rw [server, Function.update_of_ne here]
  · rw [relayed, List.mem_append, List.mem_singleton] at member
    rcases member with before | rfl
    · exact (faithful.truthful entry before).mono ⟨[], (List.append_nil _).symm⟩
        (List.Subset.refl _) (List.Subset.refl _)
    · refine ⟨serial, _, follows.ticket, follows.sent, follows.request,
        follows.answered notPending, ?_⟩
      intro reads success
      exact delivered reads (of_decide_eq_true success) serial _ follows
  · refine faithful.taken.trans ?_
    rw [relayed, List.map_append, List.map_singleton, List.append_assoc]
    exact held.symm.append_left _
  · refine faithful.sent.trans ?_
    rw [relayed, List.map_append, List.map_singleton, List.append_assoc]
    exact heldSent.symm.append_left _
  · by_cases here : other = index
    · intro impossible
      rw [here, server, Function.update_self] at impossible
      cases impossible
    · rw [server, Function.update_of_ne here]
      exact faithful.tags other

/-- Without room for the acknowledgement only the result is noted in the request. -/
theorem Faithful.notAcknowledged {world : ProxyWorld} (faithful : Faithful world)
    (index : RequestIndex) (pending : (world.server.requests index).status = .pending)
    (res : RequestStatus) : Faithful (world.acknowledge index res false) := by
  let request := (world.server.requests index).request
  let noted : ServerRequest := { world.server.requests index with
    request := { request with success := decide (res = .ok) } }
  let after := world.acknowledge index res false
  have server : after.server.requests = Function.update world.server.requests index noted := rfl
  have client : after.client.requests =
      Function.update world.client.requests index (world.client.requests index) :=
    (Function.update_eq_self _ _).symm
  have relayed : after.relayed = world.relayed := List.append_nil _
  have held := held_of_same takenItem world after index server client rfl
  have heldSent := held_of_same sentItem world after index server client rfl
  have stored : after.server.requests index = noted := by rw [server, Function.update_self]
  change Faithful after
  refine { faithful with
    underway := faithful.underway.congr rfl rfl rfl
    state := fun other => ?_
    truthful := fun entry member => ?_
    taken := ?_
    sent := ?_
    tags := fun other => ?_ }
  · by_cases here : other = index
    · rw [here]
      cases faithful.state index with
      | free unused done_ =>
          rw [unused] at pending
          cases pending
      | waiting _ unsent => exact .waiting (by rw [stored]; exact pending) unsent
      | sent _ sent_ serial entry follows =>
          refine .sent (by rw [stored]; exact pending) sent_ serial entry
            (follows.mono rfl ?_ ⟨[], (List.append_nil _).symm⟩ (List.Subset.refl _))
          rw [stored]
          rfl
    · refine (faithful.state other).mono ?_ rfl ⟨[], (List.append_nil _).symm⟩
        (List.Subset.refl _)
      rw [server, Function.update_of_ne here]
  · rw [relayed] at member
    exact (faithful.truthful entry member).mono ⟨[], (List.append_nil _).symm⟩
      (List.Subset.refl _) (List.Subset.refl _)
  · rw [relayed, ProxyWorld.held, held]
    exact faithful.taken
  · rw [relayed, ProxyWorld.heldSent, heldSent]
    exact faithful.sent
  · by_cases here : other = index
    · rw [here, stored]
      exact faithful.tags index
    · rw [server, Function.update_of_ne here]
      exact faithful.tags other

end Gneiss.Genode.BlockProxy
