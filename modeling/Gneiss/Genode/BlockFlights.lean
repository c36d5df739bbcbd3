import Mathlib.Data.List.FinRange
import Gneiss.Library.Slots
import Gneiss.Genode.BlockUpdates

/-!
A component with one block session and a fixed number of request objects, which uses the number of
an object as the tag of its packets. `asks` is what the component says a packet is for.
-/

namespace Gneiss.Genode.Block

variable {n : Nat}

/-- Tag and number of the packet of a pending request. -/
def flight (c : ClientRequest Unit) : Option (Nat × Nat) :=
  if c.status = .pending then c.ticket.map fun ticket => (c.packet.tag, ticket.serial) else none

namespace ClientWorld

/-- Tag and number of the packets under way: sent, answered, or in the cache. -/
def flying (client : ClientWorld Unit (Fin n)) : List (Nat × Nat) :=
  (client.sessions ()).submitted.map (fun item => (item.packet.tag, item.ticket.serial)) ++
    (entries client.cache ++ (client.sessions ()).acked).map fun ack =>
      (ack.tag, ack.ticket.serial)

def pending (client : ClientWorld Unit (Fin n)) : List (Nat × Nat) :=
  Slots.held (List.finRange n) flight client.requests

end ClientWorld

structure Busy (asks : PacketDescriptor → Nat → Prop) (client : ClientWorld Unit (Fin n))
    (index : Fin n) : Prop where
  status : (client.requests index).status = .pending
  tag : (client.requests index).packet.tag = index.val
  assigned : (client.sessions ()).assigned (client.requests index) = true
  ticket : ∃ serial, (client.requests index).ticket = some ⟨serial, ()⟩ ∧
    asks (client.requests index).packet serial

/-- The packets under way are those of the pending requests, one for each. -/
structure Flights (asks : PacketDescriptor → Nat → Prop) (client : ClientWorld Unit (Fin n)) :
    Prop where
  cache : client.cache.length = 128
  flying : client.flying.Perm client.pending
  slots : ∀ index, (client.requests index).status = .raw ∨ Busy asks client index
  submitted : ∀ item ∈ (client.sessions ()).submitted, asks item.packet item.ticket.serial

variable {asks : PacketDescriptor → Nat → Prop} {client : ClientWorld Unit (Fin n)}
  {index : Fin n}

theorem flight_raw {c : ClientRequest Unit} (raw : c.status = .raw) : flight c = none := by
  simp [flight, raw]

theorem Flights.busy (flights : Flights asks client)
    (pending : (client.requests index).status = .pending) : Busy asks client index := by
  rcases flights.slots index with raw | busy
  · rw [raw] at pending
    cases pending
  · exact busy

theorem Busy.flight {serial : Nat} (busy : Busy asks client index)
    (ticket : (client.requests index).ticket = some ⟨serial, ()⟩) :
    flight (client.requests index) = some (index.val, serial) := by
  simp [Block.flight, busy.status, ticket, busy.tag]

theorem Flights.mem_pending (flights : Flights asks client) {item : Nat × Nat} :
    item ∈ client.pending ↔ ∃ index : Fin n, item.1 = index.val ∧
      (client.requests index).status = .pending ∧
      (client.requests index).ticket = some ⟨item.2, ()⟩ := by
  unfold ClientWorld.pending Slots.held
  rw [List.mem_filterMap]
  constructor
  · rintro ⟨index, _, found⟩
    rcases flights.slots index with raw | busy
    · rw [flight_raw raw] at found
      cases found
    · obtain ⟨serial, ticket, _⟩ := busy.ticket
      rw [busy.flight ticket, Option.some.injEq] at found
      subst found
      exact ⟨index, rfl, busy.status, ticket⟩
  · rintro ⟨index, tag, status, ticket⟩
    refine ⟨index, List.mem_finRange index, ?_⟩
    rw [(flights.busy status).flight ticket, ← tag]

/-- Each tag is under way once. -/
theorem Flights.distinct (flights : Flights asks client) :
    (client.flying.map Prod.fst).Nodup := by
  rw [(flights.flying.map Prod.fst).nodup_iff]
  unfold ClientWorld.pending Slots.held
  rw [List.map_filterMap]
  refine List.Nodup.filterMap ?_ (List.nodup_finRange n)
  intro first second tag one other
  have owner (index : Fin n) (found : tag ∈ (flight (client.requests index)).map Prod.fst) :
      tag = index.val := by
    rcases flights.slots index with raw | busy
    · rw [flight_raw raw] at found
      cases found
    · obtain ⟨serial, ticket, _⟩ := busy.ticket
      rw [busy.flight ticket] at found
      exact (Option.some.inj found).symm
  exact Fin.ext ((owner first one).symm.trans (owner second other))

theorem Flights.length_flying (flights : Flights asks client) : client.flying.length ≤ n := by
  rw [flights.flying.length_eq]
  have bound := List.length_filterMap_le (fun slot => flight (client.requests slot))
    (List.finRange n)
  rw [List.length_finRange] at bound
  exact bound

theorem entries_unfilled (count : Nat) :
    entries (List.replicate count (none : RequestHandle Unit)) = [] := by
  unfold entries
  rw [List.filterMap_eq_nil_iff]
  intro handle member
  exact List.eq_of_mem_replicate member

theorem flights_initial (tag : Nat) (device : Option Nat) :
    Flights asks ((ClientWorld.initial : ClientWorld Unit (Fin n)).initializeSession () tag
      device) := by
  have nothing : entries (ClientWorld.initial : ClientWorld Unit (Fin n)).cache = [] :=
    entries_unfilled 128
  have unused : Slots.held (List.finRange n) flight
      (ClientWorld.initial : ClientWorld Unit (Fin n)).requests = [] := by
    unfold Slots.held
    rw [List.filterMap_eq_nil_iff]
    exact fun index _ => flight_raw rfl
  have silent (session : ClientSession Unit) (submitted : session.submitted = [])
      (acked : session.acked = []) :
      Flights asks ((ClientWorld.initial : ClientWorld Unit (Fin n)).setSession () session) := by
    refine ⟨List.length_replicate, ?_, fun index => Or.inl rfl, ?_⟩
    · unfold ClientWorld.flying ClientWorld.pending
      simp only [ClientWorld.setSession, Function.update_self, submitted, acked, nothing]
      rw [unused]
      exact List.Perm.refl _
    · intro item member
      simp only [ClientWorld.setSession, Function.update_self, submitted] at member
      cases member
  cases device with
  | none => exact silent _ rfl rfl
  | some size => exact silent _ rfl rfl

/-! The device answers a packet. -/

theorem Busy.congr {after : ClientWorld Unit (Fin n)} (busy : Busy asks client index)
    (request : after.requests index = client.requests index)
    (tag : (after.sessions ()).tag = (client.sessions ()).tag) : Busy asks after index := by
  obtain ⟨status, own, assigned, ticket⟩ := busy
  refine ⟨by rw [request]; exact status, by rw [request]; exact own, ?_,
    by rw [request]; exact ticket⟩
  rw [request]
  simp only [ClientSession.assigned, decide_eq_true_eq] at assigned ⊢
  exact tag.trans assigned

/-- What the answer to a packet changes. -/
theorem acknowledge_cases (client : ClientWorld Unit (Fin n)) (place : Nat) (success : Bool) :
    ((client.sessions ()).submitted[place]? = none ∧
      client.acknowledge () place success = client) ∨
    ∃ item before behind,
      (client.sessions ()).submitted[place]? = some item ∧
      (client.sessions ()).submitted = before ++ item :: behind ∧
      let ack : Acknowledged Unit := ⟨item.packet.tag, success, item.ticket⟩
      client.acknowledge () place success =
        { client.setSession () { client.sessions () with
            submitted := before ++ behind
            acked := (client.sessions ()).acked ++ [ack] } with
          acknowledged := client.acknowledged ++ [((), ack)] } := by
  unfold ClientWorld.acknowledge
  cases found : (client.sessions ()).submitted[place]? with
  | none => exact Or.inl ⟨rfl, rfl⟩
  | some item =>
      obtain ⟨bound, same⟩ := List.getElem?_eq_some_iff.mp found
      refine Or.inr ⟨item, (client.sessions ()).submitted.take place,
        (client.sessions ()).submitted.drop (place + 1), rfl, ?_, ?_⟩
      · rw [← same, ← List.drop_eq_getElem_cons bound]
        exact (List.take_append_drop _ _).symm
      · simp only [List.eraseIdx_eq_take_drop_succ]

theorem Flights.acknowledge (flights : Flights asks client) (place : Nat) (success : Bool) :
    Flights asks (client.acknowledge () place success) ∧
      (client.acknowledge () place success).flying.Perm client.flying := by
  rcases acknowledge_cases client place success with
    ⟨_, same⟩ | ⟨item, before, behind, _, split, same⟩
  · rw [same]
    exact ⟨flights, List.Perm.refl _⟩
  · rw [same]
    have moved : ({ client.setSession () { client.sessions () with
          submitted := before ++ behind
          acked := (client.sessions ()).acked ++ [⟨item.packet.tag, success, item.ticket⟩] } with
        acknowledged := client.acknowledged ++
          [((), ⟨item.packet.tag, success, item.ticket⟩)] } :
          ClientWorld Unit (Fin n)).flying.Perm client.flying := by
      unfold ClientWorld.flying
      simp only [ClientWorld.setSession, Function.update_self, split, List.map_append,
        List.map_cons, List.map_nil, List.append_assoc]
      refine List.Perm.append_left _ ?_
      rw [List.cons_append]
      refine List.Perm.trans ?_ List.perm_middle
      refine List.Perm.append_left _ ?_
      rw [← List.append_assoc]
      exact List.perm_append_comm
    refine ⟨⟨flights.cache, moved.trans flights.flying, ?_, ?_⟩, moved⟩
    · intro index
      rcases flights.slots index with raw | busy
      · exact Or.inl raw
      · refine Or.inr (busy.congr rfl ?_)
        simp only [ClientWorld.setSession, Function.update_self]
    · intro other member
      simp only [ClientWorld.setSession, Function.update_self] at member
      refine flights.submitted other ?_
      rw [split]
      rcases List.mem_append.mp member with first | later
      · exact List.mem_append_left _ first
      · exact List.mem_append_right _ (List.mem_cons_of_mem _ later)

/-! The component allocates a request, or fails to, and sends it. -/

theorem pending_setRequest (client : ClientWorld Unit (Fin n)) (index : Fin n)
    (c : ClientRequest Unit) :
    ((flight (client.requests index)).toList ++ (client.setRequest index c).pending).Perm
      ((flight c).toList ++ client.pending) :=
  Slots.held_update (List.finRange n) (List.nodup_finRange n) flight client.requests index
    (List.mem_finRange index) c

theorem Flights.slots_setRequest (flights : Flights asks client) (index : Fin n)
    (c : ClientRequest Unit) (other : Fin n) (different : other ≠ index) :
    ((client.setRequest index c).requests other).status = .raw ∨
      Busy asks (client.setRequest index c) other := by
  have same : (client.setRequest index c).requests other = client.requests other :=
    Function.update_of_ne different _ _
  rw [same]
  exact (flights.slots other).imp_right fun busy => busy.congr same rfl

theorem Flights.setRaw (flights : Flights asks client)
    (raw : (client.requests index).status = .raw) (c : ClientRequest Unit)
    (unused : c.status = .raw) : Flights asks (client.setRequest index c) := by
  refine ⟨flights.cache, ?_, ?_, flights.submitted⟩
  · have moved := pending_setRequest client index c
    rw [flight_raw raw, flight_raw unused] at moved
    exact flights.flying.trans moved.symm
  · intro other
    by_cases here : other = index
    · rw [here]
      exact Or.inl ((congrArg _ (Function.update_self index c client.requests)).trans unused)
    · exact flights.slots_setRequest index c other here

theorem Flights.enqueue (flights : Flights asks client)
    (raw : (client.requests index).status = .raw) (c : ClientRequest Unit)
    (tag : c.packet.tag = index.val) (assigned : (client.sessions ()).assigned c = true)
    (asked : asks c.packet client.enqueued) :
    Flights asks ((client.setRequest index c).enqueue () index) ∧
      ((client.setRequest index c).enqueue () index).flying.Perm
        ((index.val, client.enqueued) :: client.flying) := by
  let sent : ClientRequest Unit :=
    { c with status := .pending, ticket := some ⟨client.enqueued, ()⟩ }
  have request : (client.setRequest index c).requests index = c := Function.update_self _ _ _
  have requests : ((client.setRequest index c).enqueue () index).requests =
      (client.setRequest index sent).requests := by
    simp only [ClientWorld.enqueue, ClientWorld.setRequest, ClientWorld.setSession,
      Function.update_self, Function.update_idem, sent]
  have submitted : (((client.setRequest index c).enqueue () index).sessions ()).submitted =
      (client.sessions ()).submitted ++ [⟨c.packet, ⟨client.enqueued, ()⟩⟩] := by
    simp only [ClientWorld.enqueue, ClientWorld.setRequest, ClientWorld.setSession,
      Function.update_self]
  have acked : (((client.setRequest index c).enqueue () index).sessions ()).acked =
      (client.sessions ()).acked := by
    simp only [ClientWorld.enqueue, ClientWorld.setRequest, ClientWorld.setSession,
      Function.update_self]
  have tags : (((client.setRequest index c).enqueue () index).sessions ()).tag =
      (client.sessions ()).tag := by
    simp only [ClientWorld.enqueue, ClientWorld.setRequest, ClientWorld.setSession,
      Function.update_self]
  have flown : ((client.setRequest index c).enqueue () index).flying.Perm
      ((index.val, client.enqueued) :: client.flying) := by
    unfold ClientWorld.flying
    rw [submitted, acked, List.map_append, List.append_assoc, List.map_singleton, tag]
    exact List.perm_middle
  have pending : ((client.setRequest index c).enqueue () index).pending.Perm
      ((index.val, client.enqueued) :: client.pending) := by
    have moved := pending_setRequest client index sent
    have own : flight sent = some (index.val, client.enqueued) := by
      simp [flight, sent, tag]
    rw [flight_raw raw, own] at moved
    rw [ClientWorld.pending, requests]
    exact moved
  refine ⟨⟨flights.cache, ?_, ?_, ?_⟩, flown⟩
  · exact flown.trans ((flights.flying.cons _).trans pending.symm)
  · intro other
    rw [requests]
    by_cases here : other = index
    · have own : ((client.setRequest index c).enqueue () index).requests index = sent := by
        rw [requests]
        exact Function.update_self _ _ _
      rw [here]
      refine Or.inr ⟨by rw [own], by rw [own]; exact tag, ?_, ?_⟩
      · rw [own]
        simp only [ClientSession.assigned, decide_eq_true_eq] at assigned ⊢
        rw [tags]
        exact assigned
      · rw [own]
        exact ⟨client.enqueued, rfl, asked⟩
    · have same : (client.setRequest index sent).requests other = client.requests other :=
        Function.update_of_ne here _ _
      rw [same]
      refine (flights.slots other).imp_right fun busy => busy.congr ?_ tags
      rw [requests]
      exact same
  · intro item member
    rw [submitted] at member
    rcases List.mem_append.mp member with before | new
    · exact flights.submitted item before
    · rw [List.mem_singleton.mp new]
      exact asked

/-! `Update_Request`. -/

/-- What `Update_Request` makes of the client. -/
structure Collected (client after : ClientWorld Unit (Fin n)) (index : Fin n)
    (removed : List (Acknowledged Unit)) : Prop where
  requests : after.requests = Function.update client.requests index
    (settled (client.requests index) removed)
  submitted : (after.sessions ()).submitted = (client.sessions ()).submitted
  device : (after.sessions ()).device = (client.sessions ()).device
  size : (after.sessions ()).blockSize = (client.sessions ()).blockSize
  tag : (after.sessions ()).tag = (client.sessions ()).tag
  conserved : (entries client.cache ++ (client.sessions ()).acked).Perm
    (entries after.cache ++ (after.sessions ()).acked ++ removed)
  own : ∀ ack ∈ removed, ack.tag = (client.requests index).packet.tag
  cache : after.cache.length = client.cache.length
  enqueued : after.enqueued = client.enqueued
  acknowledged : after.acknowledged = client.acknowledged

/-- The loop leaves in the queue what the free entries of the cache cannot take. -/
theorem updateFrom_rest {Session : Type} (cache : List (RequestHandle Session))
    (acked : List (Acknowledged Session)) (request : ClientRequest Session) :
    (updateFrom cache acked request).2.1 = acked.drop (cache.countP (·.isNone)) := by
  induction cache generalizing acked request with
  | nil => rfl
  | cons handle cache ih =>
      cases handle with
      | some ack =>
          rw [List.countP_cons_of_neg (by simp)]
          exact ih acked _
      | none =>
          rw [List.countP_cons_of_pos rfl]
          cases acked with
          | nil =>
              rw [List.drop_nil]
              exact (ih [] _).trans List.drop_nil
          | cons ack rest =>
              rw [List.drop_succ_cons]
              exact ih rest _

theorem countP_add_entries {Session : Type} (cache : List (RequestHandle Session)) :
    cache.countP (·.isNone) + (entries cache).length = cache.length := by
  induction cache with
  | nil => rfl
  | cons handle cache ih =>
      rw [entries_cons, List.length_append, List.length_cons]
      cases handle with
      | none =>
          rw [List.countP_cons_of_pos rfl, Option.toList_none, List.length_nil]
          omega
      | some ack =>
          rw [List.countP_cons_of_neg (by simp), Option.toList_some, List.length_singleton]
          omega

/-- The answers that the cache has room for are all found. -/
theorem updateRequest_collected (client : ClientWorld Unit (Fin n)) (index : Fin n) :
    ∃ removed, Collected client (client.updateRequest () index) index removed ∧
      ((entries client.cache ++ (client.sessions ()).acked).length ≤ client.cache.length →
        ∀ ack ∈ entries client.cache ++ (client.sessions ()).acked,
          ack.tag = (client.requests index).packet.tag → ack ∈ removed) := by
  obtain ⟨filled, rest, filling, loop⟩ := updateFrom_filled client.cache
    (client.sessions ()).acked (client.requests index)
  have conserved := filling.conserves (client.requests index).packet.tag
  refine ⟨(entries filled).filter (answers (client.requests index).packet.tag),
    ⟨?_, ?_, ?_, ?_, ?_, ?_, ?_, ?_, ?_, ?_⟩, ?_⟩
  · simp only [ClientWorld.updateRequest, loop, ClientWorld.setRequest, ClientWorld.setSession]
  · simp only [ClientWorld.updateRequest, loop, ClientWorld.setRequest, ClientWorld.setSession,
      Function.update_self]
  · simp only [ClientWorld.updateRequest, loop, ClientWorld.setRequest, ClientWorld.setSession,
      Function.update_self]
  · simp only [ClientWorld.updateRequest, loop, ClientWorld.setRequest, ClientWorld.setSession,
      Function.update_self]
  · simp only [ClientWorld.updateRequest, loop, ClientWorld.setRequest, ClientWorld.setSession,
      Function.update_self]
  · simp only [ClientWorld.updateRequest, loop, ClientWorld.setRequest, ClientWorld.setSession,
      Function.update_self]
    exact conserved
  · exact fun ack member => decide_eq_true_eq.mp (List.mem_filter.mp member).2
  · simp only [ClientWorld.updateRequest, loop, ClientWorld.setRequest, List.length_map]
    exact filling.length
  · simp only [ClientWorld.updateRequest, loop, ClientWorld.setRequest, ClientWorld.setSession]
  · simp only [ClientWorld.updateRequest, loop, ClientWorld.setRequest, ClientWorld.setSession]
  · intro room ack member tag
    have left := updateFrom_rest client.cache (client.sessions ()).acked (client.requests index)
    have free := countP_add_entries client.cache
    rw [List.length_append] at room
    rw [loop, List.drop_eq_nil_of_le (by omega)] at left
    simp only at left
    rw [left, List.append_nil] at conserved
    rcases List.mem_append.mp (conserved.mem_iff.mp member) with other | found
    · rw [entries_cleared, List.mem_filter] at other
      simp [answers, tag] at other
    · exact found

theorem Collected.flying {after : ClientWorld Unit (Fin n)}
    {removed : List (Acknowledged Unit)} (collected : Collected client after index removed) :
    client.flying.Perm
      (after.flying ++ removed.map fun ack => (ack.tag, ack.ticket.serial)) := by
  unfold ClientWorld.flying
  rw [collected.submitted, List.append_assoc, ← List.map_append]
  exact (collected.conserved.map _).append_left _

theorem Collected.initialized {after : ClientWorld Unit (Fin n)}
    {removed : List (Acknowledged Unit)} (collected : Collected client after index removed) :
    (after.sessions ()).initialized = (client.sessions ()).initialized := by
  rw [ClientSession.initialized, ClientSession.initialized, collected.device, collected.tag]

/-- A request finds no answer, or the one to its own packet. -/
theorem Flights.removed_cases (flights : Flights asks client)
    (pending : (client.requests index).status = .pending) {after : ClientWorld Unit (Fin n)}
    {removed : List (Acknowledged Unit)} (collected : Collected client after index removed) :
    removed = [] ∨ ∃ ack, removed = [ack] ∧ (client.requests index).ticket = some ack.ticket := by
  have busy := flights.busy pending
  have own (ack : Acknowledged Unit) (member : ack ∈ removed) : ack.tag = index.val :=
    (collected.own ack member).trans busy.tag
  have distinct := (collected.flying.map Prod.fst).nodup_iff.mp flights.distinct
  rw [List.map_append, List.map_map, List.nodup_append] at distinct
  have once := distinct.2.1
  cases removed with
  | nil => exact Or.inl rfl
  | cons first rest =>
      right
      refine ⟨first, ?_, ?_⟩
      · cases rest with
        | nil => rfl
        | cons second rest =>
            rw [List.map_cons, List.nodup_cons] at once
            refine absurd ?_ once.1
            simp [own first List.mem_cons_self,
              own second (List.mem_cons_of_mem _ List.mem_cons_self)]
      · have flown : (first.tag, first.ticket.serial) ∈ client.flying :=
          collected.flying.mem_iff.mpr (List.mem_append_right _ (by simp))
        obtain ⟨other, tag, _, ticket⟩ :=
          flights.mem_pending.mp (flights.flying.mem_iff.mp flown)
        obtain rfl : other = index := Fin.ext (tag.symm.trans (own first List.mem_cons_self))
        exact ticket

theorem Flights.unanswered (flights : Flights asks client) {after : ClientWorld Unit (Fin n)}
    (collected : Collected client after index []) :
    Flights asks after ∧ client.flying.Perm after.flying := by
  have flying := collected.flying
  rw [List.map_nil, List.append_nil] at flying
  have same : after.requests = client.requests := by
    rw [collected.requests]
    exact Function.update_eq_self _ _
  refine ⟨⟨collected.cache.trans flights.cache, ?_, ?_, ?_⟩, flying⟩
  · rw [ClientWorld.pending, same]
    exact flying.symm.trans flights.flying
  · intro other
    rw [same]
    exact (flights.slots other).imp_right fun busy => busy.congr (by rw [same]) collected.tag
  · rw [collected.submitted]
    exact flights.submitted

/-- Once the answer was taken, the request is released. -/
theorem Flights.released (flights : Flights asks client)
    (pending : (client.requests index).status = .pending) {after : ClientWorld Unit (Fin n)}
    {ack : Acknowledged Unit} (collected : Collected client after index [ack])
    (c : ClientRequest Unit) (raw : c.status = .raw) :
    Flights asks (after.setRequest index c) ∧
      client.flying.Perm ((ack.tag, ack.ticket.serial) :: (after.setRequest index c).flying) := by
  have busy := flights.busy pending
  have flying : client.flying.Perm
      ((ack.tag, ack.ticket.serial) :: (after.setRequest index c).flying) :=
    collected.flying.trans List.perm_append_comm
  have requests : (after.setRequest index c).requests =
      (client.setRequest index c).requests := by
    simp only [ClientWorld.setRequest, collected.requests, Function.update_idem]
  have ticket : (client.requests index).ticket = some ack.ticket := by
    rcases flights.removed_cases pending collected with none_ | ⟨other, one, ticket⟩
    · cases none_
    · cases one
      exact ticket
  have moved := pending_setRequest client index c
  rw [busy.flight ticket, flight_raw raw] at moved
  have tag : ack.tag = index.val := (collected.own ack List.mem_cons_self).trans busy.tag
  refine ⟨⟨collected.cache.trans flights.cache, ?_, ?_, ?_⟩, flying⟩
  · rw [ClientWorld.pending, requests]
    rw [tag] at flying
    exact ((flying.symm.trans flights.flying).trans moved.symm).cons_inv
  · intro other
    rw [requests]
    by_cases here : other = index
    · rw [here]
      exact Or.inl ((congrArg _ (Function.update_self index c client.requests)).trans raw)
    · refine (flights.slots_setRequest index c other here).imp_right fun busy => ?_
      exact busy.congr (by rw [requests]) collected.tag
  · intro item member
    exact flights.submitted item (collected.submitted ▸ member)

end Gneiss.Genode.Block
