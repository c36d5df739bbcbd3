import Gneiss.Component.Soundness

/-!
Every operation of a component keeps its epoll set sound. The only one that does not is the
`Dispatch_Error` of a log dispatcher, which closes the epoll descriptor and with it the set.
-/

namespace Gneiss.Component

open Descriptors Registry Runs

variable {world : World}

theorem requestFd_spent (kind : ServiceKind) (cap : DispatcherCapability) :
    requestFd kind cap true = -1 := by
  simp [requestFd]

theorem memoryFd_spent (kind : ServiceKind) (cap : DispatcherCapability) :
    memoryFd kind cap true = -1 := by
  simp [memoryFd]

/-! A descriptor that the broker sends can be stored anywhere. -/

structure Obtained (stored : Place → Int) (table : Table) (fd : Int) : Prop where
  kept : Owned table stored
  assigned : ∀ place, Owned table (Function.update stored place fd)
  different : valid fd = true → ∀ place, stored place ≠ fd

theorem Obtained.opened {stored : Place → Int} {table : Table} {fd : Int}
    (obtained : Obtained stored table fd)
    (open_ : valid fd = true) : fd ∈ table.opened := by
  have member := (obtained.assigned .epoll).opened .epoll
  rw [Function.update_self] at member
  exact member open_

theorem obtained_nothing {stored : Place → Int} {table : Table} (kept : Owned table stored) :
    Obtained stored table (-1) :=
  ⟨kept, fun place => kept.clear place, fun open_ => by simp at open_⟩

theorem Sound.receive_kept (sound : Sound world) (offered : List Int) :
    Owned (world.table.receive offered).1 world.stored :=
  sound.owned.receive [] offered

/-- The table and the descriptor after a message was received, or after none was. -/
def Arrives (table later : Table) (fd : Int) : Prop :=
  ∃ offered, later = (table.receive offered).1 ∧
    (fd = -1 ∨ fd = (table.receive offered).2.headD (-1))

theorem Sound.obtained (sound : Sound world) {table : Table} {fd : Int}
    (arrives : Arrives world.table table fd) : Obtained world.stored table fd := by
  obtain ⟨offered, rfl, rfl | rfl⟩ := arrives
  · exact obtained_nothing (sound.receive_kept offered)
  · have kept := sound.receive_kept offered
    cases received : (world.table.receive offered).2 with
    | nil => exact obtained_nothing kept
    | cons fd rest =>
        refine ⟨kept, ?_, ?_⟩
        · intro place
          have assigned := sound.owned.receive [some place] offered
          rw [received] at assigned
          cases rest <;> exact assigned
        · intro open_ place
          apply sound.owned.ne_of_fresh open_
          exact received_fresh world.table offered fd open_ (by simp [received])

theorem World.install_received (world : World) (num : Nat) (reply : Reply) :
    world.table.receive (world.install num reply).2 =
      ((world.install num reply).1.table, (world.install num reply).2) :=
  receive_filter _ _

theorem install_arrives (world : World) (reply : Reply) :
    Arrives world.table (world.install 1 reply).1.table
      ((reply.slots 1 (world.install 1 reply).2).headD (-1)) := by
  refine ⟨(world.install 1 reply).2, ?_, Or.inr ?_⟩
  · rw [world.install_received 1 reply]
  · rw [world.install_received 1 reply, Reply.slots_one]

theorem requestSession_arrives (world : World) (kind : KindType) (label : Text) (reply : Reply) :
    ∃ table sent fd, world.requestSession kind label reply = ({ world with table, sent }, fd) ∧
      Arrives world.table table fd := by
  have arrives := install_arrives world reply
  unfold World.requestSession
  split
  · exact ⟨world.table, world.sent, -1, rfl, [], rfl, Or.inl rfl⟩
  · simp only [World.send]
    split
    · exact ⟨_, _, _, rfl, arrives⟩
    · obtain ⟨offered, later, _⟩ := arrives
      exact ⟨_, _, _, rfl, offered, later, Or.inl rfl⟩

theorem registerService_arrives (world : World) (brokerFd : Int) (kind : KindType)
    (reply : Reply) :
    ∃ table sent fd,
      world.registerService brokerFd kind reply = ({ world with table, sent }, fd) ∧
        Arrives world.table table fd := by
  have arrives := install_arrives world reply
  by_cases granted : (reply.isOf kind &&
      valid ((reply.slots 1 (world.install 1 reply).2).headD (-1))) = true
  · refine ⟨_, world.sent ++ [⟨brokerFd, .register, kind, [], [], []⟩], _, ?_, arrives⟩
    exact if_pos granted
  · obtain ⟨offered, later, _⟩ := arrives
    refine ⟨_, world.sent ++ [⟨brokerFd, .register, kind, [], [], []⟩], _, ?_, offered, later,
      Or.inl rfl⟩
    exact if_neg granted

theorem World.add_granted (world : World) (fd : Int) (ref : Ref) (exists_ : world.epollOpen = true)
    (opened : fd ∈ world.table.opened) :
    world.add world.epollFd fd ref true =
      ({ world with registrations := (fd, ref) :: world.registrations }, true) :=
  if_pos ⟨rfl, rfl, exists_, opened⟩

theorem World.add_refused (world : World) (efd fd : Int) (ref : Ref) :
    world.add efd fd ref false = (world, false) :=
  if_neg fun granted => nomatch granted.1

/-! The operations on client sessions. -/

theorem ClientSession.active_of_initialized {kind : ClientKind} {session : ClientSession}
    (initialized : session.initialized kind = true) : session.active kind = some session.fd :=
  if_pos initialized

theorem ClientSession.active_of_uninitialized {kind : ClientKind} {session : ClientSession}
    (initialized : session.initialized kind = false) : session.active kind = none := by
  simp [ClientSession.active, initialized]

theorem Sound.backed_client (sound : Sound world) (id : ClientId)
    (idle : (world.clients id).initialized id.kind = false) (value : Option Int) :
    Backed (Function.update world.active (.client id) value) world.registrations := by
  have inactive : world.active (.client id) = none := ClientSession.active_of_uninitialized idle
  exact sound.backed.update inactive value

/-- `Initialize` failed to register the descriptor it got, and closes it. -/
theorem Sound.initialize_refused (sound : Sound world) (id : ClientId) {table : Table}
    {fd : Int} (obtained : Obtained world.stored table fd) (open_ : valid fd = true)
    (idle : (world.clients id).initialized id.kind = false) :
    Sound ({ world with table := table.close fd }.setClient id
      { world.clients id with eCap := .invalid }) := by
  have uninitialized : ({ world.clients id with eCap := .invalid } : ClientSession).initialized
      id.kind = false := by
    simp [ClientSession.initialized, EventCap.valid, EventCap.invalid]
  have inactive := ClientSession.active_of_uninitialized uninitialized
  refine sound.setClient id _ ?_ ?_ ?_ ?_
  · have unchanged : (world.clients id).fd = world.stored (.client id) := rfl
    rw [unchanged, Function.update_eq_self]
    apply obtained.kept.of_opened
    intro place stored member
    rw [mem_close table fd _ stored]
    exact ⟨member, obtained.different open_ place⟩
  · rw [inactive]
    exact sound.backed_client id idle none
  · rw [inactive]
    intro _ called
    cases called
  · rw [uninitialized]
    intro initialized
    cases initialized

theorem Sound.initialize_granted (sound : Sound world) (id : ClientId) (index : Nat)
    {table : Table} {fd : Int} (obtained : Obtained world.stored table fd) (open_ : valid fd = true)
    (idle : (world.clients id).initialized id.kind = false)
    (supported : id.kind.supported = true) :
    Sound ({ world with
      table
      registrations := (fd, .client id) :: world.registrations }.setClient id
        ⟨fd, world.epollFd, some index, clientCap id fd⟩) := by
  have initialized : (⟨fd, world.epollFd, some index, clientCap id fd⟩ :
      ClientSession).initialized id.kind = true := by
    simp [ClientSession.initialized, open_, sound.epoll, supported, EventCap.valid, clientCap,
      EventCap.create]
  have active := ClientSession.active_of_initialized initialized
  refine sound.setClient id _ (obtained.assigned (.client id)) ?_ ?_ ?_
  · rw [active]
    exact (sound.backed_client id idle (some fd)).cons (Function.update_self ..)
  · rw [active]
    intro other called
    cases called
    rfl
  · exact fun _ => rfl

theorem Sound.initializeClient (sound : Sound world) (id : ClientId) (label : Text)
    (index : Nat) (reply : Reply) (granted : Bool) :
    Sound (world.initializeClient id label index reply granted) := by
  obtain ⟨table, sent, fd, result, arrives⟩ :=
    requestSession_arrives world id.kind.protocol label reply
  have obtained := sound.obtained arrives
  simp only [World.initializeClient, result]
  split
  · exact sound
  · rename_i begun
    simp only [Bool.or_eq_true, not_or, Bool.not_eq_true, Bool.not_eq_true',
      Bool.not_eq_false] at begun
    obtain ⟨⟨idle, _⟩, supported⟩ := begun
    have sent_ := sound.withSent sent
    by_cases open_ : valid fd = true
    · have opened := obtained.opened open_
      have different : fd ≠ world.epollFd := fun same => obtained.different open_ .epoll same.symm
      simp only [open_, Bool.true_eq_false, if_false]
      cases granted with
      | true =>
          rw [World.add_granted]
          case exists_ => exact sound.exists_
          case opened => exact opened
          simp only [Bool.true_eq_false, if_false]
          simpa only [World.setClient, Function.update_idem] using
            sent_.initialize_granted id index obtained open_ idle supported
      | false =>
          simp only [World.add_refused, if_true]
          rw [Sound.close_ne]
          case different => exact different
          simpa only [World.setClient, Function.update_idem] using
            sent_.initialize_refused id obtained open_ idle
    · simp only [open_, if_true]
      exact sent_.withTable obtained.kept

theorem Sound.finalizeClient (sound : Sound world) (id : ClientId) :
    Sound (world.finalizeClient id) := by
  unfold World.finalizeClient
  by_cases initialized : (world.clients id).initialized id.kind = true
  · have active : world.active (.client id) = some (world.clients id).fd :=
      ClientSession.active_of_initialized initialized
    have open_ : valid (world.clients id).fd = true := by
      simp only [ClientSession.initialized, Bool.and_eq_true] at initialized
      exact initialized.1.1.1.1
    have opened : (world.clients id).fd ∈ world.table.opened :=
      sound.owned.opened (.client id) open_
    have different : (world.clients id).fd ≠ world.epollFd := sound.ne_epoll (.client id) (by simp)
    simp only [initialized, Bool.true_eq_false, if_false]
    rw [sound.remove_eq (sound.clientEfd id initialized) opened, Sound.close_ne]
    case different => exact different
    refine sound.setClient id _ (sound.owned.release (.client id)) ?_ ?_ ?_
    · exact sound.backed.remove active _
    · intro _ called
      cases called
    · intro initialized
      cases initialized
  · simp only [initialized, if_true]
    exact sound

/-! The operations on dispatchers. -/

theorem Sound.initializeDispatcher (sound : Sound world) (id : ServiceId) (index : Nat) :
    Sound (world.initializeDispatcher id index) := by
  simp only [World.initializeDispatcher]
  split
  · exact sound
  · exact sound.retuneDispatcher id _ rfl rfl fun _ => rfl

theorem Sound.register (sound : Sound world) (id : ServiceId) (reply : Reply)
    (granted : Bool) : Sound (world.register id reply granted) := by
  obtain ⟨table, sent, fd, result, arrives⟩ :=
    registerService_arrives world (world.dispatchers id).brokerFd id.kind.protocol reply
  have obtained := sound.obtained arrives
  simp only [World.register, result]
  split
  · exact sound
  · rename_i unregistered
    have idle : world.active (.dispatcher id) = none := if_neg unregistered
    have sent_ := sound.withSent sent
    split
    · rename_i open_
      have active : ({ world.dispatchers id with dispatchFd := fd, eCap := dispatchCap id fd } :
          DispatcherSession).active = some fd := if_pos open_
      have assigned := sent_.setDispatcher id
        { world.dispatchers id with dispatchFd := fd, eCap := dispatchCap id fd }
        (obtained.assigned (.dispatcher id)) (sound.backed.update idle _)
        (fun other called => by
          rw [active] at called
          cases called
          rfl)
        (sound.dispatcherEfd id)
      apply assigned.add
      rw [active_setDispatcher, Function.update_self, active]
    · rename_i failed
      refine sent_.setDispatcher id { world.dispatchers id with dispatchFd := fd }
        (obtained.assigned (.dispatcher id)) (sound.backed.update idle _) ?_
        (sound.dispatcherEfd id)
      intro other called
      simp [DispatcherSession.active, failed] at called

theorem Sound.reject (sound : Sound world) (id : ServiceId) (name label : SessionLabel) :
    Sound (world.reject id name label) := by
  simp only [World.reject]
  split
  · exact sound
  · exact sound.withSent _

theorem Sound.receiveDisconnect (sound : Sound world) (id : ServiceId) (fd : Int) :
    Sound (world.receiveDisconnect id fd) := by
  simp only [World.receiveDisconnect]
  split
  · exact sound
  · have nothing : validSessionRequest id.kind ⟨-1, -1, -1, fd, .empty, .empty⟩ = false := by
      cases kind : id.kind <;> simp [validSessionRequest]
    apply sound.setCapability
    simp only [requestFd, memoryFd, nothing, Bool.false_eq_true, false_and, and_false, if_false]
    exact (sound.owned.clear _).clear _

/-- The descriptors of a request are stored in its capability. -/
theorem Owned.request {table later : Table} {stored : Place → Int} (owned : Owned table stored)
    {arrived : List Int} (received : table.receive arrived = (later, arrived))
    (kind : ServiceKind) (id : ServiceId) (cap : DispatcherCapability)
    (request : validSessionRequest kind cap = true)
    (filled : ∀ slot < kind.slots, slot < arrived.length)
    (serverFd : cap.serverFd = arrived.getD 1 (-1))
    (memfd : kind = .memory → cap.memfd = arrived.getD 2 (-1)) :
    Owned later (Function.update
      (Function.update stored (.request id) (requestFd kind cap false))
        (.memory id) (memoryFd kind cap false)) := by
  have server : requestFd kind cap false = cap.serverFd := by simp [requestFd, request]
  have second := filled 1 kind.slots_bounds.1
  rw [server, serverFd]
  by_cases memory : kind = .memory
  · have third : memoryFd kind cap false = cap.memfd := if_pos ⟨rfl, request, memory⟩
    have last := filled 2 (by rw [memory]; decide)
    have assigned := owned.receive [none, some (.request id), some (.memory id)] arrived
    rw [received] at assigned
    rw [third, memfd memory]
    match arrived, last with
    | _ :: _ :: _ :: [], _ => exact assigned
    | _ :: _ :: _ :: _ :: _, _ => exact assigned
  · have third : memoryFd kind cap false = -1 := by simp [memoryFd, memory]
    have assigned := owned.receive [none, some (.request id)] arrived
    rw [received] at assigned
    rw [third]
    match arrived, second with
    | _ :: _ :: [], _ => exact assigned.clear (.memory id)
    | _ :: _ :: _ :: _, _ => exact assigned.clear (.memory id)

theorem Owned.noRequest {table : Table} {stored : Place → Int} (owned : Owned table stored)
    (kind : ServiceKind) (id : ServiceId) (cap : DispatcherCapability)
    (request : validSessionRequest kind cap = false) :
    Owned table (Function.update
      (Function.update stored (.request id) (requestFd kind cap false))
        (.memory id) (memoryFd kind cap false)) := by
  simp only [requestFd, memoryFd, request, Bool.false_eq_true, false_and, and_false, if_false]
  exact (owned.clear _).clear _

/-! What `Dispatch` is given. -/

theorem offered_nothing (kind : ServiceKind) (name label : SessionLabel) :
    validSessionRequest kind
      (offeredCapability kind name label (List.replicate kind.slots (-1))) = false := by
  cases kind <;> rfl

/-- A valid request has a descriptor that arrived, and either all of them did or the others are
stale words. -/
theorem request_filled {id : ServiceId} {action : ActionType} {name label : SessionLabel}
    {offered : List Int} {stale : Nat → Int} (serves : Serves world id) {arrived : List Int}
    (came : (world.install id.kind.slots ⟨.valid action id.kind.protocol name label, offered,
      stale⟩).2 = arrived)
    (request : validSessionRequest id.kind (offeredCapability id.kind name label
      (Reply.slots ⟨.valid action id.kind.protocol name label, offered, stale⟩ id.kind.slots
        arrived)) = true) :
    arrived ≠ [] ∧ ((∀ slot < id.kind.slots, slot < arrived.length) ∨
      Mixed world id ⟨.valid action id.kind.protocol name label, offered, stale⟩) := by
  obtain ⟨two, small⟩ := id.kind.slots_bounds
  have filled := (validSessionRequest_iff _ _ _ _).mp request
  have some_ : arrived ≠ [] := by
    rintro rfl
    have first := filled 0 (by omega)
    rw [Reply.slots_getD _ _ _ _ (by omega) small, if_pos rfl] at first
    cases first
  refine ⟨some_, ?_⟩
  by_cases all : id.kind.slots ≤ arrived.length
  · exact Or.inl fun slot bound => by omega
  · refine Or.inr ⟨serves, by simp [Reply.isOf], by rw [came]; exact some_,
      by rw [came]; omega, ?_⟩
    intro slot bound beyond
    rw [came] at beyond
    have word := filled slot bound
    rwa [Reply.slots_getD _ _ _ _ bound small, if_neg some_, if_neg (by omega)] at word

theorem World.receiveRequest_idle {id : ServiceId} (idle : ¬Serves world id) (reply : Reply) :
    world.receiveRequest id reply = world := by
  have guard : ((world.dispatchers id).initialized = false ||
      valid (world.dispatchers id).dispatchFd = false) = true := by
    simpa [Serves, DispatcherSession.registered, imp_iff_not_or] using idle
  simp only [World.receiveRequest, guard, if_true]

theorem Sound.receiveRequest (sound : Sound world) (id : ServiceId) (reply : Reply)
    (unmixed : ¬Mixed world id reply) : Sound (world.receiveRequest id reply) := by
  by_cases serves : Serves world id
  · have begun : Sound
        (world.setDispatcher id { world.dispatchers id with accepted := false }) :=
      sound.retuneDispatcher id _ rfl rfl (sound.dispatcherEfd id)
    have kept := begun.withTable (begun.receive_kept
      (reply.offered.take (Syscall.controlWords id.kind.slots)))
    have small := id.kind.slots_bounds.2
    obtain ⟨message, offered, stale⟩ := reply
    simp only [World.receiveRequest, serves.unguarded, Bool.false_eq_true, if_false]
    cases message with
    | invalid => exact kept
    | valid action kind name label =>
        apply kept.setCapability
        by_cases same : kind = id.kind.protocol
        · subst same
          simp only [if_true]
          generalize building : offeredCapability id.kind name label _ = cap
          by_cases request : validSessionRequest id.kind cap = true
          · rw [← building] at request
            obtain ⟨some_, all | mixed⟩ := request_filled serves rfl request
            · have slot := fun index (bound : index < id.kind.slots) =>
                (Reply.slots_getD ⟨.valid action id.kind.protocol name label, offered, stale⟩
                  id.kind.slots _ index bound small).trans
                  ((if_neg some_).trans (if_pos (all index bound)))
              rw [building] at request
              refine Owned.request begun.owned (World.install_received _ id.kind.slots _) id.kind
                id cap request all ?_ ?_
              · rw [← building]
                exact slot 1 id.kind.slots_bounds.1
              · intro memory
                rw [← building]
                exact (if_pos memory).trans (slot 2 (by rw [memory]; decide))
            · exact (unmixed mixed).elim
          · exact Owned.noRequest kept.owned id.kind id cap (by simpa using request)
        · rw [if_neg same]
          exact Owned.noRequest kept.owned id.kind id _ (offered_nothing id.kind name label)
  · rw [World.receiveRequest_idle serves]
    exact sound

/-! The operations on server sessions. -/

/-- Without its capability a descriptor is stored nowhere. -/
theorem Sound.spend (sound : Sound world) (capability : ServiceId) :
    Sound (world.setCapability capability (world.capability capability) true) := by
  apply sound.setCapability
  rw [requestFd_spent, memoryFd_spent]
  exact (sound.owned.clear _).clear _

/-- A server session takes over the descriptors of a capability. -/
theorem Sound.started (sound : Sound world) (capability id : ServiceId)
    (session : ServerSession)
    (event : world.stored (.request capability) = session.eventFd id.kind)
    (data : world.stored (.memory capability) = session.dataFd id.kind)
    (idle : (world.servers id).initialized id.kind = false)
    (issued : ∀ fd, session.active id.kind = some fd → Issued session.eCap fd (.server id)) :
    Sound ((world.setCapability capability (world.capability capability) true).setServer id
      session) := by
  have spent := sound.spend capability
  have inactive : world.active (.server id) = none := by
    simp [World.active, ServerSession.active, idle]
  refine spent.setServer id session ?_ (sound.backed.update inactive _) issued
  have moved := (sound.owned.move (.request capability) (.event id)).move
    (.memory capability) (.data id)
  rw [Function.update_of_ne (by simp), Function.update_of_ne (by simp), event, data] at moved
  have order : Place.memory capability ≠ Place.event id := by simp
  rw [stored_setCapability, requestFd_spent, memoryFd_spent, Function.update_comm order]
  exact moved

/-- A server session that could not be started closes them. -/
theorem Sound.abandoned (sound : Sound world) (capability id : ServiceId)
    (session : ServerSession) (event : session.eventFd id.kind = -1)
    (data : session.dataFd id.kind = -1) (uninitialized : session.initialized id.kind = false)
    (idle : (world.servers id).initialized id.kind = false) :
    Sound ({ world.setCapability capability (world.capability capability) true with
      table := (world.table.close (world.stored (.memory capability))).close
        (world.stored (.request capability)) }.setServer id session) := by
  have spent := sound.spend capability
  have inactive : world.active (.server id) = none := by
    simp [World.active, ServerSession.active, idle]
  have none_ : session.active id.kind = none := by
    simp [ServerSession.active, uninitialized]
  refine spent.setServer id session ?_ (sound.backed.update inactive _) ?_
  · have released := (sound.owned.release (.memory capability)).release (.request capability)
    rw [Function.update_of_ne (by simp), Function.update_comm (by simp)] at released
    rw [stored_setCapability, requestFd_spent, memoryFd_spent, event, data]
    exact (released.clear (.event id)).clear (.data id)
  · rw [none_]
    intro _ called
    cases called

theorem issued_server {session : ServerSession} {id dispatcher : ServiceId} {fd : Int}
    (eCap : session.eCap = serverCap id dispatcher (session.eventFd id.kind))
    (called : session.active id.kind = some fd) : Issued session.eCap fd (.server id) := by
  unfold ServerSession.active at called
  split at called
  · cases called
    exact ⟨dispatcher, eCap⟩
  · cases called

/-! Message and log sessions have one descriptor. -/

theorem eventFd_channel {kind : ServiceKind} (channel : kind ≠ .memory) (session : ServerSession) :
    session.eventFd kind = session.fd := by
  cases kind with
  | memory => exact (channel rfl).elim
  | _ => rfl

theorem dataFd_channel {kind : ServiceKind} (channel : kind ≠ .memory) (session : ServerSession) :
    session.dataFd kind = -1 := by
  cases kind with
  | memory => exact (channel rfl).elim
  | _ => rfl

theorem memoryFd_channel {kind : ServiceKind} (channel : kind ≠ .memory)
    (cap : DispatcherCapability) (spent : Bool) : memoryFd kind cap spent = -1 :=
  if_neg fun all => channel all.2.2

theorem initialized_closed {kind : ServiceKind} (channel : kind ≠ .memory)
    (session : ServerSession) :
    ({ session with fd := -1, index := none, eCap := .invalid } : ServerSession).initialized kind =
      false := by
  cases kind with
  | memory => exact (channel rfl).elim
  | _ => rfl

theorem sessionInitialize_channel (world : World) {kind : ServiceKind} (channel : kind ≠ .memory)
    (dispatcher capability server : Nat) (index : Nat) (map : Option Nat) (ready : Bool) :
    world.sessionInitialize kind dispatcher capability server index map ready =
      let cap := world.capability ⟨kind, capability⟩
      let session := world.servers ⟨kind, server⟩
      let eCap := serverCap ⟨kind, server⟩ ⟨kind, dispatcher⟩ cap.serverFd
      let world := world.setCapability ⟨kind, capability⟩ cap true
      if kind.supported = false then world
      else if ready then
        world.setServer ⟨kind, server⟩
          { session with fd := cap.serverFd, index := some index, eCap := eCap }
      else (world.close cap.serverFd).setServer ⟨kind, server⟩
        { session with fd := -1, index := none, eCap := .invalid } := by
  cases kind with
  | memory => exact (channel rfl).elim
  | _ => rfl

theorem Sound.sessionInitialize (sound : Sound world) (kind : ServiceKind)
    (dispatcher capability server : Nat) (index : Nat) (map : Option Nat) (ready : Bool)
    (request : validSessionRequest kind (world.capability ⟨kind, capability⟩) = true)
    (idle : (world.servers ⟨kind, server⟩).initialized kind = false)
    (once : world.spent ⟨kind, capability⟩ = false) :
    Sound (world.sessionInitialize kind dispatcher capability server index map ready) := by
  have event : world.stored (.request ⟨kind, capability⟩) =
      (world.capability ⟨kind, capability⟩).serverFd := if_pos ⟨once, request⟩
  have serverEnd : (world.capability ⟨kind, capability⟩).serverFd ≠ world.epollFd := by
    rw [← event]
    exact sound.ne_epoll _ (by simp)
  by_cases memory : kind = .memory
  · subst memory
    have data : world.stored (.memory ⟨.memory, capability⟩) =
        (world.capability ⟨.memory, capability⟩).memfd := if_pos ⟨once, request, rfl⟩
    have memoryEnd : (world.capability ⟨.memory, capability⟩).memfd ≠ world.epollFd := by
      rw [← data]
      exact sound.ne_epoll _ (by simp)
    simp only [World.sessionInitialize]
    split
    · refine (sound.mmap map).started _ _ _ event data idle ?_
      exact fun fd called => issued_server rfl called
    · rw [Sound.close_both]
      case firstEnd => exact memoryEnd
      case secondEnd => exact serverEnd
      rw [← event, ← data]
      exact (sound.mmap map).abandoned _ _ _ rfl rfl rfl idle
  · have data : world.stored (.memory ⟨kind, capability⟩) = -1 := memoryFd_channel memory _ _
    rw [sessionInitialize_channel world memory]
    split
    · exact sound.spend ⟨kind, capability⟩
    · split
      · refine sound.started ⟨kind, capability⟩ ⟨kind, server⟩ _ ?_ ?_ idle ?_
        · rw [eventFd_channel memory, event]
        · rw [dataFd_channel memory, data]
        · exact fun fd called => issued_server (by rw [eventFd_channel memory]) called
      · dsimp only
        rw [Sound.close_ne]
        case different => exact serverEnd
        have abandoned := sound.abandoned ⟨kind, capability⟩ ⟨kind, server⟩
          { world.servers ⟨kind, server⟩ with fd := -1, index := none, eCap := .invalid }
          (eventFd_channel memory _) (dataFd_channel memory _) (initialized_closed memory _) idle
        rw [event, data] at abandoned
        exact abandoned

theorem Sound.sessionAccept (sound : Sound world) (kind : ServiceKind)
    (dispatcher capability server : Nat) (granted : Bool)
    (initialized : (world.servers ⟨kind, server⟩).initialized kind = true) :
    Sound (world.sessionAccept kind dispatcher capability server granted) := by
  have active : world.active (.server ⟨kind, server⟩) =
      some ((world.servers ⟨kind, server⟩).eventFd kind) := if_pos initialized
  have added := sound.add (world.dispatchers ⟨kind, dispatcher⟩).efd granted active
  have same : ∀ efd fd ref, (world.add efd fd ref granted).1.dispatchers = world.dispatchers := by
    intro efd fd ref
    unfold World.add
    split <;> rfl
  have set : ∀ efd fd ref, (world.add efd fd ref granted).1.epollFd = world.epollFd := by
    intro efd fd ref
    unfold World.add
    split <;> rfl
  have accepted := added.retuneDispatcher ⟨kind, dispatcher⟩
    { world.dispatchers ⟨kind, dispatcher⟩ with accepted := true } (by rw [same]) (by rw [same])
    (by rw [set]; exact sound.dispatcherEfd ⟨kind, dispatcher⟩)
  exact accepted.withSent _

theorem eventFd_valid {kind : ServiceKind} {session : ServerSession}
    (initialized : session.initialized kind = true) : valid (session.eventFd kind) = true := by
  cases kind <;> simp_all [ServerSession.initialized, ServerSession.eventFd]

/-- A server session that is finalized closes its descriptors. -/
theorem Sound.stopped (sound : Sound world) (id : ServiceId) (session : ServerSession)
    (initialized : (world.servers id).initialized id.kind = true)
    (event : session.eventFd id.kind = -1) (data : session.dataFd id.kind = -1)
    (uninitialized : session.initialized id.kind = false) :
    Sound ({ world with
      table := (world.table.close (world.stored (.event id))).close
        (world.stored (.data id))
      registrations := world.registrations.filter fun entry =>
        entry.1 ≠ (world.servers id).eventFd id.kind }.setServer id session) := by
  have active : world.active (.server id) = some ((world.servers id).eventFd id.kind) :=
    if_pos initialized
  have none_ : session.active id.kind = none := by
    simp [ServerSession.active, uninitialized]
  refine sound.setServer id session ?_ (sound.backed.remove active _) ?_
  · have released := (sound.owned.release (.event id)).release (.data id)
    rw [Function.update_of_ne (by simp)] at released
    rw [event, data]
    exact released
  · rw [none_]
    intro _ called
    cases called

theorem Sound.sessionCleanup (sound : Sound world) (kind : ServiceKind)
    (dispatcher capability server : Nat)
    (serves : (world.dispatchers ⟨kind, dispatcher⟩).initialized = true) :
    Sound (world.sessionCleanup kind dispatcher capability server) := by
  have efd : (world.dispatchers ⟨kind, dispatcher⟩).efd = world.epollFd := by
    apply sound.dispatcherEfd
    simp only [DispatcherSession.initialized, Bool.and_eq_true] at serves
    exact serves.1.2
  by_cases cleans : (kind = .log ∨
      valid (world.capability ⟨kind, capability⟩).cleanFd = true) ∧
        (world.capability ⟨kind, capability⟩).cleanFd =
          (world.servers ⟨kind, server⟩).eventFd kind ∧
        (world.servers ⟨kind, server⟩).initialized kind = true
  · have initialized := cleans.2.2
    have opened : (world.servers ⟨kind, server⟩).eventFd kind ∈ world.table.opened :=
      sound.owned.opened (.event ⟨kind, server⟩) (eventFd_valid initialized)
    have eventEnd := sound.ne_epoll (.event ⟨kind, server⟩) (by simp)
    have dataEnd := sound.ne_epoll (.data ⟨kind, server⟩) (by simp)
    simp only [World.sessionCleanup, if_pos cleans, sound.remove_eq efd opened]
    split
    · rw [Sound.close_both]
      case firstEnd => exact eventEnd
      case secondEnd => exact dataEnd
      exact sound.stopped ⟨.memory, server⟩ _ initialized rfl rfl rfl
    · rename_i channel
      have stopped := sound.stopped ⟨kind, server⟩
        { world.servers ⟨kind, server⟩ with fd := -1, index := none, eCap := .invalid } initialized
        (eventFd_channel channel _) (dataFd_channel channel _) (initialized_closed channel _)
      have event : world.stored (.event ⟨kind, server⟩) =
          (world.servers ⟨kind, server⟩).fd := eventFd_channel channel _
      have data : world.stored (.data ⟨kind, server⟩) = -1 := dataFd_channel channel _
      rw [Sound.close_ne]
      case different => exact event ▸ eventEnd
      rw [event, data] at stopped
      exact stopped
  · simp only [World.sessionCleanup, if_neg cleans]
    exact sound

/-! An operation that ends the epoll set, and what follows it. -/

namespace Closed

theorem add (closed : Closed world) (efd fd : Int) (ref : Ref) (granted : Bool) :
    world.add efd fd ref granted = (world, false) := by
  apply if_neg
  rintro ⟨_, _, exists_, _⟩
  rw [closed.1] at exists_
  cases exists_

theorem remove (closed : Closed world) (efd fd : Int) : world.remove efd fd = world := by
  apply if_neg
  rintro ⟨_, exists_, _⟩
  rw [closed.1] at exists_
  cases exists_

theorem close (closed : Closed world) (fd : Int) : Closed (world.close fd) := by
  unfold World.close
  split
  · exact ⟨rfl, rfl⟩
  · exact closed

theorem setClient (closed : Closed world) (id : ClientId) (session : ClientSession) :
    Closed (world.setClient id session) := closed

theorem requestSession (closed : Closed world) (kind : KindType) (label : Text) (reply : Reply) :
    Closed (world.requestSession kind label reply).1 := by
  unfold World.requestSession
  split
  · exact closed
  · simp only
    split <;> exact closed

theorem registerService (closed : Closed world) (brokerFd : Int) (kind : KindType)
    (reply : Reply) : Closed (world.registerService brokerFd kind reply).1 := by
  simp only [World.registerService]
  split <;> exact closed

theorem initializeClient (closed : Closed world) (id : ClientId) (label : Text) (index : Nat)
    (reply : Reply) (granted : Bool) :
    Closed (world.initializeClient id label index reply granted) := by
  have requested := closed.requestSession id.kind.protocol label reply
  simp only [World.initializeClient]
  split
  · exact closed
  · split
    · exact requested
    · rw [Closed.add]
      case closed => exact requested.setClient id _
      exact ((requested.setClient id _).close _).setClient id _

theorem finalizeClient (closed : Closed world) (id : ClientId) :
    Closed (world.finalizeClient id) := by
  simp only [World.finalizeClient, closed.remove]
  split
  · exact closed
  · exact closed.close _

theorem initializeDispatcher (closed : Closed world) (id : ServiceId) (index : Nat) :
    Closed (world.initializeDispatcher id index) := by
  simp only [World.initializeDispatcher]
  split <;> exact closed

theorem register (closed : Closed world) (id : ServiceId) (reply : Reply) (granted : Bool) :
    Closed (world.register id reply granted) := by
  have registered := closed.registerService (world.dispatchers id).brokerFd id.kind.protocol reply
  simp only [World.register]
  split
  · exact closed
  · split
    · rw [Closed.add]
      case closed => exact registered
      exact registered
    · exact registered

theorem receiveRequest (closed : Closed world) (id : ServiceId) (reply : Reply) :
    Closed (world.receiveRequest id reply) := by
  simp only [World.receiveRequest]
  split
  · exact closed
  · split <;> exact closed

theorem receiveDisconnect (closed : Closed world) (id : ServiceId) (fd : Int) :
    Closed (world.receiveDisconnect id fd) := by
  simp only [World.receiveDisconnect]
  split <;> exact closed

theorem reject (closed : Closed world) (id : ServiceId) (name label : SessionLabel) :
    Closed (world.reject id name label) := by
  simp only [World.reject]
  split <;> exact closed

theorem dispatchError (closed : Closed world) (id : ServiceId) (fd : Int) :
    Closed (world.dispatchError id fd) := by
  simp only [World.dispatchError, closed.remove]
  split
  · exact closed
  · split
    · split
      · exact closed.close _
      · exact closed
    · exact closed

theorem sessionInitialize (closed : Closed world) (kind : ServiceKind)
    (dispatcher capability server : Nat) (index : Nat) (map : Option Nat) (ready : Bool) :
    Closed (world.sessionInitialize kind dispatcher capability server index map ready) := by
  have spent : Closed (world.setCapability ⟨kind, capability⟩
    (world.capability ⟨kind, capability⟩) true) := closed
  simp only [World.sessionInitialize]
  split
  · split
    · exact closed
    · have mapped : Closed ((world.setCapability ⟨.memory, capability⟩
        (world.capability ⟨.memory, capability⟩) true).mmap map) := closed
      exact (mapped.close _).close _
  · split
    · exact closed
    · split
      · exact closed
      · exact spent.close _

theorem sessionAccept (closed : Closed world) (kind : ServiceKind)
    (dispatcher capability server : Nat) (granted : Bool) :
    Closed (world.sessionAccept kind dispatcher capability server granted) := by
  simp only [World.sessionAccept, closed.add]
  exact closed

theorem sessionCleanup (closed : Closed world) (kind : ServiceKind)
    (dispatcher capability server : Nat) :
    Closed (world.sessionCleanup kind dispatcher capability server) := by
  simp only [World.sessionCleanup, closed.remove]
  split
  · split
    · exact (closed.close _).close _
    · exact closed.close _
  · exact closed

theorem step (closed : Closed world) (operation : Operation) :
    Closed (world.step operation) := by
  cases operation with
  | initializeClient id label index reply granted =>
      exact closed.initializeClient id label index reply granted
  | finalizeClient id => exact closed.finalizeClient id
  | initializeDispatcher id index => exact closed.initializeDispatcher id index
  | register id reply granted => exact closed.register id reply granted
  | receiveRequest id reply => exact closed.receiveRequest id reply
  | receiveDisconnect id fd => exact closed.receiveDisconnect id fd
  | reject id name label => exact closed.reject id name label
  | dispatchError id fd => exact closed.dispatchError id fd
  | sessionInitialize kind dispatcher capability server index map ready =>
      exact closed.sessionInitialize kind dispatcher capability server index map ready
  | sessionAccept kind dispatcher capability server granted =>
      exact closed.sessionAccept kind dispatcher capability server granted
  | sessionCleanup kind dispatcher capability server =>
      exact closed.sessionCleanup kind dispatcher capability server

end Closed

theorem Sound.closes (sound : Sound world) {efd : Int} (set : efd = world.epollFd) :
    Closed (world.close efd) := by
  rw [World.close, if_pos ⟨set, sound.exists_⟩]
  exact ⟨rfl, rfl⟩

/-- A failing log dispatcher closes the epoll descriptor. -/
theorem Sound.failing_log (sound : Sound world) {id : ServiceId}
    (initialized : ¬(world.dispatchers id).initialized = false) :
    Closed ((world.remove (world.dispatchers id).efd (world.dispatchers id).dispatchFd).close
      (world.dispatchers id).efd) := by
  have efd : (world.dispatchers id).efd = world.epollFd := by
    apply sound.dispatcherEfd
    simp only [DispatcherSession.initialized, Bool.and_eq_false_iff, not_or,
      Bool.not_eq_false] at initialized
    exact initialized.1.2
  have kept : (world.remove (world.dispatchers id).efd
      (world.dispatchers id).dispatchFd).epollFd = world.epollFd := by
    unfold World.remove
    split <;> rfl
  exact (sound.remove _ _).closes (efd.trans kept.symm)

theorem Sound.dispatchError (sound : Sound world) (id : ServiceId) (fd : Int) :
    Sound (world.dispatchError id fd) ∨ Closed (world.dispatchError id fd) := by
  simp only [World.dispatchError]
  split
  · exact Or.inl sound
  · rename_i initialized
    split
    · split
      · exact Or.inr (sound.failing_log initialized)
      · exact Or.inl (sound.remove _ _)
    · exact Or.inl sound

/-- One operation, called as its package allows. -/
theorem Sound.step (sound : Sound world) (operation : Operation)
    (proper : Proper world operation) :
    Sound (world.step operation) ∨ Closed (world.step operation) := by
  cases operation with
  | initializeClient id label index reply granted =>
      exact Or.inl (sound.initializeClient id label index reply granted)
  | finalizeClient id => exact Or.inl (sound.finalizeClient id)
  | initializeDispatcher id index => exact Or.inl (sound.initializeDispatcher id index)
  | register id reply granted => exact Or.inl (sound.register id reply granted)
  | receiveRequest id reply => exact Or.inl (sound.receiveRequest id reply proper.2)
  | receiveDisconnect id fd => exact Or.inl (sound.receiveDisconnect id fd)
  | reject id name label => exact Or.inl (sound.reject id name label)
  | dispatchError id fd => exact sound.dispatchError id fd
  | sessionInitialize kind dispatcher capability server index map ready =>
      obtain ⟨⟨⟨_, request, idle⟩, once⟩, _⟩ := proper
      exact Or.inl (sound.sessionInitialize kind dispatcher capability server index map ready
        request idle once)
  | sessionAccept kind dispatcher capability server granted =>
      obtain ⟨⟨⟨_, _, initialized⟩, _⟩, _⟩ := proper
      exact Or.inl (sound.sessionAccept kind dispatcher capability server granted initialized)
  | sessionCleanup kind dispatcher capability server =>
      exact Or.inl (sound.sessionCleanup kind dispatcher capability server proper.1.1.1)

/-! Whole runs. -/

theorem start_sound (opened : List Int) (epollFd brokerFd : Int) (set : epollFd ∈ opened)
    (open_ : valid epollFd = true) : Sound (World.start opened epollFd brokerFd) where
  exists_ := rfl
  epoll := open_
  owned := by
    have nothing : ∀ place, place ≠ .epoll →
        (World.start opened epollFd brokerFd).stored place = -1 := by
      intro place other
      cases place with
      | epoll => exact (other rfl).elim
      | event id =>
          obtain ⟨kind, _⟩ := id
          cases kind <;> rfl
      | data id =>
          obtain ⟨kind, _⟩ := id
          cases kind <;> rfl
      | request id =>
          obtain ⟨kind, _⟩ := id
          cases kind <;> rfl
      | memory id =>
          obtain ⟨kind, _⟩ := id
          cases kind <;> rfl
      | _ => rfl
    constructor
    · intro place open_
      by_cases other : place = .epoll
      · subst other
        exact set
      · rw [nothing place other] at open_
        simp at open_
    · intro first second open_ equal
      have firstPlace : first = .epoll := by
        by_contra other
        rw [nothing first other] at open_
        simp at open_
      have secondPlace : second = .epoll := by
        by_contra other
        rw [equal, nothing second other] at open_
        simp at open_
      rw [firstPlace, secondPlace]
  backed := backed_nil _
  issued := by
    intro ref fd called
    cases ref with
    | client id => cases called
    | dispatcher id => cases called
    | server id =>
        have idle : ServerSession.default.initialized id.kind = false := by
          cases id.kind <;> rfl
        simp [World.active, World.start, ServerSession.active, idle] at called
  clientEfd := fun _ initialized => nomatch initialized
  dispatcherEfd := fun _ initialized => nomatch initialized

theorem reachable_sound (world : World) (reachable : Reachable world) :
    Sound world ∨ Closed world := by
  obtain ⟨opened, epollFd, brokerFd, operations, set, open_, _, proper, rfl⟩ := reachable
  refine run_invariant_of_eachStep World.step (fun world => Sound world ∨ Closed world)
    Proper ?_ _ operations (Or.inl (start_sound opened epollFd brokerFd set open_)) proper
  intro world operation kept meets
  rcases kept with sound | closed
  · exact sound.step operation meets
  · exact Or.inr (closed.step operation)

/-- A component whose epoll set has a registration left. -/
theorem Reachable.sound {world : World} (reachable : Reachable world) {entry : Int × Ref}
    (registered : entry ∈ world.registrations) : Sound world := by
  rcases reachable_sound world reachable with sound | closed
  · exact sound
  · rw [closed.2] at registered
    cases registered

/-- The variable that holds the descriptor a session is registered with. -/
def Ref.place : Ref → Place
  | .client id => .client id
  | .dispatcher id => .dispatcher id
  | .server id => .event id

theorem active_stored {ref : Ref} {fd : Int} (called : world.active ref = some fd) :
    valid fd = true ∧ world.stored ref.place = fd := by
  cases ref with
  | client id =>
      simp only [World.active, ClientSession.active] at called
      split at called
      · rename_i initialized
        cases called
        simp only [ClientSession.initialized, Bool.and_eq_true] at initialized
        exact ⟨initialized.1.1.1.1, rfl⟩
      · cases called
  | dispatcher id =>
      simp only [World.active, DispatcherSession.active] at called
      split at called
      · rename_i open_
        cases called
        exact ⟨open_, rfl⟩
      · cases called
  | server id =>
      simp only [World.active, ServerSession.active] at called
      split at called
      · rename_i initialized
        cases called
        exact ⟨eventFd_valid initialized, rfl⟩
      · cases called

theorem Sound.active_opened (sound : Sound world) {ref : Ref} {fd : Int}
    (called : world.active ref = some fd) : fd ∈ world.table.opened := by
  obtain ⟨open_, held⟩ := active_stored called
  rw [← held] at open_ ⊢
  exact sound.owned.opened ref.place open_

/-- No two sessions are registered with one descriptor. -/
theorem Sound.active_injective (sound : Sound world) {first second : Ref} {fd : Int}
    (firstCalled : world.active first = some fd) (secondCalled : world.active second = some fd) :
    first = second := by
  obtain ⟨open_, firstHeld⟩ := active_stored firstCalled
  obtain ⟨_, secondHeld⟩ := active_stored secondCalled
  have same : first.place = second.place := by
    apply sound.owned.distinct
    · rw [firstHeld]
      exact open_
    · rw [firstHeld, secondHeld]
  cases first <;> cases second <;> cases same <;> rfl

/-- Whatever is registered can be called, as long as no stale word was taken for a descriptor:
`Event_Handler` never jumps to a null address. -/
theorem registrations_callable (world : World) (reachable : Reachable world) (fd : Int) (ref : Ref)
    (registered : (fd, ref) ∈ world.registrations) :
    (world.eCap ref).valid = true ∧ (world.eCap ref).fd = fd ∧ fd ∈ world.table.opened ∧
      ∀ event, world.eventHandler (some ref) event ≠ .nullAddress := by
  have sound := reachable.sound registered
  have called : world.active ref = some fd := sound.backed (fd, ref) registered
  obtain ⟨valid_, same, calls⟩ := (sound.issued ref fd called).callable
  refine ⟨valid_, same, sound.active_opened called, ?_⟩
  intro event
  obtain ⟨handler, context, target⟩ := calls (getType event)
  simp [World.eventHandler, target]

/-- A buffer that was not used before. -/
def unused : Nat → Int := fun _ => -1

def sampleRequest : Reply := ⟨.valid .request .memory .empty .empty, [7, 8, 9], unused⟩

/-- A memory server that accepted one client. -/
def sampleOperations : List Operation := [
  .initializeDispatcher ⟨.memory, 0⟩ 1,
  .register ⟨.memory, 0⟩ ⟨.valid .confirm .memory .empty .empty, [6], unused⟩ true,
  .receiveRequest ⟨.memory, 0⟩ sampleRequest,
  .sessionInitialize .memory 0 0 0 1 (some 4096) true,
  .sessionAccept .memory 0 0 0 true]

def sampleServer : World := run World.step (World.start [3, 4] 3 4) sampleOperations

theorem sampleServer_reachable : Reachable sampleServer := by
  refine ⟨[3, 4], 3, 4, sampleOperations, by decide, by decide, by decide, ?_, rfl⟩
  decide +kernel

theorem sampleServer_callable :
    (8, Ref.server ⟨.memory, 0⟩) ∈ sampleServer.registrations ∧
      (sampleServer.eCap (.server ⟨.memory, 0⟩)).valid = true ∧
      (sampleServer.eCap (.server ⟨.memory, 0⟩)).fd = 8 ∧ 8 ∈ sampleServer.table.opened ∧
      ∀ event, sampleServer.eventHandler (some (.server ⟨.memory, 0⟩)) event ≠ .nullAddress := by
  have registered : (8, Ref.server ⟨.memory, 0⟩) ∈ sampleServer.registrations := by
    decide +kernel
  exact ⟨registered,
    registrations_callable sampleServer sampleServer_reachable 8 (.server ⟨.memory, 0⟩) registered⟩

/-! The next request brings one descriptor only. The words of the first are still in the control
buffer, and the refusal of the second closes the descriptors of the running session. -/

def lateOperations : List Operation := [
  .receiveRequest ⟨.memory, 0⟩
    ⟨.valid .request .memory .empty .empty, [10], fun slot => 7 + slot⟩,
  .sessionInitialize .memory 0 0 1 2 none false]

theorem stale_words_close :
    let after := run World.step sampleServer lateOperations
    EachStep World.step Permitted (World.start [3, 4] 3 4) (sampleOperations ++ lateOperations) ∧
      after = run World.step (World.start [3, 4] 3 4) (sampleOperations ++ lateOperations) ∧
      (8, Ref.server ⟨.memory, 0⟩) ∈ after.registrations ∧ 8 ∉ after.table.opened := by
  refine ⟨by decide +kernel, ?_, by decide +kernel, by decide +kernel⟩
  rw [run_append]
  rfl

end Gneiss.Component
