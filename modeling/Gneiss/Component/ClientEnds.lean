import Gneiss.Component.EventLoop

/-!
The client's ends in a server component. `Session_Accept` passes the client's end on in `Confirm`,
which duplicates it, and no operation closes the copy of the component. So the socket of an accepted
session has its other end open as long as the component has its epoll set, whatever the client does.
-/

namespace Gneiss.Component

open Descriptors Runs

/-- The capabilities that `Session_Initialize` can still be called with. -/
def Unspent (_ : ServiceId) (spent : Bool) : Prop := spent = false

variable {world : World} {fd : Int}

/-! One operation does not close a descriptor that no session and no such capability has. -/

theorem Apart.receiveRequest (apart : Apart Unspent fd world) (id : ServiceId) (reply : Reply)
    (unmixed : ¬Mixed world id reply) : Apart Unspent fd (world.receiveRequest id reply) := by
  by_cases serves : Serves world id
  · have installed : fd ∈ (world.install id.kind.slots reply).1.table.opened :=
      (mem_receive world.table _ fd apart.open_).mpr (Or.inl apart.opened)
    have begun : Apart Unspent fd
        { world.setDispatcher id { world.dispatchers id with accepted := false } with
          table := (world.install id.kind.slots reply).1.table } :=
      apart.congr (fun _ => installed) rfl rfl rfl rfl
    obtain ⟨message, offered, stale⟩ := reply
    cases message with
    | invalid =>
        simp only [World.receiveRequest, serves.unguarded, Bool.false_eq_true, if_false]
        exact begun
    | valid action kind name label =>
        rw [receiveRequest_valid world id action kind name label offered stale serves]
        apply begun.setCapability
        intro _ request
        by_cases same : kind = id.kind.protocol
        · subst same
          rw [if_pos rfl] at request ⊢
          obtain ⟨some_, all | mixed⟩ := request_filled serves rfl request
          · obtain ⟨two, small⟩ := id.kind.slots_bounds
            have fresh : ∀ slot < id.kind.slots, (Reply.slots
                ⟨.valid action id.kind.protocol name label, offered, stale⟩ id.kind.slots
                (world.install id.kind.slots
                  ⟨.valid action id.kind.protocol name label, offered, stale⟩).2).getD slot (-1) ≠
                fd := by
              intro slot bound same
              rw [Reply.slots_getD _ _ _ _ bound small, if_neg some_, if_pos (all slot bound),
                List.getD_eq_getElem _ _ (all slot bound)] at same
              exact (mem_installed world _ _ fd (same ▸ List.getElem_mem _)).2.1 apart.opened
            refine ⟨fresh 1 two, ?_⟩
            intro memory
            exact (if_pos memory).trans_ne (fresh 2 (by rw [memory]; decide))
          · exact (unmixed mixed).elim
        · rw [if_neg same, offered_nothing] at request
          cases request
  · rw [World.receiveRequest_idle serves]
    exact apart

theorem Apart.receiveDisconnect (apart : Apart Unspent fd world) (id : ServiceId) (hungUp : Int) :
    Apart Unspent fd (world.receiveDisconnect id hungUp) := by
  simp only [World.receiveDisconnect]
  split
  · exact apart
  · apply apart.setCapability
    intro _ request
    cases kind : id.kind <;> simp [validSessionRequest, kind] at request

/-- Unless it ends the epoll set, which a failing log dispatcher does. -/
theorem Apart.dispatchError (apart : Apart Unspent fd world) (sound : Sound world) (id : ServiceId)
    (failed : Int) :
    Apart Unspent fd (world.dispatchError id failed) ∨ Closed (world.dispatchError id failed) := by
  simp only [World.dispatchError]
  split
  · exact Or.inl apart
  · rename_i initialized
    split
    · split
      · exact Or.inr (sound.failing_log initialized)
      · exact Or.inl (apart.remove _ _)
    · exact Or.inl apart

theorem Apart.proper (apart : Apart Unspent fd world) (sound : Sound world)
    (operation : Operation) (proper : Proper world operation) :
    Apart Unspent fd (world.step operation) ∨ Closed (world.step operation) := by
  obtain ⟨⟨precondition, once⟩, unmixed⟩ := proper
  have called : ∀ id : ServiceId, operation.callable id = true →
      Apart Unspent fd (world.step operation) := by
    intro id callable
    refine apart.step operation callable precondition ?_
    rintro kind dispatcher capability server index map ready rfl
    exact once
  cases operation with
  | receiveRequest id reply => exact Or.inl (apart.receiveRequest id reply unmixed)
  | receiveDisconnect id hungUp => exact Or.inl (apart.receiveDisconnect id hungUp)
  | reject id name label => exact Or.inl (apart.reject id name label)
  | dispatchError id failed => exact apart.dispatchError sound id failed
  | sessionInitialize kind dispatcher capability server index map ready =>
      exact Or.inl (called ⟨kind, capability⟩ (by simp [Operation.callable]))
  | sessionAccept kind dispatcher capability server granted =>
      exact Or.inl (called ⟨kind, capability⟩ (by simp [Operation.callable]))
  | sessionCleanup kind dispatcher capability server =>
      exact Or.inl (called ⟨kind, capability⟩ (by simp [Operation.callable]))
  | initializeClient id label index reply granted => exact Or.inl (called ⟨.log, 0⟩ rfl)
  | finalizeClient id => exact Or.inl (called ⟨.log, 0⟩ rfl)
  | initializeDispatcher id index => exact Or.inl (called ⟨.log, 0⟩ rfl)
  | register id reply granted => exact Or.inl (called ⟨.log, 0⟩ rfl)

/-- The client's end stays with the component until its epoll set is gone. -/
def Lasting (fd : Int) (world : World) : Prop :=
  Sound world ∧ Apart Unspent fd world ∨ Closed world

theorem Lasting.step (lasting : Lasting fd world) (operation : Operation)
    (proper : Proper world operation) : Lasting fd (world.step operation) := by
  rcases lasting with ⟨sound, apart⟩ | closed
  · rcases sound.step operation proper with kept | closed
    · rcases apart.proper sound operation proper with still | closed
      · exact Or.inl ⟨kept, still⟩
      · exact Or.inr closed
    · exact Or.inr closed
  · exact Or.inr (closed.step operation)

/-! What a component confirms. -/

section Sent

variable (world : World)

@[simp] theorem close_sent (fd : Int) : (world.close fd).sent = world.sent := by
  unfold World.close
  split <;> rfl

@[simp] theorem add_sent (efd fd : Int) (ref : Ref) (granted : Bool) :
    (world.add efd fd ref granted).1.sent = world.sent := by
  unfold World.add
  split <;> rfl

@[simp] theorem remove_sent (efd fd : Int) : (world.remove efd fd).sent = world.sent := by
  unfold World.remove
  split <;> rfl

theorem requestSession_sent (kind : KindType) (label : Text) (reply : Reply) :
    (world.requestSession kind label reply).1.sent = world.sent ∨
      (world.requestSession kind label reply).1.sent =
        world.sent ++ [⟨world.brokerFd, .request, kind, [], label, []⟩] := by
  unfold World.requestSession
  split
  · exact Or.inl rfl
  · simp only
    split <;> exact Or.inr rfl

theorem registerService_sent (brokerFd : Int) (kind : KindType) (reply : Reply) :
    (world.registerService brokerFd kind reply).1.sent =
      world.sent ++ [⟨brokerFd, .register, kind, [], [], []⟩] := by
  simp only [World.registerService]
  split <;> rfl

theorem initializeClient_sent (id : ClientId) (label : Text) (index : Nat) (reply : Reply)
    (granted : Bool) :
    (world.initializeClient id label index reply granted).sent = world.sent ∨
      (world.initializeClient id label index reply granted).sent =
        (world.requestSession id.kind.protocol label reply).1.sent := by
  simp only [World.initializeClient]
  split
  · exact Or.inl rfl
  · split
    · exact Or.inr rfl
    · split <;> simp [World.setClient]

theorem register_sent (id : ServiceId) (reply : Reply) (granted : Bool) :
    (world.register id reply granted).sent = world.sent ∨
      (world.register id reply granted).sent =
        (world.registerService (world.dispatchers id).brokerFd id.kind.protocol reply).1.sent := by
  simp only [World.register]
  split
  · exact Or.inl rfl
  · split <;> simp [World.setDispatcher]

theorem receiveRequest_sent (id : ServiceId) (reply : Reply) :
    (world.receiveRequest id reply).sent = world.sent := by
  simp only [World.receiveRequest]
  split
  · rfl
  · split <;> rfl

theorem sessionInitialize_sent (kind : ServiceKind) (dispatcher capability server : Nat)
    (index : Nat) (map : Option Nat) (ready : Bool) :
    (world.sessionInitialize kind dispatcher capability server index map ready).sent =
      world.sent := by
  simp only [World.sessionInitialize]
  split
  · split <;> simp [World.setServer, World.setCapability, World.mmap]
  · split
    · rfl
    · split <;> simp [World.setServer, World.setCapability]

theorem sessionCleanup_sent (kind : ServiceKind) (dispatcher capability server : Nat) :
    (world.sessionCleanup kind dispatcher capability server).sent = world.sent := by
  simp only [World.sessionCleanup]
  split
  · split <;> simp [World.setServer]
  · rfl

theorem dispatchError_sent (id : ServiceId) (fd : Int) :
    (world.dispatchError id fd).sent = world.sent := by
  simp only [World.dispatchError]
  split
  · rfl
  · split
    · split <;> simp [World.setDispatcher]
    · rfl

end Sent

/-- Only `Session_Accept` confirms, with the client's end of its capability. -/
theorem step_confirms (world : World) (operation : Operation) (answer : Answer)
    (sent : answer ∈ (world.step operation).sent) (confirms : answer.action = .confirm) :
    answer ∈ world.sent ∨ ∃ kind dispatcher capability server granted,
      operation = .sessionAccept kind dispatcher capability server granted ∧
        answer.fds = [(world.capability ⟨kind, capability⟩).clientFd] := by
  have other : ∀ new : Answer, new.action ≠ .confirm → answer ∈ world.sent ++ [new] →
      answer ∈ world.sent := by
    intro new different member
    rcases List.mem_append.mp member with before | last
    · exact before
    · rw [List.mem_singleton.mp last] at confirms
      exact (different confirms).elim
  cases operation with
  | initializeClient id label index reply granted =>
      left
      rcases initializeClient_sent world id label index reply granted with same | same
      · rwa [World.step, same] at sent
      · rcases requestSession_sent world id.kind.protocol label reply with nothing | asked
        · rwa [World.step, same, nothing] at sent
        · rw [World.step, same, asked] at sent
          exact other _ (by simp) sent
  | finalizeClient id =>
      left
      have same : (world.finalizeClient id).sent = world.sent := by
        simp only [World.finalizeClient]
        split
        · rfl
        · simp [World.setClient]
      rwa [World.step, same] at sent
  | initializeDispatcher id index =>
      left
      have same : (world.initializeDispatcher id index).sent = world.sent := by
        simp only [World.initializeDispatcher]
        split <;> rfl
      rwa [World.step, same] at sent
  | register id reply granted =>
      left
      rcases register_sent world id reply granted with same | same
      · rwa [World.step, same] at sent
      · rw [World.step, same, registerService_sent] at sent
        exact other _ (by simp) sent
  | receiveRequest id reply =>
      rw [World.step, receiveRequest_sent] at sent
      exact Or.inl sent
  | receiveDisconnect id hungUp =>
      left
      have same : (world.receiveDisconnect id hungUp).sent = world.sent := by
        simp only [World.receiveDisconnect]
        split <;> rfl
      rwa [World.step, same] at sent
  | reject id name label =>
      left
      simp only [World.step, World.reject] at sent
      split at sent
      · exact sent
      · exact other _ (by simp) sent
  | dispatchError id failed =>
      rw [World.step, dispatchError_sent] at sent
      exact Or.inl sent
  | sessionInitialize kind dispatcher capability server index map ready =>
      rw [World.step, sessionInitialize_sent] at sent
      exact Or.inl sent
  | sessionAccept kind dispatcher capability server granted =>
      simp only [World.step, World.sessionAccept, World.setDispatcher, World.send, add_sent]
        at sent
      rcases List.mem_append.mp sent with before | last
      · exact Or.inl before
      · rw [List.mem_singleton.mp last]
        exact Or.inr ⟨kind, dispatcher, capability, server, granted, rfl, rfl⟩
  | sessionCleanup kind dispatcher capability server =>
      rw [World.step, sessionCleanup_sent] at sent
      exact Or.inl sent

/-- Only the receiving half of `Dispatch_Event` makes a capability. -/
theorem step_capability (world : World) (operation : Operation) (id : ServiceId) :
    (world.step operation).capability id = world.capability id ∨
      (∃ reply, operation = .receiveRequest id reply) ∨
        ∃ hungUp, operation = .receiveDisconnect id hungUp := by
  cases operation with
  | receiveRequest other reply =>
      by_cases same : id = other
      · subst same
        exact Or.inr (Or.inl ⟨reply, rfl⟩)
      · left
        simp only [World.step, World.receiveRequest]
        split
        · rfl
        · split
          · rfl
          · exact Function.update_of_ne same _ _
  | receiveDisconnect other hungUp =>
      by_cases same : id = other
      · subst same
        exact Or.inr (Or.inr ⟨hungUp, rfl⟩)
      · left
        simp only [World.step, World.receiveDisconnect]
        split
        · rfl
        · exact Function.update_of_ne same _ _
  | initializeClient client label index reply granted =>
      exact Or.inl (congrFun (initializeClient_frame world client label index reply granted).2 id)
  | finalizeClient client => exact Or.inl (congrFun (finalizeClient_frame world client).2 id)
  | initializeDispatcher other index =>
      exact Or.inl (congrFun (initializeDispatcher_frame world other index).2 id)
  | register other reply granted =>
      exact Or.inl (congrFun (register_frame world other reply granted).2 id)
  | reject other name label =>
      left
      simp only [World.step, World.reject]
      split <;> rfl
  | dispatchError other failed =>
      left
      simp only [World.step, World.dispatchError]
      split
      · rfl
      · split
        · split <;> simp [World.setDispatcher]
        · rfl
  | sessionInitialize kind dispatcher capability server index map ready =>
      exact Or.inl (congrFun (sessionInitialize_frame world kind dispatcher capability server index
        map ready ⟨kind, server + 1⟩ (by simp)).2 id)
  | sessionAccept kind dispatcher capability server granted =>
      exact Or.inl (congrFun
        (sessionAccept_frame world kind dispatcher capability server granted).2 id)
  | sessionCleanup kind dispatcher capability server =>
      exact Or.inl (congrFun (sessionCleanup_frame world kind dispatcher capability server
        ⟨kind, server + 1⟩ (by simp)).2 id)

/-! Whole runs. -/

/-- The client's ends that `Dispatch` can pass on, and those that were. -/
structure EndsKept (world : World) : Prop where
  offered : ∀ id, validSessionRequest id.kind (world.capability id) = true →
    Apart Unspent (world.capability id).clientFd world
  confirmed : ∀ answer ∈ world.sent, answer.action = .confirm → ∀ fd ∈ answer.fds,
    Apart Unspent fd world

theorem Sound.offered_opened (sound : Sound world) (id : ServiceId)
    (unspent : world.spent id = false)
    (request : validSessionRequest id.kind (world.capability id) = true) :
    (world.capability id).serverFd ∈ world.table.opened ∧
      (id.kind = .memory → (world.capability id).memfd ∈ world.table.opened) := by
  have serverEnd : world.stored (.request id) = (world.capability id).serverFd :=
    if_pos ⟨unspent, request⟩
  constructor
  · have opened := sound.owned.opened (.request id)
    rw [serverEnd] at opened
    exact opened (by cases kind : id.kind <;> simp_all [validSessionRequest])
  · intro memory
    have memoryEnd : world.stored (.memory id) = (world.capability id).memfd :=
      if_pos ⟨unspent, request, memory⟩
    have opened := sound.owned.opened (.memory id)
    rw [memoryEnd] at opened
    rw [memory] at request
    simp only [validSessionRequest, Bool.and_eq_true] at request
    exact opened request.1.1

/-- The client's end of a request that was just received. -/
theorem Sound.request_apart (sound : Sound world) (id : ServiceId) (reply : Reply)
    (unmixed : ¬Mixed world id reply) (kept : EndsKept world)
    (request : validSessionRequest id.kind
      ((world.receiveRequest id reply).capability id) = true) :
    Apart Unspent ((world.receiveRequest id reply).capability id).clientFd
      (world.receiveRequest id reply) := by
  by_cases serves : Serves world id
  · obtain ⟨message, offered, stale⟩ := reply
    cases message with
    | invalid =>
        have same : (world.receiveRequest id ⟨.invalid, offered, stale⟩).capability =
            world.capability := by
          simp only [World.receiveRequest, serves.unguarded, Bool.false_eq_true, if_false]
          rfl
        rw [same] at request ⊢
        exact (kept.offered id request).receiveRequest id _ unmixed
    | valid action kind name label =>
        have received := receiveRequest_valid world id action kind name label offered stale serves
        have capability := (congrArg (fun after => after.capability id) received).trans
          (Function.update_self ..)
        have own : kind = id.kind.protocol := by
          by_contra other
          rw [capability, if_neg other, offered_nothing] at request
          cases request
        subst own
        rw [capability, if_pos rfl] at request
        obtain ⟨some_, all | mixed⟩ := request_filled serves rfl request
        · obtain ⟨two, small⟩ := id.kind.slots_bounds
          obtain ⟨fd, rest, came⟩ := List.exists_cons_of_ne_nil some_
          have client : ((world.receiveRequest id ⟨.valid action id.kind.protocol name label,
              offered, stale⟩).capability id).clientFd = fd := by
            have first : (Reply.slots ⟨.valid action id.kind.protocol name label, offered, stale⟩
                id.kind.slots (fd :: rest)).getD 0 (-1) = fd := by
              rw [Reply.slots_getD _ _ _ _ (by omega) small]
              simp
            rw [capability, if_pos rfl, came]
            exact first
          have apart := receiveRequest_apart world id action id.kind.protocol name label offered
            stale sound.tidy serves fd rest came fun slot bound beyond =>
              absurd (all slot bound) (by rw [came]; omega)
          have fresh := (mem_installed world id.kind.slots
            ⟨.valid action id.kind.protocol name label, offered, stale⟩ fd
            (by rw [came]; exact List.mem_cons_self)).2.1
          rw [client]
          refine ⟨apart.open_, apart.opened, apart.unstored, ?_⟩
          intro other unspent requested
          by_cases same : other = id
          · exact apart.request other same requested
          · rw [received] at unspent requested ⊢
            simp only [World.setCapability, Function.update_of_ne same] at unspent requested ⊢
            obtain ⟨serverEnd, memoryEnd⟩ := sound.offered_opened other unspent requested
            exact ⟨fun equal => fresh (equal ▸ serverEnd),
              fun memory equal => fresh (equal ▸ memoryEnd memory)⟩
        · exact (unmixed mixed).elim
  · rw [World.receiveRequest_idle serves] at request ⊢
    exact kept.offered id request

theorem EndsKept.step (kept : EndsKept world) (sound : Sound world) (operation : Operation)
    (proper : Proper world operation) :
    EndsKept (world.step operation) ∨ Closed (world.step operation) := by
  by_cases closed : Closed (world.step operation)
  · exact Or.inr closed
  · have still : ∀ fd, Apart Unspent fd world → Apart Unspent fd (world.step operation) :=
      fun fd apart => (apart.proper sound operation proper).resolve_right closed
    refine Or.inl ⟨?_, ?_⟩
    · intro id request
      rcases step_capability world operation id with same | ⟨reply, rfl⟩ | ⟨hungUp, rfl⟩
      · rw [same] at request ⊢
        exact still _ (kept.offered id request)
      · exact sound.request_apart id reply proper.2 kept request
      · simp only [World.step, World.receiveDisconnect] at request ⊢
        split at request
        · rename_i idle
          rw [if_pos idle]
          exact kept.offered id request
        · simp only [World.setCapability, Function.update_self] at request
          cases kind : id.kind <;> simp [validSessionRequest, kind] at request
    · intro answer sent confirms fd member
      rcases step_confirms world operation answer sent confirms with
        before | ⟨kind, dispatcher, capability, server, granted, rfl, same⟩
      · exact still fd (kept.confirmed answer before confirms fd member)
      · obtain ⟨⟨⟨_, request, _⟩, _⟩, _⟩ := proper
        rw [same, List.mem_singleton] at member
        rw [member]
        exact still _ (kept.offered ⟨kind, capability⟩ request)

theorem start_ends (opened : List Int) (epollFd brokerFd : Int) :
    EndsKept (World.start opened epollFd brokerFd) := by
  constructor
  · intro id request
    have nothing : validSessionRequest id.kind DispatcherCapability.default = false := by
      cases id.kind <;> rfl
    rw [show (World.start opened epollFd brokerFd).capability id = .default from rfl,
      nothing] at request
    cases request
  · intro answer sent
    cases sent

theorem reachable_ends (world : World) (reachable : Reachable world) :
    Sound world ∧ EndsKept world ∨ Closed world := by
  obtain ⟨opened, epollFd, brokerFd, operations, set, open_, _, proper, rfl⟩ := reachable
  refine run_invariant_of_eachStep World.step
    (fun world => Sound world ∧ EndsKept world ∨ Closed world) Proper ?_ _ operations
    (Or.inl ⟨start_sound opened epollFd brokerFd set open_,
      start_ends opened epollFd brokerFd⟩) proper
  intro world operation kept meets
  rcases kept with ⟨sound, ends⟩ | closed
  · rcases sound.step operation meets with still | closed
    · rcases ends.step sound operation meets with kept | closed
      · exact Or.inl ⟨still, kept⟩
      · exact Or.inr closed
    · exact Or.inr closed
  · exact Or.inr (closed.step operation)

/-- What a component passed on as a client's end it has open itself, as long as there is anything
left in its epoll set. -/
theorem Reachable.confirmed_lasting {world : World} (reachable : Reachable world) (answer : Answer)
    (sent : answer ∈ world.sent) (confirms : answer.action = .confirm) (fd : Int)
    (member : fd ∈ answer.fds) : Lasting fd world := by
  rcases reachable_ends world reachable with ⟨sound, ends⟩ | closed
  · exact Or.inl ⟨sound, ends.confirmed answer sent confirms fd member⟩
  · exact Or.inr closed

theorem Lasting.handle (lasting : Lasting fd world) (called : Called) (reply : Reply)
    (callback : List Operation) (allowed : Allowed world called reply callback)
    (unmixed : UnmixedTurn world called reply) :
    Lasting fd (world.handle called reply callback) :=
  handle_preserves (Lasting fd) (fun _ operation kept proper => kept.step operation proper) lasting
    called reply callback allowed unmixed

/-- So there is no hangup for the session, whose registration is left. -/
theorem Lasting.opened (lasting : Lasting fd world) {entry : Int × Ref}
    (registered : entry ∈ world.registrations) : fd ∈ world.table.opened := by
  rcases lasting with ⟨_, apart⟩ | closed
  · exact apart.opened
  · rw [closed.2] at registered
    cases registered

end Gneiss.Component
