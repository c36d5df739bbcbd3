import Gneiss.Component.Requests

/-!
A turn of the event loop of a component. `Event_Handler` calls a handler of the `E_Cap` it is given,
and the handler calls the component, which keeps to the preconditions of the packages: `Dispatch`
can use the capability it was given, everything else (`Event`, `Write`, `Receive`) has none. A turn
for one registration leaves the server sessions of the others alone.
-/

namespace Gneiss.Component

open Descriptors Runs

/-- What a component can do without a capability. -/
def Operation.plain : Operation → Bool
  | .initializeClient .. => true
  | .finalizeClient _ => true
  | .initializeDispatcher .. => true
  | .register .. => true
  | _ => false

/-- The effect of a called handler on the sessions; `callback` is what the component does when the
handler calls it. `Session_Error` of clients is a null procedure. -/
def World.handle (world : World) (called : Called) (reply : Reply) (callback : List Operation) :
    World :=
  match called with
  | .handler .dispatchEvent (.dispatcher id) fd => world.dispatchEvent id fd reply callback
  | .handler .dispatchError (.dispatcher id) fd => world.dispatchError id fd
  | .handler .sessionEvent _ _ => run World.step world callback
  | _ => world

/-- The component keeps to the preconditions, and `Dispatch` to its capability. -/
def Allowed (world : World) (called : Called) (reply : Reply) (callback : List Operation) : Prop :=
  match called with
  | .handler .dispatchEvent (.dispatcher id) fd =>
      EachStep World.step
        (fun world operation => operation.callable id = true ∧ Permitted world operation)
        (if fd = (world.dispatchers id).dispatchFd then world.receiveRequest id reply
          else world.receiveDisconnect id fd) callback
  | .handler .sessionEvent _ _ =>
      EachStep World.step
        (fun world operation => operation.plain = true ∧ Permitted world operation) world callback
  | _ => True

instance (world : World) (reply : Reply) (callback : List Operation) :
    (called : Called) → Decidable (Allowed world called reply callback)
  | .nothing => inferInstanceAs (Decidable True)
  | .nullAddress => inferInstanceAs (Decidable True)
  | .handler .sessionEvent _ _ => inferInstanceAs (Decidable (EachStep ..))
  | .handler .sessionError _ _ => inferInstanceAs (Decidable True)
  | .handler .dispatchError _ _ => inferInstanceAs (Decidable True)
  | .handler .dispatchEvent (.dispatcher _) _ => inferInstanceAs (Decidable (EachStep ..))
  | .handler .dispatchEvent (.client _) _ => inferInstanceAs (Decidable True)
  | .handler .dispatchEvent (.server _) _ => inferInstanceAs (Decidable True)

/-- There is no handler, or it is `Dispatch_Event` for a message it cannot read, whose name fails a
check. -/
def World.raises (world : World) (called : Called) (reply : Reply) : Bool :=
  match called with
  | .nullAddress => true
  | .handler .dispatchEvent (.dispatcher id) fd =>
      decide (Serves world id) && decide (fd = (world.dispatchers id).dispatchFd) &&
        match reply.message with
        | .invalid => true
        | .valid .. => false
  | _ => false

/-- The handler takes no stale word for a descriptor. -/
def UnmixedTurn (world : World) (called : Called) (reply : Reply) : Prop :=
  match called with
  | .handler .dispatchEvent (.dispatcher id) fd =>
      fd = (world.dispatchers id).dispatchFd → ¬Mixed world id reply
  | _ => True

instance (world : World) (reply : Reply) :
    (called : Called) → Decidable (UnmixedTurn world called reply)
  | .nothing => inferInstanceAs (Decidable True)
  | .nullAddress => inferInstanceAs (Decidable True)
  | .handler .sessionEvent _ _ => inferInstanceAs (Decidable True)
  | .handler .sessionError _ _ => inferInstanceAs (Decidable True)
  | .handler .dispatchError _ _ => inferInstanceAs (Decidable True)
  | .handler .dispatchEvent (.dispatcher _) _ => inferInstanceAs (Decidable (_ → ¬_))
  | .handler .dispatchEvent (.client _) _ => inferInstanceAs (Decidable True)
  | .handler .dispatchEvent (.server _) _ => inferInstanceAs (Decidable True)

/-! A turn is a run of operations, so what every operation preserves a turn does. -/

theorem callable_unmixed {id : ServiceId} {operation : Operation} (world : World)
    (callable : operation.callable id = true) : Unmixed world operation := by
  cases operation with
  | receiveRequest id reply => cases callable
  | _ => trivial

theorem plain_unmixed {operation : Operation} (world : World) (plain : operation.plain = true) :
    Unmixed world operation := by
  cases operation with
  | receiveRequest id reply => cases plain
  | _ => trivial

section

variable (Inv : World → Prop)
  (preserved : ∀ world operation, Inv world → Proper world operation → Inv (world.step operation))

include preserved

theorem callback_preserves (property : Operation → Prop) {world : World} (start : Inv world)
    (callback : List Operation)
    (unmixed : ∀ world operation, property operation → Unmixed world operation)
    (allowed : EachStep World.step
      (fun world operation => property operation ∧ Permitted world operation) world callback) :
    Inv (run World.step world callback) :=
  run_invariant_of_eachStep World.step Inv _
    (fun world operation kept meets =>
      preserved world operation kept ⟨meets.2, unmixed world operation meets.1⟩)
    world callback start allowed

theorem handle_preserves {world : World} (start : Inv world) (called : Called) (reply : Reply)
    (callback : List Operation) (allowed : Allowed world called reply callback)
    (unmixed : UnmixedTurn world called reply) : Inv (world.handle called reply callback) := by
  unfold World.handle
  split
  · rename_i id fd
    simp only [Allowed] at allowed
    simp only [World.dispatchEvent]
    split
    · exact start
    · split
      · rename_i request
        rw [if_pos request] at allowed
        have received := preserved world (.receiveRequest id reply) start
          ⟨⟨trivial, trivial⟩, unmixed request⟩
        split
        · exact received
        · rename_i name label _
          have called := callback_preserves Inv preserved _ received callback
            (fun world _ => callable_unmixed world) allowed
          exact preserved _ (.reject id name label) called ⟨⟨trivial, trivial⟩, trivial⟩
      · rename_i disconnect
        rw [if_neg disconnect] at allowed
        have received := preserved world (.receiveDisconnect id fd) start
          ⟨⟨trivial, trivial⟩, trivial⟩
        exact callback_preserves Inv preserved _ received callback
          (fun world _ => callable_unmixed world) allowed
  · rename_i id fd
    exact preserved world (.dispatchError id fd) start ⟨⟨trivial, trivial⟩, trivial⟩
  · exact callback_preserves Inv preserved _ start callback (fun world _ => plain_unmixed world)
      allowed
  · exact start

end

theorem Reachable.extend {world : World} (reachable : Reachable world)
    (operations : List Operation) (proper : EachStep World.step Proper world operations) :
    Reachable (run World.step world operations) := by
  obtain ⟨opened, epollFd, brokerFd, before, set, open_, broker, past, rfl⟩ := reachable
  refine ⟨opened, epollFd, brokerFd, before ++ operations, set, open_, broker, ?_, ?_⟩
  · exact eachStep_append World.step Proper _ before operations past proper
  · rw [run_append]

theorem Reachable.step {world : World} (reachable : Reachable world) (operation : Operation)
    (proper : Proper world operation) : Reachable (world.step operation) :=
  reachable.extend [operation] ⟨proper, trivial⟩

theorem Reachable.handle {world : World} (reachable : Reachable world) (called : Called)
    (reply : Reply) (callback : List Operation) (allowed : Allowed world called reply callback)
    (unmixed : UnmixedTurn world called reply) :
    Reachable (world.handle called reply callback) :=
  handle_preserves Reachable (fun _ operation kept proper => kept.step operation proper) reachable
    called reply callback allowed unmixed

/-! What the operations leave alone. -/

section Frames

variable (world : World)

@[simp] theorem close_servers (fd : Int) : (world.close fd).servers = world.servers := by
  unfold World.close
  split <;> rfl

@[simp] theorem close_capability (fd : Int) :
    (world.close fd).capability = world.capability := by
  unfold World.close
  split <;> rfl

@[simp] theorem add_servers (efd fd : Int) (ref : Ref) (granted : Bool) :
    (world.add efd fd ref granted).1.servers = world.servers := by
  unfold World.add
  split <;> rfl

@[simp] theorem add_capability (efd fd : Int) (ref : Ref) (granted : Bool) :
    (world.add efd fd ref granted).1.capability = world.capability := by
  unfold World.add
  split <;> rfl

@[simp] theorem remove_servers (efd fd : Int) :
    (world.remove efd fd).servers = world.servers := by
  unfold World.remove
  split <;> rfl

@[simp] theorem remove_capability (efd fd : Int) :
    (world.remove efd fd).capability = world.capability := by
  unfold World.remove
  split <;> rfl

theorem initializeClient_frame (id : ClientId) (label : Text) (index : Nat) (reply : Reply)
    (granted : Bool) :
    (world.initializeClient id label index reply granted).servers = world.servers ∧
      (world.initializeClient id label index reply granted).capability = world.capability := by
  obtain ⟨table, sent, fd, result, _⟩ :=
    requestSession_arrives world id.kind.protocol label reply
  simp only [World.initializeClient, result]
  split
  · exact ⟨rfl, rfl⟩
  · split
    · exact ⟨rfl, rfl⟩
    · split <;> simp [World.setClient]

theorem finalizeClient_frame (id : ClientId) :
    (world.finalizeClient id).servers = world.servers ∧
      (world.finalizeClient id).capability = world.capability := by
  simp only [World.finalizeClient]
  split
  · exact ⟨rfl, rfl⟩
  · simp [World.setClient]

theorem initializeDispatcher_frame (id : ServiceId) (index : Nat) :
    (world.initializeDispatcher id index).servers = world.servers ∧
      (world.initializeDispatcher id index).capability = world.capability := by
  simp only [World.initializeDispatcher]
  split <;> exact ⟨rfl, rfl⟩

theorem register_frame (id : ServiceId) (reply : Reply) (granted : Bool) :
    (world.register id reply granted).servers = world.servers ∧
      (world.register id reply granted).capability = world.capability := by
  obtain ⟨table, sent, fd, result, _⟩ :=
    registerService_arrives world (world.dispatchers id).brokerFd id.kind.protocol reply
  simp only [World.register, result]
  split
  · exact ⟨rfl, rfl⟩
  · split <;> simp [World.setDispatcher]

theorem plain_frame (operation : Operation) (plain : operation.plain = true) :
    (world.step operation).servers = world.servers ∧
      (world.step operation).capability = world.capability := by
  cases operation with
  | initializeClient id label index reply granted =>
      exact initializeClient_frame world id label index reply granted
  | finalizeClient id => exact finalizeClient_frame world id
  | initializeDispatcher id index => exact initializeDispatcher_frame world id index
  | register id reply granted => exact register_frame world id reply granted
  | _ => cases plain

theorem sessionAccept_frame (kind : ServiceKind) (dispatcher capability server : Nat)
    (granted : Bool) :
    (world.sessionAccept kind dispatcher capability server granted).servers = world.servers ∧
      (world.sessionAccept kind dispatcher capability server granted).capability =
        world.capability := by
  simp [World.sessionAccept, World.setDispatcher, World.send]

theorem sessionInitialize_frame (kind : ServiceKind) (dispatcher capability server : Nat)
    (index : Nat) (map : Option Nat) (ready : Bool) (other : ServiceId)
    (different : other ≠ ⟨kind, server⟩) :
    (world.sessionInitialize kind dispatcher capability server index map ready).servers other =
        world.servers other ∧
      (world.sessionInitialize kind dispatcher capability server index map ready).capability =
        world.capability := by
  simp only [World.sessionInitialize]
  split
  · split <;> simp [World.setServer, World.setCapability, World.mmap, different]
  · split
    · simp [World.setCapability]
    · split <;> simp [World.setServer, World.setCapability, different]

theorem sessionCleanup_frame (kind : ServiceKind) (dispatcher capability server : Nat)
    (other : ServiceId) (different : other ≠ ⟨kind, server⟩) :
    (world.sessionCleanup kind dispatcher capability server).servers other =
        world.servers other ∧
      (world.sessionCleanup kind dispatcher capability server).capability =
        world.capability := by
  simp only [World.sessionCleanup]
  split
  · split <;> simp [World.setServer, different]
  · exact ⟨rfl, rfl⟩

theorem receiveRequest_servers (id : ServiceId) (reply : Reply) :
    (world.receiveRequest id reply).servers = world.servers := by
  simp only [World.receiveRequest]
  split
  · rfl
  · split <;> rfl

theorem dispatchError_servers (id : ServiceId) (fd : Int) :
    (world.dispatchError id fd).servers = world.servers := by
  simp only [World.dispatchError]
  split
  · rfl
  · split
    · split <;> simp [World.setDispatcher]
    · rfl

end Frames

/-! A turn for another registration. -/

/-- The server session `own` is as it was, and the capability of dispatcher `id` does not end it. -/
structure Spared (own id : ServiceId) (session : ServerSession) (world : World) : Prop where
  same : world.servers own = session
  clean : (world.capability id).cleanFd ≠ session.eventFd own.kind

namespace Spared

variable {own id : ServiceId} {session : ServerSession} {world : World}

theorem congr {after : World} (spared : Spared own id session world)
    (frame : after.servers own = world.servers own ∧ after.capability = world.capability) :
    Spared own id session after := by
  refine ⟨frame.1.trans spared.same, ?_⟩
  rw [frame.2]
  exact spared.clean

theorem plain (spared : Spared own id session world) (operation : Operation)
    (plain : operation.plain = true) : Spared own id session (world.step operation) := by
  obtain ⟨servers, capability⟩ := plain_frame world operation plain
  exact spared.congr ⟨by rw [servers], capability⟩

theorem step (spared : Spared own id session world)
    (initialized : session.initialized own.kind = true) (operation : Operation)
    (callable : operation.callable id = true) (precondition : Precondition world operation) :
    Spared own id session (world.step operation) := by
  cases operation with
  | sessionInitialize kind dispatcher capability server index map ready =>
      apply spared.congr
      apply sessionInitialize_frame
      rintro rfl
      have idle := precondition.2.2
      rw [spared.same, initialized] at idle
      cases idle
  | sessionAccept kind dispatcher capability server granted =>
      obtain ⟨servers, same⟩ :=
        sessionAccept_frame world kind dispatcher capability server granted
      exact spared.congr ⟨congrFun servers own, same⟩
  | sessionCleanup kind dispatcher capability server =>
      simp only [Operation.callable, decide_eq_true_eq] at callable
      subst callable
      by_cases target : own = ⟨kind, server⟩
      · subst target
        have clean := spared.clean
        rw [← spared.same] at clean
        have kept : world.sessionCleanup kind dispatcher capability server = world :=
          if_neg fun cleans => clean cleans.2.1
        rw [World.step, kept]
        exact spared
      · exact spared.congr
          (sessionCleanup_frame world kind dispatcher capability server own target)
  | initializeClient _ _ _ _ _ => exact spared.plain _ rfl
  | finalizeClient _ => exact spared.plain _ rfl
  | initializeDispatcher _ _ => exact spared.plain _ rfl
  | register _ _ _ => exact spared.plain _ rfl
  | receiveRequest _ _ => cases callable
  | receiveDisconnect _ _ => cases callable
  | reject _ _ _ => cases callable
  | dispatchError _ _ => cases callable

theorem callback (spared : Spared own id session world)
    (initialized : session.initialized own.kind = true) (operations : List Operation)
    (allowed : EachStep World.step
      (fun world operation => operation.callable id = true ∧ Permitted world operation) world
      operations) : Spared own id session (run World.step world operations) :=
  run_invariant_of_eachStep World.step (Spared own id session) _
    (fun _ operation kept meets => kept.step initialized operation meets.1 meets.2.1) world
    operations spared allowed

end Spared

theorem receiveRequest_cleanFd (world : World) (id : ServiceId) (action : ActionType)
    (kind : KindType) (name label : SessionLabel) (offered : List Int) (stale : Nat → Int)
    (serves : Serves world id) :
    ((world.receiveRequest id ⟨.valid action kind name label, offered, stale⟩).capability
      id).cleanFd = -1 := by
  rw [receiveRequest_valid world id action kind name label offered stale serves]
  simp only [World.setCapability, Function.update_self]
  rfl

theorem reject_servers (world : World) (id : ServiceId) (name label : SessionLabel) :
    (world.reject id name label).servers = world.servers := by
  simp only [World.reject]
  split <;> rfl

/-- `Dispatch` gets a request that ends no session, or the descriptor that was hung up. -/
theorem dispatchEvent_spares (world : World) (own id : ServiceId)
    (initialized : (world.servers own).initialized own.kind = true) (fd : Int)
    (different : fd ≠ (world.servers own).eventFd own.kind) (reply : Reply)
    (callback : List Operation)
    (allowed : Allowed world (.handler .dispatchEvent (.dispatcher id) fd) reply callback) :
    (world.dispatchEvent id fd reply callback).servers own = world.servers own := by
  have open_ := eventFd_valid initialized
  simp only [World.dispatchEvent]
  split
  · rfl
  · rename_i guard
    split
    · rename_i request
      simp only [Allowed, if_pos request] at allowed
      obtain ⟨message, offered, stale⟩ := reply
      cases message with
      | invalid => rw [receiveRequest_servers]
      | valid action kind name label =>
          have serves : Serves world id := by
            simpa [Serves, DispatcherSession.registered] using guard
          have spared : Spared own id (world.servers own)
              (world.receiveRequest id ⟨.valid action kind name label, offered, stale⟩) := by
            refine ⟨by rw [receiveRequest_servers], ?_⟩
            rw [receiveRequest_cleanFd world id action kind name label offered stale serves]
            exact (ne_of_valid open_).symm
          simp only [reject_servers]
          exact (spared.callback initialized callback allowed).same
    · rename_i disconnect
      simp only [Allowed, if_neg disconnect] at allowed
      have spared : Spared own id (world.servers own) (world.receiveDisconnect id fd) := by
        simp only [World.receiveDisconnect, guard, Bool.false_eq_true, if_false]
        refine ⟨rfl, ?_⟩
        simp only [World.setCapability, Function.update_self]
        exact different
      exact (spared.callback initialized callback allowed).same

theorem plain_run_servers (world : World) (callback : List Operation)
    (allowed : EachStep World.step
      (fun world operation => operation.plain = true ∧ Permitted world operation) world callback) :
    (run World.step world callback).servers = world.servers :=
  run_invariant_of_eachStep World.step (fun after => after.servers = world.servers) _
    (fun after operation kept meets => (plain_frame after operation meets.1).1.trans kept) world
    callback rfl allowed

/-- A turn for another registration leaves an initialized server session as it is. -/
theorem turn_spares {world : World} (sound : Sound world) (own : ServiceId)
    (initialized : (world.servers own).initialized own.kind = true) {fd : Int} {ref : Ref}
    (registered : (fd, ref) ∈ world.registrations) (other : ref ≠ .server own) (event : Event)
    (reply : Reply) (callback : List Operation)
    (allowed : Allowed world (world.eventHandler (some ref) event) reply callback) :
    (world.handle (world.eventHandler (some ref) event) reply callback).servers own =
      world.servers own := by
  have active : world.active ref = some fd := sound.backed _ registered
  have different : fd ≠ (world.servers own).eventFd own.kind := by
    rintro rfl
    exact other (sound.active_injective active (if_pos initialized))
  obtain ⟨_, _, calls⟩ := (sound.issued ref fd active).callable
  obtain ⟨handler, context, called⟩ := calls (getType event)
  rw [World.eventHandler, called] at allowed ⊢
  unfold World.handle
  split
  · rename_i same
    cases same
    exact dispatchEvent_spares world own _ initialized fd different reply callback allowed
  · rw [dispatchError_servers]
  · rename_i same
    cases same
    rw [plain_run_servers world callback allowed]
  · rfl

/-- `Session_Event` is called for the session whose registration was reported. -/
theorem Issued.context {cap : EventCap} {fd other : Int} {ref : Ref} {id : ServiceId}
    {type : EventType} (issued : Issued cap fd ref)
    (called : cap.call type = .handler .sessionEvent (.server id) other) : ref = .server id := by
  cases ref with
  | client client =>
      rw [issued] at called
      cases type <;> cases called
  | dispatcher dispatcher =>
      rw [issued] at called
      cases type <;> cases called
  | server server =>
      obtain ⟨dispatcher, rfl⟩ := issued
      cases type <;> cases called
      rfl

end Gneiss.Component
