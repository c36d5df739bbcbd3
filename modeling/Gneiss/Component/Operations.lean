import Gneiss.Library.Runs
import Gneiss.Platform.Syscall
import Gneiss.Component.State

/-!
What a component does with its sessions. Every answer of the environment is an argument: the reply
of the broker, whether `epoll_ctl` adds a descriptor, the address `mmap` returns, and what the
server's `Ready` says. `Dispatch_Event` calls the component's `Dispatch` in the middle, so it is
split there: what it does before the call (`receiveRequest` on the dispatch descriptor,
`receiveDisconnect` on any other) and behind it (`reject`). A request can arrive with fewer
descriptors than the dispatcher has slots, and then `read_message` copies words into the others that
the control buffer held before.
-/

namespace Gneiss.Component

open Descriptors Runs

/-- What a receive call finds: the message, the numbers the kernel has for the descriptors that come
with it, and the words of the control buffer before the call. -/
structure Reply where
  message : BrokerMessage
  offered : List Int
  stale : Nat → Int

def Reply.isOf (reply : Reply) (kind : KindType) : Bool :=
  match reply.message with
  | .valid _ other _ _ => decide (other = kind)
  | .invalid => false

def Reply.words (reply : Reply) (num : Nat) : Syscall.ControlBuffer num :=
  ⟨(List.range (Syscall.controlWords num)).map reply.stale, by simp⟩

/-- The `num` slots that `read_message` fills if the descriptors `arrived` came. -/
def Reply.slots (reply : Reply) (num : Nat) (arrived : List Int) : List Int :=
  Syscall.readMessage num (Syscall.recvmsg num (Syscall.writeMessage arrived)
    (fun index => arrived.getD index (-1)) (reply.words num))

theorem Reply.slots_getD (reply : Reply) (num : Nat) (arrived : List Int) (slot : Nat)
    (bound : slot < num) (small : num ≤ 4) :
    (reply.slots num arrived).getD slot (-1) =
      if arrived = [] then -1
      else if slot < arrived.length then arrived.getD slot (-1) else reply.stale slot := by
  have room := (Syscall.controlWords_bounds num).1
  have word : (reply.words num).val.getD slot (-1) = reply.stale slot := by
    rw [Reply.words, List.getD_eq_getElem _ _ (by simp; omega), List.getElem_map,
      List.getElem_range]
  rw [Reply.slots]
  split
  · rename_i nothing
    rw [nothing, Syscall.readMessage_nothing]
    simp [bound]
  · rename_i some_
    have positive := List.length_pos_iff.mpr some_
    rw [List.getD_eq_getElem?_getD, Syscall.readMessage_slot num arrived _ _ slot bound positive,
      Option.getD_some, if_pos (show slot < arrived.length + 4 by omega), word]

/-- A receive call for one descriptor never reads a stale word. -/
theorem Reply.slots_one (reply : Reply) (arrived : List Int) :
    (reply.slots 1 arrived).headD (-1) = arrived.headD (-1) := by
  have first := reply.slots_getD 1 arrived 0 (by omega) (by omega)
  rw [List.headD_eq_head?_getD, List.head?_eq_getElem?, ← List.getD_eq_getElem?_getD, first]
  cases arrived <;> simp

def offeredCapability (kind : ServiceKind) (name label : SessionLabel) (fds : List Int) :
    DispatcherCapability where
  memfd := if kind = .memory then fds.getD 2 (-1) else -1
  clientFd := fds.getD 0 (-1)
  serverFd := fds.getD 1 (-1)
  cleanFd := -1
  name := name
  label := label

theorem validSessionRequest_iff (kind : ServiceKind) (name label : SessionLabel)
    (fds : List Int) :
    validSessionRequest kind (offeredCapability kind name label fds) = true ↔
      ∀ slot < kind.slots, valid (fds.getD slot (-1)) = true := by
  have two : ∀ property : Nat → Prop, (∀ slot < 2, property slot) ↔ property 0 ∧ property 1 := by
    intro property
    constructor
    · exact fun all => ⟨all 0 (by omega), all 1 (by omega)⟩
    · rintro ⟨first, second⟩ slot bound
      rcases (by omega : slot = 0 ∨ slot = 1) with rfl | rfl
      · exact first
      · exact second
  cases kind with
  | message bufferSize =>
      simp only [validSessionRequest, offeredCapability, ServiceKind.slots, two, Bool.and_eq_true]
  | log =>
      simp only [validSessionRequest, offeredCapability, ServiceKind.slots, two, Bool.and_eq_true]
  | memory =>
      simp only [validSessionRequest, offeredCapability, ServiceKind.slots, if_true,
        Bool.and_eq_true]
      constructor
      · rintro ⟨⟨third, first⟩, second⟩ slot bound
        rcases (by omega : slot = 0 ∨ slot = 1 ∨ slot = 2) with rfl | rfl | rfl
        · exact first
        · exact second
        · exact third
      · exact fun all => ⟨⟨all 2 (by omega), all 0 (by omega)⟩, all 1 (by omega)⟩

namespace World

/-- `recvmsg` for `num` slots: the descriptors that arrive are open from then on. It installs as
many of them as the control buffer has room for. -/
def install (world : World) (num : Nat) (reply : Reply) : World × List Int :=
  let (table, fds) := world.table.receive (reply.offered.take (Syscall.controlWords num))
  ({ world with table := table }, fds.filter valid)

/-- `Gneiss_Internal.Client.Initialize` for one descriptor. A longer label fails the range check of
`Lbl.Last` before anything is sent. -/
def requestSession (world : World) (kind : KindType) (label : Text) (reply : Reply) :
    World × Int :=
  if 255 < label.length then (world, -1)
  else
    let world := world.send ⟨world.brokerFd, .request, kind, [], label, []⟩
    let (world, arrived) := world.install 1 reply
    if reply.isOf kind then (world, (reply.slots 1 arrived).headD (-1)) else (world, -1)

/-- `Gneiss_Internal.Client.Register`. -/
def registerService (world : World) (brokerFd : Int) (kind : KindType) (reply : Reply) :
    World × Int :=
  let world := world.send ⟨brokerFd, .register, kind, [], [], []⟩
  let (world, arrived) := world.install 1 reply
  let fd := (reply.slots 1 arrived).headD (-1)
  if reply.isOf kind && valid fd then (world, fd) else (world, -1)

end World

def clientCap (id : ClientId) (fd : Int) : EventCap :=
  .create .sessionEvent .sessionError (.client id) (.client id) fd

def dispatchCap (id : ServiceId) (fd : Int) : EventCap :=
  .create .dispatchEvent .dispatchError (.dispatcher id) (.dispatcher id) fd

def serverCap (id dispatcher : ServiceId) (fd : Int) : EventCap :=
  .create .sessionEvent .dispatchEvent (.server id) (.dispatcher dispatcher) fd

namespace World

/-- `Initialize` of a message or timer client. Only message sessions store, and check, a label. -/
def initializeClient (world : World) (id : ClientId) (label : Text) (index : Nat) (reply : Reply)
    (granted : Bool) : World :=
  let session := world.clients id
  if session.initialized id.kind || id.kind.protocol = .message && decide (255 < label.length) ||
      !id.kind.supported then world
  else
    let (world, fd) := world.requestSession id.kind.protocol label reply
    if valid fd = false then world
    else
      let world := world.setClient id { session with eCap := clientCap id fd }
      let (world, success) := world.add world.epollFd fd (.client id) granted
      if success = false then
        (world.close fd).setClient id { session with eCap := .invalid }
      else world.setClient id ⟨fd, world.epollFd, some index, clientCap id fd⟩

/-- `Finalize` of a message or timer client. Only timer sessions reset their epoll descriptor. -/
def finalizeClient (world : World) (id : ClientId) : World :=
  let session := world.clients id
  if session.initialized id.kind = false then world
  else
    let world := world.remove session.efd session.fd
    let world := world.close session.fd
    let efd := match id.kind with
      | .timer => -1
      | .message _ => session.efd
    world.setClient id ⟨-1, efd, none, .invalid⟩

/-- `Initialize` of a dispatcher, which the log package does without the check. -/
def initializeDispatcher (world : World) (id : ServiceId) (index : Nat) : World :=
  let session := world.dispatchers id
  if session.initialized && decide (id.kind ≠ .log) then world
  else world.setDispatcher id { session with
    efd := world.epollFd
    index := some index
    brokerFd := world.brokerFd }

def register (world : World) (id : ServiceId) (reply : Reply) (granted : Bool) : World :=
  let session := world.dispatchers id
  if valid session.dispatchFd then world
  else
    let (world, fd) := world.registerService session.brokerFd id.kind.protocol reply
    if valid fd then
      let world := world.setDispatcher id
        { session with dispatchFd := fd, eCap := dispatchCap id fd }
      (world.add session.efd fd (.dispatcher id) granted).1
    else world.setDispatcher id { session with dispatchFd := fd }

/-- `Dispatch_Event` on the dispatch descriptor, up to the call of `Dispatch`. -/
def receiveRequest (world : World) (id : ServiceId) (reply : Reply) : World :=
  let session := world.dispatchers id
  if session.initialized = false || valid session.dispatchFd = false then world
  else
    let world := world.setDispatcher id { session with accepted := false }
    let (world, arrived) := world.install id.kind.slots reply
    match reply.message with
    -- The name of an invalid message fails a discriminant check, which ends the process.
    | .invalid => world
    | .valid _ kind name label =>
        let fds := if kind = id.kind.protocol then reply.slots id.kind.slots arrived
          else List.replicate id.kind.slots (-1)
        world.setCapability id (offeredCapability id.kind name label fds) false

/-- `Dispatch_Event` on a descriptor that a client hung up. -/
def receiveDisconnect (world : World) (id : ServiceId) (fd : Int) : World :=
  let session := world.dispatchers id
  if session.initialized = false || valid session.dispatchFd = false then world
  else world.setCapability id ⟨-1, -1, -1, fd, .empty, .empty⟩ false

/-- `Dispatch_Event` behind the call of `Dispatch`. -/
def reject (world : World) (id : ServiceId) (name label : SessionLabel) : World :=
  let session := world.dispatchers id
  if session.accepted then world
  else world.send ⟨session.dispatchFd, .reject, id.kind.protocol, name.text, label.text, []⟩

def dispatchError (world : World) (id : ServiceId) (fd : Int) : World :=
  let session := world.dispatchers id
  if session.initialized = false then world
  else if fd = session.dispatchFd ∧ valid session.dispatchFd = true then
    let world := world.remove session.efd session.dispatchFd
    match id.kind with
    | .log => (world.close session.efd).setDispatcher id { session with efd := -1 }
    | _ => world
  else world

def sessionInitialize (world : World) (kind : ServiceKind) (dispatcher capability server : Nat)
    (index : Nat) (map : Option Nat) (ready : Bool) : World :=
  let cap := world.capability ⟨kind, capability⟩
  let session := world.servers ⟨kind, server⟩
  let eCap := serverCap ⟨kind, server⟩ ⟨kind, dispatcher⟩ cap.serverFd
  let world := world.setCapability ⟨kind, capability⟩ cap true
  match kind with
  | .memory =>
      let world := world.mmap map
      if ready && map.isSome then
        world.setServer ⟨kind, server⟩ ⟨cap.memfd, cap.serverFd, map, some index, eCap⟩
      else
        let world := (world.close cap.memfd).close cap.serverFd
        world.setServer ⟨kind, server⟩ ⟨-1, -1, none, none, .invalid⟩
  | _ =>
      if kind.supported = false then world
      else if ready then
        world.setServer ⟨kind, server⟩
          { session with fd := cap.serverFd, index := some index, eCap := eCap }
      else
        let world := world.close cap.serverFd
        world.setServer ⟨kind, server⟩
          { session with fd := -1, index := none, eCap := .invalid }

/-- `Session_Accept`; `Confirm` sends the client's descriptor and leaves it open. -/
def sessionAccept (world : World) (kind : ServiceKind) (dispatcher capability server : Nat)
    (granted : Bool) : World :=
  let session := world.dispatchers ⟨kind, dispatcher⟩
  let cap := world.capability ⟨kind, capability⟩
  let fd := (world.servers ⟨kind, server⟩).eventFd kind
  let world := (world.add session.efd fd (.server ⟨kind, server⟩) granted).1
  let world := world.send ⟨session.dispatchFd, .confirm, kind.protocol, cap.name.text,
    cap.label.text, [cap.clientFd]⟩
  world.setDispatcher ⟨kind, dispatcher⟩ { session with accepted := true }

/-- `Session_Cleanup`. Log sessions do not ask whether `Clean_Fd` is valid. -/
def sessionCleanup (world : World) (kind : ServiceKind) (dispatcher capability server : Nat) :
    World :=
  let session := world.servers ⟨kind, server⟩
  let cleanFd := (world.capability ⟨kind, capability⟩).cleanFd
  if (kind = .log ∨ valid cleanFd = true) ∧ cleanFd = session.eventFd kind ∧
      session.initialized kind = true then
    let world := world.remove (world.dispatchers ⟨kind, dispatcher⟩).efd (session.eventFd kind)
    match kind with
    | .memory =>
        ((world.close session.sigfd).close session.fd).setServer ⟨kind, server⟩
          { session with fd := -1, sigfd := -1, index := none, eCap := .invalid }
    | _ =>
        (world.close session.fd).setServer ⟨kind, server⟩
          { session with fd := -1, index := none, eCap := .invalid }
  else world

end World

inductive Operation where
  | initializeClient (id : ClientId) (label : Text) (index : Nat) (reply : Reply) (granted : Bool)
  | finalizeClient (id : ClientId)
  | initializeDispatcher (id : ServiceId) (index : Nat)
  | register (id : ServiceId) (reply : Reply) (granted : Bool)
  | receiveRequest (id : ServiceId) (reply : Reply)
  | receiveDisconnect (id : ServiceId) (fd : Int)
  | reject (id : ServiceId) (name label : SessionLabel)
  | dispatchError (id : ServiceId) (fd : Int)
  | sessionInitialize (kind : ServiceKind) (dispatcher capability server : Nat) (index : Nat)
      (map : Option Nat) (ready : Bool)
  | sessionAccept (kind : ServiceKind) (dispatcher capability server : Nat) (granted : Bool)
  | sessionCleanup (kind : ServiceKind) (dispatcher capability server : Nat)

def World.step (world : World) : Operation → World
  | .initializeClient id label index reply granted =>
      world.initializeClient id label index reply granted
  | .finalizeClient id => world.finalizeClient id
  | .initializeDispatcher id index => world.initializeDispatcher id index
  | .register id reply granted => world.register id reply granted
  | .receiveRequest id reply => world.receiveRequest id reply
  | .receiveDisconnect id fd => world.receiveDisconnect id fd
  | .reject id name label => world.reject id name label
  | .dispatchError id fd => world.dispatchError id fd
  | .sessionInitialize kind dispatcher capability server index map ready =>
      world.sessionInitialize kind dispatcher capability server index map ready
  | .sessionAccept kind dispatcher capability server granted =>
      world.sessionAccept kind dispatcher capability server granted
  | .sessionCleanup kind dispatcher capability server =>
      world.sessionCleanup kind dispatcher capability server

def Serves (world : World) (id : ServiceId) : Prop :=
  (world.dispatchers id).initialized = true ∧ (world.dispatchers id).registered = true

theorem Serves.unguarded {world : World} {id : ServiceId} (serves : Serves world id) :
    ((world.dispatchers id).initialized = false ||
      valid (world.dispatchers id).dispatchFd = false) = false := by
  have registered : valid (world.dispatchers id).dispatchFd = true := serves.2
  simp [serves.1, registered]

theorem receiveRequest_valid (world : World) (id : ServiceId) (action : ActionType)
    (kind : KindType) (name label : SessionLabel) (offered : List Int) (stale : Nat → Int)
    (serves : Serves world id) :
    world.receiveRequest id ⟨.valid action kind name label, offered, stale⟩ =
      { world.setDispatcher id { world.dispatchers id with accepted := false } with
        table := (world.install id.kind.slots
          ⟨.valid action kind name label, offered, stale⟩).1.table }.setCapability id
        (offeredCapability id.kind name label (if kind = id.kind.protocol then
          Reply.slots ⟨.valid action kind name label, offered, stale⟩ id.kind.slots
            (world.install id.kind.slots ⟨.valid action kind name label, offered, stale⟩).2
          else List.replicate id.kind.slots (-1))) false := by
  simp only [World.receiveRequest, serves.unguarded, Bool.false_eq_true, if_false]
  rfl

/-- The preconditions of the dispatcher packages, less what they ask of `Ready`. -/
def Precondition (world : World) : Operation → Prop
  | .register id _ _ => (world.dispatchers id).initialized = true
  | .sessionInitialize kind dispatcher capability server _ _ _ =>
      Serves world ⟨kind, dispatcher⟩ ∧
        validSessionRequest kind (world.capability ⟨kind, capability⟩) = true ∧
        (world.servers ⟨kind, server⟩).initialized kind = false
  | .sessionAccept kind dispatcher capability server _ =>
      Serves world ⟨kind, dispatcher⟩ ∧
        validSessionRequest kind (world.capability ⟨kind, capability⟩) = true ∧
        (world.servers ⟨kind, server⟩).initialized kind = true
  | .sessionCleanup kind dispatcher _ _ => Serves world ⟨kind, dispatcher⟩
  | _ => True

/-- A capability is used for one `Session_Initialize` at most. -/
def UsedOnce (world : World) : Operation → Prop
  | .sessionInitialize kind _ capability _ _ _ _ => world.spent ⟨kind, capability⟩ = false
  | _ => True

def Permitted (world : World) (operation : Operation) : Prop :=
  Precondition world operation ∧ UsedOnce world operation

/-- A request of the dispatcher's kind arrives with some of its descriptors, and every slot without
one gets a stale word that passes for a descriptor. -/
def Mixed (world : World) (id : ServiceId) (reply : Reply) : Prop :=
  Serves world id ∧ reply.isOf id.kind.protocol = true ∧
    (world.install id.kind.slots reply).2 ≠ [] ∧
    (world.install id.kind.slots reply).2.length < id.kind.slots ∧
    ∀ slot < id.kind.slots, (world.install id.kind.slots reply).2.length ≤ slot →
      valid (reply.stale slot) = true

def Unmixed (world : World) : Operation → Prop
  | .receiveRequest id reply => ¬Mixed world id reply
  | _ => True

/-- The packages allow the operation, and no stale word is taken for a descriptor. -/
def Proper (world : World) (operation : Operation) : Prop :=
  Permitted world operation ∧ Unmixed world operation

instance (world : World) (id : ServiceId) : Decidable (Serves world id) :=
  inferInstanceAs (Decidable (_ ∧ _))

instance (world : World) : (operation : Operation) → Decidable (Precondition world operation)
  | .initializeClient .. => inferInstanceAs (Decidable True)
  | .finalizeClient _ => inferInstanceAs (Decidable True)
  | .initializeDispatcher .. => inferInstanceAs (Decidable True)
  | .register .. => inferInstanceAs (Decidable (_ = true))
  | .receiveRequest .. => inferInstanceAs (Decidable True)
  | .receiveDisconnect .. => inferInstanceAs (Decidable True)
  | .reject .. => inferInstanceAs (Decidable True)
  | .dispatchError .. => inferInstanceAs (Decidable True)
  | .sessionInitialize .. => inferInstanceAs (Decidable (_ ∧ _ = true ∧ _ = false))
  | .sessionAccept .. => inferInstanceAs (Decidable (_ ∧ _ = true ∧ _ = true))
  | .sessionCleanup .. => inferInstanceAs (Decidable (Serves world _))

instance (world : World) : (operation : Operation) → Decidable (UsedOnce world operation)
  | .sessionInitialize .. => inferInstanceAs (Decidable (_ = false))
  | .initializeClient .. => inferInstanceAs (Decidable True)
  | .finalizeClient _ => inferInstanceAs (Decidable True)
  | .initializeDispatcher .. => inferInstanceAs (Decidable True)
  | .register .. => inferInstanceAs (Decidable True)
  | .receiveRequest .. => inferInstanceAs (Decidable True)
  | .receiveDisconnect .. => inferInstanceAs (Decidable True)
  | .reject .. => inferInstanceAs (Decidable True)
  | .dispatchError .. => inferInstanceAs (Decidable True)
  | .sessionAccept .. => inferInstanceAs (Decidable True)
  | .sessionCleanup .. => inferInstanceAs (Decidable True)

instance (world : World) (operation : Operation) : Decidable (Permitted world operation) :=
  inferInstanceAs (Decidable (_ ∧ _))

instance (world : World) (id : ServiceId) (reply : Reply) : Decidable (Mixed world id reply) :=
  inferInstanceAs (Decidable (_ ∧ _ = true ∧ _ ≠ [] ∧ _ < _ ∧ ∀ slot < _, _ ≤ slot → _ = true))

instance (world : World) : (operation : Operation) → Decidable (Unmixed world operation)
  | .receiveRequest .. => inferInstanceAs (Decidable ¬_)
  | .initializeClient .. => inferInstanceAs (Decidable True)
  | .finalizeClient _ => inferInstanceAs (Decidable True)
  | .initializeDispatcher .. => inferInstanceAs (Decidable True)
  | .register .. => inferInstanceAs (Decidable True)
  | .receiveDisconnect .. => inferInstanceAs (Decidable True)
  | .reject .. => inferInstanceAs (Decidable True)
  | .dispatchError .. => inferInstanceAs (Decidable True)
  | .sessionInitialize .. => inferInstanceAs (Decidable True)
  | .sessionAccept .. => inferInstanceAs (Decidable True)
  | .sessionCleanup .. => inferInstanceAs (Decidable True)

instance (world : World) (operation : Operation) : Decidable (Proper world operation) :=
  inferInstanceAs (Decidable (_ ∧ _))

def Reachable (world : World) : Prop :=
  ∃ opened epollFd brokerFd operations,
    epollFd ∈ opened ∧ valid epollFd = true ∧ valid brokerFd = true ∧
      EachStep World.step Proper (World.start opened epollFd brokerFd) operations ∧
      world = run World.step (World.start opened epollFd brokerFd) operations

end Gneiss.Component
