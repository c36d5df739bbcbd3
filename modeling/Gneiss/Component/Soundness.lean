import Gneiss.Library.Registry
import Gneiss.Component.Operations

/-!
What the epoll set of a component refers to. As long as the set exists, every descriptor that a
session stores is open and stored once, a session that is registered can be called on the descriptor
it is registered with, and `E_Cap` has the handlers of that session.
-/

namespace Gneiss.Component

open Descriptors Registry Runs

/-- The variables that hold a descriptor to be closed by an operation. A capability holds those of a
valid request until it is spent. -/
inductive Place where
  | epoll
  | client (id : ClientId)
  | dispatcher (id : ServiceId)
  | event (id : ServiceId)
  | data (id : ServiceId)
  | request (id : ServiceId)
  | memory (id : ServiceId)
  deriving DecidableEq

def ServerSession.dataFd (kind : ServiceKind) (session : ServerSession) : Int :=
  match kind with
  | .memory => session.fd
  | _ => -1

def requestFd (kind : ServiceKind) (cap : DispatcherCapability) (spent : Bool) : Int :=
  if spent = false ∧ validSessionRequest kind cap = true then cap.serverFd else -1

def memoryFd (kind : ServiceKind) (cap : DispatcherCapability) (spent : Bool) : Int :=
  if spent = false ∧ validSessionRequest kind cap = true ∧ kind = .memory then cap.memfd else -1

def ClientSession.active (kind : ClientKind) (session : ClientSession) : Option Int :=
  if session.initialized kind then some session.fd else none

def DispatcherSession.active (session : DispatcherSession) : Option Int :=
  if valid session.dispatchFd then some session.dispatchFd else none

def ServerSession.active (kind : ServiceKind) (session : ServerSession) : Option Int :=
  if session.initialized kind then some (session.eventFd kind) else none

namespace World

def stored (world : World) : Place → Int
  | .epoll => world.epollFd
  | .client id => (world.clients id).fd
  | .dispatcher id => (world.dispatchers id).dispatchFd
  | .event id => (world.servers id).eventFd id.kind
  | .data id => (world.servers id).dataFd id.kind
  | .request id => requestFd id.kind (world.capability id) (world.spent id)
  | .memory id => memoryFd id.kind (world.capability id) (world.spent id)

def active (world : World) : Ref → Option Int
  | .client id => (world.clients id).active id.kind
  | .dispatcher id => (world.dispatchers id).active
  | .server id => (world.servers id).active id.kind

end World

def Issued (cap : EventCap) (fd : Int) : Ref → Prop
  | .client id => cap = clientCap id fd
  | .dispatcher id => cap = dispatchCap id fd
  | .server id => ∃ dispatcher, cap = serverCap id dispatcher fd

theorem Issued.callable {cap : EventCap} {fd : Int} {ref : Ref} (issued : Issued cap fd ref) :
    cap.valid = true ∧ cap.fd = fd ∧
      ∀ type, ∃ handler context, cap.call type = .handler handler context fd := by
  have created : ∃ event error evCtx erCtx, cap = .create event error evCtx erCtx fd := by
    cases ref with
    | client id => exact ⟨_, _, _, _, issued⟩
    | dispatcher id => exact ⟨_, _, _, _, issued⟩
    | server id =>
        obtain ⟨_, same⟩ := issued
        exact ⟨_, _, _, _, same⟩
  obtain ⟨event, error, evCtx, erCtx, rfl⟩ := created
  refine ⟨rfl, rfl, ?_⟩
  intro type
  cases type with
  | epollEv => exact ⟨event, evCtx, rfl⟩
  | epollEr => exact ⟨error, erCtx, rfl⟩

structure Sound (world : World) : Prop where
  exists_ : world.epollOpen = true
  epoll : valid world.epollFd = true
  owned : Owned world.table world.stored
  backed : Backed world.active world.registrations
  issued : ∀ ref fd, world.active ref = some fd → Issued (world.eCap ref) fd ref
  clientEfd : ∀ id, (world.clients id).initialized id.kind = true →
    (world.clients id).efd = world.epollFd
  dispatcherEfd : ∀ id, valid (world.dispatchers id).efd = true →
    (world.dispatchers id).efd = world.epollFd

/-- The component's epoll set is gone. -/
def Closed (world : World) : Prop :=
  world.epollOpen = false ∧ world.registrations = []

/-! What the assignment of one session changes. -/

section Assignments

variable (world : World)

theorem stored_setClient (id : ClientId) (session : ClientSession) :
    (world.setClient id session).stored =
      Function.update world.stored (.client id) session.fd := by
  refine update_family Place.client world.clients id session
    (fun _ session => session.fd) (fun _ => rfl) (fun _ => rfl) ?_
  intro place other
  cases place with
  | client id => exact (other id rfl).elim
  | _ => rfl

theorem stored_setDispatcher (id : ServiceId) (session : DispatcherSession) :
    (world.setDispatcher id session).stored =
      Function.update world.stored (.dispatcher id) session.dispatchFd := by
  refine update_family Place.dispatcher world.dispatchers id session
    (fun _ session => session.dispatchFd) (fun _ => rfl) (fun _ => rfl) ?_
  intro place other
  cases place with
  | dispatcher id => exact (other id rfl).elim
  | _ => rfl

theorem stored_setServer (id : ServiceId) (session : ServerSession) :
    (world.setServer id session).stored =
      Function.update (Function.update world.stored (.event id) (session.eventFd id.kind))
        (.data id) (session.dataFd id.kind) := by
  funext place
  cases place with
  | event other =>
      rw [Function.update_of_ne (by simp)]
      by_cases same : other = id
      · subst same
        simp [World.stored, World.setServer]
      · simp [World.stored, World.setServer, Function.update_of_ne, same]
  | data other =>
      by_cases same : other = id
      · subst same
        simp [World.stored, World.setServer]
      · simp [World.stored, World.setServer, Function.update_of_ne, same]
  | _ => simp [World.stored, World.setServer]

theorem stored_setCapability (id : ServiceId) (cap : DispatcherCapability) (spent : Bool) :
    (world.setCapability id cap spent).stored =
      Function.update
        (Function.update world.stored (.request id) (requestFd id.kind cap spent))
        (.memory id) (memoryFd id.kind cap spent) := by
  funext place
  cases place with
  | request other =>
      rw [Function.update_of_ne (by simp)]
      by_cases same : other = id
      · subst same
        simp [World.stored, World.setCapability]
      · simp [World.stored, World.setCapability, Function.update_of_ne, same]
  | memory other =>
      by_cases same : other = id
      · subst same
        simp [World.stored, World.setCapability]
      · simp [World.stored, World.setCapability, Function.update_of_ne, same]
  | _ => simp [World.stored, World.setCapability]

theorem active_setClient (id : ClientId) (session : ClientSession) :
    (world.setClient id session).active =
      Function.update world.active (.client id) (session.active id.kind) := by
  refine update_family Ref.client world.clients id session
    (fun id session => session.active id.kind) (fun _ => rfl) (fun _ => rfl) ?_
  intro place other
  cases place with
  | client id => exact (other id rfl).elim
  | _ => rfl

theorem active_setDispatcher (id : ServiceId) (session : DispatcherSession) :
    (world.setDispatcher id session).active =
      Function.update world.active (.dispatcher id) session.active := by
  refine update_family Ref.dispatcher world.dispatchers id session
    (fun _ session => session.active) (fun _ => rfl) (fun _ => rfl) ?_
  intro place other
  cases place with
  | dispatcher id => exact (other id rfl).elim
  | _ => rfl

theorem active_setServer (id : ServiceId) (session : ServerSession) :
    (world.setServer id session).active =
      Function.update world.active (.server id) (session.active id.kind) := by
  refine update_family Ref.server world.servers id session
    (fun id session => session.active id.kind) (fun _ => rfl) (fun _ => rfl) ?_
  intro place other
  cases place with
  | server id => exact (other id rfl).elim
  | _ => rfl

theorem eCap_setClient (id : ClientId) (session : ClientSession) :
    (world.setClient id session).eCap =
      Function.update world.eCap (.client id) session.eCap := by
  refine update_family Ref.client world.clients id session
    (fun _ session => session.eCap) (fun _ => rfl) (fun _ => rfl) ?_
  intro place other
  cases place with
  | client id => exact (other id rfl).elim
  | _ => rfl

theorem eCap_setDispatcher (id : ServiceId) (session : DispatcherSession) :
    (world.setDispatcher id session).eCap =
      Function.update world.eCap (.dispatcher id) session.eCap := by
  refine update_family Ref.dispatcher world.dispatchers id session
    (fun _ session => session.eCap) (fun _ => rfl) (fun _ => rfl) ?_
  intro place other
  cases place with
  | dispatcher id => exact (other id rfl).elim
  | _ => rfl

theorem eCap_setServer (id : ServiceId) (session : ServerSession) :
    (world.setServer id session).eCap =
      Function.update world.eCap (.server id) session.eCap := by
  refine update_family Ref.server world.servers id session
    (fun _ session => session.eCap) (fun _ => rfl) (fun _ => rfl) ?_
  intro place other
  cases place with
  | server id => exact (other id rfl).elim
  | _ => rfl

end Assignments

theorem issued_update {active : Ref → Option Int} {eCap : Ref → EventCap}
    (issued : ∀ ref fd, active ref = some fd → Issued (eCap ref) fd ref) (key : Ref)
    (value : Option Int) (cap : EventCap) (new : ∀ fd, value = some fd → Issued cap fd key)
    (ref : Ref) (fd : Int) (called : Function.update active key value ref = some fd) :
    Issued (Function.update eCap key cap ref) fd ref := by
  by_cases same : ref = key
  · subst same
    rw [Function.update_self] at called ⊢
    exact new fd called
  · rw [Function.update_of_ne same] at called ⊢
    exact issued ref fd called

/-! One lemma for each thing an operation does to a sound world. -/

namespace Sound

variable {world : World}

theorem setClient (sound : Sound world) (id : ClientId) (session : ClientSession)
    {table : Table} {registrations : List (Int × Ref)}
    (owned : Owned table (Function.update world.stored (.client id) session.fd))
    (backed : Backed (Function.update world.active (.client id) (session.active id.kind))
      registrations)
    (issued : ∀ fd, session.active id.kind = some fd → Issued session.eCap fd (.client id))
    (efd : session.initialized id.kind = true → session.efd = world.epollFd) :
    Sound ({ world with table, registrations }.setClient id session) where
  exists_ := sound.exists_
  epoll := sound.epoll
  owned := by
    rw [stored_setClient]
    exact owned
  backed := by
    rw [active_setClient]
    exact backed
  issued := by
    rw [active_setClient, eCap_setClient]
    exact issued_update sound.issued (.client id) _ _ issued
  clientEfd := by
    intro other initialized
    by_cases same : other = id
    · subst same
      simp only [World.setClient, Function.update_self] at initialized ⊢
      exact efd initialized
    · simp only [World.setClient, Function.update_of_ne same] at initialized ⊢
      exact sound.clientEfd other initialized
  dispatcherEfd := sound.dispatcherEfd

theorem setDispatcher (sound : Sound world) (id : ServiceId) (session : DispatcherSession)
    {table : Table}
    (owned : Owned table
      (Function.update world.stored (.dispatcher id) session.dispatchFd))
    (backed : Backed (Function.update world.active (.dispatcher id) session.active)
      world.registrations)
    (issued : ∀ fd, session.active = some fd → Issued session.eCap fd (.dispatcher id))
    (efd : valid session.efd = true → session.efd = world.epollFd) :
    Sound ({ world with table }.setDispatcher id session) where
  exists_ := sound.exists_
  epoll := sound.epoll
  owned := by
    rw [stored_setDispatcher]
    exact owned
  backed := by
    rw [active_setDispatcher]
    exact backed
  issued := by
    rw [active_setDispatcher, eCap_setDispatcher]
    exact issued_update sound.issued (.dispatcher id) _ _ issued
  clientEfd := sound.clientEfd
  dispatcherEfd := by
    intro other initialized
    by_cases same : other = id
    · subst same
      simp only [World.setDispatcher, Function.update_self] at initialized ⊢
      exact efd initialized
    · simp only [World.setDispatcher, Function.update_of_ne same] at initialized ⊢
      exact sound.dispatcherEfd other initialized

theorem setServer (sound : Sound world) (id : ServiceId) (session : ServerSession)
    {table : Table} {registrations : List (Int × Ref)}
    (owned : Owned table (Function.update
      (Function.update world.stored (.event id) (session.eventFd id.kind))
      (.data id) (session.dataFd id.kind)))
    (backed : Backed (Function.update world.active (.server id) (session.active id.kind))
      registrations)
    (issued : ∀ fd, session.active id.kind = some fd → Issued session.eCap fd (.server id)) :
    Sound ({ world with table, registrations }.setServer id session) where
  exists_ := sound.exists_
  epoll := sound.epoll
  owned := by
    rw [stored_setServer]
    exact owned
  backed := by
    rw [active_setServer]
    exact backed
  issued := by
    rw [active_setServer, eCap_setServer]
    exact issued_update sound.issued (.server id) _ _ issued
  clientEfd := sound.clientEfd
  dispatcherEfd := sound.dispatcherEfd

theorem setCapability (sound : Sound world) (id : ServiceId) (cap : DispatcherCapability)
    (spent : Bool)
    (owned : Owned world.table (Function.update
      (Function.update world.stored (.request id) (requestFd id.kind cap spent))
      (.memory id) (memoryFd id.kind cap spent))) :
    Sound (world.setCapability id cap spent) where
  exists_ := sound.exists_
  epoll := sound.epoll
  owned := by
    rw [stored_setCapability]
    exact owned
  backed := sound.backed
  issued := sound.issued
  clientEfd := sound.clientEfd
  dispatcherEfd := sound.dispatcherEfd

theorem withSent (sound : Sound world) (sent : List Answer) : Sound { world with sent } :=
  ⟨sound.exists_, sound.epoll, sound.owned, sound.backed, sound.issued, sound.clientEfd,
    sound.dispatcherEfd⟩

theorem mmap (sound : Sound world) (map : Option Nat) : Sound (world.mmap map) :=
  ⟨sound.exists_, sound.epoll, sound.owned, sound.backed, sound.issued, sound.clientEfd,
    sound.dispatcherEfd⟩

/-- More descriptors are open than before. -/
theorem withTable (sound : Sound world) {table : Table}
    (owned : Owned table world.stored) : Sound { world with table } :=
  ⟨sound.exists_, sound.epoll, owned, sound.backed, sound.issued, sound.clientEfd,
    sound.dispatcherEfd⟩

theorem add (sound : Sound world) (efd : Int) {fd : Int} {ref : Ref} (granted : Bool)
    (called : world.active ref = some fd) : Sound (world.add efd fd ref granted).1 := by
  unfold World.add
  split
  · exact ⟨sound.exists_, sound.epoll, sound.owned, sound.backed.cons called, sound.issued,
      sound.clientEfd, sound.dispatcherEfd⟩
  · exact sound

theorem remove (sound : Sound world) (efd fd : Int) :
    Sound (world.remove efd fd) := by
  unfold World.remove
  split
  · exact ⟨sound.exists_, sound.epoll, sound.owned, sound.backed.filter _, sound.issued,
      sound.clientEfd, sound.dispatcherEfd⟩
  · exact sound

/-- A change that neither the set nor the stored descriptors notice. -/
theorem retuneDispatcher (sound : Sound world) (id : ServiceId)
    (session : DispatcherSession)
    (dispatchFd : session.dispatchFd = (world.dispatchers id).dispatchFd)
    (eCap : session.eCap = (world.dispatchers id).eCap)
    (efd : valid session.efd = true → session.efd = world.epollFd) :
    Sound (world.setDispatcher id session) := by
  have same : session.active = world.active (.dispatcher id) := by
    simp [DispatcherSession.active, World.active, dispatchFd]
  refine sound.setDispatcher id session ?_ ?_ ?_ efd
  · have unchanged : session.dispatchFd = world.stored (.dispatcher id) := dispatchFd
    rw [unchanged, Function.update_eq_self]
    exact sound.owned
  · rw [same, Function.update_eq_self]
    exact sound.backed
  · intro fd called
    rw [same] at called
    rw [eCap]
    exact sound.issued (.dispatcher id) fd called

/-! What the calls of the kernel come to. -/

theorem ne_epoll (sound : Sound world) (place : Place) (other : place ≠ .epoll) :
    world.stored place ≠ world.epollFd := by
  intro equal
  have same := sound.owned.distinct .epoll place sound.epoll equal.symm
  exact other same.symm

theorem close_ne (world : World) (fd : Int) (different : fd ≠ world.epollFd) :
    world.close fd = { world with table := world.table.close fd } :=
  if_neg fun both => different both.1

theorem close_both (world : World) (first second : Int) (firstEnd : first ≠ world.epollFd)
    (secondEnd : second ≠ world.epollFd) :
    (world.close first).close second =
      { world with table := (world.table.close first).close second } := by
  rw [close_ne world first firstEnd, close_ne]
  exact secondEnd

theorem remove_eq (sound : Sound world) {efd fd : Int} (set : efd = world.epollFd)
    (opened : fd ∈ world.table.opened) :
    world.remove efd fd =
      { world with registrations := world.registrations.filter fun entry => entry.1 ≠ fd } :=
  if_pos ⟨set, sound.exists_, opened⟩

end Sound

end Gneiss.Component
