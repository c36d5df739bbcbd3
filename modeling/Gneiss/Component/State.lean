import Gneiss.Library.Descriptors
import Gneiss.Platform.Packet

/-!
The sessions of a component on Linux, and the process they live in. All sessions of a component
share the system capability that `Gneiss.Main` creates, so there is one broker socket and one epoll
set. A registration in that set is the address of the `E_Cap` of a session, and addresses are
references to sessions here. A session is known by the package it belongs to and a number.
-/

namespace Gneiss.Component

open Descriptors

/-- `Gneiss.Message` is generic in its buffer, `bufferSize` is `Message_Buffer'Size`. -/
inductive ClientKind where
  | message (bufferSize : Nat)
  | timer
  deriving DecidableEq, Repr

inductive ServiceKind where
  | message (bufferSize : Nat)
  | log
  | memory
  deriving DecidableEq, Repr

def ClientKind.protocol : ClientKind → KindType
  | .message _ => .message
  | .timer => .timer

def ServiceKind.protocol : ServiceKind → KindType
  | .message _ => .message
  | .log => .log
  | .memory => .memory

/-- The check `Message_Buffer'Size /= 128 * 8`, which only the message package has. -/
def ClientKind.supported : ClientKind → Bool
  | .message bufferSize => decide (bufferSize = 128 * 8)
  | .timer => true

def ServiceKind.supported : ServiceKind → Bool
  | .message bufferSize => decide (bufferSize = 128 * 8)
  | .log => true
  | .memory => true

/-- The length of `Fds` in `Dispatch_Event`. -/
def ServiceKind.slots : ServiceKind → Nat
  | .memory => 3
  | _ => 2

theorem ServiceKind.slots_bounds (kind : ServiceKind) : 1 < kind.slots ∧ kind.slots ≤ 4 := by
  cases kind <;> simp [slots]

structure ClientId where
  kind : ClientKind
  number : Nat
  deriving DecidableEq, Repr

structure ServiceId where
  kind : ServiceKind
  number : Nat
  deriving DecidableEq, Repr

inductive Ref where
  | client (id : ClientId)
  | dispatcher (id : ServiceId)
  | server (id : ServiceId)
  deriving DecidableEq, Repr

/-! `Event_Cap`. The handlers are those of the package of their context, and `none` is
`Null_Address`. -/

inductive Handler where
  | sessionEvent
  | sessionError
  | dispatchEvent
  | dispatchError
  deriving DecidableEq, Repr

inductive EventType where
  | epollEv
  | epollEr
  deriving DecidableEq, Repr

/-- The flags of an epoll event that `Get_Type` reads, and the one for pending data. -/
structure Event where
  epollIn : Bool
  epollErr : Bool
  epollHup : Bool
  epollRdhup : Bool
  deriving DecidableEq, Repr

def getType (event : Event) : EventType :=
  if event.epollHup || event.epollErr || event.epollRdhup then .epollEr else .epollEv

structure EventCap where
  eventAdr : Option Handler
  eventCtx : Option Ref
  errorAdr : Option Handler
  errorCtx : Option Ref
  fd : Int
  deriving DecidableEq, Repr

/-- Where control goes when an event is handled. -/
inductive Called where
  | nothing
  | nullAddress
  | handler (handler : Handler) (context : Ref) (fd : Int)
  deriving DecidableEq, Repr

namespace EventCap

def invalid : EventCap := ⟨none, none, none, none, -1⟩

def valid (cap : EventCap) : Bool :=
  cap.eventAdr.isSome && cap.eventCtx.isSome && cap.errorAdr.isSome && cap.errorCtx.isSome

def create (event error : Handler) (evCtx erCtx : Ref) (fd : Int) : EventCap :=
  ⟨some event, some evCtx, some error, some erCtx, fd⟩

def call (cap : EventCap) (type : EventType) : Called :=
  let target := match type with
    | .epollEv => (cap.eventAdr, cap.eventCtx)
    | .epollEr => (cap.errorAdr, cap.errorCtx)
  match target with
  | (some handler, some context) => .handler handler context cap.fd
  | _ => .nullAddress

end EventCap

/-! `gneiss_internal-message.ads`, `-log.ads`, `-memory.ads` and `-timer.ads`. A field that a
package does not have (`Sigfd`, `Map` and `Memfd` belong to memory sessions only) keeps its
default. -/

structure ClientSession where
  fd : Int
  efd : Int
  index : Option Nat
  eCap : EventCap
  deriving DecidableEq, Repr

structure DispatcherSession where
  brokerFd : Int
  accepted : Bool
  efd : Int
  dispatchFd : Int
  index : Option Nat
  eCap : EventCap
  deriving DecidableEq, Repr

structure ServerSession where
  fd : Int
  sigfd : Int
  map : Option Nat
  index : Option Nat
  eCap : EventCap
  deriving DecidableEq, Repr

structure DispatcherCapability where
  memfd : Int
  clientFd : Int
  serverFd : Int
  cleanFd : Int
  name : SessionLabel
  label : SessionLabel
  deriving DecidableEq

def ClientSession.default : ClientSession := ⟨-1, -1, none, .invalid⟩

def DispatcherSession.default : DispatcherSession := ⟨-1, false, -1, -1, none, .invalid⟩

def ServerSession.default : ServerSession := ⟨-1, -1, none, none, .invalid⟩

def DispatcherCapability.default : DispatcherCapability := ⟨-1, -1, -1, -1, .empty, .empty⟩

def ClientSession.initialized (kind : ClientKind) (session : ClientSession) : Bool :=
  valid session.fd && session.index.isSome && valid session.efd && session.eCap.valid &&
    kind.supported

def DispatcherSession.initialized (session : DispatcherSession) : Bool :=
  valid session.brokerFd && valid session.efd && session.index.isSome

def DispatcherSession.registered (session : DispatcherSession) : Bool :=
  valid session.dispatchFd

def ServerSession.initialized (kind : ServiceKind) (session : ServerSession) : Bool :=
  match kind with
  | .message _ =>
      valid session.fd && session.index.isSome && session.eCap.valid && kind.supported
  | .log => valid session.fd && session.eCap.valid && session.index.isSome
  | .memory =>
      session.index.isSome && valid session.fd && session.map.isSome && session.eCap.valid &&
        valid session.sigfd

def validSessionRequest (kind : ServiceKind) (cap : DispatcherCapability) : Bool :=
  match kind with
  | .memory => valid cap.memfd && valid cap.clientFd && valid cap.serverFd
  | _ => valid cap.clientFd && valid cap.serverFd

/-- The descriptor a server session is registered with: `Sigfd` of a memory session, else `Fd`. -/
def ServerSession.eventFd (kind : ServiceKind) (session : ServerSession) : Int :=
  match kind with
  | .memory => session.sigfd
  | _ => session.fd

structure Answer where
  fd : Int
  action : ActionType
  kind : KindType
  name : Text
  label : Text
  fds : List Int
  deriving DecidableEq, Repr

/-- `capability id` is the capability that was last passed to the `Dispatch` of dispatcher `id`, and
`spent id` says whether `Session_Initialize` was called with it. -/
structure World where
  table : Table
  epollFd : Int
  epollOpen : Bool
  registrations : List (Int × Ref)
  brokerFd : Int
  clients : ClientId → ClientSession
  dispatchers : ServiceId → DispatcherSession
  servers : ServiceId → ServerSession
  capability : ServiceId → DispatcherCapability
  spent : ServiceId → Bool
  mappings : List Nat
  sent : List Answer

namespace World

def setClient (world : World) (id : ClientId) (session : ClientSession) : World :=
  { world with clients := Function.update world.clients id session }

def setDispatcher (world : World) (id : ServiceId) (session : DispatcherSession) : World :=
  { world with dispatchers := Function.update world.dispatchers id session }

def setServer (world : World) (id : ServiceId) (session : ServerSession) : World :=
  { world with servers := Function.update world.servers id session }

def setCapability (world : World) (id : ServiceId) (cap : DispatcherCapability) (spent : Bool) :
    World :=
  { world with
    capability := Function.update world.capability id cap
    spent := Function.update world.spent id spent }

def send (world : World) (answer : Answer) : World :=
  { world with sent := world.sent ++ [answer] }

/-- `Epoll.Add`; the kernel may refuse it, and does so for descriptors that are not open. -/
def add (world : World) (efd fd : Int) (ref : Ref) (granted : Bool) : World × Bool :=
  if granted = true ∧ efd = world.epollFd ∧ world.epollOpen = true ∧ fd ∈ world.table.opened then
    ({ world with registrations := (fd, ref) :: world.registrations }, true)
  else (world, false)

/-- `Epoll.Remove`, which succeeds on open descriptors. -/
def remove (world : World) (efd fd : Int) : World :=
  if efd = world.epollFd ∧ world.epollOpen = true ∧ fd ∈ world.table.opened then
    { world with registrations := world.registrations.filter fun entry => entry.1 ≠ fd }
  else world

/-- `gneiss_close`. The kernel drops a registration only with the last descriptor of its file, which
another process may hold, so the registration stays. The set itself ends with its descriptor. -/
def close (world : World) (fd : Int) : World :=
  if fd = world.epollFd ∧ world.epollOpen = true then
    { world with table := world.table.close fd, epollOpen := false, registrations := [] }
  else { world with table := world.table.close fd }

/-- `Mmap`, whose result is null if the kernel refuses. -/
def mmap (world : World) (map : Option Nat) : World :=
  { world with mappings := map.toList ++ world.mappings }

def eCap (world : World) : Ref → EventCap
  | .client id => (world.clients id).eCap
  | .dispatcher id => (world.dispatchers id).eCap
  | .server id => (world.servers id).eCap

/-- `Gneiss.Main.Event_Handler`; `Wait` returns a null pointer if it fails. -/
def eventHandler (world : World) (eventPtr : Option Ref) (event : Event) : Called :=
  match eventPtr with
  | none => .nothing
  | some ref => (world.eCap ref).call (getType event)

end World

/-- A component that was just started: no session is initialized. -/
def World.start (opened : List Int) (epollFd brokerFd : Int) : World where
  table := ⟨opened, []⟩
  epollFd := epollFd
  epollOpen := true
  registrations := []
  brokerFd := brokerFd
  clients := fun _ => .default
  dispatchers := fun _ => .default
  servers := fun _ => .default
  capability := fun _ => .default
  spent := fun _ => false
  mappings := []
  sent := []

end Gneiss.Component
