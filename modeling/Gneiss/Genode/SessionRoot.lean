import Mathlib.Logic.Function.Basic
import Gneiss.Library.Runs
import Gneiss.Platform.Session

/-!
Sessions of the message, memory and log servers on Genode, from the root that the parent calls down
to the `Dispatch` procedures of the components `message_server`, `memory_server` and `log_proxy`.
The root has one session object for each client; the component keeps a fixed number of
`Server_Session`s, each of which refers to such an object by a pointer that not every package
resets.
-/

namespace Gneiss.Genode.Root

open Runs

inductive Kind where
  | message | memory | log
  deriving DecidableEq, Repr

/-- Memory sessions have `Addr`, which points into the memory that belongs to a component object,
log sessions have `Write`; `none` is the null address. -/
structure ServerSession (size : Nat) where
  component : Option Nat
  addr : Option Nat
  write : Bool
  index : Option (Fin size)
  deriving DecidableEq, Repr

/-- Only the slots of the log server have `Last`. -/
structure ServerSlot where
  ident : Text
  last : Nat
  ready : Bool
  deriving DecidableEq, Repr

/-- `Ident (1 .. Last)`. -/
def ServerSlot.text (slot : ServerSlot) : Text :=
  slot.ident.take slot.last

/-- The assignment to `Ident (1 .. Name'Length + Label'Length + 1)`, which leaves what is behind it,
and the one to `Last` before it. -/
def ServerSlot.setIdent (slot : ServerSlot) (kind : Kind) (text : Text) : ServerSlot :=
  { slot with
    ident := text ++ slot.ident.drop text.length
    last := match kind with
      | .message => slot.last
      | .memory => slot.last
      | .log => text.length }

/-- An object of `Message_Component`, `Memory_Component` or `Log_Component` and its `_server`. -/
structure Component (size : Nat) where
  address : Nat
  server : Fin size
  deriving DecidableEq, Repr

/-- A session as the parent knows it, with the name and label that `Dispatch` was given. -/
structure Session where
  address : Nat
  name : Text
  label : Text
  deriving DecidableEq, Repr

/-- `live` are the objects that the factory created and did not destroy yet, `stray` counts uses of
an object that is not among them. -/
structure World (size : Nat) where
  servers : Fin size → ServerSession size
  slots : Fin size → ServerSlot
  live : List (Component size)
  accepted : Option Nat
  sessions : List Session
  stray : Nat
  halted : Bool

/-- `Genode.Session_Label`, `String (1 .. 160)`. The C++ `String<160>` behind it ends its text with
a zero byte. -/
structure SessionLabel where
  characters : Text
  whole : characters.length = 160
  ended : 0 ∈ characters

/-- `Genode.To_String`, and `To_Ada` of the memory dispatcher. -/
def toString (label : Text) : Text :=
  label.takeWhile (· ≠ 0)

/-- The loop of `Last` in the log dispatcher; `count` is `I - 1`. -/
def lastFrom (count : Nat) : Text → Nat → Nat
  | [], last => last
  | character :: rest, _ => if character = 0 then count else lastFrom (count + 1) rest count

def SessionLabel.toAda (label : SessionLabel) : Kind → Text
  | .message => toString label.characters
  | .memory => toString label.characters
  | .log => label.characters.take (lastFrom 0 label.characters label.characters.length)

/-- `Initialized` of a server session. -/
def ServerSession.initialized {size : Nat} (session : ServerSession size) : Kind → Bool
  | .message => session.component.isSome && session.index.isSome
  | .memory => session.component.isSome && session.addr.isSome && session.index.isSome
  | .log => session.component.isSome && session.write

/-- What happens when a server is initialized: the object that `new` returns, unless it throws, and
whether `Initialize` of the server makes its slot ready; in the three components it always does. -/
structure Offer where
  created : Option Nat
  prepares : Bool
  deriving DecidableEq, Repr

/-- `_create_session`, with whether the quota in its arguments is sufficient and with the two parts
of the label in them, and `_destroy_session`. -/
inductive Input (size : Nat) where
  | create (quota : Bool) (front lastElement : SessionLabel) (offers : Fin size → Offer)
  | destroy (address : Nat)

variable {size : Nat}

namespace World

def initial : World size where
  servers _ := ⟨none, none, false, none⟩
  slots _ := ⟨List.replicate 513 0, 0, false⟩
  live := []
  accepted := none
  sessions := []
  stray := 0
  halted := false

def addresses (world : World size) : List Nat :=
  world.live.map Component.address

def setServer (world : World size) (i : Fin size) (session : ServerSession size) : World size :=
  { world with servers := Function.update world.servers i session }

def setSlot (world : World size) (i : Fin size) (slot : ServerSlot) : World size :=
  { world with slots := Function.update world.slots i slot }

/-- `Factory::create2`. Memory that is in use is never handed out. -/
def create2 (world : World size) (server : Fin size) (created : Option Nat) :
    World size × Option Nat :=
  match created with
  | none => (world, none)
  | some address =>
      if address ∈ world.addresses then (world, none)
      else ({ world with live := world.live ++ [⟨address, server⟩] }, some address)

/-- `Factory::destroy`, which does nothing for a null pointer. -/
def destroy (world : World size) (component : Option Nat) : World size :=
  match component with
  | none => world
  | some address =>
      if address ∈ world.addresses then
        { world with live := world.live.filter fun component => component.address ≠ address }
      else { world with stray := world.stray + 1 }

/-- `Ready` of the components. -/
def ready (world : World size) (i : Fin size) : Bool :=
  match (world.servers i).index with
  | none => false
  | some index => (world.slots index).ready

/-- `Initialize` of the components. An invalid index has no `Value`. -/
def serverInitialize (world : World size) (i : Fin size) (prepares : Bool) :
    Option (World size) := do
  let index ← (world.servers i).index
  if prepares then some (world.setSlot index { world.slots index with ready := true })
  else some world

/-- `Finalize` of the components. -/
def serverFinalize (world : World size) (i : Fin size) : Option (World size) := do
  let index ← (world.servers i).index
  some (world.setSlot index { world.slots index with ready := false })

/-! `Session_Initialize`. -/

/-- `Message_Server::finalize` destroys the object and leaves the pointer to it as it is. -/
def messageInitialize (world : World size) (i : Fin size) (offer : Offer) :
    Option (World size) := do
  let (world, component) := world.create2 i offer.created
  let world := world.setServer i { world.servers i with component := component }
  if component.isSome then
    let world := world.setServer i { world.servers i with index := some i }
    let world ← world.serverInitialize i offer.prepares
    if world.ready i then some world
    else
      let world := world.destroy (world.servers i).component
      some (world.setServer i { world.servers i with index := none })
  else some world

/-- The constructor of `Memory_Component` sets `Addr`. The package then asks whether the dispatcher
is initialized, which it is, and not whether there is a component. -/
def memoryInitialize (world : World size) (i : Fin size) (offer : Offer) :
    Option (World size) := do
  let (world, component) := world.create2 i offer.created
  let world := world.setServer i
    { world.servers i with
      component := component
      addr := if component.isSome then component else (world.servers i).addr }
  let world := world.setServer i { world.servers i with index := some i }
  let world ← world.serverInitialize i offer.prepares
  if world.ready i then some world
  else
    let world := world.destroy (world.servers i).component
    some (world.setServer i
      { world.servers i with component := none, addr := none, index := none })

/-- `Log_Server::initialize` does nothing without a component. -/
def logInitialize (world : World size) (i : Fin size) (offer : Offer) :
    Option (World size) := do
  let world := world.setServer i { world.servers i with index := some i }
  let (world, component) := world.create2 i offer.created
  let world :=
    if component.isSome then
      world.setServer i { world.servers i with component := component, write := true }
    else world
  let world :=
    if (world.servers i).initialized .log then world
    else world.setServer i { world.servers i with index := none }
  let world ← world.serverInitialize i offer.prepares
  if world.ready i then some world
  else
    let world := world.destroy (world.servers i).component
    some (world.setServer i
      { world.servers i with component := none, write := false, index := none })

def sessionInitialize (kind : Kind) (world : World size) (i : Fin size) (offer : Offer) :
    Option (World size) :=
  match kind with
  | .message => world.messageInitialize i offer
  | .memory => world.memoryInitialize i offer
  | .log => world.logInitialize i offer

/-- `Session_Accept`. -/
def sessionAccept (world : World size) (i : Fin size) : World size :=
  { world with accepted := (world.servers i).component }

/-- What `Session_Cleanup` leaves of a session; the memory package does not reset `Index`. -/
def cleaned (session : ServerSession size) : Kind → ServerSession size
  | .message => { session with index := none }
  | .memory => { session with component := none, addr := none }
  | .log => { session with component := none, write := false, index := none }

def sessionCleanup (kind : Kind) (world : World size) (cap : Option Nat) (i : Fin size) :
    Option (World size) :=
  if (world.servers i).initialized kind && decide (cap = (world.servers i).component) then do
    let world ← world.serverFinalize i
    let world := world.destroy (world.servers i).component
    some (world.setServer i (cleaned (world.servers i) kind))
  else some world

/-! `Dispatch` of the components. -/

/-- The conditions on the two strings; `Ident` has 513 characters. -/
def fits (kind : Kind) (name label : Text) : Bool :=
  match kind with
  | .message => name.length < 513 && label.length < 513 && name.length + label.length + 1 ≤ 513
  | .memory => name.length < 513 && label.length < 513 && name.length + label.length + 1 ≤ 513
  | .log => name.length ≤ 513 && label.length ≤ 513 && name.length + label.length + 1 ≤ 513

/-- `Name & ":" & Label`. -/
def ident (name label : Text) : Text :=
  name ++ ascii ":" ++ label

/-- A server that `Dispatch` offers to the next client. -/
def free (kind : Kind) (world : World size) (i : Fin size) : Bool :=
  !world.ready i && !(world.servers i).initialized kind

def serve (kind : Kind) (name label : Text) (offers : Fin size → Offer) :
    List (Fin size) → World size → Option (World size)
  | [], world => some world
  | i :: rest, world =>
      if world.free kind i && fits kind name label then do
        let world ← world.sessionInitialize kind i (offers i)
        if world.ready i && (world.servers i).initialized kind then
          let world := world.setSlot i ((world.slots i).setIdent kind (ident name label))
          some (world.sessionAccept i)
        else serve kind name label offers rest world
      else serve kind name label offers rest world

def cleanup (kind : Kind) (cap : Option Nat) : List (Fin size) → World size → Option (World size)
  | [], world => some world
  | i :: rest, world => do
      let world ← world.sessionCleanup kind cap i
      cleanup kind cap rest world

/-- `Modify` of the memory server writes through `Addr`. -/
def modify (world : World size) (i : Fin size) : World size :=
  match (world.servers i).addr with
  | none => world
  | some address =>
      if address ∈ world.addresses then world else { world with stray := world.stray + 1 }

def modifyAll (world : World size) : List (Fin size) → World size
  | [] => world
  | i :: rest =>
      let world :=
        if (world.servers i).initialized .memory && world.ready i then world.modify i else world
      world.modifyAll rest

/-- The last loop of `Dispatch`, which only the memory server has. -/
def modifySessions (kind : Kind) (world : World size) : World size :=
  match kind with
  | .message => world
  | .memory => world.modifyAll (List.finRange size)
  | .log => world

def dispatch (kind : Kind) (world : World size) (cap : Option Nat) (name label : Text)
    (offers : Fin size → Offer) : Option (World size) := do
  let servers := List.finRange size
  let world ← if cap = none then serve kind name label offers servers world else some world
  let world ← cleanup kind cap servers world
  some (world.modifySessions kind)

/-! The root. -/

/-- The arguments of `_dispatch`; `length ()` of a `String` counts the zero byte. -/
def arguments (kind : Kind) (front lastElement : SessionLabel) : Text × Text :=
  let name := front.toAda kind
  if 0 < name.length then (name, lastElement.toAda kind) else (lastElement.toAda kind, name)

/-- `_create_session`. Without `_accepted` it throws `Service_denied`. -/
def createSession (kind : Kind) (world : World size) (quota : Bool)
    (front lastElement : SessionLabel) (offers : Fin size → Offer) : Option (World size) :=
  if quota then do
    let (name, label) := arguments kind front lastElement
    let world ← dispatch kind { world with accepted := none } none name label offers
    match world.accepted with
    | none => some world
    | some address =>
        some { world with sessions := world.sessions ++ [⟨address, name, label⟩] }
  else some world

/-- `_destroy_session`, which the entrypoint calls for sessions that it knows. -/
def destroySession (kind : Kind) (world : World size) (address : Nat) : Option (World size) :=
  if address ∈ world.sessions.map Session.address then
    dispatch kind
      { world with sessions := world.sessions.filter fun session => session.address ≠ address }
      (some address) [] [] (fun _ => ⟨none, false⟩)
  else some world

def handle (kind : Kind) (world : World size) : Input size → Option (World size)
  | .create quota front lastElement offers =>
      world.createSession kind quota front lastElement offers
  | .destroy address => world.destroySession kind address

/-- The component does not survive an exception. -/
def step (kind : Kind) (world : World size) (input : Input size) : World size :=
  if world.halted then world
  else
    match world.handle kind input with
    | none => { world with halted := true }
    | some after => after

end World

end Gneiss.Genode.Root
