import Gneiss.Library.Descriptors
import Gneiss.Platform.Packet
import Gneiss.Broker.Sxml

/-!
`Gneiss.Broker`: the broker's records, and the world its procedures run in. Arrays are functions on
their index range, and slot `i` of `Components` is `components i` counted from zero. The world adds
the descriptor table of the broker process and what an observer can see of a run: the messages
handled and those given to `sendmsg`, the files opened, the seals applied, and for every descriptor
of the broker the component that was handed its other end.
-/

namespace Gneiss

open Descriptors

structure ServiceEntry where
  broker : Int
  disp : Int
  deriving DecidableEq, Repr

structure ComponentDefinition (sxml : Sxml) where
  fd : Int
  node : sxml.State
  pid : Int
  serv : KindType → ServiceEntry

structure ResourceDefinition (sxml : Sxml) where
  fd : Int
  node : sxml.State

structure BrokerState (sxml : Sxml) (size : Nat) where
  epollFd : Int
  xml : sxml.Document
  components : Fin size → ComponentDefinition sxml
  resources : Fin size → ResourceDefinition sxml

inductive Seal where
  | shrink
  | grow
  | seal
  deriving DecidableEq, Repr

structure Sent where
  destination : Int
  action : ActionType
  kind : KindType
  name : Text
  label : Text
  fds : List Int
  deriving DecidableEq, Repr

structure Handled (size : Nat) where
  source : Fin size
  action : ActionType
  kind : KindType
  name : Text
  label : Text
  fds : List Int
  deriving DecidableEq, Repr

structure World (sxml : Sxml) (size : Nat) where
  state : BrokerState sxml size
  table : Table
  handled : List (Handled size)
  sent : List Sent
  files : List Text
  seals : List (Int × Seal)
  peers : List (Int × Fin size)

/-! What the kernel answers while the broker handles one message: descriptors it offers to
`socketpair`, `open` and `timerfd_create`, and whether the other calls succeed. Handling a message
calls `sendmsg` at most once. -/

structure Outcome where
  session : Option (Int × Int)
  service : Option (Int × Int)
  serviceAdd : Bool
  sealShrink : Bool
  sealGrow : Bool
  sealSeal : Bool
  file : Option Int
  timer : Option Int
  remove : Bool
  sendmsg : Bool

variable {sxml : Sxml} {size : Nat}

namespace World

/-- `gneiss_close`, which leaves a negative descriptor alone. -/
def close (world : World sxml size) (fd : Int) : World sxml size :=
  if fd < 0 then world
  else { world with
    table := world.table.close fd
    peers := world.peers.filter fun peer => peer.1 ≠ fd }

def closeAll (world : World sxml size) (fds : List Int) : World sxml size :=
  fds.foldl close world

/-- `gneiss_write_message`. A `sendmsg` that fails is only warned about, so the world is the same
whether it does; `emitted` tells the two apart. -/
def send (world : World sxml size) (message : Sent) : World sxml size :=
  { world with sent := world.sent ++ [message] }

/-- The messages that left the broker while it handled one message. -/
def emitted (before after : World sxml size) (outcome : Outcome) : List Sent :=
  if outcome.sendmsg then after.sent.drop before.sent.length else []

theorem emitted_of_sent {before after : World sxml size} {messages : List Sent}
    (sent : after.sent = before.sent ++ messages) (outcome : Outcome) :
    before.emitted after outcome = if outcome.sendmsg then messages else [] := by
  rw [emitted, sent, List.drop_left]

def sendRequest (world : World sxml size) (destination : Int) (kind : KindType)
    (name label : Text) (fds : List Int) : World sxml size :=
  world.send ⟨destination, .request, kind, name, label, fds⟩

def sendConfirm (world : World sxml size) (destination : Int) (kind : KindType)
    (label : Text) (fds : List Int) : World sxml size :=
  world.send ⟨destination, .confirm, kind, [], label, fds⟩

def sendReject (world : World sxml size) (destination : Int) (kind : KindType)
    (label : Text) : World sxml size :=
  world.send ⟨destination, .reject, kind, [], label, []⟩

def setComponent (world : World sxml size) (index : Fin size)
    (component : ComponentDefinition sxml) : World sxml size :=
  { world with state :=
    { world.state with components := Function.update world.state.components index component } }

def setServ (world : World sxml size) (index : Fin size) (kind : KindType)
    (entry : ServiceEntry) : World sxml size :=
  world.setComponent index
    { world.state.components index with
      serv := Function.update (world.state.components index).serv kind entry }

/-- `gneiss_memfd_seal`: three `fcntl` calls, the first that fails ends it. -/
def memfdSeal (world : World sxml size) (fd : Int) (outcome : Outcome) :
    World sxml size × Bool :=
  if outcome.sealShrink then
    let world := { world with seals := world.seals ++ [(fd, .shrink)] }
    if outcome.sealGrow then
      let world := { world with seals := world.seals ++ [(fd, .grow)] }
      if outcome.sealSeal then
        ({ world with seals := world.seals ++ [(fd, .seal)] }, true)
      else (world, false)
    else (world, false)
  else (world, false)

theorem close_valid (world : World sxml size) (fd : Int) (open_ : valid fd = true) :
    world.close fd = { world with
      table := world.table.close fd
      peers := world.peers.filter fun peer => peer.1 ≠ fd } := by
  rw [valid_iff] at open_
  exact if_neg (by omega)

@[simp] theorem close_table (world : World sxml size) (fd : Int) :
    (world.close fd).table = world.table.close fd := by
  unfold close
  split
  · rename_i negative
    simp [Table.close, negative]
  · rfl

@[simp] theorem close_state (world : World sxml size) (fd : Int) :
    (world.close fd).state = world.state := by
  unfold close
  split <;> rfl

@[simp] theorem close_sent (world : World sxml size) (fd : Int) :
    (world.close fd).sent = world.sent := by
  unfold close
  split <;> rfl

@[simp] theorem close_handled (world : World sxml size) (fd : Int) :
    (world.close fd).handled = world.handled := by
  unfold close
  split <;> rfl

@[simp] theorem close_seals (world : World sxml size) (fd : Int) :
    (world.close fd).seals = world.seals := by
  unfold close
  split <;> rfl

theorem close_peers (world : World sxml size) (fd : Int) :
    (world.close fd).peers ⊆ world.peers := by
  unfold close
  split
  · exact List.Subset.refl _
  · exact fun peer member => List.mem_of_mem_filter member

theorem closeAll_cons (world : World sxml size) (fd : Int) (rest : List Int) :
    world.closeAll (fd :: rest) = (world.close fd).closeAll rest := rfl

@[simp] theorem closeAll_table (world : World sxml size) (fds : List Int) :
    (world.closeAll fds).table = world.table.closeAll fds := by
  induction fds generalizing world with
  | nil => rfl
  | cons fd rest ih =>
      rw [closeAll_cons, ih, close_table]
      rfl

@[simp] theorem closeAll_state (world : World sxml size) (fds : List Int) :
    (world.closeAll fds).state = world.state := by
  induction fds generalizing world with
  | nil => rfl
  | cons fd rest ih => rw [closeAll_cons, ih, close_state]

@[simp] theorem closeAll_sent (world : World sxml size) (fds : List Int) :
    (world.closeAll fds).sent = world.sent := by
  induction fds generalizing world with
  | nil => rfl
  | cons fd rest ih => rw [closeAll_cons, ih, close_sent]

@[simp] theorem closeAll_handled (world : World sxml size) (fds : List Int) :
    (world.closeAll fds).handled = world.handled := by
  induction fds generalizing world with
  | nil => rfl
  | cons fd rest ih => rw [closeAll_cons, ih, close_handled]

end World

end Gneiss
