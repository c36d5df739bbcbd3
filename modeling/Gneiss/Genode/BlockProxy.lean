import Mathlib.Data.List.FinRange
import Gneiss.Library.Buffers
import Gneiss.Library.Slots
import Gneiss.Platform.Session
import Gneiss.Genode.BlockAllocation
import Gneiss.Genode.BlockUpdates

/-!
The block proxy of `test/block_proxy`: a block server whose requests are handed on to another block
server as requests of its own. Each of the 64 entries of `Cache` pairs a request of the client side
with one of the server side, and the tag of the packet is the number of the entry. `taken`, `sent`,
`answers`, `relayed` and `returned` list what passed through; packet number `n` is entry `n` of
`sent`.
-/

namespace Gneiss.Genode.BlockProxy

open Runs Block

abbrev RequestIndex := Fin 64

theorem unsignedLong_ordered : (0 : Int) < 9223372036854775807 := by decide

theorem long_symmetric : -(9223372036854775807 : Int) - 1 ≤ -9223372036854775808 ∧
    (-9223372036854775808 : Int) ≤ -9223372036854775807 := by decide

/-- `Unsigned_Long`, the index type of `Buffer`. -/
def unsignedLong : IndexType where
  range := ⟨0, 9223372036854775807⟩
  base := longInteger
  symmetric := long_symmetric
  ordered := unsignedLong_ordered
  lower := by decide
  upper := Int.le_refl _

/-- `Kind` of a request of the server side. -/
def serverKind : Nat → RequestKind
  | 1 => .read
  | 2 => .write
  | 3 => .sync
  | 4 => .trim
  | _ => .none

structure Sent where
  request : StreamRequest
  packet : PacketDescriptor
  window : Option Text
  content : Text
  deriving DecidableEq, Repr

structure Answer where
  serial : Nat
  packet : PacketDescriptor
  success : Bool
  deriving DecidableEq, Repr

structure Relayed where
  request : StreamRequest
  serial : Option Nat
  deriving DecidableEq, Repr

/-- The data of a packet that was handed to `Read`, and the payload of the client, if it was found,
before and after they were copied to it. -/
structure Returned where
  request : StreamRequest
  serial : Option Nat
  packet : PacketDescriptor
  content : Text
  before : Option Text
  behind : Option Text
  deriving DecidableEq, Repr

structure ProxyWorld where
  halted : Bool
  server : ServerWorld RequestIndex
  client : ClientWorld Unit RequestIndex
  blockCount : Nat
  taken : List StreamRequest
  sent : List Sent
  answers : List Answer
  relayed : List Relayed
  returned : List Returned

/-- What the two packet streams answer in one turn: the request `with_requests` hands out, the
payload `with_content` finds for it, what the packet of the other side holds, what `alloc_packet`
returns, and whether `try_acknowledge` had room. -/
structure TurnInput where
  arrived : Option StreamRequest
  window : Option Text
  packet : Text
  memory : Option Int
  submitted : Bool
  deriving DecidableEq, Repr

/-- `Dispatch` is called for a new session and for a closed one. `device` is the block size and the
block count of the device, if it can be opened. -/
inductive Dispatched where
  | session (device : Option (Nat × Nat)) (created : Bool)
  | close (own : Bool)
  deriving DecidableEq, Repr

/-- `device` is the device behind the client side: it answers one of the packets it was sent. -/
inductive ProxyInput where
  | turn (index : RequestIndex) (input : TurnInput)
  | device (index : Nat) (success : Bool)
  | dispatch (dispatched : Dispatched)
  deriving DecidableEq, Repr

/-- `Data` in `Crw`, which lies over the content of the packet. -/
def packetData (packet : Text) (length : Int) : Text :=
  (List.range length.toNat).map fun place => packet.getD place 0

/-- The loops of `Write` and `Read` copy byte by byte. -/
def copyBytes (source : Text) (length : Nat) (target : Text) : Text :=
  (List.range length).foldl (fun target place => target.set place (source.getD place 0)) target

namespace ProxyWorld

def initial : ProxyWorld where
  halted := false
  server := .initial
  client := .initial
  blockCount := 0
  taken := []
  sent := []
  answers := []
  relayed := []
  returned := []

def session (world : ProxyWorld) : ClientSession Unit := world.client.sessions ()

/-- `Initialized` of the component. A size or a count that is no value of its type raises an
exception. -/
def ready (world : ProxyWorld) : Option Bool :=
  if world.session.initialized then
    if 4294967295 < world.session.blockSize then none
    else if world.session.blockSize ∈ [512, 1024, 2048, 4096] then
      if 9223372036854775807 < world.blockCount then none
      else some (decide (0 < world.blockCount) &&
        decide (world.blockCount < 9223372036854775807 / (world.session.blockSize / 512)))
    else some false
  else some false

/-- The condition of `Write` and `Read` on the entry and on the length of `D`. -/
def copies (world : ProxyWorld) (index : RequestIndex) (kind : RequestKind) (length : Int) :
    Bool :=
  let req := world.server.requests index
  decide (req.status = .pending) && decide (serverKind req.request.kind = kind) &&
    decide (world.ready = some true) && world.server.server.initialized &&
    world.server.server.assigned req &&
    decide (crwLength unsignedLong world.session.blockSize req.request.blockCount = some length)

/-- The first part of a turn: an entry that is done becomes free. -/
def release (world : ProxyWorld) (index : RequestIndex) : ProxyWorld :=
  let c := world.client.requests index
  if (world.server.requests index).status = .raw ∧ (c.status = .ok ∨ c.status = .error) ∧
      world.session.assigned c = true then
    { world with client := world.client.setRequest index { c with status := .raw } }
  else world

def take (world : ProxyWorld) (index : RequestIndex) (arrived : Option StreamRequest) :
    ProxyWorld :=
  if (world.server.requests index).status = .raw ∧
      (world.client.requests index).status = .raw then
    { world with
      server := world.server.process index arrived
      taken := world.taken ++ arrived.toList }
  else world

def acknowledge (world : ProxyWorld) (index : RequestIndex) (res : RequestStatus)
    (submitted : Bool) : ProxyWorld :=
  let request := { (world.server.requests index).request with success := decide (res = .ok) }
  { world with
    server := world.server.acknowledge index res submitted
    relayed := world.relayed ++ if submitted then
      [⟨request, (world.client.requests index).ticket.map (·.serial)⟩] else [] }

def fail (world : ProxyWorld) (index : RequestIndex) (submitted : Bool) : ProxyWorld :=
  if (world.server.requests index).status = .error ∧
      world.server.server.assigned (world.server.requests index) = true then
    world.acknowledge index .error submitted
  else world

def update (world : ProxyWorld) (index : RequestIndex) : ProxyWorld :=
  let c := world.client.requests index
  if c.status = .pending ∧ world.session.assigned c = true then
    { world with client := world.client.updateRequest () index }
  else world

/-- `Block_Client.Read`: the packet is handed to `Read`, which copies it to the payload. -/
def readPacket (world : ProxyWorld) (index : RequestIndex) (input : TurnInput) : ProxyWorld :=
  let c := world.client.requests index
  let request := (world.server.requests index).request
  let serial := c.ticket.map (·.serial)
  match crwLength unsignedLong world.session.blockSize c.packet.blockCount with
  | none => { world with halted := true }
  | some length =>
      let data := packetData input.packet length
      if world.copies index .read length then
        { world with
          server := world.server.apply index
          returned := world.returned ++ [⟨request, serial, c.packet, data, input.window,
            input.window.map (copyBytes data length.toNat)⟩] }
      else { world with returned := world.returned ++
        [⟨request, serial, c.packet, data, input.window, input.window⟩] }

def complete (world : ProxyWorld) (index : RequestIndex) (input : TurnInput) : ProxyWorld :=
  let c := world.client.requests index
  if (c.status = .ok ∨ c.status = .error) ∧ world.session.assigned c = true then
    let world := if c.status = .ok ∧ c.packet.opcode = 0 then world.readPacket index input
      else world
    if world.halted = true then world
    else if world.server.server.assigned (world.server.requests index) = true then
      world.acknowledge index c.status input.submitted
    else world
  else world

/-- `Enqueue` of the request that `c` is then. -/
def enqueue (world : ProxyWorld) (index : RequestIndex) (c : ClientRequest Unit)
    (window : Option Text) (content : Text) : ProxyWorld :=
  { world with
    client := (world.client.setRequest index c).enqueue () index
    sent := world.sent ++
      [⟨(world.server.requests index).request, c.packet, window, content⟩] }

/-- `Block_Client.Write`: `Write` fills the packet from the payload; what it holds then goes out. An
exception ends the component, whatever it had done by then. -/
def writePacket (world : ProxyWorld) (index : RequestIndex) (c : ClientRequest Unit)
    (input : TurnInput) : ProxyWorld :=
  match crwLength unsignedLong world.session.blockSize c.packet.blockCount with
  | none => { world with halted := true }
  | some length =>
      let data := packetData input.packet length
      if world.copies index .write length then
        let applied := { world with server := world.server.apply index }
        match input.window with
        | none => applied.enqueue index c none data
        | some window =>
            applied.enqueue index c (some window) (copyBytes window length.toNat data)
      else world.enqueue index c input.window data

/-- A block count that is no value of `Count` raises an exception. -/
def forward (world : ProxyWorld) (index : RequestIndex) (input : TurnInput) : ProxyWorld :=
  let c := world.client.requests index
  let request := (world.server.requests index).request
  if c.status = .raw then
    if 9223372036854775807 < request.blockCount then { world with halted := true }
    else
      let (c, result) := allocateRequest world.session c (serverKind request.kind)
        request.blockNumber request.blockCount index input.memory
      match result with
      | .success =>
          if c.packet.opcode = 1 then world.writePacket index c input
          else world.enqueue index c none []
      | _ => { world with client := world.client.setRequest index c }
  else world

def resume (world : ProxyWorld) (index : RequestIndex) (input : TurnInput) : ProxyWorld :=
  let c := world.client.requests index
  if c.status = .allocated ∧ world.session.assigned c = true then
    world.enqueue index c none input.packet
  else world

/-- The part of a turn for a pending request. -/
def serve (world : ProxyWorld) (index : RequestIndex) (input : TurnInput) : ProxyWorld :=
  let world := (world.update index).complete index input
  if world.halted = true then world
  else
    let world := world.forward index input
    if world.halted = true then world else world.resume index input

def turn (world : ProxyWorld) (index : RequestIndex) (input : TurnInput) : ProxyWorld :=
  let world := ((world.release index).take index input.arrived).fail index input.submitted
  if (world.server.requests index).status = .pending then world.serve index input else world

/-- `Session_Initialize` with `Initialize_Server` and, if the session could not be created,
`Finalize_Server`. -/
def sessionInitialize (world : ProxyWorld) (device : Option (Nat × Nat)) (created : Bool) :
    ProxyWorld :=
  let world := if world.session.initialized then world
    else { world with
      client := world.client.initializeSession () 42 (device.map (·.1))
      blockCount := (device.map (·.2)).getD 0 }
  match world.ready with
  | none => { world with halted := true }
  | some ready =>
      let server := world.server.sessionInitialize 42 ready created
      if server.server.initialized = true then { world with server := server }
      else { world with server := server, client := world.client.step (.finalizeSession ()) }

def dispatch (world : ProxyWorld) : Dispatched → ProxyWorld
  | .session device created =>
      if world.ready = some false ∧ world.server.server.initialized = false then
        world.sessionInitialize device created
      else world
  | .close own =>
      if (world.server.server.session.isSome && own) = true then
        { world with
          client := world.client.step (.finalizeSession ())
          server := world.server.sessionCleanup own }
      else world

def answer (world : ProxyWorld) (index : Nat) (success : Bool) : ProxyWorld :=
  let answers := (world.session.submitted[index]?).map fun item =>
    ⟨item.ticket.serial, item.packet, success⟩
  { world with
    client := world.client.acknowledge () index success
    answers := world.answers ++ answers.toList }

/-- One step. `Event` gives every entry its turn, one after the other. -/
def step (world : ProxyWorld) : ProxyInput → ProxyWorld
  | .turn index input =>
      if world.halted = false ∧ world.session.initialized = true ∧ world.ready = some true ∧
          world.server.server.initialized = true then
        world.turn index input
      else world
  | .device index success => world.answer index success
  | .dispatch dispatched => if world.halted then world else world.dispatch dispatched

/-- Tag and number of the packets under way: sent, answered, or in the cache of the client side. -/
def flying (world : ProxyWorld) : List (Nat × Nat) :=
  world.session.submitted.map (fun item => (item.packet.tag, item.ticket.serial)) ++
    (entries world.client.cache ++ world.session.acked).map fun ack =>
      (ack.tag, ack.ticket.serial)

/-- The two requests of an entry of `Cache`. -/
def pair (world : ProxyWorld) (index : RequestIndex) : ServerRequest × ClientRequest Unit :=
  (world.server.requests index, world.client.requests index)

end ProxyWorld

/-- A request up to the result, which the acknowledgement fills in. -/
def bare (request : StreamRequest) : StreamRequest := { request with success := false }

def takenItem (element : ServerRequest × ClientRequest Unit) : Option StreamRequest :=
  if element.1.status = .pending then some (bare element.1.request) else none

def sentItem (element : ServerRequest × ClientRequest Unit) :
    Option (StreamRequest × Option Nat) :=
  if element.1.status = .pending ∧ element.2.status ≠ .raw then
    some (bare element.1.request, element.2.ticket.map (·.serial))
  else none

/-- The requests that were taken and are not acknowledged yet. -/
def ProxyWorld.held (world : ProxyWorld) : List StreamRequest :=
  Slots.held (List.finRange 64) takenItem world.pair

/-- Those among them that were sent on, each with the number of its packet. -/
def ProxyWorld.heldSent (world : ProxyWorld) : List (StreamRequest × Option Nat) :=
  Slots.held (List.finRange 64) sentItem world.pair

/-- A packet asks for what the request asks for. -/
structure Carries (packet : PacketDescriptor) (request : StreamRequest) : Prop where
  data : request.kind = 1 ∨ request.kind = 2
  opcode : packet.opcode = opcode (serverKind request.kind)
  start : packet.blockNumber = request.blockNumber
  length : packet.blockCount = request.blockCount
  some_ : 0 < request.blockCount

/-! Copying. -/

theorem copyBytes_succ (source target : Text) (length : Nat) :
    copyBytes source (length + 1) target =
      (copyBytes source length target).set length (source.getD length 0) := by
  simp only [copyBytes, List.range_succ, List.foldl_append, List.foldl_cons, List.foldl_nil]

theorem copyBytes_length (source target : Text) (length : Nat) :
    (copyBytes source length target).length = target.length := by
  induction length with
  | zero => rfl
  | succ length ih => rw [copyBytes_succ, List.length_set, ih]

theorem copyBytes_take (source target : Text) (length : Nat) (fits : length ≤ source.length)
    (room : length ≤ target.length) :
    (copyBytes source length target).take length = source.take length := by
  induction length with
  | zero => rfl
  | succ length ih =>
      have sized := copyBytes_length source target length
      rw [copyBytes_succ]
      exact Buffers.take_set_copied source _ 0 length (by omega) (by omega)
        (ih (by omega) (by omega))

theorem copyBytes_whole (source target : Text) (same : target.length = source.length) :
    copyBytes source source.length target = source := by
  have sized := copyBytes_length source target source.length
  have copied := copyBytes_take source target source.length (Nat.le_refl _) (by omega)
  rw [List.take_length, List.take_of_length_le (by omega)] at copied
  exact copied

theorem packetData_length (packet : Text) (length : Int) :
    (packetData packet length).length = length.toNat := by
  rw [packetData, List.length_map, List.length_range]

/-- The length of `Data` is the size of the packet. -/
theorem crwLength_bytes {blockSize length : Nat} {last : Int}
    (found : crwLength unsignedLong blockSize length = some last) :
    last = (blockSize * length % 2 ^ 64 : Nat) := by
  have product : (length : Int) * blockSize = (length * blockSize : Nat) := by
    rw [Int.natCast_mul]
  unfold crwLength at found
  simp only [Option.bind_eq_bind, Option.bind_eq_some_iff, Checked.Range.check_eq_some_iff]
    at found
  obtain ⟨size, ⟨_, rfl⟩, result, ⟨inside, rfl⟩, value, ⟨_, rfl⟩, rest⟩ := found
  rw [product] at inside rest
  rw [bytes_exact blockSize length inside.2]
  split at rest
  · rename_i empty
    rw [Option.some.injEq] at rest
    omega
  · simp only [Option.bind_eq_some_iff, Option.some.injEq] at rest
    obtain ⟨_, _, same⟩ := rest
    exact same.symm

/-! The packets under way. An entry has at most one, and none unless its request is pending. -/

structure Underway (world : ProxyWorld) : Prop where
  owned : ∀ item ∈ world.flying, ∃ index : RequestIndex, item.1 = index.val ∧
    (world.client.requests index).status = .pending ∧
    (world.client.requests index).ticket.map (·.serial) = some item.2
  distinct : (world.flying.map Prod.fst).Nodup
  submitted : ∀ item ∈ world.session.submitted, ∃ entry,
    world.sent[item.ticket.serial]? = some entry ∧ entry.packet = item.packet
  answered : ∀ ack ∈ entries world.client.cache ++ world.session.acked, ∃ entry,
    world.sent[ack.ticket.serial]? = some entry ∧
      ⟨ack.ticket.serial, entry.packet, ack.success⟩ ∈ world.answers
  once : (world.session.submitted.map (·.ticket.serial) ++
    world.answers.map Answer.serial).Nodup
  numbered : ∀ answer ∈ world.answers, answer.serial < world.sent.length
  enqueued : world.client.enqueued = world.sent.length

/-- The number of the packet of an entry whose request was sent on, and what is known of it. -/
structure Follows (world : ProxyWorld) (index : RequestIndex) (serial : Nat) (entry : Sent) :
    Prop where
  ticket : (world.client.requests index).ticket.map (·.serial) = some serial
  sent : world.sent[serial]? = some entry
  packet : entry.packet = (world.client.requests index).packet
  request : bare entry.request = bare (world.server.requests index).request
  tag : entry.packet.tag = index.val
  answered : (world.client.requests index).status ≠ .pending →
    ⟨serial, entry.packet, decide ((world.client.requests index).status = .ok)⟩ ∈ world.answers

inductive EntryState (world : ProxyWorld) (index : RequestIndex) : Prop
  | free (unused : (world.server.requests index).status = .raw)
      (done_ : (world.client.requests index).status = .raw ∨
        (world.client.requests index).status = .ok ∨
        (world.client.requests index).status = .error)
  | waiting (pending : (world.server.requests index).status = .pending)
      (unsent : (world.client.requests index).status = .raw)
  | sent (pending : (world.server.requests index).status = .pending)
      (sent_ : (world.client.requests index).status = .pending ∨
        (world.client.requests index).status = .ok ∨
        (world.client.requests index).status = .error)
      (serial : Nat) (entry : Sent) (follows : Follows world index serial entry)

/-- The data of the packet `serial` were copied to the client for `request`. -/
def Copied (world : ProxyWorld) (serial : Nat) (packet : PacketDescriptor)
    (request : StreamRequest) : Prop :=
  ∃ copy ∈ world.returned, copy.serial = some serial ∧ copy.packet = packet ∧
    bare copy.request = bare request

/-- What is acknowledged was sent on and answered, with this result, and the data of a read that
succeeded were copied to the client. -/
def Truthful (world : ProxyWorld) (relayed : Relayed) : Prop :=
  ∃ serial entry, relayed.serial = some serial ∧ world.sent[serial]? = some entry ∧
    bare entry.request = bare relayed.request ∧
    ⟨serial, entry.packet, relayed.request.success⟩ ∈ world.answers ∧
    (relayed.request.kind = 1 → relayed.request.success = true →
      Copied world serial entry.packet relayed.request)

/-- A write goes out with the payload of the client, a read comes back as what its packet holds. -/
def Sent.whole (sent : Sent) : Prop :=
  sent.packet.opcode = 1 → sent.content.length = sent.packet.bytes ∧
    ∀ window, sent.window = some window → window.length = sent.packet.bytes →
      sent.content = window

def Returned.whole (returned : Returned) : Prop :=
  ∀ before, returned.before = some before → before.length = returned.content.length →
    returned.behind = some returned.content

structure Faithful (world : ProxyWorld) : Prop where
  underway : Underway world
  state : ∀ index, EntryState world index
  carries : ∀ entry ∈ world.sent, Carries entry.packet entry.request
  truthful : ∀ relayed ∈ world.relayed, Truthful world relayed
  taken : (world.taken.map bare).Perm
    (world.relayed.map (bare ·.request) ++ world.held)
  sent : (world.sent.zipIdx.map fun (entry, serial) => (bare entry.request, some serial)).Perm
    (world.relayed.map (fun relayed => (bare relayed.request, relayed.serial)) ++
      world.heldSent)
  written : ∀ entry ∈ world.sent, entry.whole
  returned : ∀ entry ∈ world.returned, entry.whole
  tag : world.server.server.initialized = true → world.server.server.tag = some 42
  tags : ∀ index, (world.server.requests index).status = .pending →
    (world.server.requests index).session = some 42

end Gneiss.Genode.BlockProxy
