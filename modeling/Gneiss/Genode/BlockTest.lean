import Mathlib.Data.List.FinRange
import Gneiss.Library.BlockDevice
import Gneiss.Library.Slots
import Gneiss.Component.Main
import Gneiss.Genode.BlockAllocation
import Gneiss.Genode.BlockProxy

/-!
The block client of `test/block_client`: it writes 33 blocks, reads them back and then ends. Up to
eight requests are under way, and the device answers them in any order. `contents` has the data of
packet number `n` as entry `n`; `shown` lists what `Read` was called with, and for which block.
-/

namespace Gneiss.Genode.BlockTest

open Runs BlockDevice Block
open BlockProxy (packetData)
open Component.Main (ComponentStatus)

abbrev RequestId := Fin 8

structure State where
  sent : Int
  acked : Int
  deriving DecidableEq, Repr

def requestCount : Int := 32

/-- `State_Finished`. -/
def State.finished (s : State) : Bool := decide (requestCount ≤ s.acked)

/-- The two calls of `Single`, on `Write_State` and on `Read_State`. -/
inductive Phase where
  | writing | reading
  deriving DecidableEq, Repr

def Phase.operation : Phase → RequestKind
  | .writing => .write
  | .reading => .read

structure TestWorld where
  halted : Bool
  log : Bool
  client : ClientWorld Unit RequestId
  writeState : State
  readState : State
  contents : List Text
  blocks : Nat → Text
  shown : List (Nat × Text)
  vacated : List ComponentStatus

/-- What `alloc_packet` returns unless it throws, and what the memory of the packet holds then. -/
structure Allocation where
  memory : Option Int
  content : Text
  deriving DecidableEq, Repr

/-- `Run` is called, or the device answers a packet. A request that fails leaves anything in its
place. -/
inductive TestInput where
  | run (writing reading : RequestId → Allocation)
  | device (index : Nat) (success : Bool) (left : Text)

/-- The character that stands for a block. -/
def pattern (length start : Nat) : Text :=
  List.replicate length (UInt8.ofNat (33 + start % 93))

namespace TestWorld

def session (world : TestWorld) : ClientSession Unit := world.client.sessions ()

def counter (world : TestWorld) : Phase → State
  | .writing => world.writeState
  | .reading => world.readState

def setCounter (world : TestWorld) (phase : Phase) (s : State) : TestWorld :=
  match phase with
  | .writing => { world with writeState := s }
  | .reading => { world with readState := s }

/-- `packet_content`. -/
def content (world : TestWorld) (c : ClientRequest Unit) : Text :=
  (c.ticket.map fun ticket => world.contents.getD ticket.serial []).getD []

/-- `Write`. -/
def fill (world : TestWorld) (index : RequestId) (length : Int) : Text :=
  let c := world.client.requests index
  if c.status ≠ .raw ∧ c.status ≠ .error then pattern length.toNat c.packet.blockNumber
  else List.replicate length.toNat 0

/-- `Block_Client.Read` of a request with one block. A length that is no index raises an
exception. -/
def readPacket (world : TestWorld) (c : ClientRequest Unit) : TestWorld :=
  if c.packet.blockCount = 1 then
    match crwLength positiveIndex world.session.blockSize c.packet.blockCount with
    | none => { world with halted := true }
    | some length =>
        { world with shown := world.shown ++
            [(c.packet.blockNumber, packetData (world.content c) length)] }
  else world

/-- The branch for a request that is done. -/
def complete (world : TestWorld) (phase : Phase) (index : RequestId) : TestWorld :=
  let s := world.counter phase
  let c := world.client.requests index
  let released (world : TestWorld) : TestWorld :=
    { world with client := world.client.setRequest index { c with status := .raw } }
  if c.status = .ok then
    if c.packet.opcode = 1 then
      released (world.setCounter phase { s with acked := s.acked + 1 })
    else if c.packet.opcode = 0 then
      let world := world.readPacket c
      if world.halted then world
      else released (world.setCounter phase { s with acked := s.acked + 1 })
    else released world
  else if c.status = .error then released world
  else world

/-- The first part of the loop. -/
def collect (world : TestWorld) (phase : Phase) (index : RequestId) : TestWorld :=
  let c := world.client.requests index
  if (world.counter phase).acked < requestCount ∧ c.status = .pending ∧
      world.session.assigned c = true then
    { world with client := world.client.updateRequest () index }.complete phase index
  else world

def enqueue (world : TestWorld) (index : RequestId) (content : Text) : TestWorld :=
  { world with
    client := world.client.enqueue () index
    contents := world.contents ++ [content] }

/-- The second part. -/
def submit (world : TestWorld) (phase : Phase) (index : RequestId) (allocation : Allocation) :
    TestWorld :=
  let s := world.counter phase
  if s.sent < requestCount ∧ (world.client.requests index).status = .raw then
    let (c, result) := allocateRequest world.session (world.client.requests index)
      phase.operation (s.sent + 1).toNat 1 index allocation.memory
    let world := { world with client := world.client.setRequest index c }
    match result with
    | .success =>
        let world := world.setCounter phase { s with sent := s.sent + 1 }
        if c.packet.opcode = 1 then
          match crwLength positiveIndex world.session.blockSize c.packet.blockCount with
          | none => { world with halted := true }
          | some length => world.enqueue index (world.fill index length)
        else world.enqueue index allocation.content
    | .outOfMemory => world
    | .unsupported => { world with vacated := world.vacated ++ [.failure] }
  else world

def turn (world : TestWorld) (phase : Phase) (allocations : RequestId → Allocation)
    (index : RequestId) : TestWorld :=
  if world.halted then world
  else
    let world := world.collect phase index
    if world.halted then world else world.submit phase index (allocations index)

def single (world : TestWorld) (phase : Phase) (allocations : RequestId → Allocation) :
    TestWorld :=
  if world.session.blockSize ≤ 4096 ∧ 256 ≤ world.session.blockSize then
    (List.finRange 8).foldl (fun world index => world.turn phase allocations index) world
  else world

/-- `Run`. -/
def event (world : TestWorld) (writing reading : RequestId → Allocation) : TestWorld :=
  if world.log = true ∧ world.session.initialized = true then
    let world := if world.writeState.finished then world else world.single .writing writing
    let world := if world.writeState.finished ∧ ¬world.readState.finished then
      world.single .reading reading else world
    if world.halted = false ∧ world.writeState.finished = true ∧
        world.readState.finished = true then
      { world with vacated := world.vacated ++ [.success] }
    else world
  else world

def write (world : TestWorld) (packet : PacketDescriptor) (data : Text) : TestWorld :=
  { world with
    blocks := writeBlocks world.session.blockSize world.blocks packet.blockNumber
      packet.blockCount data }

/-- The device carries out a packet, or fails to. -/
def answer (world : TestWorld) (index : Nat) (success : Bool) (left : Text) : TestWorld :=
  match world.session.submitted[index]? with
  | none => world
  | some item =>
      let serial := item.ticket.serial
      let carried :=
        if item.packet.opcode = 1 then
          world.write item.packet (if success then world.contents.getD serial [] else left)
        else
          let data := readBlocks world.blocks item.packet.blockNumber item.packet.blockCount
          { world with contents := world.contents.set serial (if success then data else left) }
      { carried with client := carried.client.acknowledge () index success }

def step (world : TestWorld) : TestInput → TestWorld
  | .run writing reading => if world.halted then world else world.event writing reading
  | .device index success left => world.answer index success left

/-- `Construct`; `device` is the block size and the block count of the device, if it can be opened.
A size or a count that is no value of its type raises an exception. -/
def construct (log : Bool) (device : Option (Nat × Nat)) (writable : Bool) (blocks : Nat → Text)
    (writing reading : RequestId → Allocation) : TestWorld :=
  let world : TestWorld :=
    { halted := false
      log := log
      client := ClientWorld.initial.initializeSession () 1 (device.map (·.1))
      writeState := ⟨-1, -1⟩
      readState := ⟨-1, -1⟩
      contents := []
      blocks := blocks
      shown := []
      vacated := [] }
  if world.log = true ∧ world.session.initialized = true then
    if 4294967295 < world.session.blockSize ∨ 9223372036854775807 < (device.map (·.2)).getD 0 then
      { world with halted := true }
    else if writable then world.event writing reading
    else { world with vacated := [.failure] }
  else { world with vacated := [.failure] }

end TestWorld

end Gneiss.Genode.BlockTest
