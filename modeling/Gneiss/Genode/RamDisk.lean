import Mathlib.Data.List.FinRange
import Gneiss.Library.BlockDevice
import Gneiss.Library.Slots
import Gneiss.Platform.Session
import Gneiss.Genode.BlockServer

/-!
The block server of `test/block_server`: a disk of 1024 blocks of 512 bytes in memory, and 64
request objects. `Event` gives each of them its turn again and again. The memory is modelled with
everything around the array, so that a write outside of it would be seen. `commands`, `answered`
and `acknowledged` are what the component was told and what it replied.
-/

namespace Gneiss.Genode.RamDisk

open Runs BlockDevice Block

abbrev RequestIndex := Fin 64

def diskBlockSize : Nat := 512

def diskBlockCount : Nat := 1024

/-- The last index of `Disk`. -/
def diskLast : Nat := 524287

structure Flags where
  handled : Bool
  success : Bool
  deriving DecidableEq, Repr

inductive Command where
  | format
  | carryOut (request : StreamRequest) (content : Option Text)
  deriving DecidableEq, Repr

structure DiskWorld where
  log : Bool
  ready : Bool
  halted : Bool
  block : ServerWorld RequestIndex
  flags : RequestIndex → Flags
  ramDisk : Nat → UInt8
  commands : List Command
  answered : List (StreamRequest × Text)
  acknowledged : List StreamRequest

/-- What the packet stream answers in one turn: the request `with_requests` hands out, the payload
`with_content` finds for it, and whether `try_acknowledge` had room. -/
structure TurnInput where
  arrived : Option StreamRequest
  content : Option Text
  submitted : Bool
  deriving DecidableEq, Repr

/-- `Request` is called for a new session and for a closed one. -/
inductive Dispatched where
  | session (created : Bool)
  | close (own : Bool)
  deriving DecidableEq, Repr

inductive DiskInput where
  | turn (index : RequestIndex) (input : TurnInput)
  | request (dispatched : Dispatched)
  deriving DecidableEq, Repr

namespace DiskWorld

def initial (log : Bool) (memory : Nat → UInt8) : DiskWorld where
  log := log
  ready := false
  halted := false
  block := .initial
  flags := fun _ => ⟨false, false⟩
  ramDisk := memory
  commands := []
  answered := []
  acknowledged := []

def setFlags (world : DiskWorld) (index : RequestIndex) (flags : Flags) : DiskWorld :=
  { world with flags := Function.update world.flags index flags }

/-- The condition of `Read` and `Write` on `Start`, `Length` and the length of `B`. -/
def inRange (start length window : Nat) : Bool :=
  decide (start * diskBlockSize ≤ diskLast) &&
    decide ((start + length) * diskBlockSize - 1 ≤ diskLast) &&
    decide (window = length * diskBlockSize)

def read (world : DiskWorld) (index : RequestIndex) (window : Text) : DiskWorld :=
  let request := (world.block.requests index).request
  let first := request.blockNumber * diskBlockSize
  let last := (request.blockNumber + request.blockCount) * diskBlockSize - 1
  if inRange request.blockNumber request.blockCount window.length then
    { world.setFlags index ⟨(world.flags index).handled, true⟩ with
      answered := world.answered ++ [(request, load world.ramDisk first (last + 1 - first))] }
  else world.setFlags index ⟨(world.flags index).handled, false⟩

def write (world : DiskWorld) (index : RequestIndex) (window : Text) : DiskWorld :=
  let request := (world.block.requests index).request
  if inRange request.blockNumber request.blockCount window.length then
    { world.setFlags index ⟨(world.flags index).handled, true⟩ with
      ramDisk := store world.ramDisk (request.blockNumber * diskBlockSize) window }
  else world.setFlags index ⟨(world.flags index).handled, false⟩

/-- The first part of a turn: an unused request object takes what has arrived. -/
def take (world : DiskWorld) (index : RequestIndex) (input : TurnInput) : DiskWorld :=
  if (world.block.requests index).status = .raw then
    let commands := input.arrived.toList.map fun request => .carryOut request input.content
    { world.setFlags index ⟨false, false⟩ with
      block := world.block.process index input.arrived
      commands := world.commands ++ commands }
  else world

/-- `Block_Server.Read` or `Block_Server.Write`, which call back only if there is a payload. -/
def transfer (world : DiskWorld) (index : RequestIndex) (content : Option Text)
    (callback : DiskWorld → RequestIndex → Text → DiskWorld) : DiskWorld :=
  let applied := { world with block := world.block.apply index }
  match content with
  | some window => callback applied index window
  | none => applied

/-- The second part of a turn. A block count that is no value of `Count` raises an exception. -/
def handle (world : DiskWorld) (index : RequestIndex) (content : Option Text) : DiskWorld :=
  let req := world.block.requests index
  if req.status = .pending ∧ world.block.server.assigned req = true ∧
      (world.flags index).handled = false then
    let world := world.setFlags index ⟨true, (world.flags index).success⟩
    if req.request.blockNumber ≤ diskBlockCount then
      if 9223372036854775807 < req.request.blockCount then { world with halted := true }
      else if 0 < req.request.blockCount ∧ req.request.blockCount ≤ diskBlockCount then
        if req.request.kind = 1 then world.transfer index content read
        else if req.request.kind = 2 then world.transfer index content write
        else world
      else world.setFlags index ⟨true, false⟩
    else world.setFlags index ⟨true, false⟩
  else world

/-- The last part of a turn. -/
def answer (world : DiskWorld) (index : RequestIndex) (submitted : Bool) : DiskWorld :=
  let req := world.block.requests index
  let success := (world.flags index).success
  if world.halted = false ∧ req.status = .pending ∧ world.block.server.assigned req = true ∧
      (world.flags index).handled = true then
    { world with
      block := world.block.acknowledge index (if success then .ok else .error) submitted
      acknowledged := world.acknowledged ++
        if submitted then [{ req.request with success := success }] else [] }
  else world

def turn (world : DiskWorld) (index : RequestIndex) (input : TurnInput) : DiskWorld :=
  (((world.take index input).handle index input.content).answer index input.submitted)

/-- `Session_Initialize` with `Initialize` and, if the session could not be created, `Finalize`. -/
def sessionInitialize (world : DiskWorld) (created : Bool) : DiskWorld :=
  let ready := world.ready || world.log
  let block := world.block.sessionInitialize 42 ready created
  { world with
    ready := ready && block.server.initialized
    block := block
    ramDisk := fun place => if place ≤ diskLast then 0 else world.ramDisk place
    commands := world.commands ++ [.format] }

def request (world : DiskWorld) : Dispatched → DiskWorld
  | .session created =>
      if world.ready = false ∧ world.block.server.initialized = false then
        world.sessionInitialize created
      else world
  | .close own =>
      if (world.block.server.session.isSome && own) = true then
        { world with ready := false, block := world.block.sessionCleanup own }
      else world

def step (world : DiskWorld) : DiskInput → DiskWorld
  | .turn index input =>
      if world.halted = false ∧ world.ready = true ∧ world.block.server.initialized = true then
        world.turn index input
      else world
  | .request dispatched => if world.halted then world else world.request dispatched

/-- The request of an object in use, as it is or will be acknowledged. -/
def pendingItem (element : ServerRequest × Flags) : Option StreamRequest :=
  if element.1.status = .pending then some { element.1.request with success := element.2.success }
  else none

def elements (world : DiskWorld) (index : RequestIndex) : ServerRequest × Flags :=
  (world.block.requests index, world.flags index)

def held (world : DiskWorld) : List StreamRequest :=
  Slots.held (List.finRange 64) pendingItem world.elements

end DiskWorld

/-! The device that the component stands for carries out one command after the other. -/

structure Device where
  blocks : Nat → Text
  answers : List (StreamRequest × Text)
  outcomes : List StreamRequest

def permitted (request : StreamRequest) (window : Text) : Prop :=
  0 < request.blockCount ∧ request.blockNumber + request.blockCount ≤ diskBlockCount ∧
    window.length = request.blockCount * diskBlockSize

instance decidablePermitted (request : StreamRequest) (window : Text) :
    Decidable (permitted request window) :=
  inferInstanceAs (Decidable (_ ∧ _ ∧ _))

namespace Device

def initial (memory : Nat → UInt8) : Device := ⟨image diskBlockSize memory, [], []⟩

def readRequest (device : Device) (request : StreamRequest) : Device :=
  { device with
    answers := device.answers ++
      [(request, readBlocks device.blocks request.blockNumber request.blockCount)]
    outcomes := device.outcomes ++ [{ request with success := true }] }

def writeRequest (device : Device) (request : StreamRequest) (window : Text) : Device :=
  { device with
    blocks :=
      writeBlocks diskBlockSize device.blocks request.blockNumber request.blockCount window
    outcomes := device.outcomes ++ [{ request with success := true }] }

def refuse (device : Device) (request : StreamRequest) : Device :=
  { device with outcomes := device.outcomes ++ [{ request with success := false }] }

def perform (device : Device) : Command → Device
  | .format =>
      { device with blocks := fun number =>
          if number < diskBlockCount then List.replicate diskBlockSize 0
          else device.blocks number }
  | .carryOut request none => device.refuse request
  | .carryOut request (some window) =>
      if permitted request window then
        if request.kind = 1 then device.readRequest request
        else if request.kind = 2 then device.writeRequest request window
        else device.refuse request
      else device.refuse request

end Device

/-- Every answer and every acknowledgement, sent or still due, is the device's, and nothing outside
the array was changed. -/
structure Refines (memory : Nat → UInt8) (world : DiskWorld) (device : Device) : Prop where
  blocks : image diskBlockSize world.ramDisk = device.blocks
  answers : world.answered = device.answers
  outcomes : (world.acknowledged ++ world.held).Perm device.outcomes
  beyond : ∀ place, diskLast < place → world.ramDisk place = memory place
  settled : ∀ index, (world.block.requests index).status = .raw ∨
    (world.block.requests index).status = .pending ∧ (world.flags index).handled = true

/-- What `handle` leaves alone, and what it notes in the flags. -/
structure Handled (world after : DiskWorld) (index : RequestIndex) (success : Bool) : Prop where
  requests : after.block.requests = world.block.requests
  flags : after.flags = Function.update world.flags index ⟨true, success⟩
  commands : after.commands = world.commands
  acknowledged : after.acknowledged = world.acknowledged

theorem inRange_iff (request : StreamRequest) (window : Text) (some_ : 0 < request.blockCount) :
    DiskWorld.inRange request.blockNumber request.blockCount window.length = true ↔
      permitted request window := by
  unfold DiskWorld.inRange permitted
  simp only [Bool.and_eq_true, decide_eq_true_eq]
  simp only [diskBlockSize, diskBlockCount, diskLast]
  omega

/-- The callback is not reached, or finds that the request does not fit. -/
theorem transfer_refused (world : DiskWorld) (index : RequestIndex) (content : Option Text)
    (callback : DiskWorld → RequestIndex → Text → DiskWorld)
    (reader : callback = DiskWorld.read ∨ callback = DiskWorld.write)
    (some_ : 0 < (world.block.requests index).request.blockCount)
    (unfit : ∀ window, content = some window →
      ¬permitted (world.block.requests index).request window)
    (noted : world.flags index = ⟨true, false⟩) :
    let after := world.transfer index content callback
    Handled world after index false ∧ after.ramDisk = world.ramDisk ∧
      after.answered = world.answered := by
  intro after
  have kept : Function.update world.flags index ⟨true, false⟩ = world.flags := by
    rw [← noted, Function.update_eq_self]
  cases content with
  | none => exact ⟨⟨rfl, kept.symm, rfl, rfl⟩, rfl, rfl⟩
  | some window =>
      have outside := mt (inRange_iff _ window some_).mp (unfit window rfl)
      have same : after =
          { world with block := world.block.apply index }.setFlags index ⟨true, false⟩ := by
        have handled : (world.flags index).handled = true := by rw [noted]
        rcases reader with rfl | rfl
        · simp only [after, DiskWorld.transfer, DiskWorld.read, ServerWorld.apply, if_neg outside,
            handled]
        · simp only [after, DiskWorld.transfer, DiskWorld.write, ServerWorld.apply,
            if_neg outside, handled]
      rw [same]
      exact ⟨⟨rfl, rfl, rfl, rfl⟩, rfl, rfl⟩

theorem Handled.setFlags {world after : DiskWorld} {index : RequestIndex} {success : Bool}
    {flags : Flags} (handled : Handled (world.setFlags index flags) after index success) :
    Handled world after index success := by
  refine ⟨handled.requests, ?_, handled.commands, handled.acknowledged⟩
  rw [handled.flags]
  exact Function.update_idem _ _ _

/-- The slice that `Read` copies has the length of the request. -/
theorem slice_length (start length : Nat) (some_ : 0 < length) :
    (start + length) * diskBlockSize - 1 + 1 - start * diskBlockSize =
      length * diskBlockSize := by
  simp only [diskBlockSize]
  omega

theorem transfer_read (world : DiskWorld) (index : RequestIndex) (window : Text)
    (allowed : permitted (world.block.requests index).request window)
    (noted : world.flags index = ⟨true, false⟩) :
    let request := (world.block.requests index).request
    let after := world.transfer index (some window) DiskWorld.read
    Handled world after index true ∧ after.ramDisk = world.ramDisk ∧
      after.answered = world.answered ++ [(request, load world.ramDisk
        (request.blockNumber * diskBlockSize) (request.blockCount * diskBlockSize))] := by
  intro request after
  have inside := (inRange_iff request window allowed.1).mpr allowed
  have handled : (world.flags index).handled = true := by rw [noted]
  simp only [after, DiskWorld.transfer, DiskWorld.read, ServerWorld.apply, handled]
  rw [if_pos inside, slice_length _ _ allowed.1]
  exact ⟨⟨rfl, rfl, rfl, rfl⟩, rfl, rfl⟩

theorem transfer_write (world : DiskWorld) (index : RequestIndex) (window : Text)
    (allowed : permitted (world.block.requests index).request window)
    (noted : world.flags index = ⟨true, false⟩) :
    let request := (world.block.requests index).request
    let after := world.transfer index (some window) DiskWorld.write
    Handled world after index true ∧ after.answered = world.answered ∧
      after.ramDisk = store world.ramDisk (request.blockNumber * diskBlockSize) window := by
  intro request after
  have inside := (inRange_iff request window allowed.1).mpr allowed
  have handled : (world.flags index).handled = true := by rw [noted]
  simp only [after, DiskWorld.transfer, DiskWorld.write, ServerWorld.apply, handled]
  rw [if_pos inside]
  exact ⟨⟨rfl, rfl, rfl, rfl⟩, rfl, rfl⟩

/-- A request that was just taken is read, written or refused, as the device would do it. -/
theorem handle_cases (world : DiskWorld) (index : RequestIndex) (content : Option Text)
    (pending : (world.block.requests index).status = .pending)
    (assigned : world.block.server.assigned (world.block.requests index) = true)
    (fresh : world.flags index = ⟨false, false⟩) :
    let request := (world.block.requests index).request
    let after := world.handle index content
    (∃ window, content = some window ∧ permitted request window ∧ request.kind = 1 ∧
        Handled world after index true ∧ after.ramDisk = world.ramDisk ∧
        after.answered = world.answered ++ [(request, load world.ramDisk
          (request.blockNumber * diskBlockSize) (request.blockCount * diskBlockSize))]) ∨
      (∃ window, content = some window ∧ permitted request window ∧ request.kind = 2 ∧
        Handled world after index true ∧ after.answered = world.answered ∧
        after.ramDisk = store world.ramDisk (request.blockNumber * diskBlockSize) window) ∨
      (∀ window, content = some window → permitted request window →
          request.kind ≠ 1 ∧ request.kind ≠ 2) ∧
        Handled world after index false ∧ after.ramDisk = world.ramDisk ∧
        after.answered = world.answered := by
  intro request after
  have marked : (world.setFlags index ⟨true, false⟩).flags index = ⟨true, false⟩ :=
    Function.update_self _ _ _
  have again : (world.setFlags index ⟨true, false⟩).setFlags index ⟨true, false⟩ =
      world.setFlags index ⟨true, false⟩ := by simp [DiskWorld.setFlags]
  have refused : Handled world (world.setFlags index ⟨true, false⟩) index false :=
    ⟨rfl, rfl, rfl, rfl⟩
  have start : after = world.handle index content := rfl
  simp only [DiskWorld.handle, pending, assigned, fresh, and_self, if_true] at start
  rw [again] at start
  change after = if request.blockNumber ≤ diskBlockCount then
    if 9223372036854775807 < request.blockCount then _ else
    if 0 < request.blockCount ∧ request.blockCount ≤ diskBlockCount then
      if request.kind = 1 then _ else if request.kind = 2 then _ else _ else _ else _ at start
  by_cases fits : ∃ window, content = some window ∧ permitted request window
  · obtain ⟨window, rfl, allowed⟩ := fits
    obtain ⟨some_, bound, sized⟩ := allowed
    have small : request.blockCount ≤ diskBlockCount := by omega
    have noException : ¬9223372036854775807 < request.blockCount := by
      simp only [diskBlockCount] at small
      omega
    rw [if_pos (by omega), if_neg noException, if_pos ⟨some_, small⟩] at start
    by_cases reading : request.kind = 1
    · have done_ := transfer_read (world.setFlags index ⟨true, false⟩) index window
        ⟨some_, bound, sized⟩ marked
      rw [if_pos reading] at start
      rw [start]
      exact Or.inl ⟨window, rfl, ⟨some_, bound, sized⟩, reading, done_.1.setFlags, done_.2⟩
    · by_cases writing : request.kind = 2
      · have done_ := transfer_write (world.setFlags index ⟨true, false⟩) index window
          ⟨some_, bound, sized⟩ marked
        rw [if_neg reading, if_pos writing] at start
        rw [start]
        exact Or.inr (Or.inl
          ⟨window, rfl, ⟨some_, bound, sized⟩, writing, done_.1.setFlags, done_.2⟩)
      · rw [if_neg reading, if_neg writing] at start
        rw [start]
        exact Or.inr (Or.inr ⟨fun _ _ _ => ⟨reading, writing⟩, refused, rfl, rfl⟩)
  · have unfit : ∀ window, content = some window → ¬permitted request window :=
      fun window same allowed => fits ⟨window, same, allowed⟩
    right
    right
    refine ⟨fun window same allowed => (unfit window same allowed).elim, ?_⟩
    rw [start]
    split
    · split
      · exact ⟨⟨rfl, rfl, rfl, rfl⟩, rfl, rfl⟩
      · split
        · rename_i length
          split
          · have done_ := transfer_refused (world.setFlags index ⟨true, false⟩) index content
              DiskWorld.read (Or.inl rfl) length.1 unfit marked
            exact ⟨done_.1.setFlags, done_.2⟩
          · split
            · have done_ := transfer_refused (world.setFlags index ⟨true, false⟩) index content
                DiskWorld.write (Or.inr rfl) length.1 unfit marked
              exact ⟨done_.1.setFlags, done_.2⟩
            · exact ⟨refused, rfl, rfl⟩
        · exact ⟨refused, rfl, rfl⟩
    · exact ⟨refused, rfl, rfl⟩

theorem elements_of_updates (world after : DiskWorld) (index : RequestIndex)
    {request : ServerRequest} {flags : Flags}
    (requests : after.block.requests = Function.update world.block.requests index request)
    (flagged : after.flags = Function.update world.flags index flags) :
    after.elements = Function.update world.elements index (request, flags) := by
  funext other
  unfold DiskWorld.elements
  rw [requests, flagged]
  by_cases same : other = index
  · rw [same]
    simp
  · simp [Function.update_of_ne same]

theorem held_of_updates (world after : DiskWorld) (index : RequestIndex)
    {request : ServerRequest} {flags : Flags}
    (requests : after.block.requests = Function.update world.block.requests index request)
    (flagged : after.flags = Function.update world.flags index flags) :
    ((DiskWorld.pendingItem (world.elements index)).toList ++ after.held).Perm
      ((DiskWorld.pendingItem (request, flags)).toList ++ world.held) := by
  unfold DiskWorld.held
  rw [elements_of_updates world after index requests flagged]
  exact Slots.held_update _ (List.nodup_finRange 64) _ _ index (List.mem_finRange index) _

theorem held_of_same (world after : DiskWorld)
    (requests : after.block.requests = world.block.requests) (flags : after.flags = world.flags) :
    after.held = world.held := by
  apply Slots.held_congr
  intro index _
  unfold DiskWorld.elements
  rw [requests, flags]

theorem Refines.answer {memory : Nat → UInt8} {world : DiskWorld} {device : Device}
    (refines : Refines memory world device) (index : RequestIndex) (submitted : Bool) :
    Refines memory (world.answer index submitted) device := by
  have unchanged : world.flags = Function.update world.flags index (world.flags index) :=
    (Function.update_eq_self index world.flags).symm
  by_cases due : world.halted = false ∧ (world.block.requests index).status = .pending ∧
      world.block.server.assigned (world.block.requests index) = true ∧
      (world.flags index).handled = true
  · obtain ⟨blocks, answers, outcomes, beyond, settled⟩ := refines
    have exchanged := held_of_updates world (world.answer index submitted) index
      (by simp only [DiskWorld.answer, if_pos due]; rfl)
      (by simp only [DiskWorld.answer, if_pos due]; exact unchanged)
    have pending := due.2.1
    have before : DiskWorld.pendingItem (world.elements index) = some
        { (world.block.requests index).request with success := (world.flags index).success } := by
      simp [DiskWorld.pendingItem, DiskWorld.elements, pending]
    rw [before] at exchanged
    simp only [DiskWorld.answer, if_pos due] at exchanged ⊢
    refine ⟨blocks, answers, ?_, beyond, ?_⟩
    · refine List.Perm.trans ?_ outcomes
      cases submitted with
      | true =>
          rw [List.append_assoc]
          exact exchanged.append_left world.acknowledged
      | false =>
          simp only [Bool.false_eq_true, if_false, List.append_nil]
          apply List.Perm.append_left
          simpa [DiskWorld.pendingItem, pending] using exchanged
    · intro other
      by_cases same : other = index
      · cases submitted with
        | true =>
            left
            simp [ServerWorld.acknowledge, same]
        | false =>
            right
            simp [ServerWorld.acknowledge, same, pending, due.2.2.2]
      · simpa [ServerWorld.acknowledge, Function.update_of_ne same] using settled other
  · simp only [DiskWorld.answer, if_neg due]
    exact refines

/-- A request that was taken and handled is one more outcome, still to be acknowledged. -/
theorem Refines.carriedOut {memory : Nat → UInt8} {world : DiskWorld} {device : Device}
    (refines : Refines memory world device) (after : DiskWorld) (next : Device)
    (index : RequestIndex) (request : StreamRequest) (tag : Option Nat) (origin : Nat)
    (success : Bool)
    (unused : (world.block.requests index).status = .raw)
    (requests : after.block.requests =
      Function.update world.block.requests index ⟨request, .pending, tag, origin⟩)
    (flags : after.flags = Function.update world.flags index ⟨true, success⟩)
    (acknowledged : after.acknowledged = world.acknowledged)
    (blocks : image diskBlockSize after.ramDisk = next.blocks)
    (answers : after.answered = next.answers)
    (outcomes : next.outcomes = device.outcomes ++ [{ request with success := success }])
    (beyond : ∀ place, diskLast < place → after.ramDisk place = memory place) :
    Refines memory after next := by
  refine ⟨blocks, answers, ?_, beyond, ?_⟩
  · have exchanged := held_of_updates world after index requests flags
    simp only [DiskWorld.pendingItem, DiskWorld.elements, unused, reduceCtorEq, if_false, if_true,
      Option.toList_none, Option.toList_some, List.nil_append] at exchanged
    rw [acknowledged, outcomes]
    refine (exchanged.append_left _).trans ?_
    refine List.perm_middle.trans ?_
    refine List.Perm.trans ?_ (List.perm_append_singleton _ _).symm
    exact refines.outcomes.cons _
  · intro other
    rw [requests, flags]
    by_cases same : other = index
    · right
      simp [same]
    · simpa [Function.update_of_ne same] using refines.settled other

theorem store_beyond {memory disk : Nat → UInt8} {request : StreamRequest} {window : Text}
    (allowed : permitted request window)
    (beyond : ∀ place, diskLast < place → disk place = memory place) (place : Nat)
    (outside : diskLast < place) :
    store disk (request.blockNumber * diskBlockSize) window place = memory place := by
  rw [store_outside _ _ _ _ ?_, beyond place outside]
  obtain ⟨_, bound, sized⟩ := allowed
  right
  simp only [diskBlockSize, diskBlockCount, diskLast] at bound sized outside ⊢
  omega

theorem take_some (world : DiskWorld) (index : RequestIndex) (request : StreamRequest)
    (content : Option Text) (submitted : Bool)
    (unused : (world.block.requests index).status = .raw) :
    world.take index ⟨some request, content, submitted⟩ =
      { world.setFlags index ⟨false, false⟩ with
        block := world.block.process index (some request)
        commands := world.commands ++ [.carryOut request content] } := by
  simp [DiskWorld.take, unused]

theorem take_none (world : DiskWorld) (index : RequestIndex) (content : Option Text)
    (submitted : Bool) (unused : (world.block.requests index).status = .raw) :
    world.take index ⟨none, content, submitted⟩ = world.setFlags index ⟨false, false⟩ := by
  simp [DiskWorld.take, unused, ServerWorld.process, DiskWorld.setFlags]

theorem take_pending (world : DiskWorld) (index : RequestIndex) (input : TurnInput)
    (pending : (world.block.requests index).status = .pending) :
    world.take index input = world := by
  simp [DiskWorld.take, pending]

theorem process_stored (block : ServerWorld RequestIndex) (index : RequestIndex)
    (request : StreamRequest) : (block.process index (some request)).requests index =
      ⟨request, .pending, block.server.tag, block.server.session.getD 0⟩ := by
  simp [ServerWorld.process]

theorem Refines.taken {memory : Nat → UInt8} {world : DiskWorld} {device : Device}
    (refines : Refines memory world device) (index : RequestIndex) (request : StreamRequest)
    (content : Option Text) (submitted : Bool)
    (unused : (world.block.requests index).status = .raw) :
    let after := (world.take index ⟨some request, content, submitted⟩).handle index content
    after.commands = world.commands ++ [.carryOut request content] ∧
      Refines memory after (device.perform (.carryOut request content)) := by
  intro after
  let taken := world.take index ⟨some request, content, submitted⟩
  have took : taken = _ := take_some world index request content submitted unused
  have requests : taken.block.requests = Function.update world.block.requests index
      ⟨request, .pending, world.block.server.tag, world.block.server.session.getD 0⟩ := by
    rw [took]
    rfl
  have flags : taken.flags = Function.update world.flags index ⟨false, false⟩ := by rw [took]; rfl
  have stored : taken.block.requests index =
      ⟨request, .pending, world.block.server.tag, world.block.server.session.getD 0⟩ := by
    rw [took]
    exact process_stored world.block index request
  have server : taken.block.server = world.block.server := by rw [took]; rfl
  have disk : taken.ramDisk = world.ramDisk := by rw [took]; rfl
  have answered : taken.answered = world.answered := by rw [took]; rfl
  have commands : taken.commands = world.commands ++ [.carryOut request content] := by rw [took]
  have acknowledged : taken.acknowledged = world.acknowledged := by rw [took]; rfl
  have handling := handle_cases taken index content (by rw [stored])
    (by rw [stored, server]; simp [ServerSession.assigned]) (by rw [flags, Function.update_self])
  simp only [stored, disk, answered] at handling
  have settle (success : Bool) (next : Device) (handled : Handled taken after index success) :=
    refines.carriedOut after next index request world.block.server.tag
      (world.block.server.session.getD 0) success unused (handled.requests.trans requests)
      (by rw [handled.flags, flags, Function.update_idem])
      (handled.acknowledged.trans acknowledged)
  rcases handling with ⟨window, rfl, allowed, reading, handled, kept, answers⟩ |
    ⟨window, rfl, allowed, writing, handled, answers, changed⟩ | ⟨other, handled, kept, answers⟩
  · refine ⟨handled.commands.trans commands, ?_⟩
    have performed : device.perform (.carryOut request (some window)) =
        device.readRequest request := by
      simp only [Device.perform, if_pos allowed, if_pos reading]
    rw [performed]
    refine settle true _ handled ?_ ?_ rfl ?_
    · rw [kept]
      exact refines.blocks
    · rw [answers, load_image, refines.blocks, refines.answers]
      rfl
    · rw [kept]
      exact refines.beyond
  · refine ⟨handled.commands.trans commands, ?_⟩
    have performed : device.perform (.carryOut request (some window)) =
        device.writeRequest request window := by
      have notReading : request.kind ≠ 1 := by omega
      simp only [Device.perform, if_pos allowed, if_neg notReading, if_pos writing]
    rw [performed]
    refine settle true _ handled ?_ ?_ rfl ?_
    · rw [changed, image_store _ _ _ _ _ allowed.2.2, refines.blocks]
      rfl
    · rw [answers]
      exact refines.answers
    · rw [changed]
      exact store_beyond allowed refines.beyond
  · refine ⟨handled.commands.trans commands, ?_⟩
    have performed : device.perform (.carryOut request content) = device.refuse request := by
      cases content with
      | none => rfl
      | some window =>
          simp only [Device.perform]
          split
          · rename_i allowed
            obtain ⟨notReading, notWriting⟩ := other window rfl allowed
            rw [if_neg notReading, if_neg notWriting]
          · rfl
    rw [performed]
    refine settle false _ handled ?_ ?_ rfl ?_
    · rw [kept]
      exact refines.blocks
    · rw [answers]
      exact refines.answers
    · rw [kept]
      exact refines.beyond

theorem handle_settled (world : DiskWorld) (index : RequestIndex) (content : Option Text)
    (settled : (world.block.requests index).status = .raw ∨
      (world.flags index).handled = true) : world.handle index content = world := by
  unfold DiskWorld.handle
  apply if_neg
  rintro ⟨pending, _, notHandled⟩
  rcases settled with raw | handled
  · rw [raw] at pending
    cases pending
  · rw [handled] at notHandled
    cases notHandled

theorem answer_commands (world : DiskWorld) (index : RequestIndex) (submitted : Bool) :
    (world.answer index submitted).commands = world.commands := by
  simp only [DiskWorld.answer, apply_ite DiskWorld.commands, ite_self]

theorem Refines.setFlags {memory : Nat → UInt8} {world : DiskWorld} {device : Device}
    (refines : Refines memory world device) (index : RequestIndex) (flags : Flags)
    (unused : (world.block.requests index).status = .raw) :
    Refines memory (world.setFlags index flags) device := by
  obtain ⟨blocks, answers, outcomes, beyond, settled⟩ := refines
  refine ⟨blocks, answers, ?_, beyond, ?_⟩
  · have same : (world.setFlags index flags).held = world.held := by
      apply Slots.held_congr
      intro other _
      by_cases here : other = index
      · simp [DiskWorld.pendingItem, DiskWorld.elements, DiskWorld.setFlags, here, unused]
      · simp [DiskWorld.elements, DiskWorld.setFlags, Function.update_of_ne here]
    rw [same]
    exact outcomes
  · intro other
    by_cases here : other = index
    · left
      rw [here]
      exact unused
    · simpa [DiskWorld.setFlags, Function.update_of_ne here] using settled other

/-- The world refines the device that carried out all commands. -/
def Follows (memory : Nat → UInt8) (world : DiskWorld) : Prop :=
  Refines memory world (run Device.perform (Device.initial memory) world.commands)

theorem Follows.turn {memory : Nat → UInt8} {world : DiskWorld} (follows : Follows memory world)
    (index : RequestIndex) (input : TurnInput) : Follows memory (world.turn index input) := by
  obtain ⟨arrived, content, submitted⟩ := input
  have refines : Refines memory world _ := follows
  unfold Follows DiskWorld.turn
  rw [answer_commands]
  apply Refines.answer
  rcases refines.settled index with unused | ⟨pending, handled⟩
  · cases arrived with
    | some request =>
        obtain ⟨commands, next⟩ := refines.taken index request content submitted unused
        rw [commands, run_append]
        exact next
    | none =>
        rw [take_none world index content submitted unused,
          handle_settled (world.setFlags index ⟨false, false⟩) _ _ (Or.inl unused)]
        exact refines.setFlags index ⟨false, false⟩ unused
  · rw [take_pending world index _ pending, handle_settled _ _ _ (Or.inr handled)]
    exact refines

theorem image_format (memory : Nat → UInt8) (blocks : Nat → Text)
    (same : image diskBlockSize memory = blocks) :
    image diskBlockSize (fun place => if place ≤ diskLast then 0 else memory place) =
      fun number => if number < diskBlockCount then List.replicate diskBlockSize 0
        else blocks number := by
  funext number
  simp only [← same, image]
  split
  · rename_i inside
    apply load_replicate
    intro place _ upper
    apply if_pos
    simp only [diskBlockSize, diskBlockCount, diskLast] at inside upper ⊢
    omega
  · rename_i outside
    apply load_congr
    intro place lower _
    apply if_neg
    simp only [diskBlockSize, diskBlockCount, diskLast] at outside lower ⊢
    omega

theorem Follows.request {memory : Nat → UInt8} {world : DiskWorld} (follows : Follows memory world)
    (dispatched : Dispatched) : Follows memory (world.request dispatched) := by
  cases dispatched with
  | session created =>
      simp only [DiskWorld.request]
      split
      · obtain ⟨blocks, answers, outcomes, beyond, settled⟩ := follows
        have requests := world.block.sessionInitialize_requests 42 (world.ready || world.log)
          created
        have held := held_of_same world (world.sessionInitialize created) requests rfl
        simp only [Follows, DiskWorld.sessionInitialize, run_append]
        refine ⟨image_format _ _ blocks, answers, ?_, ?_, ?_⟩
        · exact (List.Perm.of_eq (congrArg _ held)).trans outcomes
        · intro place outside
          exact (if_neg (Nat.not_le_of_lt outside)).trans (beyond place outside)
        · simpa only [requests] using settled
      · exact follows
  | close own =>
      simp only [DiskWorld.request]
      split
      · rename_i closed
        have requests : (world.block.sessionCleanup own).requests = world.block.requests := by
          rw [ServerWorld.sessionCleanup, if_pos closed]
        obtain ⟨blocks, answers, outcomes, beyond, settled⟩ := follows
        have held := held_of_same world
          { world with ready := false, block := world.block.sessionCleanup own } requests rfl
        refine ⟨blocks, answers, ?_, beyond, ?_⟩
        · exact (List.Perm.of_eq (congrArg _ held)).trans outcomes
        · simpa only [requests] using settled
      · exact follows

theorem Follows.step {memory : Nat → UInt8} {world : DiskWorld} (follows : Follows memory world)
    (input : DiskInput) : Follows memory (world.step input) := by
  cases input with
  | turn index input =>
      simp only [DiskWorld.step]
      split
      · exact follows.turn index input
      · exact follows
  | request dispatched =>
      simp only [DiskWorld.step]
      split
      · exact follows
      · exact follows.request dispatched

theorem follows_initial (log : Bool) (memory : Nat → UInt8) :
    Follows memory (DiskWorld.initial log memory) := by
  refine ⟨rfl, rfl, ?_, fun place _ => rfl, fun index => Or.inl rfl⟩
  have nothing : (DiskWorld.initial log memory).held = [] := by
    unfold DiskWorld.held Slots.held
    rw [List.filterMap_eq_nil_iff]
    intro index _
    rfl
  rw [nothing]
  exact List.Perm.nil

/-- In every run, whatever request object takes its turn when, the disk is a device that carries out
the requests one by one in the order in which they were accepted: it holds what was written, every
read returns what the device holds, and each request is acknowledged once with its own outcome or is
still held. Nothing outside the array is touched. -/
theorem disk_carries_out_requests (log : Bool) (memory : Nat → UInt8) (inputs : List DiskInput) :
    let world := run DiskWorld.step (DiskWorld.initial log memory) inputs
    let device := run Device.perform (Device.initial memory) world.commands
    image diskBlockSize world.ramDisk = device.blocks ∧ world.answered = device.answers ∧
      (world.acknowledged ++ world.held).Perm device.outcomes ∧
      ∀ place, diskLast < place → world.ramDisk place = memory place := by
  intro world device
  have follows : Follows memory world := run_invariant DiskWorld.step (Follows memory)
    (fun _ input holds => holds.step input) _ inputs (follows_initial log memory)
  exact ⟨follows.blocks, follows.answers, follows.outcomes, follows.beyond⟩

end Gneiss.Genode.RamDisk
