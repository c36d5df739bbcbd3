import Mathlib.Data.List.GetD
import Mathlib.Logic.Function.Basic
import Gneiss.Library.Runs
import Gneiss.Platform.Session

/-!
The message channel on Linux. A session socket is a queue of datagrams in each direction, and every
side has a memory in which a `Message_Buffer` occupies 128 bytes. `Read`, `Write`, `Send` and both
`Available` functions hand `Message_Buffer'Size * 8` to the system calls as a number of bytes.
`written` and `obtained` list the buffers each side passed to its calls and got back from them.
-/

namespace Gneiss.Message

open Runs

def bufferBytes : Nat := 128

/-- `Message_Buffer'Size`, which `Initialize` requires to be 128 * 8. -/
def messageBufferSize : Nat := bufferBytes * 8

/-- The `Size` argument of the four calls. -/
def callSize : Nat := messageBufferSize * 8

abbrev Memory := Nat → UInt8

def load (memory : Memory) (address size : Nat) : Text :=
  (List.range size).map fun offset => memory (address + offset)

def store (memory : Memory) (address : Nat) (bytes : Text) : Memory :=
  fun other => if address ≤ other then bytes.getD (other - address) (memory other) else memory other

inductive Side where
  | client
  | server
  deriving DecidableEq, Repr

def Side.peer : Side → Side
  | .client => .server
  | .server => .client

/-- `queue side` holds the datagrams that wait to be received by `side`. -/
structure Channel where
  memory : Side → Memory
  queue : Side → List Text
  written : Side → List Text
  obtained : Side → List Text

namespace Channel

def start (memory : Side → Memory) : Channel := ⟨memory, fun _ => [], fun _ => [], fun _ => []⟩

/-- `gneiss_message_peek`: the length of the next datagram, or -1. -/
def peek (channel : Channel) (side : Side) : Int :=
  match channel.queue side with
  | [] => -1
  | datagram :: _ => datagram.length

def available (channel : Channel) (side : Side) : Bool :=
  (callSize : Int) ≤ channel.peek side

/-- `Write` of the client and `Send` of the server, for the buffer at `address`. -/
def write (channel : Channel) (side : Side) (address : Nat) : Channel :=
  let datagram := load (channel.memory side) address callSize
  let content := load (channel.memory side) address bufferBytes
  { channel with
    queue := Function.update channel.queue side.peer (channel.queue side.peer ++ [datagram])
    written := Function.update channel.written side (channel.written side ++ [content]) }

/-- `Read` of the client and of the dispatcher, into the buffer at `address`. -/
def read (channel : Channel) (side : Side) (address : Nat) : Channel :=
  match channel.queue side with
  | [] => channel
  | datagram :: rest =>
      let memory := store (channel.memory side) address (datagram.take callSize)
      { channel with
        memory := Function.update channel.memory side memory
        queue := Function.update channel.queue side rest
        obtained := Function.update channel.obtained side
          (channel.obtained side ++ [load memory address bufferBytes]) }

end Channel

/-- Besides its calls, a side changes its own memory as it likes. -/
inductive Input where
  | write (side : Side) (address : Nat)
  | read (side : Side) (address : Nat)
  | change (side : Side) (memory : Memory)

def Channel.step (channel : Channel) : Input → Channel
  | .write side address => channel.write side address
  | .read side address =>
      if channel.available side then channel.read side address else channel
  | .change side memory => { channel with memory := Function.update channel.memory side memory }

def MessageWaits (channel : Channel) (side : Side) : Prop :=
  ∃ datagram rest, channel.queue side = datagram :: rest ∧ datagram.length = bufferBytes

/-- The step transports exactly the 128 bytes of a buffer. -/
def Exact (channel : Channel) (input : Input) : Prop :=
  (∀ side, channel.available side = true ↔ MessageWaits channel side) ∧
    match input with
    | .write side address =>
        (channel.step input).queue side.peer =
          channel.queue side.peer ++ [load (channel.memory side) address bufferBytes]
    | .read side address =>
        channel.available side = true →
          (channel.written side.peer)[(channel.obtained side).length]? =
              some (load ((channel.step input).memory side) address bufferBytes) ∧
            ∀ other, other < address ∨ address + bufferBytes ≤ other →
              (channel.step input).memory side other = channel.memory side other
    | .change _ _ => True

def Input.Silent : Input → Prop
  | .write _ _ => False
  | _ => True

@[simp] theorem load_length (memory : Memory) (address size : Nat) :
    (load memory address size).length = size := by
  simp [load]

theorem take_load (memory : Memory) (address size count : Nat) (bound : count ≤ size) :
    (load memory address size).take count = load memory address count := by
  rw [load, load, ← List.map_take, List.take_range, Nat.min_eq_left bound]

theorem load_store (memory : Memory) (address size : Nat) (bytes : Text)
    (bound : size ≤ bytes.length) :
    load (store memory address bytes) address size = bytes.take size := by
  apply List.ext_getElem
  · simp [bound]
  · intro index inside _
    have small : index < size := by simpa using inside
    have received : index < bytes.length := by omega
    simp [load, store, received]

theorem Exact.silent {channel : Channel} {input : Input} (exact_ : Exact channel input) :
    input.Silent := by
  cases input with
  | write side address =>
      have same := exact_.2
      simp only [Channel.step, Channel.write, Function.update_self,
        List.append_cancel_left_eq, List.cons.injEq, and_true] at same
      have lengths := congrArg List.length same
      rw [load_length, load_length] at lengths
      simp [callSize, messageBufferSize, bufferBytes] at lengths
  | read side address => trivial
  | change side memory => trivial

theorem exact_of_empty {channel : Channel} (empty : ∀ side, channel.queue side = [])
    {input : Input} (silent : input.Silent) : Exact channel input := by
  have nothing : ∀ side, channel.available side = false := by
    intro side
    simp [Channel.available, Channel.peek, empty side, callSize, messageBufferSize, bufferBytes]
  refine ⟨fun side => ?_, ?_⟩
  · rw [nothing side]
    constructor
    · intro impossible
      cases impossible
    · rintro ⟨datagram, rest, waits, _⟩
      rw [empty side] at waits
      cases waits
  · cases input with
    | write side address => exact silent.elim
    | read side address =>
        intro waits
        rw [nothing side] at waits
        cases waits
    | change side memory => trivial

theorem step_empty {channel : Channel} (empty : ∀ side, channel.queue side = []) {input : Input}
    (silent : input.Silent) (side : Side) : (channel.step input).queue side = [] := by
  cases input with
  | write other address => exact silent.elim
  | read other address =>
      simp only [Channel.step]
      split
      · simp only [Channel.read, empty other]
        exact empty side
      · exact empty side
  | change other memory => exact empty side

theorem exact_iff_silent (channel : Channel) (empty : ∀ side, channel.queue side = [])
    (inputs : List Input) :
    EachStep Channel.step Exact channel inputs ↔ ∀ input ∈ inputs, input.Silent := by
  induction inputs generalizing channel with
  | nil => simp [EachStep]
  | cons input rest ih =>
      rw [EachStep, List.forall_mem_cons]
      constructor
      · rintro ⟨exact_, later⟩
        have silent := exact_.silent
        exact ⟨silent, (ih _ (step_empty empty silent)).mp later⟩
      · rintro ⟨silent, later⟩
        exact ⟨exact_of_empty empty silent, (ih _ (step_empty empty silent)).mpr later⟩

/-! Still, whole buffers arrive in order: what was written and not yet obtained is queued. -/

structure Ordered (channel : Channel) : Prop where
  sized : ∀ side, ∀ datagram ∈ channel.queue side, datagram.length = callSize
  queued : ∀ side, channel.written side.peer =
    channel.obtained side ++ (channel.queue side).map (·.take bufferBytes)

theorem peer_peer (side : Side) : side.peer.peer = side := by
  cases side <;> rfl

theorem Ordered.write {channel : Channel} (ordered : Ordered channel) (side : Side)
    (address : Nat) : Ordered (channel.write side address) := by
  constructor
  · intro other datagram member
    by_cases same : other = side.peer
    · simp only [Channel.write, same, Function.update_self, List.mem_append,
        List.mem_singleton] at member
      rcases member with before | last
      · exact ordered.sized side.peer datagram before
      · rw [last, load_length]
    · simp only [Channel.write, Function.update_of_ne same] at member
      exact ordered.sized other datagram member
  · intro other
    by_cases same : other = side.peer
    · have small : bufferBytes ≤ callSize := by decide
      have before := ordered.queued side.peer
      rw [peer_peer] at before
      simp only [Channel.write, same, peer_peer, Function.update_self, List.map_append, before,
        List.map_cons, List.map_nil, take_load _ _ _ _ small, List.append_assoc]
    · have different : other.peer ≠ side := by
        rintro rfl
        exact same (peer_peer other).symm
      simp only [Channel.write, Function.update_of_ne same, Function.update_of_ne different]
      exact ordered.queued other

theorem Ordered.read {channel : Channel} (ordered : Ordered channel) (side : Side)
    (address : Nat) : Ordered (channel.read side address) := by
  cases waiting : channel.queue side with
  | nil =>
      simp only [Channel.read, waiting]
      exact ordered
  | cons datagram rest =>
      have small : bufferBytes ≤ callSize := by decide
      have length : datagram.length = callSize :=
        ordered.sized side datagram (by rw [waiting]; exact List.mem_cons_self)
      simp only [Channel.read, waiting]
      constructor
      · intro other item member
        by_cases same : other = side
        · rw [same] at member
          simp only [Function.update_self] at member
          exact ordered.sized side item (by rw [waiting]; exact List.mem_cons_of_mem _ member)
        · simp only [Function.update_of_ne same] at member
          exact ordered.sized other item member
      · intro other
        by_cases same : other = side
        · rw [same]
          simp only [Function.update_self]
          rw [load_store _ _ _ _ (by rw [List.length_take]; omega), List.take_take,
            Nat.min_eq_left small, ordered.queued side, waiting]
          simp
        · simp only [Function.update_of_ne same]
          exact ordered.queued other

theorem Ordered.step {channel : Channel} (ordered : Ordered channel) (input : Input) :
    Ordered (channel.step input) := by
  cases input with
  | write side address => exact ordered.write side address
  | read side address =>
      simp only [Channel.step]
      split
      · exact ordered.read side address
      · exact ordered
  | change side memory => exact ⟨ordered.sized, ordered.queued⟩

/-- A run transports exactly the buffers of 128 bytes if and only if nothing is written in it; in
every run the buffers obtained on one side are the first of those written on the other. -/
theorem channel_exact_iff (memory : Side → Memory) (inputs : List Input) :
    (EachStep Channel.step Exact (Channel.start memory) inputs ↔
        ∀ input ∈ inputs, input.Silent) ∧
      ∀ side, (run Channel.step (Channel.start memory) inputs).obtained side <+:
        (run Channel.step (Channel.start memory) inputs).written side.peer := by
  constructor
  · exact exact_iff_silent (Channel.start memory) (fun _ => rfl) inputs
  · intro side
    have start : Ordered (Channel.start memory) := by
      constructor
      · intro side datagram member
        cases member
      · intro side
        rfl
    have ordered := run_invariant Channel.step Ordered
      (fun _ input ordered => ordered.step input) (Channel.start memory) inputs start
    rw [ordered.queued side]
    exact List.prefix_append _ _

/-! The client's memory holds ones, the server's zeros. -/

def sampleMemory : Side → Memory
  | .client => fun _ => 1
  | .server => fun _ => 0

/-- One buffer is sent and received, and the server's memory behind its buffer is overwritten. -/
theorem buffer_overrun :
    ¬EachStep Channel.step Exact (Channel.start sampleMemory)
        [.write .client 0, .read .server 0] ∧
      (run Channel.step (Channel.start sampleMemory)
        [.write .client 0, .read .server 0]).memory .server bufferBytes = 1 := by
  constructor
  · rw [exact_iff_silent _ (fun _ => rfl)]
    intro silent
    exact silent (.write .client 0) List.mem_cons_self
  · have sent : (Channel.start sampleMemory).step (.write .client 0) =
        (Channel.start sampleMemory).write .client 0 := rfl
    have ready : ((Channel.start sampleMemory).write .client 0).available .server = true := by
      simp [Channel.available, Channel.peek, Channel.write, Side.peer, Channel.start]
    rw [run, run, run, sent, Channel.step, if_pos ready]
    have small : bufferBytes < callSize := by decide
    simp [Channel.read, Channel.write, Side.peer, Channel.start, store, load, small, sampleMemory]

end Gneiss.Message
