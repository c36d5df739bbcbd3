import Gneiss.Library.Fifo
import Gneiss.Library.Runs

/-!
The message server on Genode: one `Server_Session` object that serves one client after the other.
`Basalt.Queue` is the bounded queue `Cache`. Every buffer in it is marked with the number of the
connection during which it was sent, which the program does not know; `obtained` lists what clients
read, each with the number of its own connection.
-/

namespace Gneiss.Genode.Message

open Fifo Runs

variable {Buffer : Type}

structure Sent (Buffer : Type) where
  data : Buffer
  connection : Nat
  deriving DecidableEq, Repr

structure ServerSession (Buffer : Type) where
  component : Option Nat
  index : Option Nat
  cache : Queue (Sent Buffer) 10

structure World (Buffer : Type) where
  session : ServerSession Buffer
  connection : Nat
  accepted : Bool
  obtained : List (Nat × Sent Buffer)

def ServerSession.initialized (session : ServerSession Buffer) : Bool :=
  session.component.isSome && session.index.isSome

def ServerSession.avail (session : ServerSession Buffer) : Bool :=
  0 < session.cache.count

/-- `Send`; the signal to the client changes nothing here. -/
def ServerSession.send (session : ServerSession Buffer) (data : Buffer) (connection : Nat) :
    ServerSession Buffer :=
  if free : session.cache.count < 10 then
    { session with cache := session.cache.put ⟨data, connection⟩ free }
  else session

def ServerSession.sendAll (session : ServerSession Buffer) (connection : Nat)
    (sends : List Buffer) : ServerSession Buffer :=
  sends.foldl (fun session data => session.send data connection) session

/-- What the component and its clients do. `created` is the component that the factory returns, and
`sends` are the calls of `Send` in the server's own `Initialize` and `Finalize`. -/
inductive Input (Buffer : Type) where
  | sessionInitialize (created : Option Nat) (idx : Nat) (sends : List Buffer) (ready : Bool)
  | sessionAccept
  | sessionCleanup (cap : Option Nat) (sends : List Buffer)
  | send (data : Buffer)
  | avail
  | read
  deriving DecidableEq, Repr

namespace World

def initial : World Buffer := ⟨⟨none, none, .empty⟩, 0, false, []⟩

/-- The component is destroyed, but neither the pointer to it nor `Cache` is reset. -/
def sessionInitialize (world : World Buffer) (created : Option Nat) (idx : Nat)
    (sends : List Buffer) (ready : Bool) : World Buffer :=
  let session := { world.session with component := created }
  if created.isSome then
    let connection := world.connection + 1
    let session := { session with index := some idx }
    let session := session.sendAll connection sends
    let session := if ready then session else { session with index := none }
    { world with session := session, connection := connection }
  else { world with session := session }

def sessionCleanup (world : World Buffer) (cap : Option Nat) (sends : List Buffer) :
    World Buffer :=
  if world.session.initialized && decide (cap = world.session.component) then
    let session := world.session.sendAll world.connection sends
    { world with session := { session with index := none }, accepted := false }
  else world

/-- `read` of a client; on an empty queue `Pop` has no result. -/
def read (world : World Buffer) : World Buffer :=
  match world.session.cache.pop with
  | none => world
  | some (sent, rest) =>
      { world with
        session := { world.session with cache := rest }
        obtained := world.obtained ++ [(world.connection, sent)] }

/-- One step; calls that their preconditions exclude do nothing. -/
def step (world : World Buffer) : Input Buffer → World Buffer
  | .sessionInitialize created idx sends ready =>
      if world.session.initialized then world
      else world.sessionInitialize created idx sends ready
  | .sessionAccept =>
      if world.session.initialized then { world with accepted := true } else world
  | .sessionCleanup cap sends => world.sessionCleanup cap sends
  | .send data =>
      if world.session.initialized then
        { world with session := world.session.send data world.connection }
      else world
  | .avail => world
  | .read => if world.accepted then world.read else world

end World

/-- Nothing is left in the queue when the session object is used for a new client. -/
def FreshQueue (world : World Buffer) : Input Buffer → Prop
  | .sessionInitialize created _ _ _ =>
      world.session.initialized = false → created.isSome = true → world.session.cache.items = []
  | _ => True

/-- All that is queued, and all that was read, belongs to the connection of its reader. -/
structure Confined (world : World Buffer) : Prop where
  queued : ∀ sent ∈ world.session.cache.items, sent.connection = world.connection
  read : ∀ entry ∈ world.obtained, entry.2.connection = entry.1

theorem send_items (session : ServerSession Buffer) (data : Buffer) (connection : Nat)
    (sent : Sent Buffer) (member : sent ∈ (session.send data connection).cache.items) :
    sent ∈ session.cache.items ∨ sent.connection = connection := by
  unfold ServerSession.send at member
  split at member
  · simp only [Queue.put, List.mem_append, List.mem_singleton] at member
    rcases member with before | same
    · exact Or.inl before
    · exact Or.inr (by rw [same])
  · exact Or.inl member

theorem sendAll_items (session : ServerSession Buffer) (connection : Nat) (sends : List Buffer)
    (sent : Sent Buffer) (member : sent ∈ (session.sendAll connection sends).cache.items) :
    sent ∈ session.cache.items ∨ sent.connection = connection := by
  induction sends generalizing session with
  | nil => exact Or.inl member
  | cons data rest ih =>
      rcases ih (session.send data connection) member with before | same
      · exact send_items session data connection sent before
      · exact Or.inr same

theorem Confined.sessionInitialize {world : World Buffer} (confined : Confined world)
    (created : Option Nat) (idx : Nat) (sends : List Buffer) (ready : Bool)
    (fresh : created.isSome = true → world.session.cache.items = []) :
    Confined (world.sessionInitialize created idx sends ready) := by
  unfold World.sessionInitialize
  simp only
  split
  · rename_i some_
    refine ⟨fun sent member => ?_, confined.read⟩
    have queued : sent ∈ (ServerSession.sendAll
        { component := created, index := some idx, cache := world.session.cache }
        (world.connection + 1) sends).cache.items := by
      cases ready <;> exact member
    rcases sendAll_items _ _ _ _ queued with before | same
    · rw [fresh some_] at before
      cases before
    · exact same
  · exact ⟨confined.queued, confined.read⟩

theorem Confined.sessionCleanup {world : World Buffer} (confined : Confined world)
    (cap : Option Nat) (sends : List Buffer) : Confined (world.sessionCleanup cap sends) := by
  unfold World.sessionCleanup
  split
  · refine ⟨fun sent member => ?_, confined.read⟩
    rcases sendAll_items world.session world.connection sends sent member with before | same
    · exact confined.queued sent before
    · exact same
  · exact confined

theorem Confined.readOne {world : World Buffer} (confined : Confined world) :
    Confined world.read := by
  unfold World.read
  split
  · exact confined
  · rename_i sent rest popped
    have items := Queue.pop_items popped
    constructor
    · intro other member
      exact confined.queued other (by rw [items]; exact List.mem_cons_of_mem sent member)
    · intro entry member
      rcases List.mem_append.mp member with before | last
      · exact confined.read entry before
      · rw [List.mem_singleton.mp last]
        exact confined.queued sent (by rw [items]; exact List.mem_cons_self)

theorem Confined.step {world : World Buffer} (confined : Confined world) (input : Input Buffer)
    (fresh : FreshQueue world input) : Confined (world.step input) := by
  cases input with
  | sessionInitialize created idx sends ready =>
      simp only [World.step]
      split
      · exact confined
      · rename_i uninitialized
        exact confined.sessionInitialize created idx sends ready
          (fresh (Bool.eq_false_iff.mpr uninitialized))
  | sessionAccept =>
      simp only [World.step]
      split
      · exact ⟨confined.queued, confined.read⟩
      · exact confined
  | sessionCleanup cap sends => exact confined.sessionCleanup cap sends
  | send data =>
      simp only [World.step]
      split
      · refine ⟨fun sent member => ?_, confined.read⟩
        rcases send_items world.session data world.connection sent member with before | same
        · exact confined.queued sent before
        · exact same
      · exact confined
  | avail => exact confined
  | read =>
      simp only [World.step]
      split
      · exact confined.readOne
      · exact confined

/-- As long as every client starts with an empty queue, each reads only what was sent to it. -/
theorem messages_confined (inputs : List (Input Buffer))
    (fresh : EachStep World.step FreshQueue World.initial inputs) :
    ∀ entry ∈ (run World.step World.initial inputs).obtained, entry.2.connection = entry.1 := by
  have start : Confined (World.initial : World Buffer) := by
    constructor
    · intro sent member
      cases member
    · intro entry member
      cases member
  exact (run_invariant_of_eachStep World.step Confined FreshQueue
    (fun _ input confined clean => confined.step input clean) World.initial inputs start fresh).read

/-- A buffer that is still queued when the next client is accepted goes to that client. -/
theorem leftover_obtained (world : World Buffer) (sent : Sent Buffer)
    (rest : Queue (Sent Buffer) 10) (created idx : Nat)
    (uninitialized : world.session.initialized = false)
    (leftover : world.session.cache.pop = some (sent, rest)) :
    (world.connection + 1, sent) ∈ (run World.step world
      [.sessionInitialize (some created) idx [] true, .sessionAccept, .read]).obtained := by
  have started : world.step (.sessionInitialize (some created) idx [] true) =
      { world with
        session := ⟨some created, some idx, world.session.cache⟩
        connection := world.connection + 1 } := by
    rw [World.step, uninitialized]
    rfl
  rw [run, started]
  simp [run, World.step, ServerSession.initialized, World.read, leftover]

/-! Two clients, one after the other; the first reads what it is sent. -/

def sampleClients : List (Input Nat) :=
  [.sessionInitialize (some 1) 1 [] true, .sessionAccept, .send 7, .read,
    .sessionCleanup (some 1) [], .sessionInitialize (some 2) 1 [8] true, .sessionAccept, .read]

theorem sample_clients_confined :
    (run World.step World.initial sampleClients).obtained = [(1, ⟨7, 1⟩), (2, ⟨8, 2⟩)] ∧
      ∀ entry ∈ (run World.step World.initial sampleClients).obtained,
        entry.2.connection = entry.1 := by
  refine ⟨by decide, messages_confined sampleClients ⟨fun _ _ => ?_, trivial, trivial, trivial,
    trivial, fun _ _ => ?_, trivial, trivial, trivial⟩⟩
  · rfl
  · rfl

/-- The second client reads the buffer that the first one left behind. -/
theorem unread_buffer_crosses :
    (run World.step World.initial
      [.sessionInitialize (some 1) 1 [] true, .sessionAccept, .send 7,
        .sessionCleanup (some 1) [], .sessionInitialize (some 2) 1 [] true, .sessionAccept,
        .read]).obtained = [(2, ⟨7, 1⟩)] ∧
    ¬∀ entry ∈ (run World.step World.initial
      [.sessionInitialize (some 1) 1 [] true, .sessionAccept, .send 7,
        .sessionCleanup (some 1) [], .sessionInitialize (some 2) 1 [] true, .sessionAccept,
        .read]).obtained, entry.2.connection = entry.1 := by
  constructor
  · decide
  · decide

end Gneiss.Genode.Message
