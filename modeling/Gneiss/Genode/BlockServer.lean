import Mathlib.Logic.Function.Basic
import Gneiss.Library.Runs

/-!
The block server on Genode: one `Server_Session` object and any number of request objects. The
program remembers in a request only the index of the session it came from. `origin` is the number of
the connection that submitted it, which the program does not know; `applied` lists every connection
`Read`, `Write` or `Acknowledge` worked on, each with the origin of the request.
-/

namespace Gneiss.Genode.Block

open Runs

inductive RequestStatus where
  | raw
  | allocated
  | pending
  | ok
  | error
  deriving DecidableEq, Repr

/-- `Cxx.Block.Server.Request`, as it is taken from the packet stream of a connection. -/
structure StreamRequest where
  kind : Nat
  blockNumber : Nat
  blockCount : Nat
  success : Bool
  offset : Int
  tag : Nat
  deriving DecidableEq, Repr

structure ServerRequest where
  request : StreamRequest
  status : RequestStatus
  session : Option Nat
  origin : Nat
  deriving DecidableEq, Repr

/-- `callbacks` stands for the addresses that are set and cleared together. -/
structure ServerSession where
  session : Option Nat
  callbacks : Bool
  tag : Option Nat
  deriving DecidableEq, Repr

def ServerSession.initialized (server : ServerSession) : Bool :=
  server.session.isSome && server.callbacks

def ServerSession.assigned (server : ServerSession) (request : ServerRequest) : Bool :=
  server.tag = request.session

structure Applied where
  origin : Nat
  connection : Option Nat
  deriving DecidableEq, Repr

structure ServerWorld (Key : Type) where
  server : ServerSession
  requests : Key → ServerRequest
  connection : Nat
  applied : List Applied

/-- `ready`, `created`, `arrived`, `submitted` and `matched` are what the server implementation, the
factory, the packet stream and the dispatcher answer. -/
inductive ServerInput (Key : Type) where
  | sessionInitialize (index : Nat) (ready created : Bool)
  | process (key : Key) (arrived : Option StreamRequest)
  | read (key : Key)
  | write (key : Key)
  | acknowledge (key : Key) (res : RequestStatus) (submitted : Bool)
  | sessionCleanup (matched : Bool)
  deriving DecidableEq, Repr

namespace ServerWorld

variable {Key : Type} [DecidableEq Key]

def initial : ServerWorld Key where
  server := ⟨none, false, none⟩
  requests := fun _ => ⟨⟨0, 0, 0, false, 0, 0⟩, .raw, none, 0⟩
  connection := 0
  applied := []

def sessionInitialize (world : ServerWorld Key) (index : Nat) (ready created : Bool) :
    ServerWorld Key :=
  let server := { world.server with tag := some index }
  if ready = false then { world with server := server }
  else if created then
    { world with
      server := { server with callbacks := true, session := some (world.connection + 1) }
      connection := world.connection + 1 }
  else { world with server := { server with callbacks := true, session := none } }

def process (world : ServerWorld Key) (key : Key) (arrived : Option StreamRequest) :
    ServerWorld Key :=
  match arrived with
  | none => world
  | some request =>
      let taken : ServerRequest :=
        ⟨request, .pending, world.server.tag, world.server.session.getD 0⟩
      { world with requests := Function.update world.requests key taken }

def apply (world : ServerWorld Key) (key : Key) : ServerWorld Key :=
  { world with applied :=
      world.applied ++ [⟨(world.requests key).origin, world.server.session⟩] }

def acknowledge (world : ServerWorld Key) (key : Key) (res : RequestStatus) (submitted : Bool) :
    ServerWorld Key :=
  let request := world.requests key
  let request := { request with request := { request.request with success := decide (res = .ok) } }
  let request := if submitted then { request with status := .raw } else request
  { world.apply key with requests := Function.update world.requests key request }

def sessionCleanup (world : ServerWorld Key) (matched : Bool) : ServerWorld Key :=
  if world.server.session.isSome && matched then
    { world with server := { world.server with session := none, callbacks := false } }
  else world

/-- One step; calls that their preconditions exclude do nothing. -/
def step (world : ServerWorld Key) : ServerInput Key → ServerWorld Key
  | .sessionInitialize index ready created =>
      if world.server.initialized then world else world.sessionInitialize index ready created
  | .process key arrived =>
      if world.server.initialized = true ∧ (world.requests key).status = .raw then
        world.process key arrived
      else world
  | .read key =>
      if world.server.initialized = true ∧ (world.requests key).status = .pending ∧
          (world.requests key).request.kind = 1 ∧
          world.server.assigned (world.requests key) = true then
        world.apply key
      else world
  | .write key =>
      if world.server.initialized = true ∧ (world.requests key).status = .pending ∧
          (world.requests key).request.kind = 2 ∧
          world.server.assigned (world.requests key) = true then
        world.apply key
      else world
  | .acknowledge key res submitted =>
      if world.server.initialized = true ∧
          (((world.requests key).status = .pending ∧ (res = .ok ∨ res = .error)) ∨
            ((world.requests key).status = .error ∧ res = .error)) ∧
          world.server.assigned (world.requests key) = true then
        world.acknowledge key res submitted
      else world
  | .sessionCleanup matched => world.sessionCleanup matched

end ServerWorld

variable {Key : Type}

theorem ServerWorld.sessionInitialize_requests (world : ServerWorld Key) (index : Nat)
    (ready created : Bool) :
    (world.sessionInitialize index ready created).requests = world.requests := by
  unfold ServerWorld.sessionInitialize
  split
  · rfl
  · split <;> rfl

theorem ServerWorld.sessionInitialize_tag (world : ServerWorld Key) (index : Nat)
    (ready created : Bool) :
    (world.sessionInitialize index ready created).server.tag = some index := by
  unfold ServerWorld.sessionInitialize
  split
  · rfl
  · split <;> rfl

/-- A request that counts as assigned was submitted by the connection now served, and nothing was
done with a request of another connection. -/
structure Belongs (world : ServerWorld Key) : Prop where
  assigned : ∀ key, world.server.initialized = true → (world.requests key).status ≠ .raw →
    world.server.assigned (world.requests key) = true →
    world.server.session = some (world.requests key).origin
  applied : ∀ entry ∈ world.applied, entry.connection = some entry.origin

/-- No request that is still in use carries the index given to a new connection. -/
def Retired (world : ServerWorld Key) : ServerInput Key → Prop
  | .sessionInitialize index ready created =>
      world.server.initialized = false → ready = true → created = true →
        ∀ key, (world.requests key).status ≠ .raw → (world.requests key).session ≠ some index
  | _ => True

/-- Connections are numbered in the order in which they are made. -/
structure Numbered (world : ServerWorld Key) : Prop where
  served : ∀ number, world.server.session = some number → number ≤ world.connection
  origins : ∀ key, (world.requests key).origin ≤ world.connection

theorem Belongs.apply {world : ServerWorld Key} (belongs : Belongs world) (key : Key)
    (initialized : world.server.initialized = true) (used : (world.requests key).status ≠ .raw)
    (assigned : world.server.assigned (world.requests key) = true) :
    Belongs (world.apply key) := by
  refine ⟨belongs.assigned, fun entry member => ?_⟩
  rcases List.mem_append.mp member with before | last
  · exact belongs.applied entry before
  · rw [List.mem_singleton.mp last]
    exact belongs.assigned key initialized used assigned

theorem Belongs.of_uninitialized {world : ServerWorld Key}
    (uninitialized : world.server.initialized = false)
    (applied : ∀ entry ∈ world.applied, entry.connection = some entry.origin) : Belongs world := by
  refine ⟨fun key initialized => ?_, applied⟩
  rw [uninitialized] at initialized
  cases initialized

variable [DecidableEq Key]

theorem Numbered.setRequest {world : ServerWorld Key} (numbered : Numbered world) (key : Key)
    (request : ServerRequest) (origin : request.origin ≤ world.connection) :
    Numbered { world with requests := Function.update world.requests key request } := by
  refine ⟨numbered.served, fun other => ?_⟩
  by_cases same : other = key
  · simp only [same, Function.update_self]
    exact origin
  · simp only [Function.update_of_ne same]
    exact numbered.origins other

theorem Belongs.setRequest {world : ServerWorld Key} (belongs : Belongs world) (key : Key)
    (request : ServerRequest)
    (origin : world.server.initialized = true → request.status ≠ .raw →
      world.server.assigned request = true → world.server.session = some request.origin) :
    Belongs { world with requests := Function.update world.requests key request } := by
  refine ⟨fun other initialized used assigned => ?_, belongs.applied⟩
  by_cases same : other = key
  · simp only [same, Function.update_self] at used assigned ⊢
    exact origin initialized used assigned
  · simp only [Function.update_of_ne same] at used assigned ⊢
    exact belongs.assigned other initialized used assigned

theorem Numbered.step {world : ServerWorld Key} (numbered : Numbered world)
    (input : ServerInput Key) : Numbered (world.step input) := by
  obtain ⟨served, origins⟩ := numbered
  cases input with
  | sessionInitialize index ready created =>
      simp only [ServerWorld.step]
      split
      · exact ⟨served, origins⟩
      · simp only [ServerWorld.sessionInitialize]
        split
        · exact ⟨served, origins⟩
        · split
          · refine ⟨fun number same => ?_, fun key => Nat.le_succ_of_le (origins key)⟩
            rw [Option.some.injEq] at same
            exact Nat.le_of_eq same.symm
          · exact ⟨fun number same => (nomatch same), origins⟩
  | process key arrived =>
      simp only [ServerWorld.step]
      split
      · cases arrived with
        | none => exact ⟨served, origins⟩
        | some request =>
            refine Numbered.setRequest ⟨served, origins⟩ key _ ?_
            cases number : world.server.session with
            | none => exact Nat.zero_le _
            | some number_ => exact served number_ number
      · exact ⟨served, origins⟩
  | read key =>
      simp only [ServerWorld.step]
      split <;> exact ⟨served, origins⟩
  | write key =>
      simp only [ServerWorld.step]
      split <;> exact ⟨served, origins⟩
  | acknowledge key res submitted =>
      simp only [ServerWorld.step]
      split
      · have kept : Numbered (world.apply key) := ⟨served, origins⟩
        refine kept.setRequest key _ ?_
        cases submitted <;> exact origins key
      · exact ⟨served, origins⟩
  | sessionCleanup matched =>
      simp only [ServerWorld.step, ServerWorld.sessionCleanup]
      split
      · exact ⟨fun number same => (nomatch same), origins⟩
      · exact ⟨served, origins⟩

theorem Belongs.step {world : ServerWorld Key} (belongs : Belongs world) (input : ServerInput Key)
    (retired : Retired world input) : Belongs (world.step input) := by
  cases input with
  | sessionInitialize index ready created =>
      simp only [ServerWorld.step]
      split
      · exact belongs
      · rename_i running
        have uninitialized : world.server.initialized = false := Bool.eq_false_iff.mpr running
        simp only [ServerWorld.sessionInitialize]
        split
        · exact .of_uninitialized uninitialized belongs.applied
        · rename_i notReady
          split
          · rename_i made
            refine ⟨fun key _ used assigned => ?_, belongs.applied⟩
            have clear := retired uninitialized (by simpa using notReady) made key used
            exact (clear (of_decide_eq_true assigned).symm).elim
          · exact .of_uninitialized rfl belongs.applied
  | process key arrived =>
      simp only [ServerWorld.step]
      split
      · cases arrived with
        | none => exact belongs
        | some request =>
            refine belongs.setRequest key _ ?_
            intro initialized _ _
            obtain ⟨number, serving⟩ := Option.isSome_iff_exists.mp
              (Bool.and_eq_true_iff.mp initialized).1
            rw [serving]
            rfl
      · exact belongs
  | read key =>
      simp only [ServerWorld.step]
      split
      · rename_i allowed
        obtain ⟨initialized, pending, _, assigned⟩ := allowed
        exact belongs.apply key initialized (by simp [pending]) assigned
      · exact belongs
  | write key =>
      simp only [ServerWorld.step]
      split
      · rename_i allowed
        obtain ⟨initialized, pending, _, assigned⟩ := allowed
        exact belongs.apply key initialized (by simp [pending]) assigned
      · exact belongs
  | acknowledge key res submitted =>
      simp only [ServerWorld.step]
      split
      · rename_i allowed
        obtain ⟨initialized, permitted, own⟩ := allowed
        have used : (world.requests key).status ≠ .raw := by
          rcases permitted with ⟨pending, _⟩ | ⟨failed, _⟩
          · simp [pending]
          · simp [failed]
        refine (belongs.apply key initialized used own).setRequest key _ ?_
        have origin := belongs.assigned key initialized used own
        intro _ _ _
        cases submitted <;> exact origin
      · exact belongs
  | sessionCleanup matched =>
      simp only [ServerWorld.step, ServerWorld.sessionCleanup]
      split
      · exact .of_uninitialized rfl belongs.applied
      · exact belongs

/-- A new connection has a number of its own, so an old request that counts as assigned to it does
not belong to it. -/
theorem Belongs.retired {world : ServerWorld Key} (numbered : Numbered world)
    (input : ServerInput Key) (belongs : Belongs (world.step input)) : Retired world input := by
  cases input with
  | sessionInitialize index ready created =>
      intro uninitialized isReady isCreated key used carries
      have result : world.step (.sessionInitialize index ready created) =
          { world with
            server := ⟨some (world.connection + 1), true, some index⟩
            connection := world.connection + 1 } := by
        simp [ServerWorld.step, uninitialized, ServerWorld.sessionInitialize, isReady, isCreated]
      rw [result] at belongs
      have origin : some (world.connection + 1) = some (world.requests key).origin :=
        belongs.assigned key rfl used (decide_eq_true carries.symm)
      rw [Option.some.injEq] at origin
      have bound := numbered.origins key
      omega
  | _ => trivial

/-- Requests belong to the connection they are assigned to in every state of a run exactly if none
that is still in use carries the index of a later connection. -/
theorem requests_belong_iff (inputs : List (ServerInput Key)) :
    EachStep ServerWorld.step (fun world input => Belongs (world.step input))
        ServerWorld.initial inputs ↔
      EachStep ServerWorld.step Retired ServerWorld.initial inputs := by
  apply eachStep_iff_of_invariant ServerWorld.step (fun world => Belongs world ∧ Numbered world)
  · intro world input holds belongs
    exact ⟨belongs, holds.2.step input⟩
  · intro world input holds
    exact ⟨Belongs.retired holds.2 input, holds.1.step input⟩
  · exact ⟨.of_uninitialized rfl (by simp [ServerWorld.initial]),
      ⟨fun number same => (nomatch same), fun key => Nat.le_refl 0⟩⟩

/-- A request that outlives its connection is acknowledged to the next client. -/
def outlivedRequest : List (ServerInput Bool) :=
  [.sessionInitialize 1 true true, .process true (some ⟨1, 0, 8, false, 0, 3⟩),
    .sessionCleanup true, .sessionInitialize 1 true true, .acknowledge true .ok true]

theorem outlived_request_crosses :
    (run ServerWorld.step ServerWorld.initial outlivedRequest).applied = [⟨1, some 2⟩] ∧
      ¬Belongs (run ServerWorld.step ServerWorld.initial outlivedRequest) := by
  have applied : (run ServerWorld.step ServerWorld.initial outlivedRequest).applied =
      [⟨1, some 2⟩] := by decide
  refine ⟨applied, fun belongs => ?_⟩
  have same := belongs.applied ⟨1, some 2⟩ (by simp [applied])
  cases same

end Gneiss.Genode.Block
