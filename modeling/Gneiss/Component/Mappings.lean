import Gneiss.Component.Slots

/-!
What a memory server keeps mapped. `Session_Initialize` maps the memory of a client and no procedure
of the dispatcher unmaps it, so a mapping is released only with the process.
-/

namespace Gneiss.Component

open Descriptors Runs

inductive MapCall where
  | mmap (address : Nat)
  | munmap (address : Nat)
  deriving DecidableEq, Repr

/-- The calls on one memory session, with the capability they get, what `Mmap` returns and what the
server's `Ready` says. -/
inductive SessionCall where
  | sessionInitialize (dispatcher : Nat) (cap : DispatcherCapability) (index : Nat)
      (map : Option Nat) (ready : Bool)
  | sessionCleanup (dispatcher : Nat) (cap : DispatcherCapability)

/-- The process, and the calls of `Mmap` that succeeded and of `Munmap` for one session. -/
structure Serving where
  world : World
  calls : List MapCall

def memorySession (number : Nat) (world : World) : ServerSession :=
  world.servers ⟨.memory, number⟩

def Serving.call (number : Nat) (state : Serving) : SessionCall → Serving
  | .sessionInitialize dispatcher cap index map ready =>
      let world := state.world.setCapability ⟨.memory, number⟩ cap false
      { world := world.sessionInitialize .memory dispatcher number number index map ready
        calls := state.calls ++ (map.map .mmap).toList }
  | .sessionCleanup dispatcher cap =>
      let world := state.world.setCapability ⟨.memory, number⟩ cap false
      { world := world.sessionCleanup .memory dispatcher number number
        calls := state.calls }

/-- The precondition of `Session_Initialize`; `Session_Cleanup` asks nothing of the session. -/
def MayCall (number : Nat) (state : Serving) : SessionCall → Prop
  | .sessionInitialize _ cap _ _ _ =>
      validSessionRequest .memory cap = true ∧
        (memorySession number state.world).initialized .memory = false
  | .sessionCleanup _ _ => True

/-- The condition of `Session_Cleanup`. -/
def Effective (number : Nat) (world : World) (cap : DispatcherCapability) : Prop :=
  valid cap.cleanFd = true ∧ cap.cleanFd = (memorySession number world).sigfd ∧
    (memorySession number world).initialized .memory = true

/-- How often a session holds an address: once, if it is initialized with it. -/
def holding (number : Nat) (world : World) (address : Nat) : Nat :=
  if (memorySession number world).initialized .memory = true ∧
    (memorySession number world).map = some address then 1 else 0

/-- Every address that was mapped for the session was unmapped once, but for the one it holds, and
the process has no other mapping than before. -/
structure Balanced (number : Nat) (initial : List Nat) (state : Serving) : Prop where
  unmapped : ∀ address, state.calls.count (.mmap address) =
    state.calls.count (.munmap address) + holding number state.world address
  remaining : ∀ address, state.world.mappings.count address =
    initial.count address + holding number state.world address

/-- The session is as it was declared, and the descriptors it had are closed. -/
structure Cleared (number : Nat) (world : World) (fds : List Int) : Prop where
  session : memorySession number world = .default
  closed : ∀ fd ∈ fds, fd ∉ world.table.opened

def Releases (number : Nat) (initial : List Nat) (state : Serving) (call : SessionCall) : Prop :=
  let after := state.call number call
  Balanced number initial after ∧
    match call with
    | .sessionInitialize _ cap _ _ _ =>
        (memorySession number after.world).initialized .memory = false →
          Cleared number after.world [cap.memfd, cap.serverFd]
    | .sessionCleanup _ cap =>
        Effective number state.world cap →
          Cleared number after.world
            [(memorySession number state.world).fd, (memorySession number state.world).sigfd]

/-- A memory that was mapped is not refused, and no session is cleaned up. -/
def Keeps (number : Nat) (state : Serving) : SessionCall → Prop
  | .sessionInitialize _ _ _ map ready => map = none ∨ ready = true
  | .sessionCleanup _ cap => ¬Effective number state.world cap

@[simp] theorem close_mappings (world : World) (fd : Int) :
    (world.close fd).mappings = world.mappings := by
  unfold World.close
  split <;> rfl

section Calls

variable (number : Nat) (state : Serving) (dispatcher : Nat) (cap : DispatcherCapability)

theorem accepted_session (index address : Nat)
    (request : validSessionRequest .memory cap = true) :
    let after := state.call number (.sessionInitialize dispatcher cap index (some address) true)
    (memorySession number after.world).initialized .memory = true ∧
      (memorySession number after.world).map = some address ∧
      after.world.mappings = address :: state.world.mappings := by
  simp only [validSessionRequest, Bool.and_eq_true] at request
  simp [Serving.call, World.sessionInitialize, World.setCapability, World.mmap, World.setServer,
    memorySession, ServerSession.initialized, serverCap, EventCap.create, EventCap.valid, request]

theorem refused_session (index : Nat) (map : Option Nat) (ready : Bool)
    (refused : (ready && map.isSome) = false) (request : validSessionRequest .memory cap = true) :
    let after := state.call number (.sessionInitialize dispatcher cap index map ready)
    Cleared number after.world [cap.memfd, cap.serverFd] ∧
      after.world.mappings = map.toList ++ state.world.mappings := by
  intro after
  simp only [validSessionRequest, Bool.and_eq_true] at request
  have world : after.world = World.setServer
      ((((state.world.setCapability ⟨.memory, number⟩ cap false).setCapability ⟨.memory, number⟩
        cap true).mmap map).close cap.memfd |>.close cap.serverFd) ⟨.memory, number⟩ .default := by
    simp only [after, Serving.call, World.sessionInitialize, World.setCapability,
      Function.update_self, refused, Bool.false_eq_true, ↓reduceIte]
    rfl
  refine ⟨⟨?_, ?_⟩, ?_⟩
  · rw [world]
    simp [memorySession, World.setServer]
  · intro fd member
    rw [world]
    simp only [World.setServer, close_table]
    have valid_ : valid fd = true := by
      simp only [List.mem_cons, List.not_mem_nil, or_false] at member
      rcases member with rfl | rfl
      · exact request.1.1
      · exact request.2
    rw [mem_close _ _ _ valid_, mem_close _ _ _ valid_]
    simp only [List.mem_cons, List.not_mem_nil, or_false] at member
    rintro ⟨⟨_, notFirst⟩, notSecond⟩
    rcases member with same | same
    · exact notFirst same
    · exact notSecond same
  · rw [world]
    simp [World.setServer, close_mappings, World.mmap, World.setCapability]

theorem cleaned_session (effective : Effective number state.world cap) :
    let after := state.call number (.sessionCleanup dispatcher cap)
    (memorySession number after.world).map = (memorySession number state.world).map ∧
      (memorySession number after.world).initialized .memory = false := by
  obtain ⟨valid_, same, initialized⟩ := effective
  have condition : (ServiceKind.memory = .log ∨ valid cap.cleanFd = true) ∧
      cap.cleanFd = (memorySession number state.world).eventFd .memory ∧
      (memorySession number state.world).initialized .memory = true :=
    ⟨Or.inr valid_, same, initialized⟩
  simp only [memorySession] at condition
  simp only [Serving.call, World.sessionCleanup, World.setCapability, Function.update_self,
    memorySession]
  rw [if_pos condition]
  simp [World.setServer, ServerSession.initialized]

theorem kept_session (ineffective : ¬Effective number state.world cap) :
    let after := state.call number (.sessionCleanup dispatcher cap)
    memorySession number after.world = memorySession number state.world ∧
      after.world.mappings = state.world.mappings := by
  have condition : ¬((ServiceKind.memory = .log ∨ valid cap.cleanFd = true) ∧
      cap.cleanFd = (memorySession number state.world).eventFd .memory ∧
      (memorySession number state.world).initialized .memory = true) := by
    rintro ⟨valid_ | valid_, same, initialized⟩
    · cases valid_
    · exact ineffective ⟨valid_, same, initialized⟩
  simp only [memorySession] at condition
  simp only [Serving.call, World.sessionCleanup, World.setCapability, Function.update_self,
    memorySession]
  rw [if_neg condition]
  exact ⟨rfl, rfl⟩

end Calls

theorem holding_of_not (number : Nat) (world : World) (address : Nat)
    (stopped : (memorySession number world).initialized .memory = false) :
    holding number world address = 0 := by
  rw [holding, if_neg]
  rintro ⟨running, _⟩
  rw [stopped] at running
  cases running

theorem default_stopped {number : Nat} {world : World} {fds : List Int}
    (cleared : Cleared number world fds) :
    (memorySession number world).initialized .memory = false := by
  rw [cleared.session]
  rfl

section Steps

variable {number : Nat} {initial : List Nat} {state : Serving}

/-- A session that was not initialized held nothing. -/
theorem Balanced.idle (balanced : Balanced number initial state)
    (stopped : (memorySession number state.world).initialized .memory = false) (address : Nat) :
    state.calls.count (.mmap address) = state.calls.count (.munmap address) ∧
      state.world.mappings.count address = initial.count address := by
  have unmapped := balanced.unmapped address
  have remaining := balanced.remaining address
  rw [holding_of_not number state.world address stopped] at unmapped remaining
  exact ⟨unmapped, remaining⟩

theorem unmapped_releases (balanced : Balanced number initial state) (dispatcher index : Nat)
    (cap : DispatcherCapability) (ready : Bool)
    (request : validSessionRequest .memory cap = true)
    (stopped : (memorySession number state.world).initialized .memory = false) :
    Releases number initial state (.sessionInitialize dispatcher cap index none ready) := by
  obtain ⟨cleared, mappings⟩ := refused_session number state dispatcher cap index none ready
    (by simp) request
  have nothing := fun address => holding_of_not number _ address (default_stopped cleared)
  refine ⟨⟨?_, ?_⟩, fun _ => cleared⟩
  · intro address
    rw [nothing]
    simpa [Serving.call] using (balanced.idle stopped address).1
  · intro address
    rw [nothing, mappings]
    simpa using (balanced.idle stopped address).2

theorem accepted_releases (balanced : Balanced number initial state)
    (dispatcher index mapped : Nat) (cap : DispatcherCapability)
    (request : validSessionRequest .memory cap = true)
    (stopped : (memorySession number state.world).initialized .memory = false) :
    Releases number initial state
      (.sessionInitialize dispatcher cap index (some mapped) true) := by
  obtain ⟨running, map, mappings⟩ :=
    accepted_session number state dispatcher cap index mapped request
  have holds : ∀ address, holding number (state.call number
      (.sessionInitialize dispatcher cap index (some mapped) true)).world address =
      if mapped = address then 1 else 0 := by
    intro address
    simp [holding, running, map]
  refine ⟨⟨?_, ?_⟩, ?_⟩
  · intro address
    rw [holds]
    simp only [Serving.call, Option.map_some, Option.toList_some, List.count_append,
      List.count_singleton, (balanced.idle stopped address).1, beq_iff_eq, MapCall.mmap.injEq,
      reduceCtorEq, ↓reduceIte, Nat.add_zero]
  · intro address
    rw [holds, mappings, List.count_cons, (balanced.idle stopped address).2]
    simp
  · intro stopped
    rw [running] at stopped
    cases stopped

/-- The refused memory is still mapped, and the session does not know its address any more. -/
theorem refused_keeps_mapping (balanced : Balanced number initial state)
    (dispatcher index mapped : Nat) (cap : DispatcherCapability)
    (request : validSessionRequest .memory cap = true)
    (stopped : (memorySession number state.world).initialized .memory = false) :
    ¬Releases number initial state
      (.sessionInitialize dispatcher cap index (some mapped) false) := by
  obtain ⟨cleared, _⟩ := refused_session number state dispatcher cap index (some mapped)
    false rfl request
  rintro ⟨after, _⟩
  have counted := after.unmapped mapped
  rw [holding_of_not number _ mapped (default_stopped cleared)] at counted
  simp only [Serving.call, Option.map_some, Option.toList_some, List.count_append,
    List.count_singleton, (balanced.idle stopped mapped).1, beq_iff_eq, reduceCtorEq,
    ↓reduceIte] at counted
  omega

theorem cleanup_releases_iff (balanced : Balanced number initial state) (dispatcher : Nat)
    (cap : DispatcherCapability) :
    Releases number initial state (.sessionCleanup dispatcher cap) ↔
      ¬Effective number state.world cap := by
  by_cases effective : Effective number state.world cap
  · refine iff_of_false ?_ (not_not_intro effective)
    rintro ⟨_, cleared⟩
    obtain ⟨map, _⟩ := cleaned_session number state dispatcher cap effective
    rw [(cleared effective).session] at map
    have initialized := effective.2.2
    simp only [ServerSession.initialized, ← map, Bool.and_eq_true] at initialized
    cases initialized.1.1.2
  · obtain ⟨session, mappings⟩ := kept_session number state dispatcher cap effective
    have holds : ∀ address, holding number (state.call number
        (.sessionCleanup dispatcher cap)).world address =
        holding number state.world address := by
      intro address
      simp only [holding, session]
    refine iff_of_true ⟨⟨?_, ?_⟩, fun cleaned => (effective cleaned).elim⟩ effective
    · intro address
      rw [holds]
      exact balanced.unmapped address
    · intro address
      rw [holds, mappings]
      exact balanced.remaining address

/-- One call releases what was mapped if and only if there was nothing to release. -/
theorem releases_iff (balanced : Balanced number initial state) (call : SessionCall)
    (may : MayCall number state call) :
    Releases number initial state call ↔ Keeps number state call := by
  cases call with
  | sessionInitialize dispatcher cap index map ready =>
      obtain ⟨request, stopped⟩ := may
      cases map with
      | none =>
          exact iff_of_true (unmapped_releases balanced dispatcher index cap ready request stopped)
            (Or.inl rfl)
      | some mapped =>
          cases ready with
          | true =>
              exact iff_of_true
                (accepted_releases balanced dispatcher index mapped cap request stopped)
                (Or.inr rfl)
          | false =>
              refine iff_of_false
                (refused_keeps_mapping balanced dispatcher index mapped cap request stopped) ?_
              rintro (impossible | impossible) <;> cases impossible
  | sessionCleanup dispatcher cap => exact cleanup_releases_iff balanced dispatcher cap

end Steps

/-- Over any calls on a memory session, every mapping is released with the session if and only if
none has to be. -/
theorem mappings_released_iff (number : Nat) (world : World)
    (unused : memorySession number world = .default) (calls : List SessionCall)
    (permitted : EachStep (Serving.call number) (MayCall number) ⟨world, []⟩ calls) :
    EachStep (Serving.call number) (Releases number world.mappings) ⟨world, []⟩ calls ↔
      EachStep (Serving.call number) (Keeps number) ⟨world, []⟩ calls := by
  have start : Balanced number world.mappings ⟨world, []⟩ := by
    have stopped : (memorySession number world).initialized .memory = false := by
      rw [unused]
      rfl
    have nothing := fun address => holding_of_not number world address stopped
    refine ⟨?_, ?_⟩
    · intro address
      rw [nothing]
      rfl
    · intro address
      rw [nothing]
      rfl
  have same := eachStep_iff_of_invariant (Serving.call number) (Balanced number world.mappings)
    (fun state call => MayCall number state call ∧ Releases number world.mappings state call)
    (fun state call => MayCall number state call ∧ Keeps number state call)
    (fun _ _ _ released => released.2.1)
    (fun state call balanced => and_congr_right
      fun may => releases_iff balanced call may)
    ⟨world, []⟩ calls start
  rw [eachStep_and, eachStep_and] at same
  constructor
  · exact fun released => (same.mp ⟨permitted, released⟩).2
  · exact fun kept => (same.mpr ⟨permitted, kept⟩).2

/-! A client whose memory is mapped at 4096, and its disconnect. -/

def serverWorld : World := World.start [0, 1, 2, 3, 4, 5, 6, 7] 3 4

def memoryRequest : DispatcherCapability := ⟨5, 6, 7, -1, .empty, .empty⟩

def hungUp (fd : Int) : DispatcherCapability := ⟨-1, -1, -1, fd, .empty, .empty⟩

def connecting : SessionCall := .sessionInitialize 0 memoryRequest 1 (some 4096) true

theorem connecting_permitted (fd : Int) :
    EachStep (Serving.call 0) (MayCall 0) ⟨serverWorld, []⟩
      [connecting, .sessionCleanup 0 (hungUp fd)] :=
  ⟨⟨rfl, rfl⟩, trivial, trivial⟩

theorem other_disconnect_released :
    EachStep (Serving.call 0) (Releases 0 []) ⟨serverWorld, []⟩
      [connecting, .sessionCleanup 0 (hungUp 6)] := by
  refine (mappings_released_iff 0 serverWorld rfl _ (connecting_permitted 6)).mpr ?_
  refine ⟨Or.inr rfl, ?_, trivial⟩
  rintro ⟨_, same, _⟩
  cases same

theorem disconnect_not_released :
    EachStep (Serving.call 0) (MayCall 0) ⟨serverWorld, []⟩
      [connecting, .sessionCleanup 0 (hungUp 7)] ∧
    ¬EachStep (Serving.call 0) (Releases 0 []) ⟨serverWorld, []⟩
      [connecting, .sessionCleanup 0 (hungUp 7)] := by
  refine ⟨connecting_permitted 7, ?_⟩
  rintro ⟨_, ⟨balanced, _⟩, _⟩
  have counted := balanced.unmapped 4096
  revert counted
  decide +kernel

end Gneiss.Component
