import Mathlib.Data.List.Forall2
import Gneiss.Component.EventLoop

/-!
`Gneiss.Main.Run`, the life of a component process from the loading of its library to its exit
status. `trace` is what control went through: the component's `Construct` and `Destruct`, the
handlers of events, and the calls of `Vacate` among them.
-/

namespace Gneiss.Component.Main

open Descriptors Runs

inductive ComponentStatus where
  | success | failure
  deriving DecidableEq, Repr

def running : Int := -1

/-- `Set_Status`. -/
def setStatus (s : Int) : Int :=
  if s = 0 then 0 else 1

/-- `Gneiss.Component.Vacate`. -/
def vacate : ComponentStatus → Int
  | .success => setStatus 0
  | .failure => setStatus 1

inductive Call where
  | construct
  | event (called : Called)
  | vacate (status : ComponentStatus)
  | destruct
  deriving DecidableEq, Repr

/-- The answers of the linker and of `epoll_create1`. -/
structure Loading where
  handle : Bool
  constructSymbol : Bool
  destructSymbol : Bool
  epoll : Option Int

/-- What the component does while it has control: its operations on sessions, its calls of `Vacate`,
and whether it ends with an exception of its own, which nothing handles. -/
structure Conduct where
  operations : List Operation
  vacates : List ComponentStatus
  exception : Bool

/-- `Initialize` of a timer client does not check the length of the label, and fails a range check
for a longer one. -/
def Operation.raises (world : World) : Operation → Bool
  | .initializeClient id label .. =>
      decide (id.kind = .timer) && !(world.clients id).initialized id.kind &&
        decide (255 < label.length)
  | _ => false

def Conduct.raises (world : World) (conduct : Conduct) : Bool :=
  conduct.exception || !decide (EachStep World.step
    (fun world operation => Operation.raises world operation = false) world conduct.operations)

/-- One return of `epoll_wait`, which gives nothing if it failed, what can be read from the
descriptor, and what the component does when a handler calls it. -/
structure Turn where
  eventPtr : Option Ref
  event : Event
  reply : Reply
  callback : Conduct

structure Life where
  construct : Conduct
  turns : List Turn
  destruct : Conduct

structure MainState where
  world : World
  componentStatus : Int
  trace : List Call

/-- The state in which a handler calls the component, if it does. -/
def calls (world : World) (called : Called) (reply : Reply) : Option World :=
  match called with
  | .handler .dispatchEvent (.dispatcher id) fd =>
      if Serves world id then
        if fd = (world.dispatchers id).dispatchFd then some (world.receiveRequest id reply)
        else some (world.receiveDisconnect id fd)
      else none
  | .handler .sessionEvent _ _ => some world
  | _ => none

namespace MainState

def vacateAll (state : MainState) (vacates : List ComponentStatus) : MainState :=
  { state with
    componentStatus := vacates.foldl (fun _ status => vacate status) state.componentStatus
    trace := state.trace ++ vacates.map .vacate }

/-- The component was called in `world` and comes back, unless it raises an exception. -/
def conclude (state : MainState) (world : World) (conduct : Conduct) : Option MainState :=
  if conduct.raises world then none else some (state.vacateAll conduct.vacates)

def construct (world : World) (conduct : Conduct) : Option MainState :=
  conclude ⟨run World.step world conduct.operations, running, [.construct]⟩ world conduct

/-- `Event_Handler`; nothing is left of a process that crashes. -/
def eventHandler (state : MainState) (turn : Turn) : Option MainState :=
  match turn.eventPtr with
  -- The warning about a failed `epoll_wait` prints a descriptor as a string.
  | none => none
  | some ref =>
      let called := state.world.eventHandler (some ref) turn.event
      if state.world.raises called turn.reply then none
      else
        let after := { state with
          world := state.world.handle called turn.reply turn.callback.operations
          trace := state.trace ++ [Call.event called] }
        match calls state.world called turn.reply with
        | none => some after
        | some world => after.conclude world turn.callback

/-- The loop, with the last state before a crash; when the turns run out it still waits. -/
def eventLoop : List Turn → MainState → Except MainState MainState
  | [], state => .ok state
  | turn :: rest, state =>
      if state.componentStatus = running then
        match state.eventHandler turn with
        | none => .error state
        | some next => eventLoop rest next
      else .ok state

def destruct (state : MainState) (conduct : Conduct) : Option MainState :=
  let after := { state with
    world := run World.step state.world conduct.operations
    trace := state.trace ++ [Call.destruct] }
  after.conclude state.world conduct

end MainState

/-- A process that `crashed` lost control after `state`. -/
inductive Outcome where
  | failed (status : Int)
  | crashed (state : MainState)
  | waiting (state : MainState)
  | exited (status : Int) (state : MainState)

/-- `Run` behind the loading. -/
def live (world : World) (life : Life) : Outcome :=
  match MainState.construct world life.construct with
  | none => .crashed ⟨world, running, []⟩
  | some state =>
      match state.eventLoop life.turns with
      | .error state => .crashed state
      | .ok state =>
          if state.componentStatus = running then .waiting state
          else
            match state.destruct life.destruct with
            | none => .crashed state
            | some state => .exited state.componentStatus state

/-- `Run`, in a process that inherited the descriptors `opened`. -/
def main (opened : List Int) (fd : Int) (loading : Loading) (life : Life) : Outcome :=
  if !loading.handle then .failed 1
  else if !loading.constructSymbol || !loading.destructSymbol then .failed 1
  else
    let (table, epollFd) := Table.allocate ⟨opened, []⟩ loading.epoll
    if !valid epollFd then .failed 1
    else live (World.start table.opened epollFd fd) life

/-! What is expected of the component, and of the kernel. -/

/-- `Construct` and `Destruct` have no dispatcher capability. -/
def Plain (world : World) (conduct : Conduct) : Prop :=
  EachStep World.step
    (fun world operation => operation.plain = true ∧ Permitted world operation) world
    conduct.operations

instance (world : World) (conduct : Conduct) : Decidable (Plain world conduct) :=
  inferInstanceAs (Decidable (EachStep ..))

/-- The kernel reports what is registered, the component keeps to the preconditions, and no stale
word is taken for a descriptor. -/
def Expected (world : World) (turn : Turn) : Prop :=
  ∀ ref, turn.eventPtr = some ref →
    (∃ fd, (fd, ref) ∈ world.registrations) ∧
      Allowed world (world.eventHandler (some ref) turn.event) turn.reply
        turn.callback.operations ∧
      UnmixedTurn world (world.eventHandler (some ref) turn.event) turn.reply

def Orderly : List Turn → MainState → Prop
  | [], _ => True
  | turn :: rest, state =>
      state.componentStatus = running →
        Expected state.world turn ∧
          ∀ next ∈ state.eventHandler turn, Orderly rest next

structure Behaves (world : World) (life : Life) : Prop where
  construct : Plain world life.construct
  turns : ∀ state ∈ MainState.construct world life.construct, Orderly life.turns state
  destruct : ∀ state ∈ MainState.construct world life.construct, ∀ ended,
    state.eventLoop life.turns = .ok ended → Plain ended.world life.destruct

/-- What ends the process in a turn: a failed wait, an unreadable message or an exception in the
component. -/
def Fatal (world : World) (turn : Turn) : Prop :=
  turn.eventPtr = none ∨ ∃ ref, turn.eventPtr = some ref ∧
    (world.raises (world.eventHandler (some ref) turn.event) turn.reply = true ∨
      ∃ begun, calls world (world.eventHandler (some ref) turn.event) turn.reply = some begun ∧
        turn.callback.raises begun = true)

/-! One turn. -/

/-- The calls of `Vacate` in a trace. -/
def statuses (trace : List Call) : List ComponentStatus :=
  trace.filterMap fun call => match call with
    | .vacate status => some status
    | _ => none

/-- A handler was called, and for an event that is no error the one of the session that was
reported. -/
def Handles (turn : Turn) (call : Call) : Prop :=
  ∃ ref handler context fd, turn.eventPtr = some ref ∧
    call = .event (.handler handler context fd) ∧ (getType turn.event = .epollEv → context = ref)

/-- Since `Construct` the turns `handled` were handled in order, none once `Vacate` was called. -/
def Tells (handled : List Turn) (vacates : List ComponentStatus) (trace : List Call) : Prop :=
  ∃ events, trace = .construct :: events ++ vacates.map .vacate ∧
    List.Forall₂ Handles handled events

/-- The component runs, or is about to end. -/
structure Alive (handled : List Turn) (state : MainState) : Prop where
  reachable : Reachable state.world
  trace : ∃ vacates, Tells handled vacates state.trace
  status : state.componentStatus =
    ((statuses state.trace).getLast?.map vacate).getD running

theorem vacate_ne_running (status : ComponentStatus) : vacate status ≠ running := by
  cases status <;> decide

theorem statuses_append (first second : List Call) :
    statuses (first ++ second) = statuses first ++ statuses second :=
  List.filterMap_append

theorem statuses_vacates (vacates : List ComponentStatus) :
    statuses (vacates.map .vacate) = vacates := by
  unfold statuses
  rw [List.filterMap_map]
  exact List.filterMap_some

theorem statuses_events {turns : List Turn} {events : List Call}
    (handled : List.Forall₂ Handles turns events) : statuses events = [] := by
  induction handled with
  | nil => rfl
  | cons one _ ih =>
      obtain ⟨_, handler, context, fd, _, rfl, _⟩ := one
      exact ih

theorem Tells.statuses {handled : List Turn} {vacates : List ComponentStatus} {trace : List Call}
    (tells : Tells handled vacates trace) : statuses trace = vacates := by
  obtain ⟨events, rfl, sessions⟩ := tells
  rw [statuses_append, statuses_vacates]
  exact congrArg (· ++ vacates) (statuses_events sessions)

theorem foldl_vacate (vacates : List ComponentStatus) (status : Int) :
    vacates.foldl (fun _ status => vacate status) status =
      (vacates.getLast?.map vacate).getD status := by
  induction vacates generalizing status with
  | nil => rfl
  | cons first rest ih =>
      rw [List.foldl_cons, ih, List.getLast?_cons]
      cases rest.getLast? <;> rfl

/-- The status is that of the last `Vacate`. -/
theorem vacateAll_status (state : MainState) (vacates : List ComponentStatus)
    (status : state.componentStatus = ((statuses state.trace).getLast?.map vacate).getD running) :
    (state.vacateAll vacates).componentStatus =
      ((statuses (state.vacateAll vacates).trace).getLast?.map vacate).getD running := by
  unfold MainState.vacateAll
  simp only
  rw [foldl_vacate, statuses_append, statuses_vacates, List.getLast?_append, status]
  cases vacates.getLast? <;> rfl

theorem Alive.tells_of_running {handled : List Turn} {state : MainState}
    (alive : Alive handled state) (status : state.componentStatus = running) :
    Tells handled [] state.trace := by
  obtain ⟨vacates, tells⟩ := alive.trace
  have last := alive.status
  rw [status, tells.statuses] at last
  cases vacates with
  | nil => exact tells
  | cons first rest =>
      rw [List.getLast?_cons] at last
      exact absurd last.symm (vacate_ne_running _)

/-- The loop ends because of a call of `Vacate`. -/
theorem Alive.vacated {handled : List Turn} {state : MainState} (alive : Alive handled state)
    (status : state.componentStatus ≠ running) :
    ∃ vacates, Tells handled vacates state.trace ∧ vacates ≠ [] := by
  obtain ⟨vacates, tells⟩ := alive.trace
  refine ⟨vacates, tells, ?_⟩
  rintro rfl
  have last := alive.status
  rw [tells.statuses] at last
  exact status last

theorem concluded {state after : MainState} {world : World} {conduct : Conduct}
    (result : state.conclude world conduct = some after) :
    after = state.vacateAll conduct.vacates := by
  unfold MainState.conclude at result
  split at result
  · cases result
  · exact (Option.some.inj result).symm

theorem conclude_none {state : MainState} {world : World} {conduct : Conduct} :
    state.conclude world conduct = none ↔ conduct.raises world = true := by
  unfold MainState.conclude
  split
  · rename_i raised
    exact iff_of_true rfl raised
  · rename_i returned
    exact iff_of_false (by simp) returned

/-- A component that was called and did not choose a status before. -/
theorem alive_vacateAll {handled : List Turn} {state : MainState}
    (reachable : Reachable state.world) (tells : Tells handled [] state.trace)
    (status : state.componentStatus = running) (vacates : List ComponentStatus) :
    Alive handled (state.vacateAll vacates) := by
  refine ⟨reachable, ⟨vacates, ?_⟩, vacateAll_status state vacates ?_⟩
  · obtain ⟨events, trace, sessions⟩ := tells
    refine ⟨events, ?_, sessions⟩
    simp only [MainState.vacateAll, trace, List.map_nil, List.append_nil]
  · rw [status, tells.statuses]
    rfl

theorem reachable_plain {world : World} (reachable : Reachable world) {conduct : Conduct}
    (plain : Plain world conduct) : Reachable (run World.step world conduct.operations) :=
  callback_preserves Reachable (fun _ operation kept proper => kept.step operation proper) _
    reachable conduct.operations (fun world _ => plain_unmixed world) plain

theorem alive_construct {world : World} (reachable : Reachable world) {conduct : Conduct}
    (plain : Plain world conduct) {state : MainState}
    (constructed : MainState.construct world conduct = some state) : Alive [] state := by
  rw [concluded constructed]
  exact alive_vacateAll (reachable_plain reachable plain) ⟨[], rfl, .nil⟩ rfl conduct.vacates

/-- The event of a session is handled with the session as context. -/
theorem event_context {cap : EventCap} {fd other : Int} {ref context : Ref}
    {handler : Handler} (issued : Issued cap fd ref)
    (called : cap.call .epollEv = .handler handler context other) : context = ref := by
  cases ref with
  | client client =>
      rw [issued] at called
      cases called
      rfl
  | dispatcher dispatcher =>
      rw [issued] at called
      cases called
      rfl
  | server server =>
      obtain ⟨dispatcher, rfl⟩ := issued
      cases called
      rfl

/-- What is left of a turn in which the process does not end. -/
theorem eventHandler_some {state next : MainState} {turn : Turn}
    (turned : state.eventHandler turn = some next) :
    ∃ ref vacates, turn.eventPtr = some ref ∧
      next = MainState.vacateAll { state with
        world := state.world.handle (state.world.eventHandler (some ref) turn.event) turn.reply
          turn.callback.operations
        trace := state.trace ++ [.event (state.world.eventHandler (some ref) turn.event)] }
        vacates := by
  unfold MainState.eventHandler at turned
  cases reported : turn.eventPtr with
  | none =>
      rw [reported] at turned
      cases turned
  | some ref =>
      rw [reported] at turned
      simp only at turned
      split at turned
      · cases turned
      · split at turned
        · refine ⟨ref, [], rfl, ?_⟩
          rw [← Option.some.inj turned]
          simp [MainState.vacateAll]
        · exact ⟨ref, turn.callback.vacates, rfl, concluded turned⟩

theorem eventHandler_none {state : MainState} {turn : Turn} :
    state.eventHandler turn = none ↔ Fatal state.world turn := by
  unfold MainState.eventHandler Fatal
  cases turn.eventPtr with
  | none => simp
  | some ref =>
      simp only [reduceCtorEq, false_or, Option.some.injEq, exists_eq_left']
      split
      · rename_i raised
        exact iff_of_true rfl (Or.inl raised)
      · rename_i handled
        split
        · rename_i aside
          simp [handled, aside]
        · rename_i begun called
          rw [conclude_none]
          simp [handled, called]

theorem Alive.eventHandler {handled : List Turn} {state next : MainState} {turn : Turn}
    (alive : Alive handled state) (status : state.componentStatus = running)
    (expected : Expected state.world turn) (turned : state.eventHandler turn = some next) :
    Alive (handled ++ [turn]) next := by
  obtain ⟨ref, vacates, reported, rfl⟩ := eventHandler_some turned
  obtain ⟨⟨fd, registered⟩, allowed, unmixed⟩ := expected ref reported
  obtain ⟨events, trace, sessions⟩ := alive.tells_of_running status
  have sound := alive.reachable.sound registered
  have issued := sound.issued ref fd (sound.backed (fd, ref) registered)
  obtain ⟨handler, context, target⟩ := issued.callable.2.2 (getType turn.event)
  have called : state.world.eventHandler (some ref) turn.event =
      .handler handler context fd := target
  refine alive_vacateAll ?_
    ⟨events ++ [.event (state.world.eventHandler (some ref) turn.event)], ?_, ?_⟩ ?_ vacates
  · exact alive.reachable.handle _ turn.reply _ allowed unmixed
  · simp [trace]
  · rw [called]
    refine List.rel_append sessions (.cons ⟨ref, handler, context, fd, reported, rfl, ?_⟩ .nil)
    intro noError
    rw [noError] at target
    exact event_context issued target
  · exact status

/-- The loop handles the returns of `epoll_wait` in order, up to some point: the first that ends the
process, the first call of `Vacate`, or the end. -/
theorem Alive.eventLoop {before : List Turn} {state : MainState} (alive : Alive before state)
    (turns : List Turn) (orderly : Orderly turns state) :
    ∃ handled rest last, turns = handled ++ rest ∧ Alive (before ++ handled) last ∧
      ((MainState.eventLoop turns state = .ok last ∧
          (last.componentStatus = running → rest = [])) ∨
        (MainState.eventLoop turns state = .error last ∧ last.componentStatus = running ∧
          ∃ turn later, rest = turn :: later ∧ Fatal last.world turn)) := by
  induction turns generalizing before state with
  | nil =>
      exact ⟨[], [], state, rfl, (List.append_nil before).symm ▸ alive,
        Or.inl ⟨rfl, fun _ => rfl⟩⟩
  | cons turn rest ih =>
      unfold MainState.eventLoop
      split
      · rename_i status
        obtain ⟨expected, later⟩ := orderly status
        cases turned : state.eventHandler turn with
        | none =>
            exact ⟨[], turn :: rest, state, rfl, (List.append_nil before).symm ▸ alive,
              Or.inr ⟨rfl, status, turn, rest, rfl, eventHandler_none.mp turned⟩⟩
        | some next =>
            obtain ⟨handled, left, last, split_, ends, result⟩ :=
              ih (alive.eventHandler status expected turned) (later next turned)
            rw [List.append_assoc, List.singleton_append] at ends
            exact ⟨turn :: handled, left, last, by rw [split_, List.cons_append], ends, result⟩
      · rename_i stopped
        exact ⟨[], turn :: rest, state, rfl, (List.append_nil before).symm ▸ alive,
          Or.inl ⟨rfl, fun status => absurd status stopped⟩⟩

/-! The whole life. -/

theorem main_cases (opened : List Int) (fd : Int) (loading : Loading) (life : Life) :
    main opened fd loading life = .failed 1 ∨
    ∃ epollFd, loading.epoll = some epollFd ∧ valid epollFd = true ∧
      main opened fd loading life = live (World.start (epollFd :: opened) epollFd fd) life := by
  unfold main
  split
  · exact Or.inl rfl
  · split
    · exact Or.inl rfl
    · rcases allocate_cases ⟨opened, []⟩ loading.epoll with refused | ⟨epollFd, same, fresh, taken⟩
      · rw [refused]
        exact Or.inl rfl
      · rw [taken]
        have open_ : valid epollFd = true := ((fresh_iff _ _).mp fresh).1
        refine Or.inr ⟨epollFd, same, open_, ?_⟩
        simp only [open_, Bool.not_true, Bool.false_eq_true, if_false]
        rfl

/-- The five ways in which a life goes on and ends. -/
theorem live_cases {world : World} (reachable : Reachable world) {life : Life}
    (behaves : Behaves world life) :
    (live world life = .crashed ⟨world, running, []⟩ ∧ life.construct.raises world = true) ∨
    ∃ handled rest state, life.turns = handled ++ rest ∧ Alive handled state ∧
      ((live world life = .crashed state ∧ state.componentStatus = running ∧
          ∃ turn later, rest = turn :: later ∧ Fatal state.world turn) ∨
        (live world life = .waiting state ∧ state.componentStatus = running ∧ rest = []) ∨
        (state.componentStatus ≠ running ∧ Plain state.world life.destruct ∧
          ((live world life = .crashed state ∧ life.destruct.raises state.world = true) ∨
            ∃ ended, live world life = .exited ended.componentStatus ended ∧
              state.destruct life.destruct = some ended))) := by
  unfold live
  cases constructed : MainState.construct world life.construct with
  | none => exact Or.inl ⟨rfl, conclude_none.mp constructed⟩
  | some first =>
      right
      have alive := alive_construct reachable behaves.construct constructed
      obtain ⟨handled, rest, state, split_, ends, ⟨ran, all⟩ | ⟨crashed, status, fatal⟩⟩ :=
        alive.eventLoop life.turns (behaves.turns first constructed)
      · refine ⟨handled, rest, state, split_, ends, Or.inr ?_⟩
        simp only [ran]
        by_cases status : state.componentStatus = running
        · rw [if_pos status]
          exact Or.inl ⟨rfl, status, all status⟩
        · rw [if_neg status]
          refine Or.inr ⟨status, behaves.destruct first constructed state ran, ?_⟩
          cases ended : state.destruct life.destruct with
          | none => exact Or.inl ⟨rfl, conclude_none.mp ended⟩
          | some last => exact Or.inr ⟨last, rfl, rfl⟩
      · refine ⟨handled, rest, state, split_, ends, Or.inl ?_⟩
        simp only [crashed]
        exact ⟨trivial, status, fatal⟩

theorem exit_status (status : Int) (last : ComponentStatus) (same : status = vacate last) :
    (status = 0 ∨ status = 1) ∧ (status = 0 ↔ last = .success) := by
  rw [same]
  cases last <;> decide

/-- `Destruct` may still choose another status. -/
theorem Alive.destruct_status {handled : List Turn} {state ended : MainState} {conduct : Conduct}
    (alive : Alive handled state) (destructed : state.destruct conduct = some ended) :
    ended.componentStatus =
      ((statuses state.trace ++ conduct.vacates).getLast?.map vacate).getD running := by
  rw [concluded destructed]
  unfold MainState.vacateAll
  simp only
  rw [foldl_vacate, alive.status, List.getLast?_append]
  cases conduct.vacates.getLast? <;> rfl

def shortTimer : ClientId := ⟨.timer, 0⟩

def idle : Conduct := ⟨[], [], false⟩

def shortLife : Life where
  construct := ⟨[.initializeClient shortTimer [] 0
    ⟨.valid .confirm .timer .empty .empty, [5], unused⟩ true], [], false⟩
  turns := [
    ⟨some (.client shortTimer), ⟨true, false, false, false⟩, ⟨.invalid, [], unused⟩, idle⟩,
    ⟨some (.client shortTimer), ⟨true, false, false, false⟩, ⟨.invalid, [], unused⟩,
      ⟨[], [.failure], false⟩⟩,
    ⟨none, ⟨false, false, false, false⟩, ⟨.invalid, [], unused⟩, idle⟩]
  destruct := ⟨[.finalizeClient shortTimer], [.success], false⟩

theorem short_behaves (epollFd : Int) (same : some 4 = some epollFd) :
    Behaves (World.start (epollFd :: [0, 1, 2, 3]) epollFd 3) shortLife := by
  obtain rfl := Option.some.inj same
  refine ⟨by decide, ?_, ?_⟩
  · intro state constructed
    obtain rfl := Option.some.inj constructed
    refine fun _ => ⟨?_, fun next turned => ?_⟩
    · intro ref reported
      cases reported
      exact ⟨⟨5, by decide⟩, by decide, by decide⟩
    · obtain rfl := Option.some.inj turned
      refine fun _ => ⟨?_, fun next turned => ?_⟩
      · intro ref reported
        cases reported
        exact ⟨⟨5, by decide⟩, by decide, by decide⟩
      · obtain rfl := Option.some.inj turned
        exact fun running => absurd running (by decide)
  · intro state constructed ended ran
    obtain rfl := Option.some.inj constructed
    obtain rfl := Except.ok.inj ran
    decide

end Gneiss.Component.Main
