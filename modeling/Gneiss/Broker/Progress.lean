import Gneiss.Broker.Exchanges

/-!
Whether the event loop makes progress. `Net` adds to the world what the kernel keeps for each
descriptor of the broker: the messages that wait to be read, and whether the other end is closed.
Epoll is level-triggered, so an event is reported as long as one of the two is there.
-/

namespace Gneiss

open Descriptors Runs

variable {sxml : Sxml} {size : Nat}

/-! Only open descriptors are in the epoll set. -/

theorem setupService_evolves (world : World sxml size) (index : Fin size) (kind : KindType)
    (outcome : Outcome) (paired : Paired world.state) :
    Evolves world.table (setupService world index kind outcome).1.table := by
  rcases setupService_cases world index kind outcome paired with
    ⟨_, same⟩ | ⟨broker, disp, _, _, _, _, same⟩ | ⟨rest, _, _, undone, same⟩
  · rw [same]
    exact .refl
  · rw [same]
    exact ((Evolves.refl.insert broker).insert disp).watch broker true (by simp)
  · rw [same]
    exact undone.evolves

theorem processRequest_evolves (world : World sxml size) (source : Fin size) (kind : KindType)
    (label : Text) (fds : List Int) (outcome : Outcome) (paired : Paired world.state) :
    Evolves world.table (processRequest world source kind label fds outcome).table := by
  apply processRequest_invariant (fun after => Evolves world.table after.table) world source kind
    label fds outcome paired
  · exact .refl
  · exact fun rest message undone => undone.evolves
  · exact fun created files message => Evolves.refl.insert created
  · intro index first second rest message ready
    have set := setupService_evolves { world with
      table := (world.table.insert first).insert second
      seals := sealedBy world.seals kind fds } index kind outcome paired
    rw [ready] at set
    exact ((Evolves.refl.insert first).insert second).trans set

theorem processRegister_evolves (world : World sxml size) (source : Fin size) (kind : KindType)
    (outcome : Outcome) (paired : Paired world.state) :
    Evolves world.table (processRegister world source kind outcome).table := by
  have set := setupService_evolves world source kind outcome paired
  unfold processRegister
  rcases result : setupService world source kind outcome with ⟨rest, ready⟩
  rw [result] at set
  cases ready <;> exact set

theorem handleMessage_evolves (world : World sxml size) (source : Fin size) (action : ActionType)
    (kind : KindType) (name label : Text) (fds : List Int) (outcome : Outcome)
    (paired : Paired world.state) :
    Evolves world.table
      (handleMessage world source action kind name label fds outcome).table := by
  apply handleMessage_invariant fun after => Evolves world.table after.table
  · exact .refl
  · exact fun _ => .refl
  · exact processRequest_evolves world source kind label fds outcome paired
  · exact processRegister_evolves world source kind outcome paired

theorem readMessage_evolves (generated : GeneratedPacket) (world : World sxml size)
    (index : Fin size) (delivery : Delivery) (outcome : Outcome) (paired : Paired world.state) :
    Evolves world.table (readMessage generated world index delivery outcome).table := by
  have arrived := Evolves.receive world.table delivery.fds
  rcases readMessage_cases generated world index delivery outcome with
    ⟨_, same⟩ | ⟨action, kind, name, label, _, same⟩
  · rw [same, World.closeAll_table]
    exact arrived.closeAll _
  · rw [same]
    exact arrived.trans (handleMessage_evolves
      (admitted world ⟨index, action, kind, name.text, label.text, received world delivery⟩
        delivery)
      index action kind name.text label.text (received world delivery) outcome paired)

theorem hangUp_evolves (world : World sxml size) (index : Fin size) (outcome : Outcome) :
    Evolves world.table (hangUp world index outcome).table := by
  simp only [hangUp, World.setComponent, World.close_table]
  split
  · exact (Evolves.refl.unwatch _ _).close _
  · exact Evolves.refl.close _

theorem eventLoopStep_evolves (generated : GeneratedPacket) (world : World sxml size)
    (input : Input) (paired : Paired world.state) :
    Evolves world.table (eventLoopStep generated world input).table := by
  apply eventLoopStep_invariant fun after => Evolves world.table after.table
  · exact .refl
  · intro index
    exact readMessage_evolves generated world index input.delivery input.outcome paired
  · exact fun middle index handled => handled.trans (hangUp_evolves middle index input.outcome)

theorem connected_evolves (world : World sxml size) (slot : Fin size) (broker fd : Int)
    (add : Bool) : Evolves world.table (connected world slot broker fd add).table := by
  simp only [connected, World.setComponent]
  exact ((Evolves.refl.insert broker).insert fd).watch broker add (by simp)

theorem construct_registered (boot : Boot sxml size) (world : World sxml size)
    (constructed : construct boot = some world) : Registered world.table := by
  refine construct_preserves boot world (fun world => Registered world.table) ?_ ?_ ?_ ?_
    constructed
  · intro table epollFd evolves
    refine evolves.registered ?_
    intro fd member
    cases member
  · exact fun _ _ registered => registered
  · intro slot middle broker fd add registered
    exact (connected_evolves middle slot broker fd add).registered registered
  · intro slot middle query broker fd launch registered _ _
    simp only [started, World.close_table]
    exact ((connected_evolves middle slot broker fd launch.add).close fd).registered registered

theorem reachable_registered (generated : GeneratedPacket) (world : World sxml size)
    (reachable : Reachable generated world) : Registered world.table := by
  have both : Ownership world ∧ Registered world.table := by
    refine reachable_invariant generated
      (fun world => Ownership world ∧ Registered world.table) ?_ ?_ world reachable
    · exact fun boot start constructed =>
        ⟨construct_ownership boot start constructed, construct_registered boot start constructed⟩
    · intro middle input ⟨ownership, registered⟩
      exact ⟨ownership.eventLoopStep generated input,
        (eventLoopStep_evolves generated middle input ownership.paired).registered registered⟩
  exact both.2

/-! What the kernel reports, and what one iteration does to it. -/

structure Net (sxml : Sxml) (size : Nat) where
  world : World sxml size
  queue : Int → List Delivery
  hungUp : Int → Bool

namespace Net

def endOfFile : Delivery where
  datagram := some []
  stale := Packet.Buffer.zero
  offered _ := -1

def event (net : Net sxml size) (fd : Int) : Event where
  epollIn := !(net.queue fd).isEmpty || net.hungUp fd
  epollHup := net.hungUp fd
  epollRdhup := net.hungUp fd

def Reports (net : Net sxml size) (fd : Int) : Prop :=
  fd ∈ net.world.table.watched ∧ (net.queue fd ≠ [] ∨ net.hungUp fd = true)

def input (net : Net sxml size) (fd : Int) (outcome : Outcome) : Input where
  fd := fd
  event := net.event fd
  delivery := (net.queue fd).headD endOfFile
  outcome := outcome

/-- Whether the iteration calls `Read_Message`. -/
def reads (net : Net sxml size) (fd : Int) : Bool :=
  match getDest net.world.state fd with
  | none => false
  | some index =>
      valid (net.world.state.components index).fd && ((net.event fd).epollIn && valid fd)

def iterate (generated : GeneratedPacket) (fd : Int) (net : Net sxml size) (outcome : Outcome) :
    Net sxml size :=
  let after := eventLoopStep generated net.world (net.input fd outcome)
  let closed (other : Int) : Bool :=
    decide (other ∈ net.world.table.opened ∧ other ∉ after.table.opened)
  { world := after
    queue := fun other =>
      if closed other then []
      else if other = fd ∧ net.reads fd = true then (net.queue other).tail
      else net.queue other
    hungUp := fun other => net.hungUp other && !closed other }

def Consumed (before after : Net sxml size) (fd : Int) : Prop :=
  (∃ message, before.queue fd = message :: after.queue fd) ∨ fd ∉ after.world.table.watched

def Served (net : Net sxml size) (fd : Int) : Prop :=
  ∃ index, getDest net.world.state fd = some index ∧ Live net.world.state index ∧
    (net.queue fd ≠ [] ∨ (net.world.state.components index).fd = fd)

/-! Nothing happens to a descriptor whose owner is gone. -/

def Abandoned (net : Net sxml size) (fd : Int) : Prop :=
  ∀ index, getDest net.world.state fd = some index → ¬Live net.world.state index

theorem Abandoned.step {net : Net sxml size} {fd : Int} (abandoned : net.Abandoned fd)
    (generated : GeneratedPacket) (outcome : Outcome) :
    eventLoopStep generated net.world (net.input fd outcome) = net.world := by
  rcases eventLoopStep_cases generated net.world (net.input fd outcome) with
    same | ⟨index, _, _, found, live, _⟩
  · exact same
  · exact (abandoned index found live).elim

theorem Abandoned.unread {net : Net sxml size} {fd : Int} (abandoned : net.Abandoned fd) :
    net.reads fd = false := by
  unfold reads
  cases found : getDest net.world.state fd with
  | none => rfl
  | some index =>
      have dead := abandoned index found
      simp only [Live, Bool.not_eq_true] at dead
      simp only [dead, Bool.false_and]

theorem Abandoned.iterate {net : Net sxml size} {fd : Int} (abandoned : net.Abandoned fd)
    (generated : GeneratedPacket) (outcome : Outcome) :
    iterate generated fd net outcome = net := by
  have stays := abandoned.step generated outcome
  have unread := abandoned.unread
  cases net with
  | mk world queue hungUp =>
      simp only [Net.iterate, stays, unread, and_not_self, decide_false, Bool.false_eq_true,
        and_false, ↓reduceIte, Bool.not_false, Bool.and_true]

theorem Abandoned.spins {net : Net sxml size} {fd : Int} (abandoned : net.Abandoned fd)
    (generated : GeneratedPacket) (outcomes : List Outcome) :
    run (Net.iterate generated fd) net outcomes = net := by
  induction outcomes with
  | nil => rfl
  | cons outcome rest ih =>
      rw [run, abandoned.iterate generated outcome]
      exact ih

theorem Abandoned.not_consumed {net : Net sxml size} {fd : Int} (abandoned : net.Abandoned fd)
    (reported : net.Reports fd) (generated : GeneratedPacket) (outcome : Outcome) :
    ¬Consumed net (Net.iterate generated fd net outcome) fd := by
  rw [abandoned.iterate generated outcome]
  rintro (⟨message, same⟩ | deregistered)
  · have lengths := congrArg List.length same
    simp at lengths
  · exact deregistered reported.1

/-! An event on a socket of a live component. -/

section

variable {generated : GeneratedPacket} {net : Net sxml size} {fd : Int} {index : Fin size}

theorem settles (outcome : Outcome) (reported : net.Reports fd)
    (found : getDest net.world.state fd = some index) (live : Live net.world.state index) :
    eventLoopStep generated net.world (net.input fd outcome) =
      settle (readMessage generated net.world index ((net.queue fd).headD endOfFile) outcome) index
        (net.input fd outcome) := by
  have open_ := (getDest_owns _ _ _ found).1
  have reads : (!(net.queue fd).isEmpty || net.hungUp fd) = true := by
    rcases reported.2 with queued | closed
    · simp [queued]
    · simp [closed]
  have step : eventLoopStep generated net.world (net.input fd outcome) = _ :=
    eventLoopStep_settles reported.1 found live
  simpa only [input, event, reads, open_, Bool.and_self, ↓reduceIte] using step

theorem reads_live (reported : net.Reports fd) (found : getDest net.world.state fd = some index)
    (live : Live net.world.state index) : net.reads fd = true := by
  have open_ := (getDest_owns _ _ _ found).1
  have alive : valid (net.world.state.components index).fd = true := live
  rcases reported.2 with queued | closed
  · simp [reads, found, alive, open_, event, queued]
  · simp [reads, found, alive, open_, event, closed]

theorem queue_consumed (outcome : Outcome) (reachable : Reachable generated net.world)
    (reported : net.Reports fd) (found : getDest net.world.state fd = some index)
    (live : Live net.world.state index) (queued : net.queue fd ≠ []) :
    Consumed net (iterate generated fd net outcome) fd := by
  obtain ⟨message, rest, same⟩ := List.exists_cons_of_ne_nil queued
  have reads := reads_live reported found live
  have registered : Registered (iterate generated fd net outcome).world.table :=
    reachable_registered generated _ (reachable_eventLoop reachable [net.input fd outcome])
  by_cases closed : fd ∈ net.world.table.opened ∧
      fd ∉ (eventLoopStep generated net.world (net.input fd outcome)).table.opened
  · exact Or.inr fun watched => closed.2 (registered fd watched)
  · refine Or.inl ⟨message, ?_⟩
    simp [iterate, closed, reads, same]

theorem Reports.closed (reported : net.Reports fd) (empty : net.queue fd = []) :
    net.hungUp fd = true := by
  rcases reported.2 with queued | closed
  · exact (queued empty).elim
  · exact closed

theorem hangs_up (outcome : Outcome) (reported : net.Reports fd)
    (found : getDest net.world.state fd = some index) (live : Live net.world.state index)
    (empty : net.queue fd = []) :
    (iterate generated fd net outcome).world =
      hangUp (readMessage generated net.world index endOfFile outcome) index outcome := by
  have closed := reported.closed empty
  have step : (iterate generated fd net outcome).world = _ := settles outcome reported found live
  refine step.trans ?_
  simp only [settle, input, event, closed, empty, Bool.or_self, ↓reduceIte, List.headD_nil]

theorem control_consumed (outcome : Outcome) (reachable : Reachable generated net.world)
    (reported : net.Reports fd) (found : getDest net.world.state fd = some index)
    (live : Live net.world.state index) (empty : net.queue fd = [])
    (control : (net.world.state.components index).fd = fd) :
    Consumed net (iterate generated fd net outcome) fd := by
  have ownership := reachable_ownership generated net.world reachable
  have open_ := (getDest_owns _ _ _ found).1
  have kept := readMessage_control generated net.world index index endOfFile outcome
    ownership.paired
  refine Or.inr ?_
  rw [hangs_up outcome reported found live empty]
  generalize readMessage generated net.world index endOfFile outcome = middle at kept ⊢
  rw [control] at kept
  simp only [hangUp, kept, World.setComponent, World.close_table, open_, ↓reduceIte]
  rw [mem_close_watched _ _ _ open_]
  exact fun watched => watched.2 rfl

/-- A hang-up on a service socket closes the control socket and leaves the service socket as it
is, now without a live owner. -/
theorem service_abandoned (outcome : Outcome) (reachable : Reachable generated net.world)
    (reported : net.Reports fd) (found : getDest net.world.state fd = some index)
    (live : Live net.world.state index) (empty : net.queue fd = [])
    (other : (net.world.state.components index).fd ≠ fd) :
    (iterate generated fd net outcome).Reports fd ∧
      (iterate generated fd net outcome).Abandoned fd := by
  have before := reachable_ownership generated net.world reachable
  have after : Ownership (iterate generated fd net outcome).world :=
    before.eventLoopStep generated (net.input fd outcome)
  have persists : Persists net.world (iterate generated fd net outcome).world :=
    eventLoopStep_persists generated net.world (net.input fd outcome) before.paired
  have dead : ¬Live (iterate generated fd net outcome).world.state index := by
    rw [hangs_up outcome reported found live empty]
    exact hangUp_dead _ index outcome
  obtain ⟨open_, owns⟩ := getDest_owns _ _ _ found
  obtain control | ⟨kind, service⟩ := owns
  · exact (other control).elim
  have there : serviceThere net.world.state index kind = true := by
    rcases before.paired index kind with ⟨broker, disp⟩ | ⟨absent, _⟩
    · simp [serviceThere, broker, disp]
    · rw [← service, absent] at open_
      cases open_
  have kept : stored (iterate generated fd net outcome).world.state (.broker index kind) = fd := by
    have same := congrArg ServiceEntry.broker (persists.service index kind there)
    exact same.trans service
  have watched := after.watched index kind (by rw [kept]; exact open_)
  have opened := after.owned.opened (.broker index kind) (by rw [kept]; exact open_)
  rw [kept] at watched opened
  refine ⟨⟨watched, Or.inr ?_⟩, ?_⟩
  · have stillOpen : fd ∈ (eventLoopStep generated net.world (net.input fd outcome)).table.opened :=
      opened
    simp [iterate, reported.closed empty, stillOpen]
  · intro owner found
    rw [← after.owner_unique ⟨open_, Or.inr ⟨kind, kept⟩⟩ (getDest_owns _ _ _ found)]
    exact dead

theorem unserved_cases (unserved : ¬net.Served fd) :
    net.Abandoned fd ∨ ∃ index, getDest net.world.state fd = some index ∧
      Live net.world.state index ∧ net.queue fd = [] ∧
      (net.world.state.components index).fd ≠ fd := by
  by_cases abandoned : net.Abandoned fd
  · exact Or.inl abandoned
  · simp only [Abandoned, not_forall, not_not] at abandoned
    obtain ⟨index, found, live⟩ := abandoned
    have neither : ¬(net.queue fd ≠ [] ∨ (net.world.state.components index).fd = fd) :=
      fun either => unserved ⟨index, found, live, either⟩
    rw [not_or, not_not] at neither
    exact Or.inr ⟨index, found, live, neither⟩

theorem served_consumed (outcome : Outcome) (reachable : Reachable generated net.world)
    (reported : net.Reports fd) (served : net.Served fd) :
    Consumed net (iterate generated fd net outcome) fd := by
  obtain ⟨index, found, live, either⟩ := served
  by_cases empty : net.queue fd = []
  · rcases either with queued | control
    · exact (queued empty).elim
    · exact control_consumed outcome reachable reported found live empty control
  · exact queue_consumed outcome reachable reported found live empty

theorem unserved_not_consumed (outcome : Outcome) (reachable : Reachable generated net.world)
    (reported : net.Reports fd) (unserved : ¬net.Served fd) :
    ¬Consumed net (iterate generated fd net outcome) fd := by
  rcases unserved_cases unserved with abandoned | ⟨index, found, live, empty, other⟩
  · exact abandoned.not_consumed reported generated outcome
  · have stays := service_abandoned outcome reachable reported found live empty other
    rintro (⟨message, same⟩ | deregistered)
    · rw [empty] at same
      cases same
    · exact deregistered stays.1.1

theorem unserved_spins (outcomes : List Outcome) (reachable : Reachable generated net.world)
    (reported : net.Reports fd) (unserved : ¬net.Served fd) :
    (run (iterate generated fd) net outcomes).Reports fd := by
  rcases unserved_cases unserved with abandoned | ⟨index, found, live, empty, other⟩
  · rw [abandoned.spins generated outcomes]
    exact reported
  · cases outcomes with
    | nil => exact reported
    | cons outcome rest =>
        have stays := service_abandoned outcome reachable reported found live empty other
        rw [run, stays.2.spins generated rest]
        exact stays.1

end

/-- An iteration consumes the event it is given exactly when the descriptor belongs to a live
component and has a message queued or is the component's control socket. Otherwise the event is
reported for ever. -/
theorem event_consumed_iff (generated : GeneratedPacket) (net : Net sxml size) (fd : Int)
    (outcome : Outcome) (reachable : Reachable generated net.world) (reported : net.Reports fd) :
    (Consumed net (iterate generated fd net outcome) fd ↔ net.Served fd) ∧
      (¬net.Served fd → ∀ outcomes, (run (iterate generated fd) net outcomes).Reports fd) := by
  refine ⟨⟨?_, served_consumed outcome reachable reported⟩, ?_⟩
  · intro consumed
    by_contra unserved
    exact unserved_not_consumed outcome reachable reported unserved consumed
  · exact fun unserved outcomes => unserved_spins outcomes reachable reported unserved

def queued (world : World sxml size) (fd : Int) (packet : Packet) : Net sxml size where
  world := world
  queue other := if other = fd then [delivering packet (-1)] else []
  hungUp _ := false

theorem sample_event_consumed :
    Consumed (queued sampleWorld 4 ⟨.request, .timer, noText, noText⟩)
      (iterate referencePacket 4
        (queued sampleWorld 4 ⟨.request, .timer, noText, noText⟩)
        sampleOutcome) 4 := by
  have reported : (queued sampleWorld 4
      ⟨.request, .timer, noText, noText⟩).Reports 4 := by
    refine ⟨?_, Or.inl (by simp [queued])⟩
    simp only [queued]
    decide +kernel
  have found : getDest sampleWorld.state 4 = some 0 := by
    decide +kernel
  exact (event_consumed_iff referencePacket _ 4 sampleOutcome (sample_reachable referencePacket)
    reported).1.mpr ⟨0, found, sample_live 0, Or.inl (by simp [queued])⟩

/-! A server that registers its service on descriptor 10, confirms a session there and exits. -/

def exitedWorld : World xmlTree 2 :=
  eventLoop referencePacket sampleWorld [
    readable 6 ⟨.register, .message, noText, noText⟩ (-1),
    { fd := 6, event := ⟨true, true, true⟩, delivery := endOfFile, outcome := sampleOutcome }]

def exitedServer : Net xmlTree 2 :=
  queued exitedWorld 10 ⟨.confirm, .message, clientName, noText⟩

theorem exitedServer_spins :
    Reachable referencePacket exitedServer.world ∧ exitedServer.Reports 10 ∧
      ¬Consumed exitedServer (iterate referencePacket 10 exitedServer sampleOutcome) 10 ∧
      ∀ outcomes, run (iterate referencePacket 10) exitedServer outcomes = exitedServer := by
  have reported : exitedServer.Reports 10 := by
    refine ⟨?_, Or.inl (by simp [exitedServer, queued])⟩
    simp only [exitedServer, queued]
    decide +kernel
  have abandoned : exitedServer.Abandoned 10 := by
    simp only [Abandoned, exitedServer, queued, Live]
    decide +kernel
  have reachable : Reachable referencePacket exitedServer.world := by
    simp only [exitedServer, queued]
    unfold exitedWorld
    exact reachable_eventLoop (sample_reachable referencePacket) _
  exact ⟨reachable, reported,
    abandoned.not_consumed reported referencePacket sampleOutcome,
    abandoned.spins referencePacket⟩

end Net

end Gneiss
