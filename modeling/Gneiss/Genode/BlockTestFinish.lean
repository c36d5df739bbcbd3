import Gneiss.Genode.BlockTestRuns

/-!
What the test has shown when it ends, and when it can still end: unless a packet fails, each round
in which the device answers what is under way and `Run` gets memory brings it forward.
-/

namespace Gneiss.Genode.BlockTest

open Runs BlockDevice Block

variable {collected : List (Acknowledged Unit)} {world : TestWorld}

theorem finished_iff (s : State) : s.finished = true ↔ 32 ≤ s.acked := by
  unfold State.finished requestCount
  exact decide_eq_true_iff

/-- What neither `Run` nor the device changes. -/
structure Onward (world after : TestWorld) : Prop where
  halted : after.halted = world.halted
  log : after.log = world.log
  size : after.session.blockSize = world.session.blockSize
  initialized : after.session.initialized = world.session.initialized
  forward : progress world ≤ progress after

theorem Onward.trans {first second third : TestWorld} (one : Onward first second)
    (two : Onward second third) : Onward first third :=
  ⟨two.halted.trans one.halted, two.log.trans one.log, two.size.trans one.size,
    two.initialized.trans one.initialized, one.forward.trans two.forward⟩

theorem Steady.onward {phase : Phase} {after : TestWorld} (steady : Steady phase world after) :
    Onward world after :=
  ⟨steady.halted, steady.log, steady.size, steady.initialized, steady.forward⟩

/-! `Run`. -/

def afterWrites (world : TestWorld) (writing : RequestId → Allocation) : TestWorld :=
  if world.writeState.finished then world else world.single .writing writing

def afterReads (world : TestWorld) (reading : RequestId → Allocation) : TestWorld :=
  if world.writeState.finished ∧ ¬world.readState.finished then world.single .reading reading
  else world

theorem Testing.turns_writing (testing : Testing collected world)
    (unfinished : ¬32 ≤ world.writeState.acked) : Turns world .writing := by
  rcases testing.order with none_ | ⟨all, _⟩
  · exact none_
  · exact absurd (Int.le_of_eq all.symm) unfinished

theorem Testing.writes_event (testing : Testing collected world) (running : world.halted = false)
    (writing : RequestId → Allocation) :
    (∃ more, Testing (collected ++ more) (afterWrites world writing)) ∧
      Steady .writing world (afterWrites world writing) := by
  unfold afterWrites
  split
  · exact ⟨⟨[], (List.append_nil collected).symm ▸ testing⟩, .refl .writing world⟩
  · rename_i unfinished
    rw [finished_iff] at unfinished
    exact testing.single running (testing.turns_writing unfinished) writing

theorem Testing.reads_event (testing : Testing collected world) (running : world.halted = false)
    (reading : RequestId → Allocation) :
    (∃ more, Testing (collected ++ more) (afterReads world reading)) ∧
      Steady .reading world (afterReads world reading) := by
  unfold afterReads
  split
  · rename_i turn
    have turns : Turns world .reading := (finished_iff _).mp turn.1
    exact testing.single running turns reading
  · exact ⟨⟨[], (List.append_nil collected).symm ▸ testing⟩, .refl .reading world⟩

theorem event_ready (world : TestWorld) (log : world.log = true)
    (initialized : world.session.initialized = true) (writing reading : RequestId → Allocation) :
    world.event writing reading =
      let after := afterReads (afterWrites world writing) reading
      if after.halted = false ∧ after.writeState.finished = true ∧
          after.readState.finished = true then
        { after with vacated := after.vacated ++ [.success] }
      else after := by
  unfold TestWorld.event
  rw [if_pos ⟨log, initialized⟩]
  rfl

theorem Testing.event (testing : Testing collected world) (running : world.halted = false)
    (writing reading : RequestId → Allocation) :
    (∃ more, Testing (collected ++ more) (world.event writing reading)) ∧
      Onward world (world.event writing reading) ∧
      (world.event writing reading).client.acknowledged = world.client.acknowledged := by
  by_cases ready : world.log = true ∧ world.session.initialized = true
  · rw [event_ready world ready.1 ready.2]
    obtain ⟨⟨some_, between⟩, first⟩ := testing.writes_event running writing
    obtain ⟨⟨more, later⟩, second⟩ :=
      between.reads_event (first.halted.trans running) reading
    have onward := first.onward.trans second.onward
    have acknowledged := second.acknowledged.trans first.acknowledged
    rw [List.append_assoc] at later
    generalize afterReads (afterWrites world writing) reading = after
      at later onward acknowledged
    dsimp only
    split
    · rename_i ended
      rw [finished_iff, finished_iff] at ended
      have most := later.acked_le
      refine ⟨⟨_, { later with done_ := fun _ => ⟨?_, ?_⟩ }⟩,
        ⟨onward.halted, onward.log, onward.size, onward.initialized, onward.forward⟩,
        acknowledged⟩
      · exact Int.le_antisymm most.1 ended.2.1
      · exact Int.le_antisymm most.2 ended.2.2
    · exact ⟨⟨_, later⟩, onward, acknowledged⟩
  · have same : world.event writing reading = world := by
      unfold TestWorld.event
      exact if_neg ready
    rw [same]
    exact ⟨⟨[], (List.append_nil collected).symm ▸ testing⟩,
      ⟨rfl, rfl, rfl, rfl, Int.le_refl _⟩, rfl⟩

/-! Every run. -/

theorem Testing.step (testing : Testing collected world) (input : TestInput) :
    ∃ more, Testing (collected ++ more) (world.step input) := by
  cases input with
  | run writing reading =>
      cases halted : world.halted with
      | true =>
          simp only [TestWorld.step, halted, if_true]
          exact ⟨[], (List.append_nil collected).symm ▸ testing⟩
      | false =>
          simp only [TestWorld.step, halted, Bool.false_eq_true, if_false]
          exact (testing.event halted writing reading).1
  | device index success left =>
      exact ⟨[], (List.append_nil collected).symm ▸ testing.answer index success left⟩

/-- What `Construct` starts from. -/
def opened (log : Bool) (device : Option (Nat × Nat)) (blocks : Nat → Text) : TestWorld :=
  { halted := false
    log := log
    client := ClientWorld.initial.initializeSession () 1 (device.map (·.1))
    writeState := ⟨-1, -1⟩
    readState := ⟨-1, -1⟩
    contents := []
    blocks := blocks
    shown := []
    vacated := [] }

theorem testing_opened (log : Bool) (device : Option (Nat × Nat)) (blocks : Nat → Text) :
    Testing [] (opened log device blocks) := by
  have unused : answered (opened log device blocks).client [] = [] := by
    have unfilled : (opened log device blocks).client.cache = List.replicate 128 none := by
      cases device <;> rfl
    unfold answered
    rw [unfilled, entries_unfilled]
    cases device <;> rfl
  have silent : (opened log device blocks).client.flying = [] := by
    have waiting := (List.append_eq_nil_iff.mp unused).1
    unfold ClientWorld.flying
    rw [waiting]
    cases device <;> rfl
  have fresh : (opened log device blocks).client.enqueued = 0 := by
    cases device <;> rfl
  have unanswered : (opened log device blocks).client.acknowledged = [] := by
    cases device <;> rfl
  have unsent : (-1 : Int) ≤ -1 ∧ (-1 : Int) ≤ 32 := by decide
  refine ⟨⟨flights_initial 1 _, ?_, ?_, fresh.symm, ?_, ?_⟩, ?_, unsent, unsent, Or.inl rfl, rfl,
    rfl, rfl, ?_, ?_⟩
  · rw [unused, unanswered]
    exact List.Perm.refl _
  · rw [silent, fresh]
    exact List.Perm.refl _
  · rw [fresh]
    exact fun serial bound => absurd bound (Nat.not_lt_zero serial)
  · rw [unused]
    exact fun ack member => absurd member List.not_mem_nil
  · rw [fresh]
    rfl
  · exact fun entry member => absurd member List.not_mem_nil
  · exact fun member => absurd member List.not_mem_nil

theorem testing_construct (log : Bool) (device : Option (Nat × Nat)) (writable : Bool)
    (blocks : Nat → Text) (writing reading : RequestId → Allocation) :
    ∃ collected,
      Testing collected (TestWorld.construct log device writable blocks writing reading) := by
  have start := testing_opened log device blocks
  have failed : Testing [] { opened log device blocks with vacated := [.failure] } :=
    { start with done_ := fun member => by simp at member }
  unfold TestWorld.construct
  change ∃ collected, Testing collected
    (if (opened log device blocks).log = true ∧
        (opened log device blocks).session.initialized = true then
      if 4294967295 < (opened log device blocks).session.blockSize ∨
          9223372036854775807 < (device.map (·.2)).getD 0 then
        { opened log device blocks with halted := true }
      else if writable then (opened log device blocks).event writing reading
      else { opened log device blocks with vacated := [.failure] }
    else { opened log device blocks with vacated := [.failure] })
  split
  · split
    · exact ⟨[], { start with }⟩
    · split
      · exact ⟨_, (start.event rfl writing reading).1.choose_spec⟩
      · exact ⟨[], failed⟩
  · exact ⟨[], failed⟩

theorem testing_run (inputs : List TestInput) (testing : ∃ collected, Testing collected world) :
    ∃ collected, Testing collected (run TestWorld.step world inputs) :=
  run_invariant TestWorld.step (fun world => ∃ collected, Testing collected world)
    (fun _ input ⟨_, testing⟩ => (testing.step input).elim fun _ later => ⟨_, later⟩)
    world inputs testing

/-! What has been shown. -/

theorem good_split (acks : List (Acknowledged Unit)) :
    acks.countP goodWrite + acks.countP goodRead = acks.countP (·.success) := by
  induction acks with
  | nil => rfl
  | cons ack acks ih =>
      rw [List.countP_cons, List.countP_cons, List.countP_cons, ← ih]
      by_cases early : ack.ticket.serial < 33
      · have late : ¬33 ≤ ack.ticket.serial := by omega
        cases success : ack.success <;> simp [goodWrite, goodRead, success, early, late]
        omega
      · have late : 33 ≤ ack.ticket.serial := by omega
        cases success : ack.success <;> simp [goodWrite, goodRead, success, early, late]
        omega

theorem Testing.length_collected (testing : Testing collected world) :
    world.client.flying.length + collected.length = world.client.enqueued := by
  have lengths := testing.delivered.numbered.length_eq
  rwa [List.length_append, List.length_map, List.length_map, List.length_range] at lengths

/-- When nothing is under way every answer was collected. -/
theorem answered_idle (client : ClientWorld Unit RequestId) (idle : client.flying = []) :
    answered client collected = collected := by
  have waiting := (List.append_eq_nil_iff.mp idle).2
  rw [List.map_eq_nil_iff] at waiting
  unfold answered
  rw [waiting]
  rfl

theorem Testing.ended (testing : Testing collected world)
    (writes : world.writeState.acked = 32) (reads : world.readState.acked = 32) :
    world.client.enqueued = 66 ∧
      (world.client.acknowledged.map (·.2.ticket.serial)).Perm (List.range 66) ∧
      ∀ ack ∈ world.client.acknowledged, ack.2.success = true := by
  have split_ := good_split collected
  have most := List.countP_le_length (p := fun ack : Acknowledged Unit => ack.success)
    (l := collected)
  have total := testing.length_collected
  have bound := testing.enqueued_le
  have written := testing.written
  have read := testing.read
  have idle : world.client.flying = [] := List.eq_nil_of_length_eq_zero (by omega)
  have all : world.client.enqueued = 66 := by omega
  have numbered := testing.delivered.numbered
  have collects := testing.delivered.acknowledged.map (·.ticket.serial)
  rw [idle, List.map_nil, List.nil_append, all] at numbered
  rw [answered_idle world.client idle, List.map_map] at collects
  refine ⟨all, collects.trans numbered, ?_⟩
  have good : ∀ ack ∈ collected, ack.success = true :=
    (List.countP_eq_length (p := fun ack : Acknowledged Unit => ack.success)).mp (by omega)
  intro ack member
  have listed := testing.delivered.acknowledged.mem_iff.mp (List.mem_map_of_mem member)
  rw [answered_idle world.client idle] at listed
  exact good ack.2 listed

/-- The write of the block was answered with success. -/
def Wrote (world : TestWorld) (number : Nat) : Prop :=
  ∃ ack ∈ world.client.acknowledged, ack.2.ticket.serial = number ∧ ack.2.success = true

theorem Testing.wrote (testing : Testing collected world)
    (finished : 32 ≤ world.writeState.acked) (number : Nat) (bound : number < 33) :
    Wrote world number := by
  obtain ⟨ack, member, success, same⟩ := testing.all_written finished number bound
  obtain ⟨entry, listed, rfl⟩ :=
    List.mem_map.mp (testing.delivered.acknowledged.mem_iff.mpr (mem_answered member))
  exact ⟨entry, listed, same, success⟩

/-- A block is shown when all writes are answered, and with what the device holds. -/
theorem Testing.shown_written (testing : Testing collected world) {entry : Nat × Text}
    (member : entry ∈ world.shown) :
    (∀ number < 33, Wrote world number) ∧ entry.1 < 33 ∧
      entry.2 = pattern world.session.blockSize entry.1 ∧ world.blocks entry.1 = entry.2 := by
  have listed := List.mem_map_of_mem (f := Prod.fst) member
  rw [testing.shown] at listed
  have bound := testing.reads_bound entry.1 listed
  obtain ⟨ack, good, _⟩ := List.mem_map.mp listed
  have late := (List.mem_filter.mp good).2
  simp only [goodRead, Bool.and_eq_true, decide_eq_true_eq] at late
  have sent := testing.delivered.serial_lt (mem_answered (List.mem_filter.mp good).1)
  have total := testing.enqueued
  have writes := testing.writes
  have finished : 32 ≤ world.writeState.acked := by
    rcases testing.order with none_ | ⟨all, _⟩ <;> omega
  have whole := testing.whole entry member
  exact ⟨testing.wrote finished, bound, whole,
    (testing.block_written finished entry.1 bound).trans whole.symm⟩

/-- In every run no block is shown twice, and a block is shown only when all 33 writes succeeded,
with the pattern that was written to it and that the device holds. When the test has reported
success, all blocks were shown, and the device carried out each of the 66 packets. -/
theorem test_reads_back (log : Bool) (device : Option (Nat × Nat)) (writable : Bool)
    (blocks : Nat → Text) (writing reading : RequestId → Allocation) (inputs : List TestInput) :
    let world := run TestWorld.step
      (TestWorld.construct log device writable blocks writing reading) inputs
    (world.shown.map Prod.fst).Nodup ∧
    (∀ entry ∈ world.shown, (∀ number < 33, Wrote world number) ∧ entry.1 < 33 ∧
      entry.2 = pattern world.session.blockSize entry.1 ∧ world.blocks entry.1 = entry.2) ∧
    (.success ∈ world.vacated →
      (world.shown.map Prod.fst).Perm (List.range 33) ∧ world.client.enqueued = 66 ∧
      (world.client.acknowledged.map (·.2.ticket.serial)).Perm (List.range 66) ∧
      ∀ ack ∈ world.client.acknowledged, ack.2.success = true) := by
  obtain ⟨collected, testing⟩ := testing_run inputs
    (testing_construct log device writable blocks writing reading)
  refine ⟨?_, fun entry member => testing.shown_written member, fun ended => ?_⟩
  · rw [testing.shown]
    exact testing.delivered.reads_nodup
  · obtain ⟨writes, reads⟩ := testing.done_ ended
    obtain ⟨all, answers, good⟩ := testing.ended writes reads
    refine ⟨?_, all, answers, good⟩
    rw [testing.shown]
    exact testing.all_read (Int.le_of_eq reads.symm)

/-! The test can go on as long as no packet failed. -/

def Healthy (world : TestWorld) : Prop :=
  ∀ ack ∈ world.client.acknowledged, ack.2.success = true

theorem Testing.healthy (testing : Testing collected world) (healthy : Healthy world)
    {ack : Acknowledged Unit} (member : ack ∈ answered world.client collected) :
    ack.success = true := by
  obtain ⟨entry, listed, rfl⟩ :=
    List.mem_map.mp (testing.delivered.acknowledged.mem_iff.mpr member)
  exact healthy entry listed

/-- A turn that brings the test no further. -/
structure Stuck (world after : TestWorld) : Prop where
  requests : after.client.requests = world.client.requests
  submitted : after.session.submitted = world.session.submitted
  writeState : after.writeState = world.writeState
  readState : after.readState = world.readState

theorem Stuck.refl (world : TestWorld) : Stuck world world :=
  ⟨rfl, rfl, rfl, rfl⟩

theorem Stuck.trans {first second third : TestWorld} (one : Stuck first second)
    (two : Stuck second third) : Stuck first third :=
  ⟨two.requests.trans one.requests, two.submitted.trans one.submitted,
    two.writeState.trans one.writeState, two.readState.trans one.readState⟩

/-- What such a turn waits for. -/
structure Waits (world : TestWorld) (phase : Phase) (index : RequestId) : Prop where
  pending : (world.client.requests index).status = .pending →
    32 ≤ (world.counter phase).acked ∨ ∃ item ∈ world.session.submitted, item.packet.tag = index
  raw : (world.client.requests index).status = .raw → 32 ≤ (world.counter phase).sent

theorem Stuck.progress {after : TestWorld} (stuck : Stuck world after) :
    progress after = progress world := by
  unfold BlockTest.progress
  rw [stuck.writeState, stuck.readState]

theorem Stuck.counter {after : TestWorld} (stuck : Stuck world after) (phase : Phase) :
    after.counter phase = world.counter phase := by
  cases phase with
  | writing => exact stuck.writeState
  | reading => exact stuck.readState

theorem Stuck.waits {after : TestWorld} (stuck : Stuck world after) {phase : Phase}
    {index : RequestId} (waits : Waits after phase index) : Waits world phase index := by
  obtain ⟨pending, raw⟩ := waits
  rw [stuck.requests, stuck.counter, stuck.submitted] at pending
  rw [stuck.requests, stuck.counter] at raw
  exact ⟨pending, raw⟩

/-- A pending request whose answer is not there has its packet at the device. -/
theorem Testing.missing_submitted (testing : Testing collected world) {index : RequestId}
    (pending : (world.client.requests index).status = .pending)
    (missing : ∀ ack ∈ entries world.client.cache ++ (world.client.sessions ()).acked,
      ack.tag ≠ index.val) :
    ∃ item ∈ world.session.submitted, item.packet.tag = index.val := by
  have flights := testing.delivered.flights
  obtain ⟨serial, ticket, _⟩ := (flights.busy pending).ticket
  have flown : (index.val, serial) ∈ world.client.flying :=
    flights.flying.mem_iff.mpr (flights.mem_pending.mpr ⟨index, rfl, pending, ticket⟩)
  rcases List.mem_append.mp flown with sent | waiting
  · obtain ⟨item, member, same⟩ := List.mem_map.mp sent
    exact ⟨item, member, congrArg Prod.fst same⟩
  · obtain ⟨ack, member, same⟩ := List.mem_map.mp waiting
    exact absurd (congrArg Prod.fst same) (missing ack member)

theorem Collects.stuck {index : RequestId} {phase : Phase} {after : TestWorld}
    (testing : Testing collected world) (healthy : Healthy world)
    (collects : Collects world index phase after) :
    progress world < progress after ∨ Stuck world after ∧
      ((world.client.requests index).status = .pending → 32 ≤ (world.counter phase).acked ∨
        ∃ item ∈ world.session.submitted, item.packet.tag = index.val) := by
  cases collects with
  | idle _ done_ =>
      exact Or.inr ⟨.refl world, fun pending => Or.inl (done_.resolve_left (· pending))⟩
  | waiting _ pending client updated missing =>
      have same : client.requests = world.client.requests := by
        rw [updated.requests]
        exact Function.update_eq_self _ _
      exact Or.inr ⟨⟨same, updated.submitted, rfl, rfl⟩,
        fun _ => Or.inr (testing.missing_submitted pending missing)⟩
  | failed _ _ client ack updated c raw failure =>
      have there : ack ∈ answered world.client collected :=
        List.mem_append_left _ (updated.conserved.mem_iff.mpr
          (List.mem_append_right _ List.mem_cons_self))
      rw [testing.healthy healthy there] at failure
      cases failure
  | wrote _ unfinished client ack updated c raw success early =>
      left
      simp only [progress]
      omega
  | read _ unfinished client ack updated c raw success late =>
      left
      simp only [progress]
      omega

theorem Submits.stuck {index : RequestId} {allocation : Allocation} {phase : Phase}
    {after : TestWorld} (memory : allocation.memory ≠ none)
    (submits : Submits world index allocation phase after) :
    progress world < progress after ∨ Stuck world after ∧
      ((world.client.requests index).status = .raw → 32 ≤ (world.counter phase).sent) := by
  cases submits with
  | idle _ done_ => exact Or.inr ⟨.refl world, fun raw => done_.resolve_left (· raw)⟩
  | refused _ raw none_ c unused => exact absurd none_ memory
  | wrote raw unsent offset =>
      left
      simp only [progress]
      omega
  | read raw unsent offset =>
      left
      simp only [progress]
      omega

theorem Testing.turn_stuck (testing : Testing collected world) (running : world.halted = false)
    (sized : Sized world) (healthy : Healthy world) {phase : Phase} (turns : Turns world phase)
    {allocations : RequestId → Allocation} {index : RequestId}
    (memory : (allocations index).memory ≠ none) :
    progress world < progress (world.turn phase allocations index) ∨
      Stuck world (world.turn phase allocations index) ∧ Waits world phase index := by
  obtain ⟨between, more, collects, _, _, submits⟩ :=
    testing.turn_cases running sized turns allocations index
  have first := collects.steady.forward
  have second := submits.steady.forward
  rcases Collects.stuck testing healthy collects with ahead | ⟨stuck, pending⟩
  · exact Or.inl (Int.lt_of_lt_of_le ahead second)
  · rcases Submits.stuck memory submits with ahead | ⟨still, raw⟩
    · exact Or.inl (Int.lt_of_le_of_lt first ahead)
    · refine Or.inr ⟨stuck.trans still, pending, ?_⟩
      rw [stuck.requests, stuck.counter] at raw
      exact raw

theorem Testing.turns_stuck (testing : Testing collected world) (running : world.halted = false)
    (sized : Sized world) (healthy : Healthy world) {phase : Phase} (turns : Turns world phase)
    {allocations : RequestId → Allocation} (memory : ∀ index, (allocations index).memory ≠ none)
    (indices : List RequestId) :
    let after := indices.foldl (fun world index => world.turn phase allocations index) world
    progress world < progress after ∨ ∀ index ∈ indices, Waits world phase index := by
  induction indices generalizing world collected with
  | nil => exact Or.inr fun _ member => absurd member List.not_mem_nil
  | cons index rest ih =>
      obtain ⟨⟨more, later⟩, steady⟩ := testing.turn running sized turns allocations index
      have still := steady.halted.trans running
      have onward := (later.turns still (steady.sized sized) (steady.turns turns) allocations
        rest).2.forward
      rcases testing.turn_stuck running sized healthy turns (memory index) with
        ahead | ⟨stuck, waits⟩
      · exact Or.inl (Int.lt_of_lt_of_le ahead onward)
      · have healthy' : Healthy (world.turn phase allocations index) := by
          unfold Healthy
          rw [steady.acknowledged]
          exact healthy
        rcases ih later still (steady.sized sized) healthy' (steady.turns turns) with ahead | all
        · left
          rw [← stuck.progress]
          exact ahead
        · right
          intro other member
          rcases List.mem_cons.mp member with rfl | behind
          · exact waits
          · exact stuck.waits (all other behind)

/-- Counting when every answer was collected and none was a failure. -/
theorem Testing.settled (testing : Testing collected world) (healthy : Healthy world)
    (idle : world.client.flying = []) :
    world.writeState.acked + world.readState.acked =
      world.writeState.sent + world.readState.sent := by
  have good : ∀ ack ∈ collected, ack.success = true :=
    fun ack member => testing.healthy healthy (mem_answered member)
  have all := (List.countP_eq_length (p := fun ack : Acknowledged Unit => ack.success)).mpr good
  have split_ := good_split collected
  have total := testing.length_collected
  rw [idle, List.length_nil] at total
  have sum := testing.enqueued
  have written := testing.written
  have read := testing.read
  omega

/-- Before the first read was sent none can be counted. -/
theorem Testing.unread (testing : Testing collected world)
    (unsent : world.readState.sent = -1) : world.readState.acked = -1 := by
  have none_ : collected.countP goodRead = 0 := by
    rw [List.countP_eq_zero]
    intro ack member good
    simp only [goodRead, Bool.and_eq_true, decide_eq_true_eq] at good
    have bound := testing.delivered.serial_lt (mem_answered member)
    have total := testing.enqueued
    have writes := testing.writes
    omega
  have read := testing.read
  omega

/-- With every answer there, and memory, the loop brings the test forward. -/
theorem Testing.single_forward (testing : Testing collected world)
    (running : world.halted = false) (sized : Sized world) (healthy : Healthy world)
    {phase : Phase} (turns : Turns world phase) (unfinished : (world.counter phase).acked < 32)
    (answered : world.session.submitted = []) {allocations : RequestId → Allocation}
    (memory : ∀ index, (allocations index).memory ≠ none) :
    progress world < progress (world.single phase allocations) := by
  have ahead_or := testing.turns_stuck running sized healthy turns memory (List.finRange 8)
  have within : world.session.blockSize ≤ 4096 ∧ 256 ≤ world.session.blockSize := sized
  unfold TestWorld.single
  rw [if_pos within]
  refine ahead_or.resolve_right fun all => ?_
  have flights := testing.delivered.flights
  have raw (index : RequestId) : (world.client.requests index).status = .raw := by
    refine (flights.slots index).resolve_right fun busy => ?_
    rcases (all index (List.mem_finRange index)).pending busy.status with done_ | ⟨item, sent, _⟩
    · omega
    · rw [answered] at sent
      exact List.not_mem_nil sent
  have idle : world.client.flying = [] := by
    refine List.Perm.eq_nil (flights.flying.trans (List.Perm.of_eq ?_))
    unfold ClientWorld.pending Slots.held
    rw [List.filterMap_eq_nil_iff]
    exact fun index _ => flight_raw (raw index)
  have sent := (all 0 (List.mem_finRange 0)).raw (raw 0)
  have counted := testing.settled healthy idle
  have most := testing.acked_le
  have reads := testing.reads
  cases phase with
  | writing =>
      simp only [TestWorld.counter] at sent unfinished
      have none_ : world.readState.sent = -1 := turns
      have unread := testing.unread none_
      omega
  | reading =>
      simp only [TestWorld.counter] at sent unfinished
      have finished : 32 ≤ world.writeState.acked := turns
      have all_ := testing.all_sent finished
      omega

/-- The same for `Run`, which ends the test if all was read. -/
theorem Testing.event_forward (testing : Testing collected world)
    (running : world.halted = false) (log : world.log = true)
    (initialized : world.session.initialized = true) (sized : Sized world)
    (healthy : Healthy world) (answered : world.session.submitted = [])
    {writing reading : RequestId → Allocation}
    (written : ∀ index, (writing index).memory ≠ none)
    (read : ∀ index, (reading index).memory ≠ none) :
    .success ∈ (world.event writing reading).vacated ∨
      progress world < progress (world.event writing reading) := by
  rw [event_ready world log initialized]
  obtain ⟨⟨_, between⟩, first⟩ := testing.writes_event running writing
  have still := first.halted.trans running
  have second := (between.reads_event still reading).2
  by_cases writes : world.writeState.finished = true
  · have same : afterWrites world writing = world := if_pos writes
    rw [same] at second ⊢
    have steady := second.reading rfl
    by_cases reads : world.readState.finished = true
    · have done_ : afterReads world reading = world :=
        if_neg fun both => both.2 reads
      left
      rw [done_]
      dsimp only
      rw [if_pos ⟨running, writes, reads⟩]
      exact List.mem_append_right _ List.mem_cons_self
    · have loop : afterReads world reading = world.single .reading reading :=
        if_pos ⟨writes, reads⟩
      have turns : Turns world .reading := (finished_iff _).mp writes
      rw [finished_iff] at reads
      have forward := testing.single_forward running sized healthy turns (Int.not_le.mp reads)
        answered read
      right
      rw [loop]
      dsimp only
      split
      · exact forward
      · exact forward
  · have loop : afterWrites world writing = world.single .writing writing := if_neg writes
    rw [finished_iff] at writes
    have forward := testing.single_forward running sized healthy (testing.turns_writing writes)
      (Int.not_le.mp writes) answered written
    rw [← loop] at forward
    have onward := Int.lt_of_lt_of_le forward second.forward
    right
    dsimp only
    split
    · exact onward
    · exact onward

/-! The device answers all that is under way. -/

theorem answer_client (world : TestWorld) (place : Nat) (success : Bool) (left : Text) :
    (world.answer place success left).client = world.client.acknowledge () place success := by
  unfold TestWorld.answer
  cases found : world.session.submitted[place]? with
  | none =>
      have nothing : (world.client.sessions ()).submitted[place]? = none := found
      simp only [ClientWorld.acknowledge, nothing]
  | some item =>
      dsimp only
      split <;> rfl

theorem answer_onward (world : TestWorld) (place : Nat) (success : Bool) (left : Text) :
    Onward world (world.answer place success left) := by
  have tag : (world.answer place success left).session.initialized = world.session.initialized ∧
      (world.answer place success left).session.blockSize = world.session.blockSize := by
    simp only [TestWorld.session, answer_client]
    rcases acknowledge_cases world.client place success with
      ⟨_, same⟩ | ⟨item, before, behind, _, _, same⟩
    · rw [same]
      exact ⟨rfl, rfl⟩
    · rw [same]
      simp only [ClientWorld.setSession, Function.update_self, ClientSession.initialized,
        and_self]
  have rest : (world.answer place success left).halted = world.halted ∧
      (world.answer place success left).log = world.log ∧
      (world.answer place success left).writeState = world.writeState ∧
      (world.answer place success left).readState = world.readState := by
    unfold TestWorld.answer
    cases world.session.submitted[place]? with
    | none => exact ⟨rfl, rfl, rfl, rfl⟩
    | some item =>
        dsimp only
        split <;> exact ⟨rfl, rfl, rfl, rfl⟩
  refine ⟨rest.1, rest.2.1, tag.2, tag.1, Int.le_of_eq ?_⟩
  simp only [progress, rest.2.2]

theorem answer_first (world : TestWorld) :
    (world.answer 0 true []).session.submitted = world.session.submitted.tail := by
  simp only [TestWorld.session, answer_client, ClientWorld.acknowledge]
  cases found : (world.client.sessions ()).submitted with
  | nil => simp [found]
  | cons item rest => simp [ClientWorld.setSession]

theorem answer_healthy (healthy : Healthy world) (place : Nat) (left : Text) :
    Healthy (world.answer place true left) := by
  intro entry member
  rw [answer_client] at member
  rcases acknowledge_cases world.client place true with
    ⟨_, same⟩ | ⟨item, before, behind, _, _, same⟩
  · rw [same] at member
    exact healthy entry member
  · rw [same] at member
    rcases List.mem_append.mp member with old | new
    · exact healthy entry old
    · rw [List.mem_singleton.mp new]

structure Ready (world : TestWorld) : Prop where
  testing : ∃ collected, Testing collected world
  running : world.halted = false
  log : world.log = true
  initialized : world.session.initialized = true
  sized : Sized world

theorem Ready.onward (ready : Ready world) {after : TestWorld}
    (testing : ∃ collected, Testing collected after) (onward : Onward world after) :
    Ready after :=
  ⟨testing, onward.halted.trans ready.running, onward.log.trans ready.log,
    onward.initialized.trans ready.initialized, by
      unfold Sized
      rw [onward.size]
      exact ready.sized⟩

theorem Ready.step (ready : Ready world) (input : TestInput) :
    Ready (world.step input) ∧ Onward world (world.step input) := by
  obtain ⟨collected, testing⟩ := ready.testing
  obtain ⟨more, later⟩ := testing.step input
  have onward : Onward world (world.step input) := by
    cases input with
    | run writing reading =>
        simp only [TestWorld.step, ready.running, Bool.false_eq_true, if_false]
        exact (testing.event ready.running writing reading).2.1
    | device index success left => exact answer_onward world index success left
  exact ⟨ready.onward ⟨_, later⟩ onward, onward⟩

theorem Ready.answered (ready : Ready world) (healthy : Healthy world) :
    ∃ inputs, Ready (run TestWorld.step world inputs) ∧
      Healthy (run TestWorld.step world inputs) ∧
      (run TestWorld.step world inputs).session.submitted = [] ∧
      progress world ≤ progress (run TestWorld.step world inputs) := by
  induction waiting : world.session.submitted generalizing world with
  | nil => exact ⟨[], ready, healthy, waiting, Int.le_refl _⟩
  | cons item rest ih =>
      have one : TestWorld.step world (.device 0 true []) = world.answer 0 true [] := rfl
      obtain ⟨later, onward⟩ := ready.step (.device 0 true [])
      rw [one] at later onward
      obtain ⟨inputs, last, good, empty, forward⟩ :=
        ih later (answer_healthy healthy 0 []) (by rw [answer_first, waiting]; rfl)
      exact ⟨.device 0 true [] :: inputs, last, good, empty, onward.forward.trans forward⟩

def remaining (world : TestWorld) : Nat := (128 - progress world).toNat

theorem Testing.progress_bounds (testing : Testing collected world) :
    -4 ≤ progress world ∧ progress world ≤ 128 := by
  have writes := testing.writes
  have reads := testing.reads
  have most := testing.acked_le
  have written := testing.written
  have read := testing.read
  unfold progress
  omega

theorem Ready.can_finish (ready : Ready world) (healthy : Healthy world) :
    ∃ later, .success ∈ (run TestWorld.step world later).vacated := by
  refine run_reaches TestWorld.step (fun world => Ready world ∧ Healthy world)
    (fun world => .success ∈ world.vacated) remaining ?_ world ⟨ready, healthy⟩
  rintro world ⟨ready, healthy⟩ _
  obtain ⟨inputs, between, good, answered, forward⟩ := ready.answered healthy
  obtain ⟨collected, testing⟩ := between.testing
  let memory : RequestId → Allocation := fun _ => ⟨some 0, []⟩
  have given (index : RequestId) : (memory index).memory ≠ none := Option.some_ne_none 0
  have event : (run TestWorld.step world inputs).step (.run memory memory) =
      (run TestWorld.step world inputs).event memory memory := by
    simp only [TestWorld.step, between.running, Bool.false_eq_true, if_false]
  refine ⟨inputs ++ [.run memory memory], ?_⟩
  rw [run_append]
  generalize run TestWorld.step world inputs = middle at *
  obtain ⟨later, _⟩ := between.step (.run memory memory)
  have acknowledged := (testing.event between.running memory memory).2.2
  have last := testing.event_forward between.running between.log between.initialized
    between.sized good answered given given
  change (Ready (middle.step (.run memory memory)) ∧ Healthy (middle.step (.run memory memory))) ∧
    (.success ∈ (middle.step (.run memory memory)).vacated ∨
      remaining (middle.step (.run memory memory)) < remaining world)
  rw [event] at later ⊢
  refine ⟨⟨later, ?_⟩, last.imp_right fun ahead => ?_⟩
  · unfold Healthy
    rw [acknowledged]
    exact good
  · obtain ⟨_, ended⟩ := later.testing
    have most := ended.progress_bounds
    unfold remaining
    omega

/-- No answer is forgotten. -/
theorem acknowledged_grows (inputs : List TestInput)
    (testing : ∃ collected, Testing collected world) :
    world.client.acknowledged <+: (run TestWorld.step world inputs).client.acknowledged := by
  refine run_related TestWorld.step (fun world => ∃ collected, Testing collected world)
    (fun first second => first.client.acknowledged <+: second.client.acknowledged)
    (fun _ input ⟨_, testing⟩ => (testing.step input).elim fun _ later => ⟨_, later⟩)
    (fun _ => List.prefix_refl _) (fun _ _ _ => List.IsPrefix.trans) ?_ world inputs testing
  rintro world input ⟨collected, testing⟩
  cases input with
  | run writing reading =>
      cases halted : world.halted with
      | true => simp only [TestWorld.step, halted, if_true, List.prefix_refl]
      | false =>
          have unchanged := (testing.event halted writing reading).2.2
          simp only [TestWorld.step, halted, Bool.false_eq_true, if_false, unchanged,
            List.prefix_refl]
  | device index success left =>
      rw [TestWorld.step, answer_client]
      rcases acknowledge_cases world.client index success with
        ⟨_, same⟩ | ⟨item, before, behind, _, _, same⟩
      · simp only [same, List.prefix_refl]
      · rw [same]
        exact List.prefix_append _ _

section Opened

variable {size count : Nat} (large : 256 ≤ size) (small : size ≤ 4096) (blocks : Nat → Text)
  (writing reading : RequestId → Allocation)

include large small

theorem ready_opened : Ready (opened true (some (size, count)) blocks) :=
  ⟨⟨[], testing_opened _ _ _⟩, rfl, rfl, by simp [opened, TestWorld.session,
    ClientWorld.initializeSession, ClientWorld.setSession, ClientSession.initialized],
    ⟨small, large⟩⟩

theorem construct_opened (fits : count ≤ 9223372036854775807) :
    TestWorld.construct true (some (size, count)) true blocks writing reading =
      (opened true (some (size, count)) blocks).step (.run writing reading) := by
  have start : Ready (opened true (some (size, count)) blocks) := ready_opened large small blocks
  have bound : ¬(4294967295 < (opened true (some (size, count)) blocks).session.blockSize ∨
      9223372036854775807 < ((some (size, count)).map (·.2)).getD 0) := by
    have own : (opened true (some (size, count)) blocks).session.blockSize = size := rfl
    rw [own]
    simp only [Option.map_some, Option.getD_some]
    omega
  unfold TestWorld.construct
  exact (if_pos ⟨start.log, start.initialized⟩).trans ((if_neg bound).trans (if_pos rfl))

theorem ready_construct (fits : count ≤ 9223372036854775807) :
    Ready (TestWorld.construct true (some (size, count)) true blocks writing reading) := by
  rw [construct_opened large small blocks writing reading fits]
  exact ((ready_opened large small blocks).step _).1

theorem construct_acknowledged (fits : count ≤ 9223372036854775807) :
    (TestWorld.construct true (some (size, count)) true blocks writing
      reading).client.acknowledged = [] := by
  rw [construct_opened large small blocks writing reading fits]
  exact ((testing_opened true (some (size, count)) blocks).event rfl writing reading).2.2

end Opened

theorem Ready.run_forward (ready : Ready world) (later : List TestInput) :
    progress world ≤ progress (run TestWorld.step world later) :=
  run_related TestWorld.step Ready (fun first second => progress first ≤ progress second)
    (fun _ input ready => (ready.step input).1) (fun _ => Int.le_refl _)
    (fun _ _ _ => Int.le_trans) (fun _ input ready => (ready.step input).2.forward) world later
    ready

/-- The test can still succeed as long as no packet has failed, and no longer. `progress` is never
lost, and a call of `Run` gains some when all packets are answered and there is memory for more. -/
theorem test_finishes_iff {size count : Nat} (large : 256 ≤ size) (small : size ≤ 4096)
    (fits : count ≤ 9223372036854775807) (blocks : Nat → Text)
    (writing reading : RequestId → Allocation) (inputs : List TestInput) :
    let world := run TestWorld.step
      (TestWorld.construct true (some (size, count)) true blocks writing reading) inputs
    ((∃ later, .success ∈ (run TestWorld.step world later).vacated) ↔
      ∀ ack ∈ world.client.acknowledged, ack.2.success = true) ∧
    -4 ≤ progress world ∧ progress world ≤ 128 ∧
    (∀ later, progress world ≤ progress (run TestWorld.step world later)) ∧
    ((∀ ack ∈ world.client.acknowledged, ack.2.success = true) → world.session.submitted = [] →
      ∀ writing reading : RequestId → Allocation, (∀ index, (writing index).memory ≠ none) →
        (∀ index, (reading index).memory ≠ none) →
        .success ∈ (world.step (.run writing reading)).vacated ∨
          progress world < progress (world.step (.run writing reading))) := by
  have ready : Ready (run TestWorld.step
      (TestWorld.construct true (some (size, count)) true blocks writing reading) inputs) :=
    run_invariant TestWorld.step Ready (fun _ input ready => (ready.step input).1) _ inputs
      (ready_construct large small blocks writing reading fits)
  obtain ⟨collected, now⟩ := ready.testing
  refine ⟨⟨fun ⟨later, ended⟩ ack member => ?_, ready.can_finish⟩, now.progress_bounds.1,
    now.progress_bounds.2, ready.run_forward, ?_⟩
  · obtain ⟨_, testing⟩ := testing_run later ready.testing
    obtain ⟨writes, reads⟩ := testing.done_ ended
    exact (testing.ended writes reads).2.2 ack
      ((acknowledged_grows later ready.testing).subset member)
  · intro healthy idle more others written read
    simp only [TestWorld.step, ready.running, Bool.false_eq_true, if_false]
    exact now.event_forward ready.running ready.log ready.initialized ready.sized healthy idle
      written read

theorem fresh_test_finishes :
    let world := run TestWorld.step (TestWorld.construct true (some (512, 64)) true
      (fun _ => []) (fun _ => ⟨none, []⟩) (fun _ => ⟨none, []⟩)) []
    ∃ later, .success ∈ (run TestWorld.step world later).vacated := by
  refine (test_finishes_iff (by decide) (by decide) (by decide) (fun _ => [])
    (fun _ => ⟨none, []⟩) (fun _ => ⟨none, []⟩) []).1.mpr fun ack member => ?_
  rw [run, construct_acknowledged (by decide) (by decide) _ _ _ (by decide)] at member
  cases member

end Gneiss.Genode.BlockTest
