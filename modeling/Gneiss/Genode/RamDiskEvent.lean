import Gneiss.Genode.RamDisk

/-!
The loop of `Event` over the packet stream: what it takes from the stream, and when it returns. It
sweeps over the request objects until the last unused one of a sweep found nothing.
-/

namespace Gneiss.Genode.RamDisk

open Runs Block

/-- The requests of the stream come with their payload. -/
structure EventWorld where
  disk : DiskWorld
  stream : List (StreamRequest × Option Text)
  finished : Bool

namespace EventWorld

/-- The body of the inner loop; an exception leaves all loops. -/
def turn (world : EventWorld) (index : RequestIndex) (submitted : Bool) : EventWorld :=
  if world.disk.halted then world
  else if (world.disk.block.requests index).status = .raw then
    match world.stream with
    | [] => ⟨world.disk.turn index ⟨none, none, submitted⟩, [], true⟩
    | (request, content) :: rest =>
        ⟨world.disk.turn index ⟨some request, content, submitted⟩, rest, false⟩
  else { world with disk := world.disk.turn index ⟨none, none, submitted⟩ }

def sweepOver (submitted : RequestIndex → Bool) (world : EventWorld) :
    List RequestIndex → EventWorld
  | [] => world
  | index :: rest => sweepOver submitted (world.turn index (submitted index)) rest

/-- The inner loop over `Request_Cache'Range`. -/
def sweep (world : EventWorld) (submitted : RequestIndex → Bool) : EventWorld :=
  world.sweepOver submitted (List.finRange 64)

/-- The outer loop; `rounds` tells for each sweep which acknowledgements there is room for. It has
not returned when the rounds are used up. -/
def sweeps (world : EventWorld) : List (RequestIndex → Bool) → Option EventWorld
  | [] => none
  | submitted :: rest =>
      let swept := world.sweep submitted
      if swept.disk.halted || swept.finished then some swept else swept.sweeps rest

end EventWorld

def DiskWorld.event (disk : DiskWorld) (stream : List (StreamRequest × Option Text))
    (rounds : List (RequestIndex → Bool)) : Option EventWorld :=
  if disk.ready = true ∧ disk.block.server.initialized = true then
    EventWorld.sweeps ⟨disk, stream, false⟩ rounds
  else some ⟨disk, stream, false⟩

/-- No exception was raised, and every request object is unused or waits for its
acknowledgement. -/
structure Serving (disk : DiskWorld) : Prop where
  running : disk.halted = false
  slots : ∀ index, (disk.block.requests index).status = .raw ∨
    (disk.block.requests index).status = .pending ∧ (disk.flags index).handled = true ∧
      disk.block.server.assigned (disk.block.requests index) = true

/-- `Length` does not raise an exception for the request. -/
def Calm (request : StreamRequest) : Prop :=
  request.blockNumber ≤ diskBlockCount → request.blockCount ≤ 9223372036854775807

/-- What one turn does to the request objects. -/
structure Turned (disk after : DiskWorld) (index : RequestIndex) (input : TurnInput) : Prop where
  serving : Serving after
  server : after.block.server = disk.block.server
  ready : after.ready = disk.ready
  others : ∀ other, other ≠ index → after.block.requests other = disk.block.requests other
  unused : (after.block.requests index).status = .raw ↔
    input.submitted = true ∨ (disk.block.requests index).status = .raw ∧ input.arrived = none

theorem answer_due (disk : DiskWorld) (index : RequestIndex) (submitted : Bool)
    (running : disk.halted = false) (pending : (disk.block.requests index).status = .pending)
    (handled : (disk.flags index).handled = true)
    (assigned : disk.block.server.assigned (disk.block.requests index) = true) :
    let after := disk.answer index submitted
    after.halted = false ∧ after.block.server = disk.block.server ∧ after.ready = disk.ready ∧
      after.flags = disk.flags ∧
      (∀ other, other ≠ index → after.block.requests other = disk.block.requests other) ∧
      (after.block.requests index).session = (disk.block.requests index).session ∧
      (after.block.requests index).status = if submitted then .raw else .pending := by
  intro after
  have same : after = _ := if_pos ⟨running, pending, assigned, handled⟩
  rw [same]
  refine ⟨running, rfl, rfl, rfl, ?_, ?_, ?_⟩
  · intro other distinct
    exact Function.update_of_ne distinct _ _
  · cases submitted <;> simp [ServerWorld.acknowledge]
  · cases submitted <;> simp [ServerWorld.acknowledge, pending]

theorem turned_of_due (disk handled : DiskWorld) (index : RequestIndex) (input : TurnInput)
    (serving : Serving disk) (running : handled.halted = false)
    (server : handled.block.server = disk.block.server) (ready : handled.ready = disk.ready)
    (others : ∀ other, other ≠ index → handled.block.requests other = disk.block.requests other)
    (flags : ∀ other, other ≠ index → handled.flags other = disk.flags other)
    (pending : (handled.block.requests index).status = .pending)
    (done_ : (handled.flags index).handled = true)
    (assigned : handled.block.server.assigned (handled.block.requests index) = true)
    (taken : ¬((disk.block.requests index).status = .raw ∧ input.arrived = none)) :
    Turned disk (handled.answer index input.submitted) index input := by
  obtain ⟨stillRunning, sameServer, sameReady, sameFlags, sameOthers, session, status⟩ :=
    answer_due handled index input.submitted running pending done_ assigned
  refine ⟨⟨stillRunning, ?_⟩, sameServer.trans server, sameReady.trans ready, ?_, ?_⟩
  · intro other
    by_cases same : other = index
    · rw [same, status, sameFlags]
      by_cases submitted : input.submitted = true
      · left
        rw [if_pos submitted]
      · right
        rw [if_neg submitted]
        refine ⟨rfl, done_, ?_⟩
        simpa only [ServerSession.assigned, sameServer, session] using assigned
    · rw [sameOthers other same, others other same, sameFlags, flags other same, sameServer, server]
      exact serving.slots other
  · intro other distinct
    rw [sameOthers other distinct, others other distinct]
  · rw [status]
    cases input.submitted <;> simp [taken]

/-- What the callbacks and `handle` never change. -/
structure Framed (disk after : DiskWorld) : Prop where
  server : after.block.server = disk.block.server
  requests : after.block.requests = disk.block.requests
  ready : after.ready = disk.ready
  commands : after.commands = disk.commands

theorem transfer_framed (disk : DiskWorld) (index : RequestIndex) (content : Option Text)
    (callback : DiskWorld → RequestIndex → Text → DiskWorld)
    (reader : callback = DiskWorld.read ∨ callback = DiskWorld.write) :
    Framed disk (disk.transfer index content callback) ∧
      (disk.transfer index content callback).halted = disk.halted := by
  cases content with
  | none => exact ⟨⟨rfl, rfl, rfl, rfl⟩, rfl⟩
  | some window =>
      rcases reader with rfl | rfl
      · simp only [DiskWorld.transfer, DiskWorld.read]
        split <;> exact ⟨⟨rfl, rfl, rfl, rfl⟩, rfl⟩
      · simp only [DiskWorld.transfer, DiskWorld.write]
        split <;> exact ⟨⟨rfl, rfl, rfl, rfl⟩, rfl⟩

/-- `handle` raises no exception for a calm request. -/
theorem handle_framed (disk : DiskWorld) (index : RequestIndex) (content : Option Text) :
    Framed disk (disk.handle index content) ∧
      (Calm (disk.block.requests index).request →
        (disk.handle index content).halted = disk.halted) := by
  simp only [DiskWorld.handle]
  split
  · split
    · rename_i start
      split
      · rename_i exceeds
        exact ⟨⟨rfl, rfl, rfl, rfl⟩, fun calm => (Nat.not_lt_of_le (calm start) exceeds).elim⟩
      · split
        · split
          · obtain ⟨framed, halted⟩ := transfer_framed
              (disk.setFlags index ⟨true, (disk.flags index).success⟩) index content
              DiskWorld.read (Or.inl rfl)
            exact ⟨⟨framed.server, framed.requests, framed.ready, framed.commands⟩,
              fun _ => halted⟩
          · split
            · obtain ⟨framed, halted⟩ := transfer_framed
                (disk.setFlags index ⟨true, (disk.flags index).success⟩) index content
                DiskWorld.write (Or.inr rfl)
              exact ⟨⟨framed.server, framed.requests, framed.ready, framed.commands⟩,
                fun _ => halted⟩
            · exact ⟨⟨rfl, rfl, rfl, rfl⟩, fun _ => rfl⟩
        · exact ⟨⟨rfl, rfl, rfl, rfl⟩, fun _ => rfl⟩
    · exact ⟨⟨rfl, rfl, rfl, rfl⟩, fun _ => rfl⟩
  · exact ⟨⟨rfl, rfl, rfl, rfl⟩, fun _ => rfl⟩

theorem turn_commands (disk : DiskWorld) (index : RequestIndex) (input : TurnInput) :
    (disk.turn index input).commands = (disk.take index input).commands := by
  unfold DiskWorld.turn
  rw [answer_commands]
  exact (handle_framed _ index input.content).1.commands

theorem handle_handled (disk : DiskWorld) (index : RequestIndex) (content : Option Text)
    (pending : (disk.block.requests index).status = .pending)
    (assigned : disk.block.server.assigned (disk.block.requests index) = true)
    (fresh : disk.flags index = ⟨false, false⟩) :
    ∃ success, Handled disk (disk.handle index content) index success := by
  rcases handle_cases disk index content pending assigned fresh with
    ⟨_, _, _, _, handled, _⟩ | ⟨_, _, _, _, handled, _⟩ | ⟨_, handled, _⟩
  · exact ⟨true, handled⟩
  · exact ⟨true, handled⟩
  · exact ⟨false, handled⟩

theorem Serving.turned {disk : DiskWorld} (serving : Serving disk) (index : RequestIndex)
    (input : TurnInput) (calm : ∀ request, input.arrived = some request → Calm request) :
    Turned disk (disk.turn index input) index input := by
  obtain ⟨arrived, content, submitted⟩ := input
  unfold DiskWorld.turn
  rcases serving.slots index with unused | ⟨pending, handled, assigned⟩
  · cases arrived with
    | some request =>
        let taken := disk.take index ⟨some request, content, submitted⟩
        have took : taken = _ := take_some disk index request content submitted unused
        have stored : taken.block.requests index =
            ⟨request, .pending, disk.block.server.tag, disk.block.server.session.getD 0⟩ := by
          rw [took]
          exact process_stored disk.block index request
        have server : taken.block.server = disk.block.server := by rw [took]; rfl
        have assigned : taken.block.server.assigned (taken.block.requests index) = true := by
          rw [stored, server]
          simp [ServerSession.assigned]
        obtain ⟨framed, calmly⟩ := handle_framed taken index content
        have running := calmly (by rw [stored]; exact calm request rfl)
        obtain ⟨success, handled⟩ := handle_handled taken index content (by rw [stored]) assigned
          (by rw [took]; exact Function.update_self _ _ _)
        refine turned_of_due disk (taken.handle index content) index _ serving ?_
          (framed.server.trans server) ?_ ?_ ?_ ?_ ?_ ?_ ?_
        · rw [running, took]
          exact serving.running
        · rw [framed.ready, took]
          rfl
        · intro other distinct
          rw [framed.requests, took]
          exact Function.update_of_ne distinct _ _
        · intro other distinct
          rw [handled.flags, Function.update_of_ne distinct, took]
          exact Function.update_of_ne distinct _ _
        · rw [framed.requests, stored]
        · rw [handled.flags, Function.update_self]
        · rw [framed.server, framed.requests]
          exact assigned
        · rintro ⟨_, nothing⟩
          cases nothing
    | none =>
        rw [take_none disk index content submitted unused,
          handle_settled (disk.setFlags index ⟨false, false⟩) _ _ (Or.inl unused)]
        have skipped : (disk.setFlags index ⟨false, false⟩).answer index submitted =
            disk.setFlags index ⟨false, false⟩ := by
          apply if_neg
          rintro ⟨_, pending, _⟩
          rw [show ((disk.setFlags index ⟨false, false⟩).block.requests index).status = .raw from
            unused] at pending
          cases pending
        rw [skipped]
        refine ⟨⟨serving.running, fun other => ?_⟩, rfl, rfl, fun _ _ => rfl, ?_⟩
        · by_cases same : other = index
          · left
            rw [same]
            exact unused
          · simpa only [DiskWorld.setFlags, Function.update_of_ne same] using serving.slots other
        · exact iff_of_true unused (Or.inr ⟨unused, rfl⟩)
  · rw [take_pending disk index _ pending, handle_settled _ _ _ (Or.inr handled)]
    refine turned_of_due disk disk index _ serving serving.running rfl rfl (fun _ _ => rfl)
      (fun _ _ => rfl) pending handled assigned ?_
    rw [pending]
    rintro ⟨raw, _⟩
    cases raw

/-- The unused request objects among some of them. -/
def DiskWorld.unused (disk : DiskWorld) (slots : List RequestIndex) : Nat :=
  slots.countP fun index => decide ((disk.block.requests index).status = .raw)

def toCommand (entry : StreamRequest × Option Text) : Command :=
  .carryOut entry.1 entry.2

/-- What a sweep over some of the request objects takes from the stream, and which of them it
leaves unused. -/
structure Swept (submitted : RequestIndex → Bool) (world after : EventWorld)
    (slots : List RequestIndex) : Prop where
  serving : Serving after.disk
  others : ∀ other, other ∉ slots →
    after.disk.block.requests other = world.disk.block.requests other
  stream : after.stream = world.stream.drop (world.disk.unused slots)
  commands : after.disk.commands =
    world.disk.commands ++ (world.stream.take (world.disk.unused slots)).map toCommand
  finished : after.finished =
    if world.disk.unused slots = 0 then world.finished
    else decide (world.stream.length < world.disk.unused slots)
  freed : ∀ index ∈ slots, submitted index = true →
    (after.disk.block.requests index).status = .raw
  kept : (∀ index ∈ slots, submitted index = false) →
    after.disk.unused slots = world.disk.unused slots - world.stream.length

theorem unused_congr (disk after : DiskWorld) (slots : List RequestIndex)
    (same : ∀ index ∈ slots, after.block.requests index = disk.block.requests index) :
    after.unused slots = disk.unused slots := by
  unfold DiskWorld.unused
  apply List.countP_congr
  intro index member
  rw [same index member]

theorem unused_cons (disk : DiskWorld) (index : RequestIndex) (rest : List RequestIndex) :
    disk.unused (index :: rest) = disk.unused rest +
      if (disk.block.requests index).status = .raw then 1 else 0 := by
  simp [DiskWorld.unused, List.countP_cons]

/-- One turn in front of a sweep. -/
theorem Swept.cons {submitted : RequestIndex → Bool} {world next after : EventWorld}
    {index : RequestIndex} {rest : List RequestIndex} {input : TurnInput} (absent : index ∉ rest)
    (turned : Turned world.disk next.disk index input)
    (answered : input.submitted = submitted index) (swept : Swept submitted next after rest)
    (taken : List (StreamRequest × Option Text)) (stream : world.stream = taken ++ next.stream)
    (commands : next.disk.commands = world.disk.commands ++ taken.map toCommand)
    (free : (world.disk.block.requests index).status = .raw ∧
        next.finished = decide (taken = []) ∧ taken.length ≤ 1 ∧
        (taken = [] → next.stream = []) ∧ (input.arrived = none ↔ taken = []) ∨
      (world.disk.block.requests index).status ≠ .raw ∧ next.finished = world.finished ∧
        taken = []) : Swept submitted world after (index :: rest) := by
  have counted : next.disk.unused rest = world.disk.unused rest := by
    apply unused_congr
    intro other member
    apply turned.others
    intro same
    rw [same] at member
    exact absent member
  have others : ∀ other, other ∉ index :: rest →
      after.disk.block.requests other = world.disk.block.requests other := by
    intro other outside
    rw [List.mem_cons, not_or] at outside
    rw [swept.others other outside.2, turned.others other outside.1]
  have own : after.disk.block.requests index = next.disk.block.requests index :=
    swept.others index absent
  have freed : ∀ other ∈ index :: rest, submitted other = true →
      (after.disk.block.requests other).status = .raw := by
    intro other member goes
    rcases List.mem_cons.mp member with same | later
    · rw [same] at goes ⊢
      rw [own]
      exact turned.unused.mpr (Or.inl (answered.trans goes))
    · exact swept.freed other later goes
  have left (none_ : ∀ other ∈ index :: rest, submitted other = false) :
      after.disk.unused (index :: rest) = world.disk.unused rest - next.stream.length +
        if (world.disk.block.requests index).status = .raw ∧
            input.arrived = none then 1 else 0 := by
    have refused : input.submitted = false := answered.trans (none_ index List.mem_cons_self)
    have behind := swept.kept fun other later => none_ other (List.mem_cons_of_mem _ later)
    rw [unused_cons, behind, counted]
    simp only [own, turned.unused, refused, Bool.false_eq_true, false_or]
  obtain ⟨serving, _, drained, carried, ended, _, _⟩ := swept
  rw [counted] at drained carried ended
  rcases free with ⟨raw, found, single, last, taking⟩ | ⟨used, found, nothing⟩
  · have total : world.disk.unused (index :: rest) = world.disk.unused rest + 1 := by
      rw [unused_cons, if_pos raw]
    cases taken with
    | nil =>
        have empty := last rfl
        rw [empty] at drained carried ended stream
        rw [found] at ended
        rw [List.nil_append] at stream
        refine ⟨serving, others, ?_, ?_, ?_, freed, ?_⟩
        · rw [drained, stream, List.drop_nil, List.drop_nil]
        · rw [carried, commands, stream]
          simp
        · rw [ended, total, stream]
          simp only [decide_true, List.length_nil, Nat.add_one_ne_zero, if_false, Nat.succ_pos]
          split
          · rfl
          · rw [decide_eq_true_eq]
            omega
        · intro none_
          rw [left none_, if_pos ⟨raw, taking.mpr rfl⟩, total, stream, empty]
          rfl
    | cons entry more =>
        have alone : more = [] := by
          rw [List.length_cons] at single
          exact List.length_eq_zero_iff.mp (by omega)
        rw [alone, List.singleton_append] at stream
        rw [alone] at commands found
        refine ⟨serving, others, ?_, ?_, ?_, freed, ?_⟩
        · rw [drained, stream, total, List.drop_succ_cons]
        · rw [carried, commands, stream, total, List.take_succ_cons]
          simp
        · rw [ended, total, stream, found]
          simp only [List.length_cons, Nat.add_lt_add_iff_right, Nat.add_one_ne_zero, if_false]
          split
          · rename_i none_
            rw [none_]
            simp
          · rfl
        · intro none_
          have took : ¬((world.disk.block.requests index).status = .raw ∧ input.arrived = none) :=
            fun both => absurd (taking.mp both.2) (List.cons_ne_nil entry more)
          rw [left none_, if_neg took, total, stream, List.length_cons]
          omega
  · have total : world.disk.unused (index :: rest) = world.disk.unused rest := by
      rw [unused_cons, if_neg used, Nat.add_zero]
    rw [nothing, List.nil_append] at stream
    rw [nothing, List.map_nil, List.append_nil] at commands
    rw [← stream, commands] at carried
    rw [← stream] at drained ended
    rw [found] at ended
    refine ⟨serving, others, ?_, ?_, ?_, freed, ?_⟩
    · rw [drained, total]
    · rw [carried, total]
    · rw [ended, total]
    · intro none_
      rw [left none_, if_neg fun both => used both.1, total, stream, Nat.add_zero]

theorem Serving.swept (submitted : RequestIndex → Bool) (slots : List RequestIndex)
    (nodup : slots.Nodup) (world : EventWorld) (serving : Serving world.disk)
    (calm : ∀ entry ∈ world.stream, Calm entry.1) :
    Swept submitted world (world.sweepOver submitted slots) slots := by
  induction slots generalizing world with
  | nil =>
      refine ⟨serving, fun _ _ => rfl, ?_, ?_, ?_, ?_, ?_⟩ <;>
        simp [EventWorld.sweepOver, DiskWorld.unused]
  | cons index rest ih =>
      obtain ⟨absent, nodup⟩ := List.nodup_cons.mp nodup
      have running : ¬world.disk.halted = true := by simp [serving.running]
      obtain ⟨disk, stream, finished⟩ := world
      by_cases free : (disk.block.requests index).status = .raw
      · cases stream with
        | nil =>
            have turned := serving.turned index ⟨none, none, submitted index⟩ (by simp)
            have same : EventWorld.turn ⟨disk, [], finished⟩ index (submitted index) =
                ⟨disk.turn index ⟨none, none, submitted index⟩, [], true⟩ := by
              simp only [EventWorld.turn, if_neg running, if_pos free]
            rw [EventWorld.sweepOver, same]
            refine Swept.cons absent turned rfl (ih nodup _ turned.serving (by simp)) [] rfl ?_ ?_
            · rw [turn_commands, take_none _ _ _ _ free]
              simp [DiskWorld.setFlags]
            · exact Or.inl ⟨free, rfl, Nat.zero_le 1, fun _ => rfl,
                ⟨fun _ => rfl, fun _ => rfl⟩⟩
        | cons entry later =>
            obtain ⟨request, content⟩ := entry
            have calmly : Calm request := calm (request, content) List.mem_cons_self
            have turned := serving.turned index ⟨some request, content, submitted index⟩
              (fun other same => by
                rw [← Option.some.inj same]
                exact calmly)
            have same : EventWorld.turn ⟨disk, (request, content) :: later, finished⟩ index
                (submitted index) =
                ⟨disk.turn index ⟨some request, content, submitted index⟩, later, false⟩ := by
              simp only [EventWorld.turn, if_neg running, if_pos free]
            rw [EventWorld.sweepOver, same]
            refine Swept.cons absent turned rfl (ih nodup _ turned.serving ?_)
              [(request, content)] rfl ?_ ?_
            · intro other member
              exact calm other (List.mem_cons_of_mem _ member)
            · rw [turn_commands, take_some _ _ _ _ _ free]
              rfl
            · refine Or.inl ⟨free, rfl, Nat.le_refl 1, ?_, ?_, ?_⟩ <;> intro nothing <;>
                cases nothing
      · have turned := serving.turned index ⟨none, none, submitted index⟩ (by simp)
        have pending : (disk.block.requests index).status = .pending :=
          ((serving.slots index).resolve_left free).1
        have same : EventWorld.turn ⟨disk, stream, finished⟩ index (submitted index) =
            ⟨disk.turn index ⟨none, none, submitted index⟩, stream, finished⟩ := by
          simp only [EventWorld.turn, if_neg running, if_neg free]
        rw [EventWorld.sweepOver, same]
        refine Swept.cons absent turned rfl (ih nodup _ turned.serving calm) [] rfl ?_ ?_
        · rw [turn_commands, take_pending _ _ _ pending]
          simp
        · exact Or.inr ⟨free, rfl, rfl⟩

/-- Every request object there is. -/
abbrev allSlots : List RequestIndex := List.finRange 64

theorem Serving.sweep (world : EventWorld) (serving : Serving world.disk)
    (calm : ∀ entry ∈ world.stream, Calm entry.1) (submitted : RequestIndex → Bool) :
    Swept submitted world (world.sweep submitted) allSlots :=
  Serving.swept submitted allSlots (List.nodup_finRange 64) world serving calm

theorem Swept.finished_iff {submitted : RequestIndex → Bool} {world after : EventWorld}
    {slots : List RequestIndex} (swept : Swept submitted world after slots)
    (start : world.finished = false) :
    after.finished = true ↔ world.stream.length < world.disk.unused slots := by
  rw [swept.finished, start]
  split
  · rename_i none_
    rw [none_]
    exact ⟨fun impossible => absurd impossible Bool.false_ne_true,
      fun less => (Nat.not_lt_zero _ less).elim⟩
  · exact decide_eq_true_iff

theorem sweeps_cons (world : EventWorld) (submitted : RequestIndex → Bool)
    (rest : List (RequestIndex → Bool)) (running : (world.sweep submitted).disk.halted = false) :
    world.sweeps (submitted :: rest) =
      if (world.sweep submitted).finished then some (world.sweep submitted)
      else (world.sweep submitted).sweeps rest := by
  simp only [EventWorld.sweeps, running, Bool.false_or]

/-- When the loop returns, everything in the stream was taken, in its order. -/
theorem sweeps_drain (rounds : List (RequestIndex → Bool)) (world after : EventWorld)
    (serving : Serving world.disk) (calm : ∀ entry ∈ world.stream, Calm entry.1)
    (start : world.finished = false) (returned : world.sweeps rounds = some after) :
    after.stream = [] ∧
      after.disk.commands = world.disk.commands ++ world.stream.map toCommand := by
  induction rounds generalizing world with
  | nil => cases returned
  | cons submitted rest ih =>
      have swept := Serving.sweep world serving calm submitted
      rw [sweeps_cons world submitted rest swept.serving.running] at returned
      split at returned
      · rename_i finished
        have enough := Nat.le_of_lt ((swept.finished_iff start).mp finished)
        rw [← Option.some.inj returned, swept.stream, swept.commands]
        rw [List.drop_eq_nil_of_le enough, List.take_of_length_le enough]
        exact ⟨rfl, rfl⟩
      · rename_i unfinished
        obtain ⟨empty, commands⟩ := ih (world.sweep submitted) swept.serving
          (fun entry member => calm entry (by
            rw [swept.stream] at member
            exact List.mem_of_mem_drop member))
          (Bool.eq_false_iff.mpr unfinished) returned
        refine ⟨empty, ?_⟩
        rw [commands, swept.commands, swept.stream, List.append_assoc, ← List.map_append,
          List.take_append_drop]

theorem unused_all {disk : DiskWorld} (raw : ∀ index, (disk.block.requests index).status = .raw) :
    disk.unused allSlots = 64 := by
  have counted : disk.unused allSlots = allSlots.length := by
    rw [DiskWorld.unused, List.countP_eq_length]
    intro index _
    exact decide_eq_true (raw index)
  rw [counted, List.length_finRange]

/-- With room for every acknowledgement, a sweep takes 64 requests. -/
theorem sweeps_return (count : Nat) (world : EventWorld) (serving : Serving world.disk)
    (calm : ∀ entry ∈ world.stream, Calm entry.1) (start : world.finished = false)
    (raw : ∀ index, (world.disk.block.requests index).status = .raw)
    (enough : world.stream.length / 64 < count) :
    ∃ after, world.sweeps (List.replicate count fun _ => true) = some after ∧
      ∀ index, (after.disk.block.requests index).status = .raw := by
  induction count generalizing world with
  | zero => omega
  | succ count ih =>
      have swept := Serving.sweep world serving calm fun _ => true
      have freed index := swept.freed index (List.mem_finRange index) rfl
      rw [List.replicate_succ, sweeps_cons world _ _ swept.serving.running]
      by_cases finished : (world.sweep fun _ => true).finished = true
      · exact ⟨_, if_pos finished, freed⟩
      · rw [if_neg finished]
        have many := mt (swept.finished_iff start).mpr finished
        have length := congrArg List.length swept.stream
        rw [unused_all raw] at many length
        rw [List.length_drop] at length
        apply ih _ swept.serving _ (Bool.eq_false_iff.mpr finished) freed
        · omega
        · intro entry member
          rw [swept.stream] at member
          exact calm entry (List.mem_of_mem_drop member)

/-- Without room for an acknowledgement, request objects that are all in use stay so, and the loop
goes on for ever. -/
theorem sweeps_spin (count : Nat) (world : EventWorld) (serving : Serving world.disk)
    (calm : ∀ entry ∈ world.stream, Calm entry.1) (start : world.finished = false)
    (used : world.disk.unused allSlots = 0) :
    world.sweeps (List.replicate count fun _ => false) = none := by
  induction count generalizing world with
  | zero => rfl
  | succ count ih =>
      have swept := Serving.sweep world serving calm fun _ => false
      have unfinished : ¬(world.sweep fun _ => false).finished = true := by
        rw [swept.finished_iff start, used]
        omega
      rw [List.replicate_succ, sweeps_cons world _ _ swept.serving.running, if_neg unfinished]
      apply ih _ swept.serving _ (Bool.eq_false_iff.mpr unfinished)
      · rw [swept.kept fun _ _ => rfl, used, Nat.zero_sub]
      · intro entry member
        rw [swept.stream] at member
        exact calm entry (List.mem_of_mem_drop member)

theorem unused_add_held {disk : DiskWorld} (serving : Serving disk) :
    disk.unused allSlots + disk.held.length = 64 := by
  have held : disk.held.length = allSlots.countP fun index =>
      decide ¬decide ((disk.block.requests index).status = .raw) = true := by
    rw [DiskWorld.held, Slots.held, List.length_filterMap_eq_countP]
    apply List.countP_congr
    intro index _
    rcases serving.slots index with raw | ⟨pending, _⟩
    · simp [DiskWorld.pendingItem, DiskWorld.elements, raw]
    · simp [DiskWorld.pendingItem, DiskWorld.elements, pending]
  rw [held, DiskWorld.unused, ← List.length_eq_countP_add_countP, List.length_finRange]

/-- Every request object in use carries the index 42, and so does a server session that is ready. -/
structure Tagged (disk : DiskWorld) : Prop where
  server : disk.ready = true → disk.block.server.tag = some 42
  slots : ∀ index, (disk.block.requests index).status ≠ .raw →
    (disk.block.requests index).session = some 42

theorem answer_slot (disk : DiskWorld) (index : RequestIndex) (submitted : Bool) :
    let after := disk.answer index submitted
    after.ready = disk.ready ∧ after.block.server = disk.block.server ∧
      ∀ other, (after.block.requests other).session = (disk.block.requests other).session ∧
        ((disk.block.requests other).status = .raw →
          (after.block.requests other).status = .raw) := by
  intro after
  by_cases due : disk.halted = false ∧ (disk.block.requests index).status = .pending ∧
      disk.block.server.assigned (disk.block.requests index) = true ∧
      (disk.flags index).handled = true
  · obtain ⟨_, server, ready, _, others, session, _⟩ :=
      answer_due disk index submitted due.1 due.2.1 due.2.2.2 due.2.2.1
    refine ⟨ready, server, fun other => ?_⟩
    by_cases same : other = index
    · rw [same]
      refine ⟨session, fun raw => ?_⟩
      rw [due.2.1] at raw
      cases raw
    · rw [others other same]
      exact ⟨rfl, id⟩
  · have skipped : after = disk := if_neg due
    rw [skipped]
    exact ⟨rfl, rfl, fun _ => ⟨rfl, id⟩⟩

theorem Tagged.take {disk : DiskWorld} (tagged : Tagged disk) (ready : disk.ready = true)
    (index : RequestIndex) (input : TurnInput) : Tagged (disk.take index input) := by
  obtain ⟨arrived, content, submitted⟩ := input
  by_cases unused : (disk.block.requests index).status = .raw
  · cases arrived with
    | none =>
        rw [take_none disk index content submitted unused]
        exact ⟨tagged.server, tagged.slots⟩
    | some request =>
        rw [take_some disk index request content submitted unused]
        refine ⟨tagged.server, fun other used => ?_⟩
        by_cases same : other = index
        · rw [same]
          simp only [process_stored]
          exact tagged.server ready
        · simp only [ServerWorld.process, Function.update_of_ne same] at used ⊢
          exact tagged.slots other used
  · simpa only [DiskWorld.take, if_neg unused] using tagged

theorem Tagged.step {disk : DiskWorld} (tagged : Tagged disk) (input : DiskInput) :
    Tagged (disk.step input) := by
  cases input with
  | turn index input =>
      simp only [DiskWorld.step]
      split
      · rename_i allowed
        have taken := tagged.take allowed.2.1 index input
        have framed := (handle_framed (disk.take index input) index input.content).1
        obtain ⟨ready, server, slots⟩ :=
          answer_slot ((disk.take index input).handle index input.content) index input.submitted
        constructor
        · intro isReady
          rw [DiskWorld.turn, ready, framed.ready] at isReady
          rw [DiskWorld.turn, server, framed.server]
          exact taken.server isReady
        · intro other used
          rw [DiskWorld.turn, (slots other).1, framed.requests]
          apply taken.slots
          intro raw
          apply used
          apply (slots other).2
          rw [framed.requests]
          exact raw
      · exact tagged
  | request dispatched =>
      simp only [DiskWorld.step]
      split
      · exact tagged
      · cases dispatched with
        | session created =>
            simp only [DiskWorld.request]
            split
            · refine ⟨fun _ => ?_, ?_⟩
              · simp only [DiskWorld.sessionInitialize, ServerWorld.sessionInitialize]
                split
                · rfl
                · split <;> rfl
              · simp only [DiskWorld.sessionInitialize, ServerWorld.sessionInitialize_requests]
                exact tagged.slots
            · exact tagged
        | close own =>
            simp only [DiskWorld.request]
            split
            · rename_i closed
              refine ⟨fun impossible => absurd impossible Bool.false_ne_true, ?_⟩
              simp only [ServerWorld.sessionCleanup, if_pos closed]
              exact tagged.slots
            · exact tagged

theorem serving_of_run (log : Bool) (memory : Nat → UInt8) (inputs : List DiskInput) :
    let disk := run DiskWorld.step (DiskWorld.initial log memory) inputs
    disk.halted = false → disk.ready = true → Serving disk := by
  intro disk running ready
  have tagged : Tagged disk := run_invariant DiskWorld.step Tagged
    (fun _ input holds => holds.step input) _ inputs
    ⟨fun impossible => absurd impossible Bool.false_ne_true, fun _ used => (used rfl).elim⟩
  have follows : Follows memory disk := run_invariant DiskWorld.step (Follows memory)
    (fun _ input holds => holds.step input) _ inputs (follows_initial log memory)
  refine ⟨running, fun index => ?_⟩
  rcases follows.settled index with raw | ⟨pending, handled⟩
  · exact Or.inl raw
  · refine Or.inr ⟨pending, handled, decide_eq_true ?_⟩
    rw [tagged.server ready, tagged.slots index (by simp [pending])]

theorem follows_sweepOver {memory : Nat → UInt8} (submitted : RequestIndex → Bool)
    (slots : List RequestIndex) (world : EventWorld) (follows : Follows memory world.disk) :
    Follows memory (world.sweepOver submitted slots).disk := by
  induction slots generalizing world with
  | nil => exact follows
  | cons index rest ih =>
      apply ih
      unfold EventWorld.turn
      split
      · exact follows
      · split
        · split <;> exact follows.turn index _
        · exact follows.turn index _

theorem follows_sweeps {memory : Nat → UInt8} (rounds : List (RequestIndex → Bool))
    (world after : EventWorld) (follows : Follows memory world.disk)
    (returned : world.sweeps rounds = some after) : Follows memory after.disk := by
  induction rounds generalizing world with
  | nil => cases returned
  | cons submitted rest ih =>
      have swept := follows_sweepOver submitted allSlots world follows
      simp only [EventWorld.sweeps] at returned
      split at returned
      · rw [← Option.some.inj returned]
        exact swept
      · exact ih _ swept returned

theorem held_nil {disk : DiskWorld}
    (raw : ∀ index, (disk.block.requests index).status = .raw) : disk.held = [] := by
  unfold DiskWorld.held Slots.held
  rw [List.filterMap_eq_nil_iff]
  intro index _
  simp [DiskWorld.pendingItem, DiskWorld.elements, raw index]

/-- The component behind its first session request. -/
def openedDisk : List DiskInput := [.request (.session true)]

def readFirst : StreamRequest × Option Text := (⟨1, 0, 1, false, 0, 3⟩, some [])

theorem calm_readFirst (count : Nat) : ∀ entry ∈ List.replicate count readFirst, Calm entry.1 := by
  intro entry member
  rw [List.eq_of_mem_replicate member]
  exact fun _ => by decide

/-- Whenever `Event` returns, it has accepted everything in the stream, in its order. With room for
the acknowledgements it returns, and then every request ever accepted is acknowledged with its
outcome. -/
theorem event_serves_stream (log : Bool) (memory : Nat → UInt8) (inputs : List DiskInput)
    (stream : List (StreamRequest × Option Text)) :
    let disk := run DiskWorld.step (DiskWorld.initial log memory) inputs
    disk.halted = false → disk.ready = true → disk.block.server.initialized = true →
    (∀ entry ∈ stream, Calm entry.1) →
      (∀ rounds after, disk.event stream rounds = some after →
        after.stream = [] ∧ after.disk.commands = disk.commands ++ stream.map toCommand) ∧
      ∃ after, disk.event stream (List.replicate (stream.length / 64 + 2) fun _ => true) =
          some after ∧ after.disk.held = [] ∧
        after.disk.acknowledged.Perm
          (run Device.perform (Device.initial memory) after.disk.commands).outcomes := by
  intro disk running ready initialized calm
  have serving : Serving disk := serving_of_run log memory inputs running ready
  have follows : Follows memory disk := run_invariant DiskWorld.step (Follows memory)
    (fun _ input holds => holds.step input) _ inputs (follows_initial log memory)
  have entered (rounds : List (RequestIndex → Bool)) : disk.event stream rounds =
      EventWorld.sweeps ⟨disk, stream, false⟩ rounds := if_pos ⟨ready, initialized⟩
  constructor
  · intro rounds after returned
    rw [entered] at returned
    exact sweeps_drain rounds _ after serving calm rfl returned
  · -- The first sweep may only free the request objects; the later ones find all of them unused.
    have swept := Serving.sweep ⟨disk, stream, false⟩ serving calm fun _ => true
    have freed index := swept.freed index (List.mem_finRange index) rfl
    have returns : ∃ after, EventWorld.sweeps ⟨disk, stream, false⟩
        (List.replicate (stream.length / 64 + 2) fun _ => true) = some after ∧
          ∀ index, (after.disk.block.requests index).status = .raw := by
      rw [List.replicate_succ, sweeps_cons _ _ _ swept.serving.running]
      by_cases finished : (EventWorld.sweep ⟨disk, stream, false⟩ fun _ => true).finished = true
      · exact ⟨_, if_pos finished, freed⟩
      · rw [if_neg finished]
        have length := congrArg List.length swept.stream
        simp only [List.length_drop] at length
        apply sweeps_return _ _ swept.serving _ (Bool.eq_false_iff.mpr finished) freed
        · have shorter : (EventWorld.sweep ⟨disk, stream, false⟩ fun _ => true).stream.length / 64 ≤
              stream.length / 64 := Nat.div_le_div_right (by omega)
          omega
        · intro entry member
          rw [swept.stream] at member
          exact calm entry (List.mem_of_mem_drop member)
    obtain ⟨after, returned, raw⟩ := returns
    have nothing := held_nil raw
    have outcomes := (follows_sweeps _ _ after follows returned).outcomes
    rw [nothing, List.append_nil] at outcomes
    exact ⟨after, (entered _).trans returned, nothing, outcomes⟩

theorem hundred_requests_served :
    ∃ after, (run DiskWorld.step (DiskWorld.initial true fun _ => 0) openedDisk).event
      (List.replicate 100 readFirst) (List.replicate 3 fun _ => true) = some after ∧
        after.disk.held = [] := by
  obtain ⟨_, after, returned, nothing, _⟩ := event_serves_stream true (fun _ => 0) openedDisk
    (List.replicate 100 readFirst) rfl rfl rfl (calm_readFirst 100)
  rw [List.length_replicate] at returned
  exact ⟨after, returned, nothing⟩

/-- With no room for an acknowledgement, `Event` returns if and only if the requests held and those
in the stream leave one of the 64 request objects unused. -/
theorem event_returns_iff (log : Bool) (memory : Nat → UInt8) (inputs : List DiskInput)
    (stream : List (StreamRequest × Option Text)) :
    let disk := run DiskWorld.step (DiskWorld.initial log memory) inputs
    disk.halted = false → disk.ready = true → disk.block.server.initialized = true →
    (∀ entry ∈ stream, Calm entry.1) →
      ((∃ count, (disk.event stream (List.replicate count fun _ => false)).isSome = true) ↔
        disk.held.length + stream.length < 64) := by
  intro disk running ready initialized calm
  have serving : Serving disk := serving_of_run log memory inputs running ready
  have total := unused_add_held serving
  have swept := Serving.sweep ⟨disk, stream, false⟩ serving calm fun _ => false
  have finished_iff : _ ↔ stream.length < disk.unused allSlots := swept.finished_iff rfl
  have kept : _ = disk.unused allSlots - stream.length := swept.kept fun _ _ => rfl
  have entered (rounds : List (RequestIndex → Bool)) : disk.event stream rounds =
      EventWorld.sweeps ⟨disk, stream, false⟩ rounds := if_pos ⟨ready, initialized⟩
  constructor
  · rintro ⟨count, returned⟩
    by_contra full
    cases count with
    | zero =>
        rw [entered] at returned
        cases returned
    | succ count =>
        have unfinished : ¬(EventWorld.sweep ⟨disk, stream, false⟩ fun _ => false).finished =
            true := by
          rw [finished_iff]
          omega
        have spins := sweeps_spin count _ swept.serving
          (fun entry member => calm entry (by
            rw [swept.stream] at member
            exact List.mem_of_mem_drop member))
          (Bool.eq_false_iff.mpr unfinished)
          (by
            rw [kept]
            omega)
        rw [entered, List.replicate_succ, sweeps_cons _ _ _ swept.serving.running,
          if_neg unfinished, spins] at returned
        cases returned
  · intro room
    refine ⟨1, ?_⟩
    have finished := finished_iff.mpr (by omega)
    rw [entered, List.replicate_one, sweeps_cons _ _ _ swept.serving.running, if_pos finished]
    rfl

theorem full_cache_spins : ¬∃ count,
    ((run DiskWorld.step (DiskWorld.initial true fun _ => 0) openedDisk).event
      (List.replicate 64 readFirst) (List.replicate count fun _ => false)).isSome = true := by
  rw [event_returns_iff true (fun _ => 0) openedDisk (List.replicate 64 readFirst) rfl rfl rfl
    (calm_readFirst 64), List.length_replicate]
  omega

end Gneiss.Genode.RamDisk
