import Gneiss.Broker.Attribution
import Mathlib.Data.Fin.Tuple.Basic

/-!
Who is who. A live component sits in an element whose name can be read, it keeps its slot for its
whole life, and a slot whose component exited is never used again. Looking a name up finds the
first live component that has it.
-/

namespace Gneiss

open Descriptors Runs

variable {sxml : Sxml} {size : Nat}

def Live (state : BrokerState sxml size) (index : Fin size) : Prop :=
  valid (state.components index).fd = true

def componentName (state : BrokerState sxml size) (index : Fin size) : Option Text :=
  sxml.attributeValue (state.components index).node state.xml (ascii "name")

def Identified (state : BrokerState sxml size) : Prop :=
  ∀ index, Live state index →
    sxml.isOpen (state.components index).node state.xml = true ∧
      (sxml.getAttribute (state.components index).node state.xml (ascii "name") 255).1 = .ok

theorem Identified.named {state : BrokerState sxml size} (identified : Identified state)
    {index : Fin size} (live : Live state index) :
    ∃ name, componentName state index = some name ∧ name.length ≤ 255 ∧
      sxml.getAttribute (state.components index).node state.xml (ascii "name") 255 =
        (.ok, name) := by
  obtain ⟨opened, readable⟩ := identified index live
  rcases read : sxml.getAttribute (state.components index).node state.xml (ascii "name") 255 with
    ⟨result, name⟩
  rw [read] at readable
  simp only at readable
  subst readable
  obtain ⟨value, short⟩ := (sxml.getAttribute_ok_iff _ _ _ _ _ opened).mp read
  exact ⟨name, value, short, rfl⟩

theorem compare_iff (value constrained : Text) :
    compare value constrained = true ↔ value = constrained ∧ constrained ≠ [] := by
  simp only [compare, Bool.and_eq_true, decide_eq_true_eq]
  constructor
  · rintro ⟨⟨⟨positive, _⟩, _⟩, same⟩
    exact ⟨same, List.length_pos_iff.mp positive⟩
  · rintro ⟨rfl, nonempty⟩
    exact ⟨⟨⟨List.length_pos_iff.mpr nonempty, List.length_pos_iff.mpr nonempty⟩, rfl⟩, rfl⟩

theorem Identified.named_iff {state : BrokerState sxml size} (identified : Identified state)
    {index : Fin size} (live : Live state index) (name : Text) :
    Gneiss.named state.xml (state.components index).node name = true ↔
      componentName state index = some name ∧ name ≠ [] := by
  obtain ⟨actual, called, _, read⟩ := identified.named live
  simp only [Gneiss.named, read, decide_true, Bool.true_and, compare_iff, called, Option.some.injEq]

/-- `Find_Component_By_Name` finds the first live component with the name. -/
theorem Identified.findComponentByName_iff {state : BrokerState sxml size}
    (identified : Identified state) (name : Text) (index : Fin size) :
    findComponentByName state name = some index ↔
      name ≠ [] ∧ Live state index ∧ componentName state index = some name ∧
        ∀ earlier < index, Live state earlier → componentName state earlier ≠ some name := by
  unfold findComponentByName
  split
  · rename_i empty
    simp [empty]
  · rename_i nonempty
    rw [← Fin.find?_eq_find?_finRange, Fin.find?_eq_some_iff]
    have holds : ∀ other, (valid (state.components other).fd &&
        Gneiss.named state.xml (state.components other).node name) = true ↔
        Live state other ∧ componentName state other = some name := by
      intro other
      rw [Bool.and_eq_true]
      constructor
      · rintro ⟨live, called⟩
        exact ⟨live, ((identified.named_iff live name).mp called).1⟩
      · rintro ⟨live, called⟩
        exact ⟨live, (identified.named_iff live name).mpr ⟨called, nonempty⟩⟩
    constructor
    · rintro ⟨found, first⟩
      obtain ⟨live, called⟩ := (holds index).mp found
      refine ⟨nonempty, live, called, ?_⟩
      intro earlier before earlierLive earlierCalled
      have missed := first earlier before
      rw [(holds earlier).mpr ⟨earlierLive, earlierCalled⟩] at missed
      cases missed
    · rintro ⟨_, live, called, first⟩
      refine ⟨(holds index).mpr ⟨live, called⟩, ?_⟩
      intro earlier before
      rw [Bool.eq_false_iff]
      intro found
      obtain ⟨earlierLive, earlierCalled⟩ := (holds earlier).mp found
      exact first earlier before earlierLive earlierCalled

/-! Slots over time. -/

structure Persists (before after : World sxml size) : Prop where
  xml : after.state.xml = before.state.xml
  control : ∀ index, Live after.state index →
    (after.state.components index).fd = (before.state.components index).fd
  node : ∀ index, Live after.state index →
    (after.state.components index).node = (before.state.components index).node
  service : ∀ index kind, serviceThere before.state index kind = true →
    (after.state.components index).serv kind = (before.state.components index).serv kind

theorem Persists.refl (world : World sxml size) : Persists world world :=
  ⟨rfl, fun _ _ => rfl, fun _ _ => rfl, fun _ _ _ => rfl⟩

theorem Persists.live {before after : World sxml size} (persists : Persists before after)
    {index : Fin size} (live : Live after.state index) : Live before.state index := by
  have same := persists.control index live
  simp only [Live, same] at live ⊢
  exact live

theorem Persists.trans {first second third : World sxml size} (before : Persists first second)
    (after : Persists second third) : Persists first third where
  xml := after.xml.trans before.xml
  control index live := (after.control index live).trans (before.control index (after.live live))
  node index live := (after.node index live).trans (before.node index (after.live live))
  service index kind there := by
    have same := before.service index kind there
    exact (after.service index kind ((serviceThere_congr same).trans there)).trans same

theorem Persists.name {before after : World sxml size} (persists : Persists before after)
    {index : Fin size} (live : Live after.state index) :
    componentName after.state index = componentName before.state index := by
  simp only [componentName, persists.xml, persists.node index live]

theorem Persists.identified {before after : World sxml size} (persists : Persists before after)
    (identified : Identified before.state) : Identified after.state := by
  intro index live
  rw [persists.node index live, persists.xml]
  exact identified index (persists.live live)

theorem Frame.persists {before after : World sxml size} (frame : Frame before after) :
    Persists before after :=
  ⟨frame.xml, fun index _ => frame.control index, fun index _ => frame.node index, frame.service⟩

theorem readMessage_persists (generated : GeneratedPacket) (world : World sxml size)
    (index : Fin size) (delivery : Delivery) (outcome : Outcome) (paired : Paired world.state) :
    Persists world (readMessage generated world index delivery outcome) := by
  rcases readMessage_cases generated world index delivery outcome with
    ⟨_, same⟩ | ⟨action, kind, name, label, _, same⟩
  · rw [same]
    have frame : Frame world (World.closeAll
        { world with table := (world.table.receive delivery.fds).1 }
        (received world delivery)) := by
      refine Frame.of_state ?_ ?_
      · rw [World.closeAll_state]
      · rw [World.closeAll_handled]
    exact frame.persists
  · rw [same]
    have frame := handleMessage_frame
      (admitted world ⟨index, action, kind, name.text, label.text, received world delivery⟩
        delivery)
      index action kind name.text label.text (received world delivery) outcome paired
    exact ⟨frame.xml, fun other _ => frame.control other, fun other _ => frame.node other,
      frame.service⟩

theorem readMessage_control (generated : GeneratedPacket) (world : World sxml size)
    (index other : Fin size) (delivery : Delivery) (outcome : Outcome)
    (paired : Paired world.state) :
    ((readMessage generated world index delivery outcome).state.components other).fd =
      (world.state.components other).fd := by
  rcases readMessage_cases generated world index delivery outcome with
    ⟨_, same⟩ | ⟨action, kind, name, label, _, same⟩
  · rw [same, World.closeAll_state]
  · rw [same]
    exact (handleMessage_frame
      (admitted world ⟨index, action, kind, name.text, label.text, received world delivery⟩
        delivery)
      index action kind name.text label.text (received world delivery) outcome paired).control other

theorem hangUp_state (world : World sxml size) (index : Fin size) (outcome : Outcome) :
    (hangUp world index outcome).state = (world.setComponent index
      { world.state.components index with
        fd := -1, node := sxml.init world.state.xml, pid := -1 }).state := by
  simp only [hangUp, World.setComponent, World.close_state]
  split <;> rfl

theorem hangUp_dead (world : World sxml size) (index : Fin size) (outcome : Outcome) :
    ¬Live (hangUp world index outcome).state index := by
  rw [hangUp_state]
  simp [Live, World.setComponent]

theorem hangUp_component (world : World sxml size) (index other : Fin size) (outcome : Outcome)
    (different : other ≠ index) :
    (hangUp world index outcome).state.components other = world.state.components other := by
  rw [hangUp_state]
  simp [World.setComponent, different]

theorem hangUp_persists (world : World sxml size) (index : Fin size) (outcome : Outcome) :
    Persists world (hangUp world index outcome) := by
  have elsewhere : ∀ other, Live (hangUp world index outcome).state other → other ≠ index := by
    rintro other live rfl
    exact hangUp_dead world other outcome live
  refine ⟨?_, ?_, ?_, ?_⟩
  · rw [hangUp_state]
    rfl
  · intro other live
    rw [hangUp_component world index other outcome (elsewhere other live)]
  · intro other live
    rw [hangUp_component world index other outcome (elsewhere other live)]
  · intro other kind _
    by_cases same : other = index
    · subst same
      rw [hangUp_state]
      simp [World.setComponent]
    · rw [hangUp_component world index other outcome same]

theorem eventLoopStep_persists (generated : GeneratedPacket) (world : World sxml size)
    (input : Input) (paired : Paired world.state) :
    Persists world (eventLoopStep generated world input) := by
  apply eventLoopStep_invariant (Persists world)
  · exact Persists.refl world
  · intro index
    exact readMessage_persists generated world index input.delivery input.outcome paired
  · exact fun middle index handled => handled.trans (hangUp_persists middle index input.outcome)

theorem eventLoop_persists (generated : GeneratedPacket) (world : World sxml size)
    (inputs : List Input) (ownership : Ownership world) :
    Persists world (eventLoop generated world inputs) := by
  refine run_related (eventLoopStep generated) Ownership Persists ?_ Persists.refl ?_ ?_ world
    inputs ownership
  · exact fun state input owned => owned.eventLoopStep generated input
  · exact fun first second third before after => before.trans after
  · exact fun state input owned => eventLoopStep_persists generated state input owned.paired

/-! Start-up puts a component only where its name can be read. -/

theorem construct_identified (boot : Boot sxml size) (world : World sxml size)
    (constructed : construct boot = some world) : Identified world.state := by
  refine construct_preserves boot world (fun world => Identified world.state) ?_ ?_ ?_ ?_
    constructed
  · intro table epollFd _ index live
    cases live
  · intro slot middle identified index live
    by_cases same : index = slot
    · subst same
      simp [Live, World.setComponent] at live
    · simp only [Live, World.setComponent, Function.update_of_ne same] at live ⊢
      exact identified index live
  · intro slot middle broker fd add identified index live
    by_cases same : index = slot
    · subst same
      simp [Live, aborted, World.setComponent] at live
    · simp only [Live, aborted, connected, World.setComponent, Function.update_of_ne same] at live ⊢
      exact identified index live
  · intro slot middle query broker fd launch identified opened readable index live
    by_cases same : index = slot
    · subst same
      simp only [started, connected, World.setComponent, World.close_state, Function.update_self]
      exact ⟨opened, readable⟩
    · simp only [Live, started, connected, World.setComponent, World.close_state,
        Function.update_of_ne same] at live ⊢
      exact identified index live

theorem construct_silent (boot : Boot sxml size) (world : World sxml size)
    (constructed : construct boot = some world) : world.sent = [] := by
  refine construct_preserves boot world (fun world => world.sent = []) ?_ ?_ ?_ ?_ constructed
  · exact fun _ _ _ => rfl
  · exact fun _ _ silent => silent
  · exact fun _ _ _ _ _ silent => silent
  · intro slot middle query broker fd launch silent _ _
    simp only [started, World.close_sent]
    exact silent

theorem reachable_identified (generated : GeneratedPacket) (world : World sxml size)
    (reachable : Reachable generated world) : Identified world.state := by
  obtain ⟨boot, start, inputs, constructed, rfl⟩ := reachable
  have persists := eventLoop_persists generated start inputs
    (construct_ownership boot start constructed)
  exact persists.identified (construct_identified boot start constructed)

def ReachableState (generated : GeneratedPacket) (state : BrokerState sxml size) : Prop :=
  ∃ world, Reachable generated world ∧ world.state = state

theorem ReachableState.paired {generated : GeneratedPacket} {state : BrokerState sxml size}
    (reachable : ReachableState generated state) : Paired state := by
  obtain ⟨world, reached, rfl⟩ := reachable
  exact (reachable_ownership generated world reached).paired

theorem ReachableState.identified {generated : GeneratedPacket} {state : BrokerState sxml size}
    (reachable : ReachableState generated state) : Identified state := by
  obtain ⟨world, reached, rfl⟩ := reachable
  exact reachable_identified generated world reached

theorem sample_reachableState : ReachableState referencePacket sampleWorld.state :=
  ⟨sampleWorld, sample_reachable referencePacket, rfl⟩

theorem sample_live (index : Fin 2) : Live sampleWorld.state index := by
  unfold Live
  revert index
  decide +kernel

end Gneiss
