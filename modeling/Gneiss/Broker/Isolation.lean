import Gneiss.Broker.StartupRuns

/-!
What a component process inherits. `Gneiss.Config.Load` opens and closes the configuration file
before anything else, every turn of the start loop leaves the broker's end of one socket open, and
the forked process closes the epoll descriptor and all these ends before it calls
`Gneiss.Main.Run`.
-/

namespace Gneiss

open Descriptors

variable {sxml : Sxml} {size : Nat}

/-- `Gneiss.Config.Load`: the table afterwards, and whether the file was parsed. -/
def configLoad (table : Table) (file : Option Int) (mapped : Bool) : Table × Bool :=
  let (table, fd) := table.allocate file
  if valid fd = false then (table, false)
  else if mapped = false then (table.close fd, false)
  else (table.close fd, true)

/-- `Construct` up to the return of `Start_Components`; the flag is `Parent`. -/
def startup (boot : Boot sxml size) : Option (World sxml size × Bool) :=
  if sxml.isOpen (sxml.init boot.xml) boot.xml = false then none
  else
    let (table, epollFd) := Table.allocate ⟨boot.opened, []⟩ boot.epollOffer
    if valid epollFd = false then none
    else some (startComponents boot.launches (sxml.init boot.xml) (blank boot table epollFd))

theorem construct_eq_startup (boot : Boot sxml size) :
    construct boot = (startup boot).bind fun result =>
      if result.2 = true then some result.1 else none := by
  unfold construct startup
  simp only
  split
  · rfl
  · split <;> rfl

theorem mem_configLoad (table : Table) (file : Option Int) (mapped : Bool) (other : Int)
    (open_ : valid other = true) :
    other ∈ (configLoad table file mapped).1.opened ↔ other ∈ table.opened := by
  unfold configLoad
  rcases allocate_cases table file with failed | ⟨fd, _, fresh, granted⟩
  · simp [failed]
  · rw [granted]
    have facts := (fresh_iff table fd).mp fresh
    have closed : other ∈ ((table.insert fd).close fd).opened ↔ other ∈ table.opened := by
      rw [mem_close _ _ _ open_, mem_insert]
      constructor
      · rintro ⟨same | before, different⟩
        · exact (different same).elim
        · exact before
      · intro before
        refine ⟨Or.inr before, ?_⟩
        rintro rfl
        exact facts.2 before
    cases mapped with
    | false => simpa [facts.1] using closed
    | true => simpa [facts.1] using closed

/-! The loop in `Load` closes the broker's end of every slot. -/

theorem mem_foldl_close (world : World sxml size) (indices : List (Fin size)) (other : Int)
    (open_ : valid other = true) :
    other ∈ (indices.foldl (fun world index =>
        let component := world.state.components index
        (world.close component.fd).setComponent index
          { component with node := sxml.invalidState, fd := -1 }) world).table.opened ↔
      other ∈ world.table.opened ∧
        ∀ index ∈ indices, (world.state.components index).fd ≠ other := by
  induction indices generalizing world with
  | nil => simp
  | cons index rest ih =>
      have negative := (ne_of_valid open_).symm
      rw [List.foldl_cons, ih, List.forall_mem_cons]
      simp only [World.setComponent, World.close_table, World.close_state,
        mem_close _ _ _ open_, and_assoc]
      refine and_congr_right fun _ => ?_
      rw [ne_comm]
      refine and_congr_right fun first => ?_
      constructor
      · intro different later member
        by_cases same : later = index
        · rw [same]
          exact first
        · have kept := different later member
          rwa [Function.update_of_ne same] at kept
      · intro different later member
        by_cases same : later = index
        · subst same
          rw [Function.update_self]
          exact negative
        · rw [Function.update_of_ne same]
          exact different later member

theorem mem_load (world : World sxml size) (other : Int) (open_ : valid other = true) :
    other ∈ (load world).table.opened ↔
      other ∈ world.table.opened ∧ ∀ slot, (world.state.components slot).fd ≠ other := by
  unfold load
  rw [mem_foldl_close world _ other open_]
  simp

/-! Before each turn of the start loop the table holds what was there at the beginning, the epoll
descriptor, and the broker's end of every slot filled so far. -/

structure Inherits (inherited : List Int) (epollFd : Int) (index : Nat)
    (world : World sxml size) : Prop where
  epoll : world.state.epollFd = epollFd
  opened : ∀ other, valid other = true → (other ∈ world.table.opened ↔
    other ∈ inherited ∨ other = epollFd ∨ ∃ slot, (world.state.components slot).fd = other)
  created : ∀ slot, valid (world.state.components slot).fd = true →
    (world.state.components slot).fd ∉ inherited
  unused : ∀ slot : Fin size, index ≤ slot.val → (world.state.components slot).fd = -1

variable {inherited : List Int} {epollFd : Int}

theorem Inherits.skip {index : Nat} {world : World sxml size}
    (holds : Inherits inherited epollFd index world) :
    Inherits inherited epollFd (index + 1) world :=
  ⟨holds.epoll, holds.opened, holds.created, fun slot bound => holds.unused slot (by omega)⟩

theorem setComponent_same_fd (world : World sxml size) (slot : Fin size) (fd : Int)
    (same : (world.state.components slot).fd = fd) (other : Fin size) :
    ((world.setComponent slot { world.state.components slot with fd := fd }).state.components
      other).fd = (world.state.components other).fd := by
  simp only [World.setComponent]
  by_cases equal : other = slot
  · rw [equal, Function.update_self, same]
  · rw [Function.update_of_ne equal]

theorem Inherits.unconnected {slot : Fin size} {world : World sxml size}
    (holds : Inherits inherited epollFd slot world) :
    Inherits inherited epollFd (slot + 1)
      (world.setComponent slot { world.state.components slot with fd := -1 }) := by
  have same := setComponent_same_fd world slot (-1) (holds.unused slot (Nat.le_refl _))
  constructor
  · exact holds.epoll
  · intro other open_
    simp only [same]
    exact holds.opened other open_
  · intro other
    rw [same]
    exact holds.created other
  · intro other bound
    rw [same]
    exact holds.unused other (by omega)

/-- The broker's end of a new socket pair takes the place of an empty slot. -/
theorem exists_update_fd {world : World sxml size} {slot : Fin size} (broker : Int)
    (free : (world.state.components slot).fd = -1) (component : ComponentDefinition sxml)
    (connected : component.fd = broker) (other : Int) (open_ : valid other = true) :
    (∃ index, ((Function.update world.state.components slot component) index).fd = other) ↔
      other = broker ∨ ∃ index, (world.state.components index).fd = other := by
  rw [valid_iff] at open_
  constructor
  · rintro ⟨index, found⟩
    by_cases same : index = slot
    · rw [same, Function.update_self, connected] at found
      exact Or.inl found.symm
    · rw [Function.update_of_ne same] at found
      exact Or.inr ⟨index, found⟩
  · rintro (same | ⟨index, found⟩)
    · exact ⟨slot, by rw [Function.update_self, connected, same]⟩
    · refine ⟨index, ?_⟩
      rw [Function.update_of_ne]
      · exact found
      · rintro rfl
        omega

theorem Inherits.started {slot : Fin size} {world : World sxml size}
    (holds : Inherits inherited epollFd slot world) (query : sxml.State) (broker fd : Int)
    (launch : Launch) (granted : world.table.grantsPair broker fd = true) :
    Inherits inherited epollFd (slot + 1) (started world slot query broker fd launch) := by
  obtain ⟨⟨brokerValid, brokerFresh⟩, ⟨_, fdFresh⟩, different⟩ := (grantsPair_iff _ _ _).mp granted
  have free := holds.unused slot (Nat.le_refl _)
  have components : (Gneiss.started world slot query broker fd launch).state.components =
      Function.update world.state.components slot
        { world.state.components slot with fd := broker, pid := launch.pid, node := query } := by
    simp [Gneiss.started, connected, World.setComponent]
  have table : (Gneiss.started world slot query broker fd launch).table =
      (((world.table.insert broker).insert fd).watch broker launch.add).close fd := by
    simp [Gneiss.started, connected, World.setComponent]
  constructor
  · simpa [Gneiss.started, connected, World.setComponent] using holds.epoll
  · intro other open_
    rw [table, mem_close _ _ _ open_, watch_opened, mem_insert, mem_insert,
      holds.opened other open_, components, exists_update_fd broker free _ rfl other open_]
    constructor
    · rintro ⟨same | same | before | same | filled, distinct⟩
      · exact (distinct same).elim
      · exact Or.inr (Or.inr (Or.inl same))
      · exact Or.inl before
      · exact Or.inr (Or.inl same)
      · exact Or.inr (Or.inr (Or.inr filled))
    · intro member
      have distinct : other = broker ∨ other ∈ world.table.opened := by
        rcases member with before | same | same | filled
        · exact Or.inr ((holds.opened other open_).mpr (Or.inl before))
        · exact Or.inr ((holds.opened other open_).mpr (Or.inr (Or.inl same)))
        · exact Or.inl same
        · exact Or.inr ((holds.opened other open_).mpr (Or.inr (Or.inr filled)))
      refine ⟨?_, ?_⟩
      · rcases member with before | same | same | filled
        · exact Or.inr (Or.inr (Or.inl before))
        · exact Or.inr (Or.inr (Or.inr (Or.inl same)))
        · exact Or.inr (Or.inl same)
        · exact Or.inr (Or.inr (Or.inr (Or.inr filled)))
      · rintro rfl
        rcases distinct with same | before
        · exact different same.symm
        · exact fdFresh before
  · intro other
    rw [components]
    by_cases same : other = slot
    · rw [same, Function.update_self]
      exact fun _ member => brokerFresh ((holds.opened broker brokerValid).mpr (Or.inl member))
    · rw [Function.update_of_ne same]
      exact holds.created other
  · intro other bound
    have later : other ≠ slot := by
      rintro rfl
      omega
    rw [components, Function.update_of_ne later]
    exact holds.unused other (by omega)

/-- The forked process keeps what was there at the beginning and its own end. -/
theorem Inherits.forked {slot : Fin size} {world : World sxml size}
    (holds : Inherits inherited epollFd slot world) (epollFresh : epollFd ∉ inherited)
    (broker fd : Int) (add : Bool) (granted : world.table.grantsPair broker fd = true)
    (other : Int) (open_ : valid other = true) :
    other ∈ (forked world slot broker fd add).table.opened ↔ other ∈ inherited ∨ other = fd := by
  obtain ⟨⟨brokerValid, brokerFresh⟩, ⟨fdValid, fdFresh⟩, different⟩ :=
    (grantsPair_iff _ _ _).mp granted
  have free := holds.unused slot (Nat.le_refl _)
  have kept := fun other open_ => (holds.opened other open_).mpr
  have closed : (∀ index, ((Function.update world.state.components slot
      { world.state.components slot with fd := broker }) index).fd ≠ other) ↔
        other ≠ broker ∧ ∀ index, (world.state.components index).fd ≠ other := by
    have filled := exists_update_fd broker free
      { world.state.components slot with fd := broker } rfl other open_
    rw [← not_iff_not] at filled
    push Not at filled
    exact filled
  rw [Gneiss.forked, mem_load _ _ open_]
  simp only [connected, World.setComponent, World.close_table, World.close_state,
    mem_close _ _ _ open_, watch_opened, mem_insert, holds.opened other open_, holds.epoll, closed]
  constructor
  · rintro ⟨⟨same | same | before | same | ⟨index, filled⟩, notEpoll⟩, notBroker, notFilled⟩
    · exact Or.inr same
    · exact (notBroker same).elim
    · exact Or.inl before
    · exact (notEpoll same).elim
    · exact (notFilled index filled).elim
  · rintro (before | same)
    · refine ⟨⟨Or.inr (Or.inr (Or.inl before)), ?_⟩, ?_, ?_⟩
      · rintro rfl
        exact epollFresh before
      · rintro rfl
        exact brokerFresh (kept _ open_ (Or.inl before))
      · rintro index rfl
        exact holds.created index open_ before
    · subst same
      refine ⟨⟨Or.inl rfl, ?_⟩, fun same => different same.symm, ?_⟩
      · intro same
        exact fdFresh (kept _ open_ (Or.inr (Or.inl same)))
      · intro index same
        exact fdFresh (kept _ open_ (Or.inr (Or.inr ⟨index, same⟩)))

theorem startup_child (boot : Boot sxml size) (world : World sxml size)
    (child : startup boot = some (world, false)) :
    ∃ (slot : Fin size) (broker fd : Int), (boot.launches slot).pair = some (broker, fd) ∧
      (boot.launches slot).pid = 0 ∧ valid fd = true ∧ fd ∉ boot.opened ∧
      ∀ other, valid other = true →
        (other ∈ world.table.opened ↔ other ∈ boot.opened ∨ other = fd) := by
  unfold startup at child
  split at child
  · cases child
  · rcases allocate_cases ⟨boot.opened, []⟩ boot.epollOffer with
      failed | ⟨epollFd, _, fresh, granted⟩
    · rw [failed] at child
      cases child
    · obtain ⟨epollValid, epollFresh⟩ := (fresh_iff _ _).mp fresh
      rw [granted] at child
      simp only [epollValid, Bool.true_eq_false, if_false, Option.some.injEq] at child
      have initial : Inherits boot.opened epollFd 0
          (blank boot (Table.insert ⟨boot.opened, []⟩ epollFd) epollFd) := by
        refine ⟨rfl, fun other open_ => ?_, fun slot open_ => ?_, fun slot _ => rfl⟩
        · rw [valid_iff] at open_
          have negative : ¬(-1 : Int) = other := by omega
          simp [blank, negative, or_comm]
        · simp [blank] at open_
      have ended : Ended boot.launches (Inherits boot.opened epollFd) (world, false) := by
        rw [← child]
        exact startComponentsFrom_ended boot.launches (Inherits boot.opened epollFd)
          (fun _ _ holds => holds.skip) (fun _ _ holds => holds.unconnected)
          (fun _ _ query broker fd launch holds granted _ _ =>
            holds.started query broker fd launch granted) _ 0 _ _ initial
      cases ended with
      | child slot middle broker fd holds paired offered zero =>
          have fdFresh := ((grantsPair_iff _ _ _).mp paired).2.1
          refine ⟨slot, broker, fd, offered, zero, fdFresh.1, ?_, fun other open_ => ?_⟩
          · exact fun member => fdFresh.2 ((holds.opened fd fdFresh.1).mpr (Or.inl member))
          · exact holds.forked epollFresh broker fd _ paired other open_

/-- A component process starts with what the broker process had from its own parent and with its
end of its socket pair, and nothing else. -/
theorem component_isolated (inherited : List Int) (file : Option Int) (mapped : Bool)
    (boot : Boot sxml size) (world : World sxml size)
    (configured : boot.opened = (configLoad ⟨inherited, []⟩ file mapped).1.opened)
    (child : startup boot = some (world, false)) :
    ∃ (slot : Fin size) (broker fd : Int), (boot.launches slot).pair = some (broker, fd) ∧
      (boot.launches slot).pid = 0 ∧ fd ∉ inherited ∧
      ∀ other, valid other = true →
        (other ∈ world.table.opened ↔ other ∈ inherited ∨ other = fd) := by
  have loaded := fun other open_ => mem_configLoad ⟨inherited, []⟩ file mapped other open_
  obtain ⟨slot, broker, fd, offered, zero, open_, fresh, opened⟩ := startup_child boot world child
  rw [configured, loaded fd open_] at fresh
  refine ⟨slot, broker, fd, offered, zero, fresh, fun other valid_ => ?_⟩
  rw [opened other valid_, configured, loaded other valid_]

def sampleChildBoot : Boot xmlTree 2 where
  xml := sampleDocument
  opened := [0, 1, 2]
  epollOffer := some 3
  launches slot :=
    if slot.val = 0 then ⟨some (4, 5), true, 100⟩ else ⟨some (6, 7), true, 0⟩

theorem sampleChild_starts :
    ((startup sampleChildBoot).map fun result => result.2) = some false := by
  decide +kernel

theorem sampleChild_isolated :
    ∃ world, startup sampleChildBoot = some (world, false) ∧
      ∀ other, valid other = true →
        (other ∈ world.table.opened ↔ other ∈ [0, 1, 2] ∨ other = 7) := by
  obtain ⟨⟨world, parent⟩, started, same⟩ := Option.map_eq_some_iff.mp sampleChild_starts
  cases same
  obtain ⟨slot, broker, fd, offered, zero, _, opened⟩ := component_isolated [0, 1, 2] (some 9) true
    sampleChildBoot world (by decide) started
  refine ⟨world, started, fun other open_ => ?_⟩
  have own : fd = 7 := by
    match slot with
    | 0 => cases zero
    | 1 =>
        have pair : some ((6 : Int), (7 : Int)) = some (broker, fd) := offered
        cases pair
        rfl
  rw [opened other open_, own]

end Gneiss
