import Gneiss.Broker.Configuration

/-!
Slot by slot: what `Start_Components` leaves of the elements under `/config`. Every element takes
one turn of the loop and one slot, whether it is started or not, and only a `fork` that fails ends
the loop early.
-/

namespace Gneiss

open Descriptors Runs

variable {sxml : Sxml} {size : Nat}

/-- The turn of one element, as far as it is the parent's. -/
def turn (launches : Fin size → Launch) (slot : Fin size) (node : sxml.State)
    (world : World sxml size) : World sxml size :=
  if (sxml.getAttribute node world.state.xml (ascii "name") 255).1 = .ok then
    let (_, broker, fd) := world.table.allocatePair (launches slot).pair
    if valid broker then
      if (launches slot).pid < 0 then aborted world slot broker fd (launches slot).add
      else started world slot node broker fd (launches slot)
    else world.setComponent slot { world.state.components slot with fd := -1 }
  else world

def worldBefore (launches : Fin size → Launch) (nodes : List sxml.State)
    (world : World sxml size) : Nat → World sxml size
  | 0 => world
  | index + 1 =>
      if bound : index < size then
        match nodes[index]? with
        | some node => turn launches ⟨index, bound⟩ node (worldBefore launches nodes world index)
        | none => worldBefore launches nodes world index
      else worldBefore launches nodes world index

def HasShortName (document : sxml.Document) (node : sxml.State) : Prop :=
  ∃ name, sxml.attributeValue node document (ascii "name") = some name ∧ name.length ≤ 255

def pairCreated (launches : Fin size → Launch) (nodes : List sxml.State)
    (world : World sxml size) (slot : Fin size) : Bool :=
  valid ((worldBefore launches nodes world slot).table.allocatePair (launches slot).pair).2.1

/-- `fork` is called in the turn of this slot. -/
def Launched (launches : Fin size → Launch) (nodes : List sxml.State)
    (world : World sxml size) (slot : Fin size) : Prop :=
  ∃ node, nodes[slot.val]? = some node ∧ HasShortName world.state.xml node ∧
    pairCreated launches nodes world slot = true

def ForkFailed (launches : Fin size → Launch) (nodes : List sxml.State)
    (world : World sxml size) (slot : Fin size) : Prop :=
  Launched launches nodes world slot ∧ (launches slot).pid < 0

theorem hasShortName_iff (document : sxml.Document) (node : sxml.State)
    (opened : sxml.isOpen node document = true) :
    (sxml.getAttribute node document (ascii "name") 255).1 = .ok ↔
      HasShortName document node := by
  constructor
  · intro good
    rcases read : sxml.getAttribute node document (ascii "name") 255 with ⟨result, name⟩
    rw [read] at good
    simp only at good
    subst good
    exact ⟨name, (sxml.getAttribute_ok_iff node document _ _ _ opened).mp read⟩
  · rintro ⟨name, value, short⟩
    rw [(sxml.getAttribute_ok_iff node document _ _ _ opened).mpr ⟨value, short⟩]

theorem started_state (world : World sxml size) (slot : Fin size) (node : sxml.State)
    (broker fd : Int) (launch : Launch) :
    (started world slot node broker fd launch).state = (world.setComponent slot
      { world.state.components slot with
        fd := broker, pid := launch.pid, node := node }).state := by
  simp [started, connected, World.setComponent]

theorem aborted_state (world : World sxml size) (slot : Fin size) (broker fd : Int) (add : Bool) :
    (aborted world slot broker fd add).state = (world.setComponent slot
      { world.state.components slot with fd := -1 }).state := by
  simp [aborted, connected, World.setComponent]

/-- What one turn does, from the element and the answers of the kernel. -/
theorem turn_cases (launches : Fin size → Launch) (slot : Fin size) (node : sxml.State)
    (world : World sxml size) :
    ((sxml.getAttribute node world.state.xml (ascii "name") 255).1 ≠ .ok ∧
      turn launches slot node world = world) ∨
    ((sxml.getAttribute node world.state.xml (ascii "name") 255).1 = .ok ∧
      world.table.allocatePair (launches slot).pair = (world.table, -1, -1) ∧
      turn launches slot node world =
        world.setComponent slot { world.state.components slot with fd := -1 }) ∨
    ∃ broker fd, (sxml.getAttribute node world.state.xml (ascii "name") 255).1 = .ok ∧
      valid broker = true ∧
      world.table.allocatePair (launches slot).pair =
        ((world.table.insert broker).insert fd, broker, fd) ∧
      turn launches slot node world =
        if (launches slot).pid < 0 then aborted world slot broker fd (launches slot).add
        else started world slot node broker fd (launches slot) := by
  unfold turn
  by_cases good : (sxml.getAttribute node world.state.xml (ascii "name") 255).1 = .ok
  · rw [if_pos good]
    rcases allocatePair_cases world.table (launches slot).pair with
      failed | ⟨broker, fd, _, granted, allocated⟩
    · right
      left
      rw [failed]
      exact ⟨good, rfl, rfl⟩
    · right
      right
      have brokerValid := ((grantsPair_iff _ _ _).mp granted).1.1
      refine ⟨broker, fd, good, brokerValid, allocated, ?_⟩
      rw [allocated]
      exact if_pos brokerValid
  · rw [if_neg good]
    exact Or.inl ⟨good, rfl⟩

theorem turn_xml (launches : Fin size → Launch) (slot : Fin size) (node : sxml.State)
    (world : World sxml size) : (turn launches slot node world).state.xml = world.state.xml := by
  rcases turn_cases launches slot node world with
    ⟨_, same⟩ | ⟨_, _, same⟩ | ⟨broker, fd, _, _, _, same⟩
  · rw [same]
  · rw [same]
    rfl
  · rw [same]
    split
    · rw [aborted_state]
      rfl
    · rw [started_state]
      rfl

theorem turn_component (launches : Fin size → Launch) (slot other : Fin size) (node : sxml.State)
    (world : World sxml size) (different : other ≠ slot) :
    (turn launches slot node world).state.components other = world.state.components other := by
  rcases turn_cases launches slot node world with
    ⟨_, same⟩ | ⟨_, _, same⟩ | ⟨broker, fd, _, _, _, same⟩
  · rw [same]
  · rw [same]
    simp [World.setComponent, different]
  · rw [same]
    split
    · rw [aborted_state]
      simp [World.setComponent, different]
    · rw [started_state]
      simp [World.setComponent, different]

theorem worldBefore_xml (launches : Fin size → Launch) (nodes : List sxml.State)
    (world : World sxml size) (index : Nat) :
    (worldBefore launches nodes world index).state.xml = world.state.xml := by
  induction index with
  | zero => rfl
  | succ index ih =>
      rw [worldBefore]
      split
      · split
        · rw [turn_xml, ih]
        · exact ih
      · exact ih

theorem worldBefore_next (launches : Fin size → Launch) (nodes : List sxml.State)
    (world : World sxml size) (slot : Fin size) (node : sxml.State)
    (here : nodes[slot.val]? = some node) :
    worldBefore launches nodes world (slot + 1) =
      turn launches slot node (worldBefore launches nodes world slot) := by
  rw [worldBefore, dif_pos slot.isLt, here]

/-- One turn of the loop, together with whether `fork` was called in it. -/
theorem worldBefore_cases (launches : Fin size → Launch) (nodes : List sxml.State)
    (world : World sxml size) (slot : Fin size) (node : sxml.State)
    (here : nodes[slot.val]? = some node)
    (opened : sxml.isOpen node world.state.xml = true) :
    let before := worldBefore launches nodes world slot
    let after := worldBefore launches nodes world (slot + 1)
    (¬Launched launches nodes world slot ∧
      (sxml.getAttribute node world.state.xml (ascii "name") 255).1 ≠ .ok ∧ after = before) ∨
    (¬Launched launches nodes world slot ∧
      (sxml.getAttribute node world.state.xml (ascii "name") 255).1 = .ok ∧
      before.table.allocatePair (launches slot).pair = (before.table, -1, -1) ∧
      after = before.setComponent slot { before.state.components slot with fd := -1 }) ∨
    ∃ broker fd, Launched launches nodes world slot ∧
      (sxml.getAttribute node world.state.xml (ascii "name") 255).1 = .ok ∧
      valid broker = true ∧
      before.table.allocatePair (launches slot).pair =
        ((before.table.insert broker).insert fd, broker, fd) ∧
      after = if (launches slot).pid < 0 then aborted before slot broker fd (launches slot).add
        else started before slot node broker fd (launches slot) := by
  intro before after
  have next : after = turn launches slot node before :=
    worldBefore_next launches nodes world slot node here
  have xml : before.state.xml = world.state.xml := worldBefore_xml launches nodes world slot
  have readable := hasShortName_iff world.state.xml node opened
  have cases_ := turn_cases launches slot node before
  rw [← next, xml] at cases_
  rcases cases_ with ⟨bad, same⟩ | ⟨good, failed, same⟩ | ⟨broker, fd, good, brokerValid, rest⟩
  · left
    refine ⟨?_, bad, same⟩
    rintro ⟨other, there, named, _⟩
    rw [here, Option.some.injEq] at there
    subst there
    exact bad (readable.mpr named)
  · right
    left
    refine ⟨?_, good, failed, same⟩
    rintro ⟨_, _, _, created⟩
    rw [pairCreated, failed] at created
    cases created
  · right
    right
    refine ⟨broker, fd, ⟨node, here, readable.mp good, ?_⟩, good, brokerValid, rest⟩
    rw [pairCreated, rest.1]
    exact brokerValid

theorem worldBefore_component (launches : Fin size → Launch) (nodes : List sxml.State)
    (world : World sxml size) (slot : Fin size) (index : Nat) :
    (worldBefore launches nodes world index).state.components slot =
      if slot.val < index then
        (worldBefore launches nodes world (slot + 1)).state.components slot
      else world.state.components slot := by
  induction index with
  | zero => rw [if_neg (Nat.not_lt_zero _), worldBefore]
  | succ index ih =>
      by_cases same : slot.val = index
      · subst same
        rw [if_pos (Nat.lt_succ_self _)]
      · have untouched : (worldBefore launches nodes world (index + 1)).state.components slot =
            (worldBefore launches nodes world index).state.components slot := by
          rw [worldBefore]
          split
          · split
            · refine turn_component launches _ slot _ _ ?_
              exact fun equal => same (congrArg Fin.val equal)
            · rfl
          · rfl
        rw [untouched, ih]
        by_cases earlier : slot.val < index
        · rw [if_pos earlier, if_pos (by omega)]
        · rw [if_neg earlier, if_neg (by omega)]

/-- The loop took the turns before `last` and no other: it reached every slot that was launched
before a `fork` failed, and none behind a failed one. -/
structure Stopped (launches : Fin size → Launch) (nodes : List sxml.State)
    (world : World sxml size) (last : Nat) : Prop where
  parent : ∀ slot : Fin size, slot.val < last → Launched launches nodes world slot →
    (launches slot).pid ≠ 0
  failed : ∀ slot : Fin size, slot.val < last → ForkFailed launches nodes world slot →
    last = slot + 1
  reached : ∀ slot : Fin size, Launched launches nodes world slot →
    (∀ earlier ≤ slot, ¬ForkFailed launches nodes world earlier) → slot.val < last

/-- The first turns are over and `fork` returned in the parent. -/
structure Running (launches : Fin size → Launch) (nodes : List sxml.State)
    (world : World sxml size) (index : Nat) : Prop where
  bounded : index ≤ size
  parent : ∀ slot : Fin size, slot.val < index → Launched launches nodes world slot →
    0 < (launches slot).pid

theorem Running.not_failed {launches : Fin size → Launch} {nodes : List sxml.State}
    {world : World sxml size} {index : Nat} (running : Running launches nodes world index)
    (slot : Fin size) (earlier : slot.val < index) : ¬ForkFailed launches nodes world slot := by
  rintro ⟨launched, negative⟩
  have positive := running.parent slot earlier launched
  omega

theorem Running.stopped {launches : Fin size → Launch} {nodes : List sxml.State}
    {world : World sxml size} {index : Nat} (running : Running launches nodes world index)
    (finished : nodes.length ≤ index ∨ index = size) : Stopped launches nodes world index where
  parent slot earlier launched := by
    have positive := running.parent slot earlier launched
    omega
  failed slot earlier failure := (running.not_failed slot earlier failure).elim
  reached slot launched _ := by
    rcases finished with short | full
    · obtain ⟨node, here, _⟩ := launched
      obtain ⟨bound, _⟩ := List.getElem?_eq_some_iff.mp here
      omega
    · omega

theorem Running.next {launches : Fin size → Launch} {nodes : List sxml.State}
    {world : World sxml size} (slot : Fin size) (running : Running launches nodes world slot)
    (positive : Launched launches nodes world slot → 0 < (launches slot).pid) :
    Running launches nodes world (slot + 1) where
  bounded := slot.isLt
  parent other earlier launched := by
    by_cases same : other = slot
    · subst same
      exact positive launched
    · have different : other.val ≠ slot.val := fun equal => same (Fin.ext equal)
      exact running.parent other (by omega) launched

theorem Running.aborted {launches : Fin size → Launch} {nodes : List sxml.State}
    {world : World sxml size} (slot : Fin size) (running : Running launches nodes world slot)
    (failure : ForkFailed launches nodes world slot) :
    Stopped launches nodes world (slot + 1) where
  parent other earlier launched := by
    by_cases same : other = slot
    · subst same
      have negative := failure.2
      omega
    · have different : other.val ≠ slot.val := fun equal => same (Fin.ext equal)
      have positive := running.parent other (by omega) launched
      omega
  failed other earlier failedThere := by
    by_cases same : other = slot
    · rw [same]
    · have different : other.val ≠ slot.val := fun equal => same (Fin.ext equal)
      exact (running.not_failed other (by omega) failedThere).elim
  reached other _ clean := by
    by_contra later
    exact clean slot (Fin.le_def.mpr (by omega)) failure

theorem startComponentsFrom_turns (launches : Fin size → Launch) (nodes : List sxml.State)
    (world : World sxml size) (fuel index : Nat) (query : sxml.State)
    (enough : (sxml.siblings query world.state.xml).length < fuel)
    (rest : elements world.state.xml (ascii "component") query = nodes.drop index)
    (running : Running launches nodes world index)
    (parent : (startComponentsFrom launches fuel index query
      (worldBefore launches nodes world index)).2 = true) :
    ∃ last, Stopped launches nodes world last ∧
      (startComponentsFrom launches fuel index query (worldBefore launches nodes world index)).1 =
        worldBefore launches nodes world last := by
  induction fuel generalizing index query with
  | zero => omega
  | succ fuel ih =>
      have xml := worldBefore_xml launches nodes world index
      have over_ : elements world.state.xml (ascii "component") query = [] →
          nodes.length ≤ index := by
        intro nothing
        rw [nothing] at rest
        exact List.drop_eq_nil_iff.mp rest.symm
      unfold startComponentsFrom at parent ⊢
      rw [xml] at parent ⊢
      by_cases good : sxml.stateResult query = .ok
      · rw [if_neg (not_not_intro good)] at parent ⊢
        rcases findSibling_cases world.state.xml (ascii "component") query with
          ⟨finished, nothing⟩ | ⟨found, opened, split_, fewer⟩
        · simp only [finished, ne_eq, not_false_eq_true, true_or, ↓reduceIte]
          exact ⟨index, running.stopped (Or.inl (over_ nothing)), rfl⟩
        · generalize sxml.findSibling query world.state.xml (ascii "component") none = node at *
          have going : ¬(sxml.stateResult node ≠ .ok ∨
              sxml.isOpen node world.state.xml = false) := by
            rw [opened]
            rintro (bad | closed)
            · exact bad found
            · cases closed
          simp only [going, ↓reduceIte] at parent ⊢
          by_cases bound : index < size
          · have dropped : nodes.drop index =
                node :: elements world.state.xml (ascii "component")
                  (sxml.sibling node world.state.xml) := rest.symm.trans split_
            have here : nodes[index]? = some node := by
              rw [← List.head?_drop, dropped]
              rfl
            have behind : elements world.state.xml (ascii "component")
                (sxml.sibling node world.state.xml) = nodes.drop (index + 1) := by
              rw [← List.tail_drop, dropped]
              rfl
            -- What follows the turn, whichever way the turn went.
            have goOn : ∀ middle, middle = worldBefore launches nodes world (index + 1) →
                Running launches nodes world (index + 1) →
                (if index + 1 = size then (middle, true)
                  else startComponentsFrom launches fuel (index + 1)
                    (sxml.sibling node middle.state.xml) middle).2 = true →
                ∃ last, Stopped launches nodes world last ∧
                  (if index + 1 = size then (middle, true)
                    else startComponentsFrom launches fuel (index + 1)
                      (sxml.sibling node middle.state.xml) middle).1 =
                    worldBefore launches nodes world last := by
              intro middle same later continued
              by_cases full : index + 1 = size
              · rw [if_pos full]
                exact ⟨index + 1, later.stopped (Or.inr full), same⟩
              · rw [if_neg full] at continued ⊢
                rw [same, worldBefore_xml] at continued ⊢
                exact ih (index + 1) _ (by omega) behind later continued
            simp only [bound, ↓reduceDIte] at parent ⊢
            have onward := Running.next ⟨index, bound⟩ running
            rcases worldBefore_cases launches nodes world ⟨index, bound⟩ node here opened with
              ⟨idle, bad, next⟩ | ⟨idle, good, failed, next⟩ |
                ⟨broker, fd, launched, good, brokerValid, allocated, next⟩
            · rw [if_neg bad] at parent ⊢
              exact goOn _ next.symm (onward fun launched => (idle launched).elim) parent
            · rw [if_pos good, failed] at parent ⊢
              exact goOn _ next.symm (onward fun launched => (idle launched).elim) parent
            · rw [if_pos good, allocated] at parent ⊢
              simp only [brokerValid, ↓reduceIte] at parent ⊢
              by_cases negative : (launches ⟨index, bound⟩).pid < 0
              · rw [if_pos negative] at next ⊢
                exact ⟨index + 1, Running.aborted ⟨index, bound⟩ running ⟨launched, negative⟩,
                  next.symm⟩
              · rw [if_neg negative] at next parent ⊢
                by_cases positive : 0 < (launches ⟨index, bound⟩).pid
                · rw [if_pos positive] at parent ⊢
                  exact goOn _ next.symm (onward fun _ => positive) parent
                · rw [if_neg positive] at parent
                  cases parent
          · simp only [bound, ↓reduceDIte]
            have full : index = size := by
              have limit := running.bounded
              omega
            exact ⟨index, running.stopped (Or.inr full), rfl⟩
      · rw [if_pos good]
        exact ⟨index, running.stopped (Or.inl (over_ (elements_end _ _ _ good))), rfl⟩

theorem startComponents_turns (launches : Fin size → Launch) (world : World sxml size)
    (parent : (startComponents launches (sxml.init world.state.xml) world).2 = true) :
    let nodes := configured world.state.xml (ascii "component")
    ∃ last, Stopped launches nodes world last ∧
      (startComponents launches (sxml.init world.state.xml) world).1 =
        worldBefore launches nodes world last := by
  intro nodes
  have all : elements world.state.xml (ascii "component")
      (sxml.path (sxml.init world.state.xml) world.state.xml (ascii "/config/component")) =
      nodes.drop 0 := (elements_path world.state.xml (ascii "component")).1
  have nothing : Running launches nodes world 0 :=
    ⟨Nat.zero_le size, fun slot earlier => (Nat.not_lt_zero slot.val earlier).elim⟩
  exact startComponentsFrom_turns launches nodes world _ 0 _ (Nat.lt_succ_self _) all nothing parent

/-- The slots after start-up, against the elements they were filled from. -/
structure Mirrors (launches : Fin size → Launch) (nodes : List sxml.State)
    (before after : World sxml size) : Prop where
  valid_iff : ∀ (slot : Fin size) node, nodes[slot.val]? = some node →
    (∀ earlier ≤ slot, ¬ForkFailed launches nodes before earlier) →
    (valid (after.state.components slot).fd = true ↔
      HasShortName before.state.xml node ∧ pairCreated launches nodes before slot = true)
  element : ∀ slot : Fin size, valid (after.state.components slot).fd = true →
    nodes[slot.val]? = some (after.state.components slot).node ∧
      (after.state.components slot).pid = (launches slot).pid ∧ 0 < (launches slot).pid
  unused : ∀ slot : Fin size, nodes.length ≤ slot.val ∨
      (∃ earlier ≤ slot, ForkFailed launches nodes before earlier) ∨
      valid (after.state.components slot).fd = false →
    (after.state.components slot).fd = -1

theorem worldBefore_slot (launches : Fin size → Launch) (nodes : List sxml.State)
    (world : World sxml size) (opened : ∀ node ∈ nodes, sxml.isOpen node world.state.xml = true)
    (unused : ∀ slot, (world.state.components slot).fd = -1) (slot : Fin size) :
    let component := (worldBefore launches nodes world (slot + 1)).state.components slot
    (Launched launches nodes world slot ∧ 0 ≤ (launches slot).pid ∧ valid component.fd = true ∧
      nodes[slot.val]? = some component.node ∧ component.pid = (launches slot).pid) ∨
    (¬(Launched launches nodes world slot ∧ 0 ≤ (launches slot).pid) ∧ component.fd = -1) := by
  intro component
  have before : ((worldBefore launches nodes world slot).state.components slot).fd = -1 := by
    rw [worldBefore_component, if_neg (Nat.lt_irrefl _), unused]
  cases here : nodes[slot.val]? with
  | none =>
      right
      constructor
      · rintro ⟨⟨node, there, _⟩, _⟩
        rw [here] at there
        cases there
      · simp only [component, worldBefore, slot.isLt, ↓reduceDIte, here]
        exact before
  | some node =>
      rcases worldBefore_cases launches nodes world slot node here
        (opened node (List.mem_of_getElem? here)) with
        ⟨idle, _, next⟩ | ⟨idle, _, _, next⟩ | ⟨broker, fd, launched, _, brokerValid, _, next⟩
      · right
        refine ⟨fun both => idle both.1, ?_⟩
        simp only [component, next]
        exact before
      · right
        refine ⟨fun both => idle both.1, ?_⟩
        simp [component, next, World.setComponent]
      · by_cases negative : (launches slot).pid < 0
        · right
          rw [if_pos negative] at next
          refine ⟨fun both => absurd both.2 (by omega), ?_⟩
          simp only [component, next, aborted_state]
          simp [World.setComponent]
        · left
          rw [if_neg negative] at next
          refine ⟨launched, by omega, ?_⟩
          simp only [component, next, started_state]
          simp [World.setComponent, brokerValid]

/-! The table when the loop has stopped. -/

section Stopped

variable {launches : Fin size → Launch} {nodes : List sxml.State} {world : World sxml size}
  {last : Nat} (opened : ∀ node ∈ nodes, sxml.isOpen node world.state.xml = true)
  (unused : ∀ slot, (world.state.components slot).fd = -1)

include opened unused

theorem fd_of_invalid (slot : Fin size)
    (invalid : valid ((worldBefore launches nodes world last).state.components slot).fd = false) :
    ((worldBefore launches nodes world last).state.components slot).fd = -1 := by
  rw [worldBefore_component] at invalid ⊢
  by_cases taken : slot.val < last
  · rw [if_pos taken] at invalid ⊢
    rcases worldBefore_slot launches nodes world opened unused slot with
      ⟨_, _, valid_, _⟩ | ⟨_, cleared⟩
    · rw [invalid] at valid_
      cases valid_
    · exact cleared
  · rw [if_neg taken]
    exact unused slot

variable (stopped : Stopped launches nodes world last)

include stopped

theorem Stopped.of_valid (slot : Fin size)
    (valid_ : valid ((worldBefore launches nodes world last).state.components slot).fd = true) :
    Launched launches nodes world slot ∧
      nodes[slot.val]? =
        some ((worldBefore launches nodes world last).state.components slot).node ∧
      ((worldBefore launches nodes world last).state.components slot).pid = (launches slot).pid ∧
      0 < (launches slot).pid ∧
      ∀ earlier ≤ slot, ¬ForkFailed launches nodes world earlier := by
  rw [worldBefore_component] at valid_ ⊢
  by_cases taken : slot.val < last
  · rw [if_pos taken] at valid_ ⊢
    rcases worldBefore_slot launches nodes world opened unused slot with
      ⟨launched, nonnegative, _, node, pid⟩ | ⟨_, cleared⟩
    · have nonzero := stopped.parent slot taken launched
      refine ⟨launched, node, pid, by omega, ?_⟩
      -- A failed `fork` ends the loop, so it would be in the turn of this slot.
      intro earlier order failure
      have before := Fin.le_def.mp order
      have end_ := stopped.failed earlier (by omega) failure
      have same : earlier = slot := Fin.ext (by omega)
      have negative := failure.2
      rw [same] at negative
      omega
    · rw [cleared] at valid_
      cases valid_
  · rw [if_neg taken, unused] at valid_
    cases valid_

theorem Stopped.valid_of_launched (slot : Fin size) (launched : Launched launches nodes world slot)
    (clean : ∀ earlier ≤ slot, ¬ForkFailed launches nodes world earlier) :
    valid ((worldBefore launches nodes world last).state.components slot).fd = true := by
  have taken := stopped.reached slot launched clean
  rw [worldBefore_component, if_pos taken]
  rcases worldBefore_slot launches nodes world opened unused slot with
    ⟨_, _, valid_, _⟩ | ⟨failed, _⟩
  · exact valid_
  · have notFailed := clean slot (Fin.le_def.mpr (Nat.le_refl _))
    refine (failed ⟨launched, ?_⟩).elim
    by_contra negative
    exact notFailed ⟨launched, by omega⟩

end Stopped

theorem startComponents_mirrors (launches : Fin size → Launch) (world : World sxml size)
    (unused : ∀ slot, (world.state.components slot).fd = -1)
    (parent : (startComponents launches (sxml.init world.state.xml) world).2 = true) :
    Mirrors launches (configured world.state.xml (ascii "component")) world
      (startComponents launches (sxml.init world.state.xml) world).1 := by
  obtain ⟨last, stopped, same⟩ := startComponents_turns launches world parent
  rw [same]
  have opened : ∀ node ∈ configured world.state.xml (ascii "component"),
      sxml.isOpen node world.state.xml = true := by
    intro node member
    obtain ⟨good, named⟩ := mem_configured world.state.xml _ node member
    exact isOpen_of_hasName world.state.xml _ node good named
  generalize configured world.state.xml (ascii "component") = nodes at stopped same opened ⊢
  refine ⟨?_, ?_, ?_⟩
  · intro slot node here clean
    constructor
    · intro valid_
      obtain ⟨⟨other, there, named, created⟩, _⟩ := stopped.of_valid opened unused slot valid_
      rw [here, Option.some.injEq] at there
      rw [there]
      exact ⟨named, created⟩
    · rintro ⟨named, created⟩
      exact stopped.valid_of_launched opened unused slot ⟨node, here, named, created⟩ clean
  · intro slot valid_
    obtain ⟨_, node, pid, positive, _⟩ := stopped.of_valid opened unused slot valid_
    exact ⟨node, pid, positive⟩
  · intro slot reason
    apply fd_of_invalid opened unused slot
    rw [Bool.eq_false_iff]
    intro valid_
    obtain ⟨_, here, _, _, clean⟩ := stopped.of_valid opened unused slot valid_
    rcases reason with short | ⟨earlier, order, failure⟩ | invalid
    · obtain ⟨bound, _⟩ := List.getElem?_eq_some_iff.mp here
      omega
    · exact clean earlier order failure
    · rw [invalid] at valid_
      cases valid_

/-! Over a run slots are only cleared. -/

def Clears (before after : World sxml size) : Prop :=
  ∀ slot, (after.state.components slot).fd = (before.state.components slot).fd ∨
    (after.state.components slot).fd = -1

theorem Clears.trans {first second third : World sxml size} (before : Clears first second)
    (after : Clears second third) : Clears first third := by
  intro slot
  rcases after slot with same | cleared
  · rw [same]
    exact before slot
  · exact Or.inr cleared

theorem eventLoop_clears (generated : GeneratedPacket) (world : World sxml size)
    (inputs : List Input) (ownership : Ownership world) :
    Clears world (eventLoop generated world inputs) := by
  refine run_related (eventLoopStep generated) Ownership Clears ?_ ?_ ?_ ?_ world inputs ownership
  · exact fun state input owned => owned.eventLoopStep generated input
  · exact fun state slot => Or.inl rfl
  · exact fun first second third before after => before.trans after
  · intro state input owned
    apply eventLoopStep_invariant (Clears state)
    · exact fun slot => Or.inl rfl
    · intro index slot
      exact Or.inl (readMessage_control generated state index slot input.delivery input.outcome
        owned.paired)
    · intro middle index handled
      refine handled.trans ?_
      intro slot
      by_cases same : slot = index
      · subst same
        right
        rw [hangUp_state]
        simp [World.setComponent]
      · left
        rw [hangUp_component middle index slot input.outcome same]

/-- `Is_Valid` of the components. `isValid` is `SXML.Query.Is_Valid`, a ghost function the broker
only has in its contracts. -/
def ComponentsValid (isValid : sxml.State → sxml.Document → Bool)
    (state : BrokerState sxml size) : Prop :=
  ∀ slot, valid (state.components slot).fd = true →
    sxml.stateResult (state.components slot).node = .ok ∧
      isValid (state.components slot).node state.xml = true ∧
      sxml.isOpen (state.components slot).node state.xml = true

theorem isValid_of_configured (isValid : sxml.State → sxml.Document → Bool)
    (found : ∀ query document name,
      sxml.stateResult (sxml.findSibling query document name none) = .ok →
      isValid (sxml.findSibling query document name none) document = true)
    (document : sxml.Document) (name : Text) (node : sxml.State)
    (member : node ∈ configured document name) :
    sxml.stateResult node = .ok ∧ isValid node document = true ∧
      sxml.isOpen node document = true := by
  obtain ⟨good, named⟩ := mem_configured document name node member
  have first : elements document name node =
      node :: elements document name (sxml.sibling node document) := by
    rw [elements, sxml.siblings_node node document good, List.filter_cons_of_pos named]
    rfl
  rcases findSibling_cases document name node with ⟨_, nothing⟩ | ⟨ok, _, split_, _⟩
  · rw [first] at nothing
    cases nothing
  · rw [first, List.cons.injEq] at split_
    have valid_ := found node document name ok
    rw [← split_.1] at valid_
    exact ⟨good, valid_, isOpen_of_hasName document name node good named⟩

theorem start_xml (boot : Boot sxml size) (world : World sxml size)
    (constructed : construct boot = some world) : world.state.xml = boot.xml := by
  refine construct_preserves boot world (fun world => world.state.xml = boot.xml) ?_ ?_ ?_ ?_
    constructed
  · exact fun _ _ _ => rfl
  · exact fun _ _ same => same
  · intro slot middle broker fd add same
    rw [aborted_state]
    exact same
  · intro slot middle node broker fd launch same _ _
    rw [started_state]
    exact same

/-- After start-up the slots mirror the component elements, and in every later state a slot that is
still valid belongs to the element it was filled from. -/
theorem components_mirror_configuration (generated : GeneratedPacket)
    (isValid : sxml.State → sxml.Document → Bool)
    (found : ∀ query document name,
      sxml.stateResult (sxml.findSibling query document name none) = .ok →
      isValid (sxml.findSibling query document name none) document = true) :
    (∀ (launches : Fin size → Launch) (world : World sxml size),
      (∀ slot, (world.state.components slot).fd = -1) →
      (startComponents launches (sxml.init world.state.xml) world).2 = true →
      let after := (startComponents launches (sxml.init world.state.xml) world).1
      Mirrors launches (configured world.state.xml (ascii "component")) world after ∧
        after.state.xml = world.state.xml ∧ ComponentsValid isValid after.state) ∧
    ∀ (boot : Boot sxml size) (start : World sxml size) (inputs : List Input),
      construct boot = some start →
      let later := eventLoop generated start inputs
      Clears start later ∧ ComponentsValid isValid later.state ∧
        ∀ slot : Fin size, valid (later.state.components slot).fd = true →
          (configured boot.xml (ascii "component"))[slot.val]? =
            some (later.state.components slot).node := by
  have valid_of_element : ∀ (state : BrokerState sxml size),
      (∀ slot : Fin size, valid (state.components slot).fd = true →
        (configured state.xml (ascii "component"))[slot.val]? =
          some (state.components slot).node) → ComponentsValid isValid state := by
    intro state element slot valid_
    exact isValid_of_configured isValid found state.xml _ _
      (List.mem_of_getElem? (element slot valid_))
  constructor
  · intro launches world unused parent after
    have mirrors := startComponents_mirrors launches world unused parent
    have xml : after.state.xml = world.state.xml := by
      obtain ⟨last, _, same⟩ := startComponents_turns launches world parent
      rw [show after = _ from same, worldBefore_xml]
    refine ⟨mirrors, xml, valid_of_element after.state ?_⟩
    intro slot valid_
    rw [xml]
    exact (mirrors.element slot valid_).1
  · intro boot start inputs constructed later
    have ownership := construct_ownership boot start constructed
    have persists : Persists start later := eventLoop_persists generated start inputs ownership
    obtain ⟨table, epollFd, _, ran⟩ := construct_started boot start constructed
    have returned : startComponents boot.launches (sxml.init (blank boot table epollFd).state.xml)
        (blank boot table epollFd) = (start, true) := ran
    have mirrors := startComponents_mirrors boot.launches (blank boot table epollFd)
      (fun _ => rfl) (congrArg Prod.snd returned)
    rw [returned] at mirrors
    have element : ∀ slot : Fin size, valid (later.state.components slot).fd = true →
        (configured boot.xml (ascii "component"))[slot.val]? =
          some (later.state.components slot).node := by
      intro slot valid_
      rw [persists.node slot valid_]
      exact (mirrors.element slot (persists.live valid_)).1
    refine ⟨eventLoop_clears generated start inputs ownership, ?_, element⟩
    apply valid_of_element later.state
    rw [persists.xml, start_xml boot start constructed]
    exact element

def nodeExists (query : Xml.Query) (document : Xml) : Bool :=
  match query with
  | .node address => (document.find address).isSome
  | _ => false

theorem nodeExists_found (query : xmlTree.State) (document : xmlTree.Document) (name : Text)
    (good : xmlTree.stateResult (xmlTree.findSibling query document name none) = .ok) :
    nodeExists (xmlTree.findSibling query document name none) document = true := by
  have opened := findSibling_isOpen query document name good
  generalize xmlTree.findSibling query document name none = node at opened
  change (Xml.elementName node document).isSome = true at opened
  cases node with
  | node address =>
      cases element : document.find address with
      | none => simp [Xml.elementName, element] at opened
      | some _ => simp [nodeExists, element]
  | _ => cases opened

theorem sample_mirrors :
    ComponentsValid nodeExists sampleWorld.state ∧
      ∀ slot : Fin 2, valid (sampleWorld.state.components slot).fd = true ∧
        (@configured xmlTree sampleDocument (ascii "component"))[slot.val]? =
          some (sampleWorld.state.components slot).node := by
  have mirrored := (@components_mirror_configuration xmlTree 2 referencePacket nodeExists
    nodeExists_found).2 sampleBoot sampleWorld [] sample_constructed
  refine ⟨mirrored.2.1, ?_⟩
  intro slot
  exact ⟨sample_live slot, mirrored.2.2 slot (sample_live slot)⟩

end Gneiss
