import Gneiss.Broker.Main

/-!
What each procedure of `Gneiss.Broker.Message` can do, once and for all: every lemma lists the ways
a procedure can return together with the answers of the kernel that lead there.
-/

namespace Gneiss

open Descriptors

variable {sxml : Sxml} {size : Nat}

inductive Place (size : Nat) where
  | control (index : Fin size)
  | broker (index : Fin size) (kind : KindType)
  | disp (index : Fin size) (kind : KindType)
  deriving DecidableEq, Repr

def stored (state : BrokerState sxml size) : Place size → Int
  | .control index => (state.components index).fd
  | .broker index kind => ((state.components index).serv kind).broker
  | .disp index kind => ((state.components index).serv kind).disp

def refusesPair (table : Table) (offer : Option (Int × Int)) : Prop :=
  ∀ first second, offer = some (first, second) → table.grantsPair first second = false

theorem refusesPair_of_failed (table : Table) (offer : Option (Int × Int))
    (failed : table.allocatePair offer = (table, -1, -1)) : refusesPair table offer := by
  intro first second offered
  by_contra granted
  rw [Bool.not_eq_false] at granted
  simp only [offered, Table.allocatePair, granted, ↓reduceIte, Prod.mk.injEq] at failed
  have open_ := ((grantsPair_iff _ _ _).mp granted).1.1
  rw [failed.2.1] at open_
  cases open_

/-! `Setup_Service` finds the service there, creates it, or fails without a trace. -/

def serviceThere (state : BrokerState sxml size) (index : Fin size) (kind : KindType) : Bool :=
  valid (stored state (.broker index kind)) && valid (stored state (.disp index kind))

def Paired (state : BrokerState sxml size) : Prop :=
  ∀ index kind,
    (valid (stored state (.broker index kind)) = true ∧
      valid (stored state (.disp index kind)) = true) ∨
    (stored state (.broker index kind) = -1 ∧ stored state (.disp index kind) = -1)

theorem Paired.absent {state : BrokerState sxml size} (paired : Paired state) {index : Fin size}
    {kind : KindType} (missing : serviceThere state index kind = false) :
    (state.components index).serv kind = ⟨-1, -1⟩ := by
  rcases paired index kind with ⟨broker, disp⟩ | ⟨broker, disp⟩
  · simp [serviceThere, broker, disp] at missing
  · cases entry : (state.components index).serv kind with
    | mk first second =>
        simp only [stored, entry] at broker disp
        rw [broker, disp]

theorem World.setServ_same (world : World sxml size) (index : Fin size) (kind : KindType)
    (entry : ServiceEntry) (same : (world.state.components index).serv kind = entry) :
    world.setServ index kind entry = world := by
  subst same
  simp only [World.setServ, World.setComponent, Function.update_eq_self]

/-! What an attempt that failed leaves behind: nothing but the loss of `closed`. -/

structure Undone (world rest : World sxml size) (closed : List Int) : Prop where
  state : rest.state = world.state
  sent : rest.sent = world.sent
  handled : rest.handled = world.handled
  peers : rest.peers ⊆ world.peers
  opened : ∀ fd, valid fd = true →
    (fd ∈ rest.table.opened ↔ fd ∈ world.table.opened ∧ fd ∉ closed)
  watched : ∀ fd, valid fd = true → fd ∈ world.table.opened → fd ∉ closed →
    fd ∈ world.table.watched → fd ∈ rest.table.watched
  evolves : Evolves world.table rest.table

theorem Undone.refl (world : World sxml size) : Undone world world [] := by
  refine ⟨rfl, rfl, rfl, List.Subset.refl _, ?_, ?_, .refl⟩
  · simp
  · exact fun _ _ _ _ member => member

theorem Undone.congr {world rest : World sxml size} {closed other : List Int}
    (undone : Undone world rest closed)
    (same : ∀ fd, valid fd = true → (fd ∈ other ↔ fd ∈ closed)) : Undone world rest other := by
  refine ⟨undone.state, undone.sent, undone.handled, undone.peers, ?_, ?_, undone.evolves⟩
  · intro fd open_
    rw [undone.opened fd open_, same fd open_]
  · intro fd open_ member kept
    rw [same fd open_] at kept
    exact undone.watched fd open_ member kept

theorem Undone.close {world rest : World sxml size} {closed : List Int}
    (undone : Undone world rest closed) (fd : Int) :
    Undone world (rest.close fd) (fd :: closed) := by
  refine ⟨?_, ?_, ?_, ?_, ?_, ?_, ?_⟩
  · rw [World.close_state, undone.state]
  · rw [World.close_sent, undone.sent]
  · rw [World.close_handled, undone.handled]
  · exact List.Subset.trans (World.close_peers rest fd) undone.peers
  · intro other open_
    rw [World.close_table, mem_close _ _ _ open_, undone.opened other open_, List.mem_cons, not_or]
    tauto
  · intro other open_ member kept watched
    rw [List.mem_cons, not_or] at kept
    rw [World.close_table, mem_close_watched _ _ _ open_]
    exact ⟨undone.watched other open_ member kept.2 watched, kept.1⟩
  · rw [World.close_table]
    exact undone.evolves.close fd

theorem Undone.closeAll {world rest : World sxml size} {closed : List Int}
    (undone : Undone world rest closed) (fds : List Int) :
    Undone world (rest.closeAll fds) (fds ++ closed) := by
  induction fds generalizing rest closed with
  | nil => exact undone
  | cons fd others ih =>
      refine (ih (undone.close fd)).congr fun other _ => ?_
      simp only [List.mem_append, List.mem_cons]
      tauto

/-! A pair that was created and closed again is gone. -/

theorem Undone.pair {world rest : World sxml size} {first second : Int} {others : List Int}
    (seals : List (Int × Seal)) (granted : world.table.grantsPair first second = true)
    (started : Undone
      { world with table := (world.table.insert first).insert second, seals := seals }
      rest (first :: second :: others)) : Undone world rest others := by
  obtain ⟨⟨_, firstFresh⟩, ⟨_, secondFresh⟩, _⟩ := (grantsPair_iff _ first second).mp granted
  have evolves := ((Evolves.refl.insert first).insert second).trans started.evolves
  refine ⟨started.state, started.sent, started.handled, started.peers, ?_, ?_, evolves⟩
  · intro fd open_
    rw [started.opened fd open_]
    simp only [mem_insert, List.mem_cons, not_or]
    constructor
    · rintro ⟨same | same | member, notFirst, notSecond, kept⟩
      · exact (notSecond same).elim
      · exact (notFirst same).elim
      · exact ⟨member, kept⟩
    · rintro ⟨member, kept⟩
      refine ⟨Or.inr (Or.inr member), ?_, ?_, kept⟩
      · rintro rfl
        exact firstFresh member
      · rintro rfl
        exact secondFresh member
  · intro fd open_ member kept watched
    refine started.watched fd open_ (by simp [member]) ?_ watched
    simp only [List.mem_cons, not_or]
    refine ⟨?_, ?_, kept⟩
    · rintro rfl
      exact firstFresh member
    · rintro rfl
      exact secondFresh member

theorem setupService_cases (world : World sxml size) (index : Fin size) (kind : KindType)
    (outcome : Outcome) (paired : Paired world.state) :
    (serviceThere world.state index kind = true ∧
      setupService world index kind outcome = (world, true)) ∨
    (∃ broker disp, serviceThere world.state index kind = false ∧
      outcome.service = some (broker, disp) ∧ world.table.grantsPair broker disp = true ∧
      outcome.serviceAdd = true ∧
      setupService world index kind outcome =
        (World.setServ
          { world with table := ((world.table.insert broker).insert disp).watch broker true }
          index kind ⟨broker, disp⟩, true)) ∨
    (∃ rest, serviceThere world.state index kind = false ∧
      (outcome.serviceAdd = true → refusesPair world.table outcome.service) ∧
      Undone world rest [] ∧ setupService world index kind outcome = (rest, false)) := by
  by_cases there : serviceThere world.state index kind = true
  · refine Or.inl ⟨there, ?_⟩
    simp only [serviceThere, stored] at there
    simp only [setupService, there, ↓reduceIte]
  · have missing : serviceThere world.state index kind = false := by simpa using there
    have absent := paired.absent missing
    have skipped : (valid ((world.state.components index).serv kind).broker &&
        valid ((world.state.components index).serv kind).disp) = false := missing
    rcases allocatePair_cases world.table outcome.service with
      refused | ⟨broker, disp, offered, granted, allocated⟩
    · refine Or.inr (Or.inr ⟨world, missing, fun _ => refusesPair_of_failed _ _ refused,
        Undone.refl world, ?_⟩)
      simp only [setupService, skipped, refused, not_valid_negative]
      exact Prod.ext (World.setServ_same world index kind _ absent) rfl
    · obtain ⟨⟨brokerValid, _⟩, ⟨dispValid, _⟩, _⟩ := (grantsPair_iff _ _ _).mp granted
      cases added : outcome.serviceAdd with
      | true =>
          refine Or.inr (Or.inl ⟨broker, disp, missing, offered, granted, rfl, ?_⟩)
          simp only [setupService, skipped, allocated, brokerValid, dispValid, added]
          rfl
      | false =>
          let start : World sxml size :=
            { world with table := (world.table.insert broker).insert disp }
          have closed := ((Undone.refl start).close broker).close disp
          refine Or.inr (Or.inr ⟨(start.close broker).close disp, missing, by simp, ?_, ?_⟩)
          · refine Undone.pair world.seals granted (closed.congr fun fd _ => ?_)
            simp only [List.mem_cons]
            tauto
          · have same := World.setServ_same ((start.close broker).close disp) index kind ⟨-1, -1⟩
              (by simpa [start] using absent)
            simp only [setupService, skipped, allocated, brokerValid, dispValid, added]
            exact Prod.ext same rfl

theorem setupService_sent {world rest : World sxml size} {index : Fin size} {kind : KindType}
    {outcome : Outcome} {ready : Bool}
    (result : setupService world index kind outcome = (rest, ready)) (paired : Paired world.state) :
    rest.sent = world.sent := by
  rcases setupService_cases world index kind outcome paired with
    ⟨_, same⟩ | ⟨_, _, _, _, _, _, same⟩ | ⟨other, _, _, undone, same⟩
  all_goals
    rw [result, Prod.mk.injEq] at same
    obtain ⟨rfl, _⟩ := same
  · rfl
  · rfl
  · exact undone.sent

/-! The procedures that create what a request asks for. -/

theorem processMessageRequest_cases (world : World sxml size) (outcome : Outcome) :
    (refusesPair world.table outcome.session ∧
      processMessageRequest world outcome = (world, [-1, -1, -1, -1], false)) ∨
    (∃ first second, outcome.session = some (first, second) ∧
      world.table.grantsPair first second = true ∧
      processMessageRequest world outcome =
        ({ world with table := (world.table.insert first).insert second },
          [first, second, -1, -1], true)) := by
  rcases allocatePair_cases world.table outcome.session with
    failed | ⟨first, second, offered, granted, allocated⟩
  · refine Or.inl ⟨refusesPair_of_failed _ _ failed, ?_⟩
    simp only [processMessageRequest, failed, not_valid_negative]
    rfl
  · obtain ⟨⟨firstValid, _⟩, ⟨secondValid, _⟩, _⟩ := (grantsPair_iff _ _ _).mp granted
    refine Or.inr ⟨first, second, offered, granted, ?_⟩
    simp only [processMessageRequest, allocated, firstValid, secondValid]
    rfl

def allSeals (fd : Int) : List (Int × Seal) := [(fd, .shrink), (fd, .grow), (fd, .seal)]

def sealsSucceed (outcome : Outcome) : Bool :=
  outcome.sealShrink && outcome.sealGrow && outcome.sealSeal

theorem memfdSeal_cases (world : World sxml size) (fd : Int) (outcome : Outcome) :
    (sealsSucceed outcome = true ∧
      world.memfdSeal fd outcome = ({ world with seals := world.seals ++ allSeals fd }, true)) ∨
    (∃ seals, sealsSucceed outcome = false ∧
      world.memfdSeal fd outcome = ({ world with seals := seals }, false)) := by
  unfold World.memfdSeal sealsSucceed
  cases outcome.sealShrink with
  | false => exact Or.inr ⟨_, rfl, rfl⟩
  | true =>
      cases outcome.sealGrow with
      | false => exact Or.inr ⟨_, rfl, rfl⟩
      | true =>
          cases outcome.sealSeal with
          | false => exact Or.inr ⟨_, rfl, rfl⟩
          | true => exact Or.inl ⟨rfl, by simp [allSeals]⟩

theorem processMemoryRequest_cases (world : World sxml size) (fdsIn : List Int)
    (outcome : Outcome) :
    (valid (fdsIn.headD (-1)) = false ∧
      processMemoryRequest world fdsIn outcome = (world, [-1, -1, -1, -1], false)) ∨
    (∃ seals, valid (fdsIn.headD (-1)) = true ∧
      (sealsSucceed outcome = true → refusesPair world.table outcome.session) ∧
      processMemoryRequest world fdsIn outcome =
        (World.close { world with seals := seals } (fdsIn.headD (-1)), [-1, -1, -1, -1], false)) ∨
    (∃ first second, valid (fdsIn.headD (-1)) = true ∧ sealsSucceed outcome = true ∧
      outcome.session = some (first, second) ∧ world.table.grantsPair first second = true ∧
      processMemoryRequest world fdsIn outcome =
        ({ world with
            table := (world.table.insert first).insert second
            seals := world.seals ++ allSeals (fdsIn.headD (-1)) },
          [first, second, fdsIn.headD (-1), -1], true)) := by
  cases memory : valid (fdsIn.headD (-1)) with
  | false =>
      refine Or.inl ⟨rfl, ?_⟩
      simp only [processMemoryRequest, memory, Bool.not_false, ↓reduceIte]
  | true =>
      rcases memfdSeal_cases world (fdsIn.headD (-1)) outcome with
        ⟨sealed, same⟩ | ⟨seals, failed, same⟩
      · rcases allocatePair_cases world.table outcome.session with
          refused | ⟨first, second, offered, granted, allocated⟩
        · refine Or.inr (Or.inl ⟨world.seals ++ allSeals (fdsIn.headD (-1)), rfl,
            fun _ => refusesPair_of_failed _ _ refused, ?_⟩)
          simp only [processMemoryRequest, memory, same, refused, not_valid_negative]
          rfl
        · obtain ⟨⟨firstValid, _⟩, ⟨secondValid, _⟩, _⟩ := (grantsPair_iff _ _ _).mp granted
          refine Or.inr (Or.inr ⟨first, second, rfl, sealed, offered, granted, ?_⟩)
          simp only [processMemoryRequest, memory, same, allocated, firstValid, secondValid]
          rfl
      · refine Or.inr (Or.inl ⟨seals, rfl, fun sealed => ?_, ?_⟩)
        · rw [failed] at sealed
          cases sealed
        · simp only [processMemoryRequest, memory, same]
          rfl

theorem processRomRequest_cases (world : World sxml size) (service : sxml.State)
    (outcome : Outcome) :
    (∃ files, ((findResourceLocation world.state service).2 = true →
        ∀ fd, outcome.file = some fd → world.table.fresh fd = false) ∧
      processRomRequest world service outcome =
        ({ world with files := files }, [-1, -1, -1, -1], false)) ∨
    (∃ fd, (findResourceLocation world.state service).2 = true ∧ outcome.file = some fd ∧
      world.table.fresh fd = true ∧
      processRomRequest world service outcome =
        ({ world with
            table := world.table.insert fd
            files := world.files ++ [(findResourceLocation world.state service).1] },
          [fd, -1, -1, -1], true)) := by
  cases found : (findResourceLocation world.state service).2 with
  | false =>
      refine Or.inl ⟨world.files, by simp, ?_⟩
      simp only [processRomRequest, found]
      rfl
  | true =>
      cases offered : outcome.file with
      | none =>
          refine Or.inl ⟨world.files ++ [(findResourceLocation world.state service).1], by simp, ?_⟩
          simp only [processRomRequest, found, offered, Table.allocate]
          rfl
      | some fd =>
          cases fresh : world.table.fresh fd with
          | false =>
              refine Or.inl ⟨world.files ++ [(findResourceLocation world.state service).1],
                by simp [fresh], ?_⟩
              simp only [processRomRequest, found, offered, Table.allocate, fresh]
              rfl
          | true =>
              refine Or.inr ⟨fd, rfl, rfl, fresh, ?_⟩
              simp only [processRomRequest, found, offered, Table.allocate, fresh, ↓reduceIte,
                ((fresh_iff _ _).mp fresh).1]

theorem processTimerRequest_cases (world : World sxml size) (outcome : Outcome) :
    ((∀ fd, outcome.timer = some fd → world.table.fresh fd = false) ∧
      processTimerRequest world outcome = (world, [-1, -1, -1, -1], false)) ∨
    (∃ fd, outcome.timer = some fd ∧ world.table.fresh fd = true ∧
      processTimerRequest world outcome =
        ({ world with table := world.table.insert fd }, [fd, -1, -1, -1], true)) := by
  cases offered : outcome.timer with
  | none =>
      refine Or.inl ⟨by simp, ?_⟩
      simp only [processTimerRequest, offered, Table.allocate]
      rfl
  | some fd =>
      cases fresh : world.table.fresh fd with
      | false =>
          refine Or.inl ⟨by simp [fresh], ?_⟩
          simp only [processTimerRequest, offered, Table.allocate, fresh]
          rfl
      | true =>
          refine Or.inr ⟨fd, rfl, fresh, ?_⟩
          simp only [processTimerRequest, offered, Table.allocate, fresh, ↓reduceIte,
            ((fresh_iff _ _).mp fresh).1]

/-! Replies change nothing but what has been sent. -/

theorem processConfirm_cases (world : World sxml size) (kind : KindType) (name label : Text)
    (fds : List Int) :
    ((findComponentByName world.state name = none ∨ kind = .rom ∨ kind = .timer) ∧
      processConfirm world kind name label fds = world) ∨
    (∃ index, findComponentByName world.state name = some index ∧ kind ≠ .rom ∧ kind ≠ .timer ∧
      ((valid (fds.headD (-1)) = true ∧
          processConfirm world kind name label fds =
            world.sendConfirm (world.state.components index).fd kind label [fds.headD (-1)]) ∨
        (valid (fds.headD (-1)) = false ∧
          processConfirm world kind name label fds =
            world.sendReject (world.state.components index).fd kind label))) := by
  cases found : findComponentByName world.state name with
  | none => exact Or.inl ⟨Or.inl rfl, by simp only [processConfirm, found]⟩
  | some index =>
      by_cases own : kind = .rom ∨ kind = .timer
      · refine Or.inl ⟨Or.inr own, ?_⟩
        rcases own with rfl | rfl <;> simp only [processConfirm, found]
      · obtain ⟨notRom, notTimer⟩ := not_or.mp own
        refine Or.inr ⟨index, rfl, notRom, notTimer, ?_⟩
        have reply : processConfirm world kind name label fds =
            if 0 < fds.length ∧ 0 ≤ fds.headD (-1) then
              world.sendConfirm (world.state.components index).fd kind label (fds.take 1)
            else world.sendReject (world.state.components index).fd kind label := by
          cases kind with
          | rom => exact (notRom rfl).elim
          | timer => exact (notTimer rfl).elim
          | message | log | memory => simp only [processConfirm, found]
        rw [reply]
        cases fds with
        | nil => exact Or.inr ⟨rfl, by simp⟩
        | cons head rest =>
            cases open_ : valid head with
            | true =>
                rw [valid_iff] at open_
                exact Or.inl ⟨by simpa [valid_iff] using open_, by simp [open_]⟩
            | false =>
                have negative : ¬0 ≤ head := by
                  intro positive
                  rw [(valid_iff head).mpr positive] at open_
                  cases open_
                exact Or.inr ⟨open_, by simp [negative]⟩

theorem processReject_cases (world : World sxml size) (kind : KindType) (name label : Text) :
    (findComponentByName world.state name = none ∧
      processReject world kind name label = world) ∨
    (∃ index, findComponentByName world.state name = some index ∧
      processReject world kind name label =
        world.sendReject (world.state.components index).fd kind label) := by
  cases found : findComponentByName world.state name with
  | none => exact Or.inl ⟨rfl, by simp only [processReject, found]⟩
  | some index => exact Or.inr ⟨index, rfl, by simp only [processReject, found]⟩

theorem processConfirm_sends (world : World sxml size) (kind : KindType) (name label : Text)
    (fds : List Int) :
    processConfirm world kind name label fds = world ∨
      ∃ message, processConfirm world kind name label fds = world.send message := by
  rcases processConfirm_cases world kind name label fds with
    ⟨_, same⟩ | ⟨_, _, _, _, ⟨_, same⟩ | ⟨_, same⟩⟩
  · exact Or.inl same
  · exact Or.inr ⟨_, same⟩
  · exact Or.inr ⟨_, same⟩

theorem processReject_sends (world : World sxml size) (kind : KindType) (name label : Text) :
    processReject world kind name label = world ∨
      ∃ message, processReject world kind name label = world.send message := by
  rcases processReject_cases world kind name label with ⟨_, same⟩ | ⟨_, _, same⟩
  · exact Or.inl same
  · exact Or.inr ⟨_, same⟩

theorem handleMessage_invariant (Inv : World sxml size → Prop) (world : World sxml size)
    (source : Fin size) (action : ActionType) (kind : KindType) (name label : Text)
    (fds : List Int) (outcome : Outcome) (unchanged : Inv world)
    (sent : ∀ message, Inv (world.send message))
    (requested : Inv (processRequest world source kind label fds outcome))
    (registered : Inv (processRegister world source kind outcome)) :
    Inv (handleMessage world source action kind name label fds outcome) := by
  unfold handleMessage
  cases action with
  | request =>
      simp only
      split
      · exact unchanged
      · exact requested
  | confirm =>
      simp only
      split
      · exact unchanged
      · rcases processConfirm_sends world kind name label fds with same | ⟨message, same⟩
        · rw [same]
          exact unchanged
        · rw [same]
          exact sent message
  | reject =>
      simp only
      split
      · exact unchanged
      · rcases processReject_sends world kind name label with same | ⟨message, same⟩
        · rw [same]
          exact unchanged
        · rw [same]
          exact sent message
  | register => exact registered

/-! One iteration of the event loop reads a message, drops a component, or both. -/

theorem eventLoopStep_cases (generated : GeneratedPacket) (world : World sxml size)
    (input : Input) :
    eventLoopStep generated world input = world ∨
    ∃ index middle, input.fd ∈ world.table.watched ∧ getDest world.state input.fd = some index ∧
      valid (world.state.components index).fd = true ∧
      (middle = world ∨
        middle = readMessage generated world index input.delivery input.outcome) ∧
      (eventLoopStep generated world input = middle ∨
        eventLoopStep generated world input = hangUp middle index input.outcome) := by
  unfold eventLoopStep
  split
  · rename_i watched
    unfold iteration
    cases found : getDest world.state input.fd with
    | none => exact Or.inl rfl
    | some index =>
        cases live : valid (world.state.components index).fd with
        | false =>
            simp only [live]
            exact Or.inl rfl
        | true =>
            simp only [live, ↓reduceIte]
            refine Or.inr ⟨index, _, watched, rfl, live, ?_, ite_eq_or_eq _ _ _ |>.symm⟩
            exact (ite_eq_or_eq _ _ _).symm
  · exact Or.inl rfl

theorem eventLoopStep_invariant (Inv : World sxml size → Prop) (generated : GeneratedPacket)
    (world : World sxml size) (input : Input) (unchanged : Inv world)
    (read : ∀ index, Inv (readMessage generated world index input.delivery input.outcome))
    (dropped : ∀ middle index, Inv middle → Inv (hangUp middle index input.outcome)) :
    Inv (eventLoopStep generated world input) := by
  rcases eventLoopStep_cases generated world input with
    same | ⟨index, middle, _, _, _, reads, same⟩
  · rw [same]
    exact unchanged
  · have handled : Inv middle := by
      rcases reads with rfl | rfl
      · exact unchanged
      · exact read index
    rcases same with same | same
    · rw [same]
      exact handled
    · rw [same]
      exact dropped middle index handled

end Gneiss
