import Gneiss.Broker.RequestEffects
import Gneiss.Broker.StartupRuns

/-!
Which descriptors the broker's tables hold. `Ownership` is the invariant behind the attribution of
messages: every descriptor belongs to one component, and `getDest` finds that component.
-/

namespace Gneiss

open Descriptors Runs

variable {sxml : Sxml} {size : Nat}

structure Ownership (world : World sxml size) : Prop where
  owned : Owned world.table (stored world.state)
  paired : Paired world.state
  watched : ∀ index kind, valid (stored world.state (.broker index kind)) = true →
    stored world.state (.broker index kind) ∈ world.table.watched
  attributed : ∀ peer ∈ world.peers, valid peer.1 = true ∧
    (stored world.state (.control peer.2) = peer.1 ∨
      ∃ kind, stored world.state (.broker peer.2 kind) = peer.1)

def Unowned (state : BrokerState sxml size) (fd : Int) : Prop :=
  ∀ place, valid fd = true → stored state place ≠ fd

theorem stored_setServ (world : World sxml size) (index : Fin size) (kind : KindType)
    (entry : ServiceEntry) :
    stored (world.setServ index kind entry).state =
      Function.update (Function.update (stored world.state) (.broker index kind) entry.broker)
        (.disp index kind) entry.disp := by
  funext place
  cases place with
  | control other =>
      by_cases same : other = index
      · subst same
        simp [stored, World.setServ, World.setComponent]
      · simp [stored, World.setServ, World.setComponent, same]
  | broker other otherKind =>
      by_cases same : other = index
      · subst same
        by_cases sameKind : otherKind = kind
        · subst sameKind
          simp [stored, World.setServ, World.setComponent]
        · simp [stored, World.setServ, World.setComponent, sameKind]
      · simp [stored, World.setServ, World.setComponent, same]
  | disp other otherKind =>
      by_cases same : other = index
      · subst same
        by_cases sameKind : otherKind = kind
        · subst sameKind
          simp [stored, World.setServ, World.setComponent]
        · simp [stored, World.setServ, World.setComponent, sameKind]
      · simp [stored, World.setServ, World.setComponent, same]

theorem stored_setComponent (world : World sxml size) (index : Fin size)
    (component : ComponentDefinition sxml)
    (sameServices : component.serv = (world.state.components index).serv) :
    stored (world.setComponent index component).state =
      Function.update (stored world.state) (.control index) component.fd := by
  funext place
  cases place with
  | control other =>
      by_cases same : other = index
      · subst same
        simp [stored, World.setComponent]
      · simp [stored, World.setComponent, same]
  | broker other kind =>
      by_cases same : other = index
      · subst same
        simp [stored, World.setComponent, sameServices]
      · simp [stored, World.setComponent, same]
  | disp other kind =>
      by_cases same : other = index
      · subst same
        simp [stored, World.setComponent, sameServices]
      · simp [stored, World.setComponent, same]

/-! Steps that leave the tables of the broker alone. -/

theorem Ownership.congr {world other : World sxml size} (ownership : Ownership world)
    (same : stored other.state = stored world.state) (peers : other.peers ⊆ world.peers)
    (opened : ∀ fd, valid fd = true → fd ∈ world.table.opened → fd ∈ other.table.opened)
    (watched : ∀ fd, valid fd = true → fd ∈ world.table.opened → fd ∈ world.table.watched →
      fd ∈ other.table.watched) : Ownership other := by
  refine ⟨?_, ?_, ?_, ?_⟩
  · rw [same]
    exact ownership.owned.of_opened fun place open_ member => opened _ open_ member
  · simp only [Paired, same]
    exact ownership.paired
  · rw [same]
    intro index kind open_
    exact watched _ open_ (ownership.owned.opened _ open_) (ownership.watched index kind open_)
  · rw [same]
    exact fun peer member => ownership.attributed peer (peers member)

theorem Ownership.close {world : World sxml size} (ownership : Ownership world) (fd : Int)
    (unowned : Unowned world.state fd) : Ownership (world.close fd) := by
  unfold World.close
  split
  · exact ownership
  have differs : ∀ place, valid (stored world.state place) = true →
      stored world.state place ≠ fd := by
    intro place open_ same
    rw [same] at open_
    exact unowned place open_ same
  refine ⟨?_, ownership.paired, ?_, ?_⟩
  · apply ownership.owned.of_opened
    intro place open_ member
    exact (mem_close world.table fd _ open_).mpr ⟨member, differs place open_⟩
  · intro index kind open_
    exact (mem_close_watched world.table fd _ open_).mpr
      ⟨ownership.watched index kind open_, differs (.broker index kind) open_⟩
  · intro peer member
    exact ownership.attributed peer (List.mem_filter.mp member).1

theorem Ownership.closeAll {world : World sxml size} (ownership : Ownership world)
    (fds : List Int) (unowned : ∀ fd ∈ fds, Unowned world.state fd) :
    Ownership (world.closeAll fds) := by
  induction fds generalizing world with
  | nil => exact ownership
  | cons fd rest ih =>
      have closed := ownership.close fd (unowned fd (by simp))
      refine ih closed fun other member => ?_
      rw [World.close_state]
      exact unowned other (by simp [member])

theorem Ownership.undone {world rest : World sxml size} {closed : List Int}
    (ownership : Ownership world) (undone : Undone world rest closed)
    (unowned : ∀ fd ∈ closed, Unowned world.state fd) : Ownership rest := by
  have kept : ∀ place, valid (stored world.state place) = true →
      stored world.state place ∉ closed := by
    intro place open_ member
    exact unowned _ member place open_ rfl
  refine ⟨?_, ?_, ?_, ?_⟩
  · rw [undone.state]
    apply ownership.owned.of_opened
    intro place open_ member
    exact (undone.opened _ open_).mpr ⟨member, kept place open_⟩
  · rw [undone.state]
    exact ownership.paired
  · rw [undone.state]
    intro index kind open_
    exact undone.watched _ open_ (ownership.owned.opened _ open_)
      (kept (.broker index kind) open_) (ownership.watched index kind open_)
  · rw [undone.state]
    exact fun peer member => ownership.attributed peer (undone.peers member)

theorem Ownership.send {world : World sxml size} (ownership : Ownership world) (message : Sent) :
    Ownership (world.send message) :=
  ⟨ownership.owned, ownership.paired, ownership.watched, ownership.attributed⟩

/-! Services and the messages that create them. -/

theorem Ownership.created {world : World sxml size} (ownership : Ownership world)
    {index : Fin size} {kind : KindType} (missing : serviceThere world.state index kind = false)
    {broker disp : Int} (granted : world.table.grantsPair broker disp = true) :
    Ownership (World.setServ
      { world with table := ((world.table.insert broker).insert disp).watch broker true }
      index kind ⟨broker, disp⟩) := by
  obtain ⟨⟨brokerValid, brokerFresh⟩, ⟨dispValid, dispFresh⟩, different⟩ :=
    (grantsPair_iff _ _ _).mp granted
  have absent := ownership.paired.absent missing
  constructor
  · rw [stored_setServ]
    have stillFresh : disp ∉ (world.table.insert broker).opened := by
      simp [Ne.symm different, dispFresh]
    have assigned := (ownership.owned.assign (.broker index kind) brokerFresh).assign
      (.disp index kind) stillFresh
    exact assigned.of_opened fun _ _ member => member
  · simp only [Paired, stored_setServ]
    intro other otherKind
    by_cases same : other = index ∧ otherKind = kind
    · obtain ⟨rfl, rfl⟩ := same
      simp [brokerValid, dispValid]
    · simpa [same] using ownership.paired other otherKind
  · rw [stored_setServ]
    intro other otherKind open_
    by_cases same : other = index ∧ otherKind = kind
    · obtain ⟨rfl, rfl⟩ := same
      simp [World.setServ, World.setComponent, Table.watch]
    · simp only [ne_eq, reduceCtorEq, not_false_eq_true, Function.update_of_ne, Place.broker.injEq,
        same] at open_ ⊢
      have before := ownership.watched other otherKind open_
      simp [World.setServ, World.setComponent, Table.watch, Table.insert, before]
  · rw [stored_setServ]
    intro peer member
    obtain ⟨peerValid, place⟩ := ownership.attributed peer member
    refine ⟨peerValid, ?_⟩
    rcases place with control | ⟨otherKind, service⟩
    · exact Or.inl (by simpa using control)
    · refine Or.inr ⟨otherKind, ?_⟩
      by_cases same : peer.2 = index ∧ otherKind = kind
      · simp only [stored, same.1, same.2, absent] at service
        rw [← service] at peerValid
        cases peerValid
      · simpa [same] using service

theorem Ownership.setupService {world : World sxml size} (ownership : Ownership world)
    (index : Fin size) (kind : KindType) (outcome : Outcome) :
    Ownership (setupService world index kind outcome).1 := by
  rcases setupService_cases world index kind outcome ownership.paired with
    ⟨_, same⟩ | ⟨broker, disp, missing, _, granted, _, same⟩ | ⟨rest, _, _, undone, same⟩
  · rw [same]
    exact ownership
  · rw [same]
    exact ownership.created missing granted
  · rw [same]
    exact ownership.undone undone (by simp)

theorem setupService_ready {world rest : World sxml size} {index : Fin size} {kind : KindType}
    {outcome : Outcome} (ready : setupService world index kind outcome = (rest, true))
    (paired : Paired world.state) :
    serviceThere rest.state index kind = true := by
  rcases setupService_cases world index kind outcome paired with
    ⟨there, same⟩ | ⟨broker, disp, _, _, granted, _, same⟩ | ⟨other, _, _, _, same⟩
  · rw [ready, Prod.mk.injEq] at same
    rw [same.1]
    exact there
  · rw [ready, Prod.mk.injEq] at same
    obtain ⟨⟨brokerValid, _⟩, ⟨dispValid, _⟩, _⟩ := (grantsPair_iff _ _ _).mp granted
    rw [same.1]
    simp [serviceThere, stored_setServ, brokerValid, dispValid]
  · rw [ready, Prod.mk.injEq] at same
    cases same.2

theorem head_unowned {state : BrokerState sxml size} {fds : List Int}
    (loose : ∀ fd ∈ fds, Unowned state fd) : Unowned state (fds.headD (-1)) := by
  cases fds with
  | nil =>
      intro place open_
      cases open_
  | cons fd rest => exact loose fd (by simp)

theorem consumed_unowned {state : BrokerState sxml size} {fds : List Int} (source : Fin size)
    (kind : KindType) (label : Text) (loose : ∀ fd ∈ fds, Unowned state fd) :
    ∀ fd ∈ consumed state source kind label fds, Unowned state fd := by
  intro fd member
  unfold consumed at member
  split at member
  · rw [List.mem_singleton] at member
    rw [member]
    exact head_unowned loose
  · cases member

theorem Ownership.insert {world : World sxml size} (ownership : Ownership world) (fd : Int)
    (files : List Text) : Ownership { world with table := world.table.insert fd, files := files } :=
  ownership.congr rfl (List.Subset.refl _) (fun other _ member => by simp [member])
    fun _ _ _ member => member

theorem Ownership.processRequest {world : World sxml size} (ownership : Ownership world)
    (source : Fin size) (kind : KindType) (label : Text) (fds : List Int) (outcome : Outcome)
    (loose : ∀ fd ∈ fds, Unowned world.state fd) :
    Ownership (processRequest world source kind label fds outcome) := by
  apply processRequest_invariant Ownership world source kind label fds outcome ownership.paired
  · exact ownership
  · intro rest message undone
    exact (ownership.undone undone (consumed_unowned source kind label loose)).send message
  · exact fun created files message => (ownership.insert created files).send message
  · intro index first second rest message ready
    have started : Ownership { world with
        table := (world.table.insert first).insert second
        seals := sealedBy world.seals kind fds } :=
      ownership.congr rfl (List.Subset.refl _) (fun other _ member => by simp [member])
        fun _ _ _ member => member
    have set := started.setupService index kind outcome
    rw [ready] at set
    exact set.send message

theorem Ownership.processRegister {world : World sxml size} (ownership : Ownership world)
    (source : Fin size) (kind : KindType) (outcome : Outcome) :
    Ownership (processRegister world source kind outcome) := by
  have set := ownership.setupService source kind outcome
  unfold Gneiss.processRegister
  rcases result : Gneiss.setupService world source kind outcome with ⟨rest, ready⟩
  rw [result] at set
  cases ready with
  | false => exact set.send _
  | true =>
      have there := setupService_ready result ownership.paired
      simp only [serviceThere, Bool.and_eq_true] at there
      have registered : Ownership { rest with
          peers := rest.peers ++ [(stored rest.state (.broker source kind), source)] } := by
        refine ⟨set.owned, set.paired, set.watched, ?_⟩
        intro peer member
        rcases List.mem_append.mp member with before | last
        · exact set.attributed peer before
        · rw [List.mem_singleton] at last
          subst last
          exact ⟨there.1, Or.inr ⟨kind, rfl⟩⟩
      exact registered.send _

theorem Ownership.handleMessage {world : World sxml size} (ownership : Ownership world)
    (source : Fin size) (action : ActionType) (kind : KindType) (name label : Text)
    (fds : List Int) (outcome : Outcome) (loose : ∀ fd ∈ fds, Unowned world.state fd) :
    Ownership (handleMessage world source action kind name label fds outcome) := by
  apply handleMessage_invariant Ownership
  · exact ownership
  · exact ownership.send
  · exact ownership.processRequest source kind label fds outcome loose
  · exact ownership.processRegister source kind outcome

theorem Ownership.readMessage {world : World sxml size} (ownership : Ownership world)
    (generated : GeneratedPacket) (index : Fin size) (delivery : Delivery) (outcome : Outcome) :
    Ownership (readMessage generated world index delivery outcome) := by
  have loose : ∀ fd ∈ (world.table.receive delivery.fds).2, Unowned world.state fd := by
    intro fd member place open_
    exact ownership.owned.ne_of_fresh open_ (received_fresh _ _ _ open_ member) place
  have received : Ownership { world with table := (world.table.receive delivery.fds).1 } := by
    refine ownership.congr rfl (List.Subset.refl _) ?_ ?_
    · exact fun fd open_ member => (mem_receive _ _ _ open_).mpr (Or.inl member)
    · intro fd _ _ member
      rw [receive_watched]
      exact member
  unfold Gneiss.readMessage
  simp only
  split
  · exact received.closeAll _ loose
  · apply Ownership.handleMessage
    · exact ⟨received.owned, received.paired, received.watched, received.attributed⟩
    · exact loose

/-! A component that exits gives up its control socket only. -/

theorem Ownership.released {world other : World sxml size} (ownership : Ownership world)
    (index : Fin size)
    (same : stored other.state = Function.update (stored world.state) (.control index) (-1))
    (peers : ∀ peer ∈ other.peers, peer ∈ world.peers ∧
      peer.1 ≠ stored world.state (.control index))
    (opened : ∀ fd, valid fd = true → fd ∈ world.table.opened →
      fd ≠ stored world.state (.control index) → fd ∈ other.table.opened)
    (watched : ∀ fd, valid fd = true → fd ∈ world.table.watched →
      fd ≠ stored world.state (.control index) → fd ∈ other.table.watched) :
    Ownership other := by
  have different : ∀ otherIndex kind, valid (stored world.state (.broker otherIndex kind)) = true →
      stored world.state (.broker otherIndex kind) ≠ stored world.state (.control index) := by
    intro otherIndex kind open_ equal
    have impossible := ownership.owned.distinct _ _ open_ equal
    cases impossible
  refine ⟨?_, ?_, ?_, ?_⟩
  · rw [same]
    refine (ownership.owned.release (.control index)).of_opened ?_
    intro place open_ member
    rw [mem_close _ _ _ open_] at member
    exact opened _ open_ member.1 member.2
  · simpa [Paired, same] using ownership.paired
  · intro otherIndex kind open_
    simp only [same, ne_eq, reduceCtorEq, not_false_eq_true, Function.update_of_ne] at open_ ⊢
    exact watched _ open_ (ownership.watched otherIndex kind open_)
      (different otherIndex kind open_)
  · intro peer member
    obtain ⟨before, kept⟩ := peers peer member
    obtain ⟨open_, control | ⟨kind, service⟩⟩ := ownership.attributed peer before
    · have elsewhere : peer.2 ≠ index := by
        intro here
        rw [here] at control
        exact kept control.symm
      refine ⟨open_, Or.inl ?_⟩
      simpa [same, elsewhere] using control
    · exact ⟨open_, Or.inr ⟨kind, by simpa [same] using service⟩⟩

theorem Ownership.hangUp {world : World sxml size} (ownership : Ownership world)
    (index : Fin size) (outcome : Outcome) : Ownership (hangUp world index outcome) := by
  have stays : ∀ table : Table, stored
      ((World.close { world with table := table } (world.state.components index).fd).setComponent
        index
        { world.state.components index with
          fd := -1, node := sxml.init world.state.xml, pid := -1 }).state =
      Function.update (stored world.state) (.control index) (-1) := by
    intro table
    rw [stored_setComponent _ _ _ (by rw [World.close_state]), World.close_state]
  cases live : valid (world.state.components index).fd with
  | false =>
      simp only [Gneiss.hangUp, live]
      refine ownership.released index (stays world.table) ?_ ?_ ?_
      · intro peer member
        have before := World.close_peers _ _ member
        refine ⟨before, ?_⟩
        rintro same
        have open_ := (ownership.attributed peer before).1
        rw [same] at open_
        have dead : valid (stored world.state (.control index)) = false := live
        rw [dead] at open_
        cases open_
      · intro fd open_ member kept
        have closed := (mem_close world.table _ fd open_).mpr ⟨member, kept⟩
        simpa [World.setComponent, stored] using closed
      · intro fd open_ member kept
        have closed := (mem_close_watched world.table _ fd open_).mpr ⟨member, kept⟩
        simpa [World.setComponent, stored] using closed
  | true =>
      simp only [Gneiss.hangUp, live, ↓reduceIte]
      refine ownership.released index (stays _) ?_ ?_ ?_
      · intro peer member
        simp only [World.setComponent, World.close_valid _ _ live, List.mem_filter,
          decide_eq_true_eq] at member
        exact member
      · intro fd open_ member kept
        have closed := (mem_close (world.table.unwatch (world.state.components index).fd
          outcome.remove) _ fd open_).mpr ⟨by simpa using member, kept⟩
        simpa [World.setComponent, stored] using closed
      · intro fd open_ member kept
        have before : fd ∈ (world.table.unwatch (world.state.components index).fd
            outcome.remove).watched := by
          cases outcome.remove with
          | false => exact member
          | true => exact List.mem_filter.mpr ⟨member, by simpa [stored] using kept⟩
        have closed := (mem_close_watched _ _ fd open_).mpr ⟨before, kept⟩
        simpa [World.setComponent, stored] using closed

theorem Ownership.eventLoopStep {world : World sxml size} (ownership : Ownership world)
    (generated : GeneratedPacket) (input : Input) :
    Ownership (eventLoopStep generated world input) := by
  apply eventLoopStep_invariant Ownership
  · exact ownership
  · exact fun index => ownership.readMessage generated index input.delivery input.outcome
  · exact fun middle index handled => handled.hangUp index input.outcome

/-! Start-up fills the slots in order. -/

structure Starting (index : Nat) (world : World sxml size) : Prop where
  ownership : Ownership world
  ahead : ∀ slot : Fin size, index ≤ slot → stored world.state (.control slot) = -1

theorem Ownership.connect {world other : World sxml size} (ownership : Ownership world)
    (slot : Fin size) (free : stored world.state (.control slot) = -1) {broker : Int}
    (open_ : valid broker = true) (fresh : broker ∉ world.table.opened)
    (same : stored other.state = Function.update (stored world.state) (.control slot) broker)
    (peers : ∀ peer ∈ other.peers, peer ∈ world.peers ∨ peer = (broker, slot))
    (opened : ∀ fd, valid fd = true → fd = broker ∨ fd ∈ world.table.opened →
      fd ∈ other.table.opened)
    (watched : ∀ fd, valid fd = true → fd ∈ world.table.opened → fd ∈ world.table.watched →
      fd ∈ other.table.watched) : Ownership other := by
  refine ⟨?_, ?_, ?_, ?_⟩
  · rw [same]
    refine (ownership.owned.assign (.control slot) fresh).of_opened ?_
    intro place stays member
    rw [mem_insert] at member
    exact opened _ stays member
  · simpa [Paired, same] using ownership.paired
  · intro index kind stays
    simp only [same, ne_eq, reduceCtorEq, not_false_eq_true, Function.update_of_ne] at stays ⊢
    exact watched _ stays (ownership.owned.opened _ stays) (ownership.watched index kind stays)
  · intro peer member
    rcases peers peer member with before | rfl
    · obtain ⟨stays, control | ⟨kind, service⟩⟩ := ownership.attributed peer before
      · have elsewhere : peer.2 ≠ slot := by
          intro here
          rw [here, free] at control
          rw [← control] at stays
          cases stays
        exact ⟨stays, Or.inl (by simpa [same, elsewhere] using control)⟩
      · exact ⟨stays, Or.inr ⟨kind, by simpa [same] using service⟩⟩
    · exact ⟨open_, Or.inl (by simp [same])⟩

theorem stored_connected (world : World sxml size) (slot : Fin size) (broker fd : Int)
    (add : Bool) :
    stored (connected world slot broker fd add).state =
      Function.update (stored world.state) (.control slot) broker := by
  simp only [connected]
  exact stored_setComponent _ _ _ rfl

theorem connected_watched (world : World sxml size) (slot : Fin size) (broker fd other : Int)
    (add : Bool) (member : other ∈ world.table.watched) :
    other ∈ (connected world slot broker fd add).table.watched := by
  cases add with
  | false => simpa [connected, World.setComponent, Table.watch] using member
  | true => simp [connected, World.setComponent, Table.watch, member]

theorem stored_aborted (world : World sxml size) (slot : Fin size) (broker fd : Int) (add : Bool)
    (free : stored world.state (.control slot) = -1) :
    stored (aborted world slot broker fd add).state = stored world.state := by
  simp only [aborted]
  rw [stored_setComponent _ _ _ (by rfl), stored_connected, Function.update_idem, ← free,
    Function.update_eq_self]

theorem stored_started (world : World sxml size) (slot : Fin size) (query : sxml.State)
    (broker fd : Int) (launch : Launch) :
    stored (started world slot query broker fd launch).state =
      Function.update (stored world.state) (.control slot) broker := by
  have kept : ((connected world slot broker fd launch.add).state.components slot).fd = broker := by
    simp [connected, World.setComponent]
  simp only [started, World.close_state]
  rw [stored_setComponent _ _ _ (by rfl), stored_connected, kept, Function.update_idem]

theorem started_ownership {world : World sxml size} (ownership : Ownership world)
    (slot : Fin size) (free : stored world.state (.control slot) = -1) (query : sxml.State)
    (broker fd : Int) (launch : Launch) (granted : world.table.grantsPair broker fd = true) :
    Ownership (started world slot query broker fd launch) := by
  obtain ⟨⟨brokerValid, brokerFresh⟩, ⟨fdValid, fdFresh⟩, different⟩ :=
    (grantsPair_iff _ _ _).mp granted
  refine ownership.connect slot free brokerValid brokerFresh (stored_started _ _ _ _ _ _) ?_ ?_ ?_
  · intro peer member
    simp only [started, List.mem_append, List.mem_singleton] at member
    rcases member with before | last
    · have same := World.close_peers _ _ before
      exact Or.inl same
    · exact Or.inr last
  · intro other open_ member
    simp only [started, World.close_table, mem_close _ _ _ open_]
    have notFd : other ≠ fd := by
      rintro rfl
      rcases member with rfl | member
      · exact different rfl
      · exact fdFresh member
    refine ⟨?_, notFd⟩
    simp only [World.setComponent, connected, watch_opened, mem_insert]
    exact Or.inr member
  · intro other open_ member watched
    simp only [started, World.close_table, mem_close_watched _ _ _ open_]
    refine ⟨connected_watched world slot broker fd other launch.add watched, ?_⟩
    rintro rfl
    exact fdFresh member

theorem construct_ownership (boot : Boot sxml size) (world : World sxml size)
    (constructed : construct boot = some world) : Ownership world := by
  suffices starting : ∃ last, Starting last world by
    obtain ⟨last, holds⟩ := starting
    exact holds.ownership
  refine construct_invariant boot world Starting ?_ ?_ ?_ ?_ ?_ constructed
  · intro table epollFd _
    have nothing : ∀ place, stored (blank boot table epollFd).state place = -1 := by
      rintro (_ | _ | _) <;> rfl
    refine ⟨⟨⟨?_, ?_⟩, ?_, ?_, ?_⟩, fun slot _ => nothing _⟩
    · intro place open_
      rw [nothing] at open_
      cases open_
    · intro first second open_
      rw [nothing] at open_
      cases open_
    · exact fun index kind => Or.inr ⟨nothing _, nothing _⟩
    · intro index kind open_
      rw [nothing] at open_
      cases open_
    · intro peer member
      cases member
  · intro index middle starting
    exact ⟨starting.ownership, fun slot bound => starting.ahead slot (by omega)⟩
  · intro slot middle starting
    have same : stored (middle.setComponent slot
        { middle.state.components slot with fd := -1 }).state = stored middle.state := by
      rw [stored_setComponent _ _ _ (by rfl), ← starting.ahead slot (by omega),
        Function.update_eq_self]
    refine ⟨?_, ?_⟩
    · exact starting.ownership.congr same (List.Subset.refl _) (fun _ _ member => member)
        fun _ _ _ member => member
    · intro other bound
      rw [same]
      exact starting.ahead other (by omega)
  · intro slot middle broker fd add starting granted
    have free := starting.ahead slot (by omega)
    have same := stored_aborted middle slot broker fd add free
    refine ⟨?_, ?_⟩
    · refine starting.ownership.congr same (List.Subset.refl _) ?_ ?_
      · intro other _ member
        simp [aborted, connected, World.setComponent, member]
      · intro other _ _ member
        exact connected_watched middle slot broker fd other add member
    · intro other bound
      rw [same]
      exact starting.ahead other (by omega)
  · intro slot middle query broker fd launch starting granted _ _
    have free := starting.ahead slot (by omega)
    refine ⟨started_ownership starting.ownership slot free query broker fd launch granted, ?_⟩
    intro other bound
    have elsewhere : other ≠ slot := by
      rintro rfl
      omega
    rw [stored_started, Function.update_of_ne (by simpa using elsewhere)]
    exact starting.ahead other (by omega)

theorem reachable_ownership (generated : GeneratedPacket) (world : World sxml size)
    (reachable : Reachable generated world) : Ownership world :=
  reachable_invariant generated Ownership construct_ownership
    (fun _ input ownership => ownership.eventLoopStep generated input) world reachable

end Gneiss
