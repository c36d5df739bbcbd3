import Gneiss.Broker.Identity

/-!
Which descriptors stay open after a message was read. A descriptor leaks if it is neither one the
broker had before nor one of a service it has set up meanwhile.
-/

namespace Gneiss

open Descriptors

variable {sxml : Sxml} {size : Nat}

def InService (state : BrokerState sxml size) (fd : Int) : Prop :=
  ∃ index kind, ((state.components index).serv kind).broker = fd ∨
    ((state.components index).serv kind).disp = fd

def NoLeak (before after : World sxml size) : Prop :=
  ∀ fd, valid fd = true →
    (fd ∈ after.table.opened ↔
      fd ∈ before.table.opened ∨ (InService after.state fd ∧ ¬InService before.state fd))

theorem Ownership.inService_opened {world : World sxml size} (ownership : Ownership world)
    {fd : Int} (open_ : valid fd = true) (service : InService world.state fd) :
    fd ∈ world.table.opened := by
  obtain ⟨index, kind, broker | disp⟩ := service
  · rw [← broker] at open_ ⊢
    exact ownership.owned.opened (.broker index kind) open_
  · rw [← disp] at open_ ⊢
    exact ownership.owned.opened (.disp index kind) open_

/-! The descriptors a step adds, sorted into those it leaks and those it puts in service. -/

structure Adds (before after : World sxml size) (leaked created : List Int) : Prop where
  opened : ∀ fd, valid fd = true →
    (fd ∈ after.table.opened ↔ fd ∈ before.table.opened ∨ fd ∈ leaked ∨ fd ∈ created)
  services : ∀ fd, valid fd = true →
    (InService after.state fd ↔ InService before.state fd ∨ fd ∈ created)
  leakedFresh : ∀ fd ∈ leaked, valid fd = true → fd ∉ before.table.opened
  createdFresh : ∀ fd ∈ created, valid fd = true → fd ∉ before.table.opened ∧ fd ∉ leaked

theorem Adds.noLeak_iff {before after : World sxml size} {leaked created : List Int}
    (adds : Adds before after leaked created) (ownership : Ownership before) :
    NoLeak before after ↔ ∀ fd ∈ leaked, valid fd = false := by
  have notBefore : ∀ fd, valid fd = true → fd ∉ before.table.opened →
      ¬InService before.state fd :=
    fun fd open_ closed service => closed (ownership.inService_opened open_ service)
  constructor
  · intro noLeak fd member
    by_contra isValid
    rw [Bool.not_eq_false] at isValid
    rcases (noLeak fd isValid).mp ((adds.opened fd isValid).mpr (Or.inr (Or.inl member))) with
      already | ⟨service, unserved⟩
    · exact adds.leakedFresh fd member isValid already
    · rcases (adds.services fd isValid).mp service with served | new
      · exact unserved served
      · exact (adds.createdFresh fd new isValid).2 member
  · intro nothing fd open_
    rw [adds.opened fd open_, adds.services fd open_]
    constructor
    · rintro (already | leaks | new)
      · exact Or.inl already
      · rw [nothing fd leaks] at open_
        cases open_
      · exact Or.inr ⟨Or.inr new, notBefore fd open_ (adds.createdFresh fd new open_).1⟩
    · rintro (already | ⟨served | new, unserved⟩)
      · exact Or.inl already
      · exact (unserved served).elim
      · exact Or.inr (Or.inr new)

theorem Adds.leaks {before after : World sxml size} {leaked created : List Int}
    (adds : Adds before after leaked created) (ownership : Ownership before) {fd : Int}
    (member : fd ∈ leaked) (open_ : valid fd = true) : ¬NoLeak before after := by
  rw [adds.noLeak_iff ownership]
  intro closed
  rw [closed fd member] at open_
  cases open_

theorem setServ_inService {world : World sxml size} {index : Fin size} {kind : KindType}
    (absent : (world.state.components index).serv kind = ⟨-1, -1⟩) (broker disp fd : Int)
    (open_ : valid fd = true) :
    InService (world.setServ index kind ⟨broker, disp⟩).state fd ↔
      InService world.state fd ∨ fd = broker ∨ fd = disp := by
  have notNegative := ne_of_valid open_
  constructor
  · rintro ⟨other, otherKind, service⟩
    by_cases here : other = index ∧ otherKind = kind
    · obtain ⟨rfl, rfl⟩ := here
      simp only [World.setServ, World.setComponent, Function.update_self] at service
      rcases service with rfl | rfl
      · exact Or.inr (Or.inl rfl)
      · exact Or.inr (Or.inr rfl)
    · refine Or.inl ⟨other, otherKind, ?_⟩
      by_cases same : other = index
      · subst same
        simp only [true_and] at here
        simpa [World.setServ, World.setComponent, here] using service
      · simpa [World.setServ, World.setComponent, same] using service
  · rintro (⟨other, otherKind, service⟩ | rfl | rfl)
    · refine ⟨other, otherKind, ?_⟩
      by_cases here : other = index ∧ otherKind = kind
      · obtain ⟨rfl, rfl⟩ := here
        rw [absent] at service
        rcases service with rfl | rfl
        · exact (notNegative rfl).elim
        · exact (notNegative rfl).elim
      · by_cases same : other = index
        · subst same
          simp only [true_and] at here
          simpa [World.setServ, World.setComponent, here] using service
        · simpa [World.setServ, World.setComponent, same] using service
    · exact ⟨index, kind, Or.inl (by simp [World.setServ, World.setComponent])⟩
    · exact ⟨index, kind, Or.inr (by simp [World.setServ, World.setComponent])⟩

theorem setupService_adds (world : World sxml size) (index : Fin size) (kind : KindType)
    (outcome : Outcome) (paired : Paired world.state) :
    ∃ created, Adds world (setupService world index kind outcome).1 [] created := by
  rcases setupService_cases world index kind outcome paired with
    ⟨_, same⟩ | ⟨broker, disp, missing, _, granted, _, same⟩ | ⟨rest, _, _, undone, same⟩
  · rw [same]
    exact ⟨[], by simp, by simp, by simp, by simp⟩
  · rw [same]
    obtain ⟨⟨_, brokerFresh⟩, ⟨_, dispFresh⟩, _⟩ := (grantsPair_iff _ _ _).mp granted
    refine ⟨[broker, disp], ?_, ?_, by simp, ?_⟩
    · intro fd _
      simp only [World.setServ, World.setComponent, watch_opened, mem_insert, List.mem_cons,
        List.not_mem_nil, or_false, false_or]
      tauto
    · intro fd open_
      refine (setServ_inService ?_ broker disp fd open_).trans ?_
      · exact paired.absent missing
      · simp
    · intro fd member _
      simp only [List.mem_cons, List.not_mem_nil, or_false] at member
      rcases member with rfl | rfl
      · exact ⟨brokerFresh, by simp⟩
      · exact ⟨dispFresh, by simp⟩
  · rw [same]
    refine ⟨[], ?_, ?_, by simp, by simp⟩
    · intro fd open_
      rw [undone.opened fd open_]
      simp
    · intro fd _
      rw [undone.state]
      simp

theorem Adds.trans {first second third : World sxml size} {leaked more created : List Int}
    (before : Adds first second leaked []) (after : Adds second third more created) :
    Adds first third (leaked ++ more) created := by
  have kept : ∀ fd, valid fd = true → fd ∉ second.table.opened →
      fd ∉ first.table.opened ∧ fd ∉ leaked := by
    intro fd open_ closed
    rw [before.opened fd open_, not_or, not_or] at closed
    exact ⟨closed.1, closed.2.1⟩
  refine ⟨?_, ?_, ?_, ?_⟩
  · intro fd open_
    rw [after.opened fd open_, before.opened fd open_, List.mem_append]
    simp only [List.not_mem_nil, or_false]
    tauto
  · intro fd open_
    rw [after.services fd open_, before.services fd open_]
    simp
  · intro fd member open_
    rcases List.mem_append.mp member with early | late
    · exact before.leakedFresh fd early open_
    · exact (kept fd open_ (after.leakedFresh fd late open_)).1
  · intro fd member open_
    obtain ⟨closed, notMore⟩ := after.createdFresh fd member open_
    obtain ⟨fresh, notLeaked⟩ := kept fd open_ closed
    exact ⟨fresh, by simp [notLeaked, notMore]⟩

theorem Adds.congr {before after other : World sxml size} {leaked created : List Int}
    (adds : Adds before after leaked created) (table : other.table = after.table)
    (state : other.state = after.state) : Adds before other leaked created := by
  refine ⟨?_, ?_, adds.leakedFresh, adds.createdFresh⟩
  · rw [table]
    exact adds.opened
  · rw [state]
    exact adds.services

theorem Adds.send {before after : World sxml size} {leaked created : List Int}
    (adds : Adds before after leaked created) (message : Sent) :
    Adds before (after.send message) leaked created :=
  adds.congr rfl rfl

theorem Adds.insert (world : World sxml size) (fd : Int) (fresh : world.table.fresh fd = true) :
    Adds world { world with table := world.table.insert fd } [fd] [] := by
  refine ⟨?_, by simp, ?_, by simp⟩
  · intro other _
    simp only [mem_insert, List.mem_singleton, List.not_mem_nil, or_false]
    tauto
  · intro other member _
    rw [List.mem_singleton] at member
    rw [member]
    exact ((fresh_iff _ _).mp fresh).2

theorem Adds.insertPair (world : World sxml size) (first second : Int)
    (seals : List (Int × Seal)) (granted : world.table.grantsPair first second = true) :
    Adds world
      { world with table := (world.table.insert first).insert second, seals := seals }
      [first, second] [] := by
  obtain ⟨⟨_, firstFresh⟩, ⟨_, secondFresh⟩, _⟩ := (grantsPair_iff _ _ _).mp granted
  refine ⟨?_, by simp, ?_, by simp⟩
  · intro other _
    simp only [mem_insert, List.mem_cons, List.not_mem_nil, or_false]
    tauto
  · intro other member _
    simp only [List.mem_cons, List.not_mem_nil, or_false] at member
    rcases member with rfl | rfl
    · exact firstFresh
    · exact secondFresh

theorem Adds.receive (world : World sxml size) (delivery : Delivery) (message : Handled size) :
    Adds world (admitted world message delivery) (received world delivery) [] := by
  refine ⟨?_, by simp [admitted], ?_, by simp⟩
  · intro fd open_
    rw [admitted, mem_receive _ _ _ open_]
    simp [received]
  · exact fun fd member open_ => received_fresh _ _ fd open_ member

theorem Adds.reject {before arrived rest : World sxml size} {fds closed : List Int}
    (arrival : Adds before arrived fds []) (undone : Undone arrived rest closed)
    (own : ∀ fd ∈ closed, valid fd = true → fd ∈ fds) :
    Adds before rest (fds.filter fun fd => fd ∉ closed) [] := by
  refine ⟨?_, ?_, ?_, by simp⟩
  · intro fd open_
    rw [undone.opened fd open_, arrival.opened fd open_]
    simp only [List.not_mem_nil, or_false, List.mem_filter, decide_eq_true_eq]
    constructor
    · rintro ⟨already | came, kept⟩
      · exact Or.inl already
      · exact Or.inr ⟨came, kept⟩
    · rintro (already | ⟨came, kept⟩)
      · refine ⟨Or.inl already, fun lost => ?_⟩
        exact arrival.leakedFresh fd (own fd lost open_) open_ already
      · exact ⟨Or.inr came, kept⟩
  · intro fd open_
    rw [undone.state]
    exact arrival.services fd open_
  · exact fun fd member => arrival.leakedFresh fd (List.mem_of_mem_filter member)

/-! When the descriptors of a message are all gone after it was handled. -/

def Discards (world : World sxml size) (source : Fin size) (action : ActionType)
    (kind : KindType) (label : Text) (fds : List Int) (outcome : Outcome) : Prop :=
  match action with
  | .request => ¬Granted world source kind label fds outcome ∧
      ∀ fd ∈ fds, valid fd = true → fd ∈ consumed world.state source kind label fds
  | _ => ∀ fd ∈ fds, valid fd = false

theorem consumed_own {state : BrokerState sxml size} {source : Fin size} {kind : KindType}
    {label : Text} {fds : List Int} (fd : Int)
    (member : fd ∈ consumed state source kind label fds) (open_ : valid fd = true) : fd ∈ fds := by
  unfold consumed at member
  split at member
  · rw [List.mem_singleton] at member
    cases fds with
    | nil =>
        subst member
        cases open_
    | cons head rest =>
        subst member
        simp
  · cases member

theorem processRequest_noLeak_iff {before arrived : World sxml size} {source : Fin size}
    {kind : KindType} {label : Text} {fds : List Int} {outcome : Outcome}
    (ownership : Ownership before) (paired : Paired arrived.state)
    (live : Live arrived.state source) (arrival : Adds before arrived fds []) :
    NoLeak before (processRequest arrived source kind label fds outcome) ↔
      Discards arrived source .request kind label fds outcome := by
  have answer : Answer arrived source kind label fds outcome _ :=
    processRequest_answer paired live
  generalize processRequest arrived source kind label fds outcome = after at answer
  cases answer with
  | silent ignored refused =>
      have nothing : consumed arrived.state source kind label fds = [] := by
        rw [ignored.1]
        simp [consumed]
      rw [arrival.noLeak_iff ownership]
      simp [Discards, refused, nothing]
  | rejected rest _ refused undone =>
      have adds : Adds before
          (rest.sendReject (arrived.state.components source).fd kind label) _ _ :=
        (arrival.reject undone consumed_own).congr rfl rfl
      rw [adds.noLeak_iff ownership]
      simp only [Discards, refused, not_false_eq_true, true_and, List.mem_filter,
        decide_eq_true_eq]
      constructor
      · intro closed fd member open_
        by_contra kept
        rw [closed fd ⟨member, kept⟩] at open_
        cases open_
      · rintro lost fd ⟨member, kept⟩
        by_contra open_
        rw [Bool.not_eq_false] at open_
        exact kept (lost fd member open_)
  | confirmed created files _ granted _ fresh =>
      have adds : Adds before
          (World.sendConfirm { arrived with table := arrived.table.insert created, files := files }
            (arrived.state.components source).fd kind label [created]) _ _ :=
        (arrival.trans (Adds.insert arrived created fresh)).congr rfl rfl
      have leaks := adds.leaks ownership
        (List.mem_append_right fds (List.mem_singleton_self created)) ((fresh_iff _ _).mp fresh).1
      exact ⟨fun noLeak => (leaks noLeak).elim, fun discards => (discards.1 granted).elim⟩
  | forwarded service index name first second rest granted _ _ _ _ pair ready =>
      obtain ⟨created, set⟩ := setupService_adds { arrived with
        table := (arrived.table.insert first).insert second
        seals := sealedBy arrived.seals kind fds } index kind outcome paired
      rw [ready] at set
      have adds : Adds before
          (rest.sendRequest (stored rest.state (.broker index kind)) kind name label
            (first :: second :: attached kind fds)) _ _ :=
        ((arrival.trans (Adds.insertPair arrived first second _ pair)).trans set).congr rfl rfl
      have leaks := adds.leaks ownership
        (List.mem_append_left [] (List.mem_append_right fds (List.mem_cons_self)))
        ((grantsPair_iff _ _ _).mp pair).1.1
      exact ⟨fun noLeak => (leaks noLeak).elim, fun discards => (discards.1 granted).elim⟩

theorem handleMessage_noLeak_iff {before arrived : World sxml size} {source : Fin size}
    {fds : List Int} (arrival : Adds before arrived fds []) (ownership : Ownership before)
    (paired : Paired arrived.state) (live : Live arrived.state source)
    (action : ActionType) (kind : KindType) (name label : Text) (short : label.length ≤ 255)
    (outcome : Outcome) :
    NoLeak before (handleMessage arrived source action kind name label fds outcome) ↔
      Discards arrived source action kind label fds outcome := by
  cases action with
  | request =>
      simp only [handleMessage]
      rw [if_neg (by omega)]
      exact processRequest_noLeak_iff ownership paired live arrival
  | confirm =>
      simp only [handleMessage]
      split
      · exact arrival.noLeak_iff ownership
      · rcases processConfirm_sends arrived kind name label fds with same | ⟨message, same⟩
        · rw [same]
          exact arrival.noLeak_iff ownership
        · rw [same]
          exact (arrival.send message).noLeak_iff ownership
  | reject =>
      simp only [handleMessage]
      split
      · exact arrival.noLeak_iff ownership
      · rcases processReject_sends arrived kind name label with same | ⟨message, same⟩
        · rw [same]
          exact arrival.noLeak_iff ownership
        · rw [same]
          exact (arrival.send message).noLeak_iff ownership
  | register =>
      obtain ⟨created, set⟩ := setupService_adds arrived source kind outcome paired
      have adds := arrival.trans set
      rw [List.append_nil] at adds
      simp only [handleMessage, processRegister]
      rcases result : setupService arrived source kind outcome with ⟨rest, ready⟩
      rw [result] at adds
      cases ready with
      | false => exact (adds.send _).noLeak_iff ownership
      | true =>
          refine Adds.noLeak_iff (adds.congr ?_ ?_) ownership
          · rfl
          · rfl

theorem invalid_noLeak (world : World sxml size) (delivery : Delivery) :
    NoLeak world (World.closeAll { world with table := (world.table.receive delivery.fds).1 }
      (received world delivery)) := by
  intro fd open_
  have closed : fd ∈ received world delivery → fd ∉ world.table.opened :=
    fun member => received_fresh _ _ fd open_ member
  rw [World.closeAll_table, World.closeAll_state, mem_closeAll _ _ _ open_, mem_receive _ _ _ open_]
  constructor
  · rintro ⟨already | came, gone⟩
    · exact Or.inl already
    · exact (gone came).elim
  · rintro (already | ⟨service, unserved⟩)
    · exact ⟨Or.inl already, fun came => closed came already⟩
    · exact (unserved service).elim

/-- Reading a message leaks no descriptor exactly if the message is invalid, or it is no request and
brings no descriptor, or it is a request that is not granted and brings at most the descriptor that
failing memory requests close. -/
theorem readMessage_noLeak_iff (generated : GeneratedPacket) (world : World sxml size)
    (reachable : Reachable generated world) (index : Fin size) (live : Live world.state index)
    (delivery : Delivery) (outcome : Outcome) :
    NoLeak world (readMessage generated world index delivery outcome) ↔
      ∀ action kind name label,
        Packet.receive generated delivery.datagram delivery.stale =
          .valid action kind name label →
        Discards { world with table := (world.table.receive delivery.fds).1 } index action kind
          label.text (world.table.receive delivery.fds).2 outcome := by
  have ownership := reachable_ownership generated world reachable
  rcases readMessage_cases generated world index delivery outcome with
    ⟨invalid, same⟩ | ⟨action, kind, name, label, decoded, same⟩
  · rw [same, invalid]
    refine ⟨?_, fun _ => invalid_noLeak world delivery⟩
    intro _ action kind name label decoded
    cases decoded
  · have handled := handleMessage_noLeak_iff
      (Adds.receive world delivery
        ⟨index, action, kind, name.text, label.text, received world delivery⟩)
      ownership ownership.paired live action kind name.text label.text
      (by rw [Packet.text_length]; exact label.fits) outcome
    rw [same, handled, decoded]
    constructor
    · intro discards otherAction otherKind otherName otherLabel equal
      rw [BrokerMessage.valid.injEq] at equal
      obtain ⟨rfl, rfl, rfl, rfl⟩ := equal
      exact discards
    · exact fun discards => discards action kind name label rfl

theorem sample_register_noLeak :
    NoLeak sampleWorld (readMessage referencePacket sampleWorld 1
      (delivering ⟨.register, .message, noText, noText⟩ (-1)) sampleOutcome) := by
  refine (readMessage_noLeak_iff referencePacket sampleWorld (sample_reachable referencePacket) 1
    (sample_live 1) _ sampleOutcome).mpr ?_
  intro action kind name label decoded
  rw [delivering, Packet.receive_encode, BrokerMessage.valid.injEq] at decoded
  obtain ⟨rfl, rfl, _, _⟩ := decoded
  have bare : (sampleWorld.table.receive (delivering
      ⟨.register, .message, noText, noText⟩ (-1)).fds).2 = [-1, -1, -1, -1] := by
    decide +kernel
  simp [Discards, bare]

theorem sample_timer_leaks :
    Reachable referencePacket sampleWorld ∧ Live sampleWorld.state 0 ∧
      ¬NoLeak sampleWorld (readMessage referencePacket sampleWorld 0
        (delivering ⟨.request, .timer, noText, noText⟩ (-1)) sampleOutcome) := by
  refine ⟨sample_reachable referencePacket, sample_live 0, ?_⟩
  have ownership := reachable_ownership referencePacket sampleWorld
    (sample_reachable referencePacket)
  rw [readMessage_encode referencePacket sampleWorld 0 _ sampleOutcome
    ⟨.request, .timer, noText, noText⟩ rfl]
  rw [handleMessage_noLeak_iff (Adds.receive sampleWorld _ _) ownership ownership.paired
    (sample_live 0) _ _ _ _ (by decide)]
  rintro ⟨refused, _⟩
  apply refused
  refine ⟨.node [2, 0], .broker, ascii "client", ?_, 13, rfl, ?_⟩
  · decide +kernel
  · decide +kernel

end Gneiss
