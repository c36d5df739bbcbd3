import Gneiss.Broker.Effects

/-!
What `Process_Request` can do. `resolve` is the part before the case statement, `Granted` says when
the broker creates what the request asks for, and `Answer` lists the four ways in which a request of
a live component ends.
-/

namespace Gneiss

open Descriptors

variable {sxml : Sxml} {size : Nat}

def resolve (state : BrokerState sxml size) (source : Fin size) (kind : KindType) (label : Text) :
    Option (sxml.State × Destination size × Text) :=
  let node := (state.components source).node
  let service := matchService state.xml node (image kind) label
  if service = sxml.invalidState ∨ sxml.isOpen service state.xml = false then none
  else
    match lookupRequest state service with
    | none => none
    | some destination =>
        match sxml.getAttribute node state.xml (ascii "name") 255 with
        | (.ok, sourceName) => some (service, destination, sourceName)
        | _ => none

def serveRequest (world : World sxml size) (source : Fin size) (kind : KindType) (label : Text)
    (fds : List Int) (outcome : Outcome) (service : sxml.State) (destination : Destination size)
    (sourceName : Text) : World sxml size :=
  match kind with
  | .message => requestChannel world source .message sourceName label destination outcome
  | .log => requestChannel world source .log sourceName label destination outcome
  | .rom => requestRom world source label service destination outcome
  | .memory => requestMemory world source sourceName label fds destination outcome
  | .timer => requestTimer world source label outcome

theorem processRequest_eq (world : World sxml size) (source : Fin size) (kind : KindType)
    (label : Text) (fds : List Int) (outcome : Outcome)
    (live : valid (world.state.components source).fd = true) :
    processRequest world source kind label fds outcome =
      match resolve world.state source kind label with
      | none => world.sendReject (world.state.components source).fd kind label
      | some (service, destination, sourceName) =>
          serveRequest world source kind label fds outcome service destination sourceName := by
  rw [valid_iff] at live
  have alive : ¬(world.state.components source).fd < 0 := by omega
  let service := matchService world.state.xml (world.state.components source).node (image kind) label
  by_cases closed :
      service = sxml.invalidState ∨ sxml.isOpen service world.state.xml = false
  · simp only [processRequest, resolve, if_neg alive, service, if_pos closed]
  · simp only [processRequest, resolve, if_neg alive, service, if_neg closed]
    cases lookupRequest world.state service with
    | none => rfl
    | some destination =>
        rcases sxml.getAttribute (world.state.components source).node world.state.xml
          (ascii "name") 255 with ⟨result, name⟩
        cases result with
        | ok => cases kind <;> rfl
        | notFound => rfl
        | error => rfl

theorem processRequest_dead (world : World sxml size) (source : Fin size) (kind : KindType)
    (label : Text) (fds : List Int) (outcome : Outcome)
    (dead : valid (world.state.components source).fd = false) :
    processRequest world source kind label fds outcome = world := by
  have negative : (world.state.components source).fd < 0 := by
    by_contra alive
    rw [(valid_iff _).mpr (by omega)] at dead
    cases dead
  simp only [processRequest, if_pos negative]

/-! When the kernel lets the broker grant a request. -/

def Forwardable (world : World sxml size) (index : Fin size) (kind : KindType)
    (outcome : Outcome) : Prop :=
  ∃ first second, outcome.session = some (first, second) ∧
    world.table.grantsPair first second = true ∧
    (serviceThere world.state index kind = true ∨
      (outcome.serviceAdd = true ∧
        ¬refusesPair ((world.table.insert first).insert second) outcome.service))

def Creatable (world : World sxml size) (kind : KindType) (fds : List Int) (outcome : Outcome)
    (service : sxml.State) (destination : Destination size) : Prop :=
  match kind, destination with
  | .message, .component index => Forwardable world index .message outcome
  | .log, .component index => Forwardable world index .log outcome
  | .memory, .component index =>
      valid (fds.headD (-1)) = true ∧ sealsSucceed outcome = true ∧
        Forwardable world index .memory outcome
  | .rom, .broker =>
      (findResourceLocation world.state service).2 = true ∧
        ∃ fd, outcome.file = some fd ∧ world.table.fresh fd = true
  | .timer, _ => ∃ fd, outcome.timer = some fd ∧ world.table.fresh fd = true
  | _, _ => False

def Granted (world : World sxml size) (source : Fin size) (kind : KindType) (label : Text)
    (fds : List Int) (outcome : Outcome) : Prop :=
  ∃ service destination sourceName,
    resolve world.state source kind label = some (service, destination, sourceName) ∧
      Creatable world kind fds outcome service destination

def Ignored (state : BrokerState sxml size) (source : Fin size) (kind : KindType)
    (label : Text) : Prop :=
  kind = .rom ∧ ∃ service index sourceName,
    resolve state source kind label = some (service, .component index, sourceName)

/-! The descriptor a failing memory request takes down with it. -/

def consumed (state : BrokerState sxml size) (source : Fin size) (kind : KindType) (label : Text)
    (fds : List Int) : List Int :=
  match kind, resolve state source kind label with
  | .memory, some (_, .component _, _) => [fds.headD (-1)]
  | _, _ => []

def attached (kind : KindType) (fds : List Int) : List Int :=
  if kind = .memory then [fds.headD (-1)] else []

def sealedBy (seals : List (Int × Seal)) (kind : KindType) (fds : List Int) : List (Int × Seal) :=
  if kind = .memory then seals ++ allSeals (fds.headD (-1)) else seals

inductive Answer (world : World sxml size) (source : Fin size) (kind : KindType) (label : Text)
    (fds : List Int) (outcome : Outcome) : World sxml size → Prop
  | silent (ignored : Ignored world.state source kind label)
      (refused : ¬Granted world source kind label fds outcome) :
      Answer world source kind label fds outcome world
  | rejected (rest : World sxml size) (notIgnored : ¬Ignored world.state source kind label)
      (refused : ¬Granted world source kind label fds outcome)
      (undone : Undone world rest (consumed world.state source kind label fds)) :
      Answer world source kind label fds outcome
        (rest.sendReject (world.state.components source).fd kind label)
  | confirmed (created : Int) (files : List Text)
      (notIgnored : ¬Ignored world.state source kind label)
      (granted : Granted world source kind label fds outcome)
      (own : kind = .rom ∨ kind = .timer) (fresh : world.table.fresh created = true) :
      Answer world source kind label fds outcome
        (World.sendConfirm { world with table := world.table.insert created, files := files }
          (world.state.components source).fd kind label [created])
  | forwarded (service : sxml.State) (index : Fin size) (sourceName : Text) (first second : Int)
      (rest : World sxml size) (granted : Granted world source kind label fds outcome)
      (session : kind = .message ∨ kind = .log ∨ kind = .memory)
      (resolved : resolve world.state source kind label =
        some (service, .component index, sourceName))
      (memory : kind = .memory → valid (fds.headD (-1)) = true)
      (offered : outcome.session = some (first, second))
      (pair : world.table.grantsPair first second = true)
      (ready : setupService
        { world with
          table := (world.table.insert first).insert second
          seals := sealedBy world.seals kind fds } index kind outcome = (rest, true)) :
      Answer world source kind label fds outcome
        (rest.sendRequest (stored rest.state (.broker index kind)) kind sourceName label
          (first :: second :: attached kind fds))

section

variable {world : World sxml size} {source : Fin size} {kind : KindType} {label : Text}
  {fds : List Int} {outcome : Outcome}

theorem granted_iff {service : sxml.State} {destination : Destination size} {sourceName : Text}
    (resolved : resolve world.state source kind label =
      some (service, destination, sourceName)) :
    Granted world source kind label fds outcome ↔
      Creatable world kind fds outcome service destination := by
  constructor
  · rintro ⟨otherService, otherDestination, otherName, same, creatable⟩
    rw [resolved, Option.some.injEq, Prod.mk.injEq, Prod.mk.injEq] at same
    obtain ⟨rfl, rfl, rfl⟩ := same
    exact creatable
  · exact fun creatable => ⟨service, destination, sourceName, resolved, creatable⟩

theorem not_ignored (other : kind ≠ .rom) : ¬Ignored world.state source kind label :=
  fun ignored => other ignored.1

theorem not_ignored_broker {service : sxml.State} {sourceName : Text}
    (resolved : resolve world.state source kind label = some (service, .broker, sourceName)) :
    ¬Ignored world.state source kind label := by
  rintro ⟨_, otherService, index, otherName, same⟩
  rw [resolved] at same
  simp at same

theorem unresolved_answer (unresolved : resolve world.state source kind label = none) :
    Answer world source kind label fds outcome
      (world.sendReject (world.state.components source).fd kind label) := by
  have nothing : consumed world.state source kind label fds = [] := by
    simp only [consumed, unresolved]
  refine Answer.rejected world ?_ ?_ (by rw [nothing]; exact Undone.refl world)
  · rintro ⟨_, service, index, name, same⟩
    rw [unresolved] at same
    cases same
  · rintro ⟨service, destination, name, same, _⟩
    rw [unresolved] at same
    cases same

theorem forwardRequest_answer {service : sxml.State} {index : Fin size} {sourceName : Text}
    {first second : Int} (others : List Int) (count : Nat) (paired : Paired world.state)
    (session : kind = .message ∨ kind = .log ∨ kind = .memory)
    (resolved : resolve world.state source kind label =
      some (service, .component index, sourceName))
    (memory : kind = .memory → valid (fds.headD (-1)) = true)
    (creatable : Creatable world kind fds outcome service (.component index) ↔
      Forwardable world index kind outcome)
    (offered : outcome.session = some (first, second))
    (pair : world.table.grantsPair first second = true)
    (taken : (first :: second :: others).take count = first :: second :: attached kind fds)
    (discarded : ∀ fd, valid fd = true →
      (fd ∈ consumed world.state source kind label fds ↔ fd ∈ others)) :
    Answer world source kind label fds outcome
      (forwardRequest
        { world with
          table := (world.table.insert first).insert second
          seals := sealedBy world.seals kind fds }
        source index kind sourceName label (first :: second :: others) count outcome) := by
  have notRom : kind ≠ .rom := by
    rcases session with rfl | rfl | rfl <;> simp
  have granted : Forwardable world index kind outcome →
      Granted world source kind label fds outcome := by
    intro forwardable
    exact (granted_iff resolved).mpr (creatable.mpr forwardable)
  unfold forwardRequest
  rcases setupService_cases { world with
      table := (world.table.insert first).insert second
      seals := sealedBy world.seals kind fds } index kind outcome paired with
    ⟨there, same⟩ | ⟨broker, disp, _, other, otherPair, added, same⟩ |
      ⟨rest, missing, refused, undone, same⟩
  · rw [same]
    simp only [taken]
    exact Answer.forwarded service index sourceName first second _
      (granted ⟨first, second, offered, pair, Or.inl there⟩) session resolved memory offered pair
      same
  · have willing : ¬refusesPair ((world.table.insert first).insert second) outcome.service := by
      intro refuses
      rw [refuses broker disp other] at otherPair
      cases otherPair
    rw [same]
    simp only [taken]
    exact Answer.forwarded service index sourceName first second _
      (granted ⟨first, second, offered, pair, Or.inr ⟨added, willing⟩⟩) session resolved memory
      offered pair same
  · rw [same]
    simp only [Bool.not_false, ↓reduceIte]
    have sameState : rest.state = world.state := undone.state
    rw [sameState]
    refine Answer.rejected _ (not_ignored notRom) ?_ ?_
    · rw [granted_iff resolved, creatable]
      rintro ⟨otherFirst, otherSecond, otherOffered, _, there | ⟨added, willing⟩⟩
      · have absent : serviceThere world.state index kind = false := missing
        rw [absent] at there
        cases there
      · rw [offered, Option.some.injEq, Prod.mk.injEq] at otherOffered
        obtain ⟨rfl, rfl⟩ := otherOffered
        exact willing (refused added)
    · have closed := undone.closeAll (first :: second :: others)
      rw [List.append_nil] at closed
      exact (Undone.pair _ pair closed).congr discarded

theorem requestChannel_answer {service : sxml.State} {destination : Destination size}
    {sourceName : Text} (paired : Paired world.state) (channel : kind = .message ∨ kind = .log)
    (resolved : resolve world.state source kind label =
      some (service, destination, sourceName)) :
    Answer world source kind label fds outcome
      (requestChannel world source kind sourceName label destination outcome) := by
  have notRom : kind ≠ .rom := by
    rcases channel with rfl | rfl <;> simp
  have nothing : consumed world.state source kind label fds = [] := by
    rcases channel with rfl | rfl <;> simp [consumed]
  have rejected : ¬Granted world source kind label fds outcome →
      Answer world source kind label fds outcome
        (world.sendReject (world.state.components source).fd kind label) := by
    intro refused
    refine Answer.rejected world (not_ignored notRom) refused ?_
    rw [nothing]
    exact Undone.refl world
  cases destination with
  | broker =>
      apply rejected
      rw [granted_iff resolved]
      rcases channel with rfl | rfl <;> exact id
  | component index =>
      have creatable : Creatable world kind fds outcome service (.component index) ↔
          Forwardable world index kind outcome := by
        rcases channel with rfl | rfl <;> exact Iff.rfl
      simp only [requestChannel]
      rcases processMessageRequest_cases world outcome with
        ⟨refused, same⟩ | ⟨first, second, offered, pair, same⟩
      · rw [same]
        apply rejected
        rw [granted_iff resolved, creatable]
        rintro ⟨first, second, offered, pair, _⟩
        rw [refused first second offered] at pair
        cases pair
      · rw [same]
        have unsealed : sealedBy world.seals kind fds = world.seals := by
          rcases channel with rfl | rfl <;> simp [sealedBy]
        have taken : [first, second, -1, -1].take 2 = first :: second :: attached kind fds := by
          rcases channel with rfl | rfl <;> simp [attached]
        have discarded : ∀ fd, valid fd = true →
            (fd ∈ consumed world.state source kind label fds ↔ fd ∈ [(-1 : Int), -1]) := by
          intro fd open_
          rw [valid_iff] at open_
          have notNegative : fd ≠ -1 := by omega
          simp [nothing, notNegative]
        have answer := forwardRequest_answer [-1, -1] 2 paired (by tauto) resolved
          (by rcases channel with rfl | rfl <;> simp) creatable offered pair taken discarded
        rw [unsealed] at answer
        exact answer

theorem requestMemory_answer {service : sxml.State} {destination : Destination size}
    {sourceName : Text} (paired : Paired world.state)
    (resolved : resolve world.state source .memory label =
      some (service, destination, sourceName)) :
    Answer world source .memory label fds outcome
      (requestMemory world source sourceName label fds destination outcome) := by
  have notIgnored : ¬Ignored world.state source .memory label := not_ignored (by simp)
  cases destination with
  | broker =>
      refine Answer.rejected world notIgnored ?_ ?_
      · rw [granted_iff resolved]
        exact id
      · have nothing : consumed world.state source .memory label fds = [] := by
          simp only [consumed, resolved]
        rw [nothing]
        exact Undone.refl world
  | component index =>
      have loses : consumed world.state source .memory label fds = [fds.headD (-1)] := by
        simp only [consumed, resolved]
      have unharmed : valid (fds.headD (-1)) = false →
          Answer world source .memory label fds outcome
            (world.sendReject (world.state.components source).fd .memory label) := by
        intro absent
        refine Answer.rejected world notIgnored ?_ ?_
        · rw [granted_iff resolved]
          rintro ⟨there, _⟩
          rw [absent] at there
          cases there
        · rw [loses]
          refine (Undone.refl world).congr fun fd open_ => ?_
          have different : fd ≠ fds.headD (-1) := by
            rintro rfl
            rw [absent] at open_
            cases open_
          simp only [List.mem_singleton, different, List.not_mem_nil]
      simp only [requestMemory]
      split
      · rename_i short
        have empty : fds = [] := List.length_eq_zero_iff.mp (by omega)
        exact unharmed (by rw [empty]; rfl)
      · rcases processMemoryRequest_cases world fds outcome with
          ⟨absent, same⟩ | ⟨seals, _, failed, same⟩ |
            ⟨first, second, there, sealed, offered, pair, same⟩
        · rw [same]
          exact unharmed absent
        · rw [same]
          refine Answer.rejected _ notIgnored ?_ ?_
          · rw [granted_iff resolved]
            rintro ⟨_, sealed, first, second, offered, pair, _⟩
            rw [failed sealed first second offered] at pair
            cases pair
          · rw [loses]
            have unsealed : Undone world { world with seals := seals } [] := by
              have same := Undone.refl world
              exact ⟨rfl, rfl, rfl, List.Subset.refl _, same.opened, same.watched, .refl⟩
            exact unsealed.close (fds.headD (-1))
        · rw [same]
          have creatable : Creatable world .memory fds outcome service (.component index) ↔
              Forwardable world index .memory outcome :=
            ⟨fun creatable => creatable.2.2, fun forwardable => ⟨there, sealed, forwardable⟩⟩
          have discarded : ∀ fd, valid fd = true →
              (fd ∈ consumed world.state source .memory label fds ↔
                fd ∈ [fds.headD (-1), -1]) := by
            intro fd open_
            rw [valid_iff] at open_
            have notNegative : fd ≠ -1 := by omega
            simp [loses, notNegative]
          exact forwardRequest_answer [fds.headD (-1), -1] 3 paired (by simp) resolved
            (fun _ => there) creatable offered pair rfl discarded

theorem requestRom_answer {service : sxml.State} {destination : Destination size}
    {sourceName : Text}
    (resolved : resolve world.state source .rom label = some (service, destination, sourceName)) :
    Answer world source .rom label fds outcome
      (requestRom world source label service destination outcome) := by
  cases destination with
  | component index =>
      refine Answer.silent ⟨rfl, service, index, sourceName, resolved⟩ ?_
      rw [granted_iff resolved]
      exact id
  | broker =>
      have notIgnored := not_ignored_broker resolved
      simp only [requestRom]
      rcases processRomRequest_cases world service outcome with
        ⟨files, failed, same⟩ | ⟨fd, found, offered, fresh, same⟩
      · rw [same]
        refine Answer.rejected _ notIgnored ?_ ?_
        · rw [granted_iff resolved]
          rintro ⟨found, fd, offered, fresh⟩
          rw [failed found fd offered] at fresh
          cases fresh
        · have unchanged := Undone.refl world
          exact ⟨rfl, rfl, rfl, List.Subset.refl _, unchanged.opened, unchanged.watched, .refl⟩
      · rw [same]
        refine Answer.confirmed fd _ notIgnored ?_ (Or.inl rfl) fresh
        rw [granted_iff resolved]
        exact ⟨found, fd, offered, fresh⟩

theorem requestTimer_answer {service : sxml.State} {destination : Destination size}
    {sourceName : Text}
    (resolved : resolve world.state source .timer label =
      some (service, destination, sourceName)) :
    Answer world source .timer label fds outcome
      (requestTimer world source label outcome) := by
  have notIgnored : ¬Ignored world.state source .timer label := not_ignored (by simp)
  simp only [requestTimer]
  rcases processTimerRequest_cases world outcome with ⟨failed, same⟩ | ⟨fd, offered, fresh, same⟩
  · rw [same]
    refine Answer.rejected world notIgnored ?_ (Undone.refl world)
    rw [granted_iff resolved]
    rintro ⟨fd, offered, fresh⟩
    rw [failed fd offered] at fresh
    cases fresh
  · rw [same]
    refine Answer.confirmed fd world.files notIgnored ?_ (Or.inr rfl) fresh
    rw [granted_iff resolved]
    exact ⟨fd, offered, fresh⟩

/-- A request of a live component is ignored, rejected, confirmed by the broker or forwarded. -/
theorem processRequest_answer (paired : Paired world.state)
    (live : valid (world.state.components source).fd = true) :
    Answer world source kind label fds outcome
      (processRequest world source kind label fds outcome) := by
  rw [processRequest_eq world source kind label fds outcome live]
  cases resolved : resolve world.state source kind label with
  | none => exact unresolved_answer resolved
  | some target =>
      obtain ⟨service, destination, sourceName⟩ := target
      cases kind with
      | message => exact requestChannel_answer paired (Or.inl rfl) resolved
      | log => exact requestChannel_answer paired (Or.inr rfl) resolved
      | memory => exact requestMemory_answer paired resolved
      | rom => exact requestRom_answer resolved
      | timer => exact requestTimer_answer resolved

end

/-- A rule for facts that every request keeps, also that of a component that is gone. -/
theorem processRequest_invariant (Inv : World sxml size → Prop) (world : World sxml size)
    (source : Fin size) (kind : KindType) (label : Text) (fds : List Int) (outcome : Outcome)
    (paired : Paired world.state) (unchanged : Inv world)
    (rejected : ∀ rest message, Undone world rest (consumed world.state source kind label fds) →
      Inv (rest.send message))
    (confirmed : ∀ created files message,
      Inv (World.send { world with table := world.table.insert created, files := files } message))
    (forwarded : ∀ index first second rest message,
      setupService
        { world with
          table := (world.table.insert first).insert second
          seals := sealedBy world.seals kind fds } index kind outcome = (rest, true) →
      Inv (rest.send message)) :
    Inv (processRequest world source kind label fds outcome) := by
  cases live : valid (world.state.components source).fd with
  | false =>
      rw [processRequest_dead world source kind label fds outcome live]
      exact unchanged
  | true =>
      have answer : Answer world source kind label fds outcome _ :=
        processRequest_answer paired live
      generalize processRequest world source kind label fds outcome = after at answer
      cases answer with
      | silent _ _ => exact unchanged
      | rejected rest _ _ undone => exact rejected rest _ undone
      | confirmed created files _ _ _ _ => exact confirmed created files _
      | forwarded _ index _ first second rest _ _ _ _ _ _ ready =>
          exact forwarded index first second rest _ ready

end Gneiss
