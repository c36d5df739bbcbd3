import Gneiss.Genode.SessionServers

/-!
Every session that the root handed out has a component object and a server of its own, in every run
and as long as it is not closed. Which request is granted, and what a request costs that is not: in
the memory component the servers whose object could not be created never have a client again.
-/

namespace Gneiss.Genode.Root

open Runs

variable {size : Nat} {world : World size} {kind : Kind} {opened : List Session}

/-! The loop that looks for a server. -/

/-- Nothing changes for server `i`. -/
def Kept (world after : World size) (i : Fin size) : Prop :=
  after.servers i = world.servers i ∧ after.slots i = world.slots i

theorem Lost.congr {after : World size} {i : Fin size} (lost : Lost kind world i)
    (kept : Kept world after i) : Lost kind after i := by
  unfold Lost
  rw [kept.1, kept.2]
  exact lost

theorem free_congr {after : World size} {i : Fin size} (before : Server kind world i)
    (later : Server kind after i) (kept : Kept world after i) :
    after.free kind i = world.free kind i := by
  have same : after.free kind i = true ↔ world.free kind i = true := by
    rw [later.free_iff, before.free_iff, kept.1, kept.2]
  exact Bool.eq_iff_iff.mpr same

theorem not_lost_of_free {i : Fin size} (server : Server kind world i)
    (free : world.free kind i = true) : ¬Lost kind world i := by
  rintro ⟨_, ready⟩
  rw [(server.free_iff.mp free).2] at ready
  cases ready

theorem kept_rest {i j : Fin size} (different : j ≠ i) (session : ServerSession size)
    (ready : Bool) : Kept world (world.rest i session ready) j :=
  ⟨Function.update_of_ne different _ _, Function.update_of_ne different _ _⟩

theorem kept_enrol {i j : Fin size} (different : j ≠ i) (address : Nat) (name label : Text) :
    Kept world (world.enrol kind i address name label) j := by
  refine ⟨Function.update_of_ne different _ _, ?_⟩
  exact (Function.update_of_ne different _ _).trans (Function.update_of_ne different _ _)

/-- None of the servers takes the client. -/
structure Unserved (kind : Kind) (offers : Fin size → Offer) (servers : List (Fin size))
    (world after : World size) : Prop where
  live : after.live = world.live
  accepted : after.accepted = world.accepted
  sessions : after.sessions = world.sessions
  halted : after.halted = world.halted
  kept : ∀ i, world.free kind i = false → Kept world after i
  ungranted : ∀ i ∈ servers, world.free kind i = true →
    ∀ address, ¬Grants world (offers i) address
  costs : ∀ i ∈ servers, world.free kind i = true → kind = .memory →
    Fails world (offers i) → (offers i).prepares = true → Lost kind after i

/-- Server `i` takes the client, and its object is at `address`. -/
structure Admitted (kind : Kind) (offers : Fin size → Offer) (servers : List (Fin size))
    (world after : World size) (i : Fin size) (address : Nat) : Prop where
  member : i ∈ servers
  free : world.free kind i = true
  grants : Grants world (offers i) address
  live : after.live = world.live ++ [⟨address, i⟩]
  accepted : after.accepted = some address
  sessions : after.sessions = world.sessions
  halted : after.halted = world.halted
  kept : ∀ i, world.free kind i = false → Kept world after i

inductive Served (kind : Kind) (name label : Text) (offers : Fin size → Offer)
    (opened : List Session) (servers : List (Fin size)) (world : World size) :
    Option (World size) → Prop where
  | raised (log : kind = .log) (i : Fin size) (member : i ∈ servers)
      (free : world.free kind i = true) (fails : Fails world (offers i)) :
      Served kind name label offers opened servers world none
  | unserved (after : World size) (matched : Matched kind after opened)
      (unserved : Unserved kind offers servers world after) :
      Served kind name label offers opened servers world (some after)
  | admitted (after : World size) (i : Fin size) (address : Nat)
      (matched : Matched kind after (opened ++ [⟨address, name, label⟩]))
      (admitted : Admitted kind offers servers world after i address) :
      Served kind name label offers opened servers world (some after)

theorem occupy_ready (i : Fin size) (address : Nat) :
    ((world.occupy kind i address).ready i &&
      ((world.occupy kind i address).servers i).initialized kind) = true := by
  have own : (world.occupy kind i address).servers i = served kind i address :=
    Function.update_self _ _ _
  rw [own, served_initialized, Bool.and_true, ready_eq (by rw [own, served_index])]
  simp [World.occupy]

/-- A server that has a client is passed over. -/
theorem Served.busy {name label : Text} {offers : Fin size → Offer} {rest : List (Fin size)}
    {result : Option (World size)} {i : Fin size} (busy : world.free kind i = false)
    (later : Served kind name label offers opened rest world result) :
    Served kind name label offers opened (i :: rest) world result := by
  have inRest {j : Fin size} (free : world.free kind j = true) (member : j ∈ i :: rest) :
      j ∈ rest := by
    rcases List.mem_cons.mp member with same | later
    · rw [same, busy] at free
      cases free
    · exact later
  cases later with
  | raised log j member free fails =>
      exact .raised log j (List.mem_cons_of_mem _ member) free fails
  | unserved after matched unserved =>
      refine .unserved after matched { unserved with ungranted := ?_, costs := ?_ }
      · intro j member free
        exact unserved.ungranted j (inRest free member) free
      · intro j member free
        exact unserved.costs j (inRest free member) free
  | admitted after j address matched admitted =>
      exact .admitted after j address matched
        { admitted with member := List.mem_cons_of_mem _ admitted.member }

/-- After an attempt that leaves the server without a client the loop goes on with the others. -/
theorem Served.attempted {name label : Text} {offers : Fin size → Offer} {rest : List (Fin size)}
    {result : Option (World size)} {i : Fin size} (outside : i ∉ rest)
    (matched : Matched kind world opened) (free : world.free kind i = true)
    {session : ServerSession size} {ready : Bool}
    (attempt : Attempt kind world i (offers i) session ready)
    (later : Served kind name label offers opened rest (world.rest i session ready) result) :
    Served kind name label offers opened (i :: rest) world result := by
  have middle := matched.rest free attempt
  have sameFree {j : Fin size} (different : j ≠ i) :
      (world.rest i session ready).free kind j = world.free kind j :=
    free_congr (matched.servers j) (middle.servers j) (kept_rest different session ready)
  have differs {j : Fin size} (member : j ∈ rest) : j ≠ i := fun same => outside (same ▸ member)
  have keep {after : World size}
      (kept : ∀ j, (world.rest i session ready).free kind j = false →
        Kept (world.rest i session ready) after j)
      (j : Fin size) (busy : world.free kind j = false) : Kept world after j := by
    have different : j ≠ i := fun same => by
      rw [same, free] at busy
      cases busy
    have first : Kept world (world.rest i session ready) j := kept_rest different session ready
    have second := kept j ((sameFree different).trans busy)
    exact ⟨second.1.trans first.1, second.2.trans first.2⟩
  cases later with
  | raised log j member freeToo fails =>
      exact .raised log j (List.mem_cons_of_mem _ member)
        ((sameFree (differs member)).symm.trans freeToo) fails
  | unserved after final unserved =>
      refine .unserved after final
        { unserved with kept := keep unserved.kept, ungranted := ?_, costs := ?_ }
      · intro j member freeToo
        rcases List.mem_cons.mp member with same | inRest
        · rw [same]
          exact attempt.ungranted
        · exact unserved.ungranted j inRest ((sameFree (differs inRest)).trans freeToo)
      · intro j member freeToo memory fails prepares
        rcases List.mem_cons.mp member with same | inRest
        · rw [same] at fails prepares ⊢
          have own : (world.rest i session ready).servers i = session :=
            Function.update_self _ _ _
          have lost : Lost kind (world.rest i session ready) i := by
            refine ⟨by rw [own, attempt.idle.not_initialized], ?_⟩
            simpa [World.rest] using attempt.ready.mpr ⟨memory, fails, prepares⟩
          -- The loop does not come back to it, and it is not free for it any more.
          have taken : (world.rest i session ready).free kind i = false := by
            by_contra stillFree
            exact not_lost_of_free (middle.servers i) (by simpa using stillFree) lost
          exact lost.congr (unserved.kept i taken)
        · exact unserved.costs j inRest ((sameFree (differs inRest)).trans freeToo) memory fails
            prepares
  | admitted after j address final admitted =>
      exact .admitted after j address final
        { admitted with
          member := List.mem_cons_of_mem _ admitted.member
          free := (sameFree (differs admitted.member)).symm.trans admitted.free
          kept := keep admitted.kept }

theorem serve_served (name label : Text) (offers : Fin size → Offer)
    (fit : World.fits kind name label = true) (servers : List (Fin size)) (nodup : servers.Nodup)
    (world : World size) (matched : Matched kind world opened) :
    Served kind name label offers opened servers world
      (World.serve kind name label offers servers world) := by
  induction servers generalizing world with
  | nil =>
      refine .unserved world matched ⟨rfl, rfl, rfl, rfl, fun _ _ => ⟨rfl, rfl⟩, ?_, ?_⟩
      · intro i member
        cases member
      · intro i member
        cases member
  | cons i rest ih =>
      obtain ⟨outside, nodup⟩ := List.nodup_cons.mp nodup
      unfold World.serve
      rw [fit, Bool.and_true]
      cases free : world.free kind i with
      | false =>
          rw [if_neg Bool.false_ne_true]
          exact (ih nodup world matched).busy free
      | true =>
          rw [if_pos rfl]
          obtain ⟨idle, unready⟩ := (matched.servers i).free_iff.mp free
          rcases sessionInitialize_cases kind (offers i) idle unready with
            ⟨address, grants, initialized⟩ | ⟨session, ready, attempt, initialized⟩ |
            ⟨log, fails, raised⟩
          · rw [initialized, Option.bind_eq_bind, Option.bind_some, if_pos (occupy_ready i address)]
            refine .admitted _ i address (matched.enrol free grants.1.2 name label) ?_
            refine ⟨List.mem_cons_self, free, grants, rfl, ?_, rfl, rfl, ?_⟩
            · simp [World.sessionAccept, World.occupy]
            · intro j busy
              refine kept_enrol (fun same => ?_) address name label
              rw [same, free] at busy
              cases busy
          · have still : ((world.rest i session ready).servers i).initialized kind = false := by
              have own : (world.rest i session ready).servers i = session :=
                Function.update_self _ _ _
              rw [own, attempt.idle.not_initialized]
            rw [initialized, Option.bind_eq_bind, Option.bind_some, still, Bool.and_false,
              if_neg Bool.false_ne_true]
            exact (ih nodup _ (matched.rest free attempt)).attempted outside matched free attempt
          · rw [raised]
            exact .raised log i List.mem_cons_self free fails

/-! The loop that cleans up, and the one that modifies the shared memory. -/

theorem Matched.component_of_initialized (matched : Matched kind world opened) {i : Fin size}
    (initialized : (world.servers i).initialized kind = true) :
    ∃ address, world.servers i = served kind i address ∧ ⟨address, i⟩ ∈ world.live := by
  cases matched.servers i with
  | serving address session alive _ => exact ⟨address, session, alive⟩
  | resting idle _ =>
      rw [idle.not_initialized] at initialized
      cases initialized

theorem cleanup_unneeded (cap : Option Nat) (servers : List (Fin size))
    (other : ∀ i ∈ servers, (world.servers i).initialized kind = true →
      cap ≠ (world.servers i).component) :
    World.cleanup kind cap servers world = some world := by
  induction servers with
  | nil => rfl
  | cons i rest ih =>
      unfold World.cleanup
      rw [sessionCleanup_other (other i List.mem_cons_self), Option.bind_eq_bind, Option.bind_some]
      exact ih fun j member => other j (List.mem_cons_of_mem _ member)

theorem Matched.cleanup_none (matched : Matched kind world opened) (servers : List (Fin size)) :
    World.cleanup kind none servers world = some world := by
  apply cleanup_unneeded
  intro i _ initialized
  obtain ⟨address, session, _⟩ := matched.component_of_initialized initialized
  rw [session, served_component]
  exact (Option.some_ne_none address).symm

theorem Matched.cleanup_some (matched : Matched kind world opened) {i : Fin size} {address : Nat}
    (serving : world.servers i = served kind i address) (alive : ⟨address, i⟩ ∈ world.live)
    (servers : List (Fin size)) (nodup : servers.Nodup) (member : i ∈ servers) :
    World.cleanup kind (some address) servers world = some (world.release kind i address) := by
  induction servers with
  | nil => cases member
  | cons j rest ih =>
      obtain ⟨outside, nodup⟩ := List.nodup_cons.mp nodup
      unfold World.cleanup
      by_cases same : j = i
      · rw [same, sessionCleanup_serving serving (List.mem_map_of_mem alive), Option.bind_eq_bind,
          Option.bind_some]
        apply cleanup_unneeded
        intro k _ initialized equal
        obtain ⟨later, session, stays⟩ :=
          (matched.release serving alive).component_of_initialized initialized
        rw [session, served_component] at equal
        have different := (List.mem_filter.mp stays).2
        rw [← Option.some.inj equal] at different
        simp at different
      · have others : (world.servers j).initialized kind = true →
            some address ≠ (world.servers j).component := by
          intro initialized equal
          obtain ⟨its, session, itsAlive⟩ := matched.component_of_initialized initialized
          rw [session, served_component] at equal
          rw [← Option.some.inj equal] at itsAlive
          have pair := List.inj_on_of_nodup_map matched.distinct itsAlive alive rfl
          exact same (congrArg Component.server pair)
        rw [sessionCleanup_other others, Option.bind_eq_bind, Option.bind_some]
        exact ih nodup ((List.mem_cons.mp member).resolve_left (Ne.symm same))

theorem Matched.modifyAll_eq (matched : Matched .memory world opened)
    (servers : List (Fin size)) : world.modifyAll servers = world := by
  induction servers with
  | nil => rfl
  | cons i rest ih =>
      unfold World.modifyAll
      by_cases used : ((world.servers i).initialized .memory && world.ready i) = true
      · have initialized := (Bool.and_eq_true_iff.mp used).1
        obtain ⟨address, session, alive⟩ := matched.component_of_initialized initialized
        have modified : world.modify i = world := by
          unfold World.modify
          rw [session]
          exact if_pos (List.mem_map_of_mem alive)
        rw [if_pos used, modified]
        exact ih
      · rw [if_neg used]
        exact ih

/-! One call of the root. -/

theorem Matched.modifySessions_eq (matched : Matched kind world opened) :
    world.modifySessions kind = world := by
  cases kind with
  | message => rfl
  | memory => exact matched.modifyAll_eq _
  | log => rfl

theorem dispatch_create (name label : Text) (offers : Fin size → Offer)
    (fit : World.fits kind name label = true) (matched : Matched kind world opened) :
    Served kind name label offers opened (List.finRange size) world
      (World.dispatch kind world none name label offers) := by
  have loop := serve_served name label offers fit (List.finRange size)
    (List.nodup_finRange size) world matched
  unfold World.dispatch
  simp only [if_true]
  cases served : World.serve kind name label offers (List.finRange size) world with
  | none =>
      rw [served] at loop
      exact loop
  | some after =>
      rw [served] at loop
      simp only [Option.bind_eq_bind, Option.bind_some]
      cases loop with
      | unserved _ matched unserved =>
          rw [matched.cleanup_none, Option.bind_some, matched.modifySessions_eq]
          exact .unserved after matched unserved
      | admitted _ i address matched admitted =>
          rw [matched.cleanup_none, Option.bind_some, matched.modifySessions_eq]
          exact .admitted after i address matched admitted

theorem dispatch_close (matched : Matched kind world opened) {i : Fin size} {address : Nat}
    (serving : world.servers i = served kind i address) (alive : ⟨address, i⟩ ∈ world.live)
    (name label : Text) (offers : Fin size → Offer) :
    World.dispatch kind world (some address) name label offers =
      some (world.release kind i address) := by
  unfold World.dispatch
  simp only [reduceCtorEq, if_false, Option.bind_eq_bind, Option.bind_some]
  rw [matched.cleanup_some serving alive _ (List.nodup_finRange size) (List.mem_finRange i),
    Option.bind_some, (matched.release serving alive).modifySessions_eq]

/-- What a call of the root can do. -/
inductive Stepped (kind : Kind) (world : World size) : Input size → World size → Prop where
  | raised (log : kind = .log) (front lastElement : SessionLabel) (offers : Fin size → Offer)
      (i : Fin size) (free : world.free kind i = true) (fails : Fails world (offers i)) :
      Stepped kind world (.create true front lastElement offers) { world with halted := true }
  | nothing (input : Input size)
      (refused : ∀ front lastElement offers, input = .create true front lastElement offers →
        world.halted = true)
      (unknown : ∀ address, input = .destroy address →
        world.halted = true ∨ address ∉ world.sessions.map Session.address) :
      Stepped kind world input world
  | denied (front lastElement : SessionLabel) (offers : Fin size → Offer) (after : World size)
      (unserved : Unserved kind offers (List.finRange size) { world with accepted := none } after) :
      Stepped kind world (.create true front lastElement offers) after
  | granted (front lastElement : SessionLabel) (offers : Fin size → Offer) (after : World size)
      (i : Fin size) (address : Nat)
      (admitted : Admitted kind offers (List.finRange size) { world with accepted := none } after i
        address) :
      Stepped kind world (.create true front lastElement offers)
        { after with
          sessions := world.sessions ++
            [⟨address, (World.arguments kind front lastElement).1,
              (World.arguments kind front lastElement).2⟩] }
  | closed (i : Fin size) (address : Nat) (serving : world.servers i = served kind i address)
      (alive : ⟨address, i⟩ ∈ world.live) :
      Stepped kind world (.destroy address)
        { world.release kind i address with
          sessions := world.sessions.filter fun session => session.address ≠ address }

theorem Matched.serving (matched : Matched kind world opened) {session : Session}
    (open_ : session ∈ opened) :
    ∃ i, world.servers i = served kind i session.address ∧ ⟨session.address, i⟩ ∈ world.live := by
  have known : session.address ∈ world.addresses :=
    matched.handed.mem_iff.mp (List.mem_map_of_mem open_)
  obtain ⟨component, alive, same⟩ := List.mem_map.mp known
  refine ⟨component.server, ?_, ?_⟩
  · rw [← same]
    exact matched.owned component alive
  · rw [← same]
    exact alive

theorem stepped (matched : Matched kind world world.sessions) (input : Input size) :
    Stepped kind world input (world.step kind input) ∧
      Matched kind (world.step kind input) (world.step kind input).sessions := by
  unfold World.step
  cases halted : world.halted with
  | true =>
      rw [if_pos rfl]
      exact ⟨.nothing input (fun _ _ _ _ => halted) (fun _ _ => Or.inl halted), matched⟩
  | false =>
      rw [if_neg Bool.false_ne_true]
      cases input with
      | create quota front lastElement offers =>
          cases quota with
          | false =>
              exact ⟨.nothing _ (fun _ _ _ impossible => by cases impossible)
                (fun _ impossible => by cases impossible), matched⟩
          | true =>
              have idle : Matched kind { world with accepted := none } world.sessions :=
                matched.congr rfl rfl rfl rfl
              have result := dispatch_create _ _ offers (arguments_fit kind front lastElement) idle
              unfold World.handle World.createSession
              simp only [if_true]
              generalize World.dispatch kind { world with accepted := none } none
                (World.arguments kind front lastElement).1
                (World.arguments kind front lastElement).2 offers = dispatched at result
              cases result with
              | raised log i member free fails =>
                  exact ⟨.raised log front lastElement offers i free fails,
                    matched.congr rfl rfl rfl rfl⟩
              | unserved after final unserved =>
                  simp only [Option.bind_eq_bind, Option.bind_some]
                  rw [unserved.accepted]
                  refine ⟨.denied front lastElement offers after unserved, ?_⟩
                  rw [unserved.sessions]
                  exact final
              | admitted after i address final admitted =>
                  simp only [Option.bind_eq_bind, Option.bind_some]
                  rw [admitted.accepted]
                  simp only [admitted.sessions]
                  have granted := Stepped.granted front lastElement offers after i address admitted
                  rw [admitted.accepted] at granted
                  exact ⟨granted, final.congr rfl rfl rfl rfl⟩
      | destroy address =>
          unfold World.handle World.destroySession
          by_cases known : address ∈ world.sessions.map Session.address
          · obtain ⟨session, open_, same⟩ := List.mem_map.mp known
            obtain ⟨i, serving, alive⟩ := matched.serving open_
            rw [same] at serving alive
            have marked : Matched kind
                { world with
                  sessions := world.sessions.filter fun session => session.address ≠ address }
                world.sessions := matched.congr rfl rfl rfl rfl
            simp only [if_pos known]
            rw [dispatch_close marked serving alive]
            exact ⟨.closed i address serving alive,
              (matched.release serving alive).congr rfl rfl rfl rfl⟩
          · simp only [if_neg known]
            refine ⟨.nothing _ (fun _ _ _ impossible => by cases impossible) ?_, matched⟩
            intro other same
            cases same
            exact Or.inr known

/-! Runs. -/

theorem matched_initial (kind : Kind) : Matched kind (World.initial : World size) [] := by
  constructor
  · intro i
    refine .resting ⟨Or.inr rfl, rfl, rfl, Or.inl rfl⟩ fun impossible => ?_
    cases impossible
  · intro component member
    cases member
  · exact List.nodup_nil
  · exact List.Perm.nil
  · intro session member
    cases member
  · rfl

theorem matched_run (kind : Kind) (inputs : List (Input size)) :
    Matched kind (run (World.step kind) World.initial inputs)
      (run (World.step kind) World.initial inputs).sessions :=
  run_invariant (World.step kind) (fun world => Matched kind world world.sessions)
    (fun _ input matched => (stepped matched input).2) _ inputs (matched_initial kind)

/-- Nothing changes for a server with a client until the session of the client is closed. -/
theorem Stepped.keeps {after : World size} {input : Input size} {i : Fin size} {session : Session}
    (step : Stepped kind world input after) (open_ : session ∈ world.sessions)
    (serving : world.servers i = served kind i session.address)
    (kept : input ≠ .destroy session.address) : session ∈ after.sessions ∧ Kept world after i := by
  have busy : world.free kind i = false := by
    unfold World.free
    rw [serving, served_initialized]
    simp
  cases step with
  | raised log front lastElement offers j free fails => exact ⟨open_, rfl, rfl⟩
  | nothing _ refused unknown => exact ⟨open_, rfl, rfl⟩
  | denied front lastElement offers after unserved =>
      refine ⟨?_, unserved.kept i busy⟩
      rw [unserved.sessions]
      exact open_
  | granted front lastElement offers after j address admitted =>
      exact ⟨List.mem_append_left _ open_, admitted.kept i busy⟩
  | closed j address itsServing alive =>
      have different : session.address ≠ address := fun same => kept (same ▸ rfl)
      have other : i ≠ j := by
        intro same
        rw [← same, serving] at itsServing
        have equal := congrArg ServerSession.component itsServing
        rw [served_component, served_component] at equal
        exact different (Option.some.inj equal)
      refine ⟨List.mem_filter.mpr ⟨open_, by simpa using different⟩, ?_⟩
      exact ⟨Function.update_of_ne other _ _, Function.update_of_ne other _ _⟩

theorem run_keeps {i : Fin size} {session : Session} (later : List (Input size))
    (matched : Matched kind world world.sessions) (open_ : session ∈ world.sessions)
    (serving : world.servers i = served kind i session.address)
    (kept : ∀ input ∈ later, input ≠ .destroy session.address) :
    session ∈ (run (World.step kind) world later).sessions ∧
      Kept world (run (World.step kind) world later) i := by
  induction later generalizing world with
  | nil => exact ⟨open_, rfl, rfl⟩
  | cons input rest ih =>
      obtain ⟨step, next⟩ := stepped matched input
      obtain ⟨stays, same⟩ := step.keeps open_ serving (kept input List.mem_cons_self)
      obtain ⟨remains, sameLater⟩ := ih next stays (same.1.trans serving)
        fun other member => kept other (List.mem_cons_of_mem _ member)
      exact ⟨remains, sameLater.1.trans same.1, sameLater.2.trans same.2⟩

/-- In every run no object is used after it was destroyed, and none is left behind. Every session of
a client leads to an initialized server that is ready, has an `Ident` that begins with the name and
label of this client and no other client, and that stays as it is until the session is closed. The
log server also knows where they end; what is behind them may be left from an earlier client. -/
theorem sessions_have_servers (kind : Kind) (inputs : List (Input size)) :
    let world := run (World.step kind) World.initial inputs
    world.stray = 0 ∧ world.addresses.Nodup ∧
      (world.sessions.map Session.address).Perm world.addresses ∧
      ∀ session ∈ world.sessions, ∃ i,
        (∀ component ∈ world.live, component.address = session.address ↔ component.server = i) ∧
        (world.servers i).initialized kind = true ∧
        (world.servers i).component = some session.address ∧ world.ready i = true ∧
        World.ident session.name session.label <+: (world.slots i).ident ∧
        (kind = .log → (world.slots i).text = World.ident session.name session.label) ∧
        ∀ later : List (Input size), (∀ input ∈ later, input ≠ .destroy session.address) →
          let after := run (World.step kind) world later
          session ∈ after.sessions ∧ after.servers i = world.servers i ∧
            after.slots i = world.slots i := by
  intro world
  have matched : Matched kind world world.sessions := matched_run kind inputs
  refine ⟨matched.stray, matched.distinct, matched.handed, fun session open_ => ?_⟩
  obtain ⟨i, serving, alive⟩ := matched.serving open_
  have names := matched.named session open_ _ alive rfl
  refine ⟨i, fun component member => ⟨fun same => ?_, fun same => ?_⟩, ?_, ?_, ?_, names.start,
    names.known, ?_⟩
  · have pair := List.inj_on_of_nodup_map matched.distinct member alive same
    exact congrArg Component.server pair
  · have owned := matched.owned component member
    rw [same, serving] at owned
    have equal := congrArg ServerSession.component owned
    rw [served_component, served_component] at equal
    exact (Option.some.inj equal).symm
  · rw [serving, served_initialized]
  · rw [serving, served_component]
  · rw [(matched.servers i).ready_eq]
    cases matched.servers i with
    | serving _ _ _ ready => exact ready
    | resting idle _ =>
        have initialized := idle.not_initialized
        rw [serving, served_initialized] at initialized
        cases initialized
  · intro later kept
    exact run_keeps later matched open_ serving kept

/-! How many servers there are for further clients. -/

theorem Matched.length_opened (matched : Matched kind world opened) :
    opened.length =
      (List.finRange size).countP fun i => (world.servers i).initialized kind := by
  have one {first second : Component size} (mem : first ∈ world.live) (mem' : second ∈ world.live)
      (same : first.server = second.server) : first = second := by
    have owned := matched.owned first mem
    rw [same, matched.owned second mem'] at owned
    have equal := congrArg ServerSession.component owned
    rw [served_component, served_component] at equal
    exact List.inj_on_of_nodup_map matched.distinct mem mem' (Option.some.inj equal).symm
  have nodup : (world.live.map Component.server).Nodup :=
    List.Nodup.map_on (fun first mem second mem' => one mem mem')
      (List.Nodup.of_map _ matched.distinct)
  have perm : (world.live.map Component.server).Perm
      ((List.finRange size).filter fun i => (world.servers i).initialized kind) := by
    refine (List.perm_ext_iff_of_nodup nodup ((List.nodup_finRange size).filter _)).mpr fun i => ?_
    rw [List.mem_map, List.mem_filter]
    constructor
    · rintro ⟨component, alive, rfl⟩
      refine ⟨List.mem_finRange _, ?_⟩
      rw [matched.owned component alive, served_initialized]
    · rintro ⟨_, initialized⟩
      obtain ⟨address, _, alive⟩ := matched.component_of_initialized initialized
      exact ⟨_, alive, rfl⟩
  have length := perm.length_eq
  rw [List.length_map] at length
  have handed := matched.handed.length_eq
  rw [List.length_map, World.addresses, List.length_map] at handed
  rw [handed, length, List.countP_eq_length_filter]

/-- A server has a client, is offered to the next one, or is lost. -/
theorem Matched.trichotomy (matched : Matched kind world opened) (i : Fin size) :
    ((world.servers i).initialized kind = true ∧ world.free kind i = false ∧
        ¬Lost kind world i) ∨
      ((world.servers i).initialized kind = false ∧ world.free kind i = true ∧
        ¬Lost kind world i) ∨
      ((world.servers i).initialized kind = false ∧ world.free kind i = false ∧
        Lost kind world i) := by
  have ready := (matched.servers i).ready_eq
  unfold World.free Lost
  rw [ready]
  cases (world.servers i).initialized kind <;> cases (world.slots i).ready <;> simp

theorem Matched.capacity (matched : Matched kind world opened) :
    (List.finRange size).countP (world.free kind) +
      (List.finRange size).countP (fun i => decide (Lost kind world i)) + opened.length = size := by
  have total (servers : List (Fin size)) :
      servers.countP (world.free kind) + servers.countP (fun i => decide (Lost kind world i)) +
        servers.countP (fun i => (world.servers i).initialized kind) = servers.length := by
    induction servers with
    | nil => rfl
    | cons i rest ih =>
        simp only [List.countP_cons, List.length_cons]
        rcases matched.trichotomy i with ⟨client, free, lost⟩ | ⟨client, free, lost⟩ |
          ⟨client, free, lost⟩ <;>
        · simp only [client, free, lost, decide_true, decide_false, if_true, if_false,
            Bool.false_eq_true]
          omega
  rw [matched.length_opened, total, List.length_finRange]

theorem Matched.lost_memory (matched : Matched kind world opened) {i : Fin size}
    (lost : Lost kind world i) : kind = .memory := by
  cases matched.servers i with
  | serving address session _ _ =>
      have initialized := lost.1
      rw [session, served_initialized] at initialized
      cases initialized
  | resting idle stale =>
      rcases idle.index with none_ | ⟨memory, _⟩
      · have own := stale lost.2
        rw [none_] at own
        cases own
      · exact memory

/-- A request is granted if and only if its quota is sufficient and an object can be created for one
of the free servers, unless an exception ends the log component before that. Servers of the message
and the log component are free whenever they have no client. -/
theorem request_granted_iff (kind : Kind) (inputs : List (Input size)) (quota : Bool)
    (front lastElement : SessionLabel) (offers : Fin size → Offer) :
    let world := run (World.step kind) World.initial inputs
    let after := world.step kind (.create quota front lastElement offers)
    let grants := quota = true ∧ ∃ i address, world.free kind i = true ∧
      Grants world (offers i) address
    ((List.finRange size).countP (world.free kind) +
      (List.finRange size).countP (fun i => decide (Lost kind world i)) + world.sessions.length =
        size ∧ ∀ i, Lost kind world i → kind = .memory) ∧
    (world.halted = false →
      (after.halted = true →
        quota = true ∧ kind = .log ∧ ∃ i, world.free kind i = true ∧ Fails world (offers i)) ∧
      (after.halted = false →
        (grants ↔ ∃ address, after.sessions = world.sessions ++
          [⟨address, (World.arguments kind front lastElement).1,
            (World.arguments kind front lastElement).2⟩]) ∧
        (¬grants → after.sessions = world.sessions))) := by
  intro world after grants
  have matched : Matched kind world world.sessions := matched_run kind inputs
  refine ⟨⟨matched.capacity, fun i => matched.lost_memory⟩, fun running => ?_⟩
  have step : Stepped kind world (.create quota front lastElement offers) after :=
    (stepped matched _).1
  generalize after = result at step
  cases step with
  | raised log _ _ _ i free fails =>
      refine ⟨fun _ => ⟨rfl, log, i, free, fails⟩, fun impossible => ?_⟩
      cases impossible
  | nothing _ refused _ =>
      have none_ : ¬grants := by
        rintro ⟨rfl, _⟩
        have halted := refused front lastElement offers rfl
        rw [running] at halted
        cases halted
      refine ⟨fun halted => ?_, fun _ => ⟨⟨fun some_ => (none_ some_).elim, ?_⟩, fun _ => rfl⟩⟩
      · rw [running] at halted
        cases halted
      · rintro ⟨address, longer⟩
        have lengths := congrArg List.length longer
        simp at lengths
  | denied _ _ _ _ unserved =>
      have none_ : ¬grants := by
        rintro ⟨_, i, address, free, granted⟩
        exact unserved.ungranted i (List.mem_finRange i) free address granted
      refine ⟨fun halted => ?_, fun _ => ⟨⟨fun some_ => (none_ some_).elim, ?_⟩, fun _ => ?_⟩⟩
      · rw [unserved.halted] at halted
        rw [running] at halted
        cases halted
      · rintro ⟨address, longer⟩
        have lengths := congrArg List.length (unserved.sessions.symm.trans longer)
        simp at lengths
      · exact unserved.sessions
  | granted _ _ _ final i address admitted =>
      have some_ : grants := ⟨rfl, i, address, admitted.free, admitted.grants⟩
      refine ⟨fun halted => ?_, fun _ => ⟨⟨fun _ => ⟨address, rfl⟩, fun _ => some_⟩, ?_⟩⟩
      · have same : final.halted = true := halted
        rw [admitted.halted] at same
        rw [running] at same
        cases same
      · intro none_
        exact (none_ some_).elim

def sampleLabel (text : Text) (short : text.length < 160) : SessionLabel where
  characters := text ++ List.replicate (160 - text.length) 0
  whole := by
    rw [List.length_append, List.length_replicate]
    omega
  ended := List.mem_append_right _ (List.mem_replicate.mpr ⟨by omega, rfl⟩)

/-- A request of `client` with label `data`. -/
def sampleRequest (offer : Offer) : Input 2 :=
  .create true (sampleLabel (ascii "client") (by decide)) (sampleLabel (ascii "data") (by decide))
    fun _ => offer

-- A failed request leaves the message component as it was.
example : (run (World.step .message) World.initial
    [sampleRequest ⟨none, true⟩, sampleRequest ⟨some 64, true⟩]).sessions =
      [⟨64, ascii "client", ascii "data"⟩] := by
  decide +kernel

/-! The memory component. -/

theorem Stepped.lost {after : World size} {input : Input size} {i : Fin size}
    (step : Stepped kind world input after) (lost : Lost kind world i)
    (busy : world.free kind i = false) : Lost kind after i := by
  cases step with
  | raised log front lastElement offers j free fails => exact lost
  | nothing _ refused unknown => exact lost
  | denied front lastElement offers after unserved => exact lost.congr (unserved.kept i busy)
  | granted front lastElement offers after j address admitted =>
      exact lost.congr (admitted.kept i busy)
  | closed j address serving alive =>
      have other : i ≠ j := by
        intro same
        have initialized := lost.1
        rw [same, serving, served_initialized] at initialized
        cases initialized
      exact lost.congr ⟨Function.update_of_ne other _ _, Function.update_of_ne other _ _⟩

theorem Stepped.running {after : World size} {input : Input size} (memory : kind = .memory)
    (step : Stepped kind world input after) (running : world.halted = false) :
    after.halted = false := by
  cases step with
  | raised log front lastElement offers j free fails =>
      rw [memory] at log
      cases log
  | nothing _ refused unknown => exact running
  | denied front lastElement offers after unserved => exact unserved.halted.trans running
  | granted front lastElement offers after j address admitted =>
      exact admitted.halted.trans running
  | closed j address serving alive => exact running

theorem lost_run {i : Fin size} (later : List (Input size))
    (matched : Matched .memory world world.sessions) (lost : Lost .memory world i) :
    Lost .memory (run (World.step .memory) world later) i := by
  induction later generalizing world with
  | nil => exact lost
  | cons input rest ih =>
      obtain ⟨step, next⟩ := stepped matched input
      have busy : world.free .memory i = false := by
        by_contra free
        exact not_lost_of_free (matched.servers i) (by simpa using free) lost
      exact ih next (step.lost lost busy)

theorem memory_running (inputs : List (Input size)) :
    (run (World.step .memory) World.initial inputs).halted = false := by
  have both := run_invariant (World.step .memory)
    (fun world => Matched .memory world world.sessions ∧ world.halted = false)
    (fun _ input holds =>
      ⟨(stepped holds.1 input).2, (stepped holds.1 input).1.running rfl holds.2⟩) _ inputs
    ⟨matched_initial .memory, rfl⟩
  exact both.2

/-- A request for which no object can be created costs the memory component every server that is
free at the time: whatever happens later, none of them has a client again, and the component never
has more clients than it had. -/
theorem failed_request_costs (inputs later : List (Input size)) (front lastElement : SessionLabel)
    (offers : Fin size → Offer)
    (failing : ∀ i, Fails (run (World.step .memory) World.initial inputs) (offers i) ∧
      (offers i).prepares = true) :
    let world := run (World.step .memory) World.initial inputs
    let after := run (World.step .memory) world
      (.create true front lastElement offers :: later)
    (∀ i, world.free .memory i = true → Lost .memory after i) ∧
      after.sessions.length ≤ world.sessions.length := by
  intro world after
  have matched : Matched .memory world world.sessions := matched_run .memory inputs
  have final : Matched .memory after after.sessions := by
    have whole := matched_run .memory (inputs ++ .create true front lastElement offers :: later)
    rw [run_append] at whole
    exact whole
  obtain ⟨step, next⟩ := stepped matched (.create true front lastElement offers)
  have costs (i : Fin size) (without : (world.servers i).initialized .memory = false) :
      Lost .memory (world.step .memory (.create true front lastElement offers)) i := by
    rcases matched.trichotomy i with ⟨client, _, _⟩ | ⟨_, free, _⟩ | ⟨_, busy, lost⟩
    · rw [without] at client
      cases client
    · generalize world.step .memory (.create true front lastElement offers) = result at step
      cases step with
      | raised log _ _ _ j _ _ => cases log
      | nothing _ refused _ =>
          have halted := refused front lastElement offers rfl
          rw [memory_running] at halted
          cases halted
      | denied _ _ _ _ unserved =>
          exact unserved.costs i (List.mem_finRange i) free rfl (failing i).1 (failing i).2
      | granted _ _ _ _ j address admitted =>
          exact absurd admitted.grants.1 ((failing j).1 address)
    · exact step.lost lost busy
  have lostLater (i : Fin size) (without : (world.servers i).initialized .memory = false) :
      Lost .memory after i := lost_run later next (costs i without)
  constructor
  · intro i free
    refine lostLater i ?_
    exact ((matched.servers i).free_iff.mp free).1.not_initialized
  · rw [final.length_opened, matched.length_opened]
    refine List.countP_mono_left fun i _ client => ?_
    by_contra without
    rw [(lostLater i (by simpa using without)).1] at client
    cases client

theorem failed_request_ends_service :
    (run (World.step .memory) World.initial
      [sampleRequest ⟨none, true⟩, sampleRequest ⟨some 64, true⟩,
        sampleRequest ⟨some 128, true⟩]).sessions = [] := by
  let world : World 2 := run (World.step .memory) World.initial []
  have fails (i : Fin 2) : Fails world ⟨none, true⟩ := by
    rintro address ⟨created, _⟩
    cases created
  have bound := (failed_request_costs [] [sampleRequest ⟨some 64, true⟩,
    sampleRequest ⟨some 128, true⟩] (sampleLabel (ascii "client") (by decide))
    (sampleLabel (ascii "data") (by decide)) (fun _ => ⟨none, true⟩)
    fun i => ⟨fails i, rfl⟩).2
  exact List.length_eq_zero_iff.mp (Nat.le_zero.mp bound)

end Gneiss.Genode.Root
