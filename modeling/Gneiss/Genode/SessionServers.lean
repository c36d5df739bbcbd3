import Mathlib.Data.List.FinRange
import Mathlib.Data.List.Nodup
import Gneiss.Genode.SessionRoot

/-!
What can happen to one server of a component: its initialization, which has a client, none, or an
exception as its outcome, and its cleanup. `Matched` says that the sessions of the clients, the
objects that are alive and the servers that have a client belong together.
-/

namespace Gneiss.Genode.Root

open Runs

variable {size : Nat}

/-! The three ways of converting a label agree. -/

theorem lastFrom_eq (characters : Text) (count last : Nat) (ended : 0 ∈ characters) :
    lastFrom count characters last = count + (toString characters).length := by
  induction characters generalizing count last with
  | nil => cases ended
  | cons character rest ih =>
      unfold lastFrom toString
      by_cases zero : character = 0
      · simp [zero]
      · have later : 0 ∈ rest := by
          rcases List.mem_cons.mp ended with same | later
          · exact absurd same.symm zero
          · exact later
        rw [if_neg zero, ih (count + 1) count later,
          List.takeWhile_cons_of_pos (by simpa using zero), List.length_cons, toString]
        omega

theorem take_takeWhile (characters : Text) :
    characters.take (toString characters).length = toString characters :=
  ((List.prefix_iff_eq_take).mp (List.takeWhile_prefix _)).symm

theorem toAda_eq (kind : Kind) (label : SessionLabel) :
    label.toAda kind = toString label.characters := by
  cases kind with
  | message => rfl
  | memory => rfl
  | log =>
      unfold SessionLabel.toAda
      simp only
      rw [lastFrom_eq _ _ _ label.ended, Nat.zero_add, take_takeWhile]

theorem toAda_length (kind : Kind) (label : SessionLabel) : (label.toAda kind).length ≤ 160 := by
  rw [toAda_eq, ← label.whole]
  exact (List.takeWhile_prefix _).length_le

theorem arguments_fit (kind : Kind) (front lastElement : SessionLabel) :
    World.fits kind (World.arguments kind front lastElement).1
      (World.arguments kind front lastElement).2 = true := by
  have first := toAda_length kind front
  have second := toAda_length kind lastElement
  have bounds : (World.arguments kind front lastElement).1.length ≤ 160 ∧
      (World.arguments kind front lastElement).2.length ≤ 160 := by
    unfold World.arguments
    simp only
    split
    · exact ⟨first, second⟩
    · exact ⟨second, first⟩
  obtain ⟨name, label⟩ := bounds
  cases kind <;>
  · simp only [World.fits, Bool.and_eq_true, decide_eq_true_eq]
    omega

/-! The state of one server. -/

/-- The session of a server whose client has the object at `address`. -/
def served (kind : Kind) (i : Fin size) (address : Nat) : ServerSession size :=
  match kind with
  | .message => ⟨some address, none, false, some i⟩
  | .memory => ⟨some address, some address, false, some i⟩
  | .log => ⟨some address, none, true, some i⟩

/-- The session of a server without a client; a message session may still have a pointer to the
object of its last one. -/
structure Idle (kind : Kind) (i : Fin size) (session : ServerSession size) : Prop where
  component : kind = .message ∨ session.component = none
  addr : session.addr = none
  write : session.write = false
  index : session.index = none ∨ kind = .memory ∧ session.index = some i

inductive Server (kind : Kind) (world : World size) (i : Fin size) : Prop where
  | serving (address : Nat) (session : world.servers i = served kind i address)
      (alive : ⟨address, i⟩ ∈ world.live) (ready : (world.slots i).ready = true)
  | resting (idle : Idle kind i (world.servers i))
      (lost : (world.slots i).ready = true → (world.servers i).index = some i)

/-- `Ident` begins with the name and the label of the client, and the log server, which has `Last`,
knows where they end. -/
structure Names (kind : Kind) (slot : ServerSlot) (name label : Text) : Prop where
  start : World.ident name label <+: slot.ident
  known : kind = .log → slot.text = World.ident name label

theorem setIdent_names (slot : ServerSlot) (kind : Kind) (name label : Text) :
    Names kind (slot.setIdent kind (World.ident name label)) name label := by
  refine ⟨List.prefix_append _ _, ?_⟩
  rintro rfl
  exact List.take_left

/-- `opened` are the sessions of clients; the one just accepted may be among them. -/
structure Matched (kind : Kind) (world : World size) (opened : List Session) : Prop where
  servers : ∀ i, Server kind world i
  owned : ∀ component ∈ world.live,
    world.servers component.server = served kind component.server component.address
  distinct : world.addresses.Nodup
  handed : (opened.map Session.address).Perm world.addresses
  named : ∀ session ∈ opened, ∀ component ∈ world.live, component.address = session.address →
    Names kind (world.slots component.server) session.name session.label
  stray : world.stray = 0

@[simp] theorem served_initialized (kind : Kind) (i : Fin size) (address : Nat) :
    (served kind i address).initialized kind = true := by
  cases kind <;> rfl

@[simp] theorem served_component (kind : Kind) (i : Fin size) (address : Nat) :
    (served kind i address).component = some address := by
  cases kind <;> rfl

@[simp] theorem served_index (kind : Kind) (i : Fin size) (address : Nat) :
    (served kind i address).index = some i := by
  cases kind <;> rfl

theorem Idle.not_initialized {kind : Kind} {i : Fin size} {session : ServerSession size}
    (idle : Idle kind i session) : session.initialized kind = false := by
  cases kind with
  | message =>
      rcases idle.index with none_ | ⟨memory, _⟩
      · simp [ServerSession.initialized, none_]
      · cases memory
  | memory => simp [ServerSession.initialized, idle.addr]
  | log => simp [ServerSession.initialized, idle.write]

theorem Server.ready_eq {kind : Kind} {world : World size} {i : Fin size}
    (server : Server kind world i) : world.ready i = (world.slots i).ready := by
  unfold World.ready
  cases server with
  | serving address session _ _ => rw [session, served_index]
  | resting idle lost =>
      rcases idle.index with none_ | ⟨_, own⟩
      · rw [none_]
        cases stale : (world.slots i).ready with
        | false => rfl
        | true =>
            have own := lost stale
            rw [none_] at own
            cases own
      · rw [own]

theorem Server.free_iff {kind : Kind} {world : World size} {i : Fin size}
    (server : Server kind world i) :
    world.free kind i = true ↔
      Idle kind i (world.servers i) ∧ (world.slots i).ready = false := by
  unfold World.free
  rw [server.ready_eq]
  cases server with
  | serving address session _ ready =>
      rw [session, served_initialized, ready]
      simp
  | resting idle _ =>
      rw [idle.not_initialized]
      simp [idle]

/-- A server of the memory component that is ready without a client; `Dispatch` passes it over. -/
def Lost (kind : Kind) (world : World size) (i : Fin size) : Prop :=
  (world.servers i).initialized kind = false ∧ (world.slots i).ready = true

instance (kind : Kind) (world : World size) (i : Fin size) : Decidable (Lost kind world i) :=
  inferInstanceAs (Decidable (_ ∧ _))

/-! Changing one server, and creating and destroying objects. -/

namespace World

@[simp] theorem setServer_self (world : World size) (i : Fin size) (session : ServerSession size) :
    (world.setServer i session).servers i = session := Function.update_self _ _ _

@[simp] theorem setServer_slots (world : World size) (i : Fin size)
    (session : ServerSession size) : (world.setServer i session).slots = world.slots := rfl

@[simp] theorem setSlot_self (world : World size) (i : Fin size) (slot : ServerSlot) :
    (world.setSlot i slot).slots i = slot := Function.update_self _ _ _

@[simp] theorem setSlot_servers (world : World size) (i : Fin size) (slot : ServerSlot) :
    (world.setSlot i slot).servers = world.servers := rfl

@[simp] theorem setServer_setServer (world : World size) (i : Fin size)
    (first second : ServerSession size) :
    (world.setServer i first).setServer i second = world.setServer i second := by
  simp [setServer]

@[simp] theorem setSlot_setServer (world : World size) (i : Fin size) (slot : ServerSlot)
    (session : ServerSession size) :
    (world.setSlot i slot).setServer i session = (world.setServer i session).setSlot i slot := rfl

/-- The object at `address` is made for the server. -/
def create (world : World size) (i : Fin size) (address : Nat) : World size :=
  { world with live := world.live ++ [⟨address, i⟩] }

@[simp] theorem create_servers (world : World size) (i : Fin size) (address : Nat) :
    (world.create i address).servers = world.servers := rfl

@[simp] theorem create_slots (world : World size) (i : Fin size) (address : Nat) :
    (world.create i address).slots = world.slots := rfl

/-- The server has the client whose object is at `address`. -/
def occupy (world : World size) (kind : Kind) (i : Fin size) (address : Nat) : World size :=
  ((world.create i address).setServer i (served kind i address)).setSlot i
    { world.slots i with ready := true }

/-- The server still has no client. -/
def rest (world : World size) (i : Fin size) (session : ServerSession size) (ready : Bool) :
    World size :=
  (world.setServer i session).setSlot i { world.slots i with ready := ready }

end World

/-- `new` returns an object at `address`. -/
def Creates (world : World size) (offer : Offer) (address : Nat) : Prop :=
  offer.created = some address ∧ address ∉ world.addresses

/-- `new` throws. -/
def Fails (world : World size) (offer : Offer) : Prop :=
  ∀ address, ¬Creates world offer address

/-- The offer makes a server of the next client. -/
def Grants (world : World size) (offer : Offer) (address : Nat) : Prop :=
  Creates world offer address ∧ offer.prepares = true

variable {world : World size} {i : Fin size} {offer : Offer} {address : Nat}

theorem creates_or_fails (world : World size) (offer : Offer) :
    (∃ address, Creates world offer address) ∨ Fails world offer := by
  by_cases creates : ∃ address, Creates world offer address
  · exact Or.inl creates
  · exact Or.inr fun address created => creates ⟨address, created⟩

theorem create2_of_creates (creates : Creates world offer address) :
    world.create2 i offer.created = (world.create i address, some address) := by
  unfold World.create2
  rw [creates.1]
  exact if_neg creates.2

theorem create2_of_fails (fails : Fails world offer) :
    world.create2 i offer.created = (world, none) := by
  unfold World.create2
  cases created : offer.created with
  | none => rfl
  | some address =>
      refine if_pos ?_
      by_contra fresh
      exact fails address ⟨created, fresh⟩

/-- What was just created is destroyed again. -/
theorem destroy_created (fresh : address ∉ world.addresses) (session : ServerSession size)
    (slot : ServerSlot) :
    (((world.create i address).setServer i session).setSlot i slot).destroy (some address) =
      (world.setServer i session).setSlot i slot := by
  have kept : world.live.filter (fun component => component.address ≠ address) = world.live := by
    refine List.filter_eq_self.mpr fun component member => ?_
    simp only [ne_eq, decide_not, Bool.not_eq_true', decide_eq_false_iff_not]
    intro same
    exact fresh (same ▸ List.mem_map_of_mem member)
  simp only [World.destroy, World.addresses, World.setSlot, World.setServer, World.create,
    List.map_append, List.map_cons, List.map_nil, List.mem_append, List.mem_singleton, or_true,
    if_true, List.filter_append, kept]
  simp

/-! What `Session_Initialize` does to a server without a client. -/

theorem ready_eq (own : (world.servers i).index = some i) :
    world.ready i = (world.slots i).ready := by
  unfold World.ready
  rw [own]

theorem serverInitialize_eq (prepares : Bool) (own : (world.servers i).index = some i)
    (unready : (world.slots i).ready = false) :
    world.serverInitialize i prepares =
      some (world.setSlot i { world.slots i with ready := prepares }) := by
  unfold World.serverInitialize
  rw [own, Option.bind_eq_bind, Option.bind_some]
  cases prepares with
  | true => rfl
  | false =>
      have same : ({ world.slots i with ready := false } : ServerSlot) = world.slots i := by
        rw [← unready]
      have kept : world.setSlot i (world.slots i) = world := by
        rw [World.setSlot, Function.update_eq_self]
      rw [same, kept]
      rfl

@[simp] theorem destroy_servers (world : World size) (component : Option Nat) :
    (world.destroy component).servers = world.servers := by
  unfold World.destroy
  cases component with
  | none => rfl
  | some address =>
      simp only
      split <;> rfl

/-- The end of all three procedures: the server prepares itself, or its object is destroyed and its
session is reset. -/
theorem prepare_eq (own : (world.servers i).index = some i)
    (unready : (world.slots i).ready = false) (prepares : Bool)
    (reset : ServerSession size → ServerSession size) :
    (do
      let world ← world.serverInitialize i prepares
      if world.ready i then some world
      else
        let world := world.destroy (world.servers i).component
        some (world.setServer i (reset (world.servers i)))) =
      some (if prepares then world.setSlot i { world.slots i with ready := true }
        else (World.destroy (world.setSlot i { world.slots i with ready := false })
          (world.servers i).component).setServer i (reset (world.servers i))) := by
  have ready : (world.setSlot i { world.slots i with ready := prepares }).ready i = prepares := by
    rw [ready_eq (by simpa using own), World.setSlot_self]
  rw [serverInitialize_eq prepares own unready, Option.bind_eq_bind, Option.bind_some, ready]
  cases prepares with
  | true => rfl
  | false => simp

theorem messageInitialize_creates (creates : Creates world offer address)
    (idle : Idle .message i (world.servers i)) (unready : (world.slots i).ready = false) :
    world.messageInitialize i offer =
      some (if offer.prepares then world.occupy .message i address
        else world.rest i { world.servers i with component := some address, index := none }
          false) := by
  have full : { world.servers i with component := some address, index := some i } =
      served .message i address := by
    simp only [idle.addr, idle.write, served]
  unfold World.messageInitialize
  rw [create2_of_creates creates]
  simp only [Option.isSome_some, if_true, World.setServer_setServer, World.setServer_self,
    World.create_servers]
  rw [full, prepare_eq (by simp) (by simpa using unready) offer.prepares
    (fun session => { session with index := none })]
  cases offer.prepares with
  | true => rfl
  | false =>
      simp only [World.setServer_self, served_component, World.setServer_slots,
        World.create_slots, Bool.false_eq_true, if_false]
      rw [destroy_created creates.2]
      simp [World.rest, ← full]

theorem messageInitialize_fails (fails : Fails world offer) :
    world.messageInitialize i offer =
      some (world.setServer i { world.servers i with component := none }) := by
  unfold World.messageInitialize
  rw [create2_of_fails fails]
  rfl

theorem memoryInitialize_creates (creates : Creates world offer address)
    (idle : Idle .memory i (world.servers i)) (unready : (world.slots i).ready = false) :
    world.memoryInitialize i offer =
      some (if offer.prepares then world.occupy .memory i address
        else world.rest i { world.servers i with component := none, addr := none, index := none }
          false) := by
  have full : { world.servers i with
      component := some address, addr := some address, index := some i } =
      served .memory i address := by
    simp only [idle.write, served]
  unfold World.memoryInitialize
  rw [create2_of_creates creates]
  simp only [Option.isSome_some, if_true, World.setServer_setServer, World.setServer_self,
    World.create_servers]
  rw [full, prepare_eq (by simp) (by simpa using unready) offer.prepares
    (fun session => { session with component := none, addr := none, index := none })]
  cases offer.prepares with
  | true => rfl
  | false =>
      simp only [World.setServer_self, served_component, World.setServer_slots,
        World.create_slots, Bool.false_eq_true, if_false]
      rw [destroy_created creates.2]
      simp [World.rest, ← full]

theorem memoryInitialize_fails (fails : Fails world offer)
    (idle : Idle .memory i (world.servers i)) (unready : (world.slots i).ready = false) :
    world.memoryInitialize i offer =
      some (world.rest i
        { world.servers i with
          component := none, index := if offer.prepares then some i else none }
        offer.prepares) := by
  unfold World.memoryInitialize
  rw [create2_of_fails fails]
  simp only [Option.isSome_none, if_false, World.setServer_setServer, World.setServer_self,
    Bool.false_eq_true]
  rw [prepare_eq (by simp) (by simpa using unready) offer.prepares
    (fun session => { session with component := none, addr := none, index := none })]
  cases offer.prepares with
  | true => rfl
  | false =>
      simp only [World.setServer_self, World.setServer_slots, Bool.false_eq_true, if_false]
      simp [World.rest, World.destroy, idle.addr]

theorem logInitialize_creates (creates : Creates world offer address)
    (idle : Idle .log i (world.servers i)) (unready : (world.slots i).ready = false) :
    world.logInitialize i offer =
      some (if offer.prepares then world.occupy .log i address
        else world.rest i
          { world.servers i with component := none, write := false, index := none } false) := by
  have full : { world.servers i with
      component := some address, write := true, index := some i } =
      served .log i address := by
    simp only [idle.addr, served]
  have created : Creates (world.setServer i { world.servers i with index := some i }) offer
      address := creates
  unfold World.logInitialize
  simp only
  rw [create2_of_creates created]
  simp only [Option.isSome_some, if_true, World.setServer_self, World.create_servers]
  have shape (session : ServerSession size) :
      ((world.setServer i session).create i address) =
        (world.create i address).setServer i session := rfl
  rw [shape, World.setServer_setServer, full, served_initialized, if_pos rfl,
    prepare_eq (by simp) (by simpa using unready) offer.prepares
      (fun session => { session with component := none, write := false, index := none })]
  cases offer.prepares with
  | true => rfl
  | false =>
      simp only [World.setServer_self, served_component, World.setServer_slots,
        World.create_slots, Bool.false_eq_true, if_false]
      rw [destroy_created creates.2]
      simp [World.rest, ← full]

/-- `Initialize` of the server asks for the value of an invalid index. -/
theorem logInitialize_fails (fails : Fails world offer) (idle : Idle .log i (world.servers i)) :
    world.logInitialize i offer = none := by
  have failed : Fails (world.setServer i { world.servers i with index := some i }) offer := fails
  unfold World.logInitialize
  simp only
  rw [create2_of_fails failed]
  simp [World.serverInitialize, ServerSession.initialized, idle.write]

/-- An attempt that leaves the server without a client. -/
structure Attempt (kind : Kind) (world : World size) (i : Fin size) (offer : Offer)
    (session : ServerSession size) (ready : Bool) : Prop where
  idle : Idle kind i session
  own : ready = true → session.index = some i
  ready : ready = true ↔ kind = .memory ∧ Fails world offer ∧ offer.prepares = true
  ungranted : ∀ address, ¬Grants world offer address

theorem Attempt.unready {kind : Kind} {session : ServerSession size}
    (idle : Idle kind i session) (ungranted : ∀ address, ¬Grants world offer address)
    (kept : ¬(kind = .memory ∧ Fails world offer ∧ offer.prepares = true)) :
    Attempt kind world i offer session false := by
  constructor
  · exact idle
  · intro impossible
    cases impossible
  · simpa using kept
  · exact ungranted

theorem sessionInitialize_cases (kind : Kind) (offer : Offer)
    (idle : Idle kind i (world.servers i)) (unready : (world.slots i).ready = false) :
    (∃ address, Grants world offer address ∧
      world.sessionInitialize kind i offer = some (world.occupy kind i address)) ∨
    (∃ session ready, Attempt kind world i offer session ready ∧
      world.sessionInitialize kind i offer = some (world.rest i session ready)) ∨
    (kind = .log ∧ Fails world offer ∧ world.sessionInitialize kind i offer = none) := by
  rcases creates_or_fails world offer with ⟨address, creates⟩ | fails
  · cases prepares : offer.prepares with
    | true =>
        refine Or.inl ⟨address, ⟨creates, prepares⟩, ?_⟩
        cases kind with
        | message =>
            rw [World.sessionInitialize, messageInitialize_creates creates idle unready, prepares]
            rfl
        | memory =>
            rw [World.sessionInitialize, memoryInitialize_creates creates idle unready, prepares]
            rfl
        | log =>
            rw [World.sessionInitialize, logInitialize_creates creates idle unready, prepares]
            rfl
    | false =>
        have refused (address : Nat) : ¬Grants world offer address := by
          rintro ⟨_, prepared⟩
          rw [prepares] at prepared
          cases prepared
        have kept : ¬(kind = .memory ∧ Fails world offer ∧ offer.prepares = true) :=
          fun lost => lost.2.1 address creates
        refine Or.inr (Or.inl ?_)
        cases kind with
        | message =>
            refine ⟨{ world.servers i with component := some address, index := none }, false,
              ?_, ?_⟩
            · exact .unready ⟨Or.inl rfl, idle.addr, idle.write, Or.inl rfl⟩ refused kept
            · rw [World.sessionInitialize, messageInitialize_creates creates idle unready, prepares]
              rfl
        | memory =>
            refine ⟨{ world.servers i with component := none, addr := none, index := none }, false,
              ?_, ?_⟩
            · exact .unready ⟨Or.inr rfl, rfl, idle.write, Or.inl rfl⟩ refused kept
            · rw [World.sessionInitialize, memoryInitialize_creates creates idle unready, prepares]
              rfl
        | log =>
            refine ⟨{ world.servers i with component := none, write := false, index := none },
              false, ?_, ?_⟩
            · exact .unready ⟨Or.inr rfl, idle.addr, rfl, Or.inl rfl⟩ refused kept
            · rw [World.sessionInitialize, logInitialize_creates creates idle unready, prepares]
              rfl
  · have ungranted (address : Nat) : ¬Grants world offer address :=
      fun grants => fails address grants.1
    cases kind with
    | message =>
        refine Or.inr (Or.inl ⟨{ world.servers i with component := none }, false, ?_, ?_⟩)
        · exact .unready ⟨Or.inl rfl, idle.addr, idle.write, idle.index⟩ ungranted
            fun impossible => by cases impossible.1
        · have slot : ({ world.slots i with ready := false } : ServerSlot) = world.slots i := by
            rw [← unready]
          rw [World.sessionInitialize, messageInitialize_fails fails, World.rest, slot]
          simp [World.setSlot, World.setServer]
    | memory =>
        refine Or.inr (Or.inl ⟨_, _, ?_, memoryInitialize_fails fails idle unready⟩)
        constructor
        · refine ⟨Or.inr rfl, idle.addr, idle.write, ?_⟩
          cases offer.prepares with
          | true => exact Or.inr ⟨rfl, rfl⟩
          | false => exact Or.inl rfl
        · intro prepares
          simp only [prepares, if_true]
        · simp [fails]
        · exact ungranted
    | log => exact Or.inr (Or.inr ⟨rfl, fails, logInitialize_fails fails idle⟩)

/-! A server with a client, a server without one, and what changing one server leaves as it was. -/

theorem Server.congr {kind : Kind} {world after : World size} {i : Fin size}
    (server : Server kind world i) (servers : after.servers i = world.servers i)
    (slots : (after.slots i).ready = (world.slots i).ready)
    (live : ⟨((world.servers i).component).getD 0, i⟩ ∈ world.live →
      ⟨((world.servers i).component).getD 0, i⟩ ∈ after.live) : Server kind after i := by
  cases server with
  | serving address session alive ready =>
      refine .serving address (servers.trans session) ?_ (slots.trans ready)
      rw [session, served_component] at live
      exact live alive
  | resting idle lost =>
      refine .resting (servers ▸ idle) fun ready => ?_
      rw [servers]
      exact lost (slots ▸ ready)

theorem Matched.not_served {kind : Kind} {opened : List Session}
    (matched : Matched kind world opened) (idle : Idle kind i (world.servers i))
    (component : Component size) (alive : component ∈ world.live) : component.server ≠ i := by
  intro same
  have served := matched.owned component alive
  rw [same] at served
  have initialized := idle.not_initialized
  rw [served, served_initialized] at initialized
  cases initialized

theorem Matched.rest {kind : Kind} {opened : List Session} (matched : Matched kind world opened)
    (free : world.free kind i = true) {session : ServerSession size} {ready : Bool}
    (attempt : Attempt kind world i offer session ready) :
    Matched kind (world.rest i session ready) opened := by
  have idle := ((matched.servers i).free_iff.mp free).1
  have other := matched.not_served idle
  constructor
  · intro j
    by_cases same : j = i
    · rw [same]
      refine .resting ?_ fun stale => ?_
      · simpa [World.rest] using attempt.idle
      · have isReady : ready = true := by simpa [World.rest] using stale
        simpa [World.rest] using attempt.own isReady
    · refine (matched.servers j).congr (Function.update_of_ne same _ _) ?_ id
      simp [World.rest, World.setSlot, World.setServer, Function.update_of_ne same]
  · intro component alive
    exact (Function.update_of_ne (other component alive) _ _).trans (matched.owned component alive)
  · exact matched.distinct
  · exact matched.handed
  · intro open_ member component alive address
    have slot : (world.rest i session ready).slots component.server =
        world.slots component.server := Function.update_of_ne (other component alive) _ _
    rw [slot]
    exact matched.named open_ member component alive address
  · exact matched.stray

theorem Matched.congr {kind : Kind} {world after : World size} {opened : List Session}
    (matched : Matched kind world opened) (servers : after.servers = world.servers)
    (slots : after.slots = world.slots) (live : after.live = world.live)
    (stray : after.stray = world.stray) : Matched kind after opened := by
  have addresses : after.addresses = world.addresses := by
    unfold World.addresses
    rw [live]
  constructor
  · intro i
    exact (matched.servers i).congr (congrFun servers i) (by rw [slots]) (by rw [live]; exact id)
  · rw [live, servers]
    exact matched.owned
  · rw [addresses]
    exact matched.distinct
  · rw [addresses]
    exact matched.handed
  · rw [live, slots]
    exact matched.named
  · rw [stray]
    exact matched.stray

/-- `Dispatch` accepts the client whose object is at `address`. -/
def World.enrol (world : World size) (kind : Kind) (i : Fin size) (address : Nat)
    (name label : Text) : World size :=
  let world := world.occupy kind i address
  World.sessionAccept
    (world.setSlot i ((world.slots i).setIdent kind (World.ident name label))) i

theorem Matched.enrol {kind : Kind} {opened : List Session} (matched : Matched kind world opened)
    (free : world.free kind i = true) (fresh : address ∉ world.addresses) (name label : Text) :
    Matched kind (world.enrol kind i address name label)
      (opened ++ [⟨address, name, label⟩]) := by
  have idle := ((matched.servers i).free_iff.mp free).1
  have other := matched.not_served idle
  have live : (world.enrol kind i address name label).live = world.live ++ [⟨address, i⟩] := rfl
  have kept {j : Fin size} (different : j ≠ i) :
      (world.enrol kind i address name label).servers j = world.servers j ∧
        (world.enrol kind i address name label).slots j = world.slots j := by
    refine ⟨Function.update_of_ne different _ _, ?_⟩
    exact (Function.update_of_ne different _ _).trans (Function.update_of_ne different _ _)
  have own : (world.enrol kind i address name label).servers i = served kind i address :=
    Function.update_self _ _ _
  have slot : (world.enrol kind i address name label).slots i =
      { world.slots i with ready := true }.setIdent kind (World.ident name label) := by
    simp [World.enrol, World.sessionAccept, World.occupy]
  have known {session : Session} (member : session ∈ opened) :
      session.address ∈ world.addresses :=
    matched.handed.mem_iff.mp (List.mem_map_of_mem member)
  constructor
  · intro j
    by_cases same : j = i
    · rw [same]
      refine .serving address own ?_ (by rw [slot]; rfl)
      rw [live]
      exact List.mem_append_right _ List.mem_cons_self
    · refine (matched.servers j).congr (kept same).1 (by rw [(kept same).2]) fun member => ?_
      rw [live]
      exact List.mem_append_left _ member
  · intro component member
    rw [live] at member
    rcases List.mem_append.mp member with old | new
    · rw [(kept (other component old)).1]
      exact matched.owned component old
    · rw [List.mem_singleton.mp new]
      exact own
  · have addresses : (world.enrol kind i address name label).addresses =
        world.addresses ++ [address] := List.map_append
    rw [addresses]
    refine matched.distinct.append (List.nodup_singleton _) ?_
    intro shared before alone
    exact fresh (List.mem_singleton.mp alone ▸ before)
  · have addresses : (world.enrol kind i address name label).addresses =
        world.addresses ++ [address] := List.map_append
    rw [addresses, List.map_append]
    exact matched.handed.append_right _
  · intro session member component alive same
    rw [live] at alive
    rcases List.mem_append.mp member with before | last <;>
      rcases List.mem_append.mp alive with old | new
    · rw [(kept (other component old)).2]
      exact matched.named session before component old same
    · rw [List.mem_singleton.mp new] at same
      have equal : address = session.address := same
      exact absurd (known before) (equal ▸ fresh)
    · rw [List.mem_singleton.mp last] at same
      have equal : component.address = address := same
      exact absurd (List.mem_map_of_mem old) (equal ▸ fresh)
    · rw [List.mem_singleton.mp new, List.mem_singleton.mp last, slot]
      exact setIdent_names _ kind name label
  · exact matched.stray

/-- The client of the server is gone. -/
def World.release (world : World size) (kind : Kind) (i : Fin size) (address : Nat) :
    World size :=
  World.setServer
    { world with
      slots := Function.update world.slots i { world.slots i with ready := false }
      live := world.live.filter fun component => component.address ≠ address }
    i (World.cleaned (world.servers i) kind)

theorem cleaned_idle (kind : Kind) (i : Fin size) (address : Nat) :
    Idle kind i (World.cleaned (served kind i address) kind) := by
  cases kind with
  | message => exact ⟨Or.inl rfl, rfl, rfl, Or.inl rfl⟩
  | memory => exact ⟨Or.inr rfl, rfl, rfl, Or.inr ⟨rfl, rfl⟩⟩
  | log => exact ⟨Or.inr rfl, rfl, rfl, Or.inl rfl⟩

theorem destroy_alive {slot : ServerSlot} (alive : address ∈ world.addresses) :
    (world.setSlot i slot).destroy (some address) =
      { world.setSlot i slot with
        live := world.live.filter fun component => component.address ≠ address } :=
  if_pos alive

theorem sessionCleanup_serving {kind : Kind}
    (serving : world.servers i = served kind i address) (alive : address ∈ world.addresses) :
    world.sessionCleanup kind (some address) i = some (world.release kind i address) := by
  unfold World.sessionCleanup World.serverFinalize
  rw [serving, served_initialized, served_component, served_index]
  simp only [decide_true, Bool.and_true, if_true, Option.bind_eq_bind, Option.bind_some,
    World.setSlot_servers, destroy_servers, serving, served_component]
  rw [destroy_alive alive]
  simp only [World.release, World.setServer, World.setSlot, serving]

theorem sessionCleanup_other {kind : Kind} {cap : Option Nat}
    (other : (world.servers i).initialized kind = true → cap ≠ (world.servers i).component) :
    world.sessionCleanup kind cap i = some world := by
  unfold World.sessionCleanup
  refine if_neg fun both => ?_
  simp only [Bool.and_eq_true, decide_eq_true_eq] at both
  exact other both.1 both.2

theorem Matched.release {kind : Kind} {opened : List Session} (matched : Matched kind world opened)
    (serving : world.servers i = served kind i address) (alive : ⟨address, i⟩ ∈ world.live) :
    Matched kind (world.release kind i address)
      (opened.filter fun session => session.address ≠ address) := by
  have live : (world.release kind i address).live =
      world.live.filter fun component => component.address ≠ address := rfl
  have other {component : Component size} (member : component ∈ world.live)
      (different : component.address ≠ address) : component.server ≠ i := by
    intro same
    have owned := matched.owned component member
    rw [same, serving] at owned
    have equal := congrArg ServerSession.component owned
    rw [served_component, served_component] at equal
    exact different (Option.some.inj equal).symm
  have kept {j : Fin size} (different : j ≠ i) :
      (world.release kind i address).servers j = world.servers j ∧
        (world.release kind i address).slots j = world.slots j :=
    ⟨Function.update_of_ne different _ _, Function.update_of_ne different _ _⟩
  have addresses : (world.release kind i address).addresses =
      world.addresses.filter fun other => other ≠ address := by
    unfold World.addresses
    rw [live, List.filter_map]
    rfl
  constructor
  · intro j
    by_cases same : j = i
    · rw [same]
      refine .resting ?_ fun stale => ?_
      · have own : (world.release kind i address).servers i =
            World.cleaned (world.servers i) kind := Function.update_self _ _ _
        rw [own, serving]
        exact cleaned_idle kind i address
      · simp [World.release, World.setServer] at stale
    · refine (matched.servers j).congr (kept same).1 (by rw [(kept same).2]) fun member => ?_
      rw [live]
      refine List.mem_filter.mpr ⟨member, ?_⟩
      simp only [ne_eq, decide_not, Bool.not_eq_true', decide_eq_false_iff_not]
      intro equal
      have first := matched.owned _ member
      simp only at first
      have pair := List.inj_on_of_nodup_map matched.distinct member alive equal
      exact same (congrArg Component.server pair)
  · intro component member
    rw [live] at member
    obtain ⟨old, different⟩ := List.mem_filter.mp member
    rw [(kept (other old (by simpa using different))).1]
    exact matched.owned component old
  · rw [addresses]
    exact matched.distinct.filter _
  · rw [addresses]
    have filtered := matched.handed.filter fun other => decide (other ≠ address)
    rw [List.filter_map] at filtered
    exact filtered
  · intro session member component remains same
    rw [live] at remains
    obtain ⟨old, different⟩ := List.mem_filter.mp remains
    rw [(kept (other old (by simpa using different))).2]
    exact matched.named session (List.mem_filter.mp member).1 component old same
  · exact matched.stray

end Gneiss.Genode.Root
