import Gneiss.Broker.Main

/-!
Induction over the loop of `Start_Components` and over the whole life of the broker. `started` and
`aborted` are the world after one component was launched and after `fork` failed.
-/

namespace Gneiss

open Descriptors Runs

variable {sxml : Sxml} {size : Nat}

def connected (world : World sxml size) (slot : Fin size) (broker fd : Int) (add : Bool) :
    World sxml size :=
  let world := { world with table := (world.table.insert broker).insert fd }
  let world := world.setComponent slot { world.state.components slot with fd := broker }
  { world with table := world.table.watch broker add }

def aborted (world : World sxml size) (slot : Fin size) (broker fd : Int) (add : Bool) :
    World sxml size :=
  let world := connected world slot broker fd add
  world.setComponent slot { world.state.components slot with fd := -1 }

def started (world : World sxml size) (slot : Fin size) (query : sxml.State) (broker fd : Int)
    (launch : Launch) : World sxml size :=
  let world := connected world slot broker fd launch.add
  let world := world.setComponent slot
    { world.state.components slot with pid := launch.pid, node := query }
  let world := world.close fd
  { world with peers := world.peers ++ [(broker, slot)] }

/-- The process forked for `slot`, up to its call of `Gneiss.Main.Run`. -/
def forked (world : World sxml size) (slot : Fin size) (broker fd : Int) (add : Bool) :
    World sxml size :=
  let world := connected world slot broker fd add
  let world := world.close world.state.epollFd
  load { world with state := { world.state with epollFd := -1 } }

/-- How the loop ends: the parent with the invariant or after a failed `fork`, and a child in the
turn of its own slot. -/
inductive Ended (launches : Fin size → Launch) (Inv : Nat → World sxml size → Prop) :
    World sxml size × Bool → Prop
  | parent (last : Nat) (world : World sxml size) (holds : Inv last world) :
      Ended launches Inv (world, true)
  | abort (slot : Fin size) (world : World sxml size) (broker fd : Int) (holds : Inv slot world)
      (granted : world.table.grantsPair broker fd = true) :
      Ended launches Inv (aborted world slot broker fd (launches slot).add, true)
  | child (slot : Fin size) (world : World sxml size) (broker fd : Int) (holds : Inv slot world)
      (granted : world.table.grantsPair broker fd = true)
      (offered : (launches slot).pair = some (broker, fd)) (zero : (launches slot).pid = 0) :
      Ended launches Inv (forked world slot broker fd (launches slot).add, false)

theorem startComponentsFrom_ended (launches : Fin size → Launch)
    (Inv : Nat → World sxml size → Prop)
    (skipped : ∀ index world, Inv index world → Inv (index + 1) world)
    (unconnected : ∀ (slot : Fin size) (world : World sxml size), Inv slot world →
      Inv (slot + 1) (world.setComponent slot { world.state.components slot with fd := -1 }))
    (start : ∀ (slot : Fin size) (world : World sxml size) query broker fd launch,
      Inv slot world → world.table.grantsPair broker fd = true →
      sxml.isOpen query world.state.xml = true →
      (sxml.getAttribute query world.state.xml (ascii "name") 255).1 = .ok →
      Inv (slot + 1) (started world slot query broker fd launch))
    (fuel index : Nat) (query : sxml.State) (world : World sxml size) (initial : Inv index world) :
    Ended launches Inv (startComponentsFrom launches fuel index query world) := by
  induction fuel generalizing index query world with
  | zero => exact .parent index world initial
  | succ fuel ih =>
      unfold startComponentsFrom
      split
      · exact .parent index world initial
      · generalize sxml.findSibling query world.state.xml (ascii "component") none = node
        simp only
        split
        · exact .parent index world initial
        · rename_i opened
          obtain ⟨_, open_⟩ := not_or.mp opened
          rw [Bool.not_eq_false] at open_
          by_cases bound : index < size
          · have rest : ∀ middle, Inv (index + 1) middle →
                Ended launches Inv (if index + 1 = size then (middle, true)
                  else startComponentsFrom launches fuel (index + 1)
                    (sxml.sibling node middle.state.xml) middle) := by
              intro middle holds
              split
              · exact .parent (index + 1) middle holds
              · exact ih (index + 1) _ middle holds
            simp only [bound, ↓reduceDIte]
            split
            · rename_i readable
              rcases allocatePair_cases world.table (launches ⟨index, bound⟩).pair with
                failed | ⟨broker, fd, offered, granted, allocated⟩
              · rw [failed]
                exact rest _ (unconnected ⟨index, bound⟩ world initial)
              · rw [allocated]
                have brokerValid := ((grantsPair_iff _ _ _).mp granted).1.1
                simp only [brokerValid, ↓reduceIte]
                split
                · exact .abort ⟨index, bound⟩ world broker fd initial granted
                · split
                  · exact rest _ (start ⟨index, bound⟩ world node broker fd _ initial granted
                      open_ readable)
                  · exact .child ⟨index, bound⟩ world broker fd initial granted offered (by omega)
            · exact rest world (skipped index world initial)
          · simp only [bound, ↓reduceDIte]
            exact .parent index world initial

theorem startComponentsFrom_invariant (launches : Fin size → Launch)
    (Inv : Nat → World sxml size → Prop)
    (skipped : ∀ index world, Inv index world → Inv (index + 1) world)
    (unconnected : ∀ (slot : Fin size) (world : World sxml size), Inv slot world →
      Inv (slot + 1) (world.setComponent slot { world.state.components slot with fd := -1 }))
    (abort : ∀ (slot : Fin size) (world : World sxml size) broker fd add, Inv slot world →
      world.table.grantsPair broker fd = true → Inv (slot + 1) (aborted world slot broker fd add))
    (start : ∀ (slot : Fin size) (world : World sxml size) query broker fd launch,
      Inv slot world → world.table.grantsPair broker fd = true →
      sxml.isOpen query world.state.xml = true →
      (sxml.getAttribute query world.state.xml (ascii "name") 255).1 = .ok →
      Inv (slot + 1) (started world slot query broker fd launch))
    (fuel index : Nat) (query : sxml.State) (world : World sxml size) (initial : Inv index world)
    (parent : (startComponentsFrom launches fuel index query world).2 = true) :
    ∃ last, Inv last (startComponentsFrom launches fuel index query world).1 := by
  have ended := startComponentsFrom_ended launches Inv skipped unconnected start fuel index query
    world initial
  generalize startComponentsFrom launches fuel index query world = result at ended parent
  cases ended with
  | parent last world holds => exact ⟨last, holds⟩
  | abort slot world broker fd holds granted =>
      exact ⟨slot + 1, abort slot world broker fd _ holds granted⟩
  | child => cases parent

/-! The world `Construct` starts with. -/

def blank (boot : Boot sxml size) (table : Table) (epollFd : Int) : World sxml size where
  state := {
    epollFd := epollFd
    xml := boot.xml
    components := fun _ => ⟨-1, sxml.initialState, -1, fun _ => ⟨-1, -1⟩⟩
    resources := parseResources boot.xml (sxml.init boot.xml) fun _ => ⟨-1, sxml.invalidState⟩ }
  table := table
  handled := []
  sent := []
  files := []
  seals := []
  peers := []

theorem construct_started (boot : Boot sxml size) (world : World sxml size)
    (constructed : construct boot = some world) :
    ∃ table epollFd, Evolves ⟨boot.opened, []⟩ table ∧
      startComponents boot.launches (sxml.init boot.xml) (blank boot table epollFd) =
        (world, true) := by
  unfold construct at constructed
  simp only at constructed
  split at constructed
  · cases constructed
  · rcases allocated : Table.allocate ⟨boot.opened, []⟩ boot.epollOffer with ⟨table, epollFd⟩
    rw [allocated] at constructed
    simp only at constructed
    split at constructed
    · cases constructed
    · have evolves : Evolves ⟨boot.opened, []⟩ table := by
        rcases allocate_cases ⟨boot.opened, []⟩ boot.epollOffer with failed | ⟨fd, _, _, granted⟩
        · rw [allocated, Prod.mk.injEq] at failed
          rw [failed.1]
          exact .refl
        · rw [allocated, Prod.mk.injEq] at granted
          rw [granted.1]
          exact Evolves.refl.insert fd
      refine ⟨table, epollFd, evolves, ?_⟩
      split at constructed
      · rename_i parent
        rw [Option.some.injEq] at constructed
        exact Prod.ext constructed parent
      · cases constructed

theorem construct_invariant (boot : Boot sxml size) (world : World sxml size)
    (Inv : Nat → World sxml size → Prop)
    (initial : ∀ table epollFd, Evolves ⟨boot.opened, []⟩ table →
      Inv 0 (blank boot table epollFd))
    (skipped : ∀ index world, Inv index world → Inv (index + 1) world)
    (unconnected : ∀ (slot : Fin size) (world : World sxml size), Inv slot world →
      Inv (slot + 1) (world.setComponent slot { world.state.components slot with fd := -1 }))
    (abort : ∀ (slot : Fin size) (world : World sxml size) broker fd add, Inv slot world →
      world.table.grantsPair broker fd = true → Inv (slot + 1) (aborted world slot broker fd add))
    (start : ∀ (slot : Fin size) (world : World sxml size) query broker fd launch,
      Inv slot world → world.table.grantsPair broker fd = true →
      sxml.isOpen query world.state.xml = true →
      (sxml.getAttribute query world.state.xml (ascii "name") 255).1 = .ok →
      Inv (slot + 1) (started world slot query broker fd launch))
    (constructed : construct boot = some world) : ∃ last, Inv last world := by
  obtain ⟨table, epollFd, evolves, ran⟩ := construct_started boot world constructed
  unfold startComponents at ran
  have parent := congrArg Prod.snd ran
  obtain ⟨last, holds⟩ := startComponentsFrom_invariant boot.launches Inv skipped unconnected abort
    start _ 0 _ (blank boot table epollFd) (initial table epollFd evolves) parent
  rw [ran] at holds
  exact ⟨last, holds⟩

/-- `construct_invariant` for facts that do not mention how many slots are filled. -/
theorem construct_preserves (boot : Boot sxml size) (world : World sxml size)
    (Inv : World sxml size → Prop)
    (initial : ∀ table epollFd, Evolves ⟨boot.opened, []⟩ table → Inv (blank boot table epollFd))
    (unconnected : ∀ (slot : Fin size) (world : World sxml size), Inv world →
      Inv (world.setComponent slot { world.state.components slot with fd := -1 }))
    (abort : ∀ (slot : Fin size) (world : World sxml size) broker fd add, Inv world →
      Inv (aborted world slot broker fd add))
    (start : ∀ (slot : Fin size) (world : World sxml size) query broker fd launch, Inv world →
      sxml.isOpen query world.state.xml = true →
      (sxml.getAttribute query world.state.xml (ascii "name") 255).1 = .ok →
      Inv (started world slot query broker fd launch))
    (constructed : construct boot = some world) : Inv world := by
  have everywhere := construct_invariant boot world (fun _ => Inv) initial
    (fun _ _ holds => holds) unconnected
    (fun slot middle broker fd add holds _ => abort slot middle broker fd add holds)
    (fun slot middle query broker fd launch holds _ =>
      start slot middle query broker fd launch holds)
    constructed
  obtain ⟨_, holds⟩ := everywhere
  exact holds

theorem reachable_invariant (generated : GeneratedPacket) (Inv : World sxml size → Prop)
    (initial : ∀ boot world, construct boot = some world → Inv world)
    (preserved : ∀ world input, Inv world → Inv (eventLoopStep generated world input))
    (world : World sxml size) (reachable : Reachable generated world) : Inv world := by
  obtain ⟨boot, start, inputs, constructed, rfl⟩ := reachable
  exact run_invariant _ Inv preserved start inputs (initial boot start constructed)

theorem reachable_eventLoop {generated : GeneratedPacket} {world : World sxml size}
    (reachable : Reachable generated world) (inputs : List Input) :
    Reachable generated (eventLoop generated world inputs) := by
  obtain ⟨boot, start, before, constructed, rfl⟩ := reachable
  exact ⟨boot, start, before ++ inputs, constructed, (run_append _ start before inputs).symm⟩

/-! A small system: a client that asks for messages, a ROM and a timer, and a server. -/

def serviceElement (kind : KindType) (server : Option Text) : Xml :=
  .element (ascii "service")
    ((ascii "name", image kind) :: (server.map fun name => (ascii "server", name)).toList) []

def componentElement (name : Text) (services : List Xml) : Xml :=
  .element (ascii "component") [(ascii "name", name)] services

def sampleDocument : Xml :=
  .element (ascii "config") [] [
    componentElement (ascii "client") [
      serviceElement .message (some (ascii "server")),
      serviceElement .rom (some (ascii "server")),
      serviceElement .timer none],
    componentElement (ascii "server") []]

def sampleBoot : Boot xmlTree 2 where
  xml := sampleDocument
  opened := [0, 1, 2]
  epollOffer := some 3
  launches slot :=
    if slot = 0 then ⟨some (4, 5), true, 100⟩ else ⟨some (6, 7), true, 101⟩

theorem sample_starts : (construct sampleBoot).isSome = true := by
  decide +kernel

def sampleWorld : World xmlTree 2 :=
  (construct sampleBoot).get sample_starts

theorem sample_constructed : construct sampleBoot = some sampleWorld :=
  (Option.some_get sample_starts).symm

theorem sample_reachable (generated : GeneratedPacket) : Reachable generated sampleWorld :=
  ⟨sampleBoot, sampleWorld, [], sample_constructed, rfl⟩

def sampleOutcome : Outcome where
  session := some (8, 9)
  service := some (10, 11)
  serviceAdd := true
  sealShrink := true
  sealGrow := true
  sealSeal := true
  file := some 12
  timer := some 13
  remove := true
  sendmsg := true

def noText : Payload := ⟨[], by decide⟩

def clientName : Payload := ⟨ascii "client", by decide⟩

def serverName : Payload := ⟨ascii "server", by decide⟩

def delivering (packet : Packet) (fd : Int) : Delivery where
  datagram := some packet.encode
  stale := Packet.Buffer.zero
  offered slot := if slot = 0 then fd else -1

def readable (fd : Int) (packet : Packet) (attachment : Int) : Input where
  fd := fd
  event := ⟨true, false, false⟩
  delivery := delivering packet attachment
  outcome := sampleOutcome

end Gneiss
