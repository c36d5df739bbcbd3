import Gneiss.Library.Runs
import Gneiss.Broker.Startup

/-!
`Gneiss.Broker.Main`: `Construct`, and the event loop as a machine whose inputs are the events the
kernel reports.
-/

namespace Gneiss

open Descriptors Runs

variable {sxml : Sxml} {size : Nat}

structure Event where
  epollIn : Bool
  epollHup : Bool
  epollRdhup : Bool
  deriving DecidableEq, Repr

def getDest (state : BrokerState sxml size) (fd : Int) : Option (Fin size) :=
  if valid fd = false then none
  else (List.finRange size).find? fun index =>
    decide ((state.components index).fd = fd) ||
      decide (∃ kind ∈ [KindType.message, .log, .memory, .rom, .timer],
        ((state.components index).serv kind).broker = fd)

def hangUp (world : World sxml size) (index : Fin size) (outcome : Outcome) :
    World sxml size :=
  let component := world.state.components index
  let world :=
    if valid component.fd then
      { world with table := world.table.unwatch component.fd outcome.remove }
    else world
  (world.close component.fd).setComponent index
    { component with fd := -1, node := sxml.init world.state.xml, pid := -1 }

/-- The body of the loop in `Event_Loop` after `Epoll.Wait` returned. -/
def iteration (generated : GeneratedPacket) (world : World sxml size) (fd : Int) (event : Event)
    (delivery : Delivery) (outcome : Outcome) : World sxml size :=
  match getDest world.state fd with
  | none => world
  | some index =>
      if valid (world.state.components index).fd then
        let world :=
          if event.epollIn && valid fd then readMessage generated world index delivery outcome
          else world
        if event.epollHup || event.epollRdhup then hangUp world index outcome
        else world
      else world

structure Input where
  fd : Int
  event : Event
  delivery : Delivery
  outcome : Outcome

/-- Only descriptors in the epoll set are reported. -/
def eventLoopStep (generated : GeneratedPacket) (world : World sxml size) (input : Input) :
    World sxml size :=
  if input.fd ∈ world.table.watched then
    iteration generated world input.fd input.event input.delivery input.outcome
  else world

structure Boot (sxml : Sxml) (size : Nat) where
  xml : sxml.Document
  opened : List Int
  epollOffer : Option Int
  launches : Fin size → Launch

/-- The world in which `Construct` enters the event loop, if it does. -/
def construct (boot : Boot sxml size) : Option (World sxml size) :=
  let query := sxml.init boot.xml
  if sxml.isOpen query boot.xml = false then none
  else
    let (table, epollFd) := Table.allocate ⟨boot.opened, []⟩ boot.epollOffer
    if valid epollFd = false then none
    else
      let resources := parseResources boot.xml query fun _ => ⟨-1, sxml.invalidState⟩
      let components : Fin size → ComponentDefinition sxml :=
        fun _ => ⟨-1, sxml.initialState, -1, fun _ => ⟨-1, -1⟩⟩
      let world : World sxml size := {
        state := ⟨epollFd, boot.xml, components, resources⟩
        table := table
        handled := []
        sent := []
        files := []
        seals := []
        peers := []
      }
      let (world, parent) := startComponents boot.launches query world
      if parent then some world else none

def eventLoop (generated : GeneratedPacket) (world : World sxml size) (inputs : List Input) :
    World sxml size :=
  run (eventLoopStep generated) world inputs

def Reachable (generated : GeneratedPacket) (world : World sxml size) : Prop :=
  ∃ boot start inputs, construct boot = some start ∧ world = eventLoop generated start inputs

end Gneiss
