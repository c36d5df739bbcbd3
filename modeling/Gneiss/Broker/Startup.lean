import Gneiss.Broker.Message

/-!
`Gneiss.Broker.Startup`: from the configuration document to the tables the event loop works on. The
loops over siblings get as much fuel as there are siblings.
-/

namespace Gneiss

open Descriptors

variable {sxml : Sxml} {size : Nat}

/-- What the kernel answers while one component is started; `pid` is the result of `fork`. -/
structure Launch where
  pair : Option (Int × Int)
  add : Bool
  pid : Int

def parseResourcesFrom (document : sxml.Document) :
    Nat → Nat → sxml.State → (Fin size → ResourceDefinition sxml) →
      Fin size → ResourceDefinition sxml
  | 0, _, _, resources => resources
  | fuel + 1, index, query, resources =>
      if sxml.stateResult query = .ok ∧ sxml.isOpen query document = true then
        let query := sxml.findSibling query document (ascii "resource") none
        if sxml.stateResult query ≠ .ok then resources
        else if bound : index < size then
          let slot : Fin size := ⟨index, bound⟩
          let resources := Function.update resources slot { resources slot with node := query }
          if index + 1 = size then resources
          else parseResourcesFrom document fuel (index + 1) (sxml.sibling query document) resources
        else resources
      else resources

def parseResources (document : sxml.Document) (root : sxml.State)
    (resources : Fin size → ResourceDefinition sxml) : Fin size → ResourceDefinition sxml :=
  let query := sxml.path root document (ascii "/config/resource")
  parseResourcesFrom document ((sxml.siblings query document).length + 1) 0 query resources

/-- `Load` up to the call of `Gneiss.Main.Run`: what the forked process closes. -/
def load (world : World sxml size) : World sxml size :=
  (List.finRange size).foldl (fun world index =>
    let component := world.state.components index
    (world.close component.fd).setComponent index
      { component with node := sxml.invalidState, fd := -1 }) world

/-- The world and `Parent` when `Start_Components` returns. -/
def startComponentsFrom (launches : Fin size → Launch) :
    Nat → Nat → sxml.State → World sxml size → World sxml size × Bool
  | 0, _, _, world => (world, true)
  | fuel + 1, index, query, world =>
      if sxml.stateResult query ≠ .ok then (world, true)
      else
        let query := sxml.findSibling query world.state.xml (ascii "component") none
        if sxml.stateResult query ≠ .ok ∨ sxml.isOpen query world.state.xml = false then
          (world, true)
        else if bound : index < size then
          let slot : Fin size := ⟨index, bound⟩
          let next (world : World sxml size) : World sxml size × Bool :=
            if index + 1 = size then (world, true)
            else startComponentsFrom launches fuel (index + 1)
              (sxml.sibling query world.state.xml) world
          if (sxml.getAttribute query world.state.xml (ascii "name") 255).1 = .ok then
            let (table, broker, fd) := world.table.allocatePair (launches slot).pair
            let world := { world with table := table }
            let world := world.setComponent slot { world.state.components slot with fd := broker }
            if valid broker then
              let world := { world with table := world.table.watch broker (launches slot).add }
              if (launches slot).pid < 0 then
                (world.setComponent slot { world.state.components slot with fd := -1 }, true)
              else if 0 < (launches slot).pid then
                let world := world.setComponent slot
                  { world.state.components slot with pid := (launches slot).pid, node := query }
                let world := world.close fd
                next { world with peers := world.peers ++ [(broker, slot)] }
              else
                let world := world.close world.state.epollFd
                let world := { world with state := { world.state with epollFd := -1 } }
                (load world, false)
            else next world
          else next world
        else (world, true)

def startComponents (launches : Fin size → Launch) (root : sxml.State)
    (world : World sxml size) : World sxml size × Bool :=
  let query := sxml.path root world.state.xml (ascii "/config/component")
  startComponentsFrom launches ((sxml.siblings query world.state.xml).length + 1) 0 query world

end Gneiss
