import Gneiss.Broker.State

/-!
`Gneiss.Broker.Lookup`. A loop over siblings gets as much fuel as there are siblings; a search over
a table is `find?` over its index range, which stops where the loop exits.
-/

namespace Gneiss

open Descriptors

variable {sxml : Sxml} {size : Nat}

/-- `Compare` of a buffer that holds `value` with a string. -/
def compare (value constrained : Text) : Bool :=
  decide (0 < constrained.length) && decide (0 < value.length) &&
    decide (value.length = constrained.length) && decide (value = constrained)

def matchServiceFrom (document : sxml.Document) (kind label : Text) :
    Nat → sxml.State → sxml.State → sxml.State
  | 0, _, defaultState => defaultState
  | fuel + 1, query, defaultState =>
      if sxml.stateResult query = .ok then
        let query := sxml.findSibling query document (ascii "service") (some (ascii "name", kind))
        if sxml.stateResult query = .ok then
          let (result, buffer) := sxml.getAttribute query document (ascii "label") 255
          if result = .ok ∧ compare buffer label = true then query
          else if result = .notFound then
            matchServiceFrom document kind label fuel (sxml.sibling query document) query
          else
            matchServiceFrom document kind label fuel (sxml.sibling query document) defaultState
        else defaultState
      else defaultState

def matchService (document : sxml.Document) (component : sxml.State) (kind label : Text) :
    sxml.State :=
  let query := sxml.child component document
  matchServiceFrom document kind label ((sxml.siblings query document).length + 1) query
    sxml.invalidState

def named (document : sxml.Document) (node : sxml.State) (name : Text) : Bool :=
  let (result, buffer) := sxml.getAttribute node document (ascii "name") 255
  decide (result = .ok) && compare buffer name

def findComponentByName (state : BrokerState sxml size) (name : Text) : Option (Fin size) :=
  if name = [] then none
  else (List.finRange size).find? fun index =>
    valid (state.components index).fd &&
      named state.xml (state.components index).node name

/-- Where `Lookup_Request` sends a request: to a component, or to the broker itself. -/
inductive Destination (size : Nat) where
  | component (index : Fin size)
  | broker
  deriving DecidableEq, Repr

def lookupRequest (state : BrokerState sxml size) (service : sxml.State) :
    Option (Destination size) :=
  match sxml.getAttribute service state.xml (ascii "server") 255 with
  | (.ok, buffer) => (findComponentByName state buffer).map .component
  | _ => some .broker

def recorded (resource : ResourceDefinition sxml) : Bool :=
  decide (resource.node ≠ sxml.invalidState ∧ resource.node ≠ sxml.initialState)

/-- The content of `Location` and `Valid` when `Find_Resource_Location` returns. -/
def findResourceLocation (state : BrokerState sxml size) (service : sxml.State) : Text × Bool :=
  match sxml.getAttribute service state.xml (ascii "resource") 4096 with
  | (.ok, name) =>
      match (List.finRange size).find? fun index =>
          recorded (state.resources index) && named state.xml (state.resources index).node name with
      | none => (name, false)
      | some index =>
          let node := (state.resources index).node
          match sxml.getAttribute node state.xml (ascii "type") 255 with
          | (.ok, resourceType) =>
              if compare resourceType (ascii "File") then
                match sxml.getAttribute node state.xml (ascii "location") 4096 with
                | (.ok, location) => (location, true)
                | (_, location) => (location, false)
              else (name, false)
          | _ => (name, false)
  | (_, name) => (name, false)

end Gneiss
