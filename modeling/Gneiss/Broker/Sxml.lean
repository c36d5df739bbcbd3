import Gneiss.Platform.Session

/-!
The XML library SXML is a submodule that is not part of the repository, so it is a parameter.
`Sxml` holds the operations of `SXML.Query` the broker calls. The fields after `getAttribute` say
what these operations mean: `siblings` lists a node and the nodes behind it in document order,
`elementName` is defined for elements and not for content, and `attributeValue` is the complete
value of an attribute. `getAttribute` gets the size of the caller's buffer.
-/

namespace Gneiss

inductive ResultType where
  | ok
  | notFound
  | error
  deriving DecidableEq, Repr

structure Sxml where
  Document : Type
  State : Type
  stateEq : DecidableEq State
  invalidState : State
  initialState : State
  init : Document → State
  stateResult : State → ResultType
  isOpen : State → Document → Bool
  path : State → Document → Text → State
  child : State → Document → State
  sibling : State → Document → State
  findSibling : State → Document → Text → Option (Text × Text) → State
  getAttribute : State → Document → Text → Nat → ResultType × Text
  siblings : State → Document → List State
  elementName : State → Document → Option Text
  attributeValue : State → Document → Text → Option Text
  isOpen_iff : ∀ state document, stateResult state = .ok →
    (isOpen state document = true ↔ (elementName state document).isSome = true)
  siblings_end : ∀ state document, stateResult state ≠ .ok → siblings state document = []
  siblings_node : ∀ state document, stateResult state = .ok →
    siblings state document = state :: siblings (sibling state document) document
  findSibling_some : ∀ state document name filter found,
    (siblings state document).find? (fun node => elementName node document = some name ∧
      ∀ pair ∈ filter, attributeValue node document pair.1 = some pair.2) = some found →
    findSibling state document name filter = found
  findSibling_none : ∀ state document name filter,
    (siblings state document).find? (fun node => elementName node document = some name ∧
      ∀ pair ∈ filter, attributeValue node document pair.1 = some pair.2) = none →
    stateResult (findSibling state document name filter) ≠ .ok
  path_some : ∀ document name found, elementName (init document) document = some (ascii "config") →
    (siblings (child (init document) document) document).find?
      (fun node => elementName node document = some name) = some found →
    path (init document) document (ascii "/config/" ++ name) = found
  path_none : ∀ document name,
    (elementName (init document) document = some (ascii "config") →
      (siblings (child (init document) document) document).find?
        (fun node => elementName node document = some name) = none) →
    stateResult (path (init document) document (ascii "/config/" ++ name)) ≠ .ok
  getAttribute_some : ∀ state document name value size, isOpen state document = true →
    attributeValue state document name = some value → value.length ≤ size →
    getAttribute state document name size = (.ok, value)
  getAttribute_long : ∀ state document name value size, isOpen state document = true →
    attributeValue state document name = some value → size < value.length →
    (getAttribute state document name size).1 = .error
  getAttribute_none : ∀ state document name size, isOpen state document = true →
    attributeValue state document name = none →
    (getAttribute state document name size).1 = .notFound

attribute [instance] Sxml.stateEq

theorem Sxml.getAttribute_ok_iff (sxml : Sxml) (state : sxml.State) (document : sxml.Document)
    (name value : Text) (size : Nat) (opened : sxml.isOpen state document = true) :
    sxml.getAttribute state document name size = (.ok, value) ↔
      sxml.attributeValue state document name = some value ∧ value.length ≤ size := by
  cases found : sxml.attributeValue state document name with
  | none =>
      have missing := sxml.getAttribute_none state document name size opened found
      constructor
      · intro same
        rw [same] at missing
        cases missing
      · rintro ⟨impossible, _⟩
        cases impossible
  | some actual =>
      by_cases fits : actual.length ≤ size
      · rw [sxml.getAttribute_some state document name actual size opened found fits]
        constructor
        · intro same
          simp only [Prod.mk.injEq, true_and] at same
          subst same
          exact ⟨rfl, fits⟩
        · rintro ⟨same, _⟩
          simp only [Option.some.injEq] at same
          rw [same]
      · have long := sxml.getAttribute_long state document name actual size opened found (by omega)
        constructor
        · intro same
          rw [same] at long
          cases long
        · rintro ⟨same, bound⟩
          simp only [Option.some.injEq] at same
          rw [same] at fits
          exact (fits bound).elim

/-! Documents as trees, on which the queries can be run. A node is addressed by the child indices
that lead to it, the innermost first. -/

inductive Xml where
  | element (name : Text) (attributes : List (Text × Text)) (children : List Xml)
  | content (text : Text)

namespace Xml

inductive Query where
  | invalid
  | initial
  | missing
  | node (address : List Nat)
  deriving DecidableEq, Repr

def children : Xml → List Xml
  | .element _ _ children => children
  | .content _ => []

def find (document : Xml) : List Nat → Option Xml
  | [] => some document
  | index :: parent => (document.find parent).bind fun node => node.children[index]?

def childCount (document : Xml) (address : List Nat) : Nat :=
  ((document.find address).map fun node => node.children.length).getD 0

def stateResult : Query → ResultType
  | .node _ => .ok
  | .missing => .notFound
  | _ => .error

def elementName (query : Query) (document : Xml) : Option Text :=
  match query with
  | .node address =>
      match document.find address with
      | some (.element name _ _) => some name
      | _ => none
  | _ => none

def attributeValue (query : Query) (document : Xml) (name : Text) : Option Text :=
  match query with
  | .node address =>
      match document.find address with
      | some (.element _ attributes _) => attributes.lookup name
      | _ => none
  | _ => none

def nodeAt (document : Xml) (index : Nat) (parent : List Nat) : Query :=
  if index < document.childCount parent then .node (index :: parent) else .missing

def child (query : Query) (document : Xml) : Query :=
  match query with
  | .node address => document.nodeAt 0 address
  | other => other

def sibling (query : Query) (document : Xml) : Query :=
  match query with
  | .node (index :: parent) => document.nodeAt (index + 1) parent
  | _ => .missing

def siblings (query : Query) (document : Xml) : List Query :=
  match query with
  | .node (index :: parent) =>
      .node (index :: parent) ::
        (List.range' (index + 1) (document.childCount parent - (index + 1))).map
          fun next => .node (next :: parent)
  | .node [] => [.node []]
  | _ => []

def matching (document : Xml) (name : Text) (filter : Option (Text × Text)) (query : Query) :
    Bool :=
  decide (elementName query document = some name ∧
    ∀ pair ∈ filter, attributeValue query document pair.1 = some pair.2)

def findSibling (query : Query) (document : Xml) (name : Text) (filter : Option (Text × Text)) :
    Query :=
  ((siblings query document).find? (document.matching name filter)).getD .missing

def path (query : Query) (document : Xml) (address : Text) : Query :=
  if elementName query document = some (ascii "config") ∧
      address.take 8 = ascii "/config/" then
    ((siblings (child query document) document).find?
      (document.matching (address.drop 8) none)).getD .missing
  else .missing

def getAttribute (query : Query) (document : Xml) (name : Text) (size : Nat) : ResultType × Text :=
  match attributeValue query document name with
  | some value => if value.length ≤ size then (.ok, value) else (.error, [])
  | none => (.notFound, [])

theorem matching_none (document : Xml) (name : Text) :
    document.matching name none = fun query => decide (elementName query document = some name) := by
  funext query
  simp [matching]

theorem siblings_nodeAt (document : Xml) (index : Nat) (parent : List Nat) :
    siblings (document.nodeAt index parent) document =
      (List.range' index (document.childCount parent - index)).map
        fun next => .node (next :: parent) := by
  unfold nodeAt
  split
  · rename_i bound
    obtain ⟨count, same⟩ : ∃ count, document.childCount parent - index = count + 1 :=
      ⟨document.childCount parent - index - 1, by omega⟩
    have rest : document.childCount parent - (index + 1) = count := by omega
    rw [same, List.range'_succ]
    simp [siblings, rest]
  · rename_i beyond
    have nothing : document.childCount parent - index = 0 := by omega
    simp [siblings, nothing]

end Xml

def xmlTree : Sxml where
  Document := Xml
  State := Xml.Query
  stateEq := inferInstance
  invalidState := .invalid
  initialState := .initial
  init _ := .node []
  stateResult := Xml.stateResult
  isOpen query document := (Xml.elementName query document).isSome
  path := Xml.path
  child := Xml.child
  sibling := Xml.sibling
  findSibling := Xml.findSibling
  getAttribute := Xml.getAttribute
  siblings := Xml.siblings
  elementName := Xml.elementName
  attributeValue := Xml.attributeValue
  isOpen_iff _ _ _ := Iff.rfl
  siblings_end query document bad := by
    cases query with
    | node address => exact (bad rfl).elim
    | _ => rfl
  siblings_node query document good := by
    match query with
    | .node [] => rfl
    | .node (index :: parent) =>
        change _ = _ :: Xml.siblings (document.nodeAt (index + 1) parent) document
        rw [Xml.siblings_nodeAt]
        rfl
    | .invalid => cases good
    | .initial => cases good
    | .missing => cases good
  findSibling_some query document name filter found search := by
    have same : (Xml.siblings query document).find? (document.matching name filter) = some found :=
      search
    simp [Xml.findSibling, same]
  findSibling_none query document name filter search := by
    have same : (Xml.siblings query document).find? (document.matching name filter) = none := search
    simp [Xml.findSibling, same, Xml.stateResult]
  path_some document name found config search := by
    have same : (Xml.siblings (Xml.child (.node []) document) document).find?
        (document.matching name none) = some found := by
      rw [Xml.matching_none]
      exact search
    have address : (ascii "/config/" ++ name).take 8 = ascii "/config/" ∧
        (ascii "/config/" ++ name).drop 8 = name := by simp [ascii]
    rw [Xml.path, if_pos ⟨config, address.1⟩, address.2, same]
    rfl
  path_none document name search := by
    have address : (ascii "/config/" ++ name).drop 8 = name := by simp [ascii]
    unfold Xml.path
    split
    · rename_i config
      have same : (Xml.siblings (Xml.child (.node []) document) document).find?
          (document.matching name none) = none := by
        rw [Xml.matching_none]
        exact search config.1
      rw [address, same]
      simp [Xml.stateResult]
    · simp [Xml.stateResult]
  getAttribute_some query document name value size _ found fits := by
    simp [Xml.getAttribute, found, fits]
  getAttribute_long query document name value size _ found long := by
    simp [Xml.getAttribute, found, Nat.not_le.mpr long]
  getAttribute_none query document name size _ missing := by
    simp [Xml.getAttribute, missing]

end Gneiss
