import Gneiss.Broker.Selection

/-!
The elements under `/config` and the loop of `Parse_Resources` over them. `Path` leads to the first
element of a name, and from there `Find_Sibling` and `Sibling` reach the others in document order.
-/

namespace Gneiss

open Descriptors

variable {sxml : Sxml} {size : Nat}

def hasName (document : sxml.Document) (name : Text) (node : sxml.State) : Bool :=
  decide (sxml.elementName node document = some name)

/-- The elements of the name among a node and the nodes behind it. -/
def elements (document : sxml.Document) (name : Text) (query : sxml.State) : List sxml.State :=
  (sxml.siblings query document).filter (hasName document name)

/-- The elements of the name under `/config`. -/
def configured (document : sxml.Document) (name : Text) : List sxml.State :=
  if sxml.elementName (sxml.init document) document = some (ascii "config") then
    elements document name (sxml.child (sxml.init document) document)
  else []

theorem elements_end (document : sxml.Document) (name : Text) (query : sxml.State)
    (finished : sxml.stateResult query ≠ .ok) : elements document name query = [] := by
  rw [elements, sxml.siblings_end query document finished]
  rfl

theorem isOpen_of_hasName (document : sxml.Document) (name : Text) (node : sxml.State)
    (good : sxml.stateResult node = .ok) (named : hasName document name node = true) :
    sxml.isOpen node document = true := by
  rw [sxml.isOpen_iff node document good, decide_eq_true_eq.mp named]
  rfl

theorem elements_split (document : sxml.Document) (name : Text) (query node : sxml.State)
    (found : (sxml.siblings query document).find? (hasName document name) = some node) :
    sxml.stateResult node = .ok ∧ hasName document name node = true ∧
      elements document name query =
        node :: elements document name (sxml.sibling node document) ∧
      (sxml.siblings (sxml.sibling node document) document).length <
        (sxml.siblings query document).length := by
  obtain ⟨suited, before, after, split_, unsuited⟩ := List.find?_eq_some_iff_append.mp found
  obtain ⟨good, rest⟩ := siblings_of_split document before after query node split_
  have nothing : before.filter (hasName document name) = [] := by
    rw [List.filter_eq_nil_iff]
    intro other member suited
    have different := unsuited other member
    rw [suited] at different
    cases different
  refine ⟨good, suited, ?_, ?_⟩
  · rw [elements, elements, split_, rest, List.filter_append, nothing,
      List.filter_cons_of_pos suited]
    rfl
  · rw [rest, split_, List.length_append, List.length_cons]
    omega

theorem elements_none (document : sxml.Document) (name : Text) (query : sxml.State)
    (nothing : (sxml.siblings query document).find? (hasName document name) = none) :
    elements document name query = [] := by
  rw [elements, List.filter_eq_nil_iff]
  exact List.find?_eq_none.mp nothing

/-- `Find_Sibling` finds the first element of the name, from the given node on. -/
theorem findSibling_cases (document : sxml.Document) (name : Text) (query : sxml.State) :
    let found := sxml.findSibling query document name none
    sxml.stateResult found ≠ .ok ∧ elements document name query = [] ∨
      sxml.stateResult found = .ok ∧ sxml.isOpen found document = true ∧
        elements document name query =
          found :: elements document name (sxml.sibling found document) ∧
        (sxml.siblings (sxml.sibling found document) document).length <
          (sxml.siblings query document).length := by
  intro found
  have unfiltered : (fun node => decide (sxml.elementName node document = some name ∧
      ∀ pair ∈ (none : Option (Text × Text)),
        sxml.attributeValue node document pair.1 = some pair.2)) = hasName document name := by
    funext node
    simp [hasName]
  cases search : (sxml.siblings query document).find? (hasName document name) with
  | none =>
      left
      refine ⟨?_, elements_none document name query search⟩
      apply sxml.findSibling_none
      rw [unfiltered]
      exact search
  | some node =>
      right
      have same : found = node := by
        apply sxml.findSibling_some
        rw [unfiltered]
        exact search
      obtain ⟨good, named, split_, fewer⟩ := elements_split document name query node search
      rw [same]
      exact ⟨good, isOpen_of_hasName document name node good named, split_, fewer⟩

theorem elements_path (document : sxml.Document) (name : Text) :
    let first := sxml.path (sxml.init document) document (ascii "/config/" ++ name)
    elements document name first = configured document name ∧
      (sxml.stateResult first = .ok → sxml.isOpen first document = true) := by
  intro first
  unfold configured
  split
  · rename_i config
    cases search : (sxml.siblings (sxml.child (sxml.init document) document) document).find?
        (hasName document name) with
    | none =>
        have finished := sxml.path_none document name (fun _ => search)
        rw [elements_none document name _ search, elements_end document name first finished]
        exact ⟨rfl, fun good => (finished good).elim⟩
    | some node =>
        have same : first = node := sxml.path_some document name node config search
        obtain ⟨good, named, split_, _⟩ := elements_split document name _ node search
        rw [same]
        constructor
        · rw [split_, elements, sxml.siblings_node node document good,
            List.filter_cons_of_pos named]
          rfl
        · exact fun _ => isOpen_of_hasName document name node good named
  · rename_i other
    have finished := sxml.path_none document name (fun config => (other config).elim)
    exact ⟨elements_end document name first finished, fun good => (finished good).elim⟩

theorem mem_configured (document : sxml.Document) (name : Text) (node : sxml.State)
    (member : node ∈ configured document name) :
    sxml.stateResult node = .ok ∧ hasName document name node = true := by
  unfold configured at member
  split at member
  · obtain ⟨sibling, named⟩ := List.mem_filter.mp member
    obtain ⟨before, after, split_⟩ := List.append_of_mem sibling
    exact ⟨(siblings_of_split document before after _ node split_).1, named⟩
  · cases member

/-! The loop of `Parse_Resources`, which is `none` while it still runs. -/

def parseResourcesLoop (document : sxml.Document) :
    Nat → Nat → sxml.State → (Fin size → ResourceDefinition sxml) →
      Option (Fin size → ResourceDefinition sxml)
  | 0, _, _, _ => none
  | fuel + 1, index, query, resources =>
      if sxml.stateResult query = .ok ∧ sxml.isOpen query document = true then
        let query := sxml.findSibling query document (ascii "resource") none
        if sxml.stateResult query ≠ .ok then some resources
        else if bound : index < size then
          let slot : Fin size := ⟨index, bound⟩
          let resources := Function.update resources slot { resources slot with node := query }
          if index + 1 = size then some resources
          else parseResourcesLoop document fuel (index + 1) (sxml.sibling query document) resources
        else some resources
      else some resources

theorem parseResourcesFrom_of_loop (document : sxml.Document) (fuel index : Nat)
    (query : sxml.State) (resources parsed : Fin size → ResourceDefinition sxml)
    (ended : parseResourcesLoop document fuel index query resources = some parsed) :
    parseResourcesFrom document fuel index query resources = parsed := by
  induction fuel generalizing index query resources with
  | zero => cases ended
  | succ fuel ih =>
      simp only [parseResourcesLoop] at ended
      simp only [parseResourcesFrom]
      split at ended
      · rename_i running
        rw [if_pos running]
        split at ended
        · rename_i nothing
          rw [if_pos nothing]
          exact Option.some.inj ended
        · rename_i found
          rw [if_neg found]
          split at ended
          · rename_i bound
            rw [dif_pos bound]
            split at ended
            · rename_i last
              rw [if_pos last]
              exact Option.some.inj ended
            · rename_i more
              rw [if_neg more]
              exact ih _ _ _ ended
          · rename_i full
            rw [dif_neg full]
            exact Option.some.inj ended
      · rename_i finished
        rw [if_neg finished]
        exact Option.some.inj ended

/-- A table whose first slots got these nodes. -/
def filled (resources : Fin size → ResourceDefinition sxml) (nodes : List sxml.State) :
    Fin size → ResourceDefinition sxml :=
  fun slot => match nodes[slot.val]? with
    | some node => { resources slot with node := node }
    | none => resources slot

/-- The resources the loop gets to: it goes on behind a resource only where an element follows. -/
def consecutive (document : sxml.Document) : List sxml.State → List sxml.State
  | [] => []
  | node :: rest =>
      node :: if sxml.isOpen (sxml.sibling node document) document = true then
        consecutive document rest
      else []

theorem filled_next (resources : Fin size → ResourceDefinition sxml) (nodes : List sxml.State)
    (node : sxml.State) (slot : Fin size) (next : nodes.length = slot.val) :
    Function.update (filled resources nodes) slot
      { filled resources nodes slot with node := node } = filled resources (nodes ++ [node]) := by
  funext other
  have free : nodes[slot.val]? = none := List.getElem?_eq_none (by omega)
  by_cases same : other = slot
  · subst same
    have here : (nodes ++ [node])[other.val]? = some node := by
      rw [← next]
      exact List.getElem?_concat_length
    simp only [Function.update_self, filled, free, here]
  · have elsewhere : (nodes ++ [node])[other.val]? = nodes[other.val]? := by
      have different : other.val ≠ slot.val := fun equal => same (Fin.ext equal)
      by_cases earlier : other.val < nodes.length
      · exact List.getElem?_append_left earlier
      · rw [List.getElem?_eq_none (by simp; omega), List.getElem?_eq_none (by omega)]
    simp only [Function.update_of_ne same, filled, elsewhere]

theorem filled_full (resources : Fin size → ResourceDefinition sxml)
    (nodes more : List sxml.State) (full : size ≤ nodes.length) :
    filled resources (nodes ++ more) = filled resources nodes := by
  funext slot
  have bound : slot.val < nodes.length := by omega
  simp only [filled, List.getElem?_append_left bound]

/-- With a turn for every node the loop ends, with the resources it gets to. -/
theorem parseResourcesLoop_fills (document : sxml.Document)
    (resources : Fin size → ResourceDefinition sxml) (fuel : Nat) (query : sxml.State)
    (nodes : List sxml.State) (enough : (sxml.siblings query document).length < fuel) :
    parseResourcesLoop document fuel nodes.length query (filled resources nodes) =
      some (filled resources (nodes ++
        if sxml.isOpen query document = true then
          consecutive document (elements document (ascii "resource") query)
        else [])) := by
  induction fuel generalizing query nodes with
  | zero => omega
  | succ fuel ih =>
      simp only [parseResourcesLoop]
      by_cases running : sxml.stateResult query = .ok
      · by_cases opened : sxml.isOpen query document = true
        · rw [if_pos ⟨running, opened⟩, if_pos opened]
          rcases findSibling_cases document (ascii "resource") query with
            ⟨finished, nothing⟩ | ⟨found, _, split_, fewer⟩
          · rw [if_pos finished, nothing]
            simp [consecutive]
          · generalize sxml.findSibling query document (ascii "resource") none = node at *
            rw [if_neg (not_not_intro found), split_, consecutive]
            have longer : (nodes ++ [node]).length = nodes.length + 1 := by simp
            have cons : ∀ rest, nodes ++ node :: rest = (nodes ++ [node]) ++ rest := by simp
            rw [cons]
            split
            · rename_i bound
              rw [filled_next resources nodes node ⟨nodes.length, bound⟩ rfl]
              split
              · rename_i last
                rw [filled_full resources (nodes ++ [node]) _ (by omega)]
              · rw [← longer]
                exact ih (sxml.sibling node document) (nodes ++ [node]) (by omega)
            · rename_i full
              rw [List.append_assoc, filled_full resources nodes _ (by omega)]
        · rw [if_neg (fun both => opened both.2), if_neg opened, List.append_nil]
      · rw [if_neg (fun both => running both.1), elements_end document _ query running]
        simp [consecutive]

theorem parseResources_fills (document : sxml.Document)
    (resources : Fin size → ResourceDefinition sxml) :
    let first := sxml.path (sxml.init document) document (ascii "/config/resource")
    let parsed := filled resources
      (consecutive document (configured document (ascii "resource")))
    (∀ fuel, (sxml.siblings first document).length < fuel →
      parseResourcesLoop document fuel 0 first resources = some parsed) ∧
    parseResources document (sxml.init document) resources = parsed := by
  intro first parsed
  have all : elements document (ascii "resource") first =
      configured document (ascii "resource") := (elements_path document (ascii "resource")).1
  have opened : sxml.stateResult first = .ok → sxml.isOpen first document = true :=
    (elements_path document (ascii "resource")).2
  have ends : ∀ fuel, (sxml.siblings first document).length < fuel →
      parseResourcesLoop document fuel 0 first resources = some parsed := by
    intro fuel enough
    have same := parseResourcesLoop_fills document resources fuel first [] enough
    have unchanged : filled resources [] = resources := rfl
    rw [unchanged, List.nil_append, List.length_nil, all] at same
    rw [same]
    by_cases good : sxml.stateResult first = .ok
    · rw [if_pos (opened good)]
    · have nothing : configured document (ascii "resource") = [] :=
        all.symm.trans (elements_end document _ first good)
      simp only [parsed, nothing, consecutive, ite_self]
  refine ⟨ends, ?_⟩
  exact parseResourcesFrom_of_loop document _ 0 first resources parsed (ends _ (Nat.lt_succ_self _))

/-- Some node is not in the document: the one behind the last sibling. -/
theorem exists_finished (document : sxml.Document) (query : sxml.State) :
    ∃ node, sxml.stateResult node ≠ .ok := by
  by_contra everywhere
  have good : ∀ node, sxml.stateResult node = .ok := by
    intro node
    by_contra finished
    exact everywhere ⟨node, finished⟩
  generalize count : (sxml.siblings query document).length = length
  induction length generalizing query with
  | zero =>
      rw [sxml.siblings_node query document (good query)] at count
      cases count
  | succ length ih =>
      rw [sxml.siblings_node query document (good query), List.length_cons] at count
      exact ih (sxml.sibling query document) (by omega)

theorem consecutive_take_iff (document : sxml.Document) (nodes : List sxml.State) (count : Nat) :
    (consecutive document nodes).take count = nodes.take count ↔
      ∀ slot node, slot + 1 < count → slot + 1 < nodes.length → nodes[slot]? = some node →
        sxml.isOpen (sxml.sibling node document) document = true := by
  induction nodes generalizing count with
  | nil => simp [consecutive]
  | cons first rest ih =>
      cases count with
      | zero => simp
      | succ count =>
          rw [consecutive, List.take_succ_cons, List.take_succ_cons, List.cons.injEq,
            eq_self_iff_true, true_and]
          split
          · rename_i opened
            rw [ih]
            constructor
            · intro behind slot node bound more here
              cases slot with
              | zero =>
                  rw [List.getElem?_cons_zero, Option.some.injEq] at here
                  rw [← here]
                  exact opened
              | succ slot =>
                  rw [List.length_cons] at more
                  exact behind slot node (by omega) (by omega) here
            · intro behind slot node bound more here
              exact behind (slot + 1) node (by omega) (by rw [List.length_cons]; omega) here
          · rename_i closed
            rw [List.take_nil, eq_comm, List.take_eq_nil_iff]
            constructor
            · intro short slot node bound more _
              rw [List.length_cons] at more
              rcases short with none_ | empty
              · omega
              · rw [empty, List.length_nil] at more
                omega
            · intro behind
              by_contra long
              obtain ⟨some_, nonempty⟩ := not_or.mp long
              have positive := List.length_pos_iff.mpr nonempty
              exact closed (behind 0 first (by omega) (by rw [List.length_cons]; omega) rfl)

/-- What is recorded tells the nodes apart, up to the length of the table. -/
theorem filled_inj (node : sxml.State) (first second : List sxml.State)
    (firstOther : node ∉ first) (secondOther : node ∉ second)
    (same : filled (fun _ : Fin size => ⟨-1, node⟩) first =
      filled (fun _ : Fin size => ⟨-1, node⟩) second) :
    first.take size = second.take size := by
  apply List.ext_getElem?
  intro index
  by_cases bound : index < size
  · rw [List.getElem?_take_of_lt bound, List.getElem?_take_of_lt bound]
    have here := congrArg ResourceDefinition.node (congrFun same ⟨index, bound⟩)
    cases left : first[index]? with
    | none =>
        cases right : second[index]? with
        | none => rfl
        | some other =>
            simp only [filled, left, right] at here
            exact (secondOther (here ▸ List.mem_of_getElem? right)).elim
    | some one =>
        cases right : second[index]? with
        | none =>
            simp only [filled, left, right] at here
            exact (firstOther (here ▸ List.mem_of_getElem? left)).elim
        | some other =>
            simp only [filled, left, right] at here
            rw [here]
  · rw [List.getElem?_take_eq_none (by omega), List.getElem?_take_eq_none (by omega)]

theorem filled_of_take (resources : Fin size → ResourceDefinition sxml)
    (first second : List sxml.State) (same : first.take size = second.take size) :
    filled resources first = filled resources second := by
  funext slot
  have here := congrArg (fun nodes => nodes[slot.val]?) same
  simp only [List.getElem?_take_of_lt slot.isLt] at here
  simp only [filled, here]

theorem consecutive_subset (document : sxml.Document) (nodes : List sxml.State) :
    consecutive document nodes ⊆ nodes := by
  induction nodes with
  | nil => exact List.Subset.refl _
  | cons first rest ih =>
      rw [consecutive]
      apply List.cons_subset_cons
      split
      · exact ih
      · exact List.nil_subset rest

/-- `Parse_Resources` always ends, and it records every resource that has a slot if and only if no
text stands between one of them and the next node. -/
theorem parseResources_complete_iff (document : sxml.Document) :
    (∀ resources : Fin size → ResourceDefinition sxml,
      let first := sxml.path (sxml.init document) document (ascii "/config/resource")
      let parsed := parseResources document (sxml.init document) resources
      (∀ fuel, (sxml.siblings first document).length < fuel →
        parseResourcesLoop document fuel 0 first resources = some parsed) ∧
      parsed = filled resources (configured document (ascii "resource"))) ↔
    ∀ slot node, slot + 1 < size → slot + 1 < (configured document (ascii "resource")).length →
      (configured document (ascii "resource"))[slot]? = some node →
      sxml.isOpen (sxml.sibling node document) document = true := by
  rw [← consecutive_take_iff]
  constructor
  · intro complete
    obtain ⟨node, finished⟩ := exists_finished document (sxml.init document)
    have other : node ∉ configured document (ascii "resource") :=
      fun member => finished (mem_configured document _ node member).1
    have recorded := (complete fun _ => ⟨-1, node⟩).2
    rw [(parseResources_fills document _).2] at recorded
    exact filled_inj node _ _ (fun member => other (consecutive_subset document _ member)) other
      recorded
  · intro same resources
    obtain ⟨ends, fills⟩ := parseResources_fills document resources
    refine ⟨?_, ?_⟩
    · rw [fills]
      exact ends
    · rw [fills]
      exact filled_of_take resources _ _ same

/-! Text between two resources. -/

def resourceElement (name : Text) : Xml :=
  .element (ascii "resource") [(ascii "name", name)] []

def interruptedDocument : Xml :=
  .element (ascii "config") []
    [resourceElement (ascii "a"), .content (ascii "text"), resourceElement (ascii "b")]

theorem interrupted_incomplete :
    @configured xmlTree interruptedDocument (ascii "resource") =
      [.node [0], .node [2]] ∧
    ¬∀ resources : Fin 2 → ResourceDefinition xmlTree,
      let first := xmlTree.path (xmlTree.init interruptedDocument) interruptedDocument
        (ascii "/config/resource")
      let parsed := parseResources interruptedDocument (xmlTree.init interruptedDocument) resources
      (∀ fuel, (xmlTree.siblings first interruptedDocument).length < fuel →
        parseResourcesLoop interruptedDocument fuel 0 first resources = some parsed) ∧
      parsed = filled resources (configured interruptedDocument (ascii "resource")) := by
  refine ⟨rfl, ?_⟩
  intro complete
  have recorded := (complete fun _ => ⟨-1, .invalid⟩).2
  have second := congrArg ResourceDefinition.node (congrFun recorded ⟨1, Nat.one_lt_two⟩)
  revert second
  decide +kernel

end Gneiss
