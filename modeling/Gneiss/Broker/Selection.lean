import Gneiss.Broker.Identity

/-!
What `Gneiss.Broker.Lookup` selects from the configuration: `Match_Service` the entry of a component
for a service, and `Find_Resource_Location` the file behind a ROM service.
-/

namespace Gneiss

open Descriptors

variable {sxml : Sxml} {size : Nat}

/-! The loop of `Match_Service`, which is `none` while it still runs. -/

def matchServiceLoop (document : sxml.Document) (kind label : Text) :
    Nat → sxml.State → sxml.State → Option sxml.State
  | 0, _, _ => none
  | fuel + 1, query, defaultState =>
      if sxml.stateResult query = .ok then
        let query := sxml.findSibling query document (ascii "service") (some (ascii "name", kind))
        if sxml.stateResult query = .ok then
          let (result, buffer) := sxml.getAttribute query document (ascii "label") 255
          if result = .ok ∧ compare buffer label = true then some query
          else if result = .notFound then
            matchServiceLoop document kind label fuel (sxml.sibling query document) query
          else
            matchServiceLoop document kind label fuel (sxml.sibling query document) defaultState
        else some defaultState
      else some defaultState

theorem matchServiceFrom_of_loop (document : sxml.Document) (kind label : Text) (fuel : Nat)
    (query defaultState selected : sxml.State)
    (ended : matchServiceLoop document kind label fuel query defaultState = some selected) :
    matchServiceFrom document kind label fuel query defaultState = selected := by
  induction fuel generalizing query defaultState with
  | zero => cases ended
  | succ fuel ih =>
      simp only [matchServiceLoop] at ended
      simp only [matchServiceFrom]
      split at ended
      · rename_i running
        rw [if_pos running]
        split at ended
        · rename_i found
          rw [if_pos found]
          split at ended
          · rename_i exact_
            rw [if_pos exact_]
            exact Option.some.inj ended
          · rename_i inexact
            rw [if_neg inexact]
            split at ended
            · rename_i missing
              rw [if_pos missing]
              exact ih _ _ ended
            · rename_i labelled
              rw [if_neg labelled]
              exact ih _ _ ended
        · rename_i nothing
          rw [if_neg nothing]
          exact Option.some.inj ended
      · rename_i finished
        rw [if_neg finished]
        exact Option.some.inj ended

/-! What it is to select: among the children of a component the services of the kind, and of these
the first that has the label, or the last that has none. -/

def services (document : sxml.Document) (kind : Text) (nodes : List sxml.State) :
    List sxml.State :=
  nodes.filter fun node => decide (sxml.elementName node document = some (ascii "service") ∧
    sxml.attributeValue node document (ascii "name") = some kind)

def labelled (document : sxml.Document) (label : Text) (node : sxml.State) : Bool :=
  decide (label ≠ [] ∧ sxml.attributeValue node document (ascii "label") = some label)

def unlabelled (document : sxml.Document) (node : sxml.State) : Bool :=
  decide (sxml.attributeValue node document (ascii "label") = none)

def selectService (document : sxml.Document) (label : Text) (nodes : List sxml.State)
    (otherwise : sxml.State) : sxml.State :=
  match nodes.find? (labelled document label) with
  | some node => node
  | none => ((nodes.filter (unlabelled document)).getLast?).getD otherwise

/-- The nodes behind a node are those that follow it among the nodes it was found in. -/
theorem siblings_of_split (document : sxml.Document) (before after : List sxml.State)
    (start node : sxml.State) (all : sxml.siblings start document = before ++ node :: after) :
    sxml.stateResult node = .ok ∧ sxml.siblings (sxml.sibling node document) document = after := by
  have running : sxml.stateResult start = .ok := by
    by_contra finished
    rw [sxml.siblings_end start document finished] at all
    cases before <;> cases all
  rw [sxml.siblings_node start document running] at all
  induction before generalizing start with
  | nil =>
      rw [List.nil_append, List.cons.injEq] at all
      obtain ⟨rfl, rest⟩ := all
      exact ⟨running, rest⟩
  | cons first before ih =>
      rw [List.cons_append, List.cons.injEq] at all
      have rest := all.2
      have next : sxml.stateResult (sxml.sibling start document) = .ok := by
        by_contra finished
        rw [sxml.siblings_end _ document finished] at rest
        cases before <;> cases rest
      rw [sxml.siblings_node _ document next] at rest
      exact ih (sxml.sibling start document) rest next

/-- The attribute `label` of a service, as the loop sees it. -/
theorem label_cases (document : sxml.Document) (node : sxml.State) (label : Text)
    (short : label.length ≤ 255) (opened : sxml.isOpen node document = true) :
    let read := sxml.getAttribute node document (ascii "label") 255
    (read.1 = .ok ∧ compare read.2 label = true ↔ labelled document label node = true) ∧
      (read.1 = .notFound ↔ unlabelled document node = true) := by
  intro read
  simp only [labelled, unlabelled, decide_eq_true_eq, compare_iff]
  cases value : sxml.attributeValue node document (ascii "label") with
  | none =>
      have missing := sxml.getAttribute_none node document (ascii "label") 255 opened value
      have same : read.1 = .notFound := missing
      simp [same]
  | some text =>
      by_cases fits : text.length ≤ 255
      · have same : read = (.ok, text) :=
          sxml.getAttribute_some node document (ascii "label") text 255 opened value fits
        simp [same, and_comm]
      · have error := sxml.getAttribute_long node document (ascii "label") text 255 opened value
          (by omega)
        have same : read.1 = .error := error
        have different : text ≠ label := by
          rintro rfl
          exact fits short
        simp [same, different]

theorem selectService_cons (document : sxml.Document) (label : Text) (node : sxml.State)
    (rest : List sxml.State) (otherwise : sxml.State) :
    selectService document label (node :: rest) otherwise =
      if labelled document label node = true then node
      else selectService document label rest
        (if unlabelled document node = true then node else otherwise) := by
  unfold selectService
  by_cases exact_ : labelled document label node = true
  · rw [List.find?_cons_of_pos exact_, if_pos exact_]
  · rw [List.find?_cons_of_neg exact_, if_neg exact_]
    by_cases missing : unlabelled document node = true
    · rw [List.filter_cons_of_pos missing, if_pos missing, List.getLast?_cons]
      rfl
    · rw [List.filter_cons_of_neg missing, if_neg missing]

/-- With a turn for every node the loop ends, and it ends with the selected service. -/
theorem matchServiceLoop_selects (document : sxml.Document) (kind label : Text)
    (short : label.length ≤ 255) (fuel : Nat) (query defaultState : sxml.State)
    (enough : (sxml.siblings query document).length < fuel) :
    matchServiceLoop document kind label fuel query defaultState =
      some (selectService document label
        (services document kind (sxml.siblings query document)) defaultState) := by
  induction fuel generalizing query defaultState with
  | zero => omega
  | succ fuel ih =>
      simp only [matchServiceLoop]
      by_cases running : sxml.stateResult query = .ok
      · rw [if_pos running]
        cases found : (sxml.siblings query document).find? (fun node =>
            sxml.elementName node document = some (ascii "service") ∧
              ∀ pair ∈ some (ascii "name", kind),
                sxml.attributeValue node document pair.1 = some pair.2) with
        | none =>
            have finished := sxml.findSibling_none query document _ _ found
            have nothing : services document kind (sxml.siblings query document) = [] := by
              rw [services, List.filter_eq_nil_iff]
              intro node member offers
              have unsuited := List.find?_eq_none.mp found node member
              simp only [decide_eq_true_eq] at offers
              simp [offers] at unsuited
            rw [if_neg finished, nothing]
            rfl
        | some node =>
            have query_ := sxml.findSibling_some query document _ _ node found
            obtain ⟨suited, before, after, split_, unsuited⟩ :=
              List.find?_eq_some_iff_append.mp found
            obtain ⟨open_, rest⟩ := siblings_of_split document before after query node split_
            simp only [decide_eq_true_eq, Option.mem_def, Option.some.injEq,
              forall_eq'] at suited
            have opened : sxml.isOpen node document = true := by
              rw [sxml.isOpen_iff node document open_, suited.1]
              rfl
            have skipped : services document kind (sxml.siblings query document) =
                node :: services document kind after := by
              have none_ : services document kind before = [] := by
                rw [services, List.filter_eq_nil_iff]
                intro other member offers
                have different := unsuited other member
                simp only [decide_eq_true_eq] at offers
                simp [offers] at different
              have first : services document kind (node :: after) =
                  node :: services document kind after :=
                List.filter_cons_of_pos (by simp [suited])
              rw [split_, services, List.filter_append, ← services, ← services, none_, first]
              rfl
            have fewer : (sxml.siblings (sxml.sibling node document) document).length < fuel := by
              rw [rest]
              rw [split_, List.length_append, List.length_cons] at enough
              omega
            obtain ⟨exact_, missing⟩ := label_cases document node label short opened
            rw [query_, if_pos open_, skipped, selectService_cons]
            simp only [exact_, missing]
            split
            · rfl
            · split
              · rw [ih _ _ fewer, rest]
              · rw [ih _ _ fewer, rest]
      · rw [if_neg running, sxml.siblings_end query document running]
        rfl

theorem selectService_cases (document : sxml.Document) (label : Text) (nodes : List sxml.State)
    (otherwise : sxml.State) :
    selectService document label nodes otherwise = otherwise ∨
      selectService document label nodes otherwise ∈ nodes ∧
        (labelled document label (selectService document label nodes otherwise) = true ∨
          unlabelled document (selectService document label nodes otherwise) = true) := by
  unfold selectService
  cases found : nodes.find? (labelled document label) with
  | some node =>
      exact Or.inr ⟨List.mem_of_find?_eq_some found, Or.inl (List.find?_some found)⟩
  | none =>
      cases last : (nodes.filter (unlabelled document)).getLast? with
      | none => exact Or.inl rfl
      | some node =>
          have member := List.mem_filter.mp (List.mem_of_getLast? last)
          exact Or.inr ⟨member.1, Or.inr member.2⟩

/-- `Match_Service` ends after at most one turn for every child and one more, with the first service
of the kind that has the label, or else the last that has no label. -/
theorem matchService_selects (document : sxml.Document) (component : sxml.State)
    (kind label : Text) (short : label.length ≤ 255) :
    let first := sxml.child component document
    let offered := services document kind (sxml.siblings first document)
    let selected := matchService document component kind label
    (∀ fuel, (sxml.siblings first document).length < fuel →
      matchServiceLoop document kind label fuel first sxml.invalidState = some selected) ∧
    selected = selectService document label offered sxml.invalidState ∧
    ∀ node ∈ offered, ∀ value,
      sxml.attributeValue node document (ascii "label") = some value →
      (value ≠ label ∨ 255 < value.length ∨ label = []) →
      selected = node → node = sxml.invalidState := by
  intro first offered selected
  have ends := fun fuel enough => matchServiceLoop_selects document kind label short fuel first
    sxml.invalidState enough
  have same : selected = selectService document label offered sxml.invalidState :=
    matchServiceFrom_of_loop document kind label _ first sxml.invalidState _
      (ends _ (Nat.lt_succ_self _))
  refine ⟨?_, same, ?_⟩
  · intro fuel enough
    rw [ends fuel enough, same]
  · intro node _ value read unsuited chosen
    rcases selectService_cases document label offered sxml.invalidState with
      nothing | ⟨_, suited⟩
    · rw [← chosen, same, nothing]
    · rw [← same, chosen] at suited
      simp only [labelled, unlabelled, read, decide_eq_true_eq, Option.some.injEq,
        reduceCtorEq, or_false] at suited
      obtain ⟨nonempty, rfl⟩ := suited
      rcases unsuited with different | long | empty
      · exact (different rfl).elim
      · omega
      · exact (nonempty empty).elim

def labelledService (kind : KindType) (label : Option Text) : Xml :=
  .element (ascii "service")
    ((ascii "name", image kind) :: (label.map fun text => (ascii "label", text)).toList) []

/-! Text and a service of another kind, two entries without a label, and between them one with a
label. -/

def mixedDocument : Xml :=
  .element (ascii "component") [] [
    .content (ascii "text"),
    labelledService .message none,
    labelledService .log (some (ascii "x")),
    labelledService .message (some (ascii "x")),
    labelledService .message none]

def mixedSelection (kind : KindType) (label : Text) : Xml.Query :=
  @matchService xmlTree mixedDocument (.node []) (image kind) label

theorem mixed_selects :
    mixedSelection .message (ascii "x") = .node [3] ∧
      mixedSelection .message (ascii "y") = .node [4] ∧
      mixedSelection .rom (ascii "y") = .invalid := by
  have exact_ := (@matchService_selects xmlTree mixedDocument (.node []) (image .message)
    (ascii "x") (by decide)).2.1
  have default_ := (@matchService_selects xmlTree mixedDocument (.node []) (image .message)
    (ascii "y") (by decide)).2.1
  have nothing := (@matchService_selects xmlTree mixedDocument (.node []) (image .rom)
    (ascii "y") (by decide)).2.1
  exact ⟨exact_.trans rfl, default_.trans rfl, nothing.trans rfl⟩

/-! Resources. The table `Parse_Resources` fills holds elements, and only these are looked at. -/

def Parsed (document : sxml.Document) (resources : Fin size → ResourceDefinition sxml) : Prop :=
  ∀ index, recorded (resources index) = true → sxml.isOpen (resources index).node document = true

theorem findSibling_isOpen (query : sxml.State) (document : sxml.Document) (name : Text)
    (good : sxml.stateResult (sxml.findSibling query document name none) = .ok) :
    sxml.isOpen (sxml.findSibling query document name none) document = true := by
  cases found : (sxml.siblings query document).find? (fun node =>
      sxml.elementName node document = some name ∧
        ∀ pair ∈ (none : Option (Text × Text)),
          sxml.attributeValue node document pair.1 = some pair.2) with
  | none => exact (sxml.findSibling_none query document name none found good).elim
  | some node =>
      have same := sxml.findSibling_some query document name none node found
      have suited := List.find?_some found
      simp only [decide_eq_true_eq] at suited
      rw [same] at good ⊢
      rw [sxml.isOpen_iff node document good, suited.1]
      rfl

theorem parseResourcesFrom_parsed (document : sxml.Document) (fuel index : Nat)
    (query : sxml.State) (resources : Fin size → ResourceDefinition sxml)
    (parsed : Parsed document resources) :
    Parsed document (parseResourcesFrom document fuel index query resources) := by
  induction fuel generalizing index query resources with
  | zero => exact parsed
  | succ fuel ih =>
      simp only [parseResourcesFrom]
      split
      · split
        · exact parsed
        · rename_i good
          have opened := findSibling_isOpen query document (ascii "resource")
            (Decidable.not_not.mp good)
          split
          · rename_i bound
            have filled : Parsed document (Function.update resources ⟨index, bound⟩
                { resources ⟨index, bound⟩ with
                  node := sxml.findSibling query document (ascii "resource") none }) := by
              intro other there
              by_cases same : other = ⟨index, bound⟩
              · subst same
                rw [Function.update_self]
                exact opened
              · rw [Function.update_of_ne same] at there ⊢
                exact parsed other there
            split
            · exact filled
            · exact ih _ _ _ filled
          · exact parsed
      · exact parsed

theorem parseResources_parsed (document : sxml.Document) (root : sxml.State) :
    Parsed document (parseResources document root
      (fun _ => ⟨-1, sxml.invalidState⟩ : Fin size → ResourceDefinition sxml)) := by
  apply parseResourcesFrom_parsed
  intro index there
  simp [recorded] at there

/-! The file the configuration assigns to a ROM service. The name of a resource has to fit into 255
characters and its location into 4096. -/

structure ConfiguredResource (state : BrokerState sxml size) (service : sxml.State)
    (index : Fin size) (name : Text) : Prop where
  asked : sxml.attributeValue service state.xml (ascii "resource") = some name
  nonempty : name ≠ []
  short : name.length ≤ 255
  there : recorded (state.resources index) = true
  named : sxml.attributeValue (state.resources index).node state.xml (ascii "name") = some name
  first : ∀ earlier < index, recorded (state.resources earlier) = true →
    sxml.attributeValue (state.resources earlier).node state.xml (ascii "name") ≠ some name

def ConfiguredFile (state : BrokerState sxml size) (service : sxml.State) (path : Text) : Prop :=
  path.length ≤ 4096 ∧ ∃ index name, ConfiguredResource state service index name ∧
    sxml.attributeValue (state.resources index).node state.xml (ascii "type") =
      some (ascii "File") ∧
    sxml.attributeValue (state.resources index).node state.xml (ascii "location") = some path

theorem named_iff (document : sxml.Document) (node : sxml.State) (name : Text)
    (opened : sxml.isOpen node document = true) :
    named document node name = true ↔
      sxml.attributeValue node document (ascii "name") = some name ∧ name.length ≤ 255 ∧
        name ≠ [] := by
  rcases read : sxml.getAttribute node document (ascii "name") 255 with ⟨result, value⟩
  simp only [named, read, Bool.and_eq_true, decide_eq_true_eq, compare_iff]
  constructor
  · rintro ⟨rfl, rfl, nonempty⟩
    obtain ⟨same, short⟩ := (sxml.getAttribute_ok_iff _ _ _ _ _ opened).mp read
    exact ⟨same, short, nonempty⟩
  · rintro ⟨same, short, nonempty⟩
    rw [sxml.getAttribute_some node document (ascii "name") name 255 opened same short] at read
    cases read
    exact ⟨rfl, rfl, nonempty⟩

theorem findResource_iff (state : BrokerState sxml size) (service : sxml.State) (index : Fin size)
    (name : Text) (parsed : Parsed state.xml state.resources)
    (asked : sxml.attributeValue service state.xml (ascii "resource") = some name) :
    ((List.finRange size).find? fun index => recorded (state.resources index) &&
        named state.xml (state.resources index).node name) = some index ↔
      ConfiguredResource state service index name := by
  have holds : ∀ other, (recorded (state.resources other) &&
      named state.xml (state.resources other).node name) = true ↔
      recorded (state.resources other) = true ∧
        sxml.attributeValue (state.resources other).node state.xml (ascii "name") = some name ∧
        name.length ≤ 255 ∧ name ≠ [] := by
    intro other
    rw [Bool.and_eq_true]
    exact and_congr_right fun there => named_iff _ _ _ (parsed other there)
  rw [← Fin.find?_eq_find?_finRange, Fin.find?_eq_some_iff]
  constructor
  · rintro ⟨found, before⟩
    obtain ⟨there, called, short, nonempty⟩ := (holds index).mp found
    refine ⟨asked, nonempty, short, there, called, ?_⟩
    intro earlier below earlierThere earlierCalled
    have missed := before earlier below
    rw [(holds earlier).mpr ⟨earlierThere, earlierCalled, short, nonempty⟩] at missed
    cases missed
  · intro resource
    refine ⟨(holds index).mpr ⟨resource.there, resource.named, resource.short,
      resource.nonempty⟩, ?_⟩
    intro earlier below
    rw [Bool.eq_false_iff]
    intro found
    obtain ⟨earlierThere, earlierCalled, _⟩ := (holds earlier).mp found
    exact resource.first earlier below earlierThere earlierCalled

theorem ConfiguredResource.unique {state : BrokerState sxml size} {service : sxml.State}
    {first second : Fin size} {name other : Text}
    (one : ConfiguredResource state service first name)
    (two : ConfiguredResource state service second other) : first = second ∧ name = other := by
  have same : name = other := Option.some.inj (one.asked.symm.trans two.asked)
  subst same
  refine ⟨?_, rfl⟩
  rcases Nat.lt_trichotomy first.val second.val with below | same | above
  · exact (two.first first below one.there one.named).elim
  · exact Fin.ext same
  · exact (one.first second above two.there two.named).elim

theorem findResourceLocation_iff (state : BrokerState sxml size) (service : sxml.State)
    (path : Text) (parsed : Parsed state.xml state.resources)
    (opened : sxml.isOpen service state.xml = true) :
    findResourceLocation state service = (path, true) ↔ ConfiguredFile state service path := by
  rcases read : sxml.getAttribute service state.xml (ascii "resource") 4096 with ⟨result, name⟩
  by_cases good : result = .ok
  · subst good
    have asked := ((sxml.getAttribute_ok_iff _ _ _ _ _ opened).mp read).1
    cases found : (List.finRange size).find? (fun index => recorded (state.resources index) &&
        named state.xml (state.resources index).node name) with
    | none =>
        simp only [findResourceLocation, read, found, Prod.mk.injEq, Bool.false_eq_true, and_false,
          false_iff]
        rintro ⟨_, index, other, resource, _⟩
        have same : name = other := Option.some.inj (asked.symm.trans resource.asked)
        subst same
        rw [(findResource_iff state service index name parsed asked).mpr resource] at found
        cases found
    | some index =>
        have resource := (findResource_iff state service index name parsed asked).mp found
        have element := parsed index resource.there
        have only : ConfiguredFile state service path ↔
            (sxml.getAttribute (state.resources index).node state.xml (ascii "type") 255 =
              (.ok, ascii "File")) ∧
            sxml.getAttribute (state.resources index).node state.xml (ascii "location") 4096 =
              (.ok, path) := by
          rw [sxml.getAttribute_ok_iff _ _ _ _ _ element,
            sxml.getAttribute_ok_iff _ _ _ _ _ element]
          constructor
          · rintro ⟨fits, second, other, two, type, location⟩
            obtain ⟨rfl, rfl⟩ := resource.unique two
            exact ⟨⟨type, by decide⟩, location, fits⟩
          · rintro ⟨⟨type, _⟩, location, fits⟩
            exact ⟨fits, index, name, resource, type, location⟩
        rw [only]
        rcases type : sxml.getAttribute (state.resources index).node state.xml (ascii "type") 255
          with ⟨typeResult, resourceType⟩
        rcases location : sxml.getAttribute (state.resources index).node state.xml
          (ascii "location") 4096 with ⟨locationResult, value⟩
        simp only [findResourceLocation, read, found, type, location]
        have nonempty : ascii "File" ≠ [] := by decide
        cases typeResult <;> cases locationResult <;>
          by_cases file : resourceType = ascii "File" <;> simp [compare_iff, file, nonempty]
  · have missing : ∀ other, sxml.attributeValue service state.xml (ascii "resource") = some other →
        ¬other.length ≤ 4096 := by
      intro other asked fits
      rw [sxml.getAttribute_some service state.xml (ascii "resource") other 4096 opened asked fits]
        at read
      cases read
      exact good rfl
    have failed : findResourceLocation state service = (name, false) := by
      cases result <;> simp_all [findResourceLocation]
    rw [failed]
    simp only [Prod.mk.injEq, Bool.false_eq_true, and_false, false_iff]
    rintro ⟨_, index, other, resource, _⟩
    exact missing other resource.asked (by have := resource.short; omega)

/-- A ROM request opens the configured file and nothing else. That `open` fails for an empty path
is the kernel's doing. -/
theorem processRomRequest_configured (world : World sxml size) (service : sxml.State)
    (outcome : Outcome) (parsed : Parsed world.state.xml world.state.resources)
    (opened : sxml.isOpen service world.state.xml = true)
    (emptyPath : ConfiguredFile world.state service [] → outcome.file = none) :
    let result := processRomRequest world service outcome
    (∀ path, result.1.files = world.files ++ [path] ↔ ConfiguredFile world.state service path) ∧
    ((∀ path, ¬ConfiguredFile world.state service path) → result.1.files = world.files) ∧
    ((∀ path, path ≠ [] → ¬ConfiguredFile world.state service path) →
      result.1.table = world.table ∧ result.2 = ([-1, -1, -1, -1], false)) := by
  intro result
  have located := fun path =>
    findResourceLocation_iff world.state service path parsed opened
  rcases search : findResourceLocation world.state service with ⟨location, found⟩
  cases found with
  | false =>
      have nothing : ∀ path, ¬ConfiguredFile world.state service path := by
        intro path configured
        rw [(located path).mpr configured] at search
        cases search
      have same : result = (world, [-1, -1, -1, -1], false) := by
        simp only [result, processRomRequest, search, Bool.false_eq_true, if_false]
      rw [same]
      refine ⟨?_, fun _ => rfl, fun _ => ⟨rfl, rfl⟩⟩
      intro path
      simp [nothing path]
  | true =>
      have configured := (located location).mp search
      have files : result.1.files = world.files ++ [location] := by
        simp only [result, processRomRequest, search, if_true]
      refine ⟨?_, ?_, ?_⟩
      · intro path
        rw [files, ← located path, search]
        simp
      · intro nothing
        exact (nothing location configured).elim
      · intro nothing
        have empty : location = [] := by
          by_contra nonempty
          exact nothing location nonempty configured
        subst empty
        have failed := emptyPath configured
        simp only [result, processRomRequest, search, if_true, failed, Table.allocate]
        exact ⟨trivial, rfl⟩

def romDocument : Xml :=
  .element (ascii "config") [] [
    .element (ascii "resource") [(ascii "name", ascii "rom"), (ascii "type", ascii "File"),
      (ascii "location", ascii "/etc/rom")] [],
    .element (ascii "resource") [(ascii "name", ascii "rom"), (ascii "type", ascii "File"),
      (ascii "location", ascii "/etc/passwd")] [],
    .element (ascii "service") [(ascii "name", image .rom), (ascii "resource", ascii "rom")] []]

def romWorld : World xmlTree 2 :=
  { sampleWorld with state :=
    { sampleWorld.state with
      xml := romDocument
      resources := parseResources romDocument (xmlTree.init romDocument)
        fun _ => ⟨-1, xmlTree.invalidState⟩ } }

theorem rom_opens :
    (processRomRequest romWorld (.node [2]) sampleOutcome).1.files = [ascii "/etc/rom"] := by
  have parsed : Parsed romWorld.state.xml romWorld.state.resources :=
    parseResources_parsed romDocument (xmlTree.init romDocument)
  have located : findResourceLocation romWorld.state (.node [2]) = (ascii "/etc/rom", true) := by
    rfl
  have configured := (findResourceLocation_iff romWorld.state (.node [2]) (ascii "/etc/rom") parsed
    rfl).mp located
  have notEmpty : ¬ConfiguredFile romWorld.state (.node [2]) [] := by
    rw [← findResourceLocation_iff romWorld.state (.node [2]) [] parsed rfl, located]
    decide
  have opens := (processRomRequest_configured romWorld (.node [2]) sampleOutcome parsed rfl
    (fun empty => (notEmpty empty).elim)).1
  exact (opens (ascii "/etc/rom")).mpr configured

end Gneiss
