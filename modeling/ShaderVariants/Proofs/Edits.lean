import ShaderVariants.Proofs.Actions
import ShaderVariants.Proofs.Padding
import ShaderVariants.Proofs.Refusals

/-!
Interfaces that are edited in place. What an edit has written stays when a later step of it is
refused, so a refusal changes nothing only because all checks come before the first write. The
dependencies are then the structures that the accepted edits use, each where it is used first.
-/

namespace ShaderVariants

/-! ## Order of first use -/

theorem Layout.structuresAmong_ascending (types : TypeScope) (names : List String) :
    (structuresAmong types names).Pairwise fun a b => names.idxOf a < names.idxOf b := by
  induction names using List.reverseRecOn with
  | nil => exact List.Pairwise.nil
  | append_singleton names last ih =>
    have earlier {name : String} (member : name ∈ structuresAmong types names) : name ∈ names :=
      ((mem_structuresAmong types names name).mp member).1
    have before : (structuresAmong types names).Pairwise fun a b =>
        (names ++ [last]).idxOf a < (names ++ [last]).idxOf b := by
      refine List.Pairwise.imp_of_mem (fun {a b} there here order => ?_) ih
      rwa [List.idxOf_append_of_mem (earlier there), List.idxOf_append_of_mem (earlier here)]
    rw [structuresAmong_concat]
    split
    case isFalse => exact before
    case isTrue taken =>
      rw [Bool.and_eq_true, Bool.not_eq_true', List.contains_eq_mem, decide_eq_false_iff_not,
        mem_structuresAmong] at taken
      have new : last ∉ names := fun member => taken.2 ⟨member, taken.1⟩
      rw [List.pairwise_append]
      refine ⟨before, List.pairwise_singleton _ _, fun a there b here => ?_⟩
      rw [List.mem_singleton.mp here, List.idxOf_append_of_mem (earlier there),
        List.idxOf_append_of_notMem new]
      have bound := List.idxOf_lt_length_of_mem (earlier there)
      omega

/-! ## Type tables -/

namespace TypeScope

/-- The scope after some registrations, of which those that are refused leave it as it was. -/
def ofRegistrations (entries : List (String × Nat)) : TypeScope :=
  entries.foldl
    (fun types e =>
      match types.register e.1 e.2 with
      | .ok later => later
      | .error _ => types)
    empty

theorem ofRegistrations_proper (entries : List (String × Nat)) :
    (ofRegistrations entries).Proper := by
  refine List.foldlRecOn entries _ empty_proper fun types proper e _ => ?_
  split
  case h_1 success => exact register_proper success proper
  case h_2 => exact proper

theorem lookup_eq_error {types : TypeScope} {name : String} {fault : Fault} :
    types.lookup name = .error fault ↔ types.find? name = none ∧ fault = .unknownType name := by
  unfold lookup
  split
  case h_1 found => simp [found]
  case h_2 unknown => simp [unknown, eq_comm]

end TypeScope

theorem ResourceType.named_of_mem : ∀ k ∈ all, named k.name = .ok k := by decide

theorem ResourceType.named_eq_ok {type : String} {k : ResourceType} :
    named type = .ok k ↔ k ∈ all ∧ k.name = type := by
  constructor
  · intro success
    unfold named at success
    split at success
    case h_1 found =>
      cases success
      exact ⟨List.mem_of_find?_eq_some found, by simpa using List.find?_some found⟩
    case h_2 => cases success
  · rintro ⟨member, rfl⟩
    exact named_of_mem k member

theorem ResourceType.named_eq_error {type : String} {fault : Fault} :
    named type = .error fault ↔
      (∀ k ∈ all, k.name ≠ type) ∧ fault = .unknownResourceType type := by
  unfold named
  split
  case h_1 found =>
    constructor
    · nofun
    · rintro ⟨unknown, _⟩
      exact absurd (by simpa using List.find?_some found)
        (unknown _ (List.mem_of_find?_eq_some found))
  case h_2 unknown =>
    rw [List.find?_eq_none] at unknown
    constructor
    · intro refused
      cases refused
      exact ⟨fun k member => by simpa using unknown k member, rfl⟩
    · rintro ⟨_, rfl⟩
      rfl

namespace Interface

/-! ## Edits in place -/

/-- Changes of an interface in place. What is written before a refusal stays written. -/
abbrev Edit := EStateM Fault Interface

namespace Edit

def pushField (f : LayoutField) : Edit Unit :=
  modify fun i => { i with layout := { i.layout with fields := i.layout.fields ++ [f] } }

def addField (types : TypeScope) (type name : String) : Edit Unit := do
  let found ← MonadExcept.ofExcept (types.lookup type)
  pushField ⟨found, name, false⟩
  modify (·.depend types type)

def addResource (types : TypeScope) (type : String) (elementType : Option String)
    (register : Nat) (name : String) : Edit Unit := do
  let binding ← MonadExcept.ofExcept (Binding.make type elementType register name)
  if let some element := elementType then
    let _ ← MonadExcept.ofExcept (types.lookup element)
    modify (·.depend types element)
  modify fun i => { i with bindings := i.bindings ++ [binding] }

def addConstant (types : TypeScope) (type name value : String) : Edit Unit := do
  let found ← MonadExcept.ofExcept (types.lookup type)
  modify fun i => { i with constants := i.constants ++ [⟨found, name, value⟩] }

/-- Nobody sees an interface at which the program itself stops, so it does not matter how many of
the fields are there when their sum leaves the machine words. -/
def finish : Edit Unit := do
  let i ← get
  MonadExcept.ofExcept i.layout.checkWord
  if i.layout.byteSize % Layout.paddingType.size = 0 then
    if i.layout.filledSize < Layout.wordLimit then i.layout.paddingFields.forM pushField
    else throw .overflow
  else throw (.unalignedSize i.layout.name i.layout.byteSize)

end Edit

def edit (types : TypeScope) : Action → Edit Unit
  | .field type name => Edit.addField types type name
  | .resource type elementType register name =>
      Edit.addResource types type elementType register name
  | .constant type name value => Edit.addConstant types type name value
  | .finish => Edit.finish

/-- Makes an edit. After a refusal the next edit goes on with what is left. -/
def tryEdit (types : TypeScope) (p : Interface × List Action) (a : Action) :
    Interface × List Action :=
  match edit types a p.1 with
  | .ok _ later => (later, p.2 ++ [a])
  | .error _ left => (left, p.2)

def edited (types : TypeScope) (i : Interface) (actions : List Action) :
    Interface × List Action :=
  actions.foldl (tryEdit types) (i, [])

section
variable {types : TypeScope}

theorem Edit.forM_pushField (fields : List LayoutField) (i : Interface) :
    fields.forM pushField i =
      .ok () { i with layout := { i.layout with fields := i.layout.fields ++ fields } } := by
  induction fields generalizing i with
  | nil =>
    rw [List.append_nil]
    rfl
  | cons f fields ih =>
    rw [List.append_cons]
    exact ih _

/-- An edit in place comes to the same as the action, and a refusal takes nothing back. -/
theorem edit_eq_act (types : TypeScope) (i : Interface) (a : Action) :
    edit types a i = match i.act types a with
      | .ok later => .ok () later
      | .error fault => .error fault i := by
  cases a with
  | field type name =>
    rw [act, addField, Layout.add, edit, Edit.addField]
    cases types.lookup type <;> rfl
  | resource type elementType register name =>
    rw [act, addResource, edit, Edit.addResource]
    cases Binding.make type elementType register name with
    | error => rfl
    | ok binding =>
      cases elementType with
      | none => rfl
      | some element =>
        cases looked : types.lookup element with
        | error =>
          dsimp only [bind, Except.bind]
          rw [looked]
          rfl
        | ok =>
          -- The binding is written after the dependency, and neither reads the other.
          have apart : ({ i with bindings := i.bindings ++ [binding] } : Interface).depend
              types element = { i.depend types element with
                bindings := (i.depend types element).bindings ++ [binding] } := by
            unfold depend
            split <;> rfl
          dsimp only [bind, Except.bind]
          rw [looked]
          exact congrArg (EStateM.Result.ok ()) apart.symm
  | constant type name value =>
    rw [act, addConstant, edit, Edit.addConstant]
    cases types.lookup type <;> rfl
  | finish =>
    rw [act, finish, Layout.padChecked_eq]
    show (do
      MonadExcept.ofExcept i.layout.checkWord
      if i.layout.byteSize % Layout.paddingType.size = 0 then
        if i.layout.filledSize < Layout.wordLimit then i.layout.paddingFields.forM Edit.pushField
        else throw .overflow
      else throw (.unalignedSize i.layout.name i.layout.byteSize) : Edit Unit) i = _
    rw [Layout.checkWord_eq]
    by_cases start : i.layout.byteSize < Layout.wordLimit
    · rw [if_pos start, if_pos start]
      by_cases even : i.layout.byteSize % Layout.paddingType.size = 0
      · rw [if_pos even, if_pos even]
        by_cases fits : i.layout.filledSize < Layout.wordLimit
        · rw [if_pos fits, if_pos fits]
          exact Edit.forM_pushField _ i
        · rw [if_neg fits, if_neg fits]
          rfl
      · rw [if_neg even, if_neg even]
        rfl
    · rw [if_neg start, if_neg start]
      rfl

/-! ## What is refused -/

/-- Which check of an action fails first, and for what the action is then refused. -/
inductive Refusal (types : TypeScope) (i : Interface) : Action → Fault → Prop
  | field {type name : String} (unknown : types.find? type = none) :
      Refusal types i (.field type name) (.unknownType type)
  | resourceType {type name : String} {elementType : Option String} {register : Nat}
      (unknown : ∀ k ∈ ResourceType.all, k.name ≠ type) :
      Refusal types i (.resource type elementType register name) (.unknownResourceType type)
  | missingElement {k : ResourceType} {name : String} {register : Nat}
      (known : k ∈ ResourceType.all) (structured : k.structured = true) :
      Refusal types i (.resource k.name none register name) (.missingElementType name)
  | element {k : ResourceType} {element name : String} {register : Nat}
      (known : k ∈ ResourceType.all) (unknown : types.find? element = none) :
      Refusal types i (.resource k.name (some element) register name) (.unknownType element)
  | constant {type name value : String} (unknown : types.find? type = none) :
      Refusal types i (.constant type name value) (.unknownType type)
  | overflow (large : Layout.wordLimit ≤ i.layout.byteSize) : Refusal types i .finish .overflow
  | finish (fits : i.layout.byteSize < Layout.wordLimit)
      (uneven : i.layout.byteSize % Layout.paddingType.size ≠ 0) :
      Refusal types i .finish (.unalignedSize i.layout.name i.layout.byteSize)
  | paddingOverflow (even : i.layout.byteSize % Layout.paddingType.size = 0)
      (large : Layout.wordLimit ≤ i.layout.filledSize) : Refusal types i .finish .overflow

theorem addResource_eq_error {i : Interface} {type name : String} {elementType : Option String}
    {register : Nat} {fault : Fault} :
    i.addResource types type elementType register name = .error fault ↔
      Refusal types i (.resource type elementType register name) fault := by
  rw [addResource, bind_eq_error, Binding.make, bind_eq_error, ResourceType.named_eq_error]
  constructor
  · rintro ((⟨unknown, rfl⟩ | ⟨k, named, bare⟩) | ⟨binding, made, rest⟩)
    · exact .resourceType unknown
    · obtain ⟨known, rfl⟩ := ResourceType.named_eq_ok.mp named
      split at bare
      case isTrue structured =>
        rw [Bool.and_eq_true, Option.isNone_iff_eq_none] at structured
        obtain ⟨structured, rfl⟩ := structured
        cases bare
        exact .missingElement known structured
      case isFalse => cases bare
    · obtain ⟨k, known, rfl, rfl⟩ := Binding.make_eq_ok made
      cases elementType with
      | none => cases rest
      | some element =>
        dsimp only at rest
        rw [bind_eq_error, TypeScope.lookup_eq_error] at rest
        obtain ⟨unknown, rfl⟩ | ⟨_, _, ended⟩ := rest
        · exact .element known unknown
        · cases ended
  · intro refusal
    cases refusal with
    | resourceType unknown => exact Or.inl (Or.inl ⟨unknown, rfl⟩)
    | missingElement known structured =>
      refine Or.inl (Or.inr ⟨_, ResourceType.named_of_mem _ known, ?_⟩)
      rw [structured]
      rfl
    | @element k element _ _ known unknown =>
      refine Or.inr ⟨⟨k, some element, register, name⟩, ?_, ?_⟩
      · rw [ResourceType.named_of_mem k known]
        show (if (k.structured && false) = true then _ else _) = _
        rw [Bool.and_false]
        rfl
      · dsimp only
        rw [TypeScope.lookup_eq_error.mpr ⟨unknown, rfl⟩]
        rfl

theorem act_eq_error {i : Interface} {a : Action} {fault : Fault} :
    i.act types a = .error fault ↔ Refusal types i a fault := by
  cases a with
  | field type name =>
    rw [act, addField, bind_eq_error, Layout.add, bind_eq_error, TypeScope.lookup_eq_error]
    constructor
    · rintro ((⟨unknown, rfl⟩ | ⟨_, _, ended⟩) | ⟨_, _, ended⟩)
      · exact .field unknown
      · cases ended
      · cases ended
    · intro refusal
      cases refusal with
      | field unknown => exact Or.inl (Or.inl ⟨unknown, rfl⟩)
  | resource type elementType register name => exact addResource_eq_error
  | constant type name value =>
    rw [act, addConstant, bind_eq_error, TypeScope.lookup_eq_error]
    constructor
    · rintro (⟨unknown, rfl⟩ | ⟨_, _, ended⟩)
      · exact .constant unknown
      · cases ended
    · intro refusal
      cases refusal with
      | constant unknown => exact Or.inl ⟨unknown, rfl⟩
  | finish =>
    rw [act, finish, bind_eq_error, Layout.padChecked_eq]
    constructor
    · rintro (refused | ⟨_, _, ended⟩)
      · split at refused
        case isFalse large =>
          cases refused
          exact .overflow (Nat.not_lt.mp large)
        case isTrue start =>
          split at refused
          case isFalse uneven =>
            cases refused
            exact .finish start uneven
          case isTrue even =>
            split at refused
            case isTrue => cases refused
            case isFalse large =>
              cases refused
              exact .paddingOverflow even (Nat.not_lt.mp large)
      · cases ended
    · intro refusal
      left
      cases refusal with
      | overflow large => rw [if_neg (Nat.not_lt.mpr large)]
      | finish fits uneven => rw [if_pos fits, if_neg uneven]
      | paddingOverflow even large =>
        rw [if_pos even, if_neg (Nat.not_lt.mpr large), ite_self]

theorem edit_eq_error {i left : Interface} {a : Action} {fault : Fault} :
    edit types a i = .error fault left ↔ Refusal types i a fault ∧ left = i := by
  rw [edit_eq_act, ← act_eq_error]
  split
  case h_1 success => simp [success]
  case h_2 refused => simp [refused, eq_comm]

theorem edit_eq_ok {i later : Interface} {a : Action} :
    edit types a i = .ok () later ↔ i.act types a = .ok later := by
  rw [edit_eq_act]
  split
  case h_1 success => simp [success]
  case h_2 refused => simp [refused]

/-! ## What runs of edits come to -/

theorem edited_eq_perform (i : Interface) (actions : List Action) :
    i.edited types actions = i.perform types actions := by
  have same : tryEdit types = attempt types := by
    funext p a
    rw [tryEdit, attempt, edit_eq_act]
    cases p.1.act types a <;> rfl
  rw [edited, perform, same]

def Action.uses : Action → List String
  | .field type _ => [type]
  | .resource _ elementType _ _ => elementType.toList
  | .constant _ _ _ => []
  | .finish => []

theorem dependencies_act {i later : Interface} {a : Action} {names : List String}
    (before : i.dependencies = Layout.structuresAmong types names)
    (success : i.act types a = .ok later) :
    later.dependencies = Layout.structuresAmong types (names ++ a.uses) := by
  cases a with
  | field type name =>
    obtain ⟨found, _, rfl⟩ := addField_eq_ok success
    exact depend_dependencies names type before
  | resource type elementType register name =>
    obtain ⟨k, _, _, rfl⟩ := addResource_eq_ok success
    cases elementType with
    | none =>
      rw [Action.uses, Option.toList_none, List.append_nil]
      exact before
    | some element => exact depend_dependencies names element before
  | constant type name value =>
    obtain ⟨found, _, rfl⟩ := addConstant_eq_ok success
    rw [Action.uses, List.append_nil]
    exact before
  | finish =>
    cases finish_eq_ok success
    rw [Action.uses, List.append_nil]
    exact before

theorem dependencies_perform (types : TypeScope) (name : String) (register : Nat)
    (actions : List Action) :
    let run := (blank name register).perform types actions
    run.1.dependencies = Layout.structuresAmong types (run.2.flatMap Action.uses) := by
  let P (p : Interface × List Action) : Prop :=
    p.1.dependencies = Layout.structuresAmong types (p.2.flatMap Action.uses)
  have step (p : Interface × List Action) (before : P p) (a : Action) (_ : a ∈ actions) :
      P (attempt types p a) := by
    rw [attempt]
    split
    case h_1 success =>
      show _ = Layout.structuresAmong types ((p.2 ++ [a]).flatMap Action.uses)
      rw [List.flatMap_append, List.flatMap_singleton]
      exact dependencies_act before success
    case h_2 => exact before
  exact List.foldlRecOn actions (attempt types) (motive := P) (show P (_, []) from rfl) step

/-- An edit is refused for the first of its checks that fails, and then leaves the interface as it
was. After any edits the dependencies are the structures that those accepted use, each once, in
the order in which they are used first. -/
theorem edits_settle (entries : List (String × Nat)) (name : String) (register : Nat)
    (actions : List Action) :
    let types := TypeScope.ofRegistrations entries
    let run := (blank name register).edited types actions
    let uses := run.2.flatMap Action.uses
    (∀ i a fault left, edit types a i = .error fault left ↔ Refusal types i a fault ∧ left = i) ∧
      (∀ i a later, edit types a i = .ok () later ↔ i.act types a = .ok later) ∧
      run.1.dependencies.Nodup ∧
      (∀ s, s ∈ run.1.dependencies ↔ s ∈ uses ∧ types.isStructure s = true) ∧
      run.1.dependencies.Pairwise (fun a b => uses.idxOf a < uses.idxOf b) ∧
      ∀ s ∈ run.1.dependencies, ValueType.builtin? s = none := by
  dsimp only
  rw [edited_eq_perform, dependencies_perform]
  refine ⟨fun _ _ _ _ => edit_eq_error, fun _ _ _ => edit_eq_ok, Layout.structuresAmong_nodup _ _,
    Layout.mem_structuresAmong _ _, Layout.structuresAmong_ascending _ _, fun s member => ?_⟩
  exact TypeScope.ofRegistrations_proper entries s ((Layout.mem_structuresAmong _ _ s).mp member).2

end
end Interface
end ShaderVariants
