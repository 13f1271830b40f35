import Mathlib.Data.List.Induction
import Mathlib.Data.List.Nodup
import ShaderVariants.Layout.Interface
import ShaderVariants.Proofs.Trees

/-!
What structures and interfaces depend on. The types of an interface are those of its fields, of
the elements of its resources and of its constants. Its dependencies are the structures among the
first two kinds, each where it is named first; those of its constants are not recorded.
-/

namespace ShaderVariants

theorem foldlM_keeps {α β ε : Type} {P : β → Prop} {f : β → α → Except ε β}
    (step : ∀ b a next, f b a = .ok next → P b → P next) (l : List α) (b later : β)
    (success : l.foldlM f b = .ok later) (start : P b) : P later := by
  induction l generalizing b with
  | nil =>
    cases success
    exact start
  | cons a l ih =>
    rw [List.foldlM_cons, bind_eq_ok] at success
    obtain ⟨next, first, rest⟩ := success
    exact ih next rest (step b a next first start)

/-! ## Scopes -/

namespace TypeScope

def Proper (types : TypeScope) : Prop :=
  ∀ name, types.isStructure name = true → ValueType.builtin? name = none

theorem empty_proper : empty.Proper := nofun

theorem isStructure_iff (types : TypeScope) (name : String) :
    types.isStructure name = true ↔ name ∈ types.structures.map (·.1) := by
  rw [isStructure, structureSize?, List.lookup_isSome_iff]
  simp only [beq_iff_eq, List.mem_map]
  constructor
  · rintro ⟨e, member, rfl⟩
    exact ⟨e, member, rfl⟩
  · rintro ⟨e, member, rfl⟩
    exact ⟨e, member, rfl⟩

theorem register_eq_ok {types later : TypeScope} {name : String} {size : Nat}
    (success : types.register name size = .ok later) :
    ValueType.builtin? name = none ∧ types.isStructure name = false ∧
      later = ⟨types.structures ++ [(name, size)]⟩ := by
  unfold register at success
  split at success
  case isTrue => cases success
  case isFalse free =>
    cases success
    rw [Bool.or_eq_true, not_or] at free
    exact ⟨by simpa using free.1, by simpa using free.2, rfl⟩

theorem register_proper {types later : TypeScope} {name : String} {size : Nat}
    (success : types.register name size = .ok later) (proper : types.Proper) : later.Proper := by
  obtain ⟨new, _, rfl⟩ := register_eq_ok success
  intro other found
  rw [isStructure_iff, List.map_append, List.mem_append] at found
  rcases found with before | last
  · exact proper other ((isStructure_iff _ _).mpr before)
  · rwa [List.mem_singleton.mp last]

def ofEntries (entries : List (String × Nat)) : Except Fault TypeScope :=
  entries.foldlM (fun types e => types.register e.1 e.2) empty

theorem ofEntries_proper {entries : List (String × Nat)} {types : TypeScope}
    (success : ofEntries entries = .ok types) : types.Proper :=
  foldlM_keeps (P := TypeScope.Proper) (fun _ _ _ added before => register_proper added before)
    _ _ _ success empty_proper

theorem lookup_eq_ok {types : TypeScope} {name : String} {type : ValueType}
    (success : types.lookup name = .ok type) : types.find? name = some type := by
  unfold lookup at success
  split at success
  case h_1 found =>
    cases success
    exact found
  case h_2 => cases success

theorem find?_declared {types : TypeScope} {name : String} {type : ValueType}
    (found : types.find? name = some type) : type.declared = name := by
  unfold find? at found
  split at found
  case h_1 builtin =>
    cases found
    simpa using List.find?_some builtin
  case h_2 =>
    obtain ⟨size, _, rfl⟩ := Option.map_eq_some_iff.mp found
    rfl

end TypeScope

/-! ## Structures among names -/

namespace Layout

theorem structuresAmong_concat (types : TypeScope) (names : List String) (name : String) :
    structuresAmong types (names ++ [name]) =
      if types.isStructure name && !(structuresAmong types names).contains name then
        structuresAmong types names ++ [name]
      else structuresAmong types names := by
  rw [structuresAmong, List.foldl_append]
  rfl

theorem mem_structuresAmong (types : TypeScope) (names : List String) (name : String) :
    name ∈ structuresAmong types names ↔ name ∈ names ∧ types.isStructure name = true := by
  induction names using List.reverseRecOn with
  | nil => simp [structuresAmong]
  | append_singleton names last ih =>
    rw [structuresAmong_concat, List.mem_append, List.mem_singleton]
    split
    case isTrue taken =>
      rw [Bool.and_eq_true] at taken
      rw [List.mem_append, List.mem_singleton, ih]
      constructor
      · rintro (⟨inside, known⟩ | rfl)
        · exact ⟨Or.inl inside, known⟩
        · exact ⟨Or.inr rfl, taken.1⟩
      · rintro ⟨inside | here, known⟩
        · exact Or.inl ⟨inside, known⟩
        · exact Or.inr here
    case isFalse left =>
      rw [Bool.and_eq_true, not_and] at left
      rw [ih]
      constructor
      · rintro ⟨inside, known⟩
        exact ⟨Or.inl inside, known⟩
      · rintro ⟨inside | rfl, known⟩
        · exact ⟨inside, known⟩
        · exact ih.mp (by simpa using left known)

theorem structuresAmong_nodup (types : TypeScope) (names : List String) :
    (structuresAmong types names).Nodup := by
  induction names using List.reverseRecOn with
  | nil => exact List.nodup_nil
  | append_singleton names last ih =>
    rw [structuresAmong_concat]
    split
    case isTrue taken =>
      rw [Bool.and_eq_true] at taken
      rw [← List.concat_eq_append]
      exact List.Nodup.concat (by simpa using taken.2) ih
    case isFalse => exact ih

theorem structuresAmong_filter (types : TypeScope) (names : List String) :
    structuresAmong types (names.filter types.isStructure) = structuresAmong types names := by
  induction names using List.reverseRecOn with
  | nil => rfl
  | append_singleton names last ih =>
    rw [List.filter_append, structuresAmong_concat]
    cases known : types.isStructure last with
    | true =>
      rw [List.filter_cons_of_pos known, List.filter_nil, structuresAmong_concat, ih, known]
    | false =>
      rw [List.filter_cons_of_neg (by simp [known]), List.filter_nil, List.append_nil, ih]
      rfl

theorem add_eq_ok {layout later : Layout} {types : TypeScope} {type name : String}
    (success : layout.add types type name = .ok later) :
    ∃ found, types.find? type = some found ∧
      later = { layout with fields := layout.fields ++ [⟨found, name, false⟩] } := by
  rw [add, bind_eq_ok] at success
  obtain ⟨found, looked, made⟩ := success
  cases made
  exact ⟨found, TypeScope.lookup_eq_ok looked, rfl⟩

theorem pad_eq_ok {layout later : Layout} (success : layout.pad = .ok later) :
    later = { layout with fields := layout.fields ++ layout.paddingFields } := by
  unfold pad at success
  split at success <;> cases success
  rfl

/-- What a machine fills up is filled up as with exact sizes. -/
theorem padChecked_eq_ok {layout later : Layout} (success : layout.padChecked = .ok later) :
    layout.pad = .ok later := by
  simp only [padChecked, bind_eq_ok] at success
  obtain ⟨_, _, padded, filled, _, _, made⟩ := success
  cases made
  exact filled

theorem paddingFields_type {layout : Layout} {f : LayoutField} (member : f ∈ layout.paddingFields) :
    f.type = paddingType := by
  obtain ⟨name, _, rfl⟩ := List.mem_map.mp member
  rfl

end Layout

/-! ## Types of an interface -/

theorem Binding.make_eq_ok {type name : String} {elementType : Option String} {register : Nat}
    {binding : Binding} (success : Binding.make type elementType register name = .ok binding) :
    ∃ known ∈ ResourceType.all, known.name = type ∧
      binding = ⟨known, elementType, register, name⟩ := by
  rw [Binding.make, bind_eq_ok] at success
  obtain ⟨known, named, made⟩ := success
  split at made
  case isTrue => cases made
  case isFalse =>
    cases made
    unfold ResourceType.named at named
    split at named
    case h_1 found =>
      cases named
      exact ⟨_, List.mem_of_find?_eq_some found, by simpa using List.find?_some found, rfl⟩
    case h_2 => cases named

namespace Interface

/-- The types of the fields and of the elements of the resources. -/
def boundTypes (i : Interface) : List String :=
  i.layout.fields.map (·.type.declared) ++ i.bindings.filterMap (·.elementType)

def usedTypes (i : Interface) : List String :=
  i.boundTypes ++ i.constants.map (·.type.declared)

/-- Whether the items of an interface are of known types, and its dependencies are the structures
among the types of its fields and the elements of its resources. -/
structure Tracks (i : Interface) (types : TypeScope) : Prop where
  kinds : ∀ b ∈ i.bindings, b.type ∈ ResourceType.all
  dependencies : i.dependencies = Layout.structuresAmong types i.boundTypes

section
variable {i later : Interface} {types : TypeScope}

theorem depend_dependencies (names : List String) (type : String)
    (before : i.dependencies = Layout.structuresAmong types names) :
    (i.depend types type).dependencies = Layout.structuresAmong types (names ++ [type]) := by
  rw [Layout.structuresAmong_concat, ← before, depend]
  split <;> rfl

theorem depend_eq (type : String) : i.depend types type =
    { i with dependencies := (i.depend types type).dependencies } := by
  unfold depend
  split <;> rfl

theorem addField_eq_ok {type name : String} (success : i.addField types type name = .ok later) :
    ∃ found, types.find? type = some found ∧ later = { i with
      layout := { i.layout with fields := i.layout.fields ++ [⟨found, name, false⟩] }
      dependencies := (i.depend types type).dependencies } := by
  rw [addField, bind_eq_ok] at success
  obtain ⟨layout, added, made⟩ := success
  obtain ⟨found, known, rfl⟩ := Layout.add_eq_ok added
  cases made
  refine ⟨found, known, ?_⟩
  rw [depend_eq]
  unfold depend
  split <;> rfl

theorem addResource_eq_ok {type name : String} {elementType : Option String} {register : Nat}
    (success : i.addResource types type elementType register name = .ok later) :
    ∃ known ∈ ResourceType.all, known.name = type ∧ later = { i with
      bindings := i.bindings ++ [⟨known, elementType, register, name⟩]
      dependencies := (elementType.elim i fun element => i.depend types element).dependencies
      } := by
  rw [addResource, bind_eq_ok] at success
  obtain ⟨binding, made, rest⟩ := success
  obtain ⟨known, member, named, rfl⟩ := Binding.make_eq_ok made
  refine ⟨known, member, named, ?_⟩
  cases elementType with
  | none =>
    cases rest
    rfl
  | some element =>
    dsimp only at rest
    rw [bind_eq_ok] at rest
    obtain ⟨_, _, made⟩ := rest
    cases made
    rw [depend_eq, Option.elim_some]
    unfold depend
    split <;> rfl

theorem addConstant_eq_ok {type name value : String}
    (success : i.addConstant types type name value = .ok later) :
    ∃ found, types.find? type = some found ∧
      later = { i with constants := i.constants ++ [⟨found, name, value⟩] } := by
  rw [addConstant, bind_eq_ok] at success
  obtain ⟨found, looked, made⟩ := success
  cases made
  exact ⟨found, TypeScope.lookup_eq_ok looked, rfl⟩

theorem finish_eq_ok (success : i.finish = .ok later) :
    later = { i with layout := { i.layout with
      fields := i.layout.fields ++ i.layout.paddingFields } } := by
  rw [finish, bind_eq_ok] at success
  obtain ⟨layout, padded, made⟩ := success
  cases made
  rw [Layout.pad_eq_ok (Layout.padChecked_eq_ok padded)]

theorem Tracks.addField (tracks : i.Tracks types) (bare : i.bindings = []) {type name : String}
    (success : i.addField types type name = .ok later) :
    later.Tracks types ∧ later.bindings = [] := by
  obtain ⟨found, known, rfl⟩ := addField_eq_ok success
  have dependencies := tracks.dependencies
  simp only [boundTypes, bare, List.filterMap_nil, List.append_nil] at dependencies
  refine ⟨⟨tracks.kinds, ?_⟩, bare⟩
  dsimp only
  rw [depend_dependencies _ type dependencies]
  simp only [boundTypes, bare, List.filterMap_nil, List.append_nil, List.map_append,
    List.map_singleton, TypeScope.find?_declared known]

theorem Tracks.addResource (tracks : i.Tracks types) {type name : String}
    {elementType : Option String} {register : Nat}
    (success : i.addResource types type elementType register name = .ok later) :
    later.Tracks types := by
  obtain ⟨known, member, _, rfl⟩ := addResource_eq_ok success
  constructor
  · rw [List.forall_mem_append, List.forall_mem_singleton]
    exact ⟨tracks.kinds, member⟩
  · cases elementType with
    | none => simpa [boundTypes] using tracks.dependencies
    | some element =>
      dsimp only [Option.elim_some]
      rw [depend_dependencies _ element tracks.dependencies]
      simp [boundTypes]

theorem Tracks.addConstant (tracks : i.Tracks types) {type name value : String}
    (success : i.addConstant types type name value = .ok later) :
    later.Tracks types := by
  obtain ⟨found, _, rfl⟩ := addConstant_eq_ok success
  exact ⟨tracks.kinds, tracks.dependencies⟩

theorem Tracks.finish (tracks : i.Tracks types) (proper : types.Proper)
    (success : i.finish = .ok later) : later.Tracks types := by
  cases finish_eq_ok success
  refine ⟨tracks.kinds, ?_⟩
  have plain : types.isStructure Layout.paddingType.declared = false := by
    by_contra found
    have new := proper _ (by simpa using found)
    cases new
  have padding : (i.layout.paddingFields.map (·.type.declared)).filter types.isStructure = [] := by
    rw [List.filter_eq_nil_iff]
    simp only [List.mem_map]
    rintro _ ⟨f, member, rfl⟩
    simp [Layout.paddingFields_type member, plain]
  rw [tracks.dependencies, ← Layout.structuresAmong_filter,
    ← Layout.structuresAmong_filter types (boundTypes _)]
  simp [boundTypes, padding]

end

theorem Tracks.mem_dependencies {i : Interface} {types : TypeScope} (tracks : i.Tracks types)
    (name : String) :
    name ∈ i.dependencies ↔ name ∈ i.boundTypes ∧ types.isStructure name = true := by
  rw [tracks.dependencies, Layout.mem_structuresAmong]

theorem Tracks.nodup {i : Interface} {types : TypeScope} (tracks : i.Tracks types) :
    i.dependencies.Nodup := by
  rw [tracks.dependencies]
  exact Layout.structuresAmong_nodup _ _

theorem blank_tracks (name : String) (register : Nat) (types : TypeScope) :
    (blank name register).Tracks types := ⟨by simp [blank], rfl⟩

theorem ofDescription_tracks {types : TypeScope} (proper : types.Proper)
    {d : Description.Interface} {i : Interface} (success : ofDescription types d = .ok i) :
    i.Tracks types := by
  simp only [ofDescription, bind_eq_ok] at success
  obtain ⟨_, fields, _, resources, _, constants, finished⟩ := success
  have one := foldlM_keeps (P := fun i => i.Tracks types ∧ i.bindings = [])
    (fun _ _ _ added before => before.1.addField before.2 added)
    _ _ _ fields ⟨blank_tracks _ _ _, rfl⟩
  have two := foldlM_keeps (P := fun i => i.Tracks types)
    (fun _ _ _ added before => before.addResource added) _ _ _ resources one.1
  have three := foldlM_keeps (P := fun i => i.Tracks types)
    (fun _ _ _ added before => before.addConstant added) _ _ _ constants two
  exact three.finish proper finished

end Interface
end ShaderVariants
