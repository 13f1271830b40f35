import ShaderVariants.Proofs.Alignment

/-!
What structures are made of. Types and catalog tell the same of the structures that are registered,
and each is made of built-in types and of structures that came before it. So embedded structures can
be expanded until only built-in types are left, and the sizes of these, with those that fill up the
structures on the way, add up to the size of the whole.
-/

namespace ShaderVariants

/-! ## Types that stay known -/

namespace TypeScope

theorem find?_of_plain {name : String} (plain : ValueType.builtin? name = none)
    (types : TypeScope) :
    types.find? name = (types.structureSize? name).map (⟨name, name, ·⟩) := by
  rw [find?, plain]

theorem find?_extend {types : TypeScope} {name : String} {type : ValueType}
    (found : types.find? name = some type) (structures : List SharedStructure) :
    (types.extend structures).find? name = some type := by
  cases builtin : ValueType.builtin? name with
  | some own =>
    rw [find?, builtin] at found ⊢
    exact found
  | none =>
    rw [find?_of_plain builtin] at found ⊢
    obtain ⟨size, known, rfl⟩ := Option.map_eq_some_iff.mp found
    rw [structureSize?, extend, List.lookup_append, ← structureSize?, known]
    rfl

theorem find?_extend_singleton {types : TypeScope} {s : SharedStructure} {name : String}
    {type : ValueType} (found : (types.extend [s]).find? name = some type) :
    types.find? name = some type ∨ name = s.name ∧ type.size = s.byteSize := by
  cases builtin : ValueType.builtin? name with
  | some own =>
    rw [find?, builtin] at found ⊢
    exact Or.inl found
  | none =>
    rw [find?_of_plain builtin] at found ⊢
    obtain ⟨size, known, rfl⟩ := Option.map_eq_some_iff.mp found
    rw [structureSize?, extend, List.lookup_append, Option.or_eq_some_iff] at known
    rcases known with before | ⟨_, last⟩
    · left
      rw [structureSize?, before]
      rfl
    · right
      rw [List.map_singleton, List.lookup_cons] at last
      split at last <;> cases last
      case h_1 same => exact ⟨by simpa using same, rfl⟩

theorem find?_eq_none {types : TypeScope} {name : String}
    (plain : ValueType.builtin? name = none) (fresh : types.isStructure name = false) :
    types.find? name = none := by
  rw [find?_of_plain plain]
  simpa [isStructure] using fresh

theorem find?_cases {types : TypeScope} {name : String} {type : ValueType}
    (found : types.find? name = some type) :
    type ∈ ValueType.builtins ∨ types.isStructure name = true := by
  unfold find? at found
  split at found
  case h_1 builtin =>
    cases found
    exact Or.inl (List.mem_of_find?_eq_some builtin)
  case h_2 =>
    obtain ⟨size, known, _⟩ := Option.map_eq_some_iff.mp found
    exact Or.inr (by rw [isStructure, known]; rfl)

end TypeScope

/-! ## Leaves -/

namespace SharedStructure

/-- What is known of types once it is also known what a structure is made of. -/
def learn (known : String → List ValueType) (s : SharedStructure) : String → List ValueType :=
  Function.update known s.name (s.layout.fields.flatMap fun f => known f.type.declared)

/-- The built-in types that are left of a type where structures are expanded, each knowing those
before it. -/
def leaves (structures : List SharedStructure) : String → List ValueType :=
  structures.foldl learn fun name => (ValueType.builtin? name).toList

/-- Whether types are known to consist of built-in types that add up to their sizes. -/
def Knows (types : TypeScope) (known : String → List ValueType) : Prop :=
  ∀ name type, types.find? name = some type →
    (∀ leaf ∈ known name, leaf ∈ ValueType.builtins) ∧
      type.size = ((known name).map (·.size)).sum

theorem knows_empty : Knows .empty fun name => (ValueType.builtin? name).toList := by
  intro name type found
  have builtin : ValueType.builtin? name = some type := by
    unfold TypeScope.find? at found
    split at found
    case h_1 builtin =>
      rw [builtin]
      exact found
    case h_2 => cases found
  dsimp only
  rw [builtin, Option.toList_some, List.forall_mem_singleton, List.map_singleton,
    List.sum_singleton]
  exact ⟨List.mem_of_find?_eq_some builtin, rfl⟩

section
variable {types : TypeScope} {known : String → List ValueType} {s : SharedStructure}

theorem learn_self : learn known s s.name =
    s.layout.fields.flatMap fun f => known f.type.declared :=
  Function.update_self ..

theorem learn_of_found (new : types.find? s.name = none) {name : String}
    (found : (types.find? name).isSome = true) : learn known s name = known name := by
  apply Function.update_of_ne
  rintro rfl
  rw [new] at found
  cases found

theorem Knows.learn (knows : Knows types known) (embeds : s.Embeds types)
    (new : types.find? s.name = none) : Knows (types.extend [s]) (learn known s) := by
  intro name type found
  rcases TypeScope.find?_extend_singleton found with before | ⟨rfl, size⟩
  · rw [learn_of_found new (by rw [before]; rfl)]
    exact knows name type before
  · have each (f : LayoutField) (member : f ∈ s.layout.fields) :=
      knows _ f.type (embeds f member)
    rw [learn_self, size]
    constructor
    · intro leaf inside
      obtain ⟨f, member, here⟩ := List.mem_flatMap.mp inside
      exact (each f member).1 leaf here
    · calc
        s.byteSize = (s.layout.fields.map (·.type.size)).sum := s.layout.byteSize_eq_sum
        _ = (s.layout.fields.map fun f => ((known f.type.declared).map (·.size)).sum).sum := by
          rw [List.map_congr_left fun f member => (each f member).2]
        _ = ((s.layout.fields.flatMap fun f => known f.type.declared).map (·.size)).sum := by
          rw [List.map_flatMap, List.flatMap_def, List.sum_flatten, List.map_map]
          rfl

end
end SharedStructure

/-! ## Registration -/

namespace Intake
open SharedStructure

section
variable {types : TypeScope} {ds : List Description.Structure} {structures : List SharedStructure}
  (registers : Registers types ds structures)
include registers

theorem Registers.knows {known : String → List ValueType} (knows : Knows types known) :
    Knows (types.extend structures) (structures.foldl learn known) := by
  induction registers generalizing known with
  | nil types => rwa [TypeScope.extend_nil]
  | cons made plain fresh _ ih =>
    rw [TypeScope.extend_cons]
    exact ih (knows.learn (ofDescription_embeds made) (TypeScope.find?_eq_none plain fresh))

theorem Registers.learn_of_found (known : String → List ValueType) {name : String}
    (found : (types.find? name).isSome = true) :
    structures.foldl learn known name = known name := by
  induction registers generalizing known with
  | nil types => rfl
  | @cons types d s ds rest _ plain fresh _ ih =>
    obtain ⟨type, here⟩ := Option.isSome_iff_exists.mp found
    rw [List.foldl_cons, ih _ (by rw [TypeScope.find?_extend here]; rfl)]
    exact SharedStructure.learn_of_found (TypeScope.find?_eq_none plain fresh) found

/-- What a structure is made of does not change any more, and its fields come before it. -/
theorem Registers.learn_eq (known : String → List ValueType) :
    ∀ s ∈ structures, structures.foldl learn known s.name =
      s.layout.fields.flatMap fun f => structures.foldl learn known f.type.declared := by
  induction registers generalizing known with
  | nil types => simp
  | @cons types d s ds rest made plain fresh later ih =>
    -- What is known of the fields is the same before the structure, after it and in the end.
    rw [List.forall_mem_cons, List.foldl_cons]
    refine ⟨?_, ih (learn known s)⟩
    have own : ((types.extend [s]).find? s.name).isSome = true := by
      rw [TypeScope.find?, plain, Option.isSome_map, ← TypeScope.isStructure,
        TypeScope.extend_isStructure]
      exact Or.inr List.mem_cons_self
    rw [later.learn_of_found _ own, learn_self]
    apply List.flatMap_congr
    intro f member
    have found := ofDescription_embeds made f member
    rw [later.learn_of_found _ (by rw [TypeScope.find?_extend found]; rfl),
      SharedStructure.learn_of_found (TypeScope.find?_eq_none plain fresh) (by rw [found]; rfl)]

end

/-! ## Types and catalog -/

/-- What a scope and the structures of a catalog tell of each other. -/
structure Concord (types : TypeScope) (structures : List SharedStructure) : Prop where
  entries : types.structures = structures.map fun s => (s.name, s.layout.byteSize)
  distinct : (structures.map (·.name)).Nodup
  sizes : ∀ name size, types.structureSize? name = some size ↔
    ∃ s ∈ structures, s.name = name ∧ s.layout.byteSize = size
  earlier : ∀ before s after, structures = before ++ s :: after → ∀ f ∈ s.layout.fields,
    types.lookup f.type.declared = .ok f.type ∧
      (f.type ∈ ValueType.builtins ∨ ∃ t ∈ before, t.name = f.type.declared)
  aligned : ∀ s ∈ structures, 16 ∣ s.layout.byteSize
  builtin : ∀ type ∈ ValueType.builtins, leaves structures type.declared = [type]
  expanded : ∀ s ∈ structures, leaves structures s.name =
    s.layout.fields.flatMap fun f => leaves structures f.type.declared
  total : ∀ s ∈ structures, (∀ leaf ∈ leaves structures s.name, leaf ∈ ValueType.builtins) ∧
    s.layout.byteSize = ((leaves structures s.name).map (·.size)).sum

theorem Registers.concord {ds : List Description.Structure} {structures : List SharedStructure}
    (registers : Registers .empty ds structures) :
    Concord (TypeScope.empty.extend structures) structures := by
  have entries : (TypeScope.empty.extend structures).structures =
      structures.map fun s => (s.name, s.layout.byteSize) := List.nil_append _
  have distinct : (structures.map (·.name)).Nodup := by
    have names := registers.nodup List.nodup_nil
    rwa [entries, List.map_map] at names
  have sound : Knows (TypeScope.empty.extend structures) (leaves structures) :=
    registers.knows knows_empty
  have sizes (name : String) (size : Nat) :
      (TypeScope.empty.extend structures).structureSize? name = some size ↔
        ∃ s ∈ structures, s.name = name ∧ s.layout.byteSize = size := by
    rw [TypeScope.structureSize?, entries]
    constructor
    · intro known
      obtain ⟨_, _, whole, _⟩ := List.lookup_eq_some_iff.mp known
      obtain ⟨s, member, same⟩ := List.mem_map.mp (whole ▸ List.mem_append_cons_self)
      cases same
      exact ⟨s, member, rfl, rfl⟩
    · rintro ⟨s, member, rfl, rfl⟩
      obtain ⟨before, after, rfl⟩ := List.append_of_mem member
      rw [List.map_append, List.nodup_append] at distinct
      refine List.lookup_eq_some_iff.mpr ⟨_, _, List.map_append, ?_⟩
      rw [List.forall_mem_map]
      intro t earlier
      have apart := distinct.2.2 _ (List.mem_map_of_mem earlier) _ List.mem_cons_self
      simpa using apart.symm
  refine ⟨entries, distinct, sizes, ?_, (registers.aligned TypeScope.empty_aligned).2, ?_,
    registers.learn_eq _, ?_⟩
  · intro before s after whole f member
    have layered := registers.layered
    rw [whole, layered_append] at layered
    obtain ⟨_, _, embeds, _⟩ := layered
    have found := embeds f member
    constructor
    · rw [TypeScope.lookup, whole, TypeScope.extend_append, TypeScope.find?_extend found]
    · apply (TypeScope.find?_cases found).imp_right
      intro known
      exact List.mem_map.mp ((TypeScope.empty_extend_isStructure _ _).mp known)
  · intro type member
    have own : ∀ type ∈ ValueType.builtins, ValueType.builtin? type.declared = some type := by
      decide
    have builtin := own type member
    have found : (TypeScope.empty.find? type.declared).isSome = true := by
      rw [TypeScope.find?, builtin]
      rfl
    rw [leaves, registers.learn_of_found _ found, builtin]
    rfl
  · intro s member
    have known := (sizes s.name _).mpr ⟨s, member, rfl, rfl⟩
    have plain := registers.layered.proper TypeScope.empty_proper s.name
      (by rw [TypeScope.isStructure, known]; rfl)
    apply sound s.name ⟨s.name, s.name, s.layout.byteSize⟩
    rw [TypeScope.find?_of_plain plain, known]
    rfl

theorem register_append (before after : List SourceFile) (i : Intake) :
    (register i (before ++ after)).2 = (register (register i before).2 after).2 := by
  induction before generalizing i with
  | nil => rfl
  | cons file before ih =>
    rw [List.cons_append, register, register]
    split
    · exact ih _
    · exact ih _

/-- At every point of the registration of files, from no types and a catalog without structures, the
types are the structures of the catalog by name and size. The fields of each structure are of
built-in types and of earlier structures, with the sizes that these have now. So the size of a
structure is divisible by sixteen, and it is the sum of the sizes of the built-in types that are
left when all embedded structures are expanded. -/
theorem registration_concord (i : Intake) (types : i.types = .empty)
    (bare : i.catalog.structures = []) (before after : List SourceFile) :
    let turn := (register i before).2
    (register i (before ++ after)).2 = (register turn after).2 ∧
      Concord turn.types turn.catalog.structures := by
  intro turn
  refine ⟨register_append before after i, ?_⟩
  obtain ⟨ds, structures, registers, later, catalog⟩ := register_registers before i
  rw [types] at registers later
  rw [bare, List.nil_append] at catalog
  change Concord (register i before).2.types (register i before).2.catalog.structures
  rw [later, catalog]
  exact registers.concord

theorem registration_concord_scene :
    let light : Description.Structure := ⟨"Light", [⟨"float3", "direction"⟩]⟩
    let fog : Description.Structure := ⟨"Fog", [⟨"Haze", "haze"⟩]⟩
    let scene : Description.Structure := ⟨"Scene", [⟨"Light", "sun"⟩, ⟨"float", "time"⟩]⟩
    let files : List SourceFile := [⟨⟨["a.json"]⟩, ⟨none, [light], []⟩⟩,
      ⟨⟨["b.json"]⟩, ⟨none, [fog], []⟩⟩, ⟨⟨["c.json"]⟩, ⟨none, [scene], []⟩⟩]
    let turn := (register (.start .empty []) files).2
    turn.types.structures = [("Light", 16), ("Scene", 32)] ∧
      (leaves turn.catalog.structures "Scene").map (·.declared) =
        ["float3", "uint", "float", "uint", "uint", "uint"] ∧
      Concord turn.types turn.catalog.structures := by
  intro light fog scene files turn
  exact ⟨by decide +kernel, by decide +kernel,
    (registration_concord (.start .empty []) rfl rfl files []).2⟩

end Intake
end ShaderVariants
