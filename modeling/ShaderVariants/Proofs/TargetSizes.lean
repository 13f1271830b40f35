import ShaderVariants.Proofs.Expansion
import ShaderVariants.Proofs.Mirrors
import ShaderVariants.Proofs.Sources

/-!
Sizes of structs in C++. A header asserts the sum of the sizes of its fields, and that is what C++
counts, but for a struct without members: it has one byte, where none is asserted. So the asserted
size is right exactly where the struct has members, and so has every structure embedded in it.
-/

namespace ShaderVariants

/-- Sums of terms in order are in order, and only equal terms give equal sums. -/
theorem sum_le_and_eq_iff {α : Type} {f g : α → Nat} {l : List α} (below : ∀ a ∈ l, f a ≤ g a) :
    (l.map f).sum ≤ (l.map g).sum ∧
      ((l.map f).sum = (l.map g).sum ↔ ∀ a ∈ l, f a = g a) := by
  induction l with
  | nil => simp
  | cons a l ih =>
    rw [List.forall_mem_cons] at below
    obtain ⟨sums, equal⟩ := ih below.2
    have here := below.1
    rw [List.map_cons, List.map_cons, List.sum_cons, List.sum_cons, List.forall_mem_cons, ← equal]
    omega

/-! ## Sizes that C++ gives -/

/-- The size of a struct by the sizes of the types of its members. -/
def Header.structSize (size : String → Nat) (members : List Header.Declaration) : Nat :=
  if members = [] then 1 else (members.map fun d => size d.type).sum

/-- Whether C++ types have the sizes that a compiler gives them, where built-in types are as large
as in shader code. -/
structure TargetSizes (structures : List SharedStructure) (size : String → Nat) : Prop where
  builtins : ∀ type ∈ ValueType.builtins, size type.target = type.size
  structs : ∀ s ∈ structures, size s.name = Header.structSize size (Header.targetFields s.layout)

/-- Whether a layout has fields, and so has every structure embedded in it. -/
inductive Layout.Solid (structures : List SharedStructure) : Layout → Prop
  | intro {layout : Layout} (filled : layout.fields ≠ [])
      (embedded : ∀ f ∈ layout.fields, ∀ s ∈ structures, s.name = f.type.declared →
        Solid structures s.layout) : Solid structures layout

theorem Layout.solid_iff {structures : List SharedStructure} {layout : Layout} :
    layout.Solid structures ↔ layout.fields ≠ [] ∧ ∀ f ∈ layout.fields, ∀ s ∈ structures,
      s.name = f.type.declared → s.layout.Solid structures := by
  constructor
  · rintro ⟨filled, embedded⟩
    exact ⟨filled, embedded⟩
  · rintro ⟨filled, embedded⟩
    exact .intro filled embedded

/-- Whether C++ counts no less for a type than shader code does, and just as much exactly where the
type is no structure or a solid one. -/
def Measures (structures : List SharedStructure) (size : String → Nat) (type : ValueType) : Prop :=
  type.size ≤ size type.target ∧
    (type.size = size type.target ↔
      ∀ s ∈ structures, s.name = type.declared → s.layout.Solid structures)

section
variable {structures : List SharedStructure} {size : String → Nat}

theorem Layout.measures {layout : Layout}
    (fields : ∀ f ∈ layout.fields, Measures structures size f.type) :
    let target := Header.structSize size (Header.targetFields layout)
    layout.byteSize ≤ target ∧ (layout.byteSize = target ↔ layout.Solid structures) := by
  intro target
  rw [Layout.solid_iff, Layout.byteSize_eq_sum]
  by_cases empty : layout.fields = []
  · have one : target = 1 := by simp [target, Header.structSize, Header.targetFields, empty]
    simp [one, empty]
  · have sum : target = (layout.fields.map fun f => size f.type.target).sum := by
      simp [target, Header.structSize, Header.targetFields, empty, Function.comp_def]
    obtain ⟨below, equal⟩ := sum_le_and_eq_iff fun f member => (fields f member).1
    rw [sum, equal]
    refine ⟨below, ?_⟩
    rw [and_iff_right empty]
    exact forall₂_congr fun f member => (fields f member).2

/-- In a scope whose structures have been measured, a structure that embeds only these is measured
as well. -/
theorem measures_extend {types : TypeScope} {s : SharedStructure}
    (given : TargetSizes structures size) (distinct : (structures.map (·.name)).Nodup)
    (member : s ∈ structures) (plain : ValueType.builtin? s.name = none) (embeds : s.Embeds types)
    (before : ∀ name type, types.find? name = some type → Measures structures size type) :
    ∀ name type, (types.extend [s]).find? name = some type → Measures structures size type := by
  intro name type found
  rcases TypeScope.find?_extend_singleton found with earlier | ⟨rfl, same⟩
  · exact before name type earlier
  · rw [TypeScope.find?_of_plain plain] at found
    obtain ⟨_, _, rfl⟩ := Option.map_eq_some_iff.mp found
    cases same
    have measured := Layout.measures fun f inside => before _ _ (embeds f inside)
    rw [← given.structs s member] at measured
    have only : (∀ t ∈ structures, t.name = s.name → t.layout.Solid structures) ↔
        s.layout.Solid structures := by
      constructor
      · exact fun all => all s member rfl
      · intro solid t other named
        rwa [List.inj_on_of_nodup_map distinct other member named]
    rw [Measures, only]
    exact measured

theorem SharedStructure.Layered.measures {types : TypeScope} {rest : List SharedStructure}
    (given : TargetSizes structures size) (distinct : (structures.map (·.name)).Nodup)
    (layered : Layered types rest) (members : ∀ s ∈ rest, s ∈ structures)
    (before : ∀ name type, types.find? name = some type → Measures structures size type) :
    ∀ name type, (types.extend rest).find? name = some type →
      Measures structures size type := by
  induction rest generalizing types with
  | nil => rwa [TypeScope.extend_nil]
  | cons s rest ih =>
    obtain ⟨plain, embeds, later⟩ := layered
    rw [List.forall_mem_cons] at members
    rw [TypeScope.extend_cons]
    exact ih later members.2 (measures_extend given distinct members.1 plain embeds before)

theorem builtins_measured (given : TargetSizes structures size)
    (plain : ∀ s ∈ structures, ValueType.builtin? s.name = none) :
    ∀ name type, TypeScope.empty.find? name = some type → Measures structures size type := by
  intro name type found
  have named := TypeScope.find?_declared found
  unfold TypeScope.find? at found
  split at found
  case h_1 builtin =>
    cases found
    have same := given.builtins type (List.mem_of_find?_eq_some builtin)
    refine ⟨same.ge, iff_of_true same.symm fun s member clash => ?_⟩
    rw [named] at clash
    cases (plain s member).symm.trans (clash ▸ builtin)
  case h_2 => cases found

end

/-! ## Such sizes exist -/

theorem Header.structSize_update {size : String → Nat} {name : String} {n : Nat}
    {members : List Header.Declaration} (other : ∀ d ∈ members, d.type ≠ name) :
    structSize (Function.update size name n) members = structSize size members := by
  have same : members.map (fun d => Function.update size name n d.type) =
      members.map fun d => size d.type := by
    apply List.map_congr_left
    intro d member
    exact Function.update_of_ne (other d member) _ _
  rw [structSize, structSize, same]

theorem SharedStructure.Layered.plain {types : TypeScope} {structures : List SharedStructure}
    (layered : Layered types structures) :
    ∀ s ∈ structures, ValueType.builtin? s.name = none := by
  intro s member
  obtain ⟨before, after, rfl⟩ := List.append_of_mem member
  exact ((layered_append types before (s :: after)).mp layered).2.1

theorem SharedStructure.Layered.embeds {types : TypeScope} {structures : List SharedStructure}
    (layered : Layered types structures) :
    ∀ s ∈ structures, s.Embeds (types.extend structures) := by
  intro s member f inside
  obtain ⟨before, after, rfl⟩ := List.append_of_mem member
  obtain ⟨_, _, embeds, _⟩ := (layered_append types before (s :: after)).mp layered
  rw [TypeScope.extend_append]
  exact TypeScope.find?_extend (embeds f inside) _

/-- Whether a name is none that C++ has for a built-in type. -/
def Foreign (name : String) : Prop := ∀ type ∈ ValueType.builtins, name ≠ type.target

theorem TypeScope.target_ne {structures : List SharedStructure} {name other : String}
    {type : ValueType} (found : (empty.extend structures).find? other = some type)
    (foreign : Foreign name) (new : name ∉ structures.map (·.name)) : type.target ≠ name := by
  rintro rfl
  rcases find?_cases found with builtin | known
  · exact foreign type builtin rfl
  · have listed := (empty_extend_isStructure structures other).mp known
    cases builtin : ValueType.builtin? other with
    | some own =>
      rw [find?, builtin] at found
      cases found
      exact foreign type (List.mem_of_find?_eq_some builtin) rfl
    | none =>
      rw [find?_of_plain builtin] at found
      obtain ⟨_, _, rfl⟩ := Option.map_eq_some_iff.mp found
      exact new listed

/-- Where no structure has the name of a built-in C++ type, every struct has a size. -/
theorem TargetSizes.exist {structures : List SharedStructure}
    (layered : SharedStructure.Layered .empty structures)
    (distinct : (structures.map (·.name)).Nodup)
    (foreign : ∀ s ∈ structures, Foreign s.name) : ∃ size, TargetSizes structures size := by
  induction structures using List.reverseRecOn with
  | nil =>
    let size (name : String) : Nat :=
      ((ValueType.builtins.find? (·.target == name)).map (·.size)).getD 0
    exact ⟨size, ⟨by decide, nofun⟩⟩
  | append_singleton before s ih =>
    obtain ⟨earlier, _, last, _⟩ := (SharedStructure.layered_append _ _ _).mp layered
    rw [List.map_append, List.map_singleton, ← List.concat_eq_append, List.nodup_concat] at distinct
    rw [List.forall_mem_append, List.forall_mem_singleton] at foreign
    obtain ⟨size, builtins, structs⟩ := ih earlier distinct.2 foreign.1
    -- The name is new, so no type that is already in scope changes its size.
    have other {t : SharedStructure} (embeds : t.Embeds (TypeScope.empty.extend before)) :
        ∀ d ∈ Header.targetFields t.layout, d.type ≠ s.name := by
      intro d member
      obtain ⟨f, inside, rfl⟩ := List.mem_map.mp member
      exact TypeScope.target_ne (embeds f inside) foreign.2 distinct.1
    refine ⟨Function.update size s.name (Header.structSize size (Header.targetFields s.layout)),
      ?_, ?_⟩
    · intro type member
      rw [Function.update_of_ne (foreign.2 type member).symm]
      exact builtins type member
    · rw [List.forall_mem_append, List.forall_mem_singleton]
      constructor
      · intro t member
        have apart : t.name ≠ s.name :=
          fun clash => distinct.1 (clash ▸ List.mem_map_of_mem member)
        rw [Function.update_of_ne apart, Header.structSize_update (other (earlier.embeds t member))]
        exact structs t member
      · rw [Function.update_self, Header.structSize_update (other last)]

/-! ## What headers assert -/

namespace Header

/-- Lines inside a struct that take no room in it. -/
inductive Roomless : List String → Prop
  | blank : Roomless [""]
  | static {line : String} (begins : Begins "    static constexpr " line) : Roomless [line]
  | struct (name : String) {entries : List String}
      (begins : ∀ line ∈ entries, Begins "        static constexpr " line) :
      Roomless (["    struct " ++ name, "    \x7b"] ++ entries ++ ["    \x7d;"])

/-- Whether a header has a struct with given members behind what takes no room, and asserts a size
of it. -/
def Asserts (h : Header) (name : String) (members : List Declaration) (size : Nat) : Prop :=
  ∃ kind dependencies, ∃ blocks : List (List String), (∀ block ∈ blocks, Roomless block) ∧
    h.content = String.intercalate "\n" (targetStart kind name dependencies ++
      ["", "struct " ++ name, "\x7b"] ++ blocks.flatten ++
      members.map (fun d => "    " ++ d.type ++ " " ++ d.name ++ " = \x7b\x7d;") ++
      ["\x7d;", "", "static_assert(sizeof(" ++ name ++ ") == " ++ toString size ++ ", \"" ++ name ++
        " layout mismatch\");"])

theorem ofLines_asserts (file kind name : String) (dependencies : List String)
    {blocks : List (List String)} (roomless : ∀ block ∈ blocks, Roomless block)
    (members : List Declaration) (size : Nat) :
    (ofLines file (targetStart kind name dependencies ++ ["", s!"struct {name}", openBrace] ++
      blocks.flatten ++ members.map targetLine ++
      [closeBrace, "", sizeAssertion name size])).Asserts name members size := by
  have heading : s!"struct {name}" = "struct " ++ name := rfl
  have line : targetLine = fun d => "    " ++ d.type ++ " " ++ d.name ++ " = \x7b\x7d;" := rfl
  have assertion : sizeAssertion name size = "static_assert(sizeof(" ++ name ++ ") == " ++
    toString size ++ ", \"" ++ name ++ " layout mismatch\");" := rfl
  refine ⟨kind, dependencies, blocks, roomless, ?_⟩
  simp only [ofLines, heading, line, assertion, openBrace, closeBrace]

theorem targetStructure_asserts (s : SharedStructure) (types : TypeScope) :
    (targetStructure s types).Asserts s.name (targetFields s.layout) s.byteSize := by
  have asserts := ofLines_asserts (fileOf s.name) structureKind s.name (s.dependencies types)
    (nofun : ∀ block ∈ [], Roomless block) (targetFields s.layout) s.byteSize
  rwa [List.flatten_nil, List.append_nil] at asserts

theorem summary_static (i : Interface) :
    ∀ line ∈ summary i, Begins "    static constexpr " line := by
  have begins (start value finish : String) (start' : Begins "    static constexpr " start) :
      Begins "    static constexpr " (start ++ value ++ finish) := (start'.append _).append _
  simp only [summary, List.forall_mem_cons]
  exact ⟨begins _ _ _ (by decide), begins _ _ _ (by decide), begins _ _ _ (by decide),
    begins _ _ _ (by decide), List.forall_mem_nil _⟩

theorem targetConstantLine_static (c : NamedConstant) :
    Begins "    static constexpr " (targetConstantLine c) := by
  unfold targetConstantLine
  simp only [String.append_assoc]
  exact Begins.append (by decide) _

theorem offsetStruct_roomless (name : String) (bindings : List Binding) :
    Roomless (offsetStruct name bindings) := by
  refine .struct name fun line member => ?_
  obtain ⟨b, _, rfl⟩ := List.mem_map.mp member
  unfold offsetLine
  simp only [String.append_assoc]
  exact Begins.append (by decide) _

theorem targetInterface_asserts (i : Interface) :
    (targetInterface i).Asserts i.name (targetFields i.layout) i.layout.byteSize := by
  let blocks := (summary i ++ i.constants.map targetConstantLine).map ([·]) ++
    [[""], offsetStruct "SRVOffsets" (i.bindingsOf .shaderResource),
      [""], offsetStruct "UAVOffsets" (i.bindingsOf .unorderedAccess), [""]]
  have roomless : ∀ block ∈ blocks, Roomless block := by
    rw [List.forall_mem_append, List.forall_mem_map, List.forall_mem_append, List.forall_mem_map]
    refine ⟨⟨fun line member => .static (summary_static i line member),
      fun c _ => .static (targetConstantLine_static c)⟩, ?_⟩
    simp only [List.forall_mem_cons]
    exact ⟨.blank, offsetStruct_roomless _ _, .blank, offsetStruct_roomless _ _, .blank,
      List.forall_mem_nil _⟩
  have asserts := ofLines_asserts (fileOf i.name) interfaceKind i.name i.dependencies roomless
    (targetFields i.layout) i.layout.byteSize
  rw [targetInterface_eq, ← targetLines, targetLines_eq, targetFront]
  simp only [blocks, List.flatten_append, ← List.flatMap_def, List.flatMap_singleton',
    List.flatten_cons, List.flatten_nil, List.append_assoc, List.cons_append, List.nil_append]
    at asserts ⊢
  exact asserts

end Header

/-! ## Interfaces -/

theorem Preset.standard_fields (types : TypeScope) :
    ∀ i ∈ (addAll standard .empty).1.interfaces,
      ∀ f ∈ i.layout.fields, types.find? f.type.declared = some f.type := by
  have all : ∀ p ∈ standard, ∃ i, p.interface = .ok i ∧
      ∀ f ∈ i.layout.fields, ValueType.builtin? f.type.declared = some f.type := by
    simp only [standard, List.forall_mem_cons]
    exact ⟨⟨_, rfl, by decide⟩, ⟨_, rfl, by decide⟩, by simp⟩
  intro i member f inside
  rcases addAll_interfaces standard .empty i member with none | ⟨p, listed, made⟩
  · cases none
  · obtain ⟨j, same, builtin⟩ := all p listed
    rw [made] at same
    cases same
    rw [TypeScope.find?, builtin f inside]

namespace Intake

/-- What is known of the structures and the interfaces once files are taken after the presets. -/
structure Typed (i : Intake) : Prop where
  types : i.types = TypeScope.empty.extend i.catalog.structures
  layered : SharedStructure.Layered .empty i.catalog.structures
  distinct : (i.catalog.structures.map (·.name)).Nodup
  fields : ∀ interface ∈ i.catalog.interfaces, ∀ f ∈ interface.layout.fields,
    i.types.find? f.type.declared = some f.type

theorem takeFiles_typed (tree : FileTree) (paths : List Path) (log : List LogLine) :
    (takeFiles tree (.start (Preset.addAll Preset.standard .empty).1 log) paths).Typed := by
  let presets : Intake := .start (Preset.addAll Preset.standard .empty).1 log
  have accounts := takeFiles_accounts tree presets paths
  have sound : (takeFiles tree presets paths).catalog.Sound :=
    ((Preset.addAll_reaches _ _).trans (takeFiles_reaches tree presets paths)).sound
      Catalog.empty_sound
  have structures : (takeFiles tree presets paths).catalog.structures =
      (fates tree presets paths).flatMap (·.2.structures) := by
    have bare : presets.catalog.structures = [] := Preset.standard_taken.structures
    rw [accounts.structures, bare, List.nil_append]
  refine ⟨?_, ?_, ?_, ?_⟩
  · rw [structures]
    exact congrArg TypeScope.mk accounts.types
  · rw [structures]
    exact fatesFrom_layered tree paths presets _
  · have own := sound.ownNames_apart.of_map Catalog.foldCase
    rw [Catalog.ownNames, List.nodup_append] at own
    exact own.1
  · rw [accounts.interfaces, List.forall_mem_append]
    refine ⟨Preset.standard_fields _, fun interface member => ?_⟩
    obtain ⟨⟨path, fate⟩, listed, inside⟩ := List.mem_flatMap.mp member
    have holds := fates_hold tree presets paths _ listed
    cases fate with
    | accepted _ interfaces _ =>
      obtain ⟨d, _, _, made, _⟩ := holds
      obtain ⟨source, _, success⟩ := mem_of_mapM_eq_ok made interface inside
      obtain ⟨_, collects⟩ := Interface.ofDescription_collects success
      exact collects.types
    | unread _ | unregistered _ | refused _ _ => cases inside

/-- Whatever description files are taken after the presets, the C++ header of a structure or an
interface asserts the size that C++ counts exactly where it has members, and so has every structure
embedded in it. -/
theorem asserted_sizes (tree : FileTree) (paths : List Path) (log : List LogLine)
    (size : String → Nat) :
    let i := takeFiles tree (.start (Preset.addAll Preset.standard .empty).1 log) paths
    TargetSizes i.catalog.structures size →
      (∀ s ∈ i.catalog.structures,
        (Header.targetStructure s i.types).Asserts s.name (Header.targetFields s.layout)
          s.byteSize ∧
        (s.byteSize = Header.structSize size (Header.targetFields s.layout) ↔
          s.layout.Solid i.catalog.structures)) ∧
      ∀ interface ∈ i.catalog.interfaces,
        (Header.targetInterface interface).Asserts interface.name
          (Header.targetFields interface.layout) interface.layout.byteSize ∧
        (interface.layout.byteSize =
            Header.structSize size (Header.targetFields interface.layout) ↔
          interface.layout.Solid i.catalog.structures) := by
  intro i given
  have typed : i.Typed := takeFiles_typed tree paths log
  have measured : ∀ name type, i.types.find? name = some type →
      Measures i.catalog.structures size type := by
    rw [typed.types]
    refine typed.layered.measures given typed.distinct (fun _ member => member) ?_
    exact builtins_measured given typed.layered.plain
  refine ⟨fun s member => ⟨Header.targetStructure_asserts s _, ?_⟩,
    fun interface member => ⟨Header.targetInterface_asserts interface, ?_⟩⟩
  · have embeds := typed.types ▸ typed.layered.embeds s member
    exact (Layout.measures fun f inside => measured _ _ (embeds f inside)).2
  · have fields := typed.fields interface member
    exact (Layout.measures fun f inside => measured _ _ (fields f inside)).2

private def markedSource : String :=
  "\x7b\"GlobalStructures\":[\x7b\"Name\":\"Light\",\"Constants\":[" ++
    "\x7b\"Type\":\"float3\",\"Name\":\"Direction\"\x7d]\x7d,\x7b\"Name\":\"Marker\"\x7d]\x7d"

private def light : SharedStructure := ⟨"Light", ⟨"Light", 0, [
  ⟨⟨"float3", "DirectX::XMFLOAT3", 12⟩, "Direction", false⟩,
  ⟨Layout.paddingType, "DummyPaddingVar0", true⟩]⟩⟩

private def marker : SharedStructure := ⟨"Marker", .blank "Marker" 0⟩

private def markedTree : FileTree := ⟨[(["a.json"], .file markedSource.toUTF8)], []⟩

private theorem marked_structures :
    (takeFiles markedTree (.start (Preset.addAll Preset.standard .empty).1 [])
      [⟨["", "a.json"]⟩]).catalog.structures = [light, marker] := by
  have opened : Description.ofFile markedTree ⟨["", "a.json"]⟩ =
      .ok ⟨none, [⟨"Light", [⟨"float3", "Direction"⟩]⟩, ⟨"Marker", []⟩], []⟩ := by
    have there : markedTree.entry? ["a.json"] = some (.file markedSource.toUTF8) := rfl
    rw [Description.ofFile_rooted ⟨rfl, by decide⟩ (by decide) (by decide) there]
    rfl
  rw [(takeFiles_accounts _ _ _).structures]
  simp only [fates, registered, fatesFrom, opened]
  rfl

private def markedSize (name : String) : Nat :=
  if name = "Light" then 16
  else if name = "Marker" then 1
  else ((ValueType.builtins.find? (·.target == name)).map (·.size)).getD 0

private theorem marked_sizes : TargetSizes [light, marker] markedSize := ⟨by decide, by decide⟩

theorem asserted_sizes_light :
    let i := takeFiles markedTree (.start (Preset.addAll Preset.standard .empty).1 [])
      [⟨["", "a.json"]⟩]
    TargetSizes i.catalog.structures markedSize ∧ light ∈ i.catalog.structures ∧
      (Header.targetStructure light i.types).Asserts "Light"
        [⟨"DirectX::XMFLOAT3", "Direction"⟩, ⟨"uint32_t", "DummyPaddingVar0"⟩] 16 ∧
      16 = Header.structSize markedSize (Header.targetFields light.layout) := by
  intro i
  have given : TargetSizes i.catalog.structures markedSize := marked_structures ▸ marked_sizes
  have member : light ∈ i.catalog.structures := marked_structures ▸ List.mem_cons_self
  have solid : light.layout.Solid i.catalog.structures := by
    have apart : ∀ f ∈ light.layout.fields, ∀ s ∈ [light, marker], s.name ≠ f.type.declared := by
      decide
    rw [show i.catalog.structures = [light, marker] from marked_structures]
    exact .intro (by decide) fun f inside s listed same => absurd same (apart f inside s listed)
  obtain ⟨asserts, right⟩ :=
    (asserted_sizes markedTree [⟨["", "a.json"]⟩] [] markedSize given).1 light member
  exact ⟨given, member, asserts, right.mpr solid⟩

/-- A struct without members has one byte, and its header asserts that it has none. -/
theorem marker_asserts_nothing :
    let i := takeFiles markedTree (.start (Preset.addAll Preset.standard .empty).1 [])
      [⟨["", "a.json"]⟩]
    TargetSizes i.catalog.structures markedSize ∧ marker ∈ i.catalog.structures ∧
      (Header.targetStructure marker i.types).Asserts "Marker" [] 0 ∧
      Header.structSize markedSize [] = 1 := by
  intro i
  have structures : i.catalog.structures = [light, marker] := marked_structures
  exact ⟨structures ▸ marked_sizes, structures ▸ List.mem_cons_of_mem _ List.mem_cons_self,
    Header.targetStructure_asserts marker i.types, rfl⟩

end Intake
end ShaderVariants
