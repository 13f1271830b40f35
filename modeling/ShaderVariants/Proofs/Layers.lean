import Mathlib.Logic.Relation
import ShaderVariants.Build.Output
import ShaderVariants.Proofs.Includes
import ShaderVariants.Proofs.Ledger
import ShaderVariants.Proofs.Outputs
import ShaderVariants.Proofs.Presets

/-!
Structures in layers. Every structure is registered after those that it embeds, whichever files
they come from and whichever files fail, and interfaces are made when all of them are registered.
So generated headers only include headers that are made with them, each once and never in a circle.
-/

namespace ShaderVariants

/-! ## Layers -/

def TypeScope.extend (types : TypeScope) (structures : List SharedStructure) : TypeScope :=
  ⟨types.structures ++ structures.map fun s => (s.name, s.byteSize)⟩

@[simp]
theorem TypeScope.extend_nil (types : TypeScope) : types.extend [] = types := by
  simp [extend]

theorem TypeScope.extend_append (types : TypeScope) (first second : List SharedStructure) :
    types.extend (first ++ second) = (types.extend first).extend second := by
  simp [extend]

theorem TypeScope.extend_isStructure (types : TypeScope) (structures : List SharedStructure)
    (name : String) : (types.extend structures).isStructure name = true ↔
      types.isStructure name = true ∨ name ∈ structures.map (·.name) := by
  simp only [isStructure_iff, extend, List.map_append, List.mem_append, List.map_map]
  rfl

theorem TypeScope.empty_extend_isStructure (structures : List SharedStructure) (name : String) :
    (empty.extend structures).isStructure name = true ↔ name ∈ structures.map (·.name) := by
  rw [extend_isStructure]
  exact or_iff_right nofun

namespace SharedStructure

def Embeds (s : SharedStructure) (types : TypeScope) : Prop :=
  ∀ f ∈ s.layout.fields, types.find? f.type.declared = some f.type

/-- Whether each structure has a name that is not built-in, and embeds only those before it. -/
def Layered : TypeScope → List SharedStructure → Prop
  | _, [] => True
  | types, s :: rest =>
      ValueType.builtin? s.name = none ∧ s.Embeds types ∧ Layered (types.extend [s]) rest

theorem layered_append (types : TypeScope) (first second : List SharedStructure) :
    Layered types (first ++ second) ↔ Layered types first ∧ Layered (types.extend first) second := by
  induction first generalizing types with
  | nil => simp [Layered]
  | cons s first ih =>
    rw [List.cons_append, Layered, Layered, ih, ← TypeScope.extend_append, List.singleton_append,
      and_assoc, and_assoc]

theorem Layered.proper {types : TypeScope} {structures : List SharedStructure}
    (layered : Layered types structures) (proper : types.Proper) :
    (types.extend structures).Proper := by
  induction structures generalizing types with
  | nil => rwa [TypeScope.extend_nil]
  | cons s rest ih =>
    obtain ⟨new, _, later⟩ := layered
    rw [← List.singleton_append, TypeScope.extend_append]
    apply ih later
    intro name found
    rcases (TypeScope.extend_isStructure _ _ _).mp found with before | here
    · exact proper name before
    · rwa [List.mem_singleton.mp here]

/-- What a structure depends on in the end was there before it. -/
theorem Layered.dependencies {types : TypeScope} {before after : List SharedStructure}
    {s : SharedStructure} (layered : Layered types (before ++ s :: after)) (proper : types.Proper)
    {name : String} (depends : name ∈ s.dependencies (types.extend (before ++ s :: after))) :
    (types.extend before).isStructure name = true := by
  obtain ⟨inside, found⟩ := (Layout.mem_structuresAmong _ _ _).mp depends
  obtain ⟨f, member, rfl⟩ := List.mem_map.mp inside
  have plain := layered.proper proper _ found
  obtain ⟨_, embeds, _⟩ := ((layered_append types before (s :: after)).mp layered).2
  have known := embeds f member
  rw [TypeScope.find?, plain] at known
  obtain ⟨size, there, _⟩ := Option.map_eq_some_iff.mp known
  rw [TypeScope.isStructure, there]
  rfl

/-! ## Registration -/

theorem ofDescription_embeds {types : TypeScope} {d : Description.Structure} {s : SharedStructure}
    (success : ofDescription types d = .ok s) : s.Embeds types := by
  simp only [ofDescription, bind_eq_ok] at success
  obtain ⟨layout, fields, padded, filled, made⟩ := success
  cases made
  have known := foldlM_keeps
    (P := fun l : Layout => ∀ f ∈ l.fields, types.find? f.type.declared = some f.type)
    (fun l v next added before => by
      obtain ⟨type, found, rfl⟩ := Layout.add_eq_ok added
      rw [List.forall_mem_append, List.forall_mem_singleton, TypeScope.find?_declared found]
      exact ⟨before, found⟩)
    _ _ _ fields (by simp [Layout.blank])
  rw [Layout.pad_eq_ok (Layout.padChecked_eq_ok filled), Embeds, List.forall_mem_append]
  refine ⟨known, fun f member => ?_⟩
  rw [Layout.paddingFields_type member]
  rfl

end SharedStructure

namespace Intake
open SharedStructure

theorem stage_layered {ds : List Description.Structure} {types later : TypeScope}
    {structures : List SharedStructure} (success : stage types ds = .ok (later, structures)) :
    Layered types structures ∧ later = types.extend structures := by
  refine ⟨?_, congrArg TypeScope.mk (stage_types ds types later structures success)⟩
  induction ds generalizing types structures with
  | nil =>
    cases success
    exact trivial
  | cons d ds ih =>
    simp only [stage, bind_eq_ok] at success
    obtain ⟨s, made, next, registered, ⟨last, rest⟩, staged, whole⟩ := success
    cases whole
    obtain ⟨new, _, rfl⟩ := TypeScope.register_eq_ok registered
    exact ⟨new, ofDescription_embeds made, ih staged⟩

/-- The structures that files leave are in layers, whatever becomes of the files. -/
theorem fatesFrom_layered (tree : FileTree) (paths : List Path) (turn later : Intake) :
    Layered turn.types ((fatesFrom tree turn later paths).flatMap (·.2.structures)) := by
  induction paths generalizing turn later with
  | nil => exact trivial
  | cons path paths ih =>
    obtain ⟨fate, turn', later', happens⟩ := turn_cases tree turn later path
    have rest := ih turn' later'
    rw [happens.fates, List.flatMap_cons, layered_append]
    cases happens with
    | unread _ | unregistered _ _ => exact ⟨trivial, by simpa [Fate.structures] using rest⟩
    | refused _ staged _ _ | accepted _ staged _ _ _ _ =>
      obtain ⟨here, rfl⟩ := stage_layered staged
      exact ⟨here, rest⟩

end Intake

/-! ## Interfaces -/

theorem mem_of_mapM_eq_ok {α β ε : Type} {f : α → Except ε β} {l : List α} {made : List β}
    (success : l.mapM f = .ok made) : ∀ b ∈ made, ∃ a ∈ l, f a = .ok b := by
  induction l generalizing made with
  | nil =>
    cases success
    simp
  | cons a l ih =>
    rw [List.mapM_cons] at success
    simp only [bind_eq_ok] at success
    obtain ⟨b, here, rest, later, whole⟩ := success
    cases whole
    rw [List.forall_mem_cons]
    refine ⟨⟨a, List.mem_cons_self, here⟩, fun other member => ?_⟩
    obtain ⟨source, inside, same⟩ := ih later other member
    exact ⟨source, List.mem_cons_of_mem _ inside, same⟩

namespace Preset

theorem add_interfaces (p : Preset) (c : Catalog) : ∀ i ∈ (p.add c).1.interfaces,
    i ∈ c.interfaces ∨ p.interface = .ok i := by
  intro i member
  unfold add offer at member
  cases made : p.interface with
  | error fault =>
    rw [made] at member
    exact Or.inl member
  | ok interface =>
    simp only [made] at member
    cases built : Shader.build p.name p.file p.plans with
    | error fault =>
      simp only [built] at member
      exact Or.inl member
    | ok shader =>
      simp only [built] at member
      rcases Catalog.answer_cases c (.description [interface] (some shader)) with
        ⟨_, accepted⟩ | ⟨_, fault, refused⟩
      · rw [Catalog.answer] at accepted
        simp only [accepted] at member
        rcases List.mem_append.mp member with before | new
        · exact Or.inl before
        · rw [List.mem_singleton.mp new]
          exact Or.inr rfl
      · rw [Catalog.answer] at refused
        simp only [refused] at member
        exact Or.inl member

theorem addAll_interfaces (presets : List Preset) (c : Catalog) :
    ∀ i ∈ (addAll presets c).1.interfaces,
      i ∈ c.interfaces ∨ ∃ p ∈ presets, p.interface = .ok i := by
  induction presets generalizing c with
  | nil => exact fun i member => Or.inl member
  | cons p ps ih =>
    intro i member
    rcases ih (p.add c).1 i member with here | ⟨other, inside, made⟩
    · rcases add_interfaces p c i here with before | own
      · exact Or.inl before
      · exact Or.inr ⟨p, List.mem_cons_self, own⟩
    · exact Or.inr ⟨other, List.mem_cons_of_mem _ inside, made⟩

theorem standard_tracks {types : TypeScope} (proper : types.Proper) :
    ∀ i ∈ (addAll standard .empty).1.interfaces, i.Tracks types := by
  have all : ∀ p ∈ standard, ∃ i, p.interface = .ok i ∧ i.dependencies = [] ∧
      (∀ b ∈ i.bindings, b.type ∈ ResourceType.all) ∧
      ∀ type ∈ i.boundTypes, (ValueType.builtin? type).isSome = true := by
    simp only [standard, List.forall_mem_cons]
    exact ⟨⟨_, rfl, rfl, by decide, by decide⟩, ⟨_, rfl, rfl, by decide, by decide⟩, by simp⟩
  intro i member
  rcases addAll_interfaces standard .empty i member with none | ⟨p, inside, made⟩
  · cases none
  · obtain ⟨j, same, bare, kinds, builtin⟩ := all p inside
    rw [made] at same
    cases same
    refine ⟨kinds, ?_⟩
    rw [bare, eq_comm, List.eq_nil_iff_forall_not_mem]
    intro name found
    obtain ⟨bound, known⟩ := (Layout.mem_structuresAmong _ _ _).mp found
    have clash := builtin name bound
    rw [proper name known] at clash
    cases clash

end Preset

/-! ## Includes -/

namespace Catalog

/-- The headers of structures and interfaces by their names, and what they include. -/
def inclusions (c : Catalog) (types : TypeScope) : List (String × List String) :=
  (c.structures.map fun s => (s.name, s.dependencies types)) ++
    c.interfaces.map fun i => (i.name, i.dependencies)

def Includes (c : Catalog) (types : TypeScope) (name other : String) : Prop :=
  ∃ e ∈ c.inclusions types, e.1 = name ∧ other ∈ e.2

/-- Whether the headers of structures and interfaces include the headers of all structures that they
embed or bind, and only headers of structures that are generated with them, each once and never in
a circle. -/
structure Grounded (c : Catalog) (types : TypeScope) : Prop where
  embeds : ∀ s ∈ c.structures, ∀ f ∈ s.layout.fields,
    types.isStructure f.type.declared = true → c.Includes types s.name f.type.declared
  binds : ∀ i ∈ c.interfaces, ∀ type ∈ i.boundTypes,
    types.isStructure type = true → c.Includes types i.name type
  generated : ∀ name other, c.Includes types name other → ∃ s ∈ c.structures, s.name = other ∧
    Header.targetStructure s types ∈ c.targetHeaders types ∧
    Header.declaredStructure s types ∈ c.declaredHeaders types
  once : ∀ e ∈ c.inclusions types, e.2.Nodup
  acyclic : ∀ name, ¬Relation.TransGen (c.Includes types) name name
  structures : ∀ s ∈ c.structures, (∀ t ∈ s.texts, OneLine t) →
    (Header.targetStructure s types).includeLines =
        (s.dependencies types).map Header.includeLine ∧
      (Header.declaredStructure s types).includeLines =
        (s.dependencies types).map Header.includeLine
  interfaces : ∀ i ∈ c.interfaces, (∀ t ∈ i.texts, OneLine t) →
    (Header.targetInterface i).includeLines = i.dependencies.map Header.includeLine ∧
      (Header.declaredInterface i).includeLines = i.dependencies.map Header.includeLine

/-- Where every step goes down, no way leads back. -/
theorem acyclic_of_rank {α : Type} {r : α → α → Prop} (rank : α → Nat)
    (down : ∀ a b, r a b → rank b < rank a) (a : α) : ¬Relation.TransGen r a a := by
  have below (b c : α) (way : Relation.TransGen r b c) : rank c < rank b := by
    induction way with
    | single step => exact down _ _ step
    | tail _ step ih => exact (down _ _ step).trans ih
  exact fun circle => (below a a circle).false

section
variable {c : Catalog} (sound : c.Sound) (layered : SharedStructure.Layered .empty c.structures)
  (tracks : ∀ i ∈ c.interfaces, i.Tracks (TypeScope.empty.extend c.structures))
include sound layered tracks

/-- The place of a structure goes down with every include; interfaces come after all structures. -/
theorem includes_down (name other : String)
    (includes : c.Includes (TypeScope.empty.extend c.structures) name other) :
    (c.structures.map (·.name)).idxOf other < (c.structures.map (·.name)).idxOf name := by
  have distinct := sound.ownNames_apart.of_map foldCase
  rw [ownNames, List.nodup_append] at distinct
  obtain ⟨names, _, apart⟩ := distinct
  obtain ⟨e, member, rfl, depends⟩ := includes
  rcases List.mem_append.mp member with structures | interfaces
  · obtain ⟨s, inside, rfl⟩ := List.mem_map.mp structures
    obtain ⟨before, after, shape⟩ := List.append_of_mem inside
    rw [shape] at layered depends names ⊢
    have listed : other ∈ before.map (·.name) := (TypeScope.empty_extend_isStructure _ _).mp
      (layered.dependencies TypeScope.empty_proper depends)
    have new : s.name ∉ before.map (·.name) := by
      rw [List.map_append, List.nodup_append] at names
      exact fun clash => names.2.2 _ clash _ List.mem_cons_self rfl
    rw [List.map_append, List.idxOf_append_of_mem listed, List.idxOf_append_of_notMem new]
    have place := List.idxOf_lt_length_of_mem listed
    omega
  · obtain ⟨i, inside, rfl⟩ := List.mem_map.mp interfaces
    have known := (((tracks i inside).mem_dependencies other).mp depends).2
    have listed := (TypeScope.empty_extend_isStructure _ _).mp known
    have new : i.name ∉ c.structures.map (·.name) := by
      intro clash
      exact apart _ clash _ (List.mem_map_of_mem inside) rfl
    rw [List.idxOf_eq_length new]
    exact List.idxOf_lt_length_of_mem listed

theorem Sound.grounded : c.Grounded (TypeScope.empty.extend c.structures) where
  embeds := by
    intro s member f inside known
    refine ⟨_, List.mem_append_left _ (List.mem_map_of_mem member), rfl, ?_⟩
    exact (Layout.mem_structuresAmong _ _ _).mpr ⟨List.mem_map.mpr ⟨f, inside, rfl⟩, known⟩
  binds := by
    intro i member type bound known
    refine ⟨_, List.mem_append_right _ (List.mem_map_of_mem member), rfl, ?_⟩
    exact ((tracks i member).mem_dependencies type).mpr ⟨bound, known⟩
  generated := by
    intro name other includes
    have place := includes_down sound layered tracks name other includes
    have listed : other ∈ c.structures.map (·.name) :=
      List.idxOf_lt_length_iff.mp (place.trans_le List.idxOf_le_length)
    obtain ⟨s, member, same⟩ := List.mem_map.mp listed
    have sorted : s ∈ c.sortedStructures := List.mem_mergeSort.mpr member
    exact ⟨s, member, same,
      List.mem_append_left _ (List.mem_append_left _ (List.mem_map_of_mem sorted)),
      List.mem_append_left _ (List.mem_map_of_mem sorted)⟩
  once := by
    intro e member
    rcases List.mem_append.mp member with structures | interfaces
    · obtain ⟨s, _, rfl⟩ := List.mem_map.mp structures
      exact Layout.structuresAmong_nodup _ _
    · obtain ⟨i, inside, rfl⟩ := List.mem_map.mp interfaces
      exact (tracks i inside).nodup
  acyclic := acyclic_of_rank _ (includes_down sound layered tracks)
  structures s _ plain :=
    ⟨(Header.targetStructure_directs s _ plain).includes,
      (Header.declaredStructure_directs s _ plain).includes⟩
  interfaces i member plain :=
    ⟨(Header.targetInterface_directs i plain).includes,
      (Header.declaredInterface_directs i plain (tracks i member).kinds).includes⟩

end
end Catalog

namespace Intake

/-- Whatever description files are taken after the presets, the generated headers include those of
all structures that they embed or bind, all of which are generated with them, each once and never
in a circle. -/
theorem includes_grounded (tree : FileTree) (paths : List Path) (log : List LogLine) :
    let i := takeFiles tree (.start (Preset.addAll Preset.standard .empty).1 log) paths
    i.catalog.Grounded i.types := by
  intro i
  let presets : Intake := .start (Preset.addAll Preset.standard .empty).1 log
  have accounts := takeFiles_accounts tree presets paths
  have sound : i.catalog.Sound :=
    ((Preset.addAll_reaches _ _).trans (takeFiles_reaches tree presets paths)).sound
      Catalog.empty_sound
  have structures : i.catalog.structures =
      (fates tree presets paths).flatMap (·.2.structures) := by
    have bare : presets.catalog.structures = [] := Preset.standard_taken.structures
    rw [accounts.structures, bare, List.nil_append]
  have types : i.types = TypeScope.empty.extend i.catalog.structures := by
    rw [structures]
    exact congrArg TypeScope.mk accounts.types
  have layered : SharedStructure.Layered .empty i.catalog.structures := by
    rw [structures]
    exact fatesFrom_layered tree paths presets _
  have proper : i.types.Proper := types ▸ layered.proper TypeScope.empty_proper
  have tracks : ∀ interface ∈ i.catalog.interfaces, interface.Tracks i.types := by
    rw [accounts.interfaces, List.forall_mem_append]
    refine ⟨Preset.standard_tracks proper, fun interface member => ?_⟩
    obtain ⟨⟨path, fate⟩, listed, inside⟩ := List.mem_flatMap.mp member
    have holds := fates_hold tree presets paths _ listed
    cases fate with
    | accepted _ interfaces _ =>
      obtain ⟨d, _, _, made, _⟩ := holds
      obtain ⟨source, _, success⟩ := mem_of_mapM_eq_ok made interface inside
      exact Interface.ofDescription_tracks proper success
    | unread _ | unregistered _ | refused _ _ => cases inside
  rw [types] at tracks ⊢
  exact sound.grounded layered tracks

end Intake
end ShaderVariants
