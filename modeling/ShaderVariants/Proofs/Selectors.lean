import ShaderVariants.Proofs.Mirrors
import ShaderVariants.Proofs.Snapshots

/-!
The names of the structs that select a variant in C++. Each is the name of a shader and that of a
stage, with nothing in between. No name of a stage ends in that of another, so both can be told
from the struct, and the header of all selectors has each of its structs once.
-/

namespace ShaderVariants

/-! ## Shader and stage -/

theorem Stage.name_suffix {s t : Stage} (ends : s.name.toList <:+ t.name.toList) : s = t := by
  revert ends
  cases s <;> cases t <;> decide

/-- The stage can be told from what stands in front of it. -/
theorem Stage.append_name_iff {front other : String} {s t : Stage} :
    front ++ s.name = other ++ t.name ↔ front = other ∧ s = t := by
  constructor
  · intro same
    have chars := congrArg String.toList same
    rw [String.toList_append, String.toList_append] at chars
    have ends : s.name.toList <:+ other.toList ++ t.name.toList := chars ▸ List.suffix_append _ _
    have stage : s = t := by
      rcases List.suffix_or_suffix_of_suffix ends (List.suffix_append _ _) with one | two
      · exact Stage.name_suffix one
      · exact (Stage.name_suffix two).symm
    subst stage
    exact ⟨(String.append_left_inj s.name).mp same, rfl⟩
  · rintro ⟨rfl, rfl⟩
    rfl

theorem KeyFields.structName_eq (k : KeyFields) :
    k.structName = k.shader ++ k.stage.name ++ "PermutationKey" := rfl

theorem KeyFields.structName_iff {j k : KeyFields} :
    j.structName = k.structName ↔ j.rank = k.rank := by
  rw [structName_eq, structName_eq, String.append_left_inj, Stage.append_name_iff, rank, rank,
    toLex_inj, Prod.mk.injEq, Stage.index_injective.eq_iff]

/-! ## The header of all selectors -/

namespace Header

theorem linesWith_eq_nil {start : String} {lines : List String}
    (apart : ∀ line ∈ lines, ¬Begins start line) : linesWith start lines = [] := by
  rw [linesWith, List.filter_eq_nil_iff]
  intro line member begins
  exact apart line member (List.isPrefixOf_iff_prefix.mp begins)

theorem linesWith_flatMap {α : Type} (start : String) (lines : α → List String) (l : List α) :
    linesWith start (l.flatMap lines) = l.flatMap fun a => linesWith start (lines a) :=
  List.filter_flatMap

theorem indented_apart {line : String} (indented : Begins "    " line) : ¬Begins "struct " line :=
  indented.not_begins (by decide) (by decide)

theorem keyFieldLine_begins (field : String) : Begins "    " (keyFieldLine field) := by
  unfold keyFieldLine
  rw [String.append_assoc]
  exact Begins.append (by decide) _

theorem keyStruct_structs (k : KeyFields) :
    linesWith "struct " (keyStruct k) = ["struct " ++ k.structName] := by
  have front : linesWith "struct " ["struct " ++ k.structName] = ["struct " ++ k.structName] :=
    linesWith_same "struct " id [k.structName]
  have idLine : ¬Begins "struct "
      s!"    static constexpr uint32_t ShaderId = {KeyFields.idText k.shaderId};" := by
    apply indented_apart
    rw [String.append_assoc]
    exact Begins.append (by decide) _
  have stageLine : ¬Begins "struct "
      s!"    static constexpr ShaderStage Stage = ShaderStage::{k.stage.name};" := by
    apply indented_apart
    rw [String.append_assoc]
    exact Begins.append (by decide) _
  have heading : s!"struct {k.structName}" = "struct " ++ k.structName := rfl
  rw [keyStruct, heading, List.append_assoc, ← List.singleton_append, List.append_assoc,
    linesWith_append, front, linesWith_eq_nil, List.append_nil]
  simp +decide only [List.forall_mem_append, List.forall_mem_cons, List.forall_mem_map, idLine,
    stageLine, not_false_eq_true, true_and, and_true]
  exact fun field _ => indented_apart (keyFieldLine_begins field)

def keyLines (ks : List KeyFields) : List String :=
  banner ++ ["", "#pragma once", "", "#include <cstdint>", "", "enum class ShaderStage : uint32_t",
    openBrace] ++ Stage.all.map stageLine ++ [closeBrace] ++
  ks.flatMap (fun k => "" :: keyStruct k) ++ [""]

theorem keys_content (ks : List KeyFields) :
    (keys ks).content = String.intercalate "\n" (keyLines ks) := by
  rw [keys, keyLines, ofLines]

/-- One struct is defined for each selector, in their order. -/
theorem keyLines_structs (ks : List KeyFields) :
    linesWith "struct " (keyLines ks) = ks.map fun k => "struct " ++ k.structName := by
  have front : linesWith "struct " (banner ++ ["", "#pragma once", "", "#include <cstdint>", "",
      "enum class ShaderStage : uint32_t", openBrace] ++ Stage.all.map stageLine ++
      [closeBrace]) = [] := by decide
  have each (k : KeyFields) :
      linesWith "struct " ("" :: keyStruct k) = ["struct " ++ k.structName] :=
    keyStruct_structs k
  have blank : linesWith "struct " [""] = [] := by decide
  rw [keyLines, linesWith_append, linesWith_append, front, blank, List.append_nil, List.nil_append,
    linesWith_flatMap, List.map_eq_flatMap]
  simp only [each]

end Header

/-! ## Catalogs -/

namespace Catalog

theorem Sound.structNames_nodup {c : Catalog} (sound : c.Sound) (built : ∀ s ∈ c.shaders, s.Built) :
    (c.keyFields.map (·.structName)).Nodup := by
  rw [List.Nodup, List.pairwise_map]
  exact (sound.keyFields_ascending built).imp fun below same =>
    below.ne (KeyFields.structName_iff.mp same)

/-- After any requests no two selectors have the same struct, and their header defines one struct
for each of them and none twice. -/
theorem structs_defined_once (requests : List Request)
    (genuine : ∀ r ∈ requests, ∀ s, r.shader? = some s → s.Genuine) :
    let c := empty.serve requests
    (c.keyFields.map (·.structName)).Nodup ∧
      (∃ lines, (Header.keys c.keyFields).content = String.intercalate "\n" lines ∧
        Header.linesWith "struct " lines = c.keyFields.map (fun k => "struct " ++ k.structName) ∧
        (Header.linesWith "struct " lines).Nodup) ∧
      ∀ (a b : String) (s t : Stage),
        a ++ s.name ++ "PermutationKey" = b ++ t.name ++ "PermutationKey" → a = b ∧ s = t := by
  intro c
  have sound : c.Sound := serve_sound requests empty empty_sound
  have distinct := sound.structNames_nodup (serve_built requests genuine)
  have structs := Header.keyLines_structs c.keyFields
  have defined := distinct.map fun _ _ same => (String.append_right_inj "struct ").mp same
  rw [List.map_map] at defined
  refine ⟨distinct, ⟨_, Header.keys_content c.keyFields, structs, structs ▸ defined⟩, ?_⟩
  intro a b s t same
  exact Stage.append_name_iff.mp ((String.append_left_inj "PermutationKey").mp same)

/-- Names that run into those of stages, in a catalog that refuses one shader. -/
theorem structs_defined_once_alike :
    let plan : StagePlan := .plain .vertex "VSMain"
    let sky : Shader := ⟨"Sky", "Sky.hlsl", Digest.shortId "Sky",
      [Shader.stageOf "Sky" plan, Shader.stageOf "Sky" (.plain .pixel "PSMain")]⟩
    let other : Shader := ⟨"SkyVertex", "Sky.hlsl", Digest.shortId "SkyVertex",
      [Shader.stageOf "SkyVertex" plan]⟩
    let requests : List Request := [.shader sky, .shader other, .shader sky]
    let c := empty.serve requests
    (∀ r ∈ requests, ∀ s, r.shader? = some s → s.Genuine) ∧
      c.selectors.map (·.structName) = ["SkyVertexPermutationKey", "SkyPixelPermutationKey",
        "SkyVertexVertexPermutationKey"] ∧
      (c.keyFields.map (·.structName)).Nodup := by
  intro plan sky other requests c
  have genuine : ∀ r ∈ requests, ∀ s, r.shader? = some s → s.Genuine := by
    intro r member s offered
    have known : s = sky ∨ s = other := by
      simp only [requests, List.mem_cons, List.not_mem_nil, or_false] at member
      rcases member with rfl | rfl | rfl <;> cases offered <;> simp
    rcases known with rfl | rfl
    · exact Or.inl ⟨"Sky", "Sky.hlsl", [plan, .plain .pixel "PSMain"], rfl⟩
    · exact Or.inl ⟨"SkyVertex", "Sky.hlsl", [plan], rfl⟩
  exact ⟨genuine, by rfl, (structs_defined_once requests genuine).1⟩

end Catalog
end ShaderVariants
