import ShaderVariants.Proofs.Includes
import ShaderVariants.Proofs.Orders
import ShaderVariants.Proofs.Outputs

/-!
The macros that keep headers for shader code from being included twice. A guard is the name of a
header in capitals, while a catalog compares names by their letters. So no two headers share a
guard exactly if no two names have the same words in upper case; names of ASCII letters and digits
alone never do, but an underscore can stand where another name goes on with a capital.
-/

namespace ShaderVariants

/-! ## Names of letters and digits -/

namespace Text

/-- Whether a name has no other characters than ASCII letters and digits. -/
def Plain (name : String) : Prop := name.toList.all Char.isAlphanum = true

private theorem ascii_of_isAlphanum {c : Char} (letter : c.isAlphanum = true) : c.toNat < 0x80 := by
  unfold Char.isAlphanum Char.isAlpha Char.isUpper Char.isLower Char.isDigit at letter
  simp only [Bool.or_eq_true, Bool.and_eq_true, decide_eq_true_eq, ge_iff_le,
    UInt32.le_iff_toNat_le] at letter
  have value : c.toNat = c.val.toNat := rfl
  have capital : 'Z'.val.toNat = 90 := rfl
  have small : 'z'.val.toNat = 122 := rfl
  have digit : '9'.val.toNat = 57 := rfl
  omega

private theorem toLower_toUpper {c : Char} (ascii : c.toNat < 0x80) :
    c.toUpper.toLower = c.toLower := by
  have all : ∀ n < 0x80, (Char.ofNat n).toUpper.toLower = (Char.ofNat n).toLower := by decide
  have this := all c.toNat ascii
  rwa [Char.ofNat_toNat] at this

theorem Plain.letters {name : String} (plain : Plain name) :
    (upperWords name).flatten.map Char.toLower = name.toList.map Char.toLower := by
  have letter := List.all_eq_true.mp plain
  have alphanumeric : ∀ c ∈ name.toList, isAlphanumeric c = true := by
    intro c member
    rw [isAlphanumeric, if_pos (ascii_of_isAlphanum (letter c member))]
    exact letter c member
  have whole : (upperWords name).flatten = name.toList.flatMap upperChar := by
    calc
      (upperWords name).flatten = (words name).flatMap upper := List.flatMap_def.symm
      _ = ((words name).flatMap id).flatMap upperChar := List.flatMap_assoc.symm
      _ = name.toList.flatMap upperChar := by rw [List.flatMap_id, words_flatten alphanumeric]
  have each : ∀ c ∈ name.toList, (upperChar c).map Char.toLower = [c.toLower] := by
    intro c member
    have ascii := ascii_of_isAlphanum (letter c member)
    rw [upperChar, if_pos ascii, List.map_singleton, toLower_toUpper ascii]
  rw [whole, List.map_flatMap, List.flatMap_congr each, List.map_eq_flatMap]

end Text

/-! ## Guards -/

theorem Header.guard_eq_iff (a b : String) :
    guard a = guard b ↔ Text.upperWords a = Text.upperWords b := by
  have parts (name : String) : guard name = Text.capitals name ++ "_HLSL_H" := rfl
  rw [parts, parts, String.append_left_inj, Text.capitals_eq_iff]

namespace Catalog

def GuardsApart (c : Catalog) : Prop := (c.ownNames.map Header.guard).Nodup

theorem guardsApart_iff (c : Catalog) :
    c.GuardsApart ↔ (c.ownNames.map Text.upperWords).Nodup := by
  rw [GuardsApart, List.Nodup, List.Nodup, List.pairwise_map, List.pairwise_map]
  simp only [ne_eq, Header.guard_eq_iff]

theorem Sound.guardsApart {c : Catalog} (sound : c.Sound)
    (plain : ∀ name ∈ c.ownNames, Text.Plain name) : c.GuardsApart := by
  have folded := sound.ownNames_apart
  rw [guardsApart_iff, List.Nodup, List.pairwise_map]
  rw [List.Nodup, List.pairwise_map] at folded
  refine folded.imp_of_mem fun {a b} first second apart same => apart ?_
  rw [foldCase, foldCase, ← (plain a first).letters, ← (plain b second).letters, same]

/-- Whether no text of a structure or an interface breaks a line, and all resources are of known
types. -/
structure OneLined (c : Catalog) : Prop where
  structures : ∀ s ∈ c.structures, ∀ t ∈ s.texts, OneLine t
  interfaces : ∀ i ∈ c.interfaces, ∀ t ∈ i.texts, OneLine t
  kinds : ∀ i ∈ c.interfaces, ∀ b ∈ i.bindings, b.type ∈ ResourceType.all

/-- The guard of a header is what it asks for and sets. -/
theorem OneLined.guards {c : Catalog} (plain : c.OneLined) (types : TypeScope) :
    ∀ h ∈ c.declaredHeaders types, ∃ name ∈ c.ownNames, h.file = Header.fileOf name ∧
      Header.linesWith "#ifndef " h.lines = ["#ifndef " ++ Header.guard name] ∧
      Header.linesWith "#define " h.lines = ["#define " ++ Header.guard name] := by
  intro h member
  simp only [declaredHeaders, sortedStructures, sortedInterfaces, List.mem_append, List.mem_map,
    List.mem_mergeSort] at member
  rcases member with ⟨s, inside, rfl⟩ | ⟨i, inside, rfl⟩
  · have directs := Header.declaredStructure_directs s types (plain.structures s inside)
    exact ⟨s.name, List.mem_append_left _ (List.mem_map_of_mem inside), rfl, directs.asks,
      directs.sets⟩
  · have directs := Header.declaredInterface_directs i (plain.interfaces i inside)
      (plain.kinds i inside)
    exact ⟨i.name, List.mem_append_right _ (List.mem_map_of_mem inside), rfl, directs.asks,
      directs.sets⟩

/-- After any requests no two headers have the same guard exactly if no two names have the same
words in upper case, and always if the names have ASCII letters and digits only. The guard of a
header is what it asks for and sets. -/
theorem guards_apart_iff_words_apart (requests : List Request) :
    let c := empty.serve requests
    (c.GuardsApart ↔ (c.ownNames.map Text.upperWords).Nodup) ∧
      ((∀ name ∈ c.ownNames, Text.Plain name) → c.GuardsApart) ∧
      (c.OneLined → ∀ types, ∀ h ∈ c.declaredHeaders types,
        ∃ name ∈ c.ownNames, h.file = Header.fileOf name ∧
          Header.linesWith "#ifndef " h.lines = ["#ifndef " ++ Header.guard name] ∧
          Header.linesWith "#define " h.lines = ["#define " ++ Header.guard name]) :=
  ⟨guardsApart_iff _, (serve_sound requests empty empty_sound).guardsApart, OneLined.guards⟩

/-- An underscore where another name goes on with a capital leaves the guard the same. -/
theorem underscore_shares_guard :
    let requests : List Request := [.sharedStructure ⟨"PointLight", .blank "PointLight" 0⟩,
      .sharedStructure ⟨"Point_Light", .blank "Point_Light" 0⟩]
    empty.Accepts requests ∧ (empty.serve requests).ownNames = ["PointLight", "Point_Light"] ∧
      Header.guard "PointLight" = "POINT_LIGHT_HLSL_H" ∧
      Header.guard "Point_Light" = "POINT_LIGHT_HLSL_H" ∧
      ¬(empty.serve requests).GuardsApart := by
  intro requests
  have first : Header.guard "PointLight" = "POINT_LIGHT_HLSL_H" := by decide +kernel
  have second : Header.guard "Point_Light" = "POINT_LIGHT_HLSL_H" := by decide +kernel
  have names : (empty.serve requests).ownNames = ["PointLight", "Point_Light"] := by rfl
  refine ⟨⟨rfl, rfl, trivial⟩, names, first, second, fun apart => ?_⟩
  rw [GuardsApart, names, List.map_cons, List.map_cons, first, second] at apart
  simp at apart

theorem guards_apart_of_plain_names :
    let requests : List Request := [.sharedStructure ⟨"PointLight", .blank "PointLight" 0⟩,
      .sharedStructure ⟨"pointLIGHT", .blank "pointLIGHT" 0⟩, .interface (.blank "Light2" 0)]
    (empty.serve requests).ownNames = ["PointLight", "Light2"] ∧
      (empty.serve requests).GuardsApart := by
  intro requests
  have names : (empty.serve requests).ownNames = ["PointLight", "Light2"] := by rfl
  refine ⟨names, (guards_apart_iff_words_apart requests).2.1 ?_⟩
  rw [names, List.forall_mem_cons, List.forall_mem_singleton]
  exact ⟨rfl, rfl⟩

end Catalog
end ShaderVariants
