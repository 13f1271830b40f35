import ShaderVariants.Proofs.Records
import ShaderVariants.Proofs.Sources
import ShaderVariants.Proofs.Writable

/-!
The texts that write a description, and that every one of them is read as the description it
writes. The tables of slots say how each record stands in its object; they are kept apart from the
forms that the reader goes by, and every form is shown to serve its table.
-/

namespace ShaderVariants.Description
open Json

/-! ## What is written -/

def variableSlots : List (Slot Variable) := [
  .always "Type" Variable.type Writing.string,
  .always "Name" Variable.name Writing.string]

def structureSlots : List (Slot Structure) := [
  .always "Name" Structure.name Writing.string,
  .omittable "Constants" Structure.members [] (Writing.object variableSlots).list]

def bufferSlots : List (Slot Buffer) := [
  .always "Register" Buffer.register Writing.word32,
  .omittable "Constants" Buffer.members [] (Writing.object variableSlots).list]

def resourceSlots : List (Slot Resource) := [
  .always "Type" Resource.type Writing.string,
  .omittable "UAVStructureType" Resource.elementType none Writing.string.orNull,
  .always "Register" Resource.register Writing.word32,
  .always "Name" Resource.name Writing.string]

def constantSlotsWith (w : Writing Value) : List (Slot Constant) := [
  .always "Type" Constant.type Writing.string,
  .always "Name" Constant.name Writing.string,
  .always "Value" Constant.value w]

def interfaceSlotsWith (w : Writing Value) : List (Slot Interface) := [
  .always "Name" Interface.name Writing.string,
  .always "ConstantBuffer" Interface.buffer (Writing.object bufferSlots),
  .omittable "Resources" Interface.resources [] (Writing.object resourceSlots).list,
  .omittable "Consts" Interface.constants [] (Writing.object (constantSlotsWith w)).list]

abbrev constantSlots : List (Slot Constant) := constantSlotsWith Writing.Literal

abbrev interfaceSlots : List (Slot Interface) := interfaceSlotsWith Writing.Literal

def ruleSlots : List (Slot Rule) := [
  .always "Rule" Rule.kind (Writing.named RuleKind.name),
  .always "AffectedBits" Rule.bits Writing.word32.list]

def definesSlots : List (Slot Defines) := [
  .omittable "Permutations" Defines.names [] Writing.string.list,
  .omittable "Rules" Defines.rules [] (Writing.object ruleSlots).list]

def entryPointKey : Stage → String
  | .vertex => "VertexEntryPoint"
  | .hull => "HullEntryPoint"
  | .domain => "DomainEntryPoint"
  | .geometry => "GeometryEntryPoint"
  | .pixel => "PixelEntryPoint"
  | .compute => "ComputeEntryPoint"

def entryPointSlot (stage : Stage) : Slot Shader :=
  .omittable (entryPointKey stage) (·.entryPoints.get stage) none Writing.string.orNull

def shaderSlots : List (Slot Shader) := [
  .always "ShaderName" Shader.name Writing.string,
  .always "FileName" Shader.file Writing.string] ++
  Stage.all.map entryPointSlot ++ [
  .omittable "ShaderPermutations" Shader.defines [] (Writing.object definesSlots).map]

def slotsWith (w : Writing Value) : List (Slot Description) := [
  .omittable "Shader" Description.shader none (Writing.object shaderSlots).orNull,
  .omittable "GlobalStructures" Description.structures [] (Writing.object structureSlots).list,
  .omittable "ShaderInputs" Description.interfaces []
    (Writing.object (interfaceSlotsWith w)).list]

abbrev slots : List (Slot Description) := slotsWith Writing.Literal

def Written (d : Description) (document : String) : Prop :=
  (Writing.object slots).document d document.toList

/-! ## What can be written -/

/-- Strings, booleans and integers of the 64-bit ranges. -/
def IsLiteral : Value → Prop
  | .string _ | .boolean _ => True
  | .number (.integer i) => Fits64 i
  | _ => False

/-- The descriptions that authors can write: registers and bits are numbers of 32 bits, and the
defines are in the order of their stages' names. -/
structure Plain (d : Description) : Prop where
  stages : ∀ s ∈ d.shader, s.defines.Pairwise (·.1 < ·.1)
  bits : ∀ s ∈ d.shader, ∀ m ∈ s.defines, ∀ rule ∈ m.2.rules, ∀ bit ∈ rule.bits, bit ≤ 0xFFFFFFFF
  buffers : ∀ i ∈ d.interfaces, i.buffer.register ≤ 0xFFFFFFFF
  resources : ∀ i ∈ d.interfaces, ∀ r ∈ i.resources, r.register ≤ 0xFFFFFFFF
  constants : ∀ i ∈ d.interfaces, ∀ c ∈ i.constants, IsLiteral c.value

theorem word32_writes (small : n ≤ 0xFFFFFFFF) : Writing.word32.Writes n := ⟨_, small, rfl⟩

theorem literal_writes {v : Value} (literal : IsLiteral v) :
    Writing.Writes Writing.Literal v := by
  match v with
  | .string s =>
      obtain ⟨t, written⟩ := string_writes s
      exact ⟨t, .string written⟩
  | .boolean _ => exact ⟨_, .boolean⟩
  | .number (.integer _) => exact ⟨_, .integer literal⟩

theorem variables_write (vs : List Variable) : (Writing.object variableSlots).list.Writes vs :=
  .list fun v _ => object_writes (by decide) (by simp [variableSlots, string_writes])

theorem structure_writes (s : Structure) : (Writing.object structureSlots).Writes s :=
  object_writes (by decide) (by simp [structureSlots, string_writes, variables_write])

theorem buffer_writes {b : Buffer} (register : b.register ≤ 0xFFFFFFFF) :
    (Writing.object bufferSlots).Writes b :=
  object_writes (by decide) (by simp [bufferSlots, word32_writes register, variables_write])

theorem textOrNull_writes (s : Option String) : Writing.string.orNull.Writes s :=
  .orNull fun x _ => string_writes x

theorem resource_writes {r : Resource} (register : r.register ≤ 0xFFFFFFFF) :
    (Writing.object resourceSlots).Writes r :=
  object_writes (by decide)
    (by simp [resourceSlots, string_writes, textOrNull_writes, word32_writes register])

theorem constant_writes {c : Constant} (literal : IsLiteral c.value) :
    (Writing.object constantSlots).Writes c :=
  object_writes (by decide) (by simp [constantSlotsWith, string_writes, literal_writes literal])

theorem interface_writes {i : Interface} (buffer : i.buffer.register ≤ 0xFFFFFFFF)
    (resources : ∀ r ∈ i.resources, r.register ≤ 0xFFFFFFFF)
    (constants : ∀ c ∈ i.constants, IsLiteral c.value) :
    (Writing.object interfaceSlots).Writes i := by
  have listed : (Writing.object resourceSlots).list.Writes i.resources :=
    .list fun r inside => resource_writes (resources r inside)
  have held : (Writing.object constantSlots).list.Writes i.constants :=
    .list fun c inside => constant_writes (constants c inside)
  exact object_writes (by decide)
    (by simp [interfaceSlotsWith, string_writes, buffer_writes buffer, listed, held])

theorem rule_writes {r : Rule} (bits : ∀ bit ∈ r.bits, bit ≤ 0xFFFFFFFF) :
    (Writing.object ruleSlots).Writes r := by
  have listed : Writing.word32.list.Writes r.bits :=
    .list fun b inside => word32_writes (bits b inside)
  have named : (Writing.named RuleKind.name).Writes r.kind := string_writes r.kind.name
  exact object_writes (by decide) (by simp [ruleSlots, named, listed])

theorem defines_writes {d : Defines}
    (bits : ∀ rule ∈ d.rules, ∀ bit ∈ rule.bits, bit ≤ 0xFFFFFFFF) :
    (Writing.object definesSlots).Writes d := by
  have names : Writing.string.list.Writes d.names := .list fun s _ => string_writes s
  have rules : (Writing.object ruleSlots).list.Writes d.rules :=
    .list fun r inside => rule_writes (bits r inside)
  exact object_writes (by decide) (by simp [definesSlots, names, rules])

theorem shader_writes {s : Shader} (ascending : s.defines.Pairwise (·.1 < ·.1))
    (bits : ∀ m ∈ s.defines, ∀ rule ∈ m.2.rules, ∀ bit ∈ rule.bits, bit ≤ 0xFFFFFFFF) :
    (Writing.object shaderSlots).Writes s := by
  have defines : (Writing.object definesSlots).map.Writes s.defines :=
    .map ascending fun m inside => defines_writes (bits m inside)
  exact object_writes (by decide)
    (by simp [shaderSlots, entryPointSlot, Stage.all, string_writes, textOrNull_writes, defines])

theorem exists_written {d : Description} (plain : d.Plain) : ∃ document, Written d document := by
  have shader : (Writing.object shaderSlots).orNull.Writes d.shader :=
    .orNull fun s there => shader_writes (plain.stages s there) (plain.bits s there)
  have structures : (Writing.object structureSlots).list.Writes d.structures :=
    .list fun s _ => structure_writes s
  have interfaces : (Writing.object interfaceSlots).list.Writes d.interfaces :=
    .list fun i inside => interface_writes (plain.buffers i inside) (plain.resources i inside)
      (plain.constants i inside)
  obtain ⟨t, written⟩ : (Writing.object slots).Writes d :=
    object_writes (by decide) (by simp [slotsWith, shader, structures, interfaces])
  refine ⟨String.ofList t, document_bare ?_⟩
  rwa [String.toList_ofList]

/-! ## What is read -/

theorem variable_serving : Serving 1 variableForm variableSlots where
  fields :=
    .cons (serves_required undoes_text (by decide) (fun _ _ => rfl) (by simp [variableSlots])) <|
    .cons (serves_required undoes_text (by decide) (fun _ _ => rfl) (by simp [variableSlots])) .nil
  distinct := by decide
  blank := by simp [variableSlots]
  ext := by
    rintro ⟨⟩ ⟨⟩ same
    simpa [variableSlots] using same

theorem undoes_variables :
    Undoes 3 (list (record variableForm)) (Writing.object variableSlots).list :=
  variable_serving.undoes.list

theorem structure_serving : Serving 3 structureForm structureSlots where
  fields :=
    .cons (serves_required undoes_text (by decide) (fun _ _ => rfl) (by simp [structureSlots])) <|
    .cons (serves_optional undoes_variables (by decide) (fun _ _ => rfl) (by simp [structureSlots])
      _) .nil
  distinct := by decide
  blank := by simp [structureSlots, structureForm]
  ext := by
    rintro ⟨⟩ ⟨⟩ same
    simpa [structureSlots] using same

theorem buffer_serving : Serving 3 bufferForm bufferSlots where
  fields :=
    .cons (serves_required undoes_word32 (by decide) (fun _ _ => rfl) (by simp [bufferSlots])) <|
    .cons (serves_optional undoes_variables (by decide) (fun _ _ => rfl) (by simp [bufferSlots])
      _) .nil
  distinct := by decide
  blank := by simp [bufferSlots, bufferForm]
  ext := by
    rintro ⟨⟩ ⟨⟩ same
    simpa [bufferSlots] using same

theorem undoes_textOrNull : Undoes 1 (nullable text) Writing.string.orNull :=
  undoes_text.orNull string_noNull

theorem resource_serving : Serving 1 resourceForm resourceSlots where
  fields :=
    .cons (serves_required undoes_text (by decide) (fun _ _ => rfl) (by simp [resourceSlots])) <|
    .cons (serves_optional undoes_textOrNull (by decide) (fun _ _ => rfl) (by simp [resourceSlots])
      _) <|
    .cons (serves_required undoes_word32 (by decide) (fun _ _ => rfl) (by simp [resourceSlots])) <|
    .cons (serves_required undoes_text (by decide) (fun _ _ => rfl) (by simp [resourceSlots])) .nil
  distinct := by decide
  blank := by simp [resourceSlots, resourceForm]
  ext := by
    rintro ⟨⟩ ⟨⟩ same
    simpa [resourceSlots] using same

theorem constant_serving_with (u : Undoes 1 anyValue w) :
    Serving 1 constantForm (constantSlotsWith w) where
  fields :=
    .cons (serves_required undoes_text (by decide) (fun _ _ => rfl)
      (by simp [constantSlotsWith])) <|
    .cons (serves_required undoes_text (by decide) (fun _ _ => rfl)
      (by simp [constantSlotsWith])) <|
    .cons (serves_required u (by decide) (fun _ _ => rfl) (by simp [constantSlotsWith])) .nil
  distinct := by simp [constantSlotsWith]
  blank := by simp [constantSlotsWith]
  ext := by
    rintro ⟨⟩ ⟨⟩ same
    simpa [constantSlotsWith] using same

theorem interface_serving_with (u : Undoes 1 anyValue w) :
    Serving 4 interfaceForm (interfaceSlotsWith w) where
  fields :=
    .cons (serves_required undoes_text (by decide) (fun _ _ => rfl)
      (by simp [interfaceSlotsWith])) <|
    .cons (serves_required buffer_serving.undoes (by decide) (fun _ _ => rfl)
      (by simp [interfaceSlotsWith])) <|
    .cons (serves_optional resource_serving.undoes.list (by decide) (fun _ _ => rfl)
      (by simp [interfaceSlotsWith]) _) <|
    .cons (serves_optional (constant_serving_with u).undoes.list (by decide) (fun _ _ => rfl)
      (by simp [interfaceSlotsWith]) _) .nil
  distinct := by simp [interfaceSlotsWith]
  blank := by simp [interfaceSlotsWith, interfaceForm]
  ext := by
    rintro ⟨⟩ ⟨⟩ same
    simpa [interfaceSlotsWith] using same

theorem named_lookup (kind : RuleKind) : RuleKind.named.lookup kind.name = some kind := by
  cases kind <;> rfl

theorem rule_serving : Serving 2 ruleForm ruleSlots where
  fields :=
    .cons (serves_required (undoes_choice named_lookup) (by decide) (fun _ _ => rfl)
      (by simp [ruleSlots])) <|
    .cons (serves_required undoes_word32.list (by decide) (fun _ _ => rfl) (by simp [ruleSlots]))
      .nil
  distinct := by decide
  blank := by simp [ruleSlots]
  ext := by
    rintro ⟨⟩ ⟨⟩ same
    simpa [ruleSlots] using same

theorem defines_serving : Serving 4 definesForm definesSlots where
  fields :=
    .cons (serves_optional undoes_text.list (by decide) (fun _ _ => rfl) (by simp [definesSlots])
      _) <|
    .cons (serves_optional rule_serving.undoes.list (by decide) (fun _ _ => rfl)
      (by simp [definesSlots]) _) .nil
  distinct := by decide
  blank := by simp [definesSlots, definesForm]
  ext := by
    rintro ⟨⟩ ⟨⟩ same
    simpa [definesSlots] using same

theorem entryPoint_serves (stage : Stage) :
    Serves 6 shaderSlots (entryPointField stage) (entryPointSlot stage) := by
  have key : s!"{stage.name}EntryPoint" = entryPointKey stage := by cases stage <;> rfl
  unfold entryPointField entryPointSlot
  rw [key]
  refine serves_optional undoes_textOrNull (by decide) ?_ ?_ none
  · cases stage <;> exact fun _ _ => rfl
  · cases stage <;>
      simp [shaderSlots, entryPointSlot, entryPointKey, Stage.all, PerStage.get, PerStage.set]

theorem shader_serving : Serving 6 shaderForm shaderSlots where
  fields :=
    .cons (serves_required undoes_text (by decide) (fun _ _ => rfl)
      (by simp [shaderSlots, entryPointSlot, Stage.all])) <|
    .cons (serves_required undoes_text (by decide) (fun _ _ => rfl)
      (by simp [shaderSlots, entryPointSlot, Stage.all])) <|
    .cons (entryPoint_serves .vertex) <|
    .cons (entryPoint_serves .hull) <|
    .cons (entryPoint_serves .domain) <|
    .cons (entryPoint_serves .geometry) <|
    .cons (entryPoint_serves .pixel) <|
    .cons (entryPoint_serves .compute) <|
    .cons (serves_optional defines_serving.undoes.map (by decide) (fun _ _ => rfl)
      (by simp [shaderSlots, entryPointSlot, Stage.all]) _) .nil
  distinct := by decide
  blank := by simp [shaderSlots, entryPointSlot, shaderForm, PerStage.all, Stage.all, PerStage.get]
  ext := by
    rintro ⟨_, _, ⟨⟩, _⟩ ⟨_, _, ⟨⟩, _⟩ same
    simpa [shaderSlots, entryPointSlot, and_assoc, Stage.all, PerStage.get] using same

theorem serving_with (u : Undoes 1 anyValue w) : Serving 7 form (slotsWith w) where
  fields :=
    .cons (serves_optional (shader_serving.undoes.orNull (object_noNull _)) (by decide)
      (fun _ _ => rfl) (by simp [slotsWith]) _) <|
    .cons (serves_optional structure_serving.undoes.list (by decide) (fun _ _ => rfl)
      (by simp [slotsWith]) _) <|
    .cons (serves_optional (interface_serving_with u).undoes.list (by decide) (fun _ _ => rfl)
      (by simp [slotsWith]) _) .nil
  distinct := by simp [slotsWith]
  blank := by simp [slotsWith, form]
  ext := by
    rintro ⟨⟩ ⟨⟩ same
    simpa [slotsWith] using same

theorem serving : Serving 7 form slots := serving_with undoes_literal

theorem ofText_written (written : Written d document) : ofText document = .ok d :=
  serving.undoes.read (by decide) written

/-- Reading undoes writing: every description within the ranges has a text, and whichever of its
texts a file holds, the file is read as that description. -/
theorem written_read_back {d : Description} (plain : d.Plain) :
    (∃ document, Written d document) ∧
    ∀ document, Written d document → ∀ (tree : FileTree) (path : Path),
      tree.readFile path = .ok document.toUTF8 → ofFile tree path = .ok d := by
  refine ⟨exists_written plain, fun document written tree path file => ?_⟩
  rw [ofFile_eq file, ofText_written written]
  rfl

/-! ## A free hand -/

def constantText : String :=
  "\x7b\"Value\": -1,\n\"N\\u0061me\": \"K\",\n\"Type\": \"int\"\x7d"

def interfaceText : String :=
  "\x7b\"Consts\": [" ++ constantText ++
    "],\n\"ConstantBuffer\": \x7b\"Register\": 7\x7d,\n\"Name\": \"I\"\x7d"

/-- An object with its fields in another order than the reader's, an escape in a key, a member that
nobody reads and a shader that is null. -/
def freeText : String :=
  "\x7b\"x\": [\x7b\x7d],\n\"ShaderInputs\": [" ++ interfaceText ++ "],\n\"Shader\": null\x7d"

theorem blank_space : Blank [' '] := by simp [Blank, blanks]

theorem blank_line : Blank ['\n'] := by simp [Blank, blanks]

theorem gap_line : Gap false ([] ++ ',' :: ['\n']) := .next Blank.nil blank_line

theorem member_visible {key : String} {value : List Char}
    (visible : ∀ c ∈ key.toList, 0x20 ≤ c.toNat ∧ c ≠ '"' ∧ c ≠ '\\') :
    Writing.member Eq (key, value) ('"' :: key.toList ++ ['"'] ++ [] ++ ':' :: [' '] ++ value) :=
  ⟨_, [], [' '], value, string_visible key visible, Blank.nil, blank_space, rfl, rfl⟩

theorem constantText_writes :
    Writing.object constantSlots ⟨"int", "K", .number (.integer (-1))⟩ constantText.toList := by
  have escaped : Writing.string "Name" "\"N\\u0061me\"".toList := by
    have code : Hex4 'a'.toNat ['0', '0', '6', '1'] := ⟨0, 0, 6, 1, by simp [HexDigit], by decide⟩
    exact ⟨_, .cons (.plain (by decide) (by decide) (by decide)) <| .cons (.code code) <|
      .cons (.plain (by decide) (by decide) (by decide)) <|
      .cons (.plain (by decide) (by decide) (by decide)) .nil, rfl⟩
  refine ⟨[("Value", "-1".toList), ("Name", "\"K\"".toList), ("Type", "\"int\"".toList)], ?_, _,
    .part (.first Blank.nil) (member_visible (by simp)) <|
    .part gap_line ⟨_, _, _, _, escaped, Blank.nil, blank_space, rfl, rfl⟩ <|
    .part gap_line (member_visible (by simp)) <| .close Blank.nil, ?_⟩
  · have value : Writing.Literal (.number (.integer (-1))) "-1".toList :=
      .integer (by simp [Fits64])
    have name : Writing.string "K" "\"K\"".toList := string_visible "K" (by simp)
    have type : Writing.string "int" "\"int\"".toList := string_visible "int" (by simp)
    constructor <;> simp_all [constantSlotsWith]
  · simp [constantText]

theorem interfaceText_writes :
    Writing.object interfaceSlots ⟨"I", ⟨7, []⟩, [], [⟨"int", "K", .number (.integer (-1))⟩]⟩
      interfaceText.toList := by
  have buffer : Writing.object bufferSlots ⟨7, []⟩ "\x7b\"Register\": 7\x7d".toList := by
    refine ⟨[("Register", "7".toList)], ?_, _,
      .part (.first Blank.nil) (member_visible (by simp)) (.close Blank.nil), by simp⟩
    have register : Writing.word32 7 "7".toList := ⟨by decide, rfl⟩
    constructor <;> simp_all [bufferSlots]
  refine ⟨[("Consts", '[' :: constantText.toList ++ [']']),
      ("ConstantBuffer", "\x7b\"Register\": 7\x7d".toList), ("Name", "\"I\"".toList)], ?_, _,
    .part (.first Blank.nil) (member_visible (by simp)) <|
    .part gap_line (member_visible (by simp)) <|
    .part gap_line (member_visible (by simp)) <| .close Blank.nil, ?_⟩
  · have constants : (Writing.object constantSlots).list [⟨"int", "K", .number (.integer (-1))⟩]
        ('[' :: constantText.toList ++ [']']) :=
      ⟨_, .part (.first Blank.nil) constantText_writes (.close Blank.nil), rfl⟩
    have name : Writing.string "I" "\"I\"".toList := string_visible "I" (by simp)
    constructor <;> simp_all [interfaceSlotsWith]
  · simp [interfaceText]

theorem freeText_writes :
    Writing.object slots
      ⟨none, [], [⟨"I", ⟨7, []⟩, [], [⟨"int", "K", .number (.integer (-1))⟩]⟩]⟩
      freeText.toList := by
  refine ⟨[("x", "[\x7b\x7d]".toList), ("ShaderInputs", '[' :: interfaceText.toList ++ [']']),
      ("Shader", "null".toList)], ?_, _,
    .part (.first Blank.nil) (member_visible (by simp)) <|
    .part gap_line (member_visible (by simp)) <|
    .part gap_line (member_visible (by simp)) <| .close Blank.nil, ?_⟩
  · have interfaces : (Writing.object interfaceSlots).list
        [⟨"I", ⟨7, []⟩, [], [⟨"int", "K", .number (.integer (-1))⟩]⟩]
        ('[' :: interfaceText.toList ++ [']']) :=
      ⟨_, .part (.first Blank.nil) interfaceText_writes (.close Blank.nil), rfl⟩
    have unread : WellFormed .value "[\x7b\x7d]".toList :=
      .list (.item (.first Blank.nil) (.object (.objectEnd Blank.nil)) (.listEnd Blank.nil))
    constructor <;> simp_all [slotsWith, Writing.orNull]
  · -- Kept folded: with the inner text in sight the comparison is slow.
    unfold freeText
    generalize interfaceText = inner
    simp

theorem written_read_back_free :
    let d : Description :=
      ⟨none, [], [⟨"I", ⟨7, []⟩, [], [⟨"int", "K", .number (.integer (-1))⟩]⟩]⟩
    let tree := FileTree.empty.put ["a.json"] (.file freeText.toUTF8)
    let path : Path := ⟨["", "a.json"]⟩
    d.Plain ∧ Written d freeText ∧ tree.readFile path = .ok freeText.toUTF8 ∧
      ofFile tree path = .ok d := by
  intro d tree path
  have plain : d.Plain := by
    constructor <;> simp [d, IsLiteral, Fits64]
  have file : tree.readFile path = .ok freeText.toUTF8 :=
    (FileTree.readFile_iff tree _ _).mpr
      ⟨["a.json"], FileTree.leads_rooted tree ⟨rfl, by decide⟩ (by decide) (by decide), rfl⟩
  have written : Written d freeText := document_bare freeText_writes
  exact ⟨plain, written, file, (written_read_back plain).2 freeText written tree path file⟩

end ShaderVariants.Description
