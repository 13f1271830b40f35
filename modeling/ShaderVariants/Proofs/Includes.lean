import ShaderVariants.Header.Interface
import ShaderVariants.Proofs.Capitals
import ShaderVariants.Proofs.Dependencies

/-!
What the headers of structures and interfaces include. Where no text in them breaks a line, the
lines of such a header that include another generated header are one for each dependency, in their
order, and a header for shader code has one line that asks for its guard and one that sets it.
-/

namespace ShaderVariants

def OneLine (text : String) : Prop := '\n' ∉ text.toList

instance (text : String) : Decidable (OneLine text) := inferInstanceAs (Decidable (¬_))

@[simp]
theorem oneLine_append (first second : String) :
    OneLine (first ++ second) ↔ OneLine first ∧ OneLine second := by
  rw [OneLine, String.toList_append, List.mem_append, not_or]
  rfl

@[simp]
theorem oneLine_text (text : String) : OneLine (toString text) ↔ OneLine text := Iff.rfl

@[simp]
theorem oneLine_number (n : Nat) : OneLine n.repr := by
  intro inside
  rw [Nat.toList_repr] at inside
  cases Nat.isDigit_of_mem_toDigits (by decide) (by decide) inside

def SharedStructure.texts (s : SharedStructure) : List String :=
  s.name :: s.layout.fields.flatMap fun f => [f.type.declared, f.type.target, f.name]

def Interface.texts (i : Interface) : List String :=
  i.name :: i.dependencies ++
    (i.layout.fields.flatMap fun f => [f.type.declared, f.type.target, f.name]) ++
    (i.bindings.flatMap fun b => b.name :: b.type.name :: b.elementType.toList) ++
    i.constants.flatMap fun c => [c.type.declared, c.type.target, c.name, c.value]

namespace Header

def lines (h : Header) : List String := (h.content.toList.splitOn '\n').map String.ofList

def includeLines (h : Header) : List String := linesWith "#include \"" h.lines

theorem lines_ofLines (file : String) {lines : List String} (nonempty : lines ≠ [])
    (unbroken : ∀ line ∈ lines, OneLine line) : (ofLines file lines).lines = lines := by
  have parts : (String.intercalate "\n" lines).toList =
      ['\n'].intercalate (lines.map String.toList) := String.toList_intercalate
  rw [Header.lines, ofLines, parts, List.splitOn_intercalate _ _ (by simpa using nonempty),
    List.map_map]
  · simp [Function.comp_def]
  · simp only [List.mem_map]
    rintro _ ⟨line, member, rfl⟩
    exact unbroken line member

/-! ## Unbroken lines -/

section
variable {kind name : String} {dependencies : List String}
  (plain : OneLine kind) (named : OneLine name) (all : ∀ d ∈ dependencies, OneLine d)
include plain named all

theorem targetStart_oneLine : ∀ line ∈ targetStart kind name dependencies, OneLine line := by
  unfold targetStart banner originLine includeLine fileOf
  simp +decide only [List.forall_mem_append, List.forall_mem_cons, List.forall_mem_map,
    oneLine_append, oneLine_text, plain, named, true_and, and_true]
  exact all

theorem declaredStart_oneLine : ∀ line ∈ declaredStart kind name dependencies, OneLine line := by
  have guarded : OneLine (Text.capitals name) := Text.capitals_unbroken name
  unfold declaredStart banner originLine includeLine fileOf guard
  simp +decide only [List.forall_mem_append, List.forall_mem_cons, List.forall_mem_map,
    oneLine_append, oneLine_text, plain, named, guarded, true_and, and_true]
  exact all

end

theorem declaredEnd_oneLine (name : String) : ∀ line ∈ declaredEnd name, OneLine line := by
  have guarded : OneLine (Text.capitals name) := Text.capitals_unbroken name
  unfold declaredEnd guard
  simp +decide only [List.forall_mem_cons, oneLine_append, oneLine_text, guarded]

/-! ## Directives -/

/-- Whether a line has text and is no directive. -/
def Led (line : String) : Prop := line.toList.head?.any (· != '#') = true

instance (line : String) : Decidable (Led line) := inferInstanceAs (Decidable (_ = true))

@[simp]
theorem led_append (first second : String) :
    Led (first ++ second) ↔ Led first ∨ first = "" ∧ Led second := by
  rw [Led, Led, Led, String.toList_append, List.head?_append]
  cases shape : first.toList with
  | nil => simp [← String.toList_inj, shape]
  | cons c rest => simp [← String.toList_inj, shape]

@[simp]
theorem led_text (text : String) : Led (toString text) ↔ Led text := Iff.rfl

/-- Lines that are no directives are left out where directives are sought. -/
theorem linesWith_of_led {start : String} (directive : start.toList.head? = some '#')
    {lines : List String} (led : ∀ line ∈ lines, line = "" ∨ Led line) :
    linesWith start lines = [] := by
  rw [linesWith, List.filter_eq_nil_iff]
  intro line member begins
  obtain ⟨rest, shape⟩ := List.isPrefixOf_iff_prefix.mp begins
  have head : line.toList.head? = some '#' := by
    rw [← shape, List.head?_append, directive]
    rfl
  rcases led line member with rfl | text
  · cases head
  · rw [Led, head] at text
    cases text

/-- The directives of a header: what it includes, and its guard if it has one. -/
structure Directs (lines dependencies : List String) (guards : List String) : Prop where
  includes : linesWith "#include \"" lines = dependencies.map includeLine
  asks : linesWith "#ifndef " lines = guards.map ("#ifndef " ++ ·)
  sets : linesWith "#define " lines = guards.map ("#define " ++ ·)

theorem Directs.append {lines others dependencies guards : List String}
    (one : Directs lines dependencies guards) (two : Directs others [] []) :
    Directs (lines ++ others) dependencies guards where
  includes := by rw [linesWith_append, one.includes, two.includes, List.map_nil, List.append_nil]
  asks := by rw [linesWith_append, one.asks, two.asks, List.map_nil, List.append_nil]
  sets := by rw [linesWith_append, one.sets, two.sets, List.map_nil, List.append_nil]

theorem directs_of_led {lines : List String} (led : ∀ line ∈ lines, line = "" ∨ Led line) :
    Directs lines [] [] :=
  ⟨linesWith_of_led rfl led, linesWith_of_led rfl led, linesWith_of_led rfl led⟩

private theorem includeLine_eq :
    includeLine = fun name => "#include \"" ++ (fileOf name ++ "\"") := by
  funext name
  exact String.append_assoc

theorem targetStart_directs (kind name : String) (dependencies : List String) :
    Directs (targetStart kind name dependencies) dependencies [] := by
  have front : Directs (banner ++ [originLine kind name, "", "#pragma once", "",
      "#include <cstdint>", "#include <DirectXMath.h>"]) [] [] := by
    have led : Directs (banner ++ [originLine kind name]) [] [] := by
      apply directs_of_led
      unfold banner originLine
      simp +decide only [List.forall_mem_append, List.forall_mem_cons, led_append, true_or, or_true]
    rw [List.append_cons]
    exact led.append ⟨by decide, by decide, by decide⟩
  constructor
  · rw [targetStart, linesWith_append, front.includes, includeLine_eq, linesWith_same]
    rfl
  · rw [targetStart, linesWith_append, front.asks, includeLine_eq,
      linesWith_other _ _ _ _ (by decide) (by decide)]
    rfl
  · rw [targetStart, linesWith_append, front.sets, includeLine_eq,
      linesWith_other _ _ _ _ (by decide) (by decide)]
    rfl

private theorem linesWith_line (start text : String) :
    linesWith start [start ++ text] = [start ++ text] :=
  linesWith_same start id [text]

private theorem linesWith_otherLine {start other : String}
    (apart : ¬start.toList <+: other.toList) (turned : ¬other.toList <+: start.toList)
    (text : String) : linesWith start [other ++ text] = [] :=
  linesWith_other start other id [text] apart turned

theorem declaredStart_directs (kind name : String) (dependencies : List String) :
    Directs (declaredStart kind name dependencies) dependencies [guard name] := by
  have led : Directs (banner ++ [originLine kind name, ""]) [] [] := by
    apply directs_of_led
    unfold banner originLine
    simp +decide only [List.forall_mem_append, List.forall_mem_cons, led_append, true_or, or_true]
  have blank : Directs [""] [] [] := ⟨by decide, by decide, by decide⟩
  have parts : declaredStart kind name dependencies = banner ++ [originLine kind name, ""] ++
      ["#ifndef " ++ guard name] ++ ["#define " ++ guard name] ++ [""] ++
      dependencies.map includeLine := rfl
  rw [parts]
  constructor
  · rw [linesWith_append, linesWith_append, linesWith_append, linesWith_append, led.includes,
      blank.includes, includeLine_eq, linesWith_same,
      linesWith_otherLine (by decide) (by decide), linesWith_otherLine (by decide) (by decide)]
    rfl
  · rw [linesWith_append, linesWith_append, linesWith_append, linesWith_append, led.asks,
      blank.asks, includeLine_eq, linesWith_other _ _ _ _ (by decide) (by decide), linesWith_line,
      linesWith_otherLine (by decide) (by decide)]
    rfl
  · rw [linesWith_append, linesWith_append, linesWith_append, linesWith_append, led.sets,
      blank.sets, includeLine_eq, linesWith_other _ _ _ _ (by decide) (by decide), linesWith_line,
      linesWith_otherLine (by decide) (by decide)]
    rfl

theorem declaredEnd_directs (name : String) : Directs (declaredEnd name) [] [] := by
  have parts : declaredEnd name = [""] ++ ["#endif // " ++ guard name] := rfl
  have blank : Directs [""] [] [] := ⟨by decide, by decide, by decide⟩
  rw [parts]
  refine blank.append ⟨?_, ?_, ?_⟩ <;> exact linesWith_otherLine (by decide) (by decide) _

/-! ## Lines inside a header -/

structure Inner (line : String) : Prop where
  unbroken : OneLine line
  led : line = "" ∨ Led line

theorem inner_targetLine {d : Declaration} (type : OneLine d.type) (name : OneLine d.name) :
    Inner (targetLine d) := by
  unfold targetLine
  constructor <;> simp +decide [type, name]

theorem inner_declaredLine {d : Declaration} (type : OneLine d.type) (name : OneLine d.name) :
    Inner (declaredLine d) := by
  unfold declaredLine
  constructor <;> simp +decide [type, name]

theorem inner_structLine {name : String} (named : OneLine name) : Inner s!"struct {name}" := by
  constructor <;> simp +decide [named]

theorem inner_sizeAssertion {name : String} (named : OneLine name) (size : Nat) :
    Inner (sizeAssertion name size) := by
  unfold sizeAssertion
  constructor <;> simp +decide [named]

theorem inner_blank : Inner "" := ⟨by decide, Or.inl rfl⟩

theorem inner_openBrace : Inner openBrace := ⟨by decide, by decide⟩

theorem inner_closeBrace : Inner closeBrace := ⟨by decide, by decide⟩

theorem inner_targetConstantLine {c : NamedConstant} (type : OneLine c.type.target)
    (name : OneLine c.name) (value : OneLine c.value) : Inner (targetConstantLine c) := by
  unfold targetConstantLine
  constructor <;> simp +decide [type, name, value]

theorem inner_declaredConstantLine {c : NamedConstant} (type : OneLine c.type.declared)
    (name : OneLine c.name) (value : OneLine c.value) : Inner (declaredConstantLine c) := by
  unfold declaredConstantLine
  constructor <;> simp +decide [type, name, value]

theorem inner_offsetLine {b : Binding} (name : OneLine b.name) : Inner (offsetLine b) := by
  unfold offsetLine
  constructor <;> simp +decide [name]

theorem inner_accessorLine {type name value : String} (type' : OneLine type)
    (name' : OneLine name) (value' : OneLine value) : Inner (accessorLine type name value) := by
  unfold accessorLine
  constructor <;> simp +decide [type', name', value']

theorem inner_bufferLine {i : Interface} (named : OneLine i.name) : Inner (bufferLine i) := by
  unfold bufferLine bufferVariable
  constructor <;> simp +decide [named]

theorem inner_offsetStruct {name : String} {bindings : List Binding} (named : OneLine name)
    (plain : ∀ b ∈ bindings, OneLine b.name) : ∀ line ∈ offsetStruct name bindings, Inner line := by
  have first : Inner s!"    struct {name}" := by
    constructor <;> simp +decide [named]
  have opened : Inner ("    " ++ openBrace) := ⟨by decide, by decide⟩
  have closed : Inner ("    " ++ closeBrace) := ⟨by decide, by decide⟩
  simp only [offsetStruct, List.forall_mem_append, List.forall_mem_cons, List.forall_mem_map]
  exact ⟨⟨⟨first, opened, by simp⟩, fun b member => inner_offsetLine (plain b member)⟩, closed,
    by simp⟩

theorem inner_summaryLine {start value finish : String} (led : Led start)
    (start' : OneLine start) (value' : OneLine value) (finish' : OneLine finish) :
    Inner (start ++ value ++ finish) := by
  constructor <;> simp [start', value', finish', led]

theorem typeText_solid {b : Binding} (known : b.type ∈ ResourceType.all)
    (element : ∀ e ∈ b.elementType, OneLine e) : OneLine b.typeText ∧ Led b.typeText := by
  have all : ∀ t ∈ ResourceType.all, OneLine t.name ∧ Led t.name := by decide
  obtain ⟨unbroken, led⟩ := all b.type known
  unfold Binding.typeText
  split
  case h_1 e given =>
    have plain := element e given
    constructor <;> simp +decide [unbroken, plain, led]
  case h_2 => exact ⟨unbroken, led⟩

theorem inner_resourceLine {i : Interface} {b : Binding} (named : OneLine i.name)
    (known : b.type ∈ ResourceType.all) (element : ∀ e ∈ b.elementType, OneLine e)
    (name : OneLine b.name) : Inner (resourceLine i b) := by
  obtain ⟨unbroken, led⟩ := typeText_solid known element
  have letter : OneLine b.type.kind.letter := by
    cases b.type.kind <;> decide
  unfold resourceLine resourceVariable Binding.registerText
  constructor <;> simp +decide [named, name, letter, unbroken, led]

/-! ## Whole headers -/

section
variable {kind name : String} {dependencies body : List String} (plain : OneLine kind)
  (named : OneLine name) (all : ∀ d ∈ dependencies, OneLine d) (inner : ∀ line ∈ body, Inner line)
include plain named all inner

theorem target_lines (file : String) :
    (ofLines file (targetStart kind name dependencies ++ body)).lines =
      targetStart kind name dependencies ++ body := by
  apply lines_ofLines
  · simp [targetStart]
  · rw [List.forall_mem_append]
    exact ⟨targetStart_oneLine plain named all, fun line member => (inner line member).unbroken⟩

theorem target_directs (file : String) :
    Directs (ofLines file (targetStart kind name dependencies ++ body)).lines dependencies [] := by
  rw [target_lines plain named all inner]
  exact (targetStart_directs kind name dependencies).append
    (directs_of_led fun line member => (inner line member).led)

theorem declared_lines (file : String) :
    (ofLines file (declaredStart kind name dependencies ++ body ++ declaredEnd name)).lines =
      declaredStart kind name dependencies ++ body ++ declaredEnd name := by
  apply lines_ofLines
  · simp [declaredStart]
  · rw [List.forall_mem_append, List.forall_mem_append]
    exact ⟨⟨declaredStart_oneLine plain named all,
      fun line member => (inner line member).unbroken⟩, declaredEnd_oneLine name⟩

theorem declared_directs (file : String) :
    Directs (ofLines file (declaredStart kind name dependencies ++ body ++ declaredEnd name)).lines
      dependencies [guard name] := by
  rw [declared_lines plain named all inner]
  exact ((declaredStart_directs kind name dependencies).append
    (directs_of_led fun line member => (inner line member).led)).append (declaredEnd_directs name)

end

private theorem structureKind_oneLine : OneLine structureKind := by decide

private theorem interfaceKind_oneLine : OneLine interfaceKind := by decide

section
variable (s : SharedStructure) (types : TypeScope) (plain : ∀ t ∈ s.texts, OneLine t)
include plain

private theorem structure_texts : OneLine s.name ∧
    (∀ f ∈ s.layout.fields, OneLine f.type.declared ∧ OneLine f.type.target ∧ OneLine f.name) ∧
    ∀ d ∈ s.dependencies types, OneLine d := by
  simp only [SharedStructure.texts, List.forall_mem_cons, List.mem_flatMap] at plain
  have fields : ∀ f ∈ s.layout.fields,
      OneLine f.type.declared ∧ OneLine f.type.target ∧ OneLine f.name := by
    intro f member
    exact ⟨plain.2 _ ⟨f, member, by simp⟩, plain.2 _ ⟨f, member, by simp⟩,
      plain.2 _ ⟨f, member, by simp⟩⟩
  refine ⟨plain.1, fields, fun d member => ?_⟩
  obtain ⟨inside, _⟩ := (Layout.mem_structuresAmong _ _ _).mp member
  obtain ⟨f, there, rfl⟩ := List.mem_map.mp inside
  exact (fields f there).1

theorem targetStructure_directs :
    Directs (targetStructure s types).lines (s.dependencies types) [] := by
  obtain ⟨named, fields, dependencies⟩ := structure_texts s types plain
  have parts : targetStructure s types = ofLines (fileOf s.name)
      (targetStart structureKind s.name (s.dependencies types) ++
        (["", s!"struct {s.name}", openBrace] ++ (targetFields s.layout).map targetLine ++
          [closeBrace, "", sizeAssertion s.name s.byteSize])) := by
    simp only [targetStructure, List.append_assoc]
  rw [parts]
  refine target_directs structureKind_oneLine named dependencies ?_ _
  simp only [List.forall_mem_append, List.forall_mem_cons, List.forall_mem_map, targetFields]
  exact ⟨⟨⟨inner_blank, inner_structLine named, inner_openBrace, by simp⟩,
    fun f member => inner_targetLine (fields f member).2.1 (fields f member).2.2⟩,
    inner_closeBrace, inner_blank, inner_sizeAssertion named _, by simp⟩

theorem declaredStructure_directs :
    Directs (declaredStructure s types).lines (s.dependencies types) [guard s.name] := by
  obtain ⟨named, fields, dependencies⟩ := structure_texts s types plain
  have parts : declaredStructure s types = ofLines (fileOf s.name)
      (declaredStart structureKind s.name (s.dependencies types) ++
        (["", s!"struct {s.name}", openBrace] ++ (declaredFields s.layout).map declaredLine ++
          [closeBrace]) ++ declaredEnd s.name) := by
    simp only [declaredStructure, List.append_assoc]
  rw [parts]
  refine declared_directs structureKind_oneLine named dependencies ?_ _
  simp only [List.forall_mem_append, List.forall_mem_cons, List.forall_mem_map, declaredFields]
  exact ⟨⟨⟨inner_blank, inner_structLine named, inner_openBrace, by simp⟩,
    fun f member => inner_declaredLine (fields f member).1 (fields f member).2.2⟩,
    inner_closeBrace, by simp⟩

end

def targetBody (i : Interface) : List String :=
  ["", s!"struct {i.name}", openBrace,
    s!"    static constexpr const char* Name = \"{i.name}\";",
    s!"    static constexpr uint32_t Register = {i.layout.register};",
    s!"    static constexpr uint32_t SRVCount = {(i.bindingsOf .shaderResource).length};",
    s!"    static constexpr uint32_t UAVCount = {(i.bindingsOf .unorderedAccess).length};"] ++
  i.constants.map targetConstantLine ++
  [""] ++ offsetStruct "SRVOffsets" (i.bindingsOf .shaderResource) ++
  [""] ++ offsetStruct "UAVOffsets" (i.bindingsOf .unorderedAccess) ++
  [""] ++ (targetFields i.layout).map targetLine ++
  [closeBrace, "", sizeAssertion i.name i.layout.byteSize]

/-- The lines of the shader header of an interface, between what it includes and its end. -/
def declaredBody (i : Interface) : List String :=
  ["", s!"struct {i.name}Constants", openBrace] ++
  (declaredFields i.layout).map declaredLine ++
  [closeBrace, "", bufferLine i, ""] ++
  i.bindings.map (resourceLine i) ++
  ["", s!"struct {i.name}", openBrace] ++
  i.constants.map declaredConstantLine ++
  i.layout.declaredFields.map (fieldAccessor i) ++
  i.bindings.map (resourceAccessor i) ++
  [closeBrace]

theorem targetInterface_eq (i : Interface) : targetInterface i = ofLines (fileOf i.name)
    (targetStart interfaceKind i.name i.dependencies ++ targetBody i) := by
  simp only [targetInterface, targetBody, List.append_assoc]

theorem declaredInterface_eq (i : Interface) : declaredInterface i = ofLines (fileOf i.name)
    (declaredStart interfaceKind i.name i.dependencies ++ declaredBody i ++
      declaredEnd i.name) := by
  simp only [declaredInterface, declaredBody, List.append_assoc]

section
variable (i : Interface) (plain : ∀ t ∈ i.texts, OneLine t)
include plain

private theorem interface_texts : OneLine i.name ∧ (∀ d ∈ i.dependencies, OneLine d) ∧
    (∀ f ∈ i.layout.fields, OneLine f.type.declared ∧ OneLine f.type.target ∧ OneLine f.name) ∧
    (∀ b ∈ i.bindings, OneLine b.name ∧ ∀ e ∈ b.elementType, OneLine e) ∧
    ∀ c ∈ i.constants, OneLine c.type.declared ∧ OneLine c.type.target ∧ OneLine c.name ∧
      OneLine c.value := by
  simp only [Interface.texts, List.forall_mem_cons, List.forall_mem_append, List.cons_append,
    List.mem_flatMap] at plain
  obtain ⟨named, ⟨⟨dependencies, fields⟩, bindings⟩, constants⟩ := plain
  refine ⟨named, dependencies, fun f member => ?_, fun b member => ⟨?_, fun e given => ?_⟩,
    fun c member => ?_⟩
  · exact ⟨fields _ ⟨f, member, by simp⟩, fields _ ⟨f, member, by simp⟩,
      fields _ ⟨f, member, by simp⟩⟩
  · exact bindings _ ⟨b, member, by simp⟩
  · exact bindings _ ⟨b, member, by simp [Option.mem_def.mp given]⟩
  · exact ⟨constants _ ⟨c, member, by simp⟩, constants _ ⟨c, member, by simp⟩,
      constants _ ⟨c, member, by simp⟩, constants _ ⟨c, member, by simp⟩⟩

theorem targetBody_inner : ∀ line ∈ targetBody i, Inner line := by
  obtain ⟨named, dependencies, fields, bindings, constants⟩ := interface_texts i plain
  have offsets (name : String) (named : OneLine name) (kind : ResourceKind) :
      ∀ line ∈ offsetStruct name (i.bindingsOf kind), Inner line :=
    inner_offsetStruct named fun b member => (bindings b (List.mem_filter.mp member).1).1
  simp only [targetBody, List.forall_mem_append, List.forall_mem_cons, List.forall_mem_map,
    targetFields]
  refine ⟨⟨⟨⟨⟨⟨⟨⟨⟨inner_blank, inner_structLine named, inner_openBrace, ?_, ?_, ?_, ?_, by simp⟩,
    ?_⟩, inner_blank, by simp⟩, ?_⟩, inner_blank, by simp⟩, ?_⟩, inner_blank, by simp⟩, ?_⟩,
    inner_closeBrace, inner_blank, inner_sizeAssertion named _, by simp⟩
  · exact inner_summaryLine (by decide) (by decide) named (by decide)
  · exact inner_summaryLine (by decide) (by decide) (oneLine_number _) (by decide)
  · exact inner_summaryLine (by decide) (by decide) (oneLine_number _) (by decide)
  · exact inner_summaryLine (by decide) (by decide) (oneLine_number _) (by decide)
  · intro c member
    obtain ⟨_, type, name, value⟩ := constants c member
    exact inner_targetConstantLine type name value
  · exact offsets _ (by decide) _
  · exact offsets _ (by decide) _
  · intro f member
    obtain ⟨_, type, name⟩ := fields f member
    exact inner_targetLine type name

theorem targetInterface_lines : (targetInterface i).lines =
    targetStart interfaceKind i.name i.dependencies ++ targetBody i := by
  obtain ⟨named, dependencies, _⟩ := interface_texts i plain
  rw [targetInterface_eq]
  exact target_lines interfaceKind_oneLine named dependencies (targetBody_inner i plain) _

theorem targetInterface_directs : Directs (targetInterface i).lines i.dependencies [] := by
  obtain ⟨named, dependencies, _⟩ := interface_texts i plain
  rw [targetInterface_eq]
  exact target_directs interfaceKind_oneLine named dependencies (targetBody_inner i plain) _

theorem targetInterface_constants :
    ∀ c ∈ i.constants, targetConstantLine c ∈ (targetInterface i).lines := by
  intro c member
  rw [targetInterface_lines i plain]
  simp only [targetBody, List.mem_append, List.mem_map_of_mem member, true_or, or_true]

section
variable (kinds : ∀ b ∈ i.bindings, b.type ∈ ResourceType.all)
include kinds

theorem declaredBody_inner : ∀ line ∈ declaredBody i, Inner line := by
  obtain ⟨named, dependencies, fields, bindings, constants⟩ := interface_texts i plain
  have buffer : Inner s!"struct {i.name}Constants" :=
    inner_summaryLine (by decide) (by decide) named (by decide)
  simp only [declaredBody, List.forall_mem_append, List.forall_mem_cons, List.forall_mem_map,
    declaredFields]
  refine ⟨⟨⟨⟨⟨⟨⟨⟨⟨inner_blank, buffer, inner_openBrace, by simp⟩, ?_⟩, inner_closeBrace,
    inner_blank, inner_bufferLine named, inner_blank, by simp⟩, ?_⟩, inner_blank,
    inner_structLine named, inner_openBrace, by simp⟩, ?_⟩, ?_⟩, ?_⟩, inner_closeBrace, by simp⟩
  · intro f member
    obtain ⟨type, _, name⟩ := fields f member
    exact inner_declaredLine type name
  · intro b member
    obtain ⟨name, element⟩ := bindings b member
    exact inner_resourceLine named (kinds b member) element name
  · intro c member
    obtain ⟨type, _, name, value⟩ := constants c member
    exact inner_declaredConstantLine type name value
  · intro f member
    obtain ⟨type, _, name⟩ := fields f (List.mem_filter.mp member).1
    unfold fieldAccessor bufferVariable
    refine inner_accessorLine type name ?_
    simp +decide [named, name]
  · intro b member
    obtain ⟨name, element⟩ := bindings b member
    unfold resourceAccessor resourceVariable
    refine inner_accessorLine (typeText_solid (kinds b member) element).1 name ?_
    simp +decide [named, name]

theorem declaredInterface_lines : (declaredInterface i).lines =
    declaredStart interfaceKind i.name i.dependencies ++ declaredBody i ++
      declaredEnd i.name := by
  obtain ⟨named, dependencies, _⟩ := interface_texts i plain
  rw [declaredInterface_eq]
  exact declared_lines interfaceKind_oneLine named dependencies
    (declaredBody_inner i plain kinds) _

theorem declaredInterface_directs :
    Directs (declaredInterface i).lines i.dependencies [guard i.name] := by
  obtain ⟨named, dependencies, _⟩ := interface_texts i plain
  rw [declaredInterface_eq]
  exact declared_directs interfaceKind_oneLine named dependencies
    (declaredBody_inner i plain kinds) _

theorem declaredInterface_constants :
    ∀ c ∈ i.constants, declaredConstantLine c ∈ (declaredInterface i).lines := by
  intro c member
  rw [declaredInterface_lines i plain kinds]
  simp only [declaredBody, List.mem_append, List.mem_map_of_mem member, true_or, or_true]

end
end
end Header

/-! ## Self-contained headers -/

namespace Interface

/-- Whether every structure that an interface names is one of its dependencies, and so is included
in both of its headers. -/
structure SelfContained (i : Interface) (types : TypeScope) : Prop where
  recorded : ∀ name ∈ i.usedTypes, types.isStructure name = true → name ∈ i.dependencies
  included : (∀ t ∈ i.texts, OneLine t) →
    (Header.targetInterface i).includeLines = i.dependencies.map Header.includeLine ∧
      (Header.declaredInterface i).includeLines = i.dependencies.map Header.includeLine

/-- The headers of an interface are self-contained exactly if every structure that a constant is of
is also the type of a field or of the elements of a resource. -/
theorem self_contained_iff (entries : List (String × Nat)) (types : TypeScope)
    (registered : TypeScope.ofEntries entries = .ok types) (d : Description.Interface)
    (i : Interface) (success : ofDescription types d = .ok i) :
    i.SelfContained types ↔ ∀ c ∈ i.constants, types.isStructure c.type.declared = true →
      c.type.declared ∈ i.boundTypes := by
  have tracks := ofDescription_tracks (TypeScope.ofEntries_proper registered) success
  constructor
  · intro contained c member known
    have used : c.type.declared ∈ i.usedTypes :=
      List.mem_append_right _ (List.mem_map.mpr ⟨c, member, rfl⟩)
    exact ((tracks.mem_dependencies _).mp (contained.recorded _ used known)).1
  · intro bound
    refine ⟨fun name used known => ?_, fun plain => ?_⟩
    · rcases List.mem_append.mp used with inside | constant
      · exact (tracks.mem_dependencies name).mpr ⟨inside, known⟩
      · obtain ⟨c, member, rfl⟩ := List.mem_map.mp constant
        exact (tracks.mem_dependencies _).mpr ⟨bound c member known, known⟩
    · exact ⟨(Header.targetInterface_directs i plain).includes,
        (Header.declaredInterface_directs i plain tracks.kinds).includes⟩

/-- A structure that only a constant is of is declared with it, but not included. -/
theorem constant_not_included :
    let types : TypeScope := ⟨[("Light", 16)]⟩
    let d : Description.Interface := ⟨"Lighting", ⟨0, []⟩, [], [⟨"Light", "Sun", .string "\x7b\x7d"⟩]⟩
    let i : Interface := ⟨"Lighting", .blank "Lighting" 0, [],
      [⟨⟨"Light", "Light", 16⟩, "Sun", "\x7b\x7d"⟩], []⟩
    TypeScope.ofEntries [("Light", 16)] = .ok types ∧ ofDescription types d = .ok i ∧
      ¬i.SelfContained types ∧
      "    static constexpr Light Sun = \x7b\x7d;" ∈ (Header.targetInterface i).lines ∧
      "    static const Light Sun = \x7b\x7d;" ∈ (Header.declaredInterface i).lines ∧
      (Header.targetInterface i).includeLines = [] ∧
      (Header.declaredInterface i).includeLines = [] := by
  intro types d i
  have plain : ∀ t ∈ i.texts, OneLine t := by decide
  have kinds : ∀ b ∈ i.bindings, b.type ∈ ResourceType.all := nofun
  refine ⟨rfl, by decide +kernel, fun contained => ?_, ?_, ?_, ?_, ?_⟩
  · cases contained.recorded "Light" (by decide) (by decide)
  · exact Header.targetInterface_constants i plain _ List.mem_cons_self
  · exact Header.declaredInterface_constants i plain kinds _ List.mem_cons_self
  · exact (Header.targetInterface_directs i plain).includes
  · exact (Header.declaredInterface_directs i plain kinds).includes

theorem self_contained_with_field :
    let types : TypeScope := ⟨[("Light", 16)]⟩
    let d : Description.Interface := ⟨"Lighting", ⟨0, [⟨"Light", "Lamp"⟩]⟩, [],
      [⟨"Light", "Sun", .string "\x7b\x7d"⟩]⟩
    let i : Interface := ⟨"Lighting", ⟨"Lighting", 0, [⟨⟨"Light", "Light", 16⟩, "Lamp", false⟩]⟩,
      [], [⟨⟨"Light", "Light", 16⟩, "Sun", "\x7b\x7d"⟩], ["Light"]⟩
    ofDescription types d = .ok i ∧ i.SelfContained types := by
  intro types d i
  have success : ofDescription types d = .ok i := by decide +kernel
  refine ⟨success, (self_contained_iff [("Light", 16)] types rfl d i success).mpr ?_⟩
  decide

end Interface
end ShaderVariants
