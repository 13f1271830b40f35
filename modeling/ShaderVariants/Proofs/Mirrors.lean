import ShaderVariants.Proofs.Actions
import ShaderVariants.Proofs.Includes

/-!
The two headers of an interface as mirrors of each other. Their sections are told by the lines
around them: the fields of the C++ struct and those of the constant buffer are the same, padding
included, and each resource has one register in both. This is so whatever the names are; a name that
breaks a line stays inside the line that it is written into.
-/

namespace ShaderVariants

namespace Header

/-! ## Sections -/

/-- The lines behind the first one that is as given. -/
def behind (line : String) (lines : List String) : List String :=
  (lines.dropWhile (· != line)).drop 1

/-- The lines before the first one that is as given. -/
def upTo (line : String) (lines : List String) : List String := lines.takeWhile (· != line)

def between (opening closing : String) (lines : List String) : List String :=
  upTo closing (behind opening lines)

section
variable {line : String} {before : List String} (free : line ∉ before) (after : List String)
include free

theorem bne_of_notMem : ∀ l ∈ before, (l != line) = true := by
  intro l member
  rw [bne_iff_ne]
  rintro rfl
  exact free member

theorem behind_append : behind line (before ++ line :: after) = after := by
  rw [behind, List.dropWhile_append_of_pos (bne_of_notMem free),
    List.dropWhile_cons_of_neg (by simp)]
  rfl

theorem upTo_append : upTo line (before ++ line :: after) = before := by
  rw [upTo, List.takeWhile_append_of_pos (bne_of_notMem free),
    List.takeWhile_cons_of_neg (by simp), List.append_nil]

end

theorem behind_cons (line : String) (after : List String) : behind line (line :: after) = after :=
  behind_append List.not_mem_nil after

theorem between_cons {closing : String} {inner : List String} (free : closing ∉ inner)
    (opening : String) (after : List String) :
    between opening closing (opening :: (inner ++ closing :: after)) = inner := by
  rw [between, behind_cons, upTo_append free]

/-- The start of the C++ struct: what it says of the interface, and its constants. -/
def summaryLines (name : String) (lines : List String) : List String :=
  between openBrace "" (behind s!"struct {name}" lines)

/-- The entries of one of the two structs of offsets. -/
def offsetLines (name : String) (lines : List String) : List String :=
  between ("    " ++ openBrace) ("    " ++ closeBrace) (behind s!"    struct {name}" lines)

/-- The fields of the C++ struct, which come last in it. -/
def targetFieldLines (lines : List String) : List String :=
  upTo closeBrace (behind "" (behind ("    " ++ closeBrace) (behind "    struct UAVOffsets" lines)))

/-- The fields of the struct of the constant buffer. -/
def bufferFieldLines (name : String) (lines : List String) : List String :=
  between openBrace closeBrace (behind s!"struct {name}Constants" lines)

/-- What comes behind the constant buffer. -/
def behindBuffer (name : String) (register : Nat) (lines : List String) : List String :=
  behind ("ConstantBuffer<" ++ name ++ "Constants> " ++ ("g_" ++ name ++ "Constants") ++
    " : register(b" ++ toString register ++ ");") lines

/-- The resources, which come next to the constant buffer. -/
def resourceLines (name : String) (register : Nat) (lines : List String) : List String :=
  between "" "" (behindBuffer name register lines)

/-- The members of the struct that comes behind the resources. -/
def memberLines (name : String) (register : Nat) (lines : List String) : List String :=
  between openBrace closeBrace
    (behind s!"struct {name}" (behind "" (behind "" (behindBuffer name register lines))))

/-! ## Lines that tell sections -/

def Begins (start line : String) : Prop := start.toList <+: line.toList

instance (start line : String) : Decidable (Begins start line) :=
  inferInstanceAs (Decidable (_ <+: _))

theorem Begins.append {start first : String} (begins : Begins start first) (second : String) :
    Begins start (first ++ second) := by
  rw [Begins, String.toList_append]
  exact begins.trans (List.prefix_append _ _)

theorem Begins.ne {start line marker : String} (begins : Begins start line)
    (apart : ¬Begins start marker) : marker ≠ line := by
  rintro rfl
  exact apart begins

theorem Begins.not_begins {start other line : String} (begins : Begins start line)
    (apart : ¬Begins start other) (turned : ¬Begins other start) : ¬Begins other line := by
  intro both
  rcases List.prefix_or_prefix_of_prefix begins both with one | two
  · exact apart one
  · exact turned two

theorem notMem_map {α : Type} {start marker : String} {f : α → String}
    (begins : ∀ a, Begins start (f a)) (apart : ¬Begins start marker) (l : List α) :
    marker ∉ l.map f := by
  intro member
  obtain ⟨a, _, rfl⟩ := List.mem_map.mp member
  exact apart (begins a)

theorem structLine_begins (name : String) : Begins "struct " s!"struct {name}" :=
  Begins.append (by decide) _

theorem targetConstantLine_begins (c : NamedConstant) :
    Begins "    stat" (targetConstantLine c) := by
  unfold targetConstantLine
  simp only [String.append_assoc]
  exact Begins.append (by decide) _

theorem offsetLine_begins (b : Binding) : Begins "        " (offsetLine b) := by
  unfold offsetLine
  simp only [String.append_assoc]
  exact Begins.append (by decide) _

theorem targetLine_begins (d : Declaration) : Begins "    " (targetLine d) := by
  unfold targetLine
  simp only [String.append_assoc]
  exact Begins.append (by decide) _

theorem declaredLine_begins (d : Declaration) : Begins "    " (declaredLine d) := by
  unfold declaredLine
  simp only [String.append_assoc]
  exact Begins.append (by decide) _

theorem declaredConstantLine_begins (c : NamedConstant) :
    Begins "    " (declaredConstantLine c) := by
  unfold declaredConstantLine
  simp only [String.append_assoc]
  exact Begins.append (by decide) _

theorem accessorLine_begins (type name value : String) :
    Begins "    " (accessorLine type name value) := by
  unfold accessorLine
  simp only [String.append_assoc]
  exact Begins.append (by decide) _

theorem resourceLine_ne_blank (i : Interface) (b : Binding) : resourceLine i b ≠ "" := by
  unfold resourceLine
  simp +decide

theorem includeLine_begins (name : String) : Begins "#" (includeLine name) := by
  unfold includeLine
  simp only [String.append_assoc]
  exact Begins.append (by decide) _

theorem originLine_begins (kind name : String) : Begins "//" (originLine kind name) := by
  unfold originLine
  simp only [String.append_assoc]
  exact Begins.append (by decide) _

theorem banner_begins : ∀ line ∈ banner, Begins "//" line := by decide

section
variable {marker : String} (text : marker ≠ "") (comment : ¬Begins "//" marker)
  (directive : ¬Begins "#" marker) (kind name : String) (dependencies : List String)
include text comment directive

theorem notMem_targetStart : marker ∉ targetStart kind name dependencies := by
  have notBanner : marker ∉ banner := fun member => comment (banner_begins marker member)
  have origin := (originLine_begins kind name).ne comment
  have once : marker ≠ "#pragma once" := Begins.ne (by decide) directive
  have integers : marker ≠ "#include <cstdint>" := Begins.ne (by decide) directive
  have vectors : marker ≠ "#include <DirectXMath.h>" := Begins.ne (by decide) directive
  have included := notMem_map includeLine_begins directive dependencies
  simp only [targetStart, List.mem_append, List.mem_cons, List.not_mem_nil, or_false,
    notBanner, origin, text, once, integers, vectors, included, not_false_eq_true]

theorem notMem_declaredStart : marker ∉ declaredStart kind name dependencies := by
  have notBanner : marker ∉ banner := fun member => comment (banner_begins marker member)
  have origin := (originLine_begins kind name).ne comment
  have asks : marker ≠ s!"#ifndef {guard name}" :=
    Begins.ne (Begins.append (by decide) _) directive
  have sets : marker ≠ s!"#define {guard name}" :=
    Begins.ne (Begins.append (by decide) _) directive
  have included := notMem_map includeLine_begins directive dependencies
  simp only [declaredStart, List.mem_append, List.mem_cons, List.not_mem_nil, or_false,
    notBanner, origin, text, asks, sets, included, not_false_eq_true]

end

/-! ## The C++ header -/

section
variable (i : Interface)

def targetLines : List String := targetStart interfaceKind i.name i.dependencies ++ targetBody i

def summary : List String := [
  "    static constexpr const char* Name = \"" ++ i.name ++ "\";",
  "    static constexpr uint32_t Register = " ++ toString i.layout.register ++ ";",
  "    static constexpr uint32_t SRVCount = " ++
    toString (i.bindingsOf .shaderResource).length ++ ";",
  "    static constexpr uint32_t UAVCount = " ++
    toString (i.bindingsOf .unorderedAccess).length ++ ";"]

theorem summary_begins : ∀ line ∈ summary i, Begins "    stat" line := by
  have name : Begins "    stat" ("    static constexpr const char* Name = \"" ++ i.name ++ "\";") :=
    (Begins.append (by decide) _).append _
  have number (start : String) (n : Nat) (begins : Begins "    stat" start) :
      Begins "    stat" (start ++ toString n ++ ";") := (begins.append _).append _
  simp only [summary, List.forall_mem_cons]
  exact ⟨name, number _ _ (by decide), number _ _ (by decide), number _ _ (by decide), nofun⟩

def targetFront : List String :=
  targetStart interfaceKind i.name i.dependencies ++ ["", s!"struct {i.name}", openBrace] ++
    (summary i ++ i.constants.map targetConstantLine)

theorem targetLines_eq : targetLines i = targetFront i ++ "" ::
    (offsetStruct "SRVOffsets" (i.bindingsOf .shaderResource) ++ "" ::
      (offsetStruct "UAVOffsets" (i.bindingsOf .unorderedAccess) ++ "" ::
        ((targetFields i.layout).map targetLine ++
          [closeBrace, "", sizeAssertion i.name i.layout.byteSize]))) := by
  simp only [targetLines, targetBody, targetFront, summary, List.append_assoc, List.cons_append,
    List.nil_append]
  rfl

theorem summaryLines_target :
    summaryLines i.name (targetLines i) = summary i ++ i.constants.map targetConstantLine := by
  have free : s!"struct {i.name}" ∉ targetStart interfaceKind i.name i.dependencies ++ [""] := by
    have begins := structLine_begins i.name
    have text : s!"struct {i.name}" ≠ "" := (begins.ne (by decide)).symm
    rw [List.mem_append, List.mem_singleton, not_or]
    exact ⟨notMem_targetStart text (begins.not_begins (by decide) (by decide))
      (begins.not_begins (by decide) (by decide)) _ _ _, text⟩
  have solid : "" ∉ summary i ++ i.constants.map targetConstantLine := by
    rw [List.mem_append, not_or]
    refine ⟨fun member => ?_, notMem_map targetConstantLine_begins (by decide) _⟩
    exact absurd (summary_begins i _ member) (by decide)
  have parts : targetFront i = (targetStart interfaceKind i.name i.dependencies ++ [""]) ++
      s!"struct {i.name}" :: openBrace :: (summary i ++ i.constants.map targetConstantLine) := by
    simp only [targetFront, List.append_assoc, List.cons_append, List.nil_append]
  rw [summaryLines, targetLines_eq, parts, List.append_assoc, List.cons_append, List.cons_append,
    behind_append free, between_cons solid]

theorem notMem_targetFront {marker : String} (text : marker ≠ "") (brace : marker ≠ openBrace)
    (apart : ∀ start ∈ ["//", "#", "struct ", "    stat"], ¬Begins start marker) :
    marker ∉ targetFront i := by
  simp only [List.forall_mem_cons] at apart
  obtain ⟨comment, directive, struct, member, _⟩ := apart
  have named : marker ≠ s!"struct {i.name}" := (structLine_begins i.name).ne struct
  have summed : marker ∉ summary i := fun inside => member (summary_begins i _ inside)
  have constants := notMem_map targetConstantLine_begins member i.constants
  have started := notMem_targetStart text comment directive interfaceKind i.name i.dependencies
  simp only [targetFront, List.mem_append, List.mem_cons, List.not_mem_nil, or_false, text, brace,
    named, summed, constants, started, not_false_eq_true]

theorem notMem_offsetStruct {marker name : String} (bindings : List Binding)
    (heading : marker ≠ s!"    struct {name}") (apart : ¬Begins "        " marker)
    (opening : marker ≠ "    " ++ openBrace) (closing : marker ≠ "    " ++ closeBrace) :
    marker ∉ offsetStruct name bindings := by
  have entries := notMem_map offsetLine_begins apart bindings
  simp only [offsetStruct, List.mem_append, List.mem_cons, List.not_mem_nil, or_false, heading,
    entries, opening, closing, not_false_eq_true]

theorem offsetLines_append {name : String} {before : List String}
    (free : s!"    struct {name}" ∉ before) (bindings : List Binding) (after : List String) :
    offsetLines name (before ++ (offsetStruct name bindings ++ after)) =
      bindings.map offsetLine := by
  have solid := notMem_map offsetLine_begins
    (by decide : ¬Begins "        " ("    " ++ closeBrace)) bindings
  simp only [offsetLines, offsetStruct, List.append_assoc, List.cons_append, List.nil_append]
  rw [behind_append free, between_cons solid]

theorem offsetLines_target :
    offsetLines "SRVOffsets" (targetLines i) = (i.bindingsOf .shaderResource).map offsetLine ∧
    offsetLines "UAVOffsets" (targetLines i) = (i.bindingsOf .unorderedAccess).map offsetLine := by
  have first : "    struct SRVOffsets" ∉ targetFront i ++ [""] := by
    rw [List.mem_append, not_or]
    exact ⟨notMem_targetFront i (by decide) (by decide) (by decide), by decide⟩
  have second : "    struct UAVOffsets" ∉ targetFront i ++ [""] ++
      offsetStruct "SRVOffsets" (i.bindingsOf .shaderResource) ++ [""] := by
    simp only [List.mem_append, not_or]
    exact ⟨⟨⟨notMem_targetFront i (by decide) (by decide) (by decide), by decide⟩,
      notMem_offsetStruct _ (by decide) (by decide) (by decide) (by decide)⟩, by decide⟩
  constructor
  · rw [targetLines_eq, List.append_cons]
    exact offsetLines_append first _ _
  · rw [targetLines_eq, List.append_cons, ← List.append_assoc, List.append_cons]
    exact offsetLines_append second _ _

theorem targetFieldLines_target :
    targetFieldLines (targetLines i) = (targetFields i.layout).map targetLine := by
  have heading : "    struct UAVOffsets" ∉ targetFront i ++ "" ::
      (offsetStruct "SRVOffsets" (i.bindingsOf .shaderResource) ++ [""]) := by
    simp only [List.mem_append, List.mem_cons, not_or]
    exact ⟨notMem_targetFront i (by decide) (by decide) (by decide), by decide,
      notMem_offsetStruct _ (by decide) (by decide) (by decide) (by decide), by decide, nofun⟩
  have entries : "    " ++ closeBrace ∉
      ("    " ++ openBrace) :: (i.bindingsOf .unorderedAccess).map offsetLine := by
    rw [List.mem_cons, not_or]
    exact ⟨by decide, notMem_map offsetLine_begins (by decide) _⟩
  have fields := notMem_map targetLine_begins (by decide : ¬Begins "    " closeBrace)
    (targetFields i.layout)
  have parts : targetLines i = (targetFront i ++ "" ::
      (offsetStruct "SRVOffsets" (i.bindingsOf .shaderResource) ++ [""])) ++
      "    struct UAVOffsets" ::
        ((("    " ++ openBrace) :: (i.bindingsOf .unorderedAccess).map offsetLine) ++
          ("    " ++ closeBrace) :: "" :: ((targetFields i.layout).map targetLine ++
            closeBrace :: ["", sizeAssertion i.name i.layout.byteSize])) := by
    rw [targetLines_eq]
    simp only [offsetStruct, List.append_assoc, List.cons_append, List.nil_append]
    rfl
  rw [parts, targetFieldLines, behind_append heading, behind_append entries, behind_cons,
    upTo_append fields]

theorem targetLines_getLast :
    (targetLines i).getLast? = some (sizeAssertion i.name i.layout.byteSize) := by
  simp only [targetLines, targetBody, List.getLast?_append]
  rfl

end

/-! ## The shader header -/

section
variable (i : Interface)

def declaredLines : List String :=
  declaredStart interfaceKind i.name i.dependencies ++ declaredBody i ++ declaredEnd i.name

def members : List String :=
  i.constants.map declaredConstantLine ++ i.layout.declaredFields.map (fieldAccessor i) ++
    i.bindings.map (resourceAccessor i)

def declaredFront : List String :=
  declaredStart interfaceKind i.name i.dependencies ++ "" :: s!"struct {i.name}Constants" ::
    openBrace :: ((declaredFields i.layout).map declaredLine ++ closeBrace :: [""])

theorem declaredLines_eq : declaredLines i = declaredFront i ++ bufferLine i :: "" ::
    (i.bindings.map (resourceLine i) ++ "" :: s!"struct {i.name}" :: openBrace ::
      (members i ++ closeBrace :: declaredEnd i.name)) := by
  simp only [declaredLines, declaredBody, declaredFront, members, List.append_assoc,
    List.cons_append, List.nil_append]

theorem bufferFieldLines_declared :
    bufferFieldLines i.name (declaredLines i) = (declaredFields i.layout).map declaredLine := by
  have begins : Begins "struct " s!"struct {i.name}Constants" :=
    (Begins.append (by decide) _).append _
  have text : s!"struct {i.name}Constants" ≠ "" := (begins.ne (by decide)).symm
  have heading : s!"struct {i.name}Constants" ∉
      declaredStart interfaceKind i.name i.dependencies ++ [""] := by
    rw [List.mem_append, List.mem_singleton, not_or]
    exact ⟨notMem_declaredStart text (begins.not_begins (by decide) (by decide))
      (begins.not_begins (by decide) (by decide)) _ _ _, text⟩
  have fields := notMem_map declaredLine_begins (by decide : ¬Begins "    " closeBrace)
    (declaredFields i.layout)
  have parts : declaredLines i = (declaredStart interfaceKind i.name i.dependencies ++ [""]) ++
      s!"struct {i.name}Constants" :: openBrace ::
        ((declaredFields i.layout).map declaredLine ++ closeBrace :: "" :: bufferLine i :: "" ::
          (i.bindings.map (resourceLine i) ++ "" :: s!"struct {i.name}" :: openBrace ::
            (members i ++ closeBrace :: declaredEnd i.name))) := by
    rw [declaredLines_eq]
    simp only [declaredFront, List.append_assoc, List.cons_append, List.nil_append]
  rw [parts, bufferFieldLines, behind_append heading, between_cons fields]

theorem behindBuffer_declared : behindBuffer i.name i.layout.register (declaredLines i) = "" ::
    (i.bindings.map (resourceLine i) ++ "" :: s!"struct {i.name}" :: openBrace ::
      (members i ++ closeBrace :: declaredEnd i.name)) := by
  have begins : Begins "ConstantBuffer<" (bufferLine i) := by
    unfold bufferLine
    simp only [String.append_assoc]
    exact Begins.append (by decide) _
  have text : bufferLine i ≠ "" := (begins.ne (by decide)).symm
  have begun : Begins "struct " s!"struct {i.name}Constants" :=
    (Begins.append (by decide) _).append _
  have struct : bufferLine i ≠ s!"struct {i.name}Constants" :=
    begun.ne (begins.not_begins (by decide) (by decide))
  have opening : bufferLine i ≠ openBrace := (begins.ne (by decide)).symm
  have closing : bufferLine i ≠ closeBrace := (begins.ne (by decide)).symm
  have started := notMem_declaredStart text (begins.not_begins (by decide) (by decide))
    (begins.not_begins (by decide) (by decide)) interfaceKind i.name i.dependencies
  have fields := notMem_map declaredLine_begins
    (begins.not_begins (by decide) (by decide) : ¬Begins "    " (bufferLine i))
    (declaredFields i.layout)
  have free : bufferLine i ∉ declaredFront i := by
    simp only [declaredFront, List.mem_append, List.mem_cons, List.not_mem_nil, or_false, text,
      struct, opening, closing, started, fields, not_false_eq_true]
  rw [declaredLines_eq]
  exact behind_append free _

theorem resourceLines_declared :
    resourceLines i.name i.layout.register (declaredLines i) =
      i.bindings.map (resourceLine i) := by
  have solid : "" ∉ i.bindings.map (resourceLine i) := by
    intro member
    obtain ⟨b, _, blank⟩ := List.mem_map.mp member
    exact resourceLine_ne_blank i b blank
  rw [resourceLines, behindBuffer_declared, between_cons solid]

theorem memberLines_declared :
    memberLines i.name i.layout.register (declaredLines i) = members i := by
  have solid : "" ∉ i.bindings.map (resourceLine i) := by
    intro member
    obtain ⟨b, _, blank⟩ := List.mem_map.mp member
    exact resourceLine_ne_blank i b blank
  have inside : closeBrace ∉ members i := by
    simp only [members, List.mem_append, not_or]
    exact ⟨⟨notMem_map declaredConstantLine_begins (by decide) _,
      notMem_map (fun f => accessorLine_begins _ _ _) (by decide) _⟩,
      notMem_map (fun b => accessorLine_begins _ _ _) (by decide) _⟩
  rw [memberLines, behindBuffer_declared, behind_cons, behind_append solid, behind_cons,
    between_cons inside]

end

/-! ## Mirrors -/

/-- Whether lines of a C++ header and lines of a shader header are the two sides of an interface:
the same fields, and resources in the same registers. -/
structure Mirrors (i : Interface) (target declared : List String) : Prop where
  targetText : (targetInterface i).content = String.intercalate "\n" target
  declaredText : (declaredInterface i).content = String.intercalate "\n" declared
  /-- The lines are those of the texts, unless a name breaks one. -/
  plain : (∀ t ∈ i.texts, OneLine t) →
    (targetInterface i).lines = target ∧ (declaredInterface i).lines = declared
  targetFields : targetFieldLines target = i.layout.fields.map fun f =>
    "    " ++ f.type.target ++ " " ++ f.name ++ " = \x7b\x7d;"
  bufferFields : bufferFieldLines i.name declared = i.layout.fields.map fun f =>
    "    " ++ f.type.declared ++ " " ++ f.name ++ ";"
  size : target.getLast? = some ("static_assert(sizeof(" ++ i.name ++ ") == " ++
    toString (i.layout.fields.map (·.type.size)).sum ++ ", \"" ++ i.name ++ " layout mismatch\");")
  /-- What the struct with the name of the interface gives access to, behind its constants. -/
  accessors : (memberLines i.name i.layout.register declared).drop i.constants.length =
    i.layout.declaredFields.map (fun f => "    static " ++ f.type.declared ++ " " ++ f.name ++
      "() \x7b return " ++ ("g_" ++ i.name ++ "Constants" ++ "." ++ f.name) ++ "; \x7d") ++
    i.bindings.map fun b => "    static " ++ b.typeText ++ " " ++ b.name ++
      "() \x7b return " ++ ("g_" ++ i.name ++ "_" ++ b.name) ++ "; \x7d"
  resources : resourceLines i.name i.layout.register declared = i.bindings.map fun b =>
    b.typeText ++ " " ++ ("g_" ++ i.name ++ "_" ++ b.name) ++ " : register(" ++
      (b.type.kind.letter ++ toString b.register) ++ ");"
  readOnly : offsetLines "SRVOffsets" target =
    (i.bindings.filter (·.type.kind.letter == "t")).map fun b =>
      "        static constexpr uint32_t " ++ b.name ++ " = " ++ toString b.register ++ ";"
  unordered : offsetLines "UAVOffsets" target =
    (i.bindings.filter (·.type.kind.letter == "u")).map fun b =>
      "        static constexpr uint32_t " ++ b.name ++ " = " ++ toString b.register ++ ";"
  letters : ∀ b ∈ i.bindings, b.type.kind.letter = "t" ∨ b.type.kind.letter = "u"
  counts : ((summaryLines i.name target).drop 2).take 2 = [
    "    static constexpr uint32_t SRVCount = " ++
      toString (offsetLines "SRVOffsets" target).length ++ ";",
    "    static constexpr uint32_t UAVCount = " ++
      toString (offsetLines "UAVOffsets" target).length ++ ";"]
  total : (offsetLines "SRVOffsets" target).length + (offsetLines "UAVOffsets" target).length =
    i.bindings.length

end Header

namespace Interface

theorem bindingsOf_letter (i : Interface) (kind : ResourceKind) :
    i.bindingsOf kind = i.bindings.filter (·.type.kind.letter == kind.letter) := by
  apply List.filter_congr
  intro b _
  cases b.type.kind <;> cases kind <;> rfl

theorem bindingsOf_lengths (i : Interface) :
    (i.bindingsOf .shaderResource).length + (i.bindingsOf .unorderedAccess).length =
      i.bindings.length := by
  have other : i.bindingsOf .unorderedAccess =
      i.bindings.filter fun b => !(b.type.kind == .shaderResource) := by
    apply List.filter_congr
    intro b _
    cases b.type.kind <;> rfl
  rw [other, bindingsOf]
  exact (List.length_eq_length_filter_add _).symm

open Header in
theorem mirrors_of_kinds (i : Interface) (kinds : ∀ b ∈ i.bindings, b.type ∈ ResourceType.all) :
    Mirrors i (targetLines i) (declaredLines i) where
  targetText := by rw [targetInterface_eq, ofLines, targetLines]
  declaredText := by rw [declaredInterface_eq, ofLines, declaredLines]
  plain unbroken :=
    ⟨targetInterface_lines i unbroken, declaredInterface_lines i unbroken kinds⟩
  targetFields := by
    rw [targetFieldLines_target, Header.targetFields, List.map_map]
    rfl
  bufferFields := by
    rw [bufferFieldLines_declared, declaredFields, List.map_map]
    rfl
  size := by
    rw [targetLines_getLast, Layout.byteSize, List.sum, List.foldr_map]
    rfl
  accessors := by
    rw [memberLines_declared, members, List.append_assoc, List.drop_left' (List.length_map _)]
    rfl
  resources := resourceLines_declared i
  readOnly := by
    rw [(offsetLines_target i).1, bindingsOf_letter]
    rfl
  unordered := by
    rw [(offsetLines_target i).2, bindingsOf_letter]
    rfl
  letters b _ := by cases b.type.kind <;> simp [ResourceKind.letter]
  counts := by
    rw [summaryLines_target, (offsetLines_target i).1, (offsetLines_target i).2, List.length_map,
      List.length_map]
    rfl
  total := by
    rw [(offsetLines_target i).1, (offsetLines_target i).2, List.length_map, List.length_map,
      bindingsOf_lengths]

/-- After any actions on a blank interface its headers mirror each other: they show the fields and
the resources of the actions that were accepted, with types in scope. -/
theorem headers_mirror (types : TypeScope) (name : String) (register : Nat)
    (actions : List Action) :
    let p := (blank name register).perform types actions
    p.1.Collects types p.2 ∧ ∃ target declared, Header.Mirrors p.1 target declared := by
  intro p
  have collects : p.1.Collects types p.2 :=
    perform_collects types actions (blank_collects types name register)
  exact ⟨collects, _, _, mirrors_of_kinds p.1 collects.kinds⟩

end Interface
end ShaderVariants
