import ShaderVariants.Header.Basic

/-!
The two headers of an interface and of a shared structure. The C++ header has a struct with the
fields of the layout and the registers of the resources; the shader header declares the constant
buffer and the resources and gives access to them under the name of the interface.
-/

namespace ShaderVariants.Header

def structureKind : String := "global structure"
def interfaceKind : String := "shader inputs"

/-! ## Structures -/

def targetStructure (s : SharedStructure) (types : TypeScope) : Header :=
  ofLines (fileOf s.name) <|
    targetStart structureKind s.name (s.dependencies types) ++
    ["", s!"struct {s.name}", openBrace] ++
    (targetFields s.layout).map targetLine ++
    [closeBrace, "", sizeAssertion s.name s.byteSize]

def declaredStructure (s : SharedStructure) (types : TypeScope) : Header :=
  ofLines (fileOf s.name) <|
    declaredStart structureKind s.name (s.dependencies types) ++
    ["", s!"struct {s.name}", openBrace] ++
    (declaredFields s.layout).map declaredLine ++
    [closeBrace] ++ declaredEnd s.name

/-! ## Interfaces in C++ -/

def targetConstantLine (c : NamedConstant) : String :=
  s!"    static constexpr {c.type.target} {c.name} = {c.value};"

def offsetLine (b : Binding) : String :=
  s!"        static constexpr uint32_t {b.name} = {b.register};"

def offsetStruct (name : String) (bindings : List Binding) : List String :=
  [s!"    struct {name}", "    " ++ openBrace] ++ bindings.map offsetLine ++ ["    " ++ closeBrace]

def targetInterface (i : Interface) : Header :=
  let resources := i.bindingsOf .shaderResource
  let unordered := i.bindingsOf .unorderedAccess
  ofLines (fileOf i.name) <|
    targetStart interfaceKind i.name i.dependencies ++
    ["", s!"struct {i.name}", openBrace,
      s!"    static constexpr const char* Name = \"{i.name}\";",
      s!"    static constexpr uint32_t Register = {i.layout.register};",
      s!"    static constexpr uint32_t SRVCount = {resources.length};",
      s!"    static constexpr uint32_t UAVCount = {unordered.length};"] ++
    i.constants.map targetConstantLine ++
    [""] ++ offsetStruct "SRVOffsets" resources ++
    [""] ++ offsetStruct "UAVOffsets" unordered ++
    [""] ++ (targetFields i.layout).map targetLine ++
    [closeBrace, "", sizeAssertion i.name i.layout.byteSize]

/-! ## Interfaces in shader code -/

def declaredConstantLine (c : NamedConstant) : String :=
  s!"    static const {c.type.declared} {c.name} = {c.value};"

/-- The variable that holds the constant buffer. -/
def bufferVariable (i : Interface) : String := s!"g_{i.name}Constants"

/-- The variable that holds a resource. -/
def resourceVariable (i : Interface) (b : Binding) : String := s!"g_{i.name}_{b.name}"

def bufferLine (i : Interface) : String :=
  s!"ConstantBuffer<{i.name}Constants> {bufferVariable i} : register(b{i.layout.register});"

def resourceLine (i : Interface) (b : Binding) : String :=
  s!"{b.typeText} {resourceVariable i b} : register({b.registerText});"

/-- A function that gives a variable under a name of its own. -/
def accessorLine (type name value : String) : String :=
  s!"    static {type} {name}() \x7b return {value}; \x7d"

def fieldAccessor (i : Interface) (f : LayoutField) : String :=
  accessorLine f.type.declared f.name s!"{bufferVariable i}.{f.name}"

def resourceAccessor (i : Interface) (b : Binding) : String :=
  accessorLine b.typeText b.name (resourceVariable i b)

def declaredInterface (i : Interface) : Header :=
  ofLines (fileOf i.name) <|
    declaredStart interfaceKind i.name i.dependencies ++
    ["", s!"struct {i.name}Constants", openBrace] ++
    (declaredFields i.layout).map declaredLine ++
    [closeBrace, "", bufferLine i, ""] ++
    i.bindings.map (resourceLine i) ++
    ["", s!"struct {i.name}", openBrace] ++
    i.constants.map declaredConstantLine ++
    i.layout.declaredFields.map (fieldAccessor i) ++
    i.bindings.map (resourceAccessor i) ++
    [closeBrace] ++ declaredEnd i.name

end ShaderVariants.Header
