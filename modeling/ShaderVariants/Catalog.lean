import ShaderVariants.Header.Registry

/-!
What a build has accepted so far, and its failures. Structures and interfaces share one space of
header names, in which the case of ASCII letters does not count and the two registry headers are
taken; shaders have names of their own. Several things offered together are added one by one, and
taken back when one of them is refused. Snapshots are sorted, so they do not depend on the order
of acceptance.
-/

namespace ShaderVariants

structure Catalog where
  structures : List SharedStructure
  interfaces : List Interface
  shaders : List Shader
  /-- The jobs of the shaders, as they were accepted. -/
  pending : List Job
  /-- The selectors of the shaders, as they were accepted. -/
  selectors : List KeyFields
  failures : List String
  /-- The flag that stops jobs from starting. -/
  hasFailed : Bool
  deriving DecidableEq, Repr

namespace Catalog

def empty : Catalog := ⟨[], [], [], [], [], [], false⟩

/-- A name without regard to the case of ASCII letters. -/
def foldCase (name : String) : List Char := name.toList.map Char.toLower

def reserved : List String := [Header.keysName, Header.byteCodesName]

/-- The names that no new header may have. -/
def headerNames (c : Catalog) : List String :=
  reserved ++ c.structures.map (·.name) ++ c.interfaces.map (·.name)

def isTaken (names : List String) (name : String) : Bool :=
  names.any (foldCase · == foldCase name)

def checkName (c : Catalog) (kind : NameKind) (name : String) : Except Fault Unit :=
  if isTaken c.headerNames name then .error (.duplicateName kind name) else .ok ()

/-! ## Offers -/

/-- Whether an offer is accepted, and the catalog after it. -/
abbrev Answer := Except Fault Unit × Catalog

/-- Adds things one after the other, up to the first whose name is taken. -/
def addEach (kind : NameKind) (name : α → String) (add : Catalog → α → Catalog) :
    Catalog → List α → Answer
  | c, [] => (.ok (), c)
  | c, a :: as =>
      match c.checkName kind (name a) with
      | .error fault => (.error fault, c)
      | .ok () => addEach kind name add (add c a) as

def addStructure (c : Catalog) (s : SharedStructure) : Catalog :=
  { c with structures := c.structures ++ [s] }

def addInterface (c : Catalog) (i : Interface) : Catalog :=
  { c with interfaces := c.interfaces ++ [i] }

/-- Adds a shader with its jobs and its selectors. -/
def addShader (c : Catalog) (s : Shader) : Catalog :=
  { c with
    pending := c.pending ++ Job.ofShader s
    selectors := c.selectors ++ KeyFields.ofShader s
    shaders := c.shaders ++ [s] }

/-- Takes back all structures but the first ones. -/
def keepStructures (c : Catalog) (count : Nat) : Catalog :=
  { c with structures := c.structures.take count }

/-- Takes back all interfaces but the first ones. -/
def keepInterfaces (c : Catalog) (count : Nat) : Catalog :=
  { c with interfaces := c.interfaces.take count }

def offerStructures (c : Catalog) (new : List SharedStructure) : Answer :=
  match addEach .shared (·.name) addStructure c new with
  | (.error fault, c') => (.error fault, c'.keepStructures c.structures.length)
  | accepted => accepted

def checkShader (c : Catalog) (shader : Shader) : Except Fault Unit :=
  if c.shaders.any (·.name == shader.name) then .error (.duplicateName .shader shader.name)
  else .ok ()

/-- Offers interfaces and perhaps a shader. -/
def offerDescription (c : Catalog) (new : List Interface) (shader : Option Shader) : Answer :=
  match addEach .interface (·.name) addInterface c new, shader with
  | (.error fault, c'), _ => (.error fault, c'.keepInterfaces c.interfaces.length)
  | (.ok (), c'), none => (.ok (), c')
  | (.ok (), c'), some shader =>
      match c'.checkShader shader with
      | .error fault => (.error fault, c'.keepInterfaces c.interfaces.length)
      | .ok () => (.ok (), c'.addShader shader)

def offerStructure (c : Catalog) (s : SharedStructure) : Answer := c.offerStructures [s]

def offerInterface (c : Catalog) (i : Interface) : Answer := c.offerDescription [i] none

def offerShader (c : Catalog) (s : Shader) : Answer := c.offerDescription [] (some s)

/-- The catalog after an offer, if it is accepted. -/
def Answer.accepted : Answer → Except Fault Catalog
  | (.ok (), c) => .ok c
  | (.error fault, _) => .error fault

def addStructures (c : Catalog) (new : List SharedStructure) : Except Fault Catalog :=
  (c.offerStructures new).accepted

/-- The log line of a shader that is accepted. -/
def shaderLine (shader : Shader) : LogLine :=
  ⟨.info, .catalog, s!"{shader.name}: {(Job.ofShader shader).length} compile jobs"⟩

/-! ## Failures -/

def addFailure (c : Catalog) (message : String) : Catalog :=
  { c with failures := c.failures ++ [message], hasFailed := true }

def failureLine (message : String) : LogLine := ⟨.error, .catalog, message⟩

/-! ## Snapshots -/

def sortedStructures (c : Catalog) : List SharedStructure :=
  c.structures.mergeSort fun a b => a.name ≤ b.name

def sortedInterfaces (c : Catalog) : List Interface :=
  c.interfaces.mergeSort fun a b => a.name ≤ b.name

def sortedShaders (c : Catalog) : List Shader :=
  c.shaders.mergeSort fun a b => a.name ≤ b.name

/-- Jobs by shader, then stage, then key. -/
def jobLe (a b : Job) : Bool :=
  if a.shader = b.shader then
    if a.stage = b.stage then a.key.mask ≤ b.key.mask else a.stage.index ≤ b.stage.index
  else a.shader ≤ b.shader

def jobs (c : Catalog) : List Job := c.pending.mergeSort jobLe

/-- Selectors by shader, then stage. -/
def keyFieldsLe (a b : KeyFields) : Bool :=
  if a.shader = b.shader then a.stage.index ≤ b.stage.index else a.shader ≤ b.shader

def keyFields (c : Catalog) : List KeyFields := c.selectors.mergeSort keyFieldsLe

end Catalog
end ShaderVariants
