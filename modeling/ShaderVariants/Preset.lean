import ShaderVariants.Catalog
import ShaderVariants.Layout.Interface

/-!
Shaders that every build has without a description file: each preset adds one interface and one
shader of the same name. A preset that fails is recorded, and the others are still added.
-/

namespace ShaderVariants

structure Preset where
  name : String
  interface : Except Fault Interface
  /-- The source, as seen from the directory of sources. -/
  file : String
  plans : List StagePlan

namespace Preset

def startLine (p : Preset) : LogLine := ⟨.info, .preset, s!"populating {p.name}"⟩

def failure (p : Preset) (fault : Fault) : String := s!"populator {p.name}: {fault.message}"

/-- Offers the preset to a catalog; the lines are logged even if that fails. -/
def offer (p : Preset) (c : Catalog) : Catalog.Answer × List LogLine :=
  match p.interface with
  | .error fault => ((.error fault, c), [])
  | .ok interface =>
      let lines := Shader.buildLines p.name p.plans
      match Shader.build p.name p.file p.plans with
      | .error fault => ((.error fault, c), lines)
      | .ok shader =>
          match c.offerDescription [interface] (some shader) with
          | (.error fault, c) => ((.error fault, c), lines)
          | (.ok (), c) => ((.ok (), c), lines ++ [Catalog.shaderLine shader])

/-- Adds the preset to a catalog, or else its failure. -/
def add (p : Preset) (c : Catalog) : Catalog × List LogLine :=
  match p.offer c with
  | ((.ok (), c), lines) => (c, p.startLine :: lines)
  | ((.error fault, c), lines) =>
      (c.addFailure (p.failure fault),
        p.startLine :: lines ++ [Catalog.failureLine (p.failure fault)])

def addAll : List Preset → Catalog → Catalog × List LogLine
  | [], c => (c, [])
  | p :: ps, c =>
      let (c, lines) := p.add c
      let (c, later) := addAll ps c
      (c, lines ++ later)

/-! ## Forward lighting -/

def lightingInterface : Except Fault Interface := do
  let types := TypeScope.empty
  let i := Interface.blank "ForwardLighting" 0
  let i ← i.addField types "float4x4" "ViewProjection"
  let i ← i.addField types "float4x4" "World"
  let i ← i.addField types "float3" "CameraPosition"
  let i ← i.addField types "float" "Time"
  let i ← i.addField types "float3" "LightDirection"
  let i ← i.addResource types "Texture2D" none 0 "DiffuseTexture"
  let i ← i.addResource types "StructuredBuffer" (some "float4") 1 "Lights"
  i.finish

/-- The bits of the vertex formats, of which a vertex shader has one. -/
def vertexFormats : List Nat := [1, 2, 4]

def lightingVertex : StagePlan where
  stage := .vertex
  entryPoint := "VSMain"
  defines := ["VERTEX_FORMAT_P", "VERTEX_FORMAT_PN", "VERTEX_FORMAT_PNT", "ALPHA_TEST"]
  rules := []
  keyFilter k := k.onlyOneOf vertexFormats

def lightingPixel : StagePlan where
  stage := .pixel
  entryPoint := "PSMain"
  defines := ["ALPHA_TEST", "NORMAL_MAP"]
  rules := []
  keyFilter _ := true

def lighting : Preset where
  name := "ForwardLighting"
  interface := lightingInterface
  file := "ForwardLighting.hlsl"
  plans := [lightingVertex, lightingPixel]

/-! ## User interface -/

def overlayInterface : Except Fault Interface := do
  let types := TypeScope.empty
  let i := Interface.blank "IMGUI" 0
  let i ← i.addField types "float4x4" "ProjectionMatrix"
  let i ← i.addResource types "Texture2D" none 0 "FontTexture"
  i.finish

def overlay : Preset where
  name := "IMGUI"
  interface := overlayInterface
  file := "IMGUI.hlsl"
  plans := [.plain .vertex "VSMain", .plain .pixel "PSMain"]

def standard : List Preset := [lighting, overlay]

end Preset
end ShaderVariants
