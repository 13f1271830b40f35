import ShaderVariants.Fault

/-!
The stages of a shader pipeline, in the order in which they run, with the names that files,
target profiles and defines are made of.
-/

namespace ShaderVariants

inductive Stage where
  | vertex
  | hull
  | domain
  | geometry
  | pixel
  | compute
  deriving DecidableEq, Repr

namespace Stage

def all : List Stage := [.vertex, .hull, .domain, .geometry, .pixel, .compute]

def name : Stage → String
  | .vertex => "Vertex"
  | .hull => "Hull"
  | .domain => "Domain"
  | .geometry => "Geometry"
  | .pixel => "Pixel"
  | .compute => "Compute"

/-- The letters that names of compiled files begin with. -/
def letters : Stage → String
  | .vertex => "VS"
  | .hull => "HS"
  | .domain => "DS"
  | .geometry => "GS"
  | .pixel => "PS"
  | .compute => "CS"

/-- The letters that target profiles begin with. -/
def profile : Stage → String
  | .vertex => "vs"
  | .hull => "hs"
  | .domain => "ds"
  | .geometry => "gs"
  | .pixel => "ps"
  | .compute => "cs"

/-- The define that tells a source for which stage it is compiled. -/
def define : Stage → String
  | .vertex => "VERTEX_SHADER"
  | .hull => "HULL_SHADER"
  | .domain => "DOMAIN_SHADER"
  | .geometry => "GEOMETRY_SHADER"
  | .pixel => "PIXEL_SHADER"
  | .compute => "COMPUTE_SHADER"

/-- The place of a stage in the pipeline. -/
def index : Stage → Nat
  | .vertex => 0
  | .hull => 1
  | .domain => 2
  | .geometry => 3
  | .pixel => 4
  | .compute => 5

def named? (name : String) : Option Stage := all.find? (·.name == name)

def named (name : String) : Except Fault Stage :=
  match named? name with
  | some stage => .ok stage
  | none => .error (.unknownStage name)

end Stage

/-- Something for each stage. -/
structure PerStage (α : Type) where
  vertex : α
  hull : α
  domain : α
  geometry : α
  pixel : α
  compute : α
  deriving DecidableEq, Repr

def PerStage.get (p : PerStage α) : Stage → α
  | .vertex => p.vertex
  | .hull => p.hull
  | .domain => p.domain
  | .geometry => p.geometry
  | .pixel => p.pixel
  | .compute => p.compute

def PerStage.set (p : PerStage α) (stage : Stage) (a : α) : PerStage α :=
  match stage with
  | .vertex => { p with vertex := a }
  | .hull => { p with hull := a }
  | .domain => { p with domain := a }
  | .geometry => { p with geometry := a }
  | .pixel => { p with pixel := a }
  | .compute => { p with compute := a }

def PerStage.all (a : α) : PerStage α := ⟨a, a, a, a, a, a⟩

end ShaderVariants
