import ShaderVariants.Proofs.Dependencies
import ShaderVariants.Proofs.Intake
import ShaderVariants.Proofs.Orders
import ShaderVariants.Proofs.Trees

/-!
What becomes of each description file. A file is found unreadable, or its structures are refused,
or its interfaces or its shader are, or it is accepted; what it leaves in the catalog is what the
catalog has gained at its turn. All structures are registered before the first interface is made,
so a file has two turns, and what can happen at them is told once.
-/

namespace ShaderVariants.Intake
open Catalog

/-- What becomes of a description file, with what it leaves in the catalog. -/
inductive Fate where
  /-- It cannot be read or makes no sense. -/
  | unread (fault : Fault)
  /-- Its structures are refused. -/
  | unregistered (fault : Fault)
  /-- Its structures are taken, but its interfaces or its shader are refused. -/
  | refused (structures : List SharedStructure) (fault : Fault)
  | accepted (structures : List SharedStructure) (interfaces : List Interface)
      (shader : Option Shader)

inductive Step where
  | reading
  | registering
  | describing

namespace Fate

def structures : Fate → List SharedStructure
  | .refused structures _ => structures
  | .accepted structures _ _ => structures
  | _ => []

def interfaces : Fate → List Interface
  | .accepted _ interfaces _ => interfaces
  | _ => []

def shaders : Fate → List Shader
  | .accepted _ _ shader => shader.toList
  | _ => []

/-- The failure that a file with this fate leaves at a step. -/
def message (path : Path) : Step → Fate → Option String
  | .reading, .unread fault => some fault.message
  | .registering, .unregistered fault => some s!"{path.text}: {fault.message}"
  | .describing, .refused _ fault => some s!"{path.text}: {fault.message}"
  | _, _ => none

theorem message_once {path : Path} {step other : Step} {fate : Fate} {message : String}
    (failed : fate.message path step = some message) (apart : other ≠ step) :
    fate.message path other = none := by
  cases fate <;> cases step <;> cases other <;> first | rfl | contradiction

end Fate

def messages (step : Step) (fates : List (Path × Fate)) : List String :=
  fates.filterMap fun f => f.2.message f.1 step

/-! ## The fates of files -/

def registered (tree : FileTree) : Intake → List Path → Intake
  | i, [] => i
  | i, path :: paths =>
      match Description.ofFile tree path with
      | .error _ => registered tree i paths
      | .ok d => registered tree (i.addStructures d.structures).2 paths

/-- The fates of files, where `turn` is the intake that the structures of the first file are added
to, and `later` the one that its interfaces and its shader are added to. -/
def fatesFrom (tree : FileTree) : (turn later : Intake) → List Path → List (Path × Fate)
  | _, _, [] => []
  | turn, later, path :: paths =>
      match Description.ofFile tree path with
      | .error fault => (path, .unread fault) :: fatesFrom tree turn later paths
      | .ok d =>
          match turn.addStructures d.structures with
          | (.error fault, _) => (path, .unregistered fault) :: fatesFrom tree turn later paths
          | (.ok (), next) =>
              let structures := next.catalog.structures.drop turn.catalog.structures.length
              match (later.addDescription d).1 with
              | (.error fault, _) =>
                  (path, .refused structures fault) :: fatesFrom tree next later paths
              | (.ok (), catalog) =>
                  let interfaces := catalog.interfaces.drop later.catalog.interfaces.length
                  let shader := (catalog.shaders.drop later.catalog.shaders.length).head?
                  (path, .accepted structures interfaces shader) ::
                    fatesFrom tree next { later with catalog } paths

/-- The fates of files that are all registered before the first of them is described. -/
def fates (tree : FileTree) (i : Intake) (paths : List Path) : List (Path × Fate) :=
  fatesFrom tree i (registered tree i paths) paths

/-! ## The turn of a file -/

theorem stage_types (ds : List Description.Structure) (types later : TypeScope)
    (structures : List SharedStructure) (success : stage types ds = .ok (later, structures)) :
    later.structures = types.structures ++ structures.map fun s => (s.name, s.byteSize) := by
  induction ds generalizing types structures with
  | nil =>
    cases success
    simp
  | cons d ds ih =>
    simp only [stage, bind_eq_ok] at success
    obtain ⟨s, _, next, added, ⟨last, rest⟩, staged, made⟩ := success
    cases made
    obtain ⟨_, _, rfl⟩ := TypeScope.register_eq_ok added
    rw [ih _ rest staged, List.map_cons, List.append_assoc, List.singleton_append]

/-- The structures of a file are all added, or none is. -/
theorem addStructures_cases (i : Intake) (ds : List Description.Structure) :
    (∃ types structures, stage i.types ds = .ok (types, structures) ∧
        i.addStructures ds =
          (.ok (), { i with types, catalog := i.catalog.grow (.sharedStructures structures) })) ∨
      ∃ fault, i.addStructures ds = (.error fault, i) := by
  unfold addStructures
  cases staged : stage i.types ds with
  | error fault => exact Or.inr ⟨fault, rfl⟩
  | ok made =>
    obtain ⟨types, structures⟩ := made
    rcases answer_cases i.catalog (.sharedStructures structures) with
      ⟨_, accepted⟩ | ⟨_, fault, refused⟩
    · rw [answer] at accepted
      simp only [accepted]
      exact Or.inl ⟨types, structures, rfl, rfl⟩
    · rw [answer] at refused
      simp only [refused]
      exact Or.inr ⟨fault, rfl⟩

/-- The interfaces and the shader of a file are all added, or none is. -/
theorem addDescription_cases (i : Intake) (d : Description) :
    (∃ interfaces shader, d.interfaces.mapM (Interface.ofDescription i.types) = .ok interfaces ∧
        d.shader.mapM Shader.ofDescription = .ok shader ∧
        (i.addDescription d).1 = (.ok (), i.catalog.grow (.description interfaces shader))) ∨
      ∃ fault, (i.addDescription d).1 = (.error fault, i.catalog) := by
  unfold addDescription
  cases made : d.interfaces.mapM (Interface.ofDescription i.types) with
  | error fault => exact Or.inr ⟨fault, rfl⟩
  | ok interfaces =>
    cases given : d.shader with
    | none =>
      rcases answer_cases i.catalog (.description interfaces none) with
        ⟨_, accepted⟩ | ⟨_, fault, refused⟩
      · exact Or.inl ⟨interfaces, none, rfl, rfl, accepted⟩
      · exact Or.inr ⟨fault, refused⟩
    | some shader =>
      simp only [offer]
      cases built : Shader.ofDescription shader with
      | error fault => exact Or.inr ⟨fault, rfl⟩
      | ok s =>
        rcases answer_cases i.catalog (.description interfaces (some s)) with
          ⟨_, accepted⟩ | ⟨_, fault, refused⟩
        · rw [answer] at accepted
          simp only [accepted]
          refine Or.inl ⟨interfaces, some s, rfl, ?_, rfl⟩
          rw [Option.mapM_some, built]
          rfl
        · rw [answer] at refused
          simp only [refused]
          exact Or.inr ⟨fault, rfl⟩

/-- What happens at the turn of a file, with the intakes that the next file finds. -/
inductive Turn (tree : FileTree) (turn later : Intake) (path : Path) :
    Fate → (turn' later' : Intake) → Prop
  | unread {fault : Fault} (opened : Description.ofFile tree path = .error fault) :
      Turn tree turn later path (.unread fault) turn later
  | unregistered {d : Description} {fault : Fault}
      (opened : Description.ofFile tree path = .ok d)
      (refused : turn.addStructures d.structures = (.error fault, turn)) :
      Turn tree turn later path (.unregistered fault) turn later
  | refused {d : Description} {types : TypeScope} {structures : List SharedStructure}
      {fault : Fault} (opened : Description.ofFile tree path = .ok d)
      (staged : stage turn.types d.structures = .ok (types, structures))
      (added : turn.addStructures d.structures =
        (.ok (), { turn with types, catalog := turn.catalog.grow (.sharedStructures structures) }))
      (refused : (later.addDescription d).1 = (.error fault, later.catalog)) :
      Turn tree turn later path (.refused structures fault)
        { turn with types, catalog := turn.catalog.grow (.sharedStructures structures) } later
  | accepted {d : Description} {types : TypeScope} {structures : List SharedStructure}
      {interfaces : List Interface} {shader : Option Shader}
      (opened : Description.ofFile tree path = .ok d)
      (staged : stage turn.types d.structures = .ok (types, structures))
      (added : turn.addStructures d.structures =
        (.ok (), { turn with types, catalog := turn.catalog.grow (.sharedStructures structures) }))
      (made : d.interfaces.mapM (Interface.ofDescription later.types) = .ok interfaces)
      (built : d.shader.mapM Shader.ofDescription = .ok shader)
      (described : (later.addDescription d).1 =
        (.ok (), later.catalog.grow (.description interfaces shader))) :
      Turn tree turn later path (.accepted structures interfaces shader)
        { turn with types, catalog := turn.catalog.grow (.sharedStructures structures) }
        { later with catalog := later.catalog.grow (.description interfaces shader) }

theorem turn_cases (tree : FileTree) (turn later : Intake) (path : Path) :
    ∃ fate turn' later', Turn tree turn later path fate turn' later' := by
  cases opened : Description.ofFile tree path with
  | error fault => exact ⟨_, turn, later, .unread opened⟩
  | ok d =>
    rcases addStructures_cases turn d.structures with
      ⟨types, structures, staged, added⟩ | ⟨fault, refused⟩
    · rcases addDescription_cases later d with
        ⟨interfaces, shader, made, built, described⟩ | ⟨fault, refused⟩
      · exact ⟨_, _, _, .accepted opened staged added made built described⟩
      · exact ⟨_, _, _, .refused opened staged added refused⟩
    · exact ⟨_, _, _, .unregistered opened refused⟩

section
variable {tree : FileTree} {turn later turn' later' : Intake} {path : Path} {fate : Fate}
  (happens : Turn tree turn later path fate turn' later')
include happens

theorem Turn.fates (paths : List Path) : fatesFrom tree turn later (path :: paths) =
    (path, fate) :: fatesFrom tree turn' later' paths := by
  have gained (structures : List SharedStructure) :
      (turn.catalog.grow (.sharedStructures structures)).structures.drop
        turn.catalog.structures.length = structures := List.drop_left
  rw [fatesFrom]
  cases happens with
  | unread opened => rw [opened]
  | unregistered opened refused => simp only [opened, refused]
  | refused opened _ added refused => simp only [opened, added, refused, gained]
  | @accepted _ _ _ interfaces shader opened _ added _ _ described =>
    have interfaces' : (later.catalog.grow (.description interfaces shader)).interfaces.drop
        later.catalog.interfaces.length = interfaces := List.drop_left
    have shaders' : ((later.catalog.grow (.description interfaces shader)).shaders.drop
        later.catalog.shaders.length).head? = shader := by
      simp only [grow, Request.shader?, List.drop_left]
      cases shader <;> rfl
    simp only [opened, added, described, gained, interfaces', shaders']

theorem Turn.registered (paths : List Path) :
    registered tree turn (path :: paths) = registered tree turn' paths := by
  rw [Intake.registered]
  cases happens with
  | unread opened => rw [opened]
  | unregistered opened refused => simp only [opened, refused]
  | refused opened _ added _ => simp only [opened, added]
  | accepted opened _ added _ _ _ => simp only [opened, added]

theorem Turn.types : later'.types = later.types := by
  cases happens <;> rfl

end

/-! ## What fates say of files -/

/-- Whether a fate is true of a file, given the types once all files are registered. -/
def Fate.Holds (tree : FileTree) (types : TypeScope) (path : Path) : Fate → Prop
  | .unread fault => Description.ofFile tree path = .error fault
  | .unregistered fault => ∃ d, Description.ofFile tree path = .ok d ∧
      ∃ i : Intake, i.addStructures d.structures = (.error fault, i)
  | .refused structures fault => ∃ d, Description.ofFile tree path = .ok d ∧
      (∃ before after, stage before d.structures = .ok (after, structures)) ∧
      ∃ i : Intake, i.types = types ∧ (i.addDescription d).1 = (.error fault, i.catalog)
  | .accepted structures interfaces shader => ∃ d, Description.ofFile tree path = .ok d ∧
      (∃ before after, stage before d.structures = .ok (after, structures)) ∧
      d.interfaces.mapM (Interface.ofDescription types) = .ok interfaces ∧
      d.shader.mapM Shader.ofDescription = .ok shader

theorem Turn.holds {tree : FileTree} {turn later turn' later' : Intake} {path : Path} {fate : Fate}
    (happens : Turn tree turn later path fate turn' later') : fate.Holds tree later.types path := by
  cases happens with
  | unread opened => exact opened
  | unregistered opened refused => exact ⟨_, opened, _, refused⟩
  | refused opened staged _ refused => exact ⟨_, opened, ⟨_, _, staged⟩, _, rfl, refused⟩
  | accepted opened staged _ made built _ => exact ⟨_, opened, ⟨_, _, staged⟩, made, built⟩

theorem fatesFrom_hold (tree : FileTree) (paths : List Path) (turn later : Intake) :
    ∀ f ∈ fatesFrom tree turn later paths, f.2.Holds tree later.types f.1 := by
  induction paths generalizing turn later with
  | nil => simp [fatesFrom]
  | cons path paths ih =>
    obtain ⟨fate, turn', later', happens⟩ := turn_cases tree turn later path
    rw [happens.fates, List.forall_mem_cons, ← happens.types]
    exact ⟨happens.types ▸ happens.holds, ih turn' later'⟩

theorem fatesFrom_paths (tree : FileTree) (paths : List Path) (turn later : Intake) :
    (fatesFrom tree turn later paths).map (·.1) = paths := by
  induction paths generalizing turn later with
  | nil => rfl
  | cons path paths ih =>
    obtain ⟨fate, turn', later', happens⟩ := turn_cases tree turn later path
    rw [happens.fates, List.map_cons, ih]

theorem fates_paths (tree : FileTree) (i : Intake) (paths : List Path) :
    (fates tree i paths).map (·.1) = paths :=
  fatesFrom_paths tree paths i _

end ShaderVariants.Intake
