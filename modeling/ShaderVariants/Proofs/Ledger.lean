import ShaderVariants.Proofs.Fates

/-!
What description files leave behind. Failures are recorded on the way but never looked at: an
intake with failures goes the way of the one without. So the fates of the files account for all
that has become of an intake: the types, what is in the catalog, and the failures, step by step
and in the order of the files.
-/

namespace ShaderVariants

/-! ## Failures are not looked at -/

namespace Catalog

def addFailures (c : Catalog) (messages : List String) : Catalog :=
  { c with failures := c.failures ++ messages, hasFailed := c.hasFailed || !messages.isEmpty }

@[simp]
theorem addFailures_nil (c : Catalog) : c.addFailures [] = c := by
  simp [addFailures]

theorem addFailures_append (c : Catalog) (first second : List String) :
    c.addFailures (first ++ second) = (c.addFailures first).addFailures second := by
  cases first <;> cases second <;> simp [addFailures]

theorem addFailure_eq (c : Catalog) (message : String) :
    c.addFailure message = c.addFailures [message] := by
  simp [addFailure, addFailures]

private theorem addEach_addFailures {α : Type} (kind : NameKind) (name : α → String)
    (add : Catalog → α → Catalog) (messages : List String)
    (same : ∀ c a, add (c.addFailures messages) a = (add c a).addFailures messages)
    (new : List α) (c : Catalog) :
    addEach kind name add (c.addFailures messages) new =
      ((addEach kind name add c new).1, (addEach kind name add c new).2.addFailures messages) := by
  induction new generalizing c with
  | nil => rfl
  | cons a new ih =>
    have checked :
        (c.addFailures messages).checkName kind (name a) = c.checkName kind (name a) := rfl
    rw [addEach, addEach, checked]
    cases c.checkName kind (name a) with
    | error fault => rfl
    | ok _ => exact (congrArg (addEach kind name add · new) (same c a)).trans (ih (add c a))

theorem offerStructures_addFailures (c : Catalog) (messages : List String)
    (new : List SharedStructure) :
    (c.addFailures messages).offerStructures new =
      ((c.offerStructures new).1, (c.offerStructures new).2.addFailures messages) := by
  have each := addEach_addFailures .shared (·.name) addStructure messages (fun _ _ => rfl) new c
  unfold offerStructures
  rw [each]
  generalize addEach .shared (·.name) addStructure c new = answer
  obtain ⟨result, next⟩ := answer
  cases result <;> rfl

theorem offerDescription_addFailures (c : Catalog) (messages : List String)
    (new : List Interface) (shader : Option Shader) :
    (c.addFailures messages).offerDescription new shader =
      ((c.offerDescription new shader).1,
        (c.offerDescription new shader).2.addFailures messages) := by
  have each := addEach_addFailures .interface (·.name) addInterface messages (fun _ _ => rfl) new c
  unfold offerDescription
  rw [each]
  generalize addEach .interface (·.name) addInterface c new = answer
  obtain ⟨result, next⟩ := answer
  cases result with
  | error fault => rfl
  | ok _ =>
    cases shader with
    | none => rfl
    | some s =>
      have checked : (next.addFailures messages).checkShader s = next.checkShader s := rfl
      simp only [checked]
      cases next.checkShader s <;> rfl

end Catalog

namespace Intake
open Catalog

/-! ## Intake with failures -/

/-- Whether an intake is another one with further failures. -/
structure Follows (clean actual : Intake) (messages : List String) : Prop where
  types : actual.types = clean.types
  catalog : actual.catalog = clean.catalog.addFailures messages

theorem Follows.refl (i : Intake) : Follows i i [] := ⟨rfl, by simp⟩

section
variable {clean actual : Intake} {messages : List String} (follows : Follows clean actual messages)
include follows

theorem Follows.fail (message : String) :
    Follows clean (actual.fail message) (messages ++ [message]) where
  types := follows.types
  catalog := by
    simp only [Intake.fail, follows.catalog, addFailure_eq, addFailures_append]

theorem Follows.failAt (path : Path) (fault : Fault) :
    Follows clean (actual.failAt path fault) (messages ++ [s!"{path.text}: {fault.message}"]) :=
  { follows.fail s!"{path.text}: {fault.message}" with }

theorem Follows.addStructures (ds : List Description.Structure) :
    (actual.addStructures ds).1 = (clean.addStructures ds).1 ∧
      Follows (clean.addStructures ds).2 (actual.addStructures ds).2 messages := by
  unfold Intake.addStructures
  rw [follows.types, follows.catalog]
  cases stage clean.types ds with
  | error fault => exact ⟨rfl, follows⟩
  | ok made =>
    obtain ⟨types, structures⟩ := made
    simp only [offerStructures_addFailures]
    generalize clean.catalog.offerStructures structures = answer
    obtain ⟨result, next⟩ := answer
    cases result with
    | error fault => exact ⟨rfl, rfl, rfl⟩
    | ok _ => exact ⟨rfl, rfl, rfl⟩

theorem Follows.register_ok (file : SourceFile) {next : Intake}
    (added : clean.addStructures file.description.structures = (.ok (), next))
    (files : List SourceFile) : ∃ actual', Follows next actual' messages ∧
      register actual (file :: files) =
        (file :: (register actual' files).1, (register actual' files).2) := by
  obtain ⟨same, still⟩ := follows.addStructures file.description.structures
  rw [added] at same still
  refine ⟨_, still, ?_⟩
  rw [register]
  generalize actual.addStructures file.description.structures = answer at same
  obtain ⟨result, actual'⟩ := answer
  cases same
  rfl

theorem Follows.register_error (file : SourceFile) {fault : Fault}
    (refused : clean.addStructures file.description.structures = (.error fault, clean))
    (files : List SourceFile) : ∃ actual',
      Follows clean actual' (messages ++ [s!"{file.path.text}: {fault.message}"]) ∧
      register actual (file :: files) = register actual' files := by
  obtain ⟨same, still⟩ := follows.addStructures file.description.structures
  rw [refused] at same still
  refine ⟨_, still.failAt file.path fault, ?_⟩
  rw [register]
  generalize actual.addStructures file.description.structures = answer at same
  obtain ⟨result, actual'⟩ := answer
  cases same
  rfl

theorem Follows.addDescription (d : Description) :
    (actual.addDescription d).1 =
      ((clean.addDescription d).1.1, (clean.addDescription d).1.2.addFailures messages) := by
  unfold Intake.addDescription
  rw [follows.types, follows.catalog]
  cases d.interfaces.mapM (Interface.ofDescription clean.types) with
  | error fault => rfl
  | ok interfaces =>
    cases d.shader with
    | none => exact offerDescription_addFailures _ _ _ _
    | some shader =>
      simp only [offer]
      cases Shader.ofDescription shader with
      | error fault => rfl
      | ok s =>
        simp only [offerDescription_addFailures]
        generalize clean.catalog.offerDescription interfaces (some s) = answer
        obtain ⟨result, next⟩ := answer
        cases result <;> rfl

theorem Follows.process_ok (file : SourceFile) {catalog : Catalog}
    (described : (clean.addDescription file.description).1 = (.ok (), catalog)) :
    Follows { clean with catalog } (actual.process file) messages := by
  have same := follows.addDescription file.description
  rw [described] at same
  simp only [process, same]
  exact ⟨follows.types, rfl⟩

theorem Follows.process_error (file : SourceFile) {fault : Fault}
    (refused : (clean.addDescription file.description).1 = (.error fault, clean.catalog)) :
    Follows clean (actual.process file)
      (messages ++ [s!"{file.path.text}: {fault.message}"]) := by
  have same := follows.addDescription file.description
  rw [refused] at same
  have middle (log : List LogLine) : Follows clean
      { actual with catalog := clean.catalog.addFailures messages, log } messages :=
    ⟨follows.types, rfl⟩
  simp only [process, same]
  exact (middle _).failAt file.path fault

end

/-! ## All files -/

def opened (tree : FileTree) (paths : List Path) : List SourceFile :=
  paths.filterMap fun path => (Description.ofFile tree path).toOption.map (SourceFile.mk path)

def keptFrom (tree : FileTree) : Intake → List Path → List SourceFile
  | _, [] => []
  | turn, path :: paths =>
      match Description.ofFile tree path with
      | .error _ => keptFrom tree turn paths
      | .ok d =>
          match turn.addStructures d.structures with
          | (.error _, _) => keptFrom tree turn paths
          | (.ok (), next) => ⟨path, d⟩ :: keptFrom tree next paths

theorem messages_of_silent {step : Step} {path : Path} {fate : Fate}
    (silent : fate.message path step = none) (rest : List (Path × Fate)) :
    messages step ((path, fate) :: rest) = messages step rest :=
  List.filterMap_cons_none silent

theorem messages_of_failed {step : Step} {path : Path} {fate : Fate} {message : String}
    (failed : fate.message path step = some message) (rest : List (Path × Fate)) :
    messages step ((path, fate) :: rest) = message :: messages step rest :=
  List.filterMap_cons_some failed

theorem opened_cons (tree : FileTree) (path : Path) (paths : List Path) :
    opened tree (path :: paths) =
      ((Description.ofFile tree path).toOption.map (SourceFile.mk path)).toList ++
        opened tree paths := by
  simp only [opened, List.filterMap_cons]
  cases (Description.ofFile tree path).toOption <;> rfl

theorem read_follows (tree : FileTree) (paths : List Path) (turn later clean actual : Intake)
    (before : List String) (follows : Follows clean actual before) :
    (read tree actual paths).1 = opened tree paths ∧
      Follows clean (read tree actual paths).2
        (before ++ messages .reading (fatesFrom tree turn later paths)) := by
  induction paths generalizing turn later actual before with
  | nil => exact ⟨rfl, by simpa [read, messages, fatesFrom] using follows⟩
  | cons path paths ih =>
    obtain ⟨fate, turn', later', happens⟩ := turn_cases tree turn later path
    rw [happens.fates, read, opened_cons]
    have rest := ih turn' later' actual before follows
    cases happens with
    | unread broken =>
      rw [broken, messages_of_failed rfl, List.append_cons]
      exact ih turn later _ _ (follows.fail _)
    | unregistered sound _ | refused sound _ _ _ | accepted sound _ _ _ _ _ =>
      rw [sound, messages_of_silent rfl]
      exact ⟨congrArg _ rest.1, rest.2⟩

theorem register_follows (tree : FileTree) (paths : List Path) (turn later actual : Intake)
    (before : List String) (follows : Follows turn actual before) :
    (register actual (opened tree paths)).1 = keptFrom tree turn paths ∧
      Follows (registered tree turn paths) (register actual (opened tree paths)).2
        (before ++ messages .registering (fatesFrom tree turn later paths)) := by
  induction paths generalizing turn later actual before with
  | nil => exact ⟨rfl, by simpa [register, opened, registered, messages, fatesFrom] using follows⟩
  | cons path paths ih =>
    obtain ⟨fate, turn', later', happens⟩ := turn_cases tree turn later path
    have rest (actual' : Intake) (still : Follows turn' actual' before) :=
      ih turn' later' actual' before still
    rw [happens.fates, happens.registered, opened_cons, keptFrom]
    cases happens with
    | unread broken =>
      rw [broken, messages_of_silent rfl]
      exact rest actual follows
    | @unregistered d fault sound refused =>
      obtain ⟨actual', still, whole⟩ := follows.register_error ⟨path, d⟩ refused
        (opened tree paths)
      simp only [sound, refused]
      rw [messages_of_failed rfl, List.append_cons]
      exact whole ▸ ih turn later actual' _ still
    | @refused d _ _ _ sound _ added _ | @accepted d _ _ _ _ sound _ added _ _ _ =>
      obtain ⟨actual', still, whole⟩ := follows.register_ok ⟨path, d⟩ added (opened tree paths)
      simp only [sound, added]
      rw [messages_of_silent rfl]
      exact whole ▸ ⟨congrArg _ (rest actual' still).1, (rest actual' still).2⟩

def withDescribed (c : Catalog) (fates : List (Path × Fate)) : Catalog :=
  let shaders := fates.flatMap (·.2.shaders)
  { c with
    interfaces := c.interfaces ++ fates.flatMap (·.2.interfaces)
    shaders := c.shaders ++ shaders
    pending := c.pending ++ shaders.flatMap Job.ofShader
    selectors := c.selectors ++ shaders.flatMap KeyFields.ofShader }

theorem withDescribed_cons (c : Catalog) (path : Path) (fate : Fate) (rest : List (Path × Fate)) :
    withDescribed c ((path, fate) :: rest) =
      withDescribed (withDescribed c [(path, fate)]) rest := by
  simp [withDescribed]

theorem withDescribed_silent {c : Catalog} {path : Path} {fate : Fate}
    (interfaces : fate.interfaces = []) (shaders : fate.shaders = []) :
    withDescribed c [(path, fate)] = c := by
  simp [withDescribed, interfaces, shaders]

theorem withDescribed_accepted (c : Catalog) (path : Path) (structures : List SharedStructure)
    (interfaces : List Interface) (shader : Option Shader) :
    withDescribed c [(path, .accepted structures interfaces shader)] =
      c.grow (.description interfaces shader) := by
  simp [withDescribed, grow, Fate.interfaces, Fate.shaders]

theorem process_follows (tree : FileTree) (paths : List Path) (turn later actual : Intake)
    (before : List String) (follows : Follows later actual before) :
    let fates := fatesFrom tree turn later paths
    Follows { later with catalog := withDescribed later.catalog fates }
      ((keptFrom tree turn paths).foldl process actual)
      (before ++ messages .describing fates) := by
  induction paths generalizing turn later actual before with
  | nil => simpa [keptFrom, withDescribed, messages, fatesFrom] using follows
  | cons path paths ih =>
    obtain ⟨fate, turn', later', happens⟩ := turn_cases tree turn later path
    have rest (actual' : Intake) (still : Follows later' actual' before) :=
      ih turn' later' actual' before still
    dsimp only at rest ⊢
    rw [happens.fates, withDescribed_cons, keptFrom]
    cases happens with
    | unread broken =>
      rw [broken, withDescribed_silent rfl rfl, messages_of_silent rfl]
      exact rest actual follows
    | unregistered sound refused =>
      simp only [sound, refused]
      rw [withDescribed_silent rfl rfl, messages_of_silent rfl]
      exact rest actual follows
    | @refused d _ _ _ sound _ added refused =>
      simp only [sound, added]
      rw [withDescribed_silent rfl rfl, messages_of_failed rfl, List.append_cons]
      exact ih _ later _ _ (follows.process_error ⟨path, d⟩ refused)
    | @accepted d _ _ _ _ sound _ added _ _ described =>
      simp only [sound, added]
      rw [withDescribed_accepted, messages_of_silent rfl]
      exact rest _ (follows.process_ok ⟨path, d⟩ described)

/-- The structures that files have left are registered and in the catalog. -/
theorem registered_eq (tree : FileTree) (paths : List Path) (turn later : Intake) :
    let structures := (fatesFrom tree turn later paths).flatMap (·.2.structures)
    registered tree turn paths = { turn with
      types := ⟨turn.types.structures ++ structures.map fun s => (s.name, s.byteSize)⟩
      catalog := turn.catalog.grow (.sharedStructures structures) } := by
  induction paths generalizing turn later with
  | nil => simp [registered, fatesFrom, grow]
  | cons path paths ih =>
    obtain ⟨fate, turn', later', happens⟩ := turn_cases tree turn later path
    have rest := ih turn' later'
    dsimp only at rest ⊢
    rw [happens.registered, happens.fates, rest, List.flatMap_cons]
    cases happens with
    | unread _ | unregistered _ _ => rfl
    | refused _ staged _ _ | accepted _ staged _ _ _ _ =>
      simp [stage_types _ _ _ _ staged, grow, Fate.structures]

theorem takeFiles_follows (tree : FileTree) (i : Intake) (paths : List Path) :
    let fates := fates tree i paths
    let later := registered tree i paths
    Follows { later with catalog := withDescribed later.catalog fates } (takeFiles tree i paths)
      (messages .reading fates ++ messages .registering fates ++ messages .describing fates) := by
  have start := read_follows tree paths i (registered tree i paths) i i [] (Follows.refl i)
  have middle := register_follows tree paths i (registered tree i paths) _ _ start.2
  have whole : takeFiles tree i paths = (keptFrom tree i paths).foldl process
      (register (read tree i paths).2 (opened tree paths)).2 := by
    rw [takeFiles, ← middle.1, ← start.1]
  rw [whole]
  exact process_follows tree paths i (registered tree i paths) _ _ middle.2

/-! ## Accounts -/

/-- How the fates of files account for what an intake has become. -/
structure Accounts (before after : Intake) (fates : List (Path × Fate)) : Prop where
  types : after.types.structures = before.types.structures ++
    (fates.flatMap (·.2.structures)).map fun s => (s.name, s.byteSize)
  structures : after.catalog.structures =
    before.catalog.structures ++ fates.flatMap (·.2.structures)
  interfaces : after.catalog.interfaces =
    before.catalog.interfaces ++ fates.flatMap (·.2.interfaces)
  shaders : after.catalog.shaders = before.catalog.shaders ++ fates.flatMap (·.2.shaders)
  pending : after.catalog.pending =
    before.catalog.pending ++ (fates.flatMap (·.2.shaders)).flatMap Job.ofShader
  selectors : after.catalog.selectors =
    before.catalog.selectors ++ (fates.flatMap (·.2.shaders)).flatMap KeyFields.ofShader
  failures : after.catalog.failures = before.catalog.failures ++
    (messages .reading fates ++ messages .registering fates ++ messages .describing fates)

theorem takeFiles_accounts (tree : FileTree) (i : Intake) (paths : List Path) :
    Accounts i (takeFiles tree i paths) (fates tree i paths) := by
  have follows := takeFiles_follows tree i paths
  have structures := registered_eq tree paths i (registered tree i paths)
  dsimp only at follows structures
  rw [← fates] at structures
  have types := follows.types
  have catalog := follows.catalog
  rw [structures] at types catalog
  constructor
  · rw [types]
  all_goals
    rw [catalog]
    simp [addFailures, withDescribed, grow]

theorem fates_hold (tree : FileTree) (i : Intake) (paths : List Path) :
    ∀ f ∈ fates tree i paths, f.2.Holds tree (takeFiles tree i paths).types f.1 := by
  have final : (takeFiles tree i paths).types = (registered tree i paths).types :=
    (takeFiles_follows tree i paths).types
  rw [final]
  exact fatesFrom_hold tree paths i _

end Intake
end ShaderVariants
