import ShaderVariants.Preset
import ShaderVariants.Proofs.Jobs
import ShaderVariants.Proofs.Requests

/-!
Presets in a catalog. A preset whose interface and stages are in order is accepted wherever its
name is free. The standard presets are, so a build starts without failures and always has
something to compile.
-/

namespace ShaderVariants.Preset
open Catalog

theorem offer_reaches (p : Preset) (c : Catalog) : c.Reaches (p.offer c).1.2 := by
  unfold offer
  split
  · exact .refl c
  case h_2 interface _ =>
    dsimp only
    split
    · exact .refl c
    case h_2 shader built =>
      have served : c.Reaches (c.offerDescription [interface] (some shader)).2 := by
        apply Reaches.description
        rintro s ⟨⟩
        exact Or.inl ⟨p.name, p.file, p.plans, built⟩
      split
      case h_1 answer => rwa [answer] at served
      case h_2 answer => rwa [answer] at served

theorem add_reaches (p : Preset) (c : Catalog) : c.Reaches (p.add c).1 := by
  have offered := offer_reaches p c
  unfold add
  split
  case h_1 answer => rwa [answer] at offered
  case h_2 answer =>
    rw [answer] at offered
    exact offered.trans (.failure _ _)

theorem addAll_reaches (presets : List Preset) (c : Catalog) :
    c.Reaches (addAll presets c).1 := by
  induction presets generalizing c with
  | nil => exact .refl c
  | cons p ps ih => exact (add_reaches p c).trans (ih _)

/-! ## Acceptance -/

structure Fit (p : Preset) : Prop where
  interface : ∃ i, p.interface = .ok i ∧ i.name = p.name
  few : ∀ plan ∈ p.plans, plan.defines.length ≤ maxDefines
  distinct : (p.plans.map (·.stage)).Nodup
  planned : p.plans ≠ []

structure Taken (c : Catalog) (presets : List Preset) (later : Catalog) : Prop where
  structures : later.structures = c.structures
  interfaces : later.interfaces.map (·.name) = c.interfaces.map (·.name) ++ presets.map (·.name)
  shaders : later.shaders.map (·.name) = c.shaders.map (·.name) ++ presets.map (·.name)
  pending : c.pending.length + presets.length ≤ later.pending.length
  failures : later.failures = c.failures

theorem Taken.nil (c : Catalog) : Taken c [] c :=
  ⟨rfl, by simp, by simp, le_rfl, rfl⟩

theorem Taken.cons {c next later : Catalog} {p : Preset} {ps : List Preset}
    (first : Taken c [p] next) (rest : Taken next ps later) : Taken c (p :: ps) later where
  structures := rest.structures.trans first.structures
  interfaces := by rw [rest.interfaces, first.interfaces, List.append_assoc, ← List.map_append,
    List.singleton_append]
  shaders := by rw [rest.shaders, first.shaders, List.append_assoc, ← List.map_append,
    List.singleton_append]
  pending := by
    have one := first.pending
    have more := rest.pending
    simp only [List.length_cons, List.length_nil] at one ⊢
    omega
  failures := rest.failures.trans first.failures

theorem Taken.headerNames {c later : Catalog} {presets : List Preset}
    (taken : Taken c presets later) :
    later.headerNames = c.headerNames ++ presets.map (·.name) := by
  rw [Catalog.headerNames, Catalog.headerNames, taken.structures, taken.interfaces,
    List.append_assoc, List.append_assoc, List.append_assoc]

theorem add_of_fit {p : Preset} (fit : p.Fit) (c : Catalog)
    (free : isTaken c.headerNames p.name = false) (fresh : p.name ∉ c.shaders.map (·.name)) :
    Taken c [p] (p.add c).1 := by
  obtain ⟨i, interface, same⟩ := fit.interface
  obtain ⟨shader, built, named, stages⟩ := Shader.build_of_fit p.name p.file p.plans
    fit.distinct fit.few
  have jobs : Job.ofShader shader ≠ [] := by
    apply (Shader.build_built _ _ _ _ built).jobs_ne_nil
    intro none
    rw [none, List.map_nil, eq_comm, List.map_eq_nil_iff] at stages
    exact fit.planned stages
  rcases offerDescription_cases c [i] (some shader) with ⟨_, accepted⟩ | ⟨clash, _⟩
  · simp only [add, offer, interface, built, accepted, Option.toList_some, List.foldl_cons,
      List.foldl_nil]
    refine ⟨rfl, by simp [addShader, same], by simp [addShader, named], ?_, rfl⟩
    have count := List.length_pos_iff.mpr jobs
    simp only [addShader, List.length_append, List.length_cons, List.length_nil]
    omega
  · exfalso
    apply clash
    constructor
    · rw [List.map_singleton, same, free_cons _ _ _ _ (List.Perm.refl _)]
      exact ⟨free, free_nil _⟩
    · rintro s ⟨⟩
      rwa [named]

theorem addAll_of_fit (presets : List Preset) (c : Catalog) (fit : ∀ p ∈ presets, p.Fit)
    (free : Free c.headerNames (presets.map (·.name)))
    (fresh : (c.shaders.map (·.name) ++ presets.map (·.name)).Nodup) :
    Taken c presets (addAll presets c).1 := by
  induction presets generalizing c with
  | nil => exact Taken.nil c
  | cons p ps ih =>
    rw [List.map_cons, free_cons _ (c.headerNames ++ [p.name]) _ _
      (List.perm_append_singleton _ _)] at free
    rw [List.map_cons] at fresh
    have new : p.name ∉ c.shaders.map (·.name) := by
      intro member
      exact (List.nodup_append.mp fresh).2.2 _ member _ List.mem_cons_self rfl
    have first := add_of_fit (fit p List.mem_cons_self) c free.1 new
    refine first.cons (ih _ (fun other member => fit other (List.mem_cons_of_mem _ member)) ?_ ?_)
    · rw [first.headerNames]
      exact free.2
    · rw [first.shaders, List.append_assoc]
      exact fresh

/-! ## The standard presets -/

theorem lighting_fit : lighting.Fit where
  interface := ⟨_, rfl, rfl⟩
  few := by decide
  distinct := by decide
  planned := by simp [lighting]

theorem overlay_fit : overlay.Fit where
  interface := ⟨_, rfl, rfl⟩
  few := by decide
  distinct := by decide
  planned := by simp [overlay]

/-- A build starts with all standard presets. -/
theorem standard_taken : Taken .empty standard (addAll standard .empty).1 := by
  apply addAll_of_fit
  · simp only [standard, List.forall_mem_cons]
    exact ⟨lighting_fit, overlay_fit, by simp⟩
  · exact ⟨by decide, by decide⟩
  · decide

end ShaderVariants.Preset
