import Mathlib.Data.Prod.Lex
import Mathlib.Data.String.Basic
import ShaderVariants.Proofs.Requests

/-!
Sorted snapshots. Jobs and selectors have a rank in which shaders come first, then stages, then
keys. No two jobs of a catalog of built shaders have the same rank, since the names of shaders,
the stages of a shader and the keys of a stage are distinct, so sorting puts them in strictly
ascending order.
-/

namespace ShaderVariants

theorem Stage.index_injective : Function.Injective Stage.index := by
  intro a b same
  cases a <;> cases b <;> first | rfl | cases same

/-- Where a job stands: by its shader, then its stage, then its key. -/
def Job.rank (j : Job) : String ×ₗ (Nat ×ₗ Nat) :=
  toLex (j.shader, toLex (j.stage.index, j.key.mask))

def KeyFields.rank (k : KeyFields) : String ×ₗ Nat := toLex (k.shader, k.stage.index)

namespace Catalog

/-! ## Sorting by rank -/

theorem mergeSort_strict {α β : Type} [LinearOrder β] (rank : α → β)
    (le : α → α → Bool) (agrees : ∀ a b, le a b = true ↔ rank a ≤ rank b) (l : List α)
    (distinct : (l.map rank).Nodup) : (l.mergeSort le).Pairwise (rank · < rank ·) := by
  have sorted : (l.mergeSort le).Pairwise (le · · = true) := by
    apply List.pairwise_mergeSort
    · intro a b c first second
      rw [agrees] at first second ⊢
      exact first.trans second
    · intro a b
      rw [Bool.or_eq_true, agrees, agrees]
      exact le_total _ _
  have apart : (l.mergeSort le).Pairwise (rank · ≠ rank ·) := by
    rw [← List.pairwise_map, ← List.nodup_iff_pairwise_ne]
    exact ((List.mergeSort_perm l le).map rank).nodup_iff.mpr distinct
  refine (sorted.and apart).imp ?_
  intro a b both
  exact lt_of_le_of_ne ((agrees a b).mp both.1) both.2

theorem jobLe_iff (a b : Job) : jobLe a b = true ↔ a.rank ≤ b.rank := by
  rw [Job.rank, Job.rank, Prod.Lex.toLex_le_toLex, Prod.Lex.toLex_le_toLex, jobLe]
  by_cases shader : a.shader = b.shader
  · by_cases stage : a.stage = b.stage
    · simp [shader, stage]
    · have apart : a.stage.index ≠ b.stage.index := fun same =>
        stage (Stage.index_injective same)
      simp only [shader, if_true, if_neg stage, decide_eq_true_eq, lt_irrefl, false_or,
        true_and]
      omega
  · simp only [shader, if_false, decide_eq_true_eq, false_and, or_false]
    exact ⟨fun below => lt_of_le_of_ne below shader, le_of_lt⟩

theorem keyFieldsLe_iff (a b : KeyFields) : keyFieldsLe a b = true ↔ a.rank ≤ b.rank := by
  rw [KeyFields.rank, KeyFields.rank, Prod.Lex.toLex_le_toLex, keyFieldsLe]
  by_cases shader : a.shader = b.shader
  · simp [shader]
  · simp only [shader, if_false, decide_eq_true_eq, false_and, or_false]
    exact ⟨fun below => lt_of_le_of_ne below shader, le_of_lt⟩

/-! ## Distinct ranks -/

private theorem nodup_flatMap_of_parts {α β γ : Type} (l : List α) (f : α → List β)
    (part : α → γ) (partOf : β → γ) (parts : (l.map part).Nodup)
    (inside : ∀ a ∈ l, (f a).Nodup) (here : ∀ a ∈ l, ∀ b ∈ f a, partOf b = part a) :
    (l.flatMap f).Nodup := by
  rw [List.nodup_flatMap]
  refine ⟨inside, ?_⟩
  rw [List.Nodup, List.pairwise_map] at parts
  refine parts.imp_of_mem ?_
  intro a b left right apart x first second
  exact apart ((here a left x first).symm.trans (here b right x second))

theorem ofShader_ranks_nodup (s : Shader) (built : s.Built) :
    ((Job.ofShader s).map Job.rank).Nodup := by
  rw [Job.ofShader, List.map_flatMap]
  refine nodup_flatMap_of_parts s.stages _ (·.stage.index)
    (fun rank => (ofLex (ofLex rank).2).1) ?_ ?_ ?_
  · have stages := built.distinct.map Stage.index_injective
    rwa [List.map_map] at stages
  · intro v member
    have ascending := (built.stages v member).ascending
    rw [StageVariants.keys, List.pairwise_map] at ascending
    rw [List.map_map, List.Nodup, List.pairwise_map]
    refine ascending.imp ?_
    intro p q below same
    have masks : p.key.mask = q.key.mask := congrArg (fun rank => (ofLex (ofLex rank).2).2) same
    exact below.ne masks
  · intro v member rank inside
    rw [List.map_map, List.mem_map] at inside
    obtain ⟨p, _, rfl⟩ := inside
    rfl

theorem pending_ranks_nodup (shaders : List Shader) (built : ∀ s ∈ shaders, s.Built)
    (names : (shaders.map (·.name)).Nodup) :
    ((shaders.flatMap Job.ofShader).map Job.rank).Nodup := by
  rw [List.map_flatMap]
  refine nodup_flatMap_of_parts shaders _ (·.name) (fun rank => (ofLex rank).1) names ?_ ?_
  · intro s member
    exact ofShader_ranks_nodup s (built s member)
  · intro s _ rank inside
    obtain ⟨j, job, rfl⟩ := List.mem_map.mp inside
    obtain ⟨v, _, variant⟩ := List.mem_flatMap.mp job
    obtain ⟨p, _, rfl⟩ := List.mem_map.mp variant
    rfl

theorem selectors_ranks_nodup (shaders : List Shader) (built : ∀ s ∈ shaders, s.Built)
    (names : (shaders.map (·.name)).Nodup) :
    ((shaders.flatMap KeyFields.ofShader).map KeyFields.rank).Nodup := by
  rw [List.map_flatMap]
  refine nodup_flatMap_of_parts shaders _ (·.name) (fun rank => (ofLex rank).1) names ?_ ?_
  · intro s member
    have stages := (built s member).distinct.map Stage.index_injective
    rw [List.map_map, List.Nodup, List.pairwise_map] at stages
    rw [KeyFields.ofShader, List.map_map, List.Nodup, List.pairwise_map]
    refine stages.imp ?_
    intro v w apart same
    exact apart (congrArg (fun rank => (ofLex rank).2) same)
  · intro s _ rank inside
    obtain ⟨k, selector, rfl⟩ := List.mem_map.mp inside
    obtain ⟨v, _, rfl⟩ := List.mem_map.mp selector
    rfl

/-! ## Snapshots -/

variable {c : Catalog} (sound : c.Sound)
include sound

theorem Sound.jobs_perm : c.jobs.Perm (c.shaders.flatMap Job.ofShader) := by
  rw [jobs, sound.pending]
  exact List.mergeSort_perm _ _

theorem Sound.keyFields_perm : c.keyFields.Perm (c.shaders.flatMap KeyFields.ofShader) := by
  rw [keyFields, sound.selectors]
  exact List.mergeSort_perm _ _

theorem Sound.jobs_ascending (built : ∀ s ∈ c.shaders, s.Built) :
    c.jobs.Pairwise (·.rank < ·.rank) := by
  apply mergeSort_strict Job.rank jobLe jobLe_iff
  rw [sound.pending]
  exact pending_ranks_nodup c.shaders built sound.shaderNames

theorem Sound.keyFields_ascending (built : ∀ s ∈ c.shaders, s.Built) :
    c.keyFields.Pairwise (·.rank < ·.rank) := by
  apply mergeSort_strict KeyFields.rank keyFieldsLe keyFieldsLe_iff
  rw [sound.selectors]
  exact selectors_ranks_nodup c.shaders built sound.shaderNames

end Catalog
end ShaderVariants
