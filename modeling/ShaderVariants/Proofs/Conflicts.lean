import ShaderVariants.Proofs.Orders
import ShaderVariants.Proofs.Outputs

/-!
What a catalog ends with, whatever it was asked for and in which order. Its names do not clash, and
it holds as much as it can: a request was either taken whole and is still there, or it cannot be had
beside what is there in the end, although the clash may be with what came before it, after it or
with it.
-/

namespace ShaderVariants.Catalog

/-- Whether a request asks for a name twice, or for one that is reserved or held by a catalog. -/
def Clashes (c : Catalog) (r : Request) : Prop :=
  ¬r.headerNames.Pairwise (foldCase · ≠ foldCase ·) ∨
    (∃ name ∈ r.headerNames, ∃ taken ∈ reserved ++ c.ownNames, foldCase taken = foldCase name) ∨
    ∃ name ∈ r.shaderNames, name ∈ c.shaders.map (·.name)

theorem headerNames_eq (c : Catalog) : c.headerNames = reserved ++ c.ownNames :=
  List.append_assoc _ _ _

/-- A request brings one shader at most, so its shader names do not clash among each other. -/
theorem clashes_iff (c : Catalog) (r : Request) : c.Clashes r ↔ ¬c.Admits r := by
  have single : r.shaderNames.Nodup := by
    rw [Request.shaderNames]
    cases r.shader? <;> simp
  have distinct : (r.headerNames.map foldCase).Nodup ↔
      r.headerNames.Pairwise (foldCase · ≠ foldCase ·) := List.pairwise_map
  have taken : (∀ name ∈ r.headerNames, foldCase name ∉ c.headerNames.map foldCase) ↔
      ¬∃ name ∈ r.headerNames, ∃ taken ∈ reserved ++ c.ownNames, foldCase taken = foldCase name := by
    simp only [headerNames_eq, List.mem_map, not_exists, not_and]
  have held : (∀ name ∈ r.shaderNames, name ∉ c.shaders.map (·.name)) ↔
      ¬∃ name ∈ r.shaderNames, name ∈ c.shaders.map (·.name) := by
    simp only [not_exists, not_and]
  rw [Clashes, Admits, Free, Fresh, distinct, taken, held, and_iff_right single, not_and_or,
    not_and_or, not_not, not_not, or_assoc]

theorem refused_iff (c : Catalog) (r : Request) :
    (∃ fault, c.answer r = (.error fault, c)) ↔ c.Clashes r := by
  rw [clashes_iff]
  rcases answer_cases c r with ⟨admitted, accepted⟩ | ⟨clash, refused⟩
  · rw [accepted]
    constructor
    · rintro ⟨fault, same⟩
      cases congrArg Prod.fst same
    · intro clash
      exact absurd admitted clash
  · exact iff_of_true refused clash

/-! ## What stays -/

structure Within (c later : Catalog) : Prop where
  structures : c.structures ⊆ later.structures
  interfaces : c.interfaces ⊆ later.interfaces
  shaders : c.shaders ⊆ later.shaders

theorem Within.trans {first second third : Catalog} (one : first.Within second)
    (two : second.Within third) : first.Within third where
  structures := List.Subset.trans one.structures two.structures
  interfaces := List.Subset.trans one.interfaces two.interfaces
  shaders := List.Subset.trans one.shaders two.shaders

theorem Within.ownNames {c later : Catalog} (within : c.Within later) :
    c.ownNames ⊆ later.ownNames := by
  intro name member
  rcases List.mem_append.mp member with here | here
  · exact List.mem_append_left _ (List.map_subset _ within.structures here)
  · exact List.mem_append_right _ (List.map_subset _ within.interfaces here)

theorem grow_within (c : Catalog) (r : Request) : c.Within (c.grow r) where
  structures := List.subset_append_left _ _
  interfaces := List.subset_append_left _ _
  shaders := List.subset_append_left _ _

theorem answer_within (c : Catalog) (r : Request) : c.Within (c.answer r).2 := by
  rcases answer_cases c r with ⟨_, accepted⟩ | ⟨_, fault, refused⟩
  · rw [accepted]
    exact grow_within c r
  · rw [refused]
    exact ⟨List.Subset.refl _, List.Subset.refl _, List.Subset.refl _⟩

theorem serve_within (requests : List Request) (c : Catalog) : c.Within (c.serve requests) := by
  induction requests generalizing c with
  | nil => exact ⟨List.Subset.refl _, List.Subset.refl _, List.Subset.refl _⟩
  | cons r rs ih => exact (answer_within c r).trans (ih (c.answer r).2)

theorem Clashes.within {c later : Catalog} {r : Request} (clashes : c.Clashes r)
    (within : c.Within later) : later.Clashes r := by
  rcases clashes with twice | ⟨name, asked, taken, held, same⟩ | ⟨name, asked, held⟩
  · exact Or.inl twice
  · have held' := (List.mem_append.mp held).imp_right (within.ownNames ·)
    exact Or.inr (Or.inl ⟨name, asked, taken, List.mem_append.mpr held', same⟩)
  · exact Or.inr (Or.inr ⟨name, asked, List.map_subset _ within.shaders held⟩)

/-! ## Whole sequences -/

/-- After any requests the names of structures and interfaces differ in more than case from each
other and from the reserved ones, and those of shaders differ. Every request was either taken whole,
or it was refused and would be again. -/
theorem conflict_free_and_maximal (requests : List Request) :
    let c := empty.serve requests
    c.ownNames.Pairwise (foldCase · ≠ foldCase ·) ∧
      (∀ name ∈ c.ownNames, foldCase name ≠ foldCase "shaderpermutations" ∧
        foldCase name ≠ foldCase "shaderbytecodes") ∧
      (c.shaders.map (·.name)).Nodup ∧
      ∀ before r after, requests = before ++ r :: after →
        ((empty.serve before).answer r).1 = .ok () ∧
            r.structures ⊆ c.structures ∧ r.interfaces ⊆ c.interfaces ∧
            r.shader?.toList ⊆ c.shaders ∨
          (∃ fault, ((empty.serve before).answer r).1 = .error fault) ∧
            c.Clashes r ∧ ∃ fault, c.answer r = (.error fault, c) := by
  intro c
  have sound : c.Sound := serve_sound requests empty empty_sound
  refine ⟨List.pairwise_map.mp sound.ownNames_apart, ?_, sound.shaderNames, ?_⟩
  · intro name member
    have apart := sound.headers
    rw [headerNames_eq, List.map_append, List.nodup_append] at apart
    have free (other : String) (taken : other ∈ reserved) : foldCase name ≠ foldCase other := by
      intro same
      exact apart.2.2 _ (List.mem_map_of_mem taken) _ (List.mem_map_of_mem member) same.symm
    exact ⟨free "shaderpermutations" (by decide), free "shaderbytecodes" (by decide)⟩
  · intro before r after whole
    have later : c = ((empty.serve before).answer r).2.serve after := by
      change empty.serve requests = _
      rw [whole, serve, List.foldl_append, List.foldl_cons]
      rfl
    rcases answer_cases (empty.serve before) r with ⟨_, accepted⟩ | ⟨clash, fault, refused⟩
    · left
      rw [accepted] at later ⊢
      have within := later ▸ serve_within after ((empty.serve before).grow r)
      exact ⟨rfl, List.Subset.trans (List.subset_append_right _ _) within.structures,
        List.Subset.trans (List.subset_append_right _ _) within.interfaces,
        List.Subset.trans (List.subset_append_right _ _) within.shaders⟩
    · right
      rw [refused] at later ⊢
      have within := later ▸ serve_within after (empty.serve before)
      have clashes := ((clashes_iff _ r).mpr clash).within within
      exact ⟨⟨fault, rfl⟩, clashes, (refused_iff c r).mpr clashes⟩

theorem conflict_free_and_maximal_three :
    let sky : Shader := ⟨"Sky", "Sky.hlsl", 0, []⟩
    let twice : Request := .sharedStructures [⟨"Air", .blank "Air" 0⟩, ⟨"AIR", .blank "AIR" 0⟩]
    let first : Request := .description [.blank "Fog" 0] (some sky)
    let later : Request := .sharedStructures [⟨"Air", .blank "Air" 0⟩, ⟨"FOG", .blank "FOG" 0⟩]
    let c := empty.serve [twice, first, later]
    sky ∈ c.shaders ∧ c.Clashes twice ∧ c.Clashes later := by
  intro sky twice first later c
  have requests := (conflict_free_and_maximal [twice, first, later]).2.2.2
  have accepted : ((empty.serve [twice]).answer first).1 = .ok () := rfl
  have refused : (empty.answer twice).1 = .error (.duplicateName .shared "AIR") := rfl
  have refused' : ((empty.serve [twice, first]).answer later).1 =
      .error (.duplicateName .shared "FOG") := rfl
  refine ⟨?_, ?_, ?_⟩
  · rcases requests [twice] first [later] rfl with ⟨_, _, _, shaders⟩ | ⟨⟨_, error⟩, _⟩
    · exact shaders List.mem_cons_self
    · cases accepted.symm.trans error
  · rcases requests [] twice [first, later] rfl with ⟨taken, _⟩ | ⟨_, clashes, _⟩
    · cases refused.symm.trans taken
    · exact clashes
  · rcases requests [twice, first] later [] rfl with ⟨taken, _⟩ | ⟨_, clashes, _⟩
    · cases refused'.symm.trans taken
    · exact clashes

end ShaderVariants.Catalog
