import ShaderVariants.Build.Output
import ShaderVariants.Proofs.Snapshots

/-!
Requests in any order. Whether all of several requests are accepted depends on their names alone:
the names of headers must be free and those of shaders new, both taken together. Then the catalog
holds all that was asked for, in the order of the requests, and its sorted snapshots no longer
show this order, since no two of their entries are sorted alike.
-/

namespace ShaderVariants

/-! ## What a request asks for -/

namespace Request

attribute [simp] shader?

@[simp]
def structures : Request → List SharedStructure
  | .sharedStructure s => [s]
  | .sharedStructures new => new
  | _ => []

@[simp]
def interfaces : Request → List Interface
  | .interface i => [i]
  | .description new _ => new
  | _ => []

@[simp]
def messages : Request → List String
  | .failure message => [message]
  | _ => []

/-- The names, without extension, of the headers that come of a request. -/
def headerNames (r : Request) : List String :=
  r.structures.map (·.name) ++ r.interfaces.map (·.name)

def shaderNames (r : Request) : List String := r.shader?.toList.map (·.name)

end Request

namespace Catalog

def grow (c : Catalog) (r : Request) : Catalog where
  structures := c.structures ++ r.structures
  interfaces := c.interfaces ++ r.interfaces
  shaders := c.shaders ++ r.shader?.toList
  pending := c.pending ++ r.shader?.toList.flatMap Job.ofShader
  selectors := c.selectors ++ r.shader?.toList.flatMap KeyFields.ofShader
  failures := c.failures ++ r.messages
  hasFailed := c.hasFailed || !r.messages.isEmpty

/-! ## Acceptance -/

/-- Whether new names of shaders differ from those that are taken and from each other. -/
def Fresh (taken new : List String) : Prop := new.Nodup ∧ ∀ name ∈ new, name ∉ taken

theorem free_append (taken more first second : List String) (grown : more.Perm (taken ++ first)) :
    Free taken (first ++ second) ↔ Free taken first ∧ Free more second := by
  have members (folded : List Char) :
      folded ∈ more.map foldCase ↔ folded ∈ taken.map foldCase ∨ folded ∈ first.map foldCase := by
    rw [(grown.map foldCase).mem_iff, List.map_append, List.mem_append]
  simp only [Free, List.map_append, List.nodup_append, List.forall_mem_append, members, not_or]
  constructor
  · rintro ⟨⟨one, two, apart⟩, here, there⟩
    refine ⟨⟨one, here⟩, two, fun name member => ⟨there name member, ?_⟩⟩
    intro inside
    exact apart _ inside _ (List.mem_map_of_mem member) rfl
  · rintro ⟨⟨one, here⟩, two, there⟩
    refine ⟨⟨one, two, ?_⟩, here, fun name member => (there name member).1⟩
    rintro folded inside _ new rfl
    obtain ⟨name, member, rfl⟩ := List.mem_map.mp new
    exact (there name member).2 inside

theorem fresh_append (taken first second : List String) :
    Fresh taken (first ++ second) ↔ Fresh taken first ∧ Fresh (taken ++ first) second := by
  have members (name : String) : name ∈ taken ++ first ↔ name ∈ taken ∨ name ∈ first :=
    List.mem_append
  simp only [Fresh, List.nodup_append, List.forall_mem_append, members, not_or]
  constructor
  · rintro ⟨⟨one, two, apart⟩, here, there⟩
    refine ⟨⟨one, here⟩, two, fun name member => ⟨there name member, ?_⟩⟩
    intro inside
    exact apart name inside name member rfl
  · rintro ⟨⟨one, here⟩, two, there⟩
    refine ⟨⟨one, two, ?_⟩, here, fun name member => (there name member).1⟩
    rintro name inside _ member rfl
    exact (there name member).2 inside

def Admits (c : Catalog) (r : Request) : Prop :=
  Free c.headerNames r.headerNames ∧ Fresh (c.shaders.map (·.name)) r.shaderNames

private theorem answer_structures (c : Catalog) (new : List SharedStructure) :
    (c.Admits (.sharedStructures new) ∧
        c.offerStructures new = (.ok (), c.grow (.sharedStructures new))) ∨
      (¬c.Admits (.sharedStructures new) ∧ ∃ fault, c.offerStructures new = (.error fault, c)) := by
  have names : c.Admits (.sharedStructures new) ↔ Free c.headerNames (new.map (·.name)) := by
    simp [Admits, Request.headerNames, Request.shaderNames, Fresh]
  have grown : ({ c with structures := c.structures ++ new } : Catalog) =
      c.grow (.sharedStructures new) := by
    simp [grow]
  rw [names, ← grown]
  exact offerStructures_cases c new

private theorem answer_description (c : Catalog) (new : List Interface) (shader : Option Shader) :
    (c.Admits (.description new shader) ∧
        c.offerDescription new shader = (.ok (), c.grow (.description new shader))) ∨
      (¬c.Admits (.description new shader) ∧
        ∃ fault, c.offerDescription new shader = (.error fault, c)) := by
  have names : c.Admits (.description new shader) ↔ Free c.headerNames (new.map (·.name)) ∧
      ∀ s, shader = some s → s.name ∉ c.shaders.map (·.name) := by
    cases shader <;> simp [Admits, Request.headerNames, Request.shaderNames, Fresh]
  have grown : shader.toList.foldl addShader { c with interfaces := c.interfaces ++ new } =
      c.grow (.description new shader) := by
    cases shader <;> simp [grow, addShader]
  rw [names, ← grown]
  exact offerDescription_cases c new shader

/-- A request is accepted and adds all that it asks for, or refused and changes nothing. -/
theorem answer_cases (c : Catalog) (r : Request) :
    (c.Admits r ∧ c.answer r = (.ok (), c.grow r)) ∨
      (¬c.Admits r ∧ ∃ fault, c.answer r = (.error fault, c)) := by
  cases r with
  | sharedStructure s => exact answer_structures c [s]
  | sharedStructures new => exact answer_structures c new
  | interface i => exact answer_description c [i] none
  | shader s => exact answer_description c [] (some s)
  | description new shader => exact answer_description c new shader
  | failure message =>
    refine Or.inl ⟨⟨free_nil _, by simp [Fresh, Request.shaderNames]⟩, ?_⟩
    simp [answer, addFailure, grow]

def Accepts : Catalog → List Request → Prop
  | _, [] => True
  | c, r :: rs => (c.answer r).1 = .ok () ∧ Accepts (c.answer r).2 rs

theorem grow_headerNames (c : Catalog) (r : Request) :
    (c.grow r).headerNames.Perm (c.headerNames ++ r.headerNames) := by
  simp only [headerNames, grow, Request.headerNames, List.map_append, List.append_assoc]
  exact ((List.perm_append_comm_assoc _ _ _).append_left _).append_left _

/-- Requests are all accepted exactly where all their names can be had together. -/
theorem accepts_iff (requests : List Request) (c : Catalog) :
    c.Accepts requests ↔ Free c.headerNames (requests.flatMap Request.headerNames) ∧
      Fresh (c.shaders.map (·.name)) (requests.flatMap Request.shaderNames) := by
  induction requests generalizing c with
  | nil => simp [Accepts, free_nil, Fresh]
  | cons r rs ih =>
    have shaders : (c.grow r).shaders.map (·.name) = c.shaders.map (·.name) ++ r.shaderNames := by
      simp only [grow, Request.shaderNames, List.map_append]
    rw [Accepts, List.flatMap_cons, List.flatMap_cons, fresh_append,
      free_append _ _ _ _ (grow_headerNames c r), ← shaders]
    rcases answer_cases c r with ⟨admitted, accepted⟩ | ⟨clash, fault, refused⟩
    · rw [accepted, ih]
      simp only [true_and, admitted.1, admitted.2]
    · rw [refused]
      constructor
      · rintro ⟨taken, _⟩
        cases taken
      · rintro ⟨⟨free, _⟩, fresh, _⟩
        exact absurd ⟨free, fresh⟩ clash

theorem Accepts.perm {first second : List Request} {c : Catalog} (accepted : c.Accepts first)
    (reordered : first.Perm second) : c.Accepts second := by
  rw [accepts_iff] at accepted ⊢
  have headers := reordered.flatMap_right Request.headerNames
  have shaders := reordered.flatMap_right Request.shaderNames
  obtain ⟨⟨distinct, free⟩, once, fresh⟩ := accepted
  refine ⟨⟨(headers.map foldCase).nodup_iff.mp distinct, ?_⟩, shaders.nodup_iff.mp once, ?_⟩
  · intro name member
    exact free name (headers.mem_iff.mpr member)
  · intro name member
    exact fresh name (shaders.mem_iff.mpr member)

theorem Accepts.serve {requests : List Request} {c : Catalog} (accepted : c.Accepts requests) :
    (c.serve requests).structures = c.structures ++ requests.flatMap Request.structures ∧
      (c.serve requests).interfaces = c.interfaces ++ requests.flatMap Request.interfaces ∧
      (c.serve requests).shaders = c.shaders ++ requests.flatMap (·.shader?.toList) := by
  induction requests generalizing c with
  | nil => simp [Catalog.serve]
  | cons r rs ih =>
    obtain ⟨here, later⟩ := accepted
    rcases answer_cases c r with ⟨_, taken⟩ | ⟨_, fault, refused⟩
    · rw [taken] at later
      have rest := ih later
      have step : c.serve (r :: rs) = (c.grow r).serve rs := by
        rw [Catalog.serve, List.foldl_cons, taken]
        rfl
      rw [step]
      simpa [grow] using rest
    · rw [refused] at here
      cases here

/-! ## Snapshots -/

structure Matches (c d : Catalog) : Prop where
  structures : c.sortedStructures = d.sortedStructures
  interfaces : c.sortedInterfaces = d.sortedInterfaces
  shaders : c.sortedShaders = d.sortedShaders
  jobs : c.jobs = d.jobs
  selectors : c.keyFields = d.keyFields

theorem Matches.targetHeaders {c d : Catalog} (same : c.Matches d) (types : TypeScope) :
    c.targetHeaders types = d.targetHeaders types := by
  rw [Catalog.targetHeaders, Catalog.targetHeaders, same.structures, same.interfaces,
    same.selectors]

theorem Matches.declaredHeaders {c d : Catalog} (same : c.Matches d) (types : TypeScope) :
    c.declaredHeaders types = d.declaredHeaders types := by
  rw [Catalog.declaredHeaders, Catalog.declaredHeaders, same.structures, same.interfaces]

/-- Sorting by a rank that tells all entries apart forgets the order they came in. -/
theorem mergeSort_eq_of_perm {α β : Type} [LinearOrder β] (rank : α → β) (le : α → α → Bool)
    (agrees : ∀ a b, le a b = true ↔ rank a ≤ rank b) {l other : List α} (reordered : l.Perm other)
    (distinct : (l.map rank).Nodup) : l.mergeSort le = other.mergeSort le := by
  have first := mergeSort_strict rank le agrees l distinct
  have second := mergeSort_strict rank le agrees other ((reordered.map rank).nodup_iff.mp distinct)
  have same := (List.mergeSort_perm l le).trans
    (reordered.trans (List.mergeSort_perm other le).symm)
  refine List.Perm.eq_of_pairwise ?_ first second same
  intro a b _ _ below above
  exact absurd above below.asymm

theorem Sound.matches {c d : Catalog} (sound : c.Sound) (sound' : d.Sound)
    (built : ∀ s ∈ c.shaders, s.Built) (structures : c.structures.Perm d.structures)
    (interfaces : c.interfaces.Perm d.interfaces) (shaders : c.shaders.Perm d.shaders) :
    c.Matches d := by
  have names : (c.headerNames).Nodup := sound.headers.of_map foldCase
  rw [headerNames, List.nodup_append, List.nodup_append] at names
  constructor
  · exact mergeSort_eq_of_perm (·.name) _ (by simp) structures names.1.2.1
  · exact mergeSort_eq_of_perm (·.name) _ (by simp) interfaces names.2.1
  · exact mergeSort_eq_of_perm (·.name) _ (by simp) shaders sound.shaderNames
  · refine mergeSort_eq_of_perm Job.rank jobLe jobLe_iff ?_ ?_
    · rw [sound.pending, sound'.pending]
      exact shaders.flatMap_right _
    · rw [sound.pending]
      exact pending_ranks_nodup c.shaders built sound.shaderNames
  · refine mergeSort_eq_of_perm KeyFields.rank keyFieldsLe keyFieldsLe_iff ?_ ?_
    · rw [sound.selectors, sound'.selectors]
      exact shaders.flatMap_right _
    · rw [sound.selectors]
      exact selectors_ranks_nodup c.shaders built sound.shaderNames

theorem Accepts.matches {first second : List Request} {c : Catalog} (sound : c.Sound)
    (accepted : c.Accepts first) (built : ∀ s ∈ (c.serve first).shaders, s.Built)
    (reordered : first.Perm second) : (c.serve first).Matches (c.serve second) := by
  obtain ⟨structures, interfaces, shaders⟩ := accepted.serve
  obtain ⟨structures', interfaces', shaders'⟩ := (accepted.perm reordered).serve
  apply (serve_sound first c sound).matches (serve_sound second c sound) built
  · rw [structures, structures']
    exact (reordered.flatMap_right _).append_left _
  · rw [interfaces, interfaces']
    exact (reordered.flatMap_right _).append_left _
  · rw [shaders, shaders']
    exact (reordered.flatMap_right _).append_left _

/-- Requests that are all accepted in one order are all accepted in any other, and the snapshots
are the same afterwards, and so is all that is made from them. -/
theorem orders_agree (first second : List Request) (reordered : first.Perm second)
    (genuine : ∀ r ∈ first, ∀ s, r.shader? = some s → s.Genuine)
    (accepted : empty.Accepts first) :
    empty.Accepts second ∧ (empty.serve first).Matches (empty.serve second) ∧
      (∀ types, (empty.serve first).targetHeaders types = (empty.serve second).targetHeaders types ∧
        (empty.serve first).declaredHeaders types = (empty.serve second).declaredHeaders types) ∧
      Header.byteCodes (empty.serve first).jobs = Header.byteCodes (empty.serve second).jobs := by
  have same := accepted.matches empty_sound (serve_built first genuine) reordered
  refine ⟨accepted.perm reordered, same, ?_, by rw [same.jobs]⟩
  intro types
  exact ⟨same.targetHeaders types, same.declaredHeaders types⟩

theorem orders_agree_reversed :
    let sky : Shader := ⟨"Sky", "Sky.hlsl", Digest.shortId "Sky", [⟨.pixel, "PSMain", ["FOG"],
      [.make "Sky" .pixel ⟨0⟩ ["FOG"], .make "Sky" .pixel ⟨1⟩ ["FOG"]]⟩]⟩
    let first : List Request := [.sharedStructures [⟨"Light", .blank "Light" 0⟩],
      .description [.blank "Sky" 0, .blank "Extra" 1] (some sky), .sharedStructures [],
      .sharedStructures [⟨"Fog", .blank "Fog" 0⟩, ⟨"Air", .blank "Air" 0⟩]]
    empty.Accepts first ∧ empty.Accepts first.reverse ∧
      (empty.serve first).Matches (empty.serve first.reverse) := by
  intro sky first
  have accepted : empty.Accepts first := ⟨rfl, rfl, rfl, rfl, trivial⟩
  have genuine : ∀ r ∈ first, ∀ s, r.shader? = some s → s.Genuine := by
    intro r member s offered
    simp only [first, List.mem_cons, List.not_mem_nil, or_false] at member
    rcases member with rfl | rfl | rfl | rfl <;> cases offered
    exact Or.inl ⟨"Sky", "Sky.hlsl", [⟨.pixel, "PSMain", ["FOG"], [], fun _ => true⟩], rfl⟩
  obtain ⟨accepted', same, _⟩ := orders_agree first first.reverse (List.reverse_perm first).symm
    genuine accepted
  exact ⟨accepted, accepted', same⟩

end Catalog
end ShaderVariants
