import ShaderVariants.Proofs.Offers
import ShaderVariants.Proofs.Shaders

/-!
Catalogs under any sequence of requests. What holds of every catalog that offers and failures can
lead to is stated once as `Sound` and kept by every single step: header names and shader names
are distinct, jobs and selectors are those of the shaders, and the flag is set where there are
failures. The shaders of a catalog are those whose requests were accepted, in that order.
-/

namespace ShaderVariants

inductive Request where
  | sharedStructure (s : SharedStructure)
  | sharedStructures (new : List SharedStructure)
  | interface (i : Interface)
  | shader (s : Shader)
  | description (new : List Interface) (shader : Option Shader)
  | failure (message : String)

def Request.shader? : Request → Option Shader
  | .shader s => some s
  | .description _ s => s
  | _ => none

namespace Catalog

/-! ## What offers keep -/

structure Sound (c : Catalog) : Prop where
  headers : (c.headerNames.map foldCase).Nodup
  shaderNames : (c.shaders.map (·.name)).Nodup
  pending : c.pending = c.shaders.flatMap Job.ofShader
  selectors : c.selectors = c.shaders.flatMap KeyFields.ofShader
  flag : c.hasFailed = !c.failures.isEmpty

theorem empty_sound : empty.Sound where
  headers := by decide
  shaderNames := List.nodup_nil
  pending := rfl
  selectors := rfl
  flag := rfl

private theorem structures_headerNames (c : Catalog) (new : List SharedStructure) :
    ({ c with structures := c.structures ++ new } : Catalog).headerNames.Perm
      (c.headerNames ++ new.map (·.name)) := by
  simp only [headerNames, List.map_append, List.append_assoc]
  exact (List.perm_append_comm.append_left _).append_left _

private theorem interfaces_headerNames (c : Catalog) (new : List Interface) :
    ({ c with interfaces := c.interfaces ++ new } : Catalog).headerNames =
      c.headerNames ++ new.map (·.name) := by
  simp only [headerNames, List.map_append, List.append_assoc]

theorem Sound.offerStructures {c : Catalog} (sound : c.Sound) (new : List SharedStructure) :
    (c.offerStructures new).2.Sound := by
  rcases offerStructures_cases c new with ⟨free, accepted⟩ | ⟨_, fault, refused⟩
  · rw [accepted]
    refine { sound with headers := ?_ }
    rw [((structures_headerNames c new).map foldCase).nodup_iff]
    exact free.nodup_append sound.headers
  · rw [refused]
    exact sound

theorem Sound.addInterfaces {c : Catalog} (sound : c.Sound) (new : List Interface)
    (free : Free c.headerNames (new.map (·.name))) :
    ({ c with interfaces := c.interfaces ++ new } : Catalog).Sound := by
  refine { sound with headers := ?_ }
  rw [interfaces_headerNames]
  exact free.nodup_append sound.headers

theorem Sound.addShader {c : Catalog} (sound : c.Sound) (s : Shader)
    (fresh : s.name ∉ c.shaders.map (·.name)) : (c.addShader s).Sound where
  headers := sound.headers
  shaderNames := by
    simp only [Catalog.addShader, List.map_append, List.map_cons, List.map_nil]
    rw [← List.concat_eq_append]
    exact List.Nodup.concat fresh sound.shaderNames
  pending := by
    simp only [Catalog.addShader, sound.pending, List.flatMap_append, List.flatMap_singleton]
  selectors := by
    simp only [Catalog.addShader, sound.selectors, List.flatMap_append, List.flatMap_singleton]
  flag := sound.flag

theorem Sound.offerDescription {c : Catalog} (sound : c.Sound) (new : List Interface)
    (shader : Option Shader) : (c.offerDescription new shader).2.Sound := by
  rcases offerDescription_cases c new shader with ⟨free, accepted⟩ | ⟨_, fault, refused⟩
  · rw [accepted]
    have added := sound.addInterfaces new free.1
    cases shader with
    | none => exact added
    | some s => exact added.addShader s (free.2 s rfl)
  · rw [refused]
    exact sound

theorem Sound.addFailure {c : Catalog} (sound : c.Sound) (message : String) :
    (c.addFailure message).Sound :=
  { sound with flag := by simp [Catalog.addFailure] }

/-! ## What offers leave alone -/

theorem offerStructures_shaders (c : Catalog) (new : List SharedStructure) :
    (c.offerStructures new).2.shaders = c.shaders := by
  rcases offerStructures_cases c new with ⟨_, accepted⟩ | ⟨_, fault, refused⟩
  · rw [accepted]
  · rw [refused]

theorem offerStructures_failures (c : Catalog) (new : List SharedStructure) :
    (c.offerStructures new).2.failures = c.failures := by
  rcases offerStructures_cases c new with ⟨_, accepted⟩ | ⟨_, fault, refused⟩
  · rw [accepted]
  · rw [refused]

theorem offerDescription_failures (c : Catalog) (new : List Interface) (shader : Option Shader) :
    (c.offerDescription new shader).2.failures = c.failures := by
  rcases offerDescription_cases c new shader with ⟨_, accepted⟩ | ⟨_, fault, refused⟩
  · rw [accepted]
    cases shader with
    | none => rfl
    | some s => rfl
  · rw [refused]

def Answer.taking (a : Answer) (shader : Option Shader) : List Shader :=
  match a.1 with
  | .ok () => shader.toList
  | .error _ => []

theorem offerDescription_shaders (c : Catalog) (new : List Interface) (shader : Option Shader) :
    (c.offerDescription new shader).2.shaders =
      c.shaders ++ (c.offerDescription new shader).taking shader := by
  rcases offerDescription_cases c new shader with ⟨_, accepted⟩ | ⟨_, fault, refused⟩
  · rw [accepted]
    cases shader with
    | none => simp [Answer.taking]
    | some s => simp [Answer.taking, Catalog.addShader]
  · rw [refused]
    simp [Answer.taking]

/-! ## Requests -/

def answer (c : Catalog) : Request → Answer
  | .sharedStructure s => c.offerStructure s
  | .sharedStructures new => c.offerStructures new
  | .interface i => c.offerInterface i
  | .shader s => c.offerShader s
  | .description new shader => c.offerDescription new shader
  | .failure message => (.ok (), c.addFailure message)

def serve (c : Catalog) (requests : List Request) : Catalog :=
  requests.foldl (fun c r => (c.answer r).2) c

def acceptedShaders : Catalog → List Request → List Shader
  | _, [] => []
  | c, r :: rs => (c.answer r).taking r.shader? ++ acceptedShaders (c.answer r).2 rs

theorem answer_sound (c : Catalog) (r : Request) (sound : c.Sound) : (c.answer r).2.Sound := by
  cases r with
  | sharedStructure s => exact sound.offerStructures [s]
  | sharedStructures new => exact sound.offerStructures new
  | interface i => exact sound.offerDescription [i] none
  | shader s => exact sound.offerDescription [] (some s)
  | description new shader => exact sound.offerDescription new shader
  | failure message => exact sound.addFailure message

theorem answer_shaders (c : Catalog) (r : Request) :
    (c.answer r).2.shaders = c.shaders ++ (c.answer r).taking r.shader? := by
  have nothing (a : Answer) : a.taking none = [] := by
    unfold Answer.taking
    split <;> rfl
  cases r with
  | sharedStructure s =>
    simp only [answer, offerStructure, offerStructures_shaders, Request.shader?, nothing,
      List.append_nil]
  | sharedStructures new =>
    simp only [answer, offerStructures_shaders, Request.shader?, nothing, List.append_nil]
  | interface i => exact offerDescription_shaders c [i] none
  | shader s => exact offerDescription_shaders c [] (some s)
  | description new shader => exact offerDescription_shaders c new shader
  | failure message => simp [answer, Catalog.addFailure, Request.shader?, nothing]

theorem serve_sound (requests : List Request) (c : Catalog) (sound : c.Sound) :
    (c.serve requests).Sound := by
  induction requests generalizing c with
  | nil => exact sound
  | cons r rs ih => exact ih (c.answer r).2 (answer_sound c r sound)

theorem serve_shaders (requests : List Request) (c : Catalog) :
    (c.serve requests).shaders = c.shaders ++ c.acceptedShaders requests := by
  induction requests generalizing c with
  | nil => simp [serve, acceptedShaders]
  | cons r rs ih =>
    have rest := ih (c.answer r).2
    rw [answer_shaders, List.append_assoc] at rest
    exact rest

theorem mem_acceptedShaders (requests : List Request) (c : Catalog) (s : Shader)
    (member : s ∈ c.acceptedShaders requests) : ∃ r ∈ requests, r.shader? = some s := by
  induction requests generalizing c with
  | nil => cases member
  | cons r rs ih =>
    rcases List.mem_append.mp member with first | later
    · unfold Answer.taking at first
      split at first
      · exact ⟨r, List.mem_cons_self, by simpa using first⟩
      · cases first
    · obtain ⟨other, inside, offered⟩ := ih _ later
      exact ⟨other, List.mem_cons_of_mem _ inside, offered⟩

theorem serve_built (requests : List Request)
    (genuine : ∀ r ∈ requests, ∀ s, r.shader? = some s → s.Genuine) :
    ∀ s ∈ (empty.serve requests).shaders, s.Built := by
  intro s member
  rw [serve_shaders] at member
  obtain ⟨r, inside, offered⟩ := mem_acceptedShaders requests empty s member
  exact (genuine r inside s offered).built

/-! ## Later catalogs -/

/-- Whether requests with genuine shaders lead from a catalog to a later one. -/
def Reaches (c later : Catalog) : Prop :=
  ∃ requests : List Request, (∀ r ∈ requests, ∀ s, r.shader? = some s → s.Genuine) ∧
    later = c.serve requests

theorem Reaches.refl (c : Catalog) : c.Reaches c := ⟨[], by simp, rfl⟩

theorem Reaches.trans {first second third : Catalog} (one : first.Reaches second)
    (two : second.Reaches third) : first.Reaches third := by
  obtain ⟨early, genuine, rfl⟩ := one
  obtain ⟨late, genuine', rfl⟩ := two
  refine ⟨early ++ late, ?_, (List.foldl_append).symm⟩
  intro r member
  rcases List.mem_append.mp member with before | after
  · exact genuine r before
  · exact genuine' r after

theorem Reaches.failure (c : Catalog) (message : String) : c.Reaches (c.addFailure message) :=
  ⟨[.failure message], by simp [Request.shader?], rfl⟩

theorem Reaches.structures (c : Catalog) (new : List SharedStructure) :
    c.Reaches (c.offerStructures new).2 :=
  ⟨[.sharedStructures new], by simp [Request.shader?], rfl⟩

theorem Reaches.description (c : Catalog) (new : List Interface) (shader : Option Shader)
    (genuine : ∀ s, shader = some s → s.Genuine) : c.Reaches (c.offerDescription new shader).2 := by
  refine ⟨[.description new shader], ?_, rfl⟩
  intro r member s offered
  cases List.mem_singleton.mp member
  exact genuine s offered

theorem Reaches.sound {c later : Catalog} (reaches : c.Reaches later) (sound : c.Sound) :
    later.Sound := by
  obtain ⟨requests, _, rfl⟩ := reaches
  exact serve_sound requests c sound

theorem Reaches.built {c : Catalog} (reaches : empty.Reaches c) : ∀ s ∈ c.shaders, s.Built := by
  obtain ⟨requests, genuine, rfl⟩ := reaches
  exact serve_built requests genuine

theorem Reaches.shaders {c later : Catalog} (reaches : c.Reaches later) :
    c.shaders <+: later.shaders := by
  obtain ⟨requests, _, rfl⟩ := reaches
  exact ⟨_, (serve_shaders requests c).symm⟩

theorem Reaches.pending {c later : Catalog} (reaches : c.Reaches later) (sound : c.Sound) :
    c.pending <+: later.pending := by
  obtain ⟨rest, whole⟩ := reaches.shaders
  rw [sound.pending, (reaches.sound sound).pending, ← whole, List.flatMap_append]
  exact List.prefix_append _ _

end Catalog
end ShaderVariants
