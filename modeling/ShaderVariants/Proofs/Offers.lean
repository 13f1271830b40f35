import Mathlib.Data.List.Nodup
import ShaderVariants.Catalog

/-!
What an offer does to a catalog. Names are free where they differ, without regard to case, from
each other and from all names that are taken. An offer whose names are free is accepted and
appends all that was offered; any other is refused and leaves the catalog as it was, although
what comes before the offending name has been added and must be taken back.
-/

namespace ShaderVariants.Catalog

/-! ## Free names -/

/-- Whether new names clash neither with taken ones nor among each other. -/
def Free (taken new : List String) : Prop :=
  (new.map foldCase).Nodup ∧ ∀ name ∈ new, foldCase name ∉ taken.map foldCase

theorem isTaken_iff (taken : List String) (name : String) :
    isTaken taken name = true ↔ foldCase name ∈ taken.map foldCase := by
  simp only [isTaken, List.any_eq_true, beq_iff_eq, List.mem_map]

theorem free_nil (taken : List String) : Free taken [] := by
  simp [Free]

theorem free_cons (taken more new : List String) (name : String)
    (grown : more.Perm (name :: taken)) :
    Free taken (name :: new) ↔ isTaken taken name = false ∧ Free more new := by
  have members (folded : List Char) :
      folded ∈ more.map foldCase ↔ folded = foldCase name ∨ folded ∈ taken.map foldCase := by
    rw [(grown.map foldCase).mem_iff, List.map_cons, List.mem_cons]
  simp only [Free, List.map_cons, List.nodup_cons, List.forall_mem_cons, members, not_or,
    Bool.eq_false_iff, ne_eq, isTaken_iff]
  constructor
  · rintro ⟨⟨apart, distinct⟩, here, there⟩
    refine ⟨here, distinct, ?_⟩
    intro other member
    refine ⟨?_, there other member⟩
    intro same
    exact apart (same ▸ List.mem_map_of_mem member)
  · rintro ⟨here, distinct, there⟩
    refine ⟨⟨?_, distinct⟩, here, fun other member => (there other member).2⟩
    intro inside
    obtain ⟨other, member, same⟩ := List.mem_map.mp inside
    exact (there other member).1 same

theorem Free.nodup_append {taken new : List String} (free : Free taken new)
    (distinct : (taken.map foldCase).Nodup) : ((taken ++ new).map foldCase).Nodup := by
  rw [List.map_append, List.nodup_append]
  refine ⟨distinct, free.1, ?_⟩
  intro one inside other here same
  obtain ⟨name, member, rfl⟩ := List.mem_map.mp here
  exact free.2 name member (same ▸ inside)

/-! ## Adding one by one -/

section
variable {α : Type} (kind : NameKind) {name : α → String} {add : Catalog → α → Catalog}

/-- Adding goes through exactly where the names are free; otherwise it stops somewhere. -/
theorem addEach_cases
    (grows : ∀ c a, (add c a).headerNames.Perm (name a :: c.headerNames)) (c : Catalog)
    (new : List α) :
    (Free c.headerNames (new.map name) ∧
        addEach kind name add c new = (.ok (), new.foldl add c)) ∨
      (¬Free c.headerNames (new.map name) ∧
        ∃ (front : List α) (fault : Fault),
          addEach kind name add c new = (.error fault, front.foldl add c)) := by
  induction new generalizing c with
  | nil => exact Or.inl ⟨free_nil _, rfl⟩
  | cons a new ih =>
    rw [List.map_cons, free_cons _ _ _ _ (grows c a), addEach, checkName]
    cases taken : isTaken c.headerNames (name a) with
    | true =>
      right
      refine ⟨by simp, [], .duplicateName kind (name a), ?_⟩
      simp only [if_true, List.foldl_nil]
    | false =>
      simp only [Bool.false_eq_true, if_false, true_and, List.foldl_cons]
      rcases ih (add c a) with accepted | ⟨clash, front, fault, refused⟩
      · exact Or.inl accepted
      · exact Or.inr ⟨clash, a :: front, fault, refused⟩

end

theorem foldl_addStructure (c : Catalog) (new : List SharedStructure) :
    new.foldl addStructure c = { c with structures := c.structures ++ new } := by
  induction new generalizing c with
  | nil => simp
  | cons s new ih => simp [ih, addStructure]

theorem foldl_addInterface (c : Catalog) (new : List Interface) :
    new.foldl addInterface c = { c with interfaces := c.interfaces ++ new } := by
  induction new generalizing c with
  | nil => simp
  | cons i new ih => simp [ih, addInterface]

theorem addStructure_headerNames (c : Catalog) (s : SharedStructure) :
    (c.addStructure s).headerNames.Perm (s.name :: c.headerNames) := by
  simp only [headerNames, addStructure, List.map_append, List.map_cons, List.map_nil]
  rw [← List.append_assoc, List.append_assoc _ [s.name]]
  exact List.perm_middle

theorem addInterface_headerNames (c : Catalog) (i : Interface) :
    (c.addInterface i).headerNames.Perm (i.name :: c.headerNames) := by
  simp only [headerNames, addInterface, List.map_append, List.map_cons, List.map_nil]
  rw [← List.append_assoc]
  exact List.perm_append_singleton _ _

/-! ## Offers -/

/-- An offer of structures is accepted and adds them all, or refused and changes nothing. -/
theorem offerStructures_cases (c : Catalog) (new : List SharedStructure) :
    (Free c.headerNames (new.map (·.name)) ∧
        c.offerStructures new = (.ok (), { c with structures := c.structures ++ new })) ∨
      (¬Free c.headerNames (new.map (·.name)) ∧
        ∃ fault, c.offerStructures new = (.error fault, c)) := by
  rcases addEach_cases .shared addStructure_headerNames c new with
    ⟨free, added⟩ | ⟨clash, front, fault, stopped⟩
  · left
    refine ⟨free, ?_⟩
    simp only [offerStructures, added, foldl_addStructure]
  · right
    refine ⟨clash, fault, ?_⟩
    simp only [offerStructures, stopped, foldl_addStructure, keepStructures,
      List.take_left']

/-- An offer of a description is accepted and adds the interfaces and the shader with its jobs and
selectors, or refused and changes nothing. -/
theorem offerDescription_cases (c : Catalog) (new : List Interface) (shader : Option Shader) :
    ((Free c.headerNames (new.map (·.name)) ∧
          ∀ s, shader = some s → s.name ∉ c.shaders.map (·.name)) ∧
        c.offerDescription new shader =
          (.ok (), shader.toList.foldl addShader { c with interfaces := c.interfaces ++ new })) ∨
      (¬(Free c.headerNames (new.map (·.name)) ∧
          ∀ s, shader = some s → s.name ∉ c.shaders.map (·.name)) ∧
        ∃ fault, c.offerDescription new shader = (.error fault, c)) := by
  rcases addEach_cases .interface addInterface_headerNames c new with
    ⟨free, added⟩ | ⟨clash, front, fault, stopped⟩
  · cases shader with
    | none =>
      left
      refine ⟨⟨free, by simp⟩, ?_⟩
      simp only [offerDescription, added, foldl_addInterface, Option.toList_none, List.foldl_nil]
    | some s =>
      have known : c.shaders.any (·.name == s.name) = true ↔ s.name ∈ c.shaders.map (·.name) := by
        simp only [List.any_eq_true, beq_iff_eq, List.mem_map]
      by_cases held : s.name ∈ c.shaders.map (·.name)
      · right
        refine ⟨fun free => free.2 s rfl held, .duplicateName .shader s.name, ?_⟩
        simp only [offerDescription, added, foldl_addInterface, checkShader, known.mpr held,
          if_true, keepInterfaces, List.take_left']
      · left
        refine ⟨⟨free, by simpa using held⟩, ?_⟩
        have fresh : c.shaders.any (·.name == s.name) = false := by
          rw [Bool.eq_false_iff, ne_eq, known]
          exact held
        simp only [offerDescription, added, foldl_addInterface, checkShader, fresh,
          Bool.false_eq_true, if_false, Option.toList_some, List.foldl_cons, List.foldl_nil]
  · right
    refine ⟨fun free => clash free.1, fault, ?_⟩
    simp only [offerDescription, stopped, foldl_addInterface, keepInterfaces, List.take_left']

end ShaderVariants.Catalog
