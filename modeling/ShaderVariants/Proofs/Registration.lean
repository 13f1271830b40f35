import ShaderVariants.Proofs.Layers

/-!
Registering the structures of descriptions. Each is made in the scope of those before it and comes
under a name that is new there. Like every other offer, a registration takes all that it is given,
in its order, or it is refused and leaves types and catalog as they were.
-/

namespace ShaderVariants

theorem TypeScope.extend_cons (types : TypeScope) (s : SharedStructure)
    (structures : List SharedStructure) :
    types.extend (s :: structures) = (types.extend [s]).extend structures :=
  types.extend_append [s] structures

namespace Intake
open Catalog

/-- Whether structures are what descriptions give in a scope, one after the other. -/
inductive Registers : TypeScope → List Description.Structure → List SharedStructure → Prop
  | nil (types : TypeScope) : Registers types [] []
  | cons {types : TypeScope} {d : Description.Structure} {s : SharedStructure}
      {ds : List Description.Structure} {rest : List SharedStructure}
      (made : SharedStructure.ofDescription types d = .ok s)
      (plain : ValueType.builtin? s.name = none) (fresh : types.isStructure s.name = false)
      (later : Registers (types.extend [s]) ds rest) : Registers types (d :: ds) (s :: rest)

theorem register_of_fresh {types : TypeScope} {s : SharedStructure}
    (plain : ValueType.builtin? s.name = none) (fresh : types.isStructure s.name = false) :
    types.register s.name s.byteSize = .ok (types.extend [s]) := by
  rw [TypeScope.register, plain, fresh]
  rfl

theorem stage_eq_ok_iff (ds : List Description.Structure) (types later : TypeScope)
    (structures : List SharedStructure) : stage types ds = .ok (later, structures) ↔
      Registers types ds structures ∧ later = types.extend structures := by
  constructor
  · intro success
    induction ds generalizing types structures with
    | nil =>
      cases success
      exact ⟨.nil _, by simp⟩
    | cons d ds ih =>
      simp only [stage, bind_eq_ok] at success
      obtain ⟨s, made, next, registered, ⟨last, rest⟩, staged, whole⟩ := success
      cases whole
      obtain ⟨plain, fresh, rfl⟩ := TypeScope.register_eq_ok registered
      obtain ⟨others, rfl⟩ := ih _ rest staged
      exact ⟨.cons made plain fresh others, (types.extend_cons s rest).symm⟩
  -- Along the relation each step of the staging goes through.
  · rintro ⟨registers, rfl⟩
    induction registers with
    | nil types => simp [stage]
    | @cons types d s ds rest made plain fresh _ ih =>
      rw [types.extend_cons]
      simp only [stage, bind_eq_ok]
      exact ⟨s, made, _, register_of_fresh plain fresh, _, ih, rfl⟩

section
variable {types : TypeScope} {ds : List Description.Structure} {structures : List SharedStructure}

theorem Registers.append (first : Registers types ds structures)
    {ds' : List Description.Structure} {structures' : List SharedStructure}
    (second : Registers (types.extend structures) ds' structures') :
    Registers types (ds ++ ds') (structures ++ structures') := by
  induction first with
  | nil types => simpa using second
  | @cons types d s ds rest made plain fresh _ ih =>
    rw [types.extend_cons] at second
    exact .cons made plain fresh (ih second)

theorem Registers.layered (registers : Registers types ds structures) :
    SharedStructure.Layered types structures := by
  have staged := (stage_eq_ok_iff ds types _ structures).mpr ⟨registers, rfl⟩
  exact (stage_layered staged).1

theorem Registers.nodup (registers : Registers types ds structures)
    (distinct : (types.structures.map (·.1)).Nodup) :
    ((types.extend structures).structures.map (·.1)).Nodup := by
  induction registers with
  | nil types => simpa using distinct
  | @cons types d s ds rest _ _ fresh _ ih =>
    rw [types.extend_cons]
    apply ih
    have new : s.name ∉ types.structures.map (·.1) := by
      rw [← TypeScope.isStructure_iff, fresh]
      exact Bool.false_ne_true
    have grown : (types.extend [s]).structures.map (·.1) =
        (types.structures.map (·.1)).concat s.name := by
      rw [TypeScope.extend, List.map_append, List.concat_eq_append]
      rfl
    rw [grown]
    exact List.Nodup.concat new distinct

end

/-! ## All or nothing -/

/-- A registration is accepted exactly where all its structures can be registered and have names
that are free in the catalog. -/
theorem addStructures_registers (i : Intake) (ds : List Description.Structure) :
    (∃ structures, (Registers i.types ds structures ∧
          Free i.catalog.headerNames (structures.map (·.name))) ∧
        i.addStructures ds = (.ok (), { i with
          types := i.types.extend structures
          catalog := { i.catalog with structures := i.catalog.structures ++ structures } })) ∨
      ((¬∃ structures, Registers i.types ds structures ∧
          Free i.catalog.headerNames (structures.map (·.name))) ∧
        ∃ fault, i.addStructures ds = (.error fault, i)) := by
  cases staged : stage i.types ds with
  | error fault =>
    right
    refine ⟨?_, fault, by rw [addStructures, staged]⟩
    rintro ⟨structures, registers, _⟩
    rw [(stage_eq_ok_iff ds i.types _ structures).mpr ⟨registers, rfl⟩] at staged
    cases staged
  | ok made =>
    obtain ⟨types, structures⟩ := made
    obtain ⟨registers, rfl⟩ := (stage_eq_ok_iff ds i.types types structures).mp staged
    rcases offerStructures_cases i.catalog structures with
      ⟨free, accepted⟩ | ⟨clash, fault, refused⟩
    · left
      refine ⟨structures, ⟨registers, free⟩, ?_⟩
      simp only [addStructures, staged, accepted]
    · right
      refine ⟨?_, fault, by simp only [addStructures, staged, refused]⟩
      rintro ⟨other, registers', free⟩
      have same := (stage_eq_ok_iff ds i.types _ other).mpr ⟨registers', rfl⟩
      rw [staged, Except.ok.injEq, Prod.mk.injEq] at same
      exact clash (same.2 ▸ free)

/-- Whatever types and catalog hold, an offer is accepted exactly where what it asks for can be had.
Then all of it comes behind what is there, in its order, a shader with its jobs and its selectors;
else nothing changes. A registration also appends the names and the sizes of its structures to the
types. Only a failure that is recorded has a message. -/
theorem offers_all_or_nothing (i : Intake) :
    (∀ r : Request,
      (i.catalog.Admits r ∧ i.catalog.answer r = (.ok (), {
          structures := i.catalog.structures ++ r.structures
          interfaces := i.catalog.interfaces ++ r.interfaces
          shaders := i.catalog.shaders ++ r.shader?.toList
          pending := i.catalog.pending ++ r.shader?.toList.flatMap Job.ofShader
          selectors := i.catalog.selectors ++ r.shader?.toList.flatMap KeyFields.ofShader
          failures := i.catalog.failures ++ r.messages
          hasFailed := i.catalog.hasFailed || !r.messages.isEmpty })) ∨
        (¬i.catalog.Admits r ∧ ∃ fault, i.catalog.answer r = (.error fault, i.catalog))) ∧
      ∀ ds : List Description.Structure,
        (∃ structures, (Registers i.types ds structures ∧
              Free i.catalog.headerNames (structures.map (·.name))) ∧
            i.addStructures ds = (.ok (), { i with
              types := ⟨i.types.structures ++ structures.map fun s => (s.name, s.byteSize)⟩
              catalog := { i.catalog with structures := i.catalog.structures ++ structures } })) ∨
          ((¬∃ structures, Registers i.types ds structures ∧
              Free i.catalog.headerNames (structures.map (·.name))) ∧
            ∃ fault, i.addStructures ds = (.error fault, i)) :=
  ⟨answer_cases i.catalog, addStructures_registers i⟩

/-! ## Files -/

theorem register_registers (files : List SourceFile) (i : Intake) :
    ∃ ds structures, Registers i.types ds structures ∧
      (register i files).2.types = i.types.extend structures ∧
      (register i files).2.catalog.structures = i.catalog.structures ++ structures := by
  induction files generalizing i with
  | nil => exact ⟨[], [], .nil _, by simp [register], by simp [register]⟩
  | cons file files ih =>
    rcases addStructures_registers i file.description.structures with
      ⟨first, ⟨registers, _⟩, accepted⟩ | ⟨_, fault, refused⟩
    · rw [register, accepted]
      obtain ⟨ds, rest, later, types, structures⟩ := ih { i with
        types := i.types.extend first
        catalog := { i.catalog with structures := i.catalog.structures ++ first } }
      refine ⟨_, first ++ rest, registers.append later, ?_, ?_⟩
      · rw [TypeScope.extend_append]
        exact types
      · rw [← List.append_assoc]
        exact structures
    · rw [register, refused]
      exact ih (i.failAt file.path fault)

end Intake
end ShaderVariants
