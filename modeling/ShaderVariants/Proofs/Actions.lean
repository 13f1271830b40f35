import ShaderVariants.Proofs.Dependencies

/-!
Interfaces built up one action at a time. Each action that is accepted adds one item, or fills up
the layout; one that is refused changes nothing. So after any actions the declared fields and the
resources are those of the accepted actions, in their order, and all types are as in scope. An
interface that is read from a description comes from actions that are all accepted.
-/

namespace ShaderVariants

theorem Layout.paddingFields_undeclared (layout : Layout) :
    layout.paddingFields.filter (!·.padding) = [] := by
  rw [List.filter_eq_nil_iff]
  intro f member
  obtain ⟨_, _, rfl⟩ := List.mem_map.mp member
  simp

namespace Interface

inductive Action where
  | field (type name : String)
  | resource (type : String) (elementType : Option String) (register : Nat) (name : String)
  | constant (type name value : String)
  | finish
  deriving DecidableEq, Repr

def Action.isField : Action → Bool
  | .field _ _ => true
  | _ => false

def Action.isResource : Action → Bool
  | .resource _ _ _ _ => true
  | _ => false

def act (types : TypeScope) (i : Interface) : Action → Except Fault Interface
  | .field type name => i.addField types type name
  | .resource type elementType register name => i.addResource types type elementType register name
  | .constant type name value => i.addConstant types type name value
  | .finish => i.finish

/-- Does an action and keeps it, unless it is refused. -/
def attempt (types : TypeScope) (p : Interface × List Action) (a : Action) :
    Interface × List Action :=
  match p.1.act types a with
  | .ok later => (later, p.2 ++ [a])
  | .error _ => p

/-- The interface after some actions, and those of them that were accepted. -/
def perform (types : TypeScope) (i : Interface) (actions : List Action) :
    Interface × List Action :=
  actions.foldl (attempt types) (i, [])

/-! ## What actions add -/

/-- Whether the items of an interface are those of some accepted actions, with types in scope. -/
structure Collects (types : TypeScope) (i : Interface) (accepted : List Action) : Prop where
  types : ∀ f ∈ i.layout.fields, types.find? f.type.declared = some f.type
  kinds : ∀ b ∈ i.bindings, b.type ∈ ResourceType.all
  fields : i.layout.declaredFields.map (fun f => .field f.type.declared f.name) =
    accepted.filter Action.isField
  resources : i.bindings.map (fun b => .resource b.type.name b.elementType b.register b.name) =
    accepted.filter Action.isResource

section
variable {types : TypeScope} {i later : Interface} {accepted : List Action}

theorem blank_collects (types : TypeScope) (name : String) (register : Nat) :
    (blank name register).Collects types [] := ⟨nofun, nofun, rfl, rfl⟩

theorem Collects.act (collects : i.Collects types accepted) {a : Action}
    (success : i.act types a = .ok later) : later.Collects types (accepted ++ [a]) := by
  obtain ⟨known, kinds, fields, resources⟩ := collects
  cases a with
  | field type name =>
    obtain ⟨found, there, rfl⟩ := addField_eq_ok success
    have named := TypeScope.find?_declared there
    refine ⟨?_, kinds, ?_, ?_⟩
    · rw [List.forall_mem_append, List.forall_mem_singleton]
      exact ⟨known, named.symm ▸ there⟩
    · rw [List.filter_append, ← fields, Layout.declaredFields, List.filter_append, List.map_append]
      subst named
      rfl
    · rw [List.filter_append, ← resources]
      exact (List.append_nil _).symm
  | resource type elementType register name =>
    obtain ⟨kind, member, named, rfl⟩ := addResource_eq_ok success
    refine ⟨known, ?_, ?_, ?_⟩
    · rw [List.forall_mem_append, List.forall_mem_singleton]
      exact ⟨kinds, member⟩
    · rw [List.filter_append, ← fields]
      exact (List.append_nil _).symm
    · rw [List.filter_append, ← resources, List.map_append]
      subst named
      rfl
  | constant type name value =>
    obtain ⟨found, _, rfl⟩ := addConstant_eq_ok success
    refine ⟨known, kinds, ?_, ?_⟩
    · rw [List.filter_append, ← fields]
      exact (List.append_nil _).symm
    · rw [List.filter_append, ← resources]
      exact (List.append_nil _).symm
  | finish =>
    cases finish_eq_ok success
    refine ⟨?_, kinds, ?_, ?_⟩
    · rw [List.forall_mem_append]
      refine ⟨known, fun f member => ?_⟩
      rw [Layout.paddingFields_type member]
      rfl
    · rw [List.filter_append, ← fields, Layout.declaredFields, List.filter_append,
        Layout.paddingFields_undeclared, List.append_nil]
      exact (List.append_nil _).symm
    · rw [List.filter_append, ← resources]
      exact (List.append_nil _).symm

theorem ofDescription_keeps {P : Interface → Prop} {d : Description.Interface}
    (success : ofDescription types d = .ok i) (start : P (blank d.name d.buffer.register))
    (step : ∀ i a later, act types i a = .ok later → P i → P later) : P i := by
  simp only [ofDescription, bind_eq_ok] at success
  obtain ⟨one, fields, two, resources, three, constants, finished⟩ := success
  have first : P one := foldlM_keeps (fun i v later => step i (.field v.type v.name) later)
    _ _ _ fields start
  have second : P two := foldlM_keeps
    (fun i r later => step i (.resource r.type r.elementType r.register r.name) later)
    _ _ _ resources first
  have third : P three := foldlM_keeps
    (fun i c later => step i (.constant c.type c.name c.literal) later) _ _ _ constants second
  exact step three .finish i finished third

theorem ofDescription_collects {d : Description.Interface}
    (success : ofDescription types d = .ok i) : ∃ accepted, i.Collects types accepted := by
  refine ofDescription_keeps (P := fun i => ∃ accepted, i.Collects types accepted) success
    ⟨[], blank_collects types _ _⟩ ?_
  rintro i a later done ⟨accepted, collects⟩
  exact ⟨accepted ++ [a], collects.act done⟩

/-- After any actions an interface has the items of those that were accepted. -/
theorem perform_collects (types : TypeScope) (actions : List Action)
    (start : i.Collects types []) :
    (i.perform types actions).1.Collects types (i.perform types actions).2 := by
  have foldl_collects (p : Interface × List Action) (before : p.1.Collects types p.2) :
      let q := actions.foldl (attempt types) p
      q.1.Collects types q.2 := by
    induction actions generalizing p with
    | nil => exact before
    | cons a actions ih =>
      apply ih
      unfold attempt
      split
      case h_1 success => exact before.act success
      case h_2 => exact before
  exact foldl_collects (i, []) start

end
end Interface
end ShaderVariants
