import ShaderVariants.Proofs.Padding
import ShaderVariants.Proofs.Registration

/-!
What descriptions are refused for besides their sizes. Only filling up a layout looks at sizes, so
no lookup, no offer and no shader is ever refused for one. What a description lists is put together
before it is filled up, which leaves the two apart.
-/

namespace ShaderVariants

/-! ## Faults about sizes -/

/-- Whether a result is not refused for a size that cannot be filled up. -/
def NoSizeFault {α : Type} (result : Except Fault α) : Prop :=
  ∀ name size, result ≠ .error (.unalignedSize name size)

/-- What a layout is refused for when it is filled up. -/
inductive Fault.OfSize : Fault → Prop
  | unaligned (name : String) (size : Nat) : OfSize (.unalignedSize name size)
  | overflow : OfSize .overflow

section
variable {α β : Type} {bad : Fault → Prop}

def Avoids (bad : Fault → Prop) (result : Except Fault α) : Prop :=
  ∀ fault, result = .error fault → ¬bad fault

/-- Whether sizes have nothing to do with a refusal. -/
abbrev Sizeless (result : Except Fault α) : Prop := Avoids Fault.OfSize result

theorem avoids_unaligned {result : Except Fault α} :
    Avoids (fun fault => ∃ name size, fault = .unalignedSize name size) result ↔
      NoSizeFault result := by
  constructor
  · intro avoids name size refused
    exact avoids _ refused ⟨name, size, rfl⟩
  · rintro sized _ refused ⟨name, size, rfl⟩
    exact sized name size refused

theorem Sizeless.noSizeFault {result : Except Fault α} (sizeless : Sizeless result) :
    NoSizeFault result :=
  fun name size refused => sizeless _ refused (.unaligned name size)

theorem Sizeless.fits {result : Except Fault α} (sizeless : Sizeless result) :
    result ≠ .error .overflow :=
  fun refused => sizeless _ refused .overflow

/-- A step that does not look at sizes leaves refusals for them to the next one. -/
theorem Sizeless.bind_eq_error {first : Except Fault α} (sizeless : Sizeless first)
    {next : α → Except Fault β} {fault : Fault} (size : fault.OfSize) :
    (first >>= next) = .error fault ↔ ∃ a, first = .ok a ∧ next a = .error fault := by
  rw [ShaderVariants.bind_eq_error]
  exact or_iff_right fun refused => sizeless fault refused size

theorem avoids_ok (a : α) : Avoids bad (.ok a : Except Fault α) := nofun

theorem avoids_error {fault : Fault} :
    Avoids bad (.error fault : Except Fault α) ↔ ¬bad fault := by
  simp only [Avoids, Except.error.injEq, forall_eq']

theorem Avoids.error {result : Except Fault α} {fault : Fault} (avoids : Avoids bad result)
    (refused : result = .error fault) : Avoids bad (.error fault : Except Fault β) :=
  avoids_error.mpr (avoids fault refused)

theorem avoids_bind {first : Except Fault α} {next : α → Except Fault β}
    (one : Avoids bad first) (two : ∀ a, first = .ok a → Avoids bad (next a)) :
    Avoids bad (first >>= next) := by
  cases first with
  | error fault => exact one.error rfl
  | ok a => exact two a rfl

theorem avoids_foldlM {f : β → α → Except Fault β} (step : ∀ b a, Avoids bad (f b a))
    (l : List α) (b : β) : Avoids bad (l.foldlM f b) := by
  induction l generalizing b with
  | nil => exact avoids_ok b
  | cons a l ih =>
    rw [List.foldlM_cons]
    exact avoids_bind (step b a) fun next _ => ih next

theorem avoids_mapM {f : α → Except Fault β} (each : ∀ a, Avoids bad (f a)) (l : List α) :
    Avoids bad (l.mapM f) := by
  induction l with
  | nil => exact avoids_ok []
  | cons a l ih =>
    rw [List.mapM_cons]
    exact avoids_bind (each a) fun b _ => avoids_bind ih fun rest _ => avoids_ok (b :: rest)

end

theorem TypeScope.lookup_sizeless (types : TypeScope) (name : String) :
    Sizeless (types.lookup name) := by
  unfold lookup
  split <;> exact nofun

theorem TypeScope.register_sizeless (types : TypeScope) (name : String) (size : Nat) :
    Sizeless (types.register name size) := by
  unfold register
  split <;> exact nofun

/-! ## Layouts and interfaces -/

namespace Layout
variable {types : TypeScope} {layout : Layout}

theorem add_sizeless (type name : String) : Sizeless (layout.add types type name) :=
  avoids_bind (types.lookup_sizeless type) fun _ _ => avoids_ok _

end Layout

def SharedStructure.fieldsOf (types : TypeScope) (d : Description.Structure) :
    Except Fault Layout :=
  d.members.foldlM (fun (l : Layout) v => l.add types v.type v.name) (.blank d.name 0)

theorem SharedStructure.fieldsOf_sizeless (types : TypeScope) (d : Description.Structure) :
    Sizeless (fieldsOf types d) :=
  avoids_foldlM (fun _ _ => Layout.add_sizeless _ _) _ _

theorem SharedStructure.ofDescription_eq (types : TypeScope) (d : Description.Structure) :
    ofDescription types d = fieldsOf types d >>= fun layout =>
      layout.padChecked >>= fun layout => pure ⟨d.name, layout⟩ :=
  rfl

namespace Interface
variable {types : TypeScope} {i : Interface}

theorem addField_sizeless (type name : String) : Sizeless (i.addField types type name) :=
  avoids_bind (Layout.add_sizeless type name) fun _ _ => avoids_ok _

theorem addResource_sizeless (type : String) (elementType : Option String) (register : Nat)
    (name : String) : Sizeless (i.addResource types type elementType register name) := by
  apply avoids_bind
  · apply avoids_bind
    · unfold ResourceType.named
      split <;> exact nofun
    · intro known _
      split <;> exact nofun
  · intro binding _
    cases elementType with
    | none => exact avoids_ok _
    | some element =>
      exact avoids_bind (types.lookup_sizeless element) fun _ _ => avoids_ok _

theorem addConstant_sizeless (type name value : String) :
    Sizeless (i.addConstant types type name value) :=
  avoids_bind (types.lookup_sizeless type) fun _ _ => avoids_ok _

def itemsOf (types : TypeScope) (d : Description.Interface) : Except Fault Interface := do
  let i ← d.buffer.members.foldlM (fun i v => i.addField types v.type v.name)
    (blank d.name d.buffer.register)
  let i ← d.resources.foldlM
    (fun i r => i.addResource types r.type r.elementType r.register r.name) i
  d.constants.foldlM (fun i c => i.addConstant types c.type c.name c.literal) i

theorem itemsOf_sizeless (types : TypeScope) (d : Description.Interface) :
    Sizeless (itemsOf types d) := by
  apply avoids_bind (avoids_foldlM (fun _ _ => addField_sizeless _ _) _ _)
  intro one _
  apply avoids_bind (avoids_foldlM (fun _ _ => addResource_sizeless _ _ _ _) _ _)
  intro two _
  exact avoids_foldlM (fun _ _ => addConstant_sizeless _ _ _) _ _

theorem ofDescription_eq (types : TypeScope) (d : Description.Interface) :
    ofDescription types d = itemsOf types d >>= finish := by
  simp only [ofDescription, itemsOf, bind_assoc]

end Interface

/-! ## Offers -/

namespace Catalog

theorem checkName_sizeless (c : Catalog) (kind : NameKind) (name : String) :
    Sizeless (c.checkName kind name) := by
  unfold checkName
  split <;> exact nofun

theorem addEach_sizeless {α : Type} (kind : NameKind) (name : α → String)
    (add : Catalog → α → Catalog) (new : List α) (c : Catalog) :
    Sizeless (addEach kind name add c new).1 := by
  induction new generalizing c with
  | nil => exact avoids_ok ()
  | cons a new ih =>
    have checked := c.checkName_sizeless kind (name a)
    rw [addEach]
    split
    case h_1 refused => rwa [refused] at checked
    case h_2 => exact ih (add c a)

theorem offerStructures_sizeless (c : Catalog) (new : List SharedStructure) :
    Sizeless (c.offerStructures new).1 := by
  have added := addEach_sizeless .shared SharedStructure.name addStructure new c
  unfold offerStructures
  split
  case h_1 refused => rwa [refused] at added
  case h_2 => exact added

theorem offerDescription_sizeless (c : Catalog) (new : List Interface) (shader : Option Shader) :
    Sizeless (c.offerDescription new shader).1 := by
  have added := addEach_sizeless .interface Interface.name addInterface new c
  unfold offerDescription
  split
  case h_1 refused => rwa [refused] at added
  case h_2 => exact avoids_ok ()
  case h_3 next shader _ =>
    unfold checkShader
    split
    case h_1 refused =>
      split at refused <;> cases refused
      exact nofun
    case h_2 => exact avoids_ok ()

end Catalog

/-! ## Shaders -/

theorem Rule.ofBits_sizeless (kind : RuleKind) (bits : List Nat) (defineCount : Nat) :
    Sizeless (ofBits kind bits defineCount) := by
  have masks (mask : Nat) : Sizeless (maskOfBits defineCount mask bits) := by
    induction bits generalizing mask with
    | nil => exact avoids_ok mask
    | cons bit bits ih =>
      rw [maskOfBits]
      split
      · exact ih _
      · exact nofun
  exact avoids_bind (masks 0) fun mask _ => avoids_ok _

namespace Shader

theorem checkDefines_sizeless (d : Description.Shader) (names : List String) :
    Sizeless (checkDefines d names) := by
  induction names with
  | nil => exact avoids_ok ()
  | cons name names ih =>
    apply avoids_bind
    · unfold Stage.named
      split <;> exact nofun
    · intro stage _
      split
      · exact ih
      · exact nofun

theorem planStage_sizeless (d : Description.Shader) (stage : Stage) :
    Sizeless (planStage d stage) := by
  unfold planStage
  split
  · exact avoids_ok none
  · split
    · exact avoids_ok _
    · exact avoids_bind (avoids_mapM (fun r => Rule.ofBits_sizeless _ _ _) _)
        fun _ _ => avoids_ok _

theorem buildStage_sizeless (shader : String) (plan : StagePlan) :
    Sizeless (buildStage shader plan) := by
  rw [buildStage_eq]
  split <;> exact nofun

theorem buildStages_sizeless (shader : String) (plans : List StagePlan)
    (built : List StageVariants) :
    ∀ fault, (buildStages shader built plans).2 = some fault → ¬fault.OfSize := by
  induction plans generalizing built with
  | nil =>
    intro fault same
    cases same
  | cons plan plans ih =>
    have sized := buildStage_sizeless shader plan
    rw [buildStages]
    split
    case isTrue =>
      rintro _ ⟨⟩ size
      cases size
    case isFalse =>
      cases made : buildStage shader plan with
      | ok stage => exact ih (built ++ [stage])
      | error fault =>
        rintro _ ⟨⟩
        exact sized fault made

theorem build_sizeless (name file : String) (plans : List StagePlan) :
    Sizeless (build name file plans) := by
  have stages := buildStages_sizeless name plans []
  unfold build
  generalize buildStages name [] plans = result at stages
  obtain ⟨built, _ | fault⟩ := result
  · exact avoids_ok _
  · exact avoids_error.mpr (stages fault rfl)

theorem ofDescription_sizeless (d : Description.Shader) : Sizeless (ofDescription d) := by
  have planned : Sizeless (plan d) := avoids_bind (checkDefines_sizeless d _) fun _ _ =>
    avoids_bind (avoids_mapM (planStage_sizeless d) _) fun _ _ => avoids_ok _
  exact avoids_bind planned fun plans _ => build_sizeless _ _ plans

end Shader

/-! ## Files -/

theorem Intake.offer_sizeless (c : Catalog) (interfaces : List Interface)
    (shader : Option Description.Shader) : Sizeless (offer c interfaces shader).1.1 := by
  unfold offer
  split
  · exact Catalog.offerDescription_sizeless _ _ _
  case h_2 d =>
    have built := Shader.ofDescription_sizeless d
    dsimp only
    split
    case h_1 refused => exact built.error refused
    case h_2 s _ =>
      have offered := c.offerDescription_sizeless interfaces (some s)
      split
      case h_1 refused => rwa [refused] at offered
      case h_2 => exact avoids_ok ()

theorem ofFile_sizeless (tree : FileTree) (path : Path) :
    Sizeless (Description.ofFile tree path) := by
  unfold Description.ofFile
  split
  · exact nofun
  case h_2 text _ => cases Description.ofText text <;> exact nofun

end ShaderVariants
