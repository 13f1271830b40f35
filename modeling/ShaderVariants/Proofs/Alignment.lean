import ShaderVariants.Proofs.SizeFaults

/-!
Sizes in scopes that come of descriptions. Built-in types have sizes divisible by four, and what is
filled up has a size divisible by sixteen, so with aligned structures in scope further structures and
interfaces are aligned as well. No description can bring in a structure of another size, whichever
files fail, so no description is ever refused for a size that cannot be filled up. The one refusal
for a size that is left is a size that no machine word holds.
-/

namespace ShaderVariants

/-! ## Aligned scopes -/

namespace TypeScope

/-- Whether the types of a scope have sizes divisible by four, and its structures by sixteen. -/
structure Aligned (types : TypeScope) : Prop where
  all : ∀ name type, types.find? name = some type → 4 ∣ type.size
  structures : ∀ e ∈ types.structures, 16 ∣ e.2

theorem aligned_of_structures {types : TypeScope}
    (structures : ∀ e ∈ types.structures, 16 ∣ e.2) : types.Aligned := by
  refine ⟨?_, structures⟩
  intro name type found
  unfold find? at found
  split at found
  case h_1 builtin =>
    cases found
    have builtins : ∀ type ∈ ValueType.builtins, 4 ∣ type.size := by decide
    exact builtins type (List.mem_of_find?_eq_some builtin)
  case h_2 =>
    obtain ⟨size, known, rfl⟩ := Option.map_eq_some_iff.mp found
    obtain ⟨before, after, whole, _⟩ := List.lookup_eq_some_iff.mp known
    have member : (name, size) ∈ types.structures := whole ▸ List.mem_append_cons_self
    exact Nat.dvd_trans (by decide) (structures _ member)

theorem empty_aligned : empty.Aligned := aligned_of_structures nofun

theorem Aligned.extend {types : TypeScope} (aligned : types.Aligned) {s : SharedStructure}
    (size : 16 ∣ s.byteSize) : (types.extend [s]).Aligned := by
  apply aligned_of_structures
  rw [TypeScope.extend, List.map_singleton, List.forall_mem_append, List.forall_mem_singleton]
  exact ⟨aligned.structures, size⟩

end TypeScope

/-! ## Structures and interfaces from descriptions -/

namespace Layout

def Even (layout : Layout) : Prop := ∀ f ∈ layout.fields, 4 ∣ f.type.size

theorem blank_even (name : String) (register : Nat) : (blank name register).Even := nofun

section
variable {types : TypeScope} {layout : Layout}

theorem Even.add (even : layout.Even) (aligned : types.Aligned) {type name : String}
    {later : Layout} (success : layout.add types type name = .ok later) : later.Even := by
  obtain ⟨found, known, rfl⟩ := add_eq_ok success
  rw [Even, List.forall_mem_append, List.forall_mem_singleton]
  exact ⟨even, aligned.all type found known⟩

end
end Layout

section
variable {types : TypeScope} (aligned : types.Aligned)
include aligned

theorem SharedStructure.fieldsOf_even {d : Description.Structure} {layout : Layout}
    (success : fieldsOf types d = .ok layout) : layout.Even :=
  foldlM_keeps (fun _ _ _ added before => Layout.Even.add before aligned added) _ _ _ success
    (Layout.blank_even _ _)

/-- The one size that a structure is refused for is one that does not fit in a word. -/
theorem SharedStructure.ofDescription_sizeFault (d : Description.Structure) {fault : Fault}
    (size : fault.OfSize) : ofDescription types d = .error fault ↔ fault = .overflow ∧
      ∃ layout, fieldsOf types d = .ok layout ∧ Layout.wordLimit ≤ layout.filledSize := by
  rw [ofDescription_eq, (fieldsOf_sizeless types d).bind_eq_error size, exists_and_left.symm]
  apply exists_congr
  intro layout
  rw [and_left_comm]
  apply and_congr_right
  intro success
  rw [← Layout.padChecked_eq_error (Layout.dvd_byteSize (fieldsOf_even aligned success)),
    bind_eq_error]
  apply or_iff_left
  rintro ⟨_, _, ended⟩
  cases ended

theorem SharedStructure.ofDescription_aligned (d : Description.Structure) :
    NoSizeFault (ofDescription types d) ∧
      ∀ s, ofDescription types d = .ok s → 16 ∣ s.byteSize := by
  constructor
  · intro name size refused
    cases ((ofDescription_sizeFault aligned d (.unaligned name size)).mp refused).1
  · intro s success
    simp only [ofDescription, bind_eq_ok] at success
    obtain ⟨layout, fields, padded, filled, made⟩ := success
    cases made
    exact Layout.pad_aligned (Layout.padChecked_eq_ok filled)

end

namespace Interface
variable {types : TypeScope} {i later : Interface}

theorem addField_even (aligned : types.Aligned) {type name : String}
    (success : i.addField types type name = .ok later) (even : i.layout.Even) :
    later.layout.Even := by
  rw [addField, bind_eq_ok] at success
  obtain ⟨layout, added, made⟩ := success
  cases made
  rw [depend_eq]
  exact even.add aligned added

theorem addResource_layout {type : String} {elementType : Option String} {register : Nat}
    {name : String} (success : i.addResource types type elementType register name = .ok later) :
    later.layout = i.layout := by
  obtain ⟨_, _, _, rfl⟩ := addResource_eq_ok success
  rfl

theorem addConstant_layout {type name value : String}
    (success : i.addConstant types type name value = .ok later) : later.layout = i.layout := by
  obtain ⟨_, _, rfl⟩ := addConstant_eq_ok success
  rfl

theorem itemsOf_even (aligned : types.Aligned) {d : Description.Interface}
    (success : itemsOf types d = .ok i) : i.layout.Even := by
  simp only [itemsOf, bind_eq_ok] at success
  obtain ⟨one, fields, two, resources, constants⟩ := success
  have first := foldlM_keeps (P := fun i : Interface => i.layout.Even)
    (fun _ _ _ added before => addField_even aligned added before) _ _ _ fields
    (Layout.blank_even _ _)
  have second := foldlM_keeps (P := fun i : Interface => i.layout.Even)
    (fun _ _ _ added before => (addResource_layout added).symm ▸ before) _ _ _ resources first
  exact foldlM_keeps (P := fun i : Interface => i.layout.Even)
    (fun _ _ _ added before => (addConstant_layout added).symm ▸ before) _ _ _ constants second

theorem ofDescription_sizeFault (aligned : types.Aligned) (d : Description.Interface)
    {fault : Fault} (size : fault.OfSize) : ofDescription types d = .error fault ↔
      fault = .overflow ∧
        ∃ i, itemsOf types d = .ok i ∧ Layout.wordLimit ≤ i.layout.filledSize := by
  rw [ofDescription_eq, (itemsOf_sizeless types d).bind_eq_error size, exists_and_left.symm]
  apply exists_congr
  intro i
  rw [and_left_comm]
  apply and_congr_right
  intro success
  rw [← Layout.padChecked_eq_error (Layout.dvd_byteSize (itemsOf_even aligned success)), finish,
    bind_eq_error]
  apply or_iff_left
  rintro ⟨_, _, ended⟩
  cases ended

theorem ofDescription_aligned (aligned : types.Aligned) (d : Description.Interface) :
    NoSizeFault (ofDescription types d) ∧
      ∀ i, ofDescription types d = .ok i → 16 ∣ i.layout.byteSize := by
  constructor
  · intro name size refused
    cases ((ofDescription_sizeFault aligned d (.unaligned name size)).mp refused).1
  · intro i success
    rw [ofDescription_eq, bind_eq_ok] at success
    obtain ⟨i, items, finished⟩ := success
    rw [finish, bind_eq_ok] at finished
    obtain ⟨layout, filled, made⟩ := finished
    cases made
    exact Layout.pad_aligned (Layout.padChecked_eq_ok filled)

end Interface

/-! ## Files -/

namespace Intake

theorem Registers.aligned {types : TypeScope} {ds : List Description.Structure}
    {structures : List SharedStructure} (registers : Registers types ds structures)
    (aligned : types.Aligned) :
    (types.extend structures).Aligned ∧ ∀ s ∈ structures, 16 ∣ s.byteSize := by
  induction registers with
  | nil types => simpa using aligned
  | @cons types d s ds rest made _ _ _ ih =>
    have size := (SharedStructure.ofDescription_aligned aligned d).2 s made
    rw [TypeScope.extend_cons, List.forall_mem_cons]
    obtain ⟨later, others⟩ := ih (aligned.extend size)
    exact ⟨later, size, others⟩

theorem stage_noSizeFault (ds : List Description.Structure) {types : TypeScope}
    (aligned : types.Aligned) : NoSizeFault (stage types ds) := by
  rw [← avoids_unaligned]
  induction ds generalizing types with
  | nil => exact avoids_ok _
  | cons d ds ih =>
    obtain ⟨sound, sized⟩ := SharedStructure.ofDescription_aligned aligned d
    apply avoids_bind (avoids_unaligned.mpr sound)
    intro s made
    apply avoids_bind (avoids_unaligned.mpr (types.register_sizeless _ _).noSizeFault)
    intro next registered
    obtain ⟨_, _, rfl⟩ := TypeScope.register_eq_ok registered
    exact avoids_bind (ih (aligned.extend (sized s made))) fun _ _ => avoids_ok _

theorem addStructures_sizeFault (i : Intake) (ds : List Description.Structure) {fault : Fault}
    (size : fault.OfSize) :
    (i.addStructures ds).1 = .error fault ↔ stage i.types ds = .error fault := by
  unfold addStructures
  split
  case h_1 refused =>
    rw [refused, Except.error.injEq, Except.error.injEq]
  case h_2 types structures staged =>
    rw [staged]
    have offered := i.catalog.offerStructures_sizeless structures
    apply iff_of_false
    · split
      case h_1 other _ refused =>
        rintro ⟨⟩
        rw [refused] at offered
        exact offered fault rfl size
      case h_2 => exact nofun
    · exact nofun

theorem addDescription_sizeFault (i : Intake) (d : Description) {fault : Fault}
    (size : fault.OfSize) : (i.addDescription d).1.1 = .error fault ↔
      d.interfaces.mapM (Interface.ofDescription i.types) = .error fault := by
  unfold addDescription
  split
  case h_1 refused => rw [refused, Except.error.injEq, Except.error.injEq]
  case h_2 interfaces made =>
    rw [made]
    exact iff_of_false (fun refused => offer_sizeless _ _ _ fault refused size) nofun

section
variable {i : Intake} (aligned : i.types.Aligned)
include aligned

theorem addStructures_noSizeFault (ds : List Description.Structure) :
    NoSizeFault (i.addStructures ds).1 := fun name size refused =>
  stage_noSizeFault ds aligned name size
    ((addStructures_sizeFault i ds (.unaligned name size)).mp refused)

theorem addDescription_noSizeFault (d : Description) :
    NoSizeFault (i.addDescription d).1.1 := by
  intro name size refused
  rw [addDescription_sizeFault i d (.unaligned name size)] at refused
  exact avoids_unaligned.mp (avoids_mapM (fun d =>
    avoids_unaligned.mpr (Interface.ofDescription_aligned aligned d).1) _) name size refused

end

/-- Only the registration of structures changes the types. -/
theorem process_types (files : List SourceFile) (i : Intake) :
    (files.foldl process i).types = i.types := by
  induction files generalizing i with
  | nil => rfl
  | cons file files ih =>
    rw [List.foldl_cons, ih, process]
    split
    split <;> rfl

theorem read_types (tree : FileTree) (i : Intake) (paths : List Path) :
    (read tree i paths).2.types = i.types :=
  (read_follows tree paths i i i i [] (.refl i)).2.types

theorem register_aligned {start : Intake} (bare : start.types = .empty) (tree : FileTree)
    (paths : List Path) (files : List SourceFile) :
    (register (read tree start paths).2 files).2.types.Aligned := by
  obtain ⟨ds, structures, registers, types, _⟩ :=
    register_registers files (read tree start paths).2
  rw [read_types, bare] at registers types
  exact types ▸ (registers.aligned TypeScope.empty_aligned).1

def Fate.fault? : Fate → Option Fault
  | .unread fault | .unregistered fault | .refused _ fault => some fault
  | .accepted _ _ _ => none

theorem fatesFrom_noSizeFault (tree : FileTree) (paths : List Path) {turn later : Intake}
    (here : turn.types.Aligned) (there : later.types.Aligned) :
    ∀ f ∈ fatesFrom tree turn later paths, ∀ name size,
      f.2.fault? ≠ some (.unalignedSize name size) := by
  induction paths generalizing turn later with
  | nil => simp [fatesFrom]
  | cons path paths ih =>
    obtain ⟨fate, turn', later', happens⟩ := turn_cases tree turn later path
    -- Only a file whose structures are taken changes the types that the next one is staged in.
    have next : turn'.types.Aligned := by
      cases happens with
      | unread _ | unregistered _ _ => exact here
      | refused _ staged _ _ | accepted _ staged _ _ _ _ =>
        obtain ⟨registers, rfl⟩ := (stage_eq_ok_iff _ _ _ _).mp staged
        exact (registers.aligned here).1
    rw [happens.fates, List.forall_mem_cons]
    refine ⟨?_, ih next (happens.types ▸ there)⟩
    intro name size same
    cases happens with
    | unread opened =>
      cases same
      exact (ofFile_sizeless tree path).noSizeFault name size opened
    | unregistered _ refused =>
      cases same
      exact addStructures_noSizeFault here _ name size (congrArg Prod.fst refused)
    | refused _ _ _ refused =>
      cases same
      exact addDescription_noSizeFault there _ name size (congrArg Prod.fst refused)
    | accepted _ _ _ _ _ _ => cases same

/-- No description file is refused for a size that cannot be filled up. Whatever files are read,
registered and described, also files that fail, the types stay aligned, also those that are staged.
With aligned types no structure and no interface has such a size, and all that are made have sizes
divisible by sixteen. -/
theorem unaligned_unreachable (tree : FileTree) (catalog : Catalog) (log : List LogLine)
    (paths : List Path) :
    let start := Intake.start catalog log
    (∀ f ∈ fates tree start paths, ∀ name size, f.2.fault? ≠ some (.unalignedSize name size)) ∧
      (∀ files described : List SourceFile,
        let turn := described.foldl process (register (read tree start paths).2 files).2
        turn.types.Aligned ∧
          (∀ ds later structures, stage turn.types ds = .ok (later, structures) →
            later.Aligned ∧ ∀ s ∈ structures, 16 ∣ s.byteSize) ∧
          (∀ ds, NoSizeFault (turn.addStructures ds).1) ∧
          ∀ d, NoSizeFault (turn.addDescription d).1.1) ∧
      ∀ types : TypeScope, types.Aligned →
        (∀ d, NoSizeFault (SharedStructure.ofDescription types d) ∧
            ∀ s, SharedStructure.ofDescription types d = .ok s → 16 ∣ s.byteSize) ∧
          ∀ d, NoSizeFault (Interface.ofDescription types d) ∧
            ∀ i, Interface.ofDescription types d = .ok i → 16 ∣ i.layout.byteSize := by
  intro start
  have aligned : ∀ files, (register (read tree start paths).2 files).2.types.Aligned :=
    register_aligned rfl tree paths
  refine ⟨?_, ?_, ?_⟩
  -- The types that fates are told in are those that the files leave in the end.
  · have final : (takeFiles tree start paths).types = (registered tree start paths).types :=
      (takeFiles_follows tree start paths).types
    rw [takeFiles, process_types] at final
    exact fatesFrom_noSizeFault tree paths TypeScope.empty_aligned (final ▸ aligned _)
  · intro files described turn
    have here : turn.types.Aligned := (process_types described _).symm ▸ aligned files
    refine ⟨here, ?_, addStructures_noSizeFault here, addDescription_noSizeFault here⟩
    intro ds later structures staged
    obtain ⟨registers, rfl⟩ := (stage_eq_ok_iff _ _ _ _).mp staged
    exact registers.aligned here
  · intro types known
    exact ⟨SharedStructure.ofDescription_aligned known, Interface.ofDescription_aligned known⟩

theorem unaligned_unreachable_light :
    let light : Description.Structure := ⟨"Light", [⟨"float3", "direction"⟩, ⟨"float2", "size"⟩]⟩
    let scene : Description.Interface := ⟨"Scene", ⟨0, [⟨"Light", "sun"⟩, ⟨"bool", "on"⟩]⟩, [], []⟩
    let types : TypeScope := ⟨[("Light", 32)]⟩
    (stage .empty [light]).map (·.1) = .ok types ∧
      ∃ i, Interface.ofDescription types scene = .ok i ∧ i.layout.byteSize = 48 ∧
        16 ∣ i.layout.byteSize := by
  intro light scene types
  have reached := unaligned_unreachable ⟨[], []⟩ .empty [] []
  have staged : (stage .empty [light]).map (·.1) = .ok types := by decide +kernel
  have size : (Interface.ofDescription types scene).map (·.layout.byteSize) = .ok 48 := by
    decide +kernel
  have aligned : types.Aligned := by
    cases made : stage .empty [light] with
    | error fault =>
      rw [made] at staged
      cases staged
    | ok result =>
      rw [made] at staged
      exact Except.ok.inj staged ▸ ((reached.2.1 [] []).2.1 _ result.1 result.2 made).1
  refine ⟨staged, ?_⟩
  cases made : Interface.ofDescription types scene with
  | error fault =>
    rw [made] at size
    cases size
  | ok i =>
    rw [made] at size
    exact ⟨i, rfl, Except.ok.inj size, ((reached.2.2 types aligned).2 scene).2 i made⟩

end Intake
end ShaderVariants
