import ShaderVariants.Proofs.Accounts
import ShaderVariants.Proofs.Documents
import ShaderVariants.Proofs.Expansion
import ShaderVariants.Proofs.Overflows

/-!
How large sizes get, and whether they fit in machine words. A structure may embed earlier ones any
number of times, so sizes grow with the number of members from one level of embedding to the next.
A size stays within the room that its level and the greatest number of members give, and where that
fits in a word nothing overflows. Where levels have no bound, sizes have none either: each floor of a
tower is four times as large as the one below it, and a high enough one stops the whole build.
-/

namespace ShaderVariants
open Layout (wordLimit)

/-! ## Levels -/

/-- The greatest size that a level has room for, with so many members on each level below. -/
def room (width level : Nat) : Nat := 64 * width ^ level

theorem room_succ (width level : Nat) : room width (level + 1) = width * room width level := by
  rw [room, room, Nat.pow_succ, ← Nat.mul_assoc, Nat.mul_comm]

theorem room_mono (positive : 0 < width) {low high : Nat} (le : low ≤ high) :
    room width low ≤ room width high :=
  Nat.mul_le_mul_left 64 (Nat.pow_le_pow_right positive le)

theorem dvd_room (width level : Nat) : 16 ∣ room width level :=
  Nat.dvd_mul_right_of_dvd (by decide) _

/-- Whether no type of a scope is larger than its level has room for. -/
def TypeScope.Within (types : TypeScope) (width : Nat) (level : String → Nat) : Prop :=
  ∀ name type, types.find? name = some type → type.size ≤ room width (level name)

/-- Whether members are few, and of types below a level. -/
structure Description.Nested (width : Nat) (level : String → Nat) (top : Nat)
    (members : List Description.Variable) : Prop where
  few : members.length ≤ width
  lower : ∀ v ∈ members, level v.type < top

/-- Whether the structures of a description embed types of lower levels only. -/
def Description.Leveled (width : Nat) (level : String → Nat) (ds : List Description.Structure) :
    Prop := ∀ d ∈ ds, Nested width level (level d.name) d.members

theorem empty_within (positive : 0 < width) (level : String → Nat) :
    TypeScope.empty.Within width level := by
  intro name type found
  have small : ∀ type ∈ ValueType.builtins, type.size ≤ 64 := by decide
  obtain builtin | known := TypeScope.find?_cases found
  · exact (small type builtin).trans (room_mono positive (Nat.zero_le (level name)))
  · cases known

/-! ## Layouts -/

theorem foldlM_grows {α β ε : Type} {f : β → α → Except ε β} {size : β → Nat} {growth : Nat}
    {l : List α} (step : ∀ a ∈ l, ∀ b next, f b a = .ok next → size next ≤ size b + growth)
    {b later : β} (success : l.foldlM f b = .ok later) :
    size later ≤ size b + l.length * growth := by
  induction l generalizing b with
  | nil =>
    cases success
    simp
  | cons a l ih =>
    rw [List.foldlM_cons, bind_eq_ok] at success
    obtain ⟨next, first, rest⟩ := success
    obtain ⟨here, others⟩ := List.forall_mem_cons.mp step
    have one := here b next first
    have more := ih others rest
    rw [List.length_cons, Nat.succ_mul]
    omega

namespace Layout
variable {types : TypeScope} {width : Nat} {level : String → Nat}

theorem add_size (within : types.Within width level) {layout later : Layout} {type name : String}
    (success : layout.add types type name = .ok later) :
    later.byteSize ≤ layout.byteSize + room width (level type) := by
  obtain ⟨found, known, rfl⟩ := add_eq_ok success
  have small := within type found known
  rw [byteSize_append, List.map_singleton, List.sum_singleton]
  exact Nat.add_le_add_left small _

theorem filledSize_le {layout : Layout} {bound : Nat} (below : layout.byteSize ≤ bound)
    (round : 16 ∣ bound) : layout.filledSize ≤ bound := by
  simp only [filledSize, missingFields, alignment, paddingType]
  omega

theorem filledSize_of_full {layout : Layout} (full : 16 ∣ layout.byteSize) :
    layout.filledSize = layout.byteSize := by
  simp only [filledSize, missingFields, alignment, paddingType]
  omega

end Layout

theorem Description.Nested.fill {width top : Nat} {level : String → Nat}
    {members : List Description.Variable} (nested : Nested width level top members)
    (positive : 0 < width) {β ε : Type} {f : β → Description.Variable → Except ε β}
    {size : β → Nat}
    (step : ∀ v b next, f b v = .ok next → size next ≤ size b + room width (level v.type))
    {b later : β} (success : members.foldlM f b = .ok later) (start : size b = 0) :
    size later ≤ room width top := by
  obtain _ | top := top
  · have none : members = [] :=
      List.eq_nil_iff_forall_not_mem.mpr fun v member => absurd (nested.lower v member) (by omega)
    subst none
    cases success
    rw [start]
    exact Nat.zero_le _
  · have even : ∀ v ∈ members, ∀ b next, f b v = .ok next →
        size next ≤ size b + room width top := by
      intro v member b next made
      have low := room_mono positive (Nat.le_of_lt_succ (nested.lower v member))
      exact (step v b next made).trans (Nat.add_le_add_left low _)
    calc
      size later ≤ size b + members.length * room width top := foldlM_grows even success
      _ = members.length * room width top := by rw [start, Nat.zero_add]
      _ ≤ width * room width top := Nat.mul_le_mul_right _ nested.few
      _ = room width (top + 1) := (room_succ width top).symm

section
variable {types : TypeScope} {width : Nat} {level : String → Nat}
  (within : types.Within width level)
include within

theorem Interface.addField_size {i later : Interface} {type name : String}
    (success : i.addField types type name = .ok later) :
    later.layout.byteSize ≤ i.layout.byteSize + room width (level type) := by
  rw [addField, bind_eq_ok] at success
  obtain ⟨layout, added, made⟩ := success
  cases made
  rw [depend_eq]
  exact Layout.add_size within added

variable (positive : 0 < width)
include positive

theorem SharedStructure.fieldsOf_size {d : Description.Structure}
    (nested : Description.Nested width level (level d.name) d.members) {layout : Layout}
    (success : fieldsOf types d = .ok layout) : layout.filledSize ≤ room width (level d.name) := by
  have filling : layout.byteSize ≤ room width (level d.name) :=
    nested.fill positive (fun _ _ _ added => Layout.add_size within added) success rfl
  exact Layout.filledSize_le filling (dvd_room _ _)

theorem SharedStructure.ofDescription_size {d : Description.Structure}
    (nested : Description.Nested width level (level d.name) d.members) {s : SharedStructure}
    (success : ofDescription types d = .ok s) :
    s.name = d.name ∧ s.byteSize ≤ room width (level d.name) := by
  rw [ofDescription_eq, bind_eq_ok] at success
  obtain ⟨layout, fields, filled⟩ := success
  rw [bind_eq_ok] at filled
  obtain ⟨padded, filled, made⟩ := filled
  cases made
  refine ⟨rfl, ?_⟩
  rw [byteSize, Layout.pad_byteSize (Layout.padChecked_eq_ok filled)]
  exact fieldsOf_size within positive nested fields

theorem Interface.itemsOf_size {d : Description.Interface} {top : Nat}
    (nested : Description.Nested width level top d.buffer.members) {i : Interface}
    (success : itemsOf types d = .ok i) : i.layout.filledSize ≤ room width top := by
  simp only [itemsOf, bind_eq_ok] at success
  obtain ⟨one, fields, two, resources, constants⟩ := success
  have first : one.layout.byteSize ≤ room width top :=
    nested.fill positive (fun _ _ _ added => addField_size within added) fields rfl
  have second := foldlM_keeps (P := fun i : Interface => i.layout.byteSize ≤ room width top)
    (fun _ _ _ added before => (addResource_layout added).symm ▸ before) _ _ _ resources first
  have third := foldlM_keeps (P := fun i : Interface => i.layout.byteSize ≤ room width top)
    (fun _ _ _ added before => (addConstant_layout added).symm ▸ before) _ _ _ constants second
  exact Layout.filledSize_le third (dvd_room _ _)

end

/-! ## Towers -/

def floorName (n : Nat) : String := s!"S{n}"

/-- A floor of a tower: four times the floor below it, and at the ground four matrices. -/
def Description.floor (n : Nat) : Structure :=
  let type := if n = 0 then "float4x4" else floorName (n - 1)
  ⟨floorName n, ["a", "b", "c", "d"].map fun name => ⟨type, name⟩⟩

def Description.tower (height : Nat) : List Structure := (List.range height).map floor

theorem floorName_injective : Function.Injective floorName := Layout.numbered_injective "S"

theorem floorName_plain (n : Nat) : ValueType.builtin? (floorName n) = none := by
  have small : ∀ type ∈ ValueType.builtins, type.declared.toList.head? ≠ some 'S' := by decide
  refine List.find?_eq_none.mpr fun type member same => small type member ?_
  rw [beq_iff_eq.mp same, floorName, String.toList_append]
  rfl

theorem TypeScope.find?_extend_new {types : TypeScope} {s : SharedStructure}
    (plain : ValueType.builtin? s.name = none) (fresh : types.isStructure s.name = false) :
    (types.extend [s]).find? s.name = some ⟨s.name, s.name, s.byteSize⟩ := by
  have before : types.structures.lookup s.name = none := by
    simpa [isStructure, structureSize?] using fresh
  rw [find?_of_plain plain, structureSize?, extend, List.lookup_append, before, List.map_singleton,
    List.lookup_cons_self]
  rfl

theorem SharedStructure.fieldsOf_four {types : TypeScope} {type : String} {found : ValueType}
    (known : types.find? type = some found) (name : String) : ∃ layout,
      fieldsOf types ⟨name, ["a", "b", "c", "d"].map fun name => ⟨type, name⟩⟩ = .ok layout ∧
        layout.byteSize = 4 * found.size := by
  refine ⟨⟨name, 0, ["a", "b", "c", "d"].map (⟨found, ·, false⟩)⟩, ?_, ?_⟩
  · simp [fieldsOf, Layout.add, TypeScope.lookup, known, Layout.blank, bind, Except.bind, pure,
      Except.pure]
  · rw [Layout.byteSize_eq_sum]
    simp only [List.map_cons, List.map_nil, List.sum_cons, List.sum_nil]
    omega

theorem SharedStructure.ofDescription_full {types : TypeScope} {d : Description.Structure}
    {layout : Layout} (fields : fieldsOf types d = .ok layout) (full : 16 ∣ layout.byteSize)
    (fits : layout.byteSize < wordLimit) :
    ∃ s, ofDescription types d = .ok s ∧ s.name = d.name ∧ s.byteSize = layout.byteSize := by
  have filled := Layout.filledSize_of_full full
  have even : Layout.paddingType.size ∣ layout.byteSize := Nat.dvd_trans (by decide) full
  have padded := Layout.pad_of_dvd even
  have checked := Layout.padChecked_of_fits (filled.symm ▸ fits)
  rw [padded] at checked
  refine ⟨⟨d.name, _⟩, ?_, rfl, (Layout.pad_byteSize padded).trans filled⟩
  rw [ofDescription_eq, fields]
  show (layout.padChecked >>= _) = _
  rw [checked]
  rfl

theorem Description.floor_fields {types : TypeScope} (height : Nat)
    (below : ∀ n < height, ∃ type, types.find? (floorName n) = some type ∧
      type.size = 4 ^ (n + 4)) :
    ∃ layout, SharedStructure.fieldsOf types (floor height) = .ok layout ∧
      layout.byteSize = 4 ^ (height + 4) := by
  have base : ∃ found, types.find? (if height = 0 then "float4x4" else floorName (height - 1)) =
      some found ∧ found.size = 4 ^ (height + 3) := by
    cases height with
    | zero => exact ⟨⟨"float4x4", "DirectX::XMFLOAT4X4", 64⟩, rfl, rfl⟩
    | succ height => exact below height (Nat.lt_succ_self height)
  obtain ⟨found, known, size⟩ := base
  obtain ⟨layout, made, large⟩ := SharedStructure.fieldsOf_four known (floorName height)
  exact ⟨layout, made, by rw [large, size, ← Nat.pow_succ']⟩

theorem dvd_floor (height : Nat) : 16 ∣ 4 ^ (height + 4) :=
  Nat.dvd_trans (by decide) (Nat.pow_dvd_pow 4 (Nat.le_add_left 4 height))

/-! ## Files -/

namespace Intake
variable {types : TypeScope} {width : Nat} {level : String → Nat}

theorem Registers.within {ds : List Description.Structure} {structures : List SharedStructure}
    (registers : Registers types ds structures) (positive : 0 < width)
    (leveled : Description.Leveled width level ds) (before : types.Within width level) :
    (types.extend structures).Within width level := by
  induction registers with
  | nil types => simpa using before
  | @cons types d s ds rest made _ _ _ ih =>
    obtain ⟨nested, others⟩ := List.forall_mem_cons.mp leveled
    obtain ⟨named, size⟩ := SharedStructure.ofDescription_size before positive nested made
    rw [TypeScope.extend_cons]
    refine ih others fun name type found => ?_
    obtain earlier | ⟨rfl, same⟩ := TypeScope.find?_extend_singleton found
    · exact before name type earlier
    · rwa [same, named]

theorem register_within (positive : 0 < width) (files : List SourceFile)
    (leveled : ∀ file ∈ files, Description.Leveled width level file.description.structures)
    {i : Intake} (before : i.types.Within width level) :
    (register i files).2.types.Within width level := by
  induction files generalizing i with
  | nil => exact before
  | cons file files ih =>
    obtain ⟨here, others⟩ := List.forall_mem_cons.mp leveled
    obtain ⟨structures, ⟨registers, _⟩, accepted⟩ | ⟨_, fault, refused⟩ :=
      addStructures_registers i file.description.structures
    · rw [register, accepted]
      exact ih others (registers.within positive here before)
    · rw [register, refused]
      exact ih others (i := i.failAt file.path fault) before

theorem register_subset (files : List SourceFile) (i : Intake) :
    ∀ file ∈ (register i files).1, file ∈ files := by
  induction files generalizing i with
  | nil => simp [register]
  | cons file files ih =>
    intro kept member
    rw [register] at member
    split at member
    · exact List.mem_cons_of_mem file (ih _ kept member)
    · obtain rfl | member := List.mem_cons.mp member
      · exact List.mem_cons_self
      · exact List.mem_cons_of_mem file (ih _ kept member)

/-- Twenty-eight floors fit in words. -/
theorem tower_registers (height : Nat) (low : height ≤ 28) : ∃ structures,
    Registers .empty (Description.tower height) structures ∧
      structures.map (·.name) = (List.range height).map floorName ∧
      ∀ n < height, ∃ type, (TypeScope.empty.extend structures).find? (floorName n) = some type ∧
        type.size = 4 ^ (n + 4) := by
  induction height with
  | zero => exact ⟨[], .nil _, rfl, nofun⟩
  | succ height ih =>
    obtain ⟨structures, registers, names, sizes⟩ := ih (Nat.le_of_succ_le low)
    obtain ⟨layout, fields, wide⟩ := Description.floor_fields height sizes
    have fits : layout.byteSize < wordLimit := by
      calc
        layout.byteSize = 4 ^ (height + 4) := wide
        _ < 4 ^ 32 := Nat.pow_lt_pow_right (by decide) (by omega)
        _ = wordLimit := by decide
    obtain ⟨s, made, named, size⟩ :=
      SharedStructure.ofDescription_full fields (wide ▸ dvd_floor height) fits
    rw [wide] at size
    have plain : ValueType.builtin? s.name = none := named ▸ floorName_plain height
    have fresh : (TypeScope.empty.extend structures).isStructure s.name = false := by
      rw [← Bool.not_eq_true, TypeScope.empty_extend_isStructure, names, named]
      intro member
      obtain ⟨n, low, same⟩ := List.mem_map.mp member
      exact absurd (floorName_injective same) (List.mem_range.mp low).ne
    refine ⟨structures ++ [s], ?_, ?_, ?_⟩
    · rw [Description.tower, List.range_succ, List.map_append]
      exact registers.append (.cons made plain fresh (.nil _))
    · rw [List.map_append, names, List.range_succ, List.map_append, List.map_singleton, named]
      rfl
    · intro n low
      rw [TypeScope.extend_append]
      obtain earlier | rfl := Nat.lt_succ_iff_lt_or_eq.mp low
      · obtain ⟨type, there, size⟩ := sizes n earlier
        exact ⟨type, TypeScope.find?_extend there [s], size⟩
      · exact ⟨_, named ▸ TypeScope.find?_extend_new plain fresh, size⟩

theorem read_single {d : Description} {document : String}
    (written : Description.Written d document) (i : Intake) :
    read (FileTree.empty.put ["a.json"] (.file document.toUTF8)) i [⟨["", "a.json"]⟩] =
      ([⟨⟨["", "a.json"]⟩, d⟩], i) := by
  have file : (FileTree.empty.put ["a.json"] (.file document.toUTF8)).readFile
      ⟨["", "a.json"]⟩ = .ok document.toUTF8 :=
    (FileTree.readFile_iff _ _ _).mpr
      ⟨["a.json"], FileTree.leads_rooted _ ⟨rfl, by decide⟩ (by decide) (by decide), rfl⟩
  have opened := Description.ofFile_eq file
  rw [Description.ofText_written written] at opened
  rw [read, opened]
  rfl

theorem tower_computes {tree : FileTree} {start : Intake} {paths : List Path} {file : SourceFile}
    (height : Nat) (low : height ≤ 28) (bare : start.types = .empty)
    (single : (read tree start paths).1 = [file])
    (floors : file.description.structures = Description.tower (height + 1)) :
    ∃ layout, Computes tree start paths layout ∧ layout.byteSize = 4 ^ (height + 4) := by
  obtain ⟨structures, registers, _, sizes⟩ := tower_registers height low
  obtain ⟨layout, made, size⟩ := Description.floor_fields height sizes
  have first : (Intake.read tree start paths).1 = [] ++ file :: [] := single
  have split : file.description.structures =
      Description.tower height ++ Description.floor height :: [] := by
    rw [floors, Description.tower, List.range_succ, List.map_append]
    rfl
  have staged : stage (register (Intake.read tree start paths).2 []).2.types
      (Description.tower height) = .ok (TypeScope.empty.extend structures, structures) := by
    rw [register, read_types, bare]
    exact (stage_eq_ok_iff _ _ _ _).mpr ⟨registers, rfl⟩
  exact ⟨layout, .shared first split staged made, size⟩

/-! ## Sizes of a run -/

/-- An intake overflows exactly where a layout that it fills up is too large, and what is not too
large has its exact size. Where structures embed lower levels only, and no layout has more members
than the width, no size is beyond the room of the level above all structures, so nothing overflows
if that fits in a word. -/
theorem sizes_bounded (tree : FileTree) (catalog : Catalog) (log : List LogLine)
    (paths : List Path) :
    let before := start catalog log
    ((takeFiles tree before paths).overflowed = true ↔
        ∃ layout, Computes tree before paths layout ∧ wordLimit ≤ layout.filledSize) ∧
      (∀ layout, Computes tree before paths layout → layout.filledSize < wordLimit →
        layout.wordSize = some layout.byteSize ∧ layout.padChecked = layout.pad) ∧
      ∀ (width depth : Nat) (level : String → Nat), 0 < width →
        (∀ file ∈ (read tree before paths).1,
          Description.Leveled width level file.description.structures ∧
            (∀ d ∈ file.description.structures, level d.name ≤ depth) ∧
            ∀ d ∈ file.description.interfaces,
              Description.Nested width level (depth + 1) d.buffer.members) →
        (∀ layout, Computes tree before paths layout →
            layout.filledSize ≤ room width (depth + 1)) ∧
          (room width (depth + 1) < wordLimit →
            (takeFiles tree before paths).overflowed = false) := by
  dsimp only
  have overflow := takeFiles_overflowed tree catalog log paths
  refine ⟨overflow, fun layout computes small => computes.fits small, ?_⟩
  intro width depth level positive shallow
  have scope {files : List SourceFile}
      (given : ∀ file ∈ files, file ∈ (read tree (start catalog log) paths).1) :
      (register (read tree (start catalog log) paths).2 files).2.types.Within width level := by
    apply register_within positive files
    · intro file member
      exact (shallow file (given file member)).1
    · rw [read_types]
      exact empty_within positive level
  have small : ∀ layout, Computes tree (start catalog log) paths layout →
      layout.filledSize ≤ room width (depth + 1) := by
    intro layout computes
    cases computes with
    | @shared before after file done later d types made layout read split staged fields =>
      have member : file ∈ (Intake.read tree (start catalog log) paths).1 :=
        read ▸ List.mem_append_right before List.mem_cons_self
      obtain ⟨here, low, _⟩ := shallow file member
      rw [split, Description.Leveled, List.forall_mem_append, List.forall_mem_cons] at here
      rw [split, List.forall_mem_append, List.forall_mem_cons] at low
      obtain ⟨registers, rfl⟩ := (stage_eq_ok_iff _ _ _ _).mp staged
      have earlier := scope fun file inside => read ▸ List.mem_append_left _ inside
      have within := registers.within positive here.1 earlier
      have size := SharedStructure.fieldsOf_size within positive here.2.1 fields
      exact size.trans (room_mono positive (Nat.le_succ_of_le low.2.1))
    | @interface file done later d i kept split _ made =>
      have within := scope fun file inside => inside
      have nested := (shallow file (register_subset _ _ file kept)).2.2
      rw [split, List.forall_mem_append, List.forall_mem_cons] at nested
      exact Interface.itemsOf_size within positive nested.2.1 made
  refine ⟨small, fun enough => ?_⟩
  rw [← Bool.not_eq_true, overflow]
  intro ⟨layout, computes, large⟩
  have bound := small layout computes
  omega

/-- A tower of two floors, and an interface with the upper one, stay far below the limit. -/
theorem sizes_bounded_low :
    let scene : Description.Interface :=
      ⟨"Scene", ⟨0, [⟨"S1", "tower"⟩, ⟨"float", "time"⟩]⟩, [], []⟩
    let d : Description := ⟨none, Description.tower 2, [scene]⟩
    let level : String → Nat := fun name => if name = "S1" then 2 else if name = "S0" then 1 else 0
    (∃ document, Description.Written d document) ∧
    ∀ document, Description.Written d document →
      let tree := FileTree.empty.put ["a.json"] (.file document.toUTF8)
      let paths : List Path := [⟨["", "a.json"]⟩]
      (∀ file ∈ (read tree (start .empty []) paths).1,
        Description.Leveled 4 level file.description.structures ∧
          (∀ d ∈ file.description.structures, level d.name ≤ 2) ∧
          ∀ d ∈ file.description.interfaces, Description.Nested 4 level 3 d.buffer.members) ∧
        (∀ layout, Computes tree (start .empty []) paths layout → layout.filledSize ≤ 4096) ∧
        (takeFiles tree (start .empty []) paths).overflowed = false ∧
        ∃ layout, Computes tree (start .empty []) paths layout ∧ layout.wordSize = some 1024 := by
  intro scene d level
  have plain : d.Plain := by
    constructor <;> simp [d, scene]
  refine ⟨Description.exists_written plain, fun document written => ?_⟩
  intro tree paths
  have single : (read tree (start .empty []) paths).1 = [⟨⟨["", "a.json"]⟩, d⟩] :=
    congrArg Prod.fst (read_single written (start .empty []))
  have leveled : Description.Leveled 4 level d.structures := by
    intro e member
    obtain ⟨n, low, rfl⟩ := List.mem_map.mp member
    obtain rfl | rfl : n = 0 ∨ n = 1 := by
      have := List.mem_range.mp low
      omega
    · constructor <;> decide +kernel
    · constructor <;> decide +kernel
  have low : ∀ e ∈ d.structures, level e.name ≤ 2 := by decide +kernel
  have nested : ∀ e ∈ d.interfaces, Description.Nested 4 level 3 e.buffer.members := by
    intro e member
    cases List.mem_singleton.mp member
    constructor <;> decide +kernel
  have shallow : ∀ file ∈ (read tree (start .empty []) paths).1,
      Description.Leveled 4 level file.description.structures ∧
        (∀ d ∈ file.description.structures, level d.name ≤ 2) ∧
        ∀ d ∈ file.description.interfaces, Description.Nested 4 level 3 d.buffer.members := by
    rw [single, List.forall_mem_singleton]
    exact ⟨leveled, low, nested⟩
  obtain ⟨_, sized, bounded⟩ := sizes_bounded tree .empty [] paths
  obtain ⟨small, fits⟩ := bounded 4 2 level (by decide) shallow
  obtain ⟨layout, computes, size⟩ := tower_computes 1 (by decide) rfl single rfl
  have word := (sized layout computes ((small layout computes).trans_lt (by decide))).1
  refine ⟨shallow, small, fits (by decide), layout, computes, ?_⟩
  rw [word, size]
  rfl

/-- A tower of twenty-nine floors has a floor that is the first not to fit in a word. A build that
finds it stops there, whatever else it is to do; no failure is told. -/
theorem tower_beyond_word :
    let d : Description := ⟨none, Description.tower 29, []⟩
    (∃ document, Description.Written d document) ∧
    ∀ document, Description.Written d document →
      let tree : FileTree := ⟨[(["a.json"], .file document.toUTF8)], []⟩
      (∃ layout, Computes tree Build.presets [⟨["", "a.json"]⟩] layout ∧
          layout.byteSize = wordLimit ∧ layout.wordSize = none ∧
          layout.padChecked = .error .overflow) ∧
        ∀ (config : BuildConfig) (runner : Runner (FileTree × Unit)),
          config.sourceDir = ⟨["", ""]⟩ →
          (Build.run ".tmp" config runner tree ()).result = .error .overflow := by
  intro d
  have plain : d.Plain := by
    constructor <;> simp [d]
  refine ⟨Description.exists_written plain, fun document written => ?_⟩
  intro tree
  have computed (log : List LogLine) : ∃ layout, Computes tree
      (start (Preset.addAll Preset.standard .empty).1 log) [⟨["", "a.json"]⟩] layout ∧
        layout.byteSize = wordLimit :=
    tower_computes 28 le_rfl rfl (congrArg Prod.fst (read_single written _)) rfl
  have filled {layout : Layout} (size : layout.byteSize = wordLimit) :
      wordLimit ≤ layout.filledSize := size ▸ layout.byteSize_le_filledSize
  constructor
  · obtain ⟨layout, computes, size⟩ := computed []
    refine ⟨layout, computes, size, ?_, ?_⟩
    · rw [Layout.wordSize_eq, size, if_neg (Nat.lt_irrefl _)]
    · have even : Layout.paddingType.size ∣ layout.byteSize := size ▸ by decide
      exact (Layout.padChecked_eq_error even).mpr ⟨rfl, filled size⟩
  · intro config runner root
    obtain ⟨layout, computes, size⟩ := computed
      ((Preset.addAll Preset.standard .empty).2 ++ [Build.foundLine ⟨["", ""]⟩ [⟨["", "a.json"]⟩]])
    have overflowed := (takeFiles_overflowed _ _ _ _).mpr ⟨layout, computes, filled size⟩
    have stopped : (Build.intake tree config.sourceDir).1 = .error .overflow := by
      simp only [Build.intake, root, tree, FileTree.descriptionFiles_single]
      rw [if_pos overflowed]
    cases taken : Build.intake tree config.sourceDir with
    | mk result log =>
      rw [taken] at stopped
      cases stopped
      simp only [Build.run, taken]

end Intake
end ShaderVariants
