import Mathlib.Data.List.TakeWhile
import ShaderVariants.Path

/-!
Paths whose last piece is the name of an entry. Such a path keeps this name in every reading: as
its file name, as its last component, and behind any directory that it is joined to. And the order
of paths, which is total.
-/

namespace ShaderVariants.Path

/-- Whether a piece names an entry of the directory it is looked up in. -/
structure IsName (piece : String) : Prop where
  solid : isFiller piece = false
  down : piece ≠ ".."

theorem IsName.nonempty {piece : String} (plain : IsName piece) : piece ≠ "" := by
  rintro rfl
  cases plain.solid

/-- Whether the last piece of a path is a name, and which one. -/
structure EndsIn (p : Path) (name : String) : Prop where
  plain : IsName name
  last : p.pieces.getLast? = some name

theorem isAbsolute_iff (p : Path) :
    p.isAbsolute = true ↔ ∃ next rest, p.pieces = "" :: next :: rest := by
  unfold isAbsolute
  split
  case h_1 next rest shape => simp [shape]
  case h_2 other =>
    simp only [Bool.false_eq_true, false_iff, not_exists]
    exact other

theorem ofText_of_single {text : String} (unbroken : '/' ∉ text.toList) :
    ofText text = single text := by
  unfold ofText single
  rw [List.splitOn_eq_singleton unbroken, List.map_singleton, String.ofList_toList]

theorem single_isAbsolute (name : String) : (single name).isAbsolute = false := by
  unfold isAbsolute single
  split
  case h_1 shape => cases shape
  case h_2 => rfl

theorem join_single_pieces (dir : Path) (name : String) : ∃ before,
    (dir.join (single name)).pieces = before ++ [name] ∧
      (dir.pieces = before ∧ dir.pieces.getLast? ≠ some "" ∨ dir.pieces = before ++ [""]) := by
  unfold join
  rw [single_isAbsolute, if_neg Bool.false_ne_true]
  split
  case isTrue slash =>
    obtain ⟨before, shape⟩ := List.getLast?_eq_some_iff.mp slash
    exact ⟨before, by simp [shape, single], Or.inr shape⟩
  case isFalse bare => exact ⟨dir.pieces, rfl, Or.inl ⟨rfl, bare⟩⟩

theorem join_single_isAbsolute (dir : Path) (name : String) :
    (dir.join (single name)).isAbsolute = dir.isAbsolute := by
  obtain ⟨before, pieces, shape⟩ := dir.join_single_pieces name
  rw [Bool.eq_iff_iff, isAbsolute_iff, isAbsolute_iff, pieces]
  rcases shape with ⟨rfl, bare⟩ | slash
  · clear pieces
    generalize dir.pieces = before at bare ⊢
    rcases before with _ | ⟨first, _ | ⟨second, rest⟩⟩ <;> simp_all
  · rw [slash]
    rcases before with _ | ⟨first, _ | ⟨second, rest⟩⟩ <;> simp

theorem root_join_single (name : String) : (mk ["", ""]).join (single name) = ⟨["", name]⟩ := by
  rw [join, single_isAbsolute, if_neg Bool.false_ne_true]
  rfl

theorem endsIn_join_single (base : Path) {name : String} (plain : IsName name) :
    (base.join (single name)).EndsIn name := by
  obtain ⟨before, pieces, _⟩ := base.join_single_pieces name
  exact ⟨plain, by rw [pieces, List.getLast?_concat]⟩

theorem join_getLast? (base rest : Path) (nonempty : rest.pieces ≠ []) :
    (base.join rest).pieces.getLast? = rest.pieces.getLast? := by
  have shape := (List.dropLast_concat_getLast nonempty).symm
  unfold join
  split
  · rfl
  · split
    · rw [shape, ← List.append_assoc, List.getLast?_concat, List.getLast?_concat]
    · rw [shape, ← List.append_assoc, List.getLast?_concat, List.getLast?_concat]

theorem dropLastFillers_concat (before : List String) {piece : String}
    (solid : isFiller piece = false) :
    dropLastFillers (before ++ [piece]) = before ++ [piece] := by
  unfold dropLastFillers
  rw [List.reverse_append, List.reverse_singleton, List.singleton_append,
    List.dropWhile_cons_of_neg (by simp [solid])]
  simp

theorem dropLastFillers_append_fillers (pieces : List String) : ∃ fillers,
    pieces = dropLastFillers pieces ++ fillers ∧ ∀ f ∈ fillers, isFiller f = true := by
  refine ⟨(pieces.reverse.takeWhile isFiller).reverse, ?_, ?_⟩
  · rw [dropLastFillers, ← List.reverse_append, List.takeWhile_append_dropWhile,
      List.reverse_reverse]
  · intro f member
    exact List.mem_takeWhile_imp (List.mem_reverse.mp member)

/-- A last piece that says something stays the last behind the anchor. -/
theorem anchored_concat {p : Path} {piece : String} (last : p.pieces.getLast? = some piece)
    (solid : isFiller piece = false) :
    ∃ anchor before, p.anchored = (anchor, before ++ [piece]) := by
  unfold anchored
  split
  case h_1 next rest shape =>
    rw [shape, List.getLast?_cons_cons] at last
    obtain ⟨before, tail⟩ := List.getLast?_eq_some_iff.mp last
    exact ⟨.root, before, by rw [tail]⟩
  case h_2 rest shape =>
    rw [shape] at last
    cases rest with
    | nil =>
      cases last
      cases solid
    | cons next rest =>
      rw [List.getLast?_cons_cons] at last
      obtain ⟨before, tail⟩ := List.getLast?_eq_some_iff.mp last
      exact ⟨.here, before, by rw [tail]⟩
  case h_3 =>
    obtain ⟨before, shape⟩ := List.getLast?_eq_some_iff.mp last
    exact ⟨.none, before, by rw [shape]⟩

/-- A path that ends in two dots has no extension. -/
theorem extension?_up {p : Path} (last : p.pieces.getLast? = some "..") : p.extension? = none := by
  obtain ⟨anchor, before, shape⟩ := anchored_concat last rfl
  have unnamed : p.fileName? = none := by
    rw [fileName?, shape, dropLastFillers_concat before rfl, List.getLast?_concat]
    rfl
  rw [extension?, unnamed]

theorem anchored_none {p : Path} {pieces : List String} (shape : p.anchored = (.none, pieces)) :
    ∀ next rest, pieces ≠ "" :: next :: rest := by
  unfold anchored at shape
  split at shape
  · cases shape
  · cases shape
  case h_3 other _ =>
    cases shape
    exact other

namespace EndsIn

variable {p : Path} {name : String} (ends : p.EndsIn name)
include ends

theorem anchored : ∃ anchor before, p.anchored = (anchor, before ++ [name]) :=
  anchored_concat ends.last ends.plain.solid

theorem fileName? : p.fileName? = some name := by
  obtain ⟨anchor, before, shape⟩ := ends.anchored
  unfold Path.fileName?
  rw [shape]
  rw [dropLastFillers_concat before ends.plain.solid, List.getLast?_concat]
  split
  case h_1 same => exact absurd (Option.some.inj same) ends.plain.down
  case h_2 => rfl

theorem parent? : ∃ anchor before, p.anchored = (anchor, before ++ [name]) ∧
    p.parent? = some (ofAnchored anchor (dropLastFillers before)) := by
  obtain ⟨anchor, before, shape⟩ := ends.anchored
  refine ⟨anchor, before, shape, ?_⟩
  simp only [Path.parent?, shape, dropLastFillers_concat before ends.plain.solid]
  split
  case h_1 nothing => simp at nothing
  case h_2 nothing _ => simp at nothing
  case h_3 => rw [List.dropLast_concat]

theorem components_getLast? : p.components.getLast? = some (.name name) := by
  obtain ⟨anchor, before, shape⟩ := ends.anchored
  unfold components
  rw [shape]
  have kept : [name].filter (!isFiller ·) = [name] :=
    List.filter_cons_of_pos (by simp [ends.plain.solid])
  have part : Part.ofPiece name = .name name := if_neg ends.plain.down
  dsimp only
  rw [List.filter_append, kept, List.map_append, List.map_singleton, part, ← List.append_assoc]
  exact List.getLast?_concat

end EndsIn

/-! ## Order -/

namespace Part

theorem le_total (a b : Part) : a.le b = true ∨ b.le a = true := by
  cases a <;> cases b <;> simp [le, rank]
  case name.name => exact String.le_total _ _

theorem le_trans {a b c : Part} (first : a.le b = true) (second : b.le c = true) :
    a.le c = true := by
  cases a <;> cases b <;> cases c <;> simp_all [le, rank]
  case name.name.name => exact String.le_trans first second

theorem le_antisymm {a b : Part} (first : a.le b = true) (second : b.le a = true) : a = b := by
  cases a <;> cases b <;> simp_all [le, rank]
  case name.name => exact String.le_antisymm first second

end Part

theorem leComponents_total (as bs : List Part) :
    leComponents as bs = true ∨ leComponents bs as = true := by
  induction as generalizing bs with
  | nil => exact Or.inl rfl
  | cons a as ih =>
    cases bs with
    | nil => exact Or.inr rfl
    | cons b bs =>
      by_cases same : a = b
      · subst same
        simpa [leComponents] using ih bs
      · simpa [leComponents, same, Ne.symm same] using a.le_total b

theorem leComponents_trans (as bs cs : List Part) (first : leComponents as bs = true)
    (second : leComponents bs cs = true) : leComponents as cs = true := by
  induction as generalizing bs cs with
  | nil => rfl
  | cons a as ih =>
    obtain _ | ⟨b, bs⟩ := bs
    · cases first
    obtain _ | ⟨c, cs⟩ := cs
    · cases second
    simp only [leComponents] at first second ⊢
    -- where the first parts differ they alone decide, and they cannot go round in a circle
    by_cases ab : a = b
    · subst ab
      rw [if_pos rfl] at first
      split at second
      case isTrue ac =>
        rw [if_pos ac]
        exact ih bs cs first second
      case isFalse ac =>
        rw [if_neg ac]
        exact second
    · rw [if_neg ab] at first
      by_cases bc : b = c
      · subst bc
        rwa [if_neg ab]
      · rw [if_neg bc] at second
        have ac : a ≠ c := by
          rintro rfl
          exact ab (Part.le_antisymm first second)
        rw [if_neg ac]
        exact Part.le_trans first second

theorem leComponents_antisymm (as bs : List Part) (first : leComponents as bs = true)
    (second : leComponents bs as = true) : as = bs := by
  induction as generalizing bs with
  | nil =>
    cases bs with
    | nil => rfl
    | cons b bs => cases second
  | cons a as ih =>
    cases bs with
    | nil => cases first
    | cons b bs =>
      simp only [leComponents] at first second
      by_cases same : a = b
      · subst same
        rw [if_pos rfl] at first second
        rw [ih bs first second]
      · rw [if_neg same] at first
        rw [if_neg (Ne.symm same)] at second
        exact absurd (Part.le_antisymm first second) same

theorem le_single {name other : String} (plain : IsName name) (plain' : IsName other) :
    (single name).le (single other) = decide (name ≤ other) := by
  have alone {piece : String} (plain : IsName piece) :
      (single piece).components = [.name piece] := by
    have bare : (single piece).anchored = (.none, [piece]) := by
      unfold anchored single
      split
      case h_1 shape => cases shape
      case h_2 shape =>
        cases shape
        cases plain.solid
      case h_3 => rfl
    simp [components, bare, plain.solid, plain.down, Part.ofPiece]
  rw [le, alone plain, alone plain', leComponents]
  by_cases same : name = other
  · simp [same, leComponents]
  · simp [same, Part.le]

theorem pairwise_mergeSort_le (paths : List Path) :
    (paths.mergeSort le).Pairwise (le · · = true) := by
  apply List.pairwise_mergeSort
  · intro a b c
    exact leComponents_trans a.components b.components c.components
  · intro a b
    rw [Bool.or_eq_true]
    exact leComponents_total a.components b.components

end ShaderVariants.Path
