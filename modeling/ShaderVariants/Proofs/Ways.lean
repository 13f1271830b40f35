import ShaderVariants.Proofs.Settled

/-!
Where directories are made. A path comes through one place for each of its pieces, and its parent
comes through no others. To make a directory and those above it that are missing puts entries at
such places only.
-/

namespace ShaderVariants

/-! ## Parents of paths -/

namespace Path

theorem dropLastFillers_initial (pieces : List String) : dropLastFillers pieces <+: pieces := by
  obtain ⟨fillers, split, _⟩ := dropLastFillers_append_fillers pieces
  exact ⟨fillers, split.symm⟩

/-- Whether a path begins like another one, but for pieces that say nothing. -/
structure Heads (head path : Path) : Prop where
  absolute : head.isAbsolute = path.isAbsolute
  pieces : head.pieces <+: path.pieces ∨ ∀ f ∈ head.pieces, isFiller f = true

private theorem empty_filler : ∀ f ∈ [""], isFiller f = true := by decide

private theorem empty_fillers : ∀ f ∈ ["", ""], isFiller f = true := by decide

theorem heads_ofAnchored {path : Path} {before : List String}
    (inside : before <+: path.anchored.2) : (ofAnchored path.anchored.1 before).Heads path := by
  unfold anchored at inside ⊢
  split at inside
  case h_1 next rest shape =>
    have absolute : path.isAbsolute = true := (isAbsolute_iff path).mpr ⟨next, rest, shape⟩
    cases before with
    | nil => exact ⟨absolute.symm, Or.inr empty_fillers⟩
    | cons first others =>
      refine ⟨absolute.symm, Or.inl ?_⟩
      rw [shape]
      exact List.prefix_cons_inj "" |>.mpr inside
  case h_2 rest shape =>
    have relative : path.isAbsolute = false := by simp [isAbsolute, shape]
    refine ⟨relative.symm, Or.inl ?_⟩
    rw [shape]
    exact List.prefix_cons_inj "." |>.mpr inside
  case h_3 other _ =>
    have relative : path.isAbsolute = false := by
      rw [Bool.eq_false_iff, ne_eq, isAbsolute_iff]
      rintro ⟨next, rest, shape⟩
      exact other next rest shape
    cases before with
    | nil => exact ⟨relative.symm, Or.inr empty_filler⟩
    | cons first others =>
      refine ⟨?_, Or.inl inside⟩
      rw [relative, Bool.eq_false_iff, ne_eq, isAbsolute_iff]
      rintro ⟨next, rest, shape⟩
      obtain ⟨after, whole⟩ := inside
      have pieces : first :: others = "" :: next :: rest := shape
      rw [pieces] at whole
      exact other next (rest ++ after) whole.symm

theorem heads_parent {path parent : Path} (above : path.parent? = some parent) :
    parent.Heads path := by
  simp only [parent?] at above
  split at above
  case h_1 here =>
    cases above
    have relative : path.isAbsolute = false := by
      unfold anchored at here
      split at here
      · cases here
      case h_2 rest shape => simp [isAbsolute, shape]
      · cases here
    exact ⟨relative.symm, Or.inr empty_filler⟩
  case h_2 => cases above
  case h_3 =>
    cases above
    exact heads_ofAnchored ((dropLastFillers_initial _).trans
      ((List.dropLast_prefix _).trans (dropLastFillers_initial _)))

end Path

/-! ## Places on a way -/

namespace FileTree

/-- Whether a path comes through a place, or leads to it. -/
def OnWay (tree : FileTree) (path : Path) (place : Place) : Prop :=
  ∃ before, before <+: path.pieces ∧
    place = before.foldl Place.step (if path.isAbsolute then [] else tree.working)

theorem goal_onWay (tree : FileTree) (path : Path) : tree.OnWay path (tree.goal path) :=
  ⟨path.pieces, List.prefix_rfl, rfl⟩

theorem OnWay.of_heads {tree : FileTree} {head path : Path} (heads : head.Heads path)
    {place : Place} (way : tree.OnWay head place) : tree.OnWay path place := by
  obtain ⟨before, inside, rfl⟩ := way
  rw [OnWay, ← heads.absolute]
  rcases heads.pieces with start | fillers
  · exact ⟨before, inside.trans start, rfl⟩
  · refine ⟨[], List.nil_prefix, ?_⟩
    exact foldl_step_fillers _ before fun f member => fillers f (inside.subset member)

/-! ## Making directories -/

theorem makeDirectory_changes {tree later : FileTree} {path : Path}
    (success : tree.makeDirectory path = .ok later) {place : Place}
    (changed : later.entry? place ≠ tree.entry? place) : place = tree.goal path := by
  unfold makeDirectory at success
  obtain ⟨slot, slotted, rest⟩ := bind_eq_ok.mp success
  split at rest
  · cases rest
  case isFalse unnamed =>
    obtain ⟨_, _, rest⟩ := bind_eq_ok.mp rest
    split at rest
    · cases rest
    case h_2 =>
      cases rest
      obtain ⟨plain, origin, before, slashes, started, walked, _, fillers⟩ :=
        slot_of_isName slotted (by simpa using unnamed)
      have goal : tree.goal path = slot.place := by
        rw [start_goal tree path origin _ started, List.foldl_append, List.foldl_cons,
          ← walk_eq_foldl tree before origin _ walked, step_of_isName _ plain,
          foldl_step_fillers _ slashes fillers, Slot.place]
      by_contra apart
      exact changed (entry?_put_of_ne tree .directory (goal ▸ apart))

theorem settle_changes {tree before later : FileTree} (keeps : tree.Keeps before) {path : Path}
    (success : before.settle path (before.makeDirectory path) = .ok later) {place : Place}
    (changed : later.entry? place ≠ before.entry? place) : tree.OnWay path place := by
  unfold settle at success
  split at success
  · split at success <;> cases success
    exact absurd rfl changed
  · rw [makeDirectory_changes success changed, keeps.goal]
    exact tree.goal_onWay path

/-- Directories that are made, also when not all can be, are on the way of the last of them. -/
theorem makeMissing_changes (left : Nat) (tree : FileTree) (path : Path) {place : Place}
    (changed : entry? (makeMissing left tree path).2 place ≠ tree.entry? place) :
    tree.OnWay path place := by
  induction left generalizing path with
  | zero => exact absurd rfl changed
  | succ left ih =>
    rw [makeMissing] at changed
    split at changed
    · exact absurd rfl changed
    case h_2 parent above =>
      have confined := makeMissing_confined left tree parent
      have upper (made : entry? (makeMissing left tree parent).2 place ≠ tree.entry? place) :
          tree.OnWay path place := OnWay.of_heads (Path.heads_parent above) (ih parent made)
      split at changed
      case h_1 later settled => exact settle_changes (Keeps.refl tree) settled changed
      case h_2 =>
        split at changed
        case h_1 middle made =>
          rw [made] at upper
          exact upper changed
        case h_2 middle made =>
          rw [made] at upper confined
          split at changed
          case h_1 later settled =>
            by_cases here : middle.entry? place = tree.entry? place
            · exact settle_changes confined.keeps settled (here ▸ changed)
            · exact upper here
          case h_2 => exact upper changed
      case h_3 => exact absurd rfl changed

theorem makeParent_changes (tree : FileTree) (target : Path) {place : Place}
    (changed : entry? (tree.makeParent target).2 place ≠ tree.entry? place) :
    ∃ parent, target.parent? = some parent ∧ tree.OnWay parent place := by
  unfold makeParent at changed
  split at changed
  · exact absurd rfl changed
  case h_2 parent above => exact ⟨parent, above, makeMissing_changes _ tree parent changed⟩

end FileTree
end ShaderVariants
