import Mathlib.Algebra.BigOperators.Ring.List
import Mathlib.Algebra.Ring.Nat
import Mathlib.Data.List.Perm.Subperm
import ShaderVariants.Proofs.Dependencies

/-!
Sizes of layouts. The fields that fill up a layout have four bytes each, and there are always enough
free names for them. So a layout whose size is divisible by four is filled up to a multiple of
sixteen, and no other layout can be filled up.
-/

namespace ShaderVariants.Layout

theorem byteSize_eq_sum (layout : Layout) :
    layout.byteSize = (layout.fields.map (·.type.size)).sum := by
  rw [byteSize, List.sum, List.foldr_map]

theorem byteSize_append (layout : Layout) (fields : List LayoutField) :
    ({ layout with fields := layout.fields ++ fields } : Layout).byteSize =
      layout.byteSize + (fields.map (·.type.size)).sum := by
  simp only [byteSize_eq_sum, List.map_append, List.sum_append]

theorem dvd_byteSize {layout : Layout} {unit : Nat}
    (fields : ∀ f ∈ layout.fields, unit ∣ f.type.size) : unit ∣ layout.byteSize := by
  rw [byteSize_eq_sum]
  apply List.dvd_sum
  rw [List.forall_mem_map]
  exact fields

/-! ## Names of padding -/

theorem numbered_injective (start : String) :
    Function.Injective fun n : Nat => start ++ toString n := by
  intro first second same
  have digits : toString first = toString second := (String.append_right_inj _).mp same
  rw [Nat.toString_eq_ofList_toDigits, Nat.toString_eq_ofList_toDigits] at digits
  have numbers := congrArg (Nat.ofDigitChars 10 · 0) (String.ofList_injective digits)
  simpa only [Nat.ofDigitChars_ten_toDigits] using numbers

theorem paddingName_injective : Function.Injective paddingName :=
  numbered_injective "DummyPaddingVar"

/-- Each taken name spoils one candidate at most. -/
theorem freePaddingNames_length (taken : List String) (count : Nat) :
    (freePaddingNames taken count).length = count := by
  let candidates := (List.range (taken.length + count)).map paddingName
  have distinct : candidates.Nodup := List.nodup_range.map paddingName_injective
  have spoilt : (candidates.filter taken.contains).length ≤ taken.length := by
    apply (List.Nodup.subperm (distinct.filter taken.contains) _).length_le
    intro name member
    simpa using (List.mem_filter.mp member).2
  have parts := candidates.length_eq_length_filter_add taken.contains
  have whole : candidates.length = taken.length + count := by
    rw [List.length_map, List.length_range]
  rw [freePaddingNames, List.length_take]
  change min count (candidates.filter (!taken.contains ·)).length = count
  omega

/-! ## Filling up -/

theorem paddingFields_size (layout : Layout) :
    (layout.paddingFields.map (·.type.size)).sum =
      missingFields layout.byteSize * paddingType.size := by
  have sizes : layout.paddingFields.map (·.type.size) =
      List.replicate (missingFields layout.byteSize) paddingType.size := by
    rw [List.eq_replicate_iff, List.length_map, List.forall_mem_map]
    refine ⟨?_, fun f member => by rw [paddingFields_type member]⟩
    rw [paddingFields, List.length_map, freePaddingNames_length]
  rw [sizes, List.sum_replicate_nat]

theorem pad_aligned {layout later : Layout} (success : layout.pad = .ok later) :
    alignment ∣ later.byteSize := by
  have even : layout.byteSize % paddingType.size = 0 := by
    unfold pad at success
    split at success
    case isTrue even => exact even
    case isFalse => cases success
  rw [pad_eq_ok success, byteSize_append, paddingFields_size]
  simp only [missingFields, alignment, paddingType] at even ⊢
  omega

theorem pad_of_dvd {layout : Layout} (even : paddingType.size ∣ layout.byteSize) :
    layout.pad = .ok { layout with fields := layout.fields ++ layout.paddingFields } :=
  if_pos (Nat.mod_eq_zero_of_dvd even)

def filledSize (layout : Layout) : Nat :=
  layout.byteSize + missingFields layout.byteSize * paddingType.size

theorem pad_byteSize {layout later : Layout} (success : layout.pad = .ok later) :
    later.byteSize = layout.filledSize := by
  rw [pad_eq_ok success, byteSize_append, paddingFields_size, filledSize]

theorem byteSize_le_filledSize (layout : Layout) : layout.byteSize ≤ layout.filledSize :=
  Nat.le_add_right _ _

/-! ## Machine words -/

/-- What fits in the end has fitted all the time. -/
theorem wordSum_eq (sizes : List Nat) (sum : Nat) (fits : sum < wordLimit) :
    wordSum sum sizes =
      if sum + sizes.sum < wordLimit then some (sum + sizes.sum) else none := by
  induction sizes generalizing sum with
  | nil => simp [wordSum, fits]
  | cons size sizes ih =>
    rw [wordSum, List.sum_cons, ← Nat.add_assoc]
    by_cases next : sum + size < wordLimit
    · rw [if_pos next]
      exact ih _ next
    · rw [if_neg next, if_neg (by omega)]

theorem wordSize_eq (layout : Layout) : layout.wordSize =
    if layout.byteSize < wordLimit then some layout.byteSize else none := by
  rw [wordSize, wordSum_eq _ 0 (by decide), Nat.zero_add, ← byteSize_eq_sum]

theorem checkWord_eq (layout : Layout) : layout.checkWord =
    if layout.byteSize < wordLimit then .ok () else .error .overflow := by
  rw [checkWord, wordSize_eq]
  by_cases fits : layout.byteSize < wordLimit
  · rw [if_pos fits, if_pos fits]
    rfl
  · rw [if_neg fits, if_neg fits]
    rfl

/-- What can stop the filling up, in the order of the checks. -/
theorem padChecked_eq (layout : Layout) : layout.padChecked =
    if layout.byteSize < wordLimit then
      if layout.byteSize % paddingType.size = 0 then
        if layout.filledSize < wordLimit then
          .ok { layout with fields := layout.fields ++ layout.paddingFields }
        else .error .overflow
      else .error (.unalignedSize layout.name layout.byteSize)
    else .error .overflow := by
  rw [padChecked, checkWord_eq]
  by_cases start : layout.byteSize < wordLimit
  · rw [if_pos start, if_pos start]
    show (layout.pad >>= fun padded => padded.checkWord >>= fun _ => pure padded) = _
    by_cases even : layout.byteSize % paddingType.size = 0
    · have padded := pad_of_dvd (Nat.dvd_of_mod_eq_zero even)
      rw [if_pos even, padded]
      show (checkWord _ >>= fun _ => pure _) = _
      rw [checkWord_eq, pad_byteSize padded]
      by_cases fits : layout.filledSize < wordLimit
      · rw [if_pos fits, if_pos fits]
        rfl
      · rw [if_neg fits, if_neg fits]
        rfl
    · rw [if_neg even, pad, if_neg even]
      rfl
  · rw [if_neg start, if_neg start]
    rfl

/-- Where all sums fit in words, they are exact. -/
theorem padChecked_of_fits {layout : Layout} (fits : layout.filledSize < wordLimit) :
    layout.padChecked = layout.pad := by
  rw [padChecked_eq, if_pos (layout.byteSize_le_filledSize.trans_lt fits), if_pos fits, pad]

theorem padChecked_word {layout later : Layout} (success : layout.padChecked = .ok later) :
    later.byteSize < wordLimit := by
  simp only [padChecked, bind_eq_ok] at success
  obtain ⟨_, _, padded, _, _, checked, made⟩ := success
  cases made
  rw [checkWord_eq] at checked
  by_contra large
  rw [if_neg large] at checked
  cases checked

/-- A layout that four-byte fields can fill up is refused exactly where they lead out of the words. -/
theorem padChecked_eq_error {layout : Layout} (even : paddingType.size ∣ layout.byteSize)
    {fault : Fault} : layout.padChecked = .error fault ↔
      fault = .overflow ∧ wordLimit ≤ layout.filledSize := by
  rw [padChecked_eq, if_pos (Nat.mod_eq_zero_of_dvd even)]
  by_cases fits : layout.filledSize < wordLimit
  · rw [if_pos fits, if_pos (layout.byteSize_le_filledSize.trans_lt fits)]
    exact iff_of_false nofun fun large => absurd fits (Nat.not_lt.mpr large.2)
  · rw [if_neg fits, ite_self, Except.error.injEq, eq_comm]
    exact (and_iff_left (Nat.not_lt.mp fits)).symm

end ShaderVariants.Layout
