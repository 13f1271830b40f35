import ShaderVariants.Proofs.Padding

/-!
Layouts that fields are added to and that are filled up, in any order and against any scopes. What
is refused changes nothing. Filling up keeps the fields that are there and adds as many four-byte
fields as are missing, under the names with the least numbers that no field has yet: the same as
adding one field after the other, each under the next name that is free.
-/

namespace ShaderVariants.Layout

inductive Action where
  | field (types : TypeScope) (type name : String)
  | pad

def act (layout : Layout) : Action → Except Fault Layout
  | .field types type name => layout.add types type name
  | .pad => layout.pad

/-- How many fields an action adds, or why it is refused, and the layout afterwards. -/
def attempt (layout : Layout) (a : Action) : Except Fault Nat × Layout :=
  match layout.act a with
  | .ok later => (.ok (later.fields.length - layout.fields.length), later)
  | .error fault => (.error fault, layout)

def perform (layout : Layout) (actions : List Action) : Layout :=
  actions.foldl (fun layout a => (layout.attempt a).2) layout

def Spare (layout : Layout) (k : Nat) : Prop := ∀ f ∈ layout.fields, f.name ≠ paddingName k

def filler (k : Nat) : LayoutField := ⟨paddingType, paddingName k, true⟩

/-- Whether numbers come in ascending order and are the least ones with a property. -/
structure Least (p : Nat → Prop) (numbers : List Nat) : Prop where
  ascending : numbers.Pairwise (· < ·)
  all : ∀ k ∈ numbers, p k
  least : ∀ other, p other → other ∉ numbers → ∀ k ∈ numbers, k < other

private theorem least_take (p : Nat → Bool) (bound count : Nat) :
    Least (p · = true) (((List.range bound).filter p).take count) := by
  have ascending : ((List.range bound).filter p).Pairwise (· < ·) := List.pairwise_lt_range.filter p
  have split := (List.range bound).filter p |>.take_append_drop count
  refine ⟨ascending.sublist (List.take_sublist _ _), ?_, ?_⟩
  · intro k member
    exact (List.mem_filter.mp (List.mem_of_mem_take member)).2
  · intro other found left k member
    have inside := (List.mem_filter.mp (List.mem_of_mem_take member)).1
    by_cases low : other < bound
    · have listed : other ∈ (List.range bound).filter p :=
        List.mem_filter.mpr ⟨List.mem_range.mpr low, found⟩
      rw [← split] at listed ascending
      have behind := (List.mem_append.mp listed).resolve_left left
      exact (List.pairwise_append.mp ascending).2.2 k member other behind
    · have bounded := List.mem_range.mp inside
      omega

/-- The fields that are missing have the least numbers that are spare. -/
theorem paddingFields_eq (layout : Layout) : ∃ numbers,
    layout.paddingFields = numbers.map filler ∧ numbers.length = missingFields layout.byteSize ∧
      Least layout.Spare numbers := by
  let taken := layout.fields.map (·.name)
  let count := missingFields layout.byteSize
  let numbers := ((List.range (taken.length + count)).filter
    fun k => !taken.contains (paddingName k)).take count
  have names : freePaddingNames taken count = numbers.map paddingName := by
    rw [freePaddingNames, List.filter_map, List.map_take]
    rfl
  have spare : layout.Spare = fun k => (!taken.contains (paddingName k)) = true := by
    funext k
    simp [Spare, taken]
  refine ⟨numbers, ?_, ?_, ?_⟩
  · rw [paddingFields, names, List.map_map]
    rfl
  · have length := freePaddingNames_length taken count
    rwa [names, List.length_map] at length
  · rw [spare]
    exact least_take _ _ _

/-! ## One field at a time -/

def plus (layout : Layout) (k : Nat) : Layout :=
  { layout with fields := layout.fields ++ [filler k] }

theorem plus_byteSize (layout : Layout) (k : Nat) :
    (layout.plus k).byteSize = layout.byteSize + 4 :=
  byteSize_append layout [filler k]

theorem plus_spare {layout : Layout} {k other : Nat} :
    (layout.plus k).Spare other ↔ layout.Spare other ∧ other ≠ k := by
  rw [Spare, plus, List.forall_mem_append, List.forall_mem_singleton, filler,
    paddingName_injective.ne_iff, ne_comm]
  rfl

/-- Filling up by adding one field after the other while the size is short of a multiple of
sixteen, each under the next number that is spare. -/
inductive Fills : (next : Nat) → Layout → Layout → Prop where
  | done {next layout} (full : 16 ∣ layout.byteSize) : Fills next layout layout
  | step {next k layout later} (short : ¬16 ∣ layout.byteSize) (from_next : next ≤ k)
      (spare : layout.Spare k) (taken : ∀ other, next ≤ other → other < k → ¬layout.Spare other)
      (rest : Fills (k + 1) (layout.plus k) later) : Fills next layout later

/-- The least spare numbers are those that are found one after the other. -/
theorem fills_least {layout : Layout} {next : Nat} {numbers : List Nat}
    (even : 4 ∣ layout.byteSize) (length : numbers.length = missingFields layout.byteSize)
    (least : Least (fun k => next ≤ k ∧ layout.Spare k) numbers) :
    Fills next layout { layout with fields := layout.fields ++ numbers.map filler } := by
  induction numbers generalizing layout next with
  | nil =>
    have full : 16 ∣ layout.byteSize := by
      simp only [missingFields, alignment, paddingType, List.length_nil] at length
      omega
    rw [List.map_nil, List.append_nil]
    exact .done full
  | cons k numbers ih =>
    obtain ⟨above, ascending⟩ := List.pairwise_cons.mp least.ascending
    obtain ⟨⟨bound, spare⟩, others⟩ := List.forall_mem_cons.mp least.all
    rw [List.length_cons] at length
    have later : Fills (k + 1) (layout.plus k)
        { layout.plus k with fields := (layout.plus k).fields ++ numbers.map filler } := by
      apply ih
      · rw [plus_byteSize]
        omega
      · rw [plus_byteSize]
        simp only [missingFields, alignment, paddingType] at length ⊢
        omega
      · refine ⟨ascending, ?_, ?_⟩
        · intro other member
          have less := above other member
          exact ⟨less, plus_spare.mpr ⟨(others other member).2, less.ne'⟩⟩
        · intro other found left number member
          obtain ⟨free, apart⟩ := plus_spare.mp found.2
          apply least.least other ⟨by omega, free⟩ _ number (List.mem_cons_of_mem _ member)
          rw [List.mem_cons, not_or]
          exact ⟨apart, left⟩
    refine .step ?_ bound spare ?_ ?_
    · simp only [missingFields, alignment, paddingType] at length
      omega
    · intro other reached low free
      have left : other ∉ k :: numbers := by
        rw [List.mem_cons, not_or]
        refine ⟨low.ne, fun member => ?_⟩
        have less := above other member
        omega
      have greater := least.least other ⟨reached, free⟩ left k List.mem_cons_self
      omega
    · rwa [plus, List.append_assoc] at later

/-! ## Actions -/

theorem attempt_cases (layout : Layout) (a : Action) :
    (∃ fault, layout.attempt a = (.error fault, layout)) ∨
      ∃ new, layout.attempt a =
        (.ok new.length, { layout with fields := layout.fields ++ new }) := by
  rw [attempt]
  split
  case h_2 fault _ => exact Or.inl ⟨fault, rfl⟩
  case h_1 later success =>
    obtain ⟨new, rfl⟩ : ∃ new, later = { layout with fields := layout.fields ++ new } := by
      cases a with
      | field types type name =>
        obtain ⟨found, _, made⟩ := add_eq_ok success
        exact ⟨_, made⟩
      | pad => exact ⟨_, pad_eq_ok success⟩
    refine Or.inr ⟨new, ?_⟩
    rw [List.length_append, Nat.add_sub_cancel_left]

theorem perform_name (layout : Layout) (actions : List Action) :
    (layout.perform actions).name = layout.name := by
  induction actions generalizing layout with
  | nil => rfl
  | cons a actions ih =>
    have kept : (layout.attempt a).2.name = layout.name := by
      rcases attempt_cases layout a with ⟨fault, refused⟩ | ⟨new, accepted⟩
      · rw [refused]
      · rw [accepted]
    exact (ih (layout.attempt a).2).trans kept

/-- A size divisible by four is filled up with the missing fields, under the least spare numbers. -/
theorem attempt_pad {layout : Layout} (even : 4 ∣ layout.byteSize) : ∃ numbers later,
    layout.attempt .pad = (.ok numbers.length, later) ∧
      later = { layout with fields := layout.fields ++ numbers.map filler } ∧
      numbers.length = missingFields layout.byteSize ∧ Least layout.Spare numbers ∧
      Fills 0 layout later ∧ 16 ∣ later.byteSize := by
  obtain ⟨numbers, fields, length, least⟩ := paddingFields_eq layout
  have filled := pad_of_dvd even
  rw [fields] at filled
  refine ⟨numbers, _, ?_, rfl, length, least, fills_least even length ?_, pad_aligned filled⟩
  · rw [attempt, act, filled]
    simp only [List.length_append, List.length_map, Nat.add_sub_cancel_left]
  · simpa only [Nat.zero_le, true_and] using least

theorem attempt_pad_full {layout : Layout} (full : 16 ∣ layout.byteSize) :
    layout.attempt .pad = (.ok 0, layout) := by
  obtain ⟨numbers, later, filled, rfl, length, _⟩ := attempt_pad (Nat.dvd_trans (by decide) full)
  have none : missingFields layout.byteSize = 0 := by
    simp only [missingFields, alignment, paddingType]
    omega
  rw [none, List.length_eq_zero_iff] at length
  rw [filled, length, List.map_nil, List.append_nil, List.length_nil]

/-- After any actions on a layout, a size divisible by four can be filled up to one divisible by
sixteen, once, with four-byte fields under the least numbers that no field has, which are those
that are found by adding one field after the other; any other size is refused. What is refused
changes nothing. -/
theorem filled_up (name : String) (register : Nat) (actions : List Action) :
    let layout := (blank name register).perform actions
    (∀ a fault, (layout.attempt a).1 = .error fault → (layout.attempt a).2 = layout) ∧
      (¬4 ∣ layout.byteSize →
        layout.attempt .pad = (.error (.unalignedSize name layout.byteSize), layout)) ∧
      (4 ∣ layout.byteSize → ∃ numbers later, layout.attempt .pad = (.ok numbers.length, later) ∧
        later = { layout with fields := layout.fields ++ numbers.map fun k =>
          ⟨⟨"uint", "uint32_t", 4⟩, s!"DummyPaddingVar{k}", true⟩ } ∧
        numbers.length = (16 - layout.byteSize % 16) % 16 / 4 ∧
        Least (fun k => ∀ f ∈ layout.fields, f.name ≠ s!"DummyPaddingVar{k}") numbers ∧
        Fills 0 layout later ∧ 16 ∣ later.byteSize ∧ later.attempt .pad = (.ok 0, later)) := by
  intro layout
  refine ⟨?_, ?_, ?_⟩
  · intro a fault refused
    rcases attempt_cases layout a with ⟨other, same⟩ | ⟨new, accepted⟩
    · rw [same]
    · rw [accepted] at refused
      cases refused
  · intro odd
    have named : layout.name = name := perform_name (blank name register) actions
    have refused : layout.pad = .error (.unalignedSize layout.name layout.byteSize) :=
      if_neg fun even => odd (Nat.dvd_of_mod_eq_zero even)
    rw [attempt, act, refused, named]
  · intro even
    obtain ⟨numbers, later, filled, fields, length, least, fills, aligned⟩ := attempt_pad even
    exact ⟨numbers, later, filled, fields, length, least, fills, aligned,
      attempt_pad_full aligned⟩

end ShaderVariants.Layout
