import ShaderVariants.Proofs.JobNames
import ShaderVariants.Text.Words

/-!
Names in capitals. The words of a name put together again are its letters and numbers, so a name of
nothing else is given back up to the case of its letters. No word in upper case is empty or has an
underscore, so two names look alike in capitals exactly if they have the same words.
-/

namespace ShaderVariants.Text

/-! ## Words -/

theorem pieces_of_alphanumeric {s : List Char} (plain : ∀ c ∈ s, isAlphanumeric c = true)
    (nonempty : s ≠ []) : pieces s = [s] := by
  have whole (t : List Char) (plain : ∀ c ∈ t, isAlphanumeric c = true) :
      t.foldr (fun c (r : List Char × List (List Char)) =>
        if isAlphanumeric c then (c :: r.1, r.2) else ([], r.1 :: r.2)) ([], []) = (t, []) := by
    induction t with
    | nil => rfl
    | cons c t ih =>
      rw [List.forall_mem_cons] at plain
      rw [List.foldr_cons, ih plain.2, if_pos plain.1]
  have solid : s.isEmpty = false := by simpa using nonempty
  simp only [pieces, whole s plain]
  rw [List.filter_cons_of_pos (by rw [solid]; rfl), List.filter_nil]

theorem mem_pieces {s piece : List Char} (member : piece ∈ pieces s) :
    piece ≠ [] ∧ ∀ c ∈ piece, isAlphanumeric c = true := by
  have kept (t : List Char) : ∀ piece ∈
      (t.foldr (fun c (r : List Char × List (List Char)) =>
        if isAlphanumeric c then (c :: r.1, r.2) else ([], r.1 :: r.2)) ([], [])).1 ::
      (t.foldr (fun c (r : List Char × List (List Char)) =>
        if isAlphanumeric c then (c :: r.1, r.2) else ([], r.1 :: r.2)) ([], [])).2,
      ∀ c ∈ piece, isAlphanumeric c = true := by
    induction t with
    | nil => simp
    | cons c t ih =>
      rw [List.foldr_cons]
      rw [List.forall_mem_cons] at ih
      split
      case isTrue letter =>
        rw [List.forall_mem_cons, List.forall_mem_cons]
        exact ⟨⟨letter, ih.1⟩, ih.2⟩
      case isFalse =>
        rw [List.forall_mem_cons, List.forall_mem_cons]
        exact ⟨by simp, ih⟩
  obtain ⟨inside, solid⟩ := List.mem_filter.mp member
  exact ⟨by simpa using solid, kept s piece inside⟩

theorem cut_flatten (state : LetterCase) (word s : List Char) :
    (cut state word s).flatten = word.reverse ++ s := by
  fun_induction cut state word s with
  | case1 => simp
  | case2 => simp
  | case3 _ _ _ _ _ _ ih => simp [ih]
  | case4 _ _ _ _ _ _ _ ih => simp [ih]
  | case5 _ _ _ _ _ _ _ ih => simp [ih]

/-- No word that is cut off is empty: a capital before the cut is part of it. -/
theorem cut_nonempty (state : LetterCase) (word s : List Char) (some : s ≠ [] ∨ word ≠ [])
    (begun : state = .capital → word ≠ []) : ∀ w ∈ cut state word s, w ≠ [] := by
  fun_induction cut state word s with
  | case1 => simpa using some
  | case2 => simp
  | case3 state word c next rest _ ih =>
    rw [List.forall_mem_cons]
    exact ⟨by simp, ih (Or.inl (List.cons_ne_nil _ _)) nofun⟩
  | case4 state word c next rest _ capital ih =>
    rw [List.forall_mem_cons]
    exact ⟨by simpa using begun capital.1, ih (Or.inl (List.cons_ne_nil _ _)) nofun⟩
  | case5 state word c next rest _ _ ih =>
    exact ih (Or.inl (List.cons_ne_nil _ _)) fun _ => List.cons_ne_nil _ _

theorem mem_words {s : String} {w : List Char} (member : w ∈ words s) :
    w ≠ [] ∧ ∀ c ∈ w, isAlphanumeric c = true := by
  obtain ⟨piece, inside, cutOff⟩ := List.mem_flatMap.mp member
  obtain ⟨nonempty, plain⟩ := mem_pieces inside
  refine ⟨cut_nonempty .unknown [] piece (Or.inl nonempty) (by simp) w cutOff,
    fun c letter => ?_⟩
  have all := List.mem_flatten_of_mem cutOff letter
  rw [cut_flatten] at all
  exact plain c (by simpa using all)

theorem words_flatten {s : String} (plain : ∀ c ∈ s.toList, isAlphanumeric c = true) :
    (words s).flatten = s.toList := by
  by_cases empty : s.toList = []
  · rw [words, empty]
    rfl
  · rw [words, pieces_of_alphanumeric plain empty, List.flatMap_singleton, cut_flatten]
    rfl

/-! ## Upper case -/

private theorem ofNat_ne {n : Nat} {d : Char} (proper : d.toNat ≠ 0) (apart : n ≠ d.toNat) :
    Char.ofNat n ≠ d := by
  rintro rfl
  by_cases valid : n.isValidChar
  · rw [Char.ofNat, dif_pos valid] at apart
    exact apart rfl
  · rw [Char.ofNat, dif_neg valid] at proper
    exact proper rfl

/-- The characters that break names or lines. -/
def breaks : List Char := ['_', '\n']

theorem upperChar_solid {c : Char} (letter : isAlphanumeric c = true) :
    upperChar c ≠ [] ∧ ∀ d ∈ upperChar c, d ∉ breaks := by
  by_cases ascii : c.toNat < 0x80
  · rw [isAlphanumeric, if_pos ascii] at letter
    rw [upperChar, if_pos ascii]
    have all : ∀ n < 0x80, (Char.ofNat n).isAlphanum = true →
        (Char.ofNat n).toUpper ∉ breaks := by decide
    have this := all c.toNat ascii
    rw [Char.ofNat_toNat] at this
    exact ⟨List.cons_ne_nil _ _, List.forall_mem_singleton.mpr (this letter)⟩
  · rw [upperChar, if_neg ascii]
    split
    case h_1 codes found =>
      have listed : (c.toNat, codes) ∈ upperExpansions := by
        obtain ⟨before, after, shape, _⟩ := List.lookup_eq_some_iff.mp found
        simp [shape]
      have all : ∀ e ∈ upperExpansions, e.2 ≠ [] ∧ ∀ k ∈ e.2, Char.ofNat k ∉ breaks := by decide
      obtain ⟨nonempty, solid⟩ := all _ listed
      refine ⟨by simpa using nonempty, fun d member => ?_⟩
      obtain ⟨k, inside, rfl⟩ := List.mem_map.mp member
      exact solid k inside
    case h_2 =>
      refine ⟨List.cons_ne_nil _ _, List.forall_mem_singleton.mpr ?_⟩
      have low : ∀ n ∈ breaks.map Char.toNat, 0 < n ∧ n < 0x80 := by decide
      have missed : ∀ r ∈ upperShifts, ∀ n ∈ breaks.map Char.toNat,
          ¬((r.1 : Int) ≤ n - r.2.2.2 ∧ n - r.2.2.2 ≤ (r.2.1 : Int)) := by
        decide +kernel
      have moved (d : Char) (member : d ∈ breaks) : shifted upperShifts c.toNat ≠ d.toNat := by
        have listed := List.mem_map_of_mem (f := Char.toNat) member
        obtain ⟨proper, below⟩ := low d.toNat listed
        unfold shifted
        split
        case h_1 first last step shift found =>
          have within := List.find?_some found
          simp only [inRun, Bool.and_eq_true, decide_eq_true_eq] at within
          have apart := missed _ (List.mem_of_find?_eq_some found) d.toNat listed
          dsimp only at apart
          omega
        case h_2 => omega
      intro broken
      have proper := (low _ (List.mem_map_of_mem broken)).1
      exact ofNat_ne proper.ne' (moved _ broken) rfl

theorem upper_solid {w : List Char} (letters : ∀ c ∈ w, isAlphanumeric c = true)
    (nonempty : w ≠ []) : upper w ≠ [] ∧ ∀ d ∈ upper w, d ∉ breaks := by
  constructor
  · obtain ⟨c, member⟩ := List.exists_mem_of_ne_nil w nonempty
    obtain ⟨some, _⟩ := upperChar_solid (letters c member)
    intro empty
    exact some (List.flatMap_eq_nil_iff.mp empty c member)
  · intro d member
    obtain ⟨c, inside, there⟩ := List.mem_flatMap.mp member
    exact (upperChar_solid (letters c inside)).2 d there

/-! ## Capitals -/

def upperWords (s : String) : List (List Char) := (words s).map upper

theorem mem_upperWords {s : String} {w : List Char} (member : w ∈ upperWords s) :
    w ≠ [] ∧ ∀ d ∈ w, d ∉ breaks := by
  obtain ⟨word, inside, rfl⟩ := List.mem_map.mp member
  obtain ⟨nonempty, letters⟩ := mem_words inside
  exact upper_solid letters nonempty

theorem capitals_eq (s : String) :
    capitals s = String.intercalate "_" ((upperWords s).map String.ofList) := by
  rw [capitals, upperWords, List.map_map]
  rfl

/-- Between the underscores are the words. -/
theorem wordsOf_capitals {s : String} (nonempty : upperWords s ≠ []) :
    wordsOf (capitals s) = upperWords s := by
  rw [capitals_eq, wordsOf_intercalate _ (by simpa using nonempty), flatMap_wordsOf_plain,
    List.map_map]
  · simp [Function.comp_def, String.toList_ofList]
  · simp only [List.mem_map]
    rintro _ ⟨w, member, rfl⟩
    rw [String.toList_ofList]
    exact fun inside => (mem_upperWords member).2 '_' inside (by decide)

/-- Names look alike in capitals exactly if their words do. -/
theorem capitals_eq_iff (a b : String) : capitals a = capitals b ↔ upperWords a = upperWords b := by
  constructor
  · have bare {s t : String} (empty : upperWords s = []) (same : capitals t = capitals s) :
        upperWords t = [] := by
      by_contra nonempty
      have parts := wordsOf_capitals nonempty
      rw [same, capitals_eq s, empty] at parts
      have hollow : ([] : List Char) ∈ upperWords t := by
        rw [← parts]
        decide
      exact (mem_upperWords hollow).1 rfl
    intro same
    by_cases first : upperWords a = []
    · rw [first, bare first same.symm]
    · by_cases second : upperWords b = []
      · exact absurd (bare second same) first
      · rw [← wordsOf_capitals first, same, wordsOf_capitals second]
  · intro same
    rw [capitals_eq, capitals_eq, same]

theorem mem_intercalate {c : Char} {separator : String} {parts : List String}
    (member : c ∈ (String.intercalate separator parts).toList) :
    c ∈ separator.toList ∨ ∃ part ∈ parts, c ∈ part.toList := by
  induction parts with
  | nil => cases member
  | cons part rest ih =>
    cases rest with
    | nil =>
      rw [String.intercalate_singleton] at member
      exact Or.inr ⟨part, List.mem_cons_self, member⟩
    | cons next rest =>
      rw [String.intercalate_cons_cons, String.toList_append, String.toList_append,
        List.mem_append, List.mem_append] at member
      rcases member with (here | between) | later
      · exact Or.inr ⟨part, List.mem_cons_self, here⟩
      · exact Or.inl between
      · exact (ih later).imp id fun ⟨other, inside, there⟩ =>
          ⟨other, List.mem_cons_of_mem _ inside, there⟩

theorem capitals_unbroken (s : String) : '\n' ∉ (capitals s).toList := by
  rw [capitals_eq]
  intro inside
  rcases mem_intercalate inside with underscore | ⟨part, member, there⟩
  · exact absurd underscore (by decide)
  · obtain ⟨w, word, rfl⟩ := List.mem_map.mp member
    rw [String.toList_ofList] at there
    exact (mem_upperWords word).2 '\n' there (by decide)

end ShaderVariants.Text
