import Mathlib.Data.String.Basic
import ShaderVariants.Json.Read
import ShaderVariants.Proofs.Skipping

/-!
Readers undo writings: what is shown of the readers of values without parts is handed up through
lists and maps. The parts of a list or of an object are taken by induction on their writing, each
part with its gap.
-/

namespace ShaderVariants.Json

/-- A reader that gives back what was written, wherever at least `need` is left of the depth. -/
structure Undoes (need : Nat) (r : Reader α) (w : Writing α) : Prop where
  starts : ∀ {a t}, w a t → Starts t
  reads : ∀ {depth a t b s}, need ≤ depth → w a t → Blank b → Ends s →
    r depth (b ++ (t ++ s)) = .ok (a, s)

/-! ## Values without parts -/

theorem quote_starts (written : Writing.string a t) : Starts t := by
  obtain ⟨body, rfl, -⟩ := Writing.string_scans written
  exact .cons (by decide) body

theorem undoes_text : Undoes 1 text Writing.string where
  starts := quote_starts
  reads _ written blank _ := by
    obtain ⟨body, rfl, scans⟩ := Writing.string_scans written
    have quote : '"' ∉ blanks := by decide
    simp [text, blank, quote, scans]

theorem undoes_choice {known : List (String × α)} {name : α → String}
    (listed : ∀ a, known.lookup (name a) = some a) :
    Undoes 1 (choice known) (Writing.named name) where
  starts := quote_starts
  reads _ written blank _ := by
    obtain ⟨body, rfl, scans⟩ := Writing.string_scans written
    have quote : '"' ∉ blanks := by decide
    simp [choice, blank, quote, scans, variant, listed, bind, Except.bind]

theorem undoes_word32 : Undoes 1 word32 Writing.word32 where
  starts {n t} written := by
    obtain ⟨-, rfl⟩ := written
    obtain ⟨c, ds, front, digit⟩ := toDigits_front n
    rw [toString_nat, front]
    exact digit_starts digit ds
  reads {depth n t b s} _ written blank ends := by
    obtain ⟨small, rfl⟩ := written
    obtain ⟨c, ds, front, digit⟩ := toDigits_front n
    have scanned : scanNumber true (c :: (ds ++ s)) = .ok (.integer n, s) := by
      rw [← List.cons_append, ← front, scanNumber_toDigits ends true (by rw [maxWord]; omega)]
      rfl
    have fits : (0 : Int) ≤ n ∧ (n : Int) ≤ 0xFFFFFFFF := by omega
    have solid := ((digit_starts digit ds).append s).skipBlanks
    rw [List.cons_append] at solid
    simp only [word32, skipBlanks_append blank, toString_nat, front, List.cons_append, solid]
    split
    · contradiction
    · simp_all
    · simp_all [bind, Except.bind, asWord32]

theorem undoes_literal : Undoes 1 anyValue Writing.Literal where
  starts written := by
    cases written with
    | string written => exact quote_starts written
    | @boolean b => cases b <;> exact .cons (by decide) _
    | integer fits =>
        obtain ⟨c, ds, front, digit, -⟩ | ⟨ds, front, -⟩ := toString_scans fits
        · exact front ▸ digit_starts digit ds
        · exact front ▸ .cons (by decide) ds
  reads {depth a t b s} enough written blank ends := by
    obtain ⟨depth, rfl⟩ := Nat.exists_eq_add_of_le' enough
    cases written with
    | string written =>
        obtain ⟨body, rfl, scans⟩ := Writing.string_scans written
        have quote : '"' ∉ blanks := by decide
        simp [anyValue, blank, quote, scans, Except.map]
    | @boolean a =>
        have solid : 't' ∉ blanks ∧ 'f' ∉ blanks := by decide
        cases a <;> simp [booleanText, anyValue, blank, solid, scanWord, Except.map]
    | integer fits =>
        obtain ⟨c, ds, front, digit, scans⟩ | ⟨ds, front, scans⟩ := toString_scans fits
        · have solid := ((digit_starts digit ds).append s).skipBlanks
          have scanned := scans s ends
          rw [List.cons_append] at solid scanned
          simp only [anyValue, skipBlanks_append blank, front, List.cons_append, solid]
          split <;> simp_all [Except.map]
        · have minus : '-' ∉ blanks := by decide
          rw [front]
          simp [anyValue, blank, minus, scans s ends, Except.map]

theorem Undoes.orNull (u : Undoes need r w) (noNull : ∀ a t, w a t → t.head? ≠ some 'n') :
    Undoes need (nullable r) w.orNull where
  starts {a t} written := by
    cases a with
    | none =>
        obtain rfl := written
        exact .cons (by decide) _
    | some a => exact u.starts written
  reads {depth a t b s} enough written blank ends := by
    cases a with
    | none =>
        obtain rfl := written
        have solid : 'n' ∉ blanks := by decide
        simp [nullable, blank, solid, scanWord, Except.map]
    | some a =>
        have read := u.reads enough written Blank.nil ends
        have other := noNull a t written
        have solid := ((u.starts written).append s).skipBlanks
        obtain ⟨c, v, rfl, -⟩ := u.starts written
        simp only [nullable, skipBlanks_append blank, solid]
        split
        · simp_all
        · simp_all [Reader.map]

theorem string_noNull (a : String) (t : List Char) (written : Writing.string a t) :
    t.head? ≠ some 'n' := by
  obtain ⟨body, rfl, -⟩ := Writing.string_scans written
  simp

/-! ## Lists -/

theorem Parts.ends (parts : Parts w closing false as t) (ender : closing ∈ enders) (s : List Char) :
    Ends (t ++ s) := by
  cases parts with
  | close blank =>
      rw [List.append_assoc]
      exact Ends.blank blank (Ends.cons ender)
  | part gap =>
      rw [List.append_assoc, List.append_assoc]
      exact gap.ends _

theorem nextItem_close (first : Bool) (blank : Blank b) (s : List Char) :
    nextItem first (b ++ ']' :: s) = .ok none := by
  have solid : ']' ∉ blanks := by decide
  simp [nextItem, blank, solid]

theorem nextItem_part (gap : Gap first g) (starts : Starts s) :
    nextItem first (g ++ s) = .ok (some s) := by
  have solid := starts.skipBlanks
  obtain ⟨c, u, rfl, starter⟩ := starts
  have other : c ≠ ']' ∧ c ≠ ',' := by
    constructor <;> (rintro rfl; exact starter (by decide))
  cases gap with
  | first blank =>
      simp only [nextItem, skipBlanks_append blank, solid]
      split <;> simp_all
  | next before after =>
      have comma : ',' ∉ blanks := by decide
      simp only [nextItem, List.append_assoc, List.cons_append, skipBlanks_append before,
        skipBlanks_append after, skipBlanks_cons comma, solid, Bool.false_eq_true, if_false]
      split <;> simp_all

theorem items_parts {item : Reader α} (u : Undoes need item w) (enough : need ≤ depth)
    (parts : Parts w ']' first as t) (before : List α) (front : before.isEmpty = first)
    (left : Nat) (fuel : t.length < left) (s : List Char) :
    items item depth left before (t ++ s) = .ok (before.reverse ++ as, s) := by
  induction parts generalizing before left with
  | @close b first blank =>
      obtain _ | left := left
      · omega
      have solid : ']' ∉ blanks := by decide
      simp [items, nextItem_close, blank, solid]
  | @part first g a p as t gap written more ih =>
      obtain _ | left := left
      · omega
      have filled : 1 ≤ p.length := by
        obtain ⟨c, v, rfl, -⟩ := u.starts written
        simp
      have next := nextItem_part gap ((u.starts written).append (t ++ s))
      have read := u.reads enough written Blank.nil (more.ends (by decide) s)
      simp only [List.length_append] at fuel
      simp only [List.nil_append] at read
      simp only [items, List.append_assoc, front, next, read]
      rw [ih (a :: before) rfl left (by omega)]
      simp

theorem Undoes.list (u : Undoes (n + 1) item w) : Undoes (n + 2) (list item) w.list where
  starts := by
    rintro as t ⟨v, -, rfl⟩
    exact .cons (by decide) v
  reads {depth as t b s} enough written blank _ := by
    obtain ⟨v, parts, rfl⟩ := written
    have bracket : '[' ∉ blanks := by decide
    have deep : ¬ depth ≤ 1 := by omega
    have read := items_parts u (by omega : n + 1 ≤ depth - 1) parts [] rfl ((v ++ s).length + 1)
      (by rw [List.length_append]; omega) s
    simp only [Json.list, skipBlanks_append blank, List.cons_append, skipBlanks_cons bracket, deep,
      if_false, read, List.reverse_nil, List.nil_append]

/-! ## Objects -/

theorem nextKey_close (first : Bool) (blank : Blank b) (s : List Char) :
    nextKey first (b ++ '\x7d' :: s) = .ok none := by
  have solid : '\x7d' ∉ blanks := by decide
  simp [nextKey, blank, solid]

theorem nextKey_part (gap : Gap first g) (written : Writing.string key k) (s : List Char) :
    nextKey first (g ++ (k ++ s)) = .ok (some (key, s)) := by
  obtain ⟨body, rfl, scans⟩ := Writing.string_scans written
  have quote : '"' ∉ blanks := by decide
  cases gap with
  | first blank => simp [nextKey, blank, quote, scans, Except.map]
  | next before after =>
      have comma : ',' ∉ blanks := by decide
      simp [nextKey, before, after, comma, quote, scans, Except.map]

theorem colon_append (blank : Blank b) (s : List Char) : colon (b ++ ':' :: s) = .ok s := by
  have solid : ':' ∉ blanks := by decide
  simp [colon, blank, solid]

/-! ## Maps -/

theorem mem_insertSorted {l : List (String × α)} (inside : m ∈ insertSorted key a l) :
    m = (key, a) ∨ m ∈ l := by
  induction l with
  | nil => exact .inl (List.mem_singleton.mp inside)
  | cons n l ih =>
      obtain ⟨k, b⟩ := n
      unfold insertSorted at inside
      split at inside
      · exact List.mem_cons.mp inside
      split at inside
      · exact (List.mem_cons.mp inside).imp_right (List.mem_cons_of_mem _)
      · obtain rfl | inside := List.mem_cons.mp inside
        · exact .inr List.mem_cons_self
        · exact (ih inside).imp_right (List.mem_cons_of_mem _)

theorem insertSorted_ascending {l : List (String × α)} (ascending : l.Pairwise (·.1 < ·.1))
    (key : String) (a : α) : (insertSorted key a l).Pairwise (·.1 < ·.1) := by
  induction l with
  | nil => exact List.pairwise_singleton _ _
  | cons n l ih =>
      obtain ⟨k, b⟩ := n
      obtain ⟨front, rest⟩ := List.pairwise_cons.mp ascending
      unfold insertSorted
      split
      · rename_i less
        exact ascending.cons fun m inside => by
          obtain rfl | inside := List.mem_cons.mp inside
          · exact less
          · exact less.trans (front m inside)
      split
      · rename_i same
        subst same
        exact rest.cons front
      · rename_i notLess notSame
        refine (ih rest).cons fun m inside => ?_
        obtain rfl | inside := mem_insertSorted inside
        · exact lt_of_le_of_ne (not_lt.mp notLess) (Ne.symm notSame)
        · exact front m inside

theorem insertSorted_perm {l : List (String × α)} (fresh : key ∉ l.map (·.1)) (a : α) :
    (insertSorted key a l).Perm ((key, a) :: l) := by
  induction l with
  | nil => exact .refl _
  | cons n l ih =>
      obtain ⟨k, b⟩ := n
      simp only [List.map_cons, List.mem_cons, not_or] at fresh
      unfold insertSorted
      rw [if_neg fresh.1]
      split
      · exact .refl _
      · exact ((ih fresh.2).cons (k, b)).trans (.swap ..)

/-- The entries of a map, put in their places one after another. -/
def sortEntries (before entries : List (String × α)) : List (String × α) :=
  entries.foldl (fun acc m => insertSorted m.1 m.2 acc) before

theorem sortEntries_perm {before order : List (String × α)}
    (distinct : ((before ++ order).map (·.1)).Nodup) :
    (sortEntries before order).Perm (before ++ order) := by
  induction order generalizing before with
  | nil => simp [sortEntries]
  | cons m order ih =>
      have fresh : m.1 ∉ before.map (·.1) := by
        intro inside
        rw [List.map_append] at distinct
        exact (List.nodup_append.mp distinct).2.2 _ inside _ List.mem_cons_self rfl
      have placed : (insertSorted m.1 m.2 before ++ order).Perm (before ++ m :: order) :=
        ((insertSorted_perm fresh m.2).append_right order).trans List.perm_middle.symm
      have still := (placed.map (·.1)).nodup_iff.mpr distinct
      exact (ih still).trans placed

theorem sortEntries_ascending {before : List (String × α)} (ascending : before.Pairwise (·.1 < ·.1))
    (order : List (String × α)) : (sortEntries before order).Pairwise (·.1 < ·.1) := by
  induction order generalizing before with
  | nil => exact ascending
  | cons m order ih => exact ih (insertSorted_ascending ascending m.1 m.2)

/-- The order in which the entries of a map are written does not matter. -/
theorem sortEntries_eq {order entries : List (String × α)} (perm : order.Perm entries)
    (ascending : entries.Pairwise (·.1 < ·.1)) : sortEntries [] order = entries := by
  have keys : (entries.map (·.1)).Nodup :=
    List.pairwise_map.mpr (ascending.imp fun less => less.ne)
  have distinct : ((([] : List (String × α)) ++ order).map (·.1)).Nodup :=
    (perm.map (·.1)).nodup_iff.mpr keys
  refine ((sortEntries_perm distinct).trans perm).eq_of_pairwise ?_
    (sortEntries_ascending .nil order) ascending
  exact fun m n _ _ less more => absurd (less.trans more) (lt_irrefl m.1)

theorem members_parts {value : Reader α} (u : Undoes need value w) (enough : need ≤ depth)
    (parts : Parts w.member '\x7d' first ms t) (before : List (String × α)) (left : Nat)
    (fuel : t.length < left) (s : List Char) :
    members value depth left first before (t ++ s) = .ok (sortEntries before ms, s) := by
  induction parts generalizing before left with
  | @close b first blank =>
      obtain _ | left := left
      · omega
      have solid : '\x7d' ∉ blanks := by decide
      simp [members, nextKey_close, blank, solid, sortEntries]
  | @part first g m p ms t gap written more ih =>
      obtain _ | left := left
      · omega
      obtain ⟨k, b, c, v, key, blank, after, written, rfl⟩ := written
      have next := nextKey_part gap key (b ++ ':' :: (c ++ (v ++ (t ++ s))))
      have read := u.reads enough written after (more.ends (by decide) s)
      simp only [List.length_append, List.length_cons] at fuel
      simp only [members, List.append_assoc, List.cons_append, next, colon_append blank, read, bind,
        Except.bind]
      rw [ih _ left (by omega)]
      rfl

theorem Undoes.map (u : Undoes (n + 1) value w) : Undoes (n + 2) (keyed value) w.map where
  starts := by
    rintro entries t ⟨-, order, -, v, -, rfl⟩
    exact .cons (by decide) v
  reads {depth entries t b s} enough written blank _ := by
    obtain ⟨ascending, order, perm, v, parts, rfl⟩ := written
    have bracket : '\x7b' ∉ blanks := by decide
    have deep : ¬ depth ≤ 1 := by omega
    have read := members_parts u (by omega : n + 1 ≤ depth - 1) parts [] ((v ++ s).length + 1)
      (by rw [List.length_append]; omega) s
    simp only [keyed, skipBlanks_append blank, List.cons_append, skipBlanks_cons bracket, deep,
      if_false, read, sortEntries_eq perm ascending]

end ShaderVariants.Json
