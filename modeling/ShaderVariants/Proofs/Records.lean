import ShaderVariants.Proofs.Readers

/-!
Readers of records undo their writing as objects. A record is known by the contents of its slots,
so it is enough that reading a field changes the content of that slot and of no other: whatever
the order of the members, every content that has been read stays, and every other one is still
that of the blank record.
-/

namespace ShaderVariants.Json

/-- How a field of a record serves one of its slots: what is read goes to that slot and leaves
the others as they are. -/
structure Serves (need : Nat) (slots : List (Slot α)) (f : Field α) (slot : Slot α) : Prop where
  name : f.name = slot.key
  required : f.required = slot.default.isNone
  reads : ∀ {depth content t b s}, need ≤ depth → slot.writing content t → Blank b → Ends s →
    ∃ set, f.read depth (b ++ (t ++ s)) = .ok (set, s) ∧
      ∀ x, slot.get (set x) = content ∧
        ∀ other ∈ slots, other.key ≠ slot.key → other.get (set x) = other.get x

section
variable {slots : List (Slot α)} {get : α → β} {set : β → α → α} {w : Writing β}
  (u : Undoes n r w) (le : n ≤ need) (there : ∀ content x, get (set content x) = content)
  (elsewhere : ∀ content x, ∀ other ∈ slots, other.key ≠ key →
    other.get (set content x) = other.get x)
include u le there elsewhere

theorem serves_required : Serves need slots (required key r set) (.always key get w) where
  name := rfl
  required := rfl
  reads {depth content t b s} enough written blank ends := by
    have read := u.reads (Nat.le_trans le enough) written blank ends
    refine ⟨set content, ?_, fun x => ⟨there content x, elsewhere content x⟩⟩
    simp [required, Reader.map, read]

theorem serves_optional (default : β) :
    Serves need slots (optional key r set) (.omittable key get default w) where
  name := rfl
  required := rfl
  reads {depth content t b s} enough written blank ends := by
    have read := u.reads (Nat.le_trans le enough) written blank ends
    refine ⟨set content, ?_, fun x => ⟨there content x, elsewhere content x⟩⟩
    simp [optional, Reader.map, read]

end

/-- What makes a reader of records undo their writing in objects. -/
structure Serving (need : Nat) (r : Record α) (slots : List (Slot α)) : Prop where
  fields : List.Forall₂ (Serves need slots) r.fields slots
  distinct : (slots.map (·.key)).Nodup
  blank : ∀ slot ∈ slots, ∀ content, slot.default = some content → slot.get r.blank = content
  ext : ∀ x y, (∀ slot ∈ slots, slot.get x = slot.get y) → x = y

/-- No key of a field is met a second time. -/
theorem Tells.fresh {slots : List (Slot α)} (tells : Tells slots a (past ++ m :: ahead))
    (inside : slot ∈ slots) (key : m.1 = slot.key) : m.1 ∉ past.map (·.1) := by
  intro before
  have once := tells.once slot inside
  have counted := List.count_pos_iff.mpr (key ▸ before)
  simp only [List.map_append, List.map_cons, List.count_append, List.count_cons, key,
    beq_self_eq_true, if_true] at once
  omega

section
variable {r : Record α} {slots : List (Slot α)} (serving : Serving need r slots)
include serving

theorem Serving.unknown (missing : r.fields.find? (·.name == key) = none) :
    ∀ slot ∈ slots, key ≠ slot.key := by
  intro slot inside same
  obtain ⟨f, within, serves⟩ := exists_left serving.fields inside
  have missed := List.find?_eq_none.mp missing f within
  simp [serves.name, same] at missed

theorem Serving.known (found : r.fields.find? (·.name == key) = some f) :
    ∃ slot ∈ slots, key = slot.key ∧ Serves need slots f slot := by
  obtain ⟨slot, inside, serves⟩ :=
    exists_left serving.fields.flip (List.mem_of_find?_eq_some found)
  have named := List.find?_some found
  exact ⟨slot, inside, by rw [← serves.name, beq_iff_eq.mp named], serves⟩

end

/-- Where the reading of a record stands: the members that are behind it, the keys of fields
among them, and the record so far, which has taken over the content of those fields. -/
structure Progress (slots : List (Slot α)) (blank a : α) (past : List (String × List Char))
    (given : List String) (x : α) : Prop where
  keys : ∀ slot ∈ slots, slot.key ∈ given ↔ slot.key ∈ past.map (·.1)
  read : ∀ slot ∈ slots, slot.key ∈ given → slot.get x = slot.get a
  unread : ∀ slot ∈ slots, slot.key ∉ given → slot.get x = slot.get blank

namespace Progress

variable {slots : List (Slot α)} {blank a x : α} {past : List (String × List Char)}
  {given : List String} {m : String × List Char}

theorem start (slots : List (Slot α)) (blank a : α) : Progress slots blank a [] [] blank where
  keys _ _ := by simp
  read _ _ listed := by simp at listed
  unread _ _ _ := rfl

variable (progress : Progress slots blank a past given x)
include progress

theorem unknown (other : ∀ slot ∈ slots, m.1 ≠ slot.key) :
    Progress slots blank a (past ++ [m]) given x where
  keys slot inside := by
    simp [progress.keys slot inside, (other slot inside).symm]
  read := progress.read
  unread := progress.unread

theorem known {slot : Slot α} (distinct : (slots.map (·.key)).Nodup) (inside : slot ∈ slots)
    (key : m.1 = slot.key) (there : slot.get y = slot.get a)
    (elsewhere : ∀ other ∈ slots, other.key ≠ slot.key → other.get y = other.get x) :
    Progress slots blank a (past ++ [m]) (m.1 :: given) y where
  keys other within := by
    simp [progress.keys other within, or_comm]
  read other within listed := by
    by_cases same : other.key = slot.key
    · obtain rfl := eq_of_key distinct within inside same
      exact there
    · have before : other.key ∈ given :=
        (List.mem_cons.mp listed).resolve_left (key ▸ same)
      exact (elsewhere other within same).trans (progress.read other within before)
  unread other within unlisted := by
    obtain ⟨different, before⟩ := not_or.mp (mt List.mem_cons.mpr unlisted)
    exact (elsewhere other within (key ▸ different)).trans (progress.unread other within before)

/-- With all members behind it, the record is the one that was written. -/
theorem finish {r : Record α} (serving : Serving need r slots) (base : r.blank = blank)
    (tells : Tells slots a past) : x = a := by
  refine serving.ext x a fun slot inside => ?_
  by_cases listed : slot.key ∈ given
  · exact progress.read slot inside listed
  · have omitted := tells.omitted slot inside (mt (progress.keys slot inside).mpr listed)
    rw [progress.unread slot inside listed, ← base]
    exact serving.blank slot inside _ omitted

theorem complete {r : Record α} (serving : Serving need r slots) (tells : Tells slots a past) :
    (r.fields.find? fun f => f.required && !given.contains f.name) = none := by
  refine List.find?_eq_none.mpr fun f inside missing => ?_
  obtain ⟨slot, within, serves⟩ := exists_left serving.fields.flip inside
  obtain ⟨must, unlisted⟩ := Bool.and_eq_true_iff.mp missing
  have absent : slot.key ∉ given := by simpa [← serves.name] using unlisted
  have omitted := tells.omitted slot within (mt (progress.keys slot within).mpr absent)
  simp [serves.required, omitted] at must

end Progress

/-- The members of an object are read one after another; what has been read by then is what the
members behind say. -/
theorem recordMembers_parts {r : Record α} {slots : List (Slot α)} (serving : Serving need r slots)
    (enough : need ≤ depth) (parts : Parts (Writing.member Eq) '\x7d' first ms t)
    (past : List (String × List Char)) (tells : Tells slots a (past ++ ms))
    (progress : Progress slots r.blank a past given x) (left : Nat) (fuel : t.length < left)
    (s : List Char) : recordMembers r depth left first given x (t ++ s) = .ok (a, s) := by
  induction parts generalizing past given x left with
  | @close b first blank =>
      obtain _ | left := left
      · omega
      have solid : '\x7d' ∉ blanks := by decide
      rw [List.append_nil] at tells
      have complete := progress.complete serving tells
      have finish := progress.finish serving rfl tells
      simp only [recordMembers, List.append_assoc, List.singleton_append,
        nextKey_close first blank, complete, skipBlanks_append blank, skipBlanks_cons solid, finish,
        List.drop_one, List.tail_cons]
  | @part first g m p ms t gap written more ih =>
      obtain _ | left := left
      · omega
      obtain ⟨k, b, c, v, key, blank, after, rfl, rfl⟩ := written
      have next := nextKey_part gap key (b ++ ':' :: (c ++ (m.2 ++ (t ++ s))))
      have ends := more.ends (by decide) s
      simp only [List.length_append, List.length_cons] at fuel
      have here : m ∈ past ++ m :: ms := List.mem_append_right _ List.mem_cons_self
      have shifted : past ++ m :: ms = (past ++ [m]) ++ ms := by simp
      simp only [recordMembers, List.append_assoc, List.cons_append, next]
      cases found : r.fields.find? (·.name == m.1) with
      | none =>
          have other := serving.unknown found
          have skipped := (tells.unknown m here other).skips after ends
          simp only [colon_append blank, skipped, bind, Except.bind]
          exact ih (past ++ [m]) (shifted ▸ tells) (progress.unknown other) left (by omega)
      | some f =>
          obtain ⟨slot, inside, key, serves⟩ := serving.known found
          have fresh : given.contains m.1 = false := by
            rw [List.contains_eq_mem, decide_eq_false_iff_not, key, progress.keys slot inside]
            exact key ▸ tells.fresh inside key
          have written := tells.known m here slot inside key
          obtain ⟨set, read, changes⟩ := serves.reads enough written after ends
          obtain ⟨there, elsewhere⟩ := changes x
          simp only [fresh, colon_append blank, read, bind, Except.bind, Bool.false_eq_true,
            if_false]
          exact ih (past ++ [m]) (shifted ▸ tells)
            (progress.known serving.distinct inside key there elsewhere) left (by omega)

theorem Serving.undoes {r : Record α} {slots : List (Slot α)} (serving : Serving (n + 1) r slots) :
    Undoes (n + 2) (record r) (Writing.object slots) where
  starts := by
    rintro a t ⟨ms, -, v, -, rfl⟩
    exact .cons (by decide) v
  reads {depth a t b s} enough written blank _ := by
    obtain ⟨ms, tells, v, parts, rfl⟩ := written
    have bracket : '\x7b' ∉ blanks := by decide
    have deep : ¬ depth ≤ 1 := by omega
    have read := recordMembers_parts serving (by omega : n + 1 ≤ depth - 1) parts [] tells
      (.start slots r.blank a) ((v ++ s).length + 1) (by rw [List.length_append]; omega) s
    simp only [record, skipBlanks_append blank, List.cons_append, skipBlanks_cons bracket, deep,
      if_false, read]

theorem object_noNull (slots : List (Slot α)) (a : α) (t : List Char)
    (written : Writing.object slots a t) : t.head? ≠ some 'n' := by
  obtain ⟨ms, -, v, -, rfl⟩ := written
  simp

/-! ## Documents -/

theorem Undoes.read (u : Undoes need r w) (enough : need ≤ maxDepth) {document : String}
    (written : w.document a document.toList) : read r document = .ok a := by
  obtain ⟨b, t, c, before, written, after, text⟩ := written
  have ends : Ends c := List.append_nil c ▸ Ends.blank after Ends.nil
  have answer : r maxDepth document.toList = .ok (a, c) := by
    rw [text, List.append_assoc]
    exact u.reads enough written before ends
  have empty : skipBlanks c = [] := by
    simpa [Json.skipBlanks] using skipBlanks_append after []
  simp [Json.read, answer, empty, bind, Except.bind, pure, Except.pure]

end ShaderVariants.Json
