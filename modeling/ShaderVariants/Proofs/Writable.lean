import ShaderVariants.Proofs.Writing

/-!
What can be written. Every string has a text, since each of its characters can stand for itself
or be escaped, and a list, a map or a record has a text as soon as its parts have.
-/

namespace ShaderVariants.Json

def Writing.Writes (w : Writing α) (a : α) : Prop := ∃ t, w a t

/-! ## Strings -/

theorem exists_hex4 (small : n < 0x10000) : ∃ ds, Hex4 n ds := by
  have digit (v : Nat) (below : v < 16) : HexDigit v v.digitChar := ⟨below, .inl rfl⟩
  have splits : n = ((n / 4096 * 16 + n / 256 % 16) * 16 + n / 16 % 16) * 16 + n % 16 := by omega
  exact ⟨_, _, _, _, _,
    .cons (digit _ (by omega)) <| .cons (digit _ (by omega)) <| .cons (digit _ (by omega)) <|
      .cons (digit _ (by omega)) .nil,
    splits⟩

theorem exists_piece (c : Char) : ∃ p, Piece c p := by
  by_cases plain : 0x20 ≤ c.toNat ∧ c ≠ '"' ∧ c ≠ '\\'
  · exact ⟨_, .plain plain.1 plain.2.1 plain.2.2⟩
  · have small : c.toNat < 0x10000 := by
      by_contra wide
      have visible : 0x20 ≤ c.toNat := by omega
      have special : c = '"' ∨ c = '\\' := by tauto
      obtain rfl | rfl := special <;> exact wide (by decide)
    obtain ⟨ds, code⟩ := exists_hex4 small
    exact ⟨_, .code code⟩

theorem exists_pieces (cs : List Char) : ∃ pieces, List.Forall₂ Piece cs pieces := by
  induction cs with
  | nil => exact ⟨[], .nil⟩
  | cons c cs ih =>
      obtain ⟨p, piece⟩ := exists_piece c
      obtain ⟨pieces, all⟩ := ih
      exact ⟨p :: pieces, .cons piece all⟩

theorem string_writes (s : String) : Writing.string.Writes s := by
  obtain ⟨pieces, all⟩ := exists_pieces s.toList
  exact ⟨_, pieces, all, rfl⟩

theorem string_visible (s : String)
    (visible : ∀ c ∈ s.toList, 0x20 ≤ c.toNat ∧ c ≠ '"' ∧ c ≠ '\\') :
    Writing.string s ('"' :: s.toList ++ ['"']) := by
  refine ⟨s.toList.map ([·]), ?_, by simp [← List.flatMap_def]⟩
  rw [List.forall₂_map_right_iff, List.forall₂_same]
  intro c inside
  obtain ⟨shown, noQuote, noEscape⟩ := visible c inside
  exact .plain shown noQuote noEscape

/-! ## Lists and objects -/

theorem exists_gap (first : Bool) : ∃ g, Gap first g := by
  cases first with
  | true => exact ⟨[], .first Blank.nil⟩
  | false => exact ⟨_, .next Blank.nil Blank.nil⟩

theorem exists_parts {w : Writing α} (closing : Char) (first : Bool) (as : List α)
    (each : ∀ a ∈ as, w.Writes a) : ∃ t, Parts w closing first as t := by
  induction as generalizing first with
  | nil => exact ⟨_, .close Blank.nil⟩
  | cons a as ih =>
      obtain ⟨⟨p, written⟩, others⟩ := List.forall_mem_cons.mp each
      obtain ⟨g, gap⟩ := exists_gap first
      obtain ⟨t, more⟩ := ih false others
      exact ⟨_, .part gap written more⟩

theorem Writing.Writes.orNull {w : Writing α} {a : Option α} (each : ∀ x ∈ a, w.Writes x) :
    w.orNull.Writes a := by
  cases a with
  | none => exact ⟨_, rfl⟩
  | some x => exact each x rfl

theorem Writing.Writes.list {w : Writing α} {as : List α} (each : ∀ a ∈ as, w.Writes a) :
    w.list.Writes as := by
  obtain ⟨t, parts⟩ := exists_parts ']' true as each
  exact ⟨_, t, parts, rfl⟩

theorem members_writes {w : Writing α} {ms : List (String × α)} (each : ∀ m ∈ ms, w.Writes m.2) :
    w.members.Writes ms := by
  have pairs (m) (inside : m ∈ ms) : w.member.Writes m := by
    obtain ⟨key, string⟩ := string_writes m.1
    obtain ⟨value, written⟩ := each m inside
    exact ⟨_, key, [], [], value, string, Blank.nil, Blank.nil, written, rfl⟩
  obtain ⟨t, parts⟩ := exists_parts '\x7d' true ms pairs
  exact ⟨_, t, parts, rfl⟩

theorem Writing.Writes.map {w : Writing α} {entries : List (String × α)}
    (ascending : entries.Pairwise (·.1 < ·.1)) (each : ∀ m ∈ entries, w.Writes m.2) :
    w.map.Writes entries := by
  obtain ⟨t, written⟩ := members_writes each
  exact ⟨t, ascending, entries, .refl _, written⟩

/-- A record has a text when its fields have: the one that shows all of them in order. -/
theorem object_writes {slots : List (Slot α)} (distinct : (slots.map (·.key)).Nodup)
    (each : ∀ slot ∈ slots, slot.writing.Writes (slot.get a)) :
    (Writing.object slots).Writes a := by
  have shown : ∃ ms : List (String × List Char),
      List.Forall₂ (fun slot m => m.1 = slot.key ∧ slot.writing (slot.get a) m.2) slots ms := by
    clear distinct
    induction slots with
    | nil => exact ⟨[], .nil⟩
    | cons slot slots ih =>
        obtain ⟨⟨t, written⟩, others⟩ := List.forall_mem_cons.mp each
        obtain ⟨ms, all⟩ := ih others
        exact ⟨(slot.key, t) :: ms, .cons ⟨rfl, written⟩ all⟩
  obtain ⟨ms, all⟩ := shown
  have keys : ms.map (·.1) = slots.map (·.key) := by
    clear each distinct
    induction all with
    | nil => rfl
    | cons here _ ih => rw [List.map_cons, List.map_cons, here.1, ih]
  have tells : Tells slots a ms := {
    known m inside slot within same := by
      obtain ⟨other, there, key, written⟩ := exists_left all inside
      obtain rfl := eq_of_key distinct there within (key.symm.trans same)
      exact written
    unknown m inside other := by
      obtain ⟨slot, there, key, -⟩ := exists_left all inside
      exact absurd key (other slot there)
    once slot _ := keys ▸ List.nodup_iff_count_le_one.mp distinct slot.key
    omitted slot inside missing := by
      rw [keys] at missing
      exact absurd (List.mem_map_of_mem inside) missing }
  have verbatim : ∀ m ∈ ms, Writing.Writes Eq m.2 := fun m _ => ⟨m.2, rfl⟩
  obtain ⟨t, written⟩ := members_writes verbatim
  exact ⟨t, ms, tells, written⟩

end ShaderVariants.Json
