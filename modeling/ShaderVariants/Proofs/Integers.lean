import ShaderVariants.Proofs.Readers

/-!
Integers as they are written in JSON, of any length, and how they are held. An integer of the 64-bit
ranges is held as itself and has its text again. Every other one, and a zero with a sign, is held in
binary floating point, whose text has a point or an exponent, and so is never that of an integer.
-/

namespace ShaderVariants

/-! ## Text of binary numbers -/

namespace Decimal.Binary64

def Marked (t : List Char) : Prop := ∃ c ∈ t, c = '.' ∨ c = 'e'

theorem Marked.append_left (marked : Marked t) (s : List Char) : Marked (s ++ t) := by
  obtain ⟨c, inside, mark⟩ := marked
  exact ⟨c, List.mem_append_right s inside, mark⟩

theorem plain_marked (digits : List Char) (position : Int) :
    Marked (plain digits position).toList := by
  refine ⟨'.', ?_, .inl rfl⟩
  simp only [plain]
  split
  · simp
  split <;> simp

theorem scientific_marked (digits : List Char) (power : Int) :
    Marked (scientific digits power).toList := by
  refine ⟨'e', ?_, .inr rfl⟩
  simp [scientific]

theorem text_marked (style : Style) (x : Binary64) : Marked (x.text style).toList := by
  simp only [text]
  generalize (if x.negative then "-" else "") = sign
  split
  · rw [String.toList_append]
    exact Marked.append_left ⟨'.', by decide, .inl rfl⟩ _
  split
  · rw [String.toList_append]
    exact (plain_marked _ _).append_left _
  · rw [String.toList_append]
    exact (scientific_marked _ _).append_left _

end Decimal.Binary64

namespace Json
open Decimal

/-! ## Integers -/

/-- Whether a text is an integer: a minus sign or none, and digits without needless zeros. -/
def IsInteger (t : List Char) : Prop :=
  ∃ sign ∈ [[], ['-']], ∃ ds, IsWhole ds ∧ t = sign ++ ds

def integerValue : List Char → Int
  | '-' :: ds => -(Nat.ofDigitChars 10 ds 0 : Int)
  | ds => (Nat.ofDigitChars 10 ds 0 : Int)

/-- The integers that can be held as they are: those of the 64-bit ranges, but no zero with a
sign. -/
def Exact (t : List Char) : Prop := t ≠ ['-', '0'] ∧ Fits64 (integerValue t)

theorem toDigits_digit {c : Char} (digit : c.isDigit) :
    c.toNat - '0'.toNat < 10 ∧ Nat.toDigits 10 (c.toNat - '0'.toNat) = [c] := by
  have range : '0'.toNat ≤ c.toNat ∧ c.toNat ≤ '9'.toNat := by
    simpa [Char.isDigit, Char.le_def, UInt32.le_iff_toNat_le] using digit
  have below : c.toNat - '0'.toNat < 10 := by
    have : '9'.toNat = '0'.toNat + 9 := rfl
    omega
  refine ⟨below, ?_⟩
  rw [Nat.toDigits_of_lt_base below, List.singleton_inj, ← Char.toNat_inj,
    Nat.toNat_digitChar_of_lt_ten below]
  have : '0'.toNat = 48 := rfl
  omega

/-- Digits behind those of a number that is not zero are the ones that they make with it. -/
theorem toDigits_ofDigitChars (all : ∀ c ∈ ds, c.isDigit) (positive : 0 < n) :
    Nat.toDigits 10 (Nat.ofDigitChars 10 ds n) = Nat.toDigits 10 n ++ ds := by
  induction ds generalizing n with
  | nil => simp
  | cons c ds ih =>
    obtain ⟨digit, others⟩ := List.forall_mem_cons.mp all
    obtain ⟨below, single⟩ := toDigits_digit digit
    rw [Nat.ofDigitChars_cons, ih others (by omega),
      ← Nat.toDigits_append_toDigits (by decide) positive below, single, List.append_assoc]
    rfl

/-- Digits without needless zeros are those that their number is written with. -/
theorem IsWhole.toDigits (whole : IsWhole ds) :
    Nat.toDigits 10 (Nat.ofDigitChars 10 ds 0) = ds := by
  obtain rfl | ⟨⟨nonempty, all⟩, solid⟩ := whole
  · rfl
  · obtain ⟨c, ds, rfl⟩ := List.exists_cons_of_ne_nil nonempty
    obtain ⟨digit, others⟩ := List.forall_mem_cons.mp all
    obtain ⟨below, single⟩ := toDigits_digit digit
    have positive : 0 < c.toNat - '0'.toNat := by
      by_contra zero
      rw [Nat.eq_zero_of_not_pos zero] at single
      exact solid (congrArg List.head? single.symm)
    rw [Nat.ofDigitChars_cons, Nat.mul_zero, Nat.zero_add, toDigits_ofDigitChars others positive,
      single]
    rfl

theorem integerValue_toDigits (n : Nat) : integerValue (Nat.toDigits 10 n) = n := by
  obtain ⟨c, ds, shape, digit⟩ := toDigits_front n
  have other : c ≠ '-' := by
    rintro rfl
    contradiction
  have value : Nat.ofDigitChars 10 (c :: ds) 0 = n := by
    rw [← shape, Nat.ofDigitChars_ten_toDigits]
  rw [shape]
  unfold integerValue
  split
  · simp_all
  · rw [value]

theorem integerValue_minus (n : Nat) : integerValue ('-' :: Nat.toDigits 10 n) = -n := by
  rw [integerValue, Nat.ofDigitChars_ten_toDigits]

/-- An integer is a natural number as it is written, with or without a sign. -/
theorem IsInteger.cases (integer : IsInteger t) :
    (∃ n, t = Nat.toDigits 10 n) ∨ ∃ n, t = '-' :: Nat.toDigits 10 n := by
  obtain ⟨sign, signed, ds, whole, rfl⟩ := integer
  simp only [List.mem_cons, List.not_mem_nil, or_false] at signed
  obtain rfl | rfl := signed
  · exact .inl ⟨_, whole.toDigits.symm⟩
  · exact .inr ⟨_, congrArg ('-' :: ·) whole.toDigits.symm⟩

theorem IsInteger.not_marked (integer : IsInteger t) : ¬Binary64.Marked t := by
  have plain {ds : List Char} (all : ∀ c ∈ ds, c.isDigit) : ¬Binary64.Marked ds := by
    rintro ⟨c, inside, rfl | rfl⟩ <;> cases all _ inside
  obtain ⟨n, rfl⟩ | ⟨n, rfl⟩ := integer.cases
  · exact plain toDigits_isDigit
  · rintro ⟨c, inside, mark⟩
    obtain rfl | inside := List.mem_cons.mp inside
    · revert mark
      decide
    · exact plain toDigits_isDigit ⟨c, inside, mark⟩

theorem Exact.toString (integer : IsInteger t) (fits : Exact t) :
    (toString (integerValue t)).toList = t := by
  obtain ⟨n, rfl⟩ | ⟨n, rfl⟩ := integer.cases
  · rw [integerValue_toDigits, toString_natCast]
  · obtain _ | n := n
    · exact absurd rfl fits.1
    · rw [integerValue_minus, ← toString_negSucc]
      rfl

theorem Exact.literal (integer : IsInteger t) (fits : Exact t) :
    Writing.Literal (.number (.integer (integerValue t))) t := by
  have written := Writing.Literal.integer fits.2
  rwa [fits.toString integer] at written

/-! ## Integers that are not held as they are -/

theorem appendDigits_short (ds : List Char) (n taken : Nat) (start : n ≤ maxWord)
    (large : maxWord < Nat.ofDigitChars 10 ds n) :
    (appendDigits n taken ds).2 < taken + ds.length := by
  induction ds generalizing n taken with
  | nil => exact absurd large (Nat.not_lt.mpr start)
  | cons c ds ih =>
    have next : n * 10 + digitValue c = 10 * n + (c.toNat - '0'.toNat) := by
      rw [digitValue]
      omega
    rw [Nat.ofDigitChars_cons, ← next] at large
    rw [appendDigits]
    split
    case isTrue fits =>
      have short := ih _ (taken + 1) fits large
      rw [List.length_cons]
      omega
    case isFalse => exact Nat.lt_add_of_pos_right (Nat.succ_pos _)

def Inexact (scan : Scan Number) : Prop := ∀ i s, scan ≠ .ok (.integer i, s)

theorem binaryNumber_inexact (positive : Bool) (significand : Nat) (e : Int) (s : List Char) :
    Inexact (binaryNumber positive significand e s) := by
  intro i s' same
  unfold binaryNumber at same
  split at same <;> cases same

theorem scanNumber_large (positive : Bool) (large : maxWord < n) :
    Inexact (scanNumber positive (Nat.toDigits 10 n)) := by
  obtain ⟨rfl, _⟩ | ⟨c, ds, shape, notZero, digit⟩ := toDigits_cases n
  · exact absurd large (Nat.not_lt_zero _)
  · have all : ∀ d ∈ c :: ds, d.isDigit := shape ▸ toDigits_isDigit
    have short : (appendDigits 0 0 (c :: ds)).2 < 0 + (c :: ds).length := by
      refine appendDigits_short (c :: ds) 0 0 (Nat.zero_le _) ?_
      rwa [← shape, Nat.ofDigitChars_ten_toDigits]
    have dropped : (c :: ds).length - (appendDigits 0 0 (c :: ds)).2 ≠ 0 := by omega
    have whole : digits (c :: ds) = c :: ds := by
      simpa using digits_append all Ends.nil.noDigit
    have behind : afterDigits ds = [] := by
      simpa using afterDigits_append (s := [])
        (fun d inside => all d (List.mem_cons_of_mem c inside)) Ends.nil.noDigit
    rw [shape, scanNumber.eq_def]
    split
    · contradiction
    · simp_all
    · simp_all
    · rename_i d rest _ _ same
      obtain ⟨rfl, rfl⟩ := List.cons.inj same
      simp only [digit, whole, behind, dropped, if_true, if_false]
      exact binaryNumber_inexact _ _ _ _

theorem scanNumber_inexact (other : n = 0 ∨ 0x8000000000000000 < n) :
    Inexact (scanNumber false (Nat.toDigits 10 n)) := by
  obtain large | fits := Nat.lt_or_ge maxWord n
  · exact scanNumber_large false large
  · have scanned := scanNumber_toDigits Ends.nil false fits
    rw [List.append_nil] at scanned
    rw [scanned, integerNumber, if_neg Bool.false_ne_true, if_pos other]
    exact binaryNumber_inexact _ _ _ _

theorem anyValue_toDigits (depth n : Nat) : anyValue (depth + 1) (Nat.toDigits 10 n) =
    (scanNumber true (Nat.toDigits 10 n)).map fun (n, s) => (.number n, s) := by
  obtain ⟨c, ds, shape, digit⟩ := toDigits_front n
  have solid := (digit_starts digit ds).skipBlanks
  rw [shape]
  simp only [anyValue, solid]
  split <;> simp_all

theorem anyValue_minus (depth : Nat) (ds : List Char) : anyValue (depth + 1) ('-' :: ds) =
    (scanNumber false ds).map fun (n, s) => (.number n, s) := by
  have minus : '-' ∉ blanks := by decide
  simp [anyValue, minus]

theorem number_of_scan {scan : Scan Number}
    (read : (scan.map fun (n, s) => (Value.number n, s)) = .ok (v, s)) :
    ∃ n, scan = .ok (n, s) ∧ v = .number n := by
  cases scan with
  | error stop => cases read
  | ok scanned =>
    obtain ⟨n, rest⟩ := scanned
    cases read
    exact ⟨n, rfl, rfl⟩

theorem Inexact.binary {scan : Scan Number} (inexact : Inexact scan)
    (read : (scan.map fun (n, s) => (Value.number n, s)) = .ok (v, s)) :
    ∃ x, v = .number (.binary x) := by
  obtain ⟨i | x, scanned, rfl⟩ := number_of_scan read
  · exact absurd scanned (inexact i s)
  · exact ⟨x, rfl⟩

theorem IsInteger.inexact (integer : IsInteger t) (other : ¬Exact t)
    (read : anyValue 1 t = .ok (v, s)) : ∃ x, v = .number (.binary x) := by
  obtain ⟨n, rfl⟩ | ⟨n, rfl⟩ := integer.cases
  · have large : maxWord < n := by
      by_contra fits
      refine other ⟨fun same => ?_, ?_⟩
      · have digit := toDigits_isDigit (n := n) '-' (same ▸ List.mem_cons_self)
        cases digit
      · rw [integerValue_toDigits, Fits64]
        rw [maxWord] at fits
        omega
    rw [anyValue_toDigits] at read
    exact (scanNumber_large true large).binary read
  · have beyond : n = 0 ∨ 0x8000000000000000 < n := by
      by_contra fits
      refine other ⟨fun same => ?_, ?_⟩
      · have zero := congrArg integerValue same
        rw [integerValue_minus] at zero
        have : integerValue ['-', '0'] = 0 := rfl
        omega
      · rw [integerValue_minus, Fits64]
        omega
    rw [anyValue_minus] at read
    exact (scanNumber_inexact beyond).binary read

/-! ## What a value is read from -/

def Writing.held : Writing Value := fun v t =>
  Starts t ∧ ∀ depth b s, 1 ≤ depth → Blank b → Ends s →
    anyValue depth (b ++ (t ++ s)) = .ok (v, s)

theorem undoes_held : Undoes 1 anyValue Writing.held where
  starts written := written.1
  reads enough written blank ends := written.2 _ _ _ enough blank ends

theorem held_literal (literal : Writing.Literal v t) : Writing.held v t :=
  ⟨undoes_literal.starts literal, fun _ _ _ enough => undoes_literal.reads enough literal⟩

theorem held_alone (held : Writing.held v t) : anyValue 1 t = .ok (v, []) := by
  simpa using held.2 1 [] [] (Nat.le_refl 1) Blank.nil Ends.nil

theorem held_unique (one : Writing.held v t) (two : Writing.held w t) : v = w := by
  have same := (held_alone one).symm.trans (held_alone two)
  cases same
  rfl

theorem held_minusZero : Writing.held (.number (.binary (Binary64.zero true))) ['-', '0'] := by
  refine ⟨.cons (by decide) _, fun depth b s enough blank ends => ?_⟩
  obtain ⟨depth, rfl⟩ := Nat.exists_eq_add_of_le' enough
  have minus : '-' ∉ blanks := by decide
  have number : binaryNumber false 0 0 s = .ok (.binary (Binary64.zero true), s) := rfl
  have scanned : scanNumber false ('0' :: s) = .ok (.binary (Binary64.zero true), s) :=
    (scanNumber_toDigits ends false (Nat.zero_le _)).trans number
  simp [anyValue, blank, minus, scanned, Except.map]

theorem IsInteger.number (integer : IsInteger t) (held : Writing.held v t) :
    ∃ n, v = .number n := by
  have read := held_alone held
  obtain ⟨n, rfl⟩ | ⟨n, rfl⟩ := integer.cases
  · rw [anyValue_toDigits] at read
    obtain ⟨n, _, rfl⟩ := number_of_scan read
    exact ⟨n, rfl⟩
  · rw [anyValue_minus] at read
    obtain ⟨n, _, rfl⟩ := number_of_scan read
    exact ⟨n, rfl⟩

/-- An integer is the text of the value that it is read as exactly if it can be held as it is. -/
theorem IsInteger.text_iff (integer : IsInteger t) (held : Writing.held v t) :
    v.text.toList = t ↔ Exact t := by
  constructor
  · intro same
    by_contra other
    obtain ⟨x, rfl⟩ := integer.inexact other (held_alone held)
    have marked : Binary64.Marked (Value.text (.number (.binary x))).toList :=
      Binary64.text_marked numberStyle x
    exact integer.not_marked (same ▸ marked)
  · intro fits
    obtain rfl := held_unique held (held_literal (fits.literal integer))
    exact fits.toString integer

end Json
end ShaderVariants
