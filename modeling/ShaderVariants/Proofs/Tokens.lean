import ShaderVariants.Json.Scan
import ShaderVariants.Proofs.Writing

/-!
Scans of tokens undo their writing. Behind a number a text must go on with what ends it, since
more digits would belong to it; every other token ends by itself.
-/

namespace ShaderVariants.Json

/-! ## Blanks -/

/-- What may follow a value. -/
def enders : List Char := ',' :: ']' :: '\x7d' :: blanks

def Ends (s : List Char) : Prop := ∀ c ∈ s.head?, c ∈ enders

theorem isBlank_of_mem (blank : c ∈ blanks) : isBlank c := by
  simp only [blanks, List.mem_cons, List.not_mem_nil, or_false] at blank
  obtain rfl | rfl | rfl | rfl := blank <;> rfl

@[simp]
theorem skipBlanks_append (blank : Blank t) (s : List Char) :
    skipBlanks (t ++ s) = skipBlanks s :=
  List.dropWhile_append_of_pos fun c inside => isBlank_of_mem (blank c inside)

@[simp]
theorem skipBlanks_cons (solid : c ∉ blanks) (s : List Char) : skipBlanks (c :: s) = c :: s := by
  have other : isBlank c = false := by
    simpa [isBlank, blanks, and_assoc] using solid
  simp [skipBlanks, other]

theorem Ends.nil : Ends [] := by simp [Ends]

theorem Ends.cons (ender : c ∈ enders) : Ends (c :: s) := by simpa [Ends] using ender

theorem Ends.blank (blank : Blank t) (ends : Ends s) : Ends (t ++ s) := by
  cases t with
  | nil => exact ends
  | cons c t =>
      have inside : c ∈ blanks := blank c List.mem_cons_self
      exact Ends.cons (List.mem_append_right [',', ']', '\x7d'] inside)

/-- Whether a text starts with what a value may start with, as far as blanks and ends go. -/
def Starts (t : List Char) : Prop := ∃ c s, t = c :: s ∧ c ∉ enders

theorem Starts.cons (starter : c ∉ enders) (s : List Char) : Starts (c :: s) := ⟨c, s, rfl, starter⟩

theorem Starts.append (starts : Starts t) (s : List Char) : Starts (t ++ s) := by
  obtain ⟨c, u, rfl, starter⟩ := starts
  exact .cons starter (u ++ s)

theorem Starts.skipBlanks (starts : Starts t) : skipBlanks t = t := by
  obtain ⟨c, s, rfl, starter⟩ := starts
  exact skipBlanks_cons (fun blank => starter (List.mem_append_right [',', ']', '\x7d'] blank)) s

theorem Gap.ends (gap : Gap false g) (s : List Char) : Ends (g ++ s) := by
  obtain _ | ⟨before, after⟩ := gap
  rw [List.append_assoc]
  exact Ends.blank before (Ends.cons (by decide))

/-! ## Strings -/

theorem hexValue_eq (digit : HexDigit v c) : hexValue c = some v := by
  have values :
      ∀ v < 16, hexValue v.digitChar = some v ∧ hexValue v.digitChar.toUpper = some v := by decide
  obtain ⟨below, rfl | rfl⟩ := digit
  · exact (values v below).1
  · exact (values v below).2

theorem scanHex4_append (code : Hex4 n ds) (s : List Char) : scanHex4 (ds ++ s) = .ok (n, s) := by
  obtain ⟨p, q, r, t, digits, rfl⟩ := code
  obtain _ | ⟨first, _ | ⟨second, _ | ⟨third, _ | ⟨fourth, _ | _⟩⟩⟩⟩ := digits
  simp only [List.cons_append, List.nil_append, scanHex4, hexValue4, hexValue_eq first,
    hexValue_eq second, hexValue_eq third, hexValue_eq fourth]

theorem simpleEscape_eq (known : (e, c) ∈ letterEscapes) : simpleEscape e = some c := by
  have agree : ∀ m ∈ letterEscapes, simpleEscape m.1 = some m.2 := by decide
  exact agree (e, c) known

theorem scanEscape_letter (known : (e, c) ∈ letterEscapes) (s : List Char) :
    scanEscape (e :: s) = .ok (c, s) := by
  have stands := simpleEscape_eq known
  have noCode : e ≠ 'u' := by
    rintro rfl
    simp [simpleEscape] at stands
  unfold scanEscape
  split
  · contradiction
  · simp_all
  · simp_all only [List.cons.injEq]

theorem isLowSurrogate_eq (n : Nat) :
    isLowSurrogate n = decide (0xDC00 ≤ n ∧ n ≤ 0xDFFF) := by
  simp [isLowSurrogate]

theorem isHighSurrogate_eq (n : Nat) :
    isHighSurrogate n = decide (0xD800 ≤ n ∧ n ≤ 0xDBFF) := by
  simp [isHighSurrogate]

theorem toNat_valid (c : Char) : c.toNat < 0xD800 ∨ 0xDFFF < c.toNat ∧ c.toNat < 0x110000 :=
  c.valid

theorem scanEscape_code (unit : Hex4 c.toNat ds) (s : List Char) :
    scanEscape ('u' :: (ds ++ s)) = .ok (c, s) := by
  have valid := toNat_valid c
  have notLow : isLowSurrogate c.toNat = false := by
    rw [isLowSurrogate_eq, decide_eq_false_iff_not]
    omega
  have notHigh : isHighSurrogate c.toNat = false := by
    rw [isHighSurrogate_eq, decide_eq_false_iff_not]
    omega
  simp [scanEscape, scanHex4_append unit, notLow, notHigh, Char.ofNat_toNat, bind, Except.bind,
    pure, Except.pure]

theorem scanEscape_pair (wide : 0x10000 ≤ c.toNat) (high : Hex4 (highHalf c) ds)
    (low : Hex4 (lowHalf c) es) (s : List Char) :
    scanEscape ('u' :: (ds ++ '\\' :: 'u' :: (es ++ s))) = .ok (c, s) := by
  have valid := toNat_valid c
  have notLow : isLowSurrogate (highHalf c) = false := by
    rw [isLowSurrogate_eq, decide_eq_false_iff_not, highHalf]
    omega
  have isHigh : isHighSurrogate (highHalf c) = true := by
    rw [isHighSurrogate_eq, decide_eq_true_eq, highHalf]
    omega
  have isLow : isLowSurrogate (lowHalf c) = true := by
    rw [isLowSurrogate_eq, decide_eq_true_eq, lowHalf]
    omega
  have joined : (highHalf c - 0xD800) * 0x400 + (lowHalf c - 0xDC00) + 0x10000 = c.toNat := by
    unfold highHalf lowHalf
    omega
  simp [scanEscape, scanLowSurrogate, scanHex4_append high, scanHex4_append low, notLow, isHigh,
    isLow, joined, Char.ofNat_toNat, bind, Except.bind, pure, Except.pure]

theorem scanChars_piece (piece : Piece c p) (left : Nat) (before s : List Char) :
    scanChars (left + 1) before (p ++ s) = scanChars left (c :: before) s := by
  cases piece with
  | plain visible noQuote noEscape =>
      have shown : ¬ c.toNat < 0x20 := by omega
      simp [scanChars, shown]
  | letter known => simp [scanChars, scanEscape_letter known]
  | code unit => simp [scanChars, scanEscape_code unit]
  | pair wide high low => simp [scanChars, scanEscape_pair wide high low]

theorem Piece.length_pos (piece : Piece c p) : 1 ≤ p.length := by
  cases piece <;> simp

theorem scanChars_pieces (written : List.Forall₂ Piece cs pieces) (left : Nat)
    (before s : List Char) (enough : pieces.flatten.length ≤ left) :
    scanChars left before (pieces.flatten ++ '"' :: s) = .ok (before.reverse ++ cs, s) := by
  induction written generalizing left before with
  | nil => simp [scanChars]
  | cons piece _ ih =>
      have := piece.length_pos
      rw [List.flatten_cons, List.length_append] at enough
      obtain _ | left := left
      · omega
      rw [List.flatten_cons, List.append_assoc, scanChars_piece piece, ih left _ (by omega)]
      simp

theorem Writing.string_scans (written : Writing.string a t) :
    ∃ body, t = '"' :: body ∧ ∀ s, scanString (body ++ s) = .ok (a, s) := by
  obtain ⟨pieces, each, rfl⟩ := written
  refine ⟨pieces.flatten ++ ['"'], rfl, fun s => ?_⟩
  rw [List.append_assoc, List.singleton_append]
  have scanned := scanChars_pieces each (pieces.flatten ++ '"' :: s).length [] s (by simp)
  simp only [scanString, scanned, bind, Except.bind, pure, Except.pure, List.reverse_nil,
    List.nil_append, String.ofList_toList]

/-! ## Numbers -/

/-- What may follow a value is no part of a number. -/
theorem not_numeric : ∀ c ∈ enders, c.isDigit = false ∧ c ≠ '.' ∧ c ≠ 'e' ∧ c ≠ 'E' := by
  simp [enders, blanks]

def NoDigit (s : List Char) : Prop := ∀ c ∈ s.head?, c.isDigit = false

theorem Ends.noDigit (ends : Ends s) : NoDigit s := fun c front =>
  (not_numeric c (ends c front)).1

theorem afterDigits_append (all : ∀ c ∈ ds, c.isDigit) (stop : NoDigit s) :
    afterDigits (ds ++ s) = s := by
  rw [afterDigits, List.dropWhile_append_of_pos all]
  cases s with
  | nil => rfl
  | cons c s => simp [stop c rfl]

theorem digits_append (all : ∀ c ∈ ds, c.isDigit) (stop : NoDigit s) :
    digits (ds ++ s) = ds := by
  rw [digits, List.takeWhile_append_of_pos all]
  cases s with
  | nil => simp
  | cons c s => simp [stop c rfl]

theorem le_ofDigitChars (ds : List Char) (n : Nat) : n ≤ Nat.ofDigitChars 10 ds n := by
  induction ds generalizing n with
  | nil => simp
  | cons c ds ih =>
      rw [Nat.ofDigitChars_cons]
      have := ih (10 * n + (c.toNat - '0'.toNat))
      omega

theorem appendDigits_eq (ds : List Char) (n taken : Nat)
    (fits : Nat.ofDigitChars 10 ds n ≤ maxWord) :
    appendDigits n taken ds = (Nat.ofDigitChars 10 ds n, taken + ds.length) := by
  induction ds generalizing n taken with
  | nil => simp [appendDigits]
  | cons c ds ih =>
      have next : n * 10 + digitValue c = 10 * n + (c.toNat - '0'.toNat) := by
        rw [digitValue]
        omega
      rw [Nat.ofDigitChars_cons] at fits ⊢
      have small := Nat.le_trans (le_ofDigitChars ds _) fits
      simp only [appendDigits, next, small, if_true, ih _ (taken + 1) fits, List.length_cons,
        Nat.add_assoc, Nat.add_comm 1]

theorem toDigits_isDigit {n : Nat} : ∀ c ∈ Nat.toDigits 10 n, c.isDigit := fun _ inside =>
  Nat.isDigit_of_mem_toDigits (by decide) (by decide) inside

theorem toDigits_front (n : Nat) : ∃ c ds, Nat.toDigits 10 n = c :: ds ∧ c.isDigit := by
  obtain ⟨c, ds, front⟩ := List.exists_cons_of_ne_nil (Nat.toDigits_ne_nil (n := n) (b := 10))
  exact ⟨c, ds, front, toDigits_isDigit c (front ▸ List.mem_cons_self)⟩

theorem toDigits_cases (n : Nat) :
    n = 0 ∧ Nat.toDigits 10 n = ['0'] ∨
      ∃ c ds, Nat.toDigits 10 n = c :: ds ∧ c ≠ '0' ∧ c.isDigit := by
  induction n using Nat.strongRecOn with
  | ind n ih =>
      obtain small | large := Nat.lt_or_ge n 10
      · rw [Nat.toDigits_of_lt_base small]
        have single : ∀ d < 10, d = 0 ∨ d.digitChar ≠ '0' ∧ d.digitChar.isDigit := by decide
        obtain rfl | ⟨notZero, digit⟩ := single n small
        · exact .inl ⟨rfl, rfl⟩
        · exact .inr ⟨_, [], rfl, notZero, digit⟩
      · rw [Nat.toDigits_of_base_le (by decide) large]
        obtain ⟨zero, _⟩ | ⟨c, ds, front, notZero, digit⟩ := ih (n / 10) (by omega)
        · omega
        · refine .inr ⟨c, ds ++ [(n % 10).digitChar], ?_, notZero, digit⟩
          rw [front, List.cons_append]

section
variable (ends : Ends s) (positive : Bool)
include ends

theorem scanTail_ends (n : Nat) :
    scanNumber.scanTail positive n s = integerNumber positive n s := by
  cases s with
  | nil => simp [scanNumber.scanTail]
  | cons c s =>
      obtain ⟨-, noPoint, noSmall, noLarge⟩ := not_numeric c (ends c rfl)
      unfold scanNumber.scanTail
      split <;> simp_all

theorem scanNumber_toDigits {n : Nat} (fits : n ≤ maxWord) :
    scanNumber positive (Nat.toDigits 10 n ++ s) = integerNumber positive n s := by
  obtain ⟨rfl, zero⟩ | ⟨c, ds, shape, notZero, digit⟩ := toDigits_cases n
  · rw [zero, List.singleton_append]
    cases s with
    | nil => simp [scanNumber, scanTail_ends Ends.nil]
    | cons d s => simp [scanNumber, ends.noDigit d rfl, scanTail_ends ends]
  · have all : ∀ d ∈ c :: ds, d.isDigit := shape ▸ toDigits_isDigit
    have value : Nat.ofDigitChars 10 (c :: ds) 0 = n := by
      rw [← shape, Nat.ofDigitChars_toDigits (by decide) (by decide)]
    have taken := appendDigits_eq (c :: ds) 0 0 (by rwa [value])
    have whole : digits (c :: (ds ++ s)) = c :: ds := digits_append all ends.noDigit
    have behind : afterDigits (ds ++ s) = s :=
      afterDigits_append (fun d inside => all d (List.mem_cons_of_mem c inside)) ends.noDigit
    rw [shape, List.cons_append, scanNumber.eq_def]
    split
    · contradiction
    · simp_all
    · simp_all
    · rename_i d rest _ _ same
      obtain ⟨rfl, rfl⟩ := List.cons.inj same
      simp [digit, whole, taken, value, behind, scanTail_ends ends]

end

theorem toString_nat (n : Nat) : (toString n).toList = Nat.toDigits 10 n := by
  change n.repr.toList = _
  rw [Nat.repr_eq_ofList_toDigits, String.toList_ofList]

theorem toString_natCast (n : Nat) : (toString (n : Int)).toList = Nat.toDigits 10 n :=
  toString_nat n

theorem toString_negSucc (n : Nat) :
    (toString (Int.negSucc n)).toList = '-' :: Nat.toDigits 10 (n + 1) := by
  change ("-" ++ (n + 1).repr).toList = _
  rw [String.toList_append, Nat.repr_eq_ofList_toDigits,
    String.toList_ofList (l := Nat.toDigits 10 _)]
  rfl

/-- The text of an integer is digits, or a sign and digits, that a scan reads it from. -/
theorem toString_scans {i : Int} (range : Fits64 i) :
    (∃ c ds, (toString i).toList = c :: ds ∧ c.isDigit ∧
      ∀ s, Ends s → scanNumber true (c :: ds ++ s) = .ok (.integer i, s)) ∨
    (∃ ds, (toString i).toList = '-' :: ds ∧
      ∀ s, Ends s → scanNumber false (ds ++ s) = .ok (.integer i, s)) := by
  obtain ⟨least, greatest⟩ := range
  cases i with
  | ofNat n =>
      left
      have fits : n ≤ maxWord := by
        rw [maxWord]
        rw [Int.ofNat_eq_natCast] at greatest
        omega
      obtain ⟨c, ds, front, digit⟩ := toDigits_front n
      refine ⟨c, ds, (toString_natCast n).trans front, digit, fun s ends => ?_⟩
      rw [← front, scanNumber_toDigits ends true fits]
      rfl
  | negSucc n =>
      right
      have fits : n + 1 ≤ 0x8000000000000000 := by omega
      refine ⟨_, toString_negSucc n, fun s ends => ?_⟩
      rw [scanNumber_toDigits ends false (Nat.le_trans fits (by decide))]
      have inRange : ¬ (n + 1 = 0 ∨ 0x8000000000000000 < n + 1) := by omega
      simp only [integerNumber, Bool.false_eq_true, if_false, inRange, Int.negSucc_eq,
        Int.natCast_add, Int.natCast_one]

end ShaderVariants.Json
