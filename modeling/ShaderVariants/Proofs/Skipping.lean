import ShaderVariants.Json.Skip
import ShaderVariants.Proofs.Tokens

/-!
A well-formed value that nobody reads is passed over, however deep it nests. A pass takes steps,
and the length of a phrase bounds the steps it takes: the fuel of a pass never runs out on a text
that starts with a value.
-/

namespace ShaderVariants.Json

/-! ## Strings -/

theorem skipEscape_letter (known : (e, c) ∈ letterEscapes) (s : List Char) :
    skipEscape (e :: s) = .ok s := by
  have stands := simpleEscape_eq known
  have noCode : e ≠ 'u' := by
    rintro rfl
    simp [simpleEscape] at stands
  unfold skipEscape
  split
  · contradiction
  · simp_all
  · simp_all only [List.cons.injEq, Option.isSome_some, if_true]

theorem skipChars_piece (piece : IsPiece p) (left : Nat) (s : List Char) :
    skipChars (left + 1) (p ++ s) = skipChars left s := by
  cases piece with
  | @plain c visible noQuote noEscape =>
      have shown : ¬ c.toNat < 0x20 := by omega
      simp [skipChars, shown]
  | letter known => simp [skipChars, skipEscape_letter known]
  | code unit => simp [skipChars, skipEscape, scanHex4_append unit, Except.map]

theorem IsPiece.length_pos (piece : IsPiece p) : 1 ≤ p.length := by
  cases piece <;> simp

theorem skipChars_pieces {pieces : List (List Char)} (each : ∀ p ∈ pieces, IsPiece p) (left : Nat)
    (s : List Char) (enough : pieces.flatten.length ≤ left) :
    skipChars left (pieces.flatten ++ '"' :: s) = .ok s := by
  induction pieces generalizing left with
  | nil => simp [skipChars]
  | cons p pieces ih =>
      obtain ⟨piece, others⟩ := List.forall_mem_cons.mp each
      have := piece.length_pos
      rw [List.flatten_cons, List.length_append] at enough
      obtain _ | left := left
      · omega
      rw [List.flatten_cons, List.append_assoc, skipChars_piece piece]
      exact ih others left (by omega)

theorem IsString.skips (string : IsString t) :
    ∃ body, t = '"' :: body ∧ ∀ s, skipChars (body ++ s).length (body ++ s) = .ok s := by
  obtain ⟨pieces, each, rfl⟩ := string
  refine ⟨pieces.flatten ++ ['"'], rfl, fun s => ?_⟩
  rw [List.append_assoc, List.singleton_append]
  exact skipChars_pieces each _ s (by simp)

/-! ## Numbers -/

theorem Digits.front (digits : Digits ds) : ∃ d rest, ds = d :: rest ∧ d.isDigit := by
  obtain ⟨d, rest, rfl⟩ := List.exists_cons_of_ne_nil digits.1
  exact ⟨d, rest, rfl, digits.2 d List.mem_cons_self⟩

section
variable (ends : Ends s)
include ends

theorem skipExponent_append (signed : sign ∈ [[], ['+'], ['-']]) (digits : Digits ds) :
    skipExponent (sign ++ ds ++ s) = .ok s := by
  obtain ⟨d, rest, rfl, digit⟩ := digits.front
  have behind : afterDigits (rest ++ s) = s :=
    afterDigits_append (fun c inside => digits.2 c (List.mem_cons_of_mem d inside)) ends.noDigit
  have noPlus : d ≠ '+' := by rintro rfl; contradiction
  have noMinus : d ≠ '-' := by rintro rfl; contradiction
  simp only [List.mem_cons, List.not_mem_nil, or_false] at signed
  obtain rfl | rfl | rfl := signed
  · unfold skipExponent
    split <;> simp_all
  · simp [skipExponent, digit, behind]
  · simp [skipExponent, digit, behind]

variable (exponent : IsExponent e)
include exponent

theorem skipScaled_exponent : skipScaled (e ++ s) = .ok s := by
  obtain rfl | ⟨letter, known, sign, signed, ds, digits, rfl⟩ := exponent
  · cases s with
    | nil => simp [skipScaled]
    | cons c s =>
        obtain ⟨-, -, noSmall, noLarge⟩ := not_numeric c (ends c rfl)
        unfold skipScaled
        split <;> simp_all
  · have skipped := skipExponent_append ends signed digits
    simp only [List.mem_cons, List.not_mem_nil, or_false] at known
    obtain rfl | rfl := known
    · simpa [skipScaled] using skipped
    · simpa [skipScaled] using skipped

theorem front_exponent : ∀ c ∈ (e ++ s).head?, c.isDigit = false ∧ c ≠ '.' := by
  obtain rfl | ⟨letter, known, sign, -, ds, -, rfl⟩ := exponent
  · exact fun c front => (not_numeric c (ends c front)).imp_right And.left
  · have letters : ∀ e ∈ ['e', 'E'], e.isDigit = false ∧ e ≠ '.' := by simp
    simpa using letters letter known

theorem noDigit_exponent : NoDigit (e ++ s) := fun c front =>
  (front_exponent ends exponent c front).1

variable (fraction : IsFraction f)
include fraction

theorem skipTail_fraction : skipNumber.skipTail (f ++ (e ++ s)) = .ok s := by
  have scaled := skipScaled_exponent ends exponent
  have stop := noDigit_exponent ends exponent
  obtain rfl | ⟨ds, ⟨filled, all⟩, rfl⟩ := fraction
  · unfold skipNumber.skipTail
    split
    · rename_i point
      rw [List.nil_append] at point
      exact absurd rfl (front_exponent ends exponent '.' (by rw [point]; rfl)).2
    · exact scaled
  · have taken := digits_append all stop
    have behind := afterDigits_append all stop
    simp [skipNumber.skipTail, taken, behind, scaled]

theorem noDigit_fraction : NoDigit (f ++ (e ++ s)) := by
  obtain rfl | ⟨ds, _, rfl⟩ := fraction
  · rw [List.nil_append]
    exact noDigit_exponent ends exponent
  · simp [NoDigit]

theorem skipNumber_whole (whole : IsWhole w) : skipNumber (w ++ (f ++ (e ++ s))) = .ok s := by
  have tail := skipTail_fraction ends exponent fraction
  have stop := noDigit_fraction ends exponent fraction
  generalize f ++ (e ++ s) = t at tail stop ⊢
  obtain rfl | ⟨digits, noZero⟩ := whole
  · cases t with
    | nil => simpa [skipNumber, afterDigits] using tail
    | cons d t => simpa [skipNumber, stop d rfl] using tail
  · obtain ⟨d, rest, rfl, digit⟩ := digits.front
    have behind : afterDigits (rest ++ t) = t :=
      afterDigits_append (fun c inside => digits.2 c (List.mem_cons_of_mem d inside)) stop
    rw [skipNumber.eq_def]
    split <;> simp_all

end

theorem IsNumber.skips (number : IsNumber t) :
    (∃ d ds, t = d :: ds ∧ d.isDigit ∧ ∀ s, Ends s → skipNumber (d :: ds ++ s) = .ok s) ∨
    (∃ ds, t = '-' :: ds ∧ ∀ s, Ends s → skipNumber (ds ++ s) = .ok s) := by
  obtain ⟨sign, signed, w, f, e, whole, fraction, exponent, rfl⟩ := number
  have skipped (s : List Char) (ends : Ends s) :
      skipNumber (w ++ (f ++ e) ++ s) = .ok s := by
    rw [List.append_assoc, List.append_assoc]
    exact skipNumber_whole ends exponent fraction whole
  simp only [List.mem_cons, List.not_mem_nil, or_false] at signed
  obtain rfl | rfl := signed
  · left
    obtain ⟨d, rest, rfl, digit⟩ : ∃ d rest, w = d :: rest ∧ d.isDigit := by
      obtain rfl | ⟨digits, -⟩ := whole
      · exact ⟨'0', [], rfl, rfl⟩
      · exact digits.front
    exact ⟨d, rest ++ (f ++ e), rfl, digit, skipped⟩
  · exact .inr ⟨w ++ (f ++ e), rfl, skipped⟩

/-! ## Steps of a pass -/

/-- Whether a pass comes to stand elsewhere within so many steps. -/
inductive Pass.Within : Nat → Pass → Pass → Prop where
  | refl : Within n p p
  | step (step : p.step = .ok q) (more : Within n q r) : Within (n + 1) p r

namespace Pass.Within

theorem mono (way : Within m p q) (le : m ≤ n) : Within n p q := by
  induction way generalizing n with
  | refl => exact .refl
  | step step _ ih =>
      obtain _ | n := n
      · omega
      exact .step step (ih (by omega))

theorem trans (way : Within m p q) (further : Within n q r) : Within (m + n) p r := by
  induction way with
  | refl => exact further.mono (by omega)
  | step step _ ih => exact (Within.step step (ih further)).mono (by omega)

end Pass.Within

theorem Pass.run_done (left : Nat) (s : List Char) :
    Pass.run left ⟨[], .finished, s⟩ = .ok s := by
  cases left <;> rfl

theorem Pass.Within.run (way : Within n p ⟨[], .finished, s⟩) (enough : n ≤ left) :
    p.run left = .ok s := by
  generalize stands : (⟨[], .finished, s⟩ : Pass) = r at way
  induction way generalizing left with
  | refl => exact stands ▸ Pass.run_done left s
  | @step p q r n step _ ih =>
      obtain _ | left := left
      · omega
      have on : q.run left = .ok s := ih (by omega) stands
      simp only [Pass.run, step]
      split
      · obtain ⟨frames, turn, rest⟩ := q
        rename_i done
        obtain ⟨rfl, rfl⟩ := done
        rw [← on, Pass.run_done]
      · exact on

/-! ## Phrases -/

def Turn.inside (first : Bool) : Turn := if first then .opened else .finished

section
variable (frame : Frame) (frames : List Frame)

theorem step_close (first : Bool) (blank : Blank b) (s : List Char) :
    Pass.step ⟨frame :: frames, .inside first, b ++ frame.closing :: s⟩ =
      .ok ⟨frames, .finished, s⟩ := by
  have solid : frame.closing ∉ blanks := by cases frame <;> decide
  cases first <;> simp [Turn.inside, Pass.step, skipInside, blank, solid]

/-- The gap in front of a part is passed, but for blanks. -/
theorem step_part (gap : Gap first g) (starts : Starts s) :
    ∃ b, Blank b ∧
      Pass.step ⟨frame :: frames, .inside first, g ++ s⟩ = skipTo frame frames (b ++ s) := by
  have closing : frame.closing ∈ enders ∧ ',' ≠ frame.closing := by cases frame <;> decide
  cases gap with
  | first blank =>
      obtain ⟨c, u, rfl, starter⟩ := starts
      have solid := Starts.skipBlanks (.cons starter u)
      have noClose : c ≠ frame.closing := fun same => starter (same ▸ closing.1)
      exact ⟨[], Blank.nil, by simp [Turn.inside, Pass.step, skipInside, blank, solid, noClose]⟩
  | @next t u before after =>
      have solid : ',' ∉ blanks := by decide
      exact ⟨u, after, by
        simp [Turn.inside, Pass.step, skipInside, before, solid, closing.2]⟩

end

theorem skipKey_append (key : IsString k) (around : Blank b) (before : Blank c) (s : List Char) :
    skipKey (b ++ (k ++ c ++ ':' :: s)) = .ok s := by
  obtain ⟨body, rfl, skips⟩ := key.skips
  have quote : '"' ∉ blanks := by decide
  have colon : ':' ∉ blanks := by decide
  simp [-List.length_append, skipKey, around, before, quote, colon, skips (c ++ ':' :: s), bind,
    Except.bind, pure, Except.pure]

/-! ## Phrases -/

theorem digit_starts (digit : d.isDigit) (s : List Char) : Starts (d :: s) :=
  .cons (fun ender => by simp [(not_numeric d ender).1] at digit) s

theorem WellFormed.starts (value : WellFormed .value t) : Starts t := by
  cases value with
  | null => exact .cons (by decide) _
  | @boolean b => cases b <;> exact .cons (by decide) _
  | number number =>
      obtain ⟨d, ds, rfl, digit, -⟩ | ⟨ds, rfl, -⟩ := number.skips
      · exact digit_starts digit ds
      · exact .cons (by decide) ds
  | string string =>
      obtain ⟨body, rfl, -⟩ := string.skips
      exact .cons (by decide) body
  | list => exact .cons (by decide) _
  | object => exact .cons (by decide) _

/-- Whether a pass takes a phrase, in a number of steps that its length bounds. -/
def Phrase.Passed : Phrase → List Char → Prop
  | .value, t => ∀ frames b s, Blank b → Ends s →
      Pass.Within (2 * t.length - 1) ⟨frames, .value, b ++ (t ++ s)⟩ ⟨frames, .finished, s⟩
  | .items first, t => ∀ frames s,
      Pass.Within (2 * t.length) ⟨.list :: frames, .inside first, t ++ s⟩ ⟨frames, .finished, s⟩
  | .members first, t => ∀ frames s,
      Pass.Within (2 * t.length) ⟨.object :: frames, .inside first, t ++ s⟩ ⟨frames, .finished, s⟩

/-- What follows a part, which is the closing bracket or a comma. -/
theorem WellFormed.ends (rest : WellFormed (.items false) t ∨ WellFormed (.members false) t)
    (s : List Char) : Ends (t ++ s) := by
  obtain items | members := rest
  · cases items with
    | listEnd blank =>
        rw [List.append_assoc]
        exact Ends.blank blank (Ends.cons (by decide))
    | item gap =>
        rw [List.append_assoc, List.append_assoc]
        exact gap.ends _
  · cases members with
    | objectEnd blank =>
        rw [List.append_assoc]
        exact Ends.blank blank (Ends.cons (by decide))
    | member gap =>
        rw [List.append_assoc, List.append_assoc]
        exact gap.ends _

theorem step_value (blank : Blank b) (starts : Starts t) (frames : List Frame) (s : List Char) :
    Pass.step ⟨frames, .value, b ++ (t ++ s)⟩ = skipStart frames (t ++ s) := by
  simp [Pass.step, blank, (starts.append s).skipBlanks]

theorem passed_once (starts : Starts t)
    (start : ∀ frames s, Ends s → skipStart frames (t ++ s) = .ok ⟨frames, .finished, s⟩) :
    Phrase.value.Passed t := by
  intro frames b s blank ends
  have filled : 1 ≤ 2 * t.length - 1 := by
    obtain ⟨c, u, rfl, -⟩ := starts
    simp only [List.length_cons]
    omega
  have stepped := (step_value blank starts frames s).trans (start frames s ends)
  exact (Pass.Within.step (n := 0) stepped .refl).mono filled

theorem skipStart_digit (digit : d.isDigit) (frames : List Frame) (s : List Char) :
    skipStart frames (d :: s) = (skipNumber (d :: s)).map (⟨frames, .finished, ·⟩) := by
  unfold skipStart
  split <;> simp_all

theorem passed_number (number : IsNumber t) : Phrase.value.Passed t := by
  refine passed_once (WellFormed.number number).starts fun frames s ends => ?_
  obtain ⟨d, ds, rfl, digit, skips⟩ | ⟨ds, rfl, skips⟩ := number.skips
  · rw [List.cons_append, skipStart_digit digit, ← List.cons_append, skips s ends]
    rfl
  · simp [skipStart, skips s ends, Except.map]

theorem passed_string (string : IsString t) : Phrase.value.Passed t := by
  refine passed_once (WellFormed.string string).starts fun frames s ends => ?_
  obtain ⟨body, rfl, skips⟩ := string.skips
  simp [-List.length_append, skipStart, skips s, Except.map]

theorem passed_frame (frame : Frame) (bracket : Char) (solid : bracket ∉ enders)
    (opens : ∀ frames s, skipStart frames (bracket :: s) = .ok ⟨frame :: frames, .opened, s⟩)
    (passed : ∀ frames s,
      Pass.Within (2 * t.length) ⟨frame :: frames, .inside true, t ++ s⟩ ⟨frames, .finished, s⟩) :
    Phrase.value.Passed (bracket :: t) := by
  intro frames b s blank _
  have stepped := (step_value blank (.cons solid t) frames s).trans (opens frames (t ++ s))
  refine (Pass.Within.step stepped (passed frames s)).mono ?_
  simp only [List.length_cons]
  omega

theorem passed_null : Phrase.value.Passed "null".toList :=
  passed_once WellFormed.null.starts fun frames s _ => by
    simp [skipStart, scanWord, Except.map]

theorem passed_boolean (b : Bool) : Phrase.value.Passed (booleanText b) :=
  passed_once WellFormed.boolean.starts fun frames s _ => by
    cases b <;> simp [booleanText, skipStart, scanWord, Except.map]

/-- A value inside a frame and all that follows it there. -/
theorem within_part {p : Pass} {frame : Frame} (starts : Starts v) (blank : Blank b)
    (stepped : p.step = .ok ⟨frame :: frames, .value, b ++ (v ++ (t ++ s))⟩)
    (value : Phrase.value.Passed v) (ends : Ends (t ++ s))
    (more : Pass.Within (2 * t.length) ⟨frame :: frames, .inside false, t ++ s⟩
      ⟨frames, .finished, s⟩)
    (length : v.length + t.length ≤ n) :
    Pass.Within (2 * n) p ⟨frames, .finished, s⟩ := by
  have filled : 1 ≤ v.length := by
    obtain ⟨c, u, rfl, -⟩ := starts
    simp
  have way := (Pass.Within.step stepped (value _ b (t ++ s) blank ends)).trans more
  exact way.mono (by omega)

/-- Every phrase is passed, by induction on the grammar. -/
theorem WellFormed.passed (phrase : WellFormed p t) : p.Passed t := by
  induction phrase with
  | null => exact passed_null
  | @boolean b => exact passed_boolean b
  | number number => exact passed_number number
  | string string => exact passed_string string
  | list items ih => exact passed_frame .list '[' (by decide) (fun _ _ => rfl) ih
  | object members ih => exact passed_frame .object '\x7b' (by decide) (fun _ _ => rfl) ih
  | @listEnd b first blank =>
      intro frames s
      rw [List.append_assoc]
      have stepped := step_close .list frames first blank s
      refine (Pass.Within.step (n := 0) stepped .refl).mono ?_
      simp only [List.length_append, List.length_singleton]
      omega
  | @objectEnd b first blank =>
      intro frames s
      rw [List.append_assoc]
      have stepped := step_close .object frames first blank s
      refine (Pass.Within.step (n := 0) stepped .refl).mono ?_
      simp only [List.length_append, List.length_singleton]
      omega
  | @item first g v t gap value more ihv ihm =>
      intro frames s
      obtain ⟨b, blank, stepped⟩ := step_part .list frames gap (value.starts.append (t ++ s))
      simp only [List.append_assoc]
      refine within_part value.starts blank stepped ihv (WellFormed.ends (.inl more) s)
        (ihm frames s) ?_
      simp only [List.length_append]
      omega
  | @member first g k b c v t gap key before after value more ihv ihm =>
      intro frames s
      have starts : Starts (k ++ (b ++ ':' :: (c ++ (v ++ (t ++ s))))) :=
        (WellFormed.string key).starts.append _
      obtain ⟨d, around, stepped⟩ := step_part .object frames gap starts
      have colon := skipKey_append key around before (c ++ (v ++ (t ++ s)))
      rw [List.append_assoc] at colon
      simp only [skipTo, colon, Except.map] at stepped
      simp only [List.append_assoc, List.cons_append]
      refine within_part value.starts after stepped ihv (WellFormed.ends (.inr more) s)
        (ihm frames s) ?_
      simp only [List.length_append, List.length_cons]
      omega

/-- A well-formed value is passed over and nothing else with it. -/
theorem WellFormed.skips (value : WellFormed .value t) (blank : Blank b) (ends : Ends s) :
    skipValue (b ++ (t ++ s)) = .ok s := by
  refine (value.passed [] b s blank ends).run ?_
  simp only [List.length_append]
  omega

end ShaderVariants.Json
