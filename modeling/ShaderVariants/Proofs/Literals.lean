import ShaderVariants.Proofs.Documents
import ShaderVariants.Proofs.Includes
import ShaderVariants.Proofs.Integers

/-!
The values of constants on their way from a document to the headers. A value may be written in any
text that is read as it. Its literal stands behind the name of the constant in both headers of the
interface, whatever it is, so an integer is printed as it was written exactly if it can be held as
it is.
-/

namespace ShaderVariants

/-! ## Lines with constants -/

def Header.Has (h : Header) (line : String) : Prop :=
  ∃ before after, h = ofLines h.file (before ++ line :: after)

theorem Header.ofLines_has (file : String) {lines : List String} (inside : line ∈ lines) :
    (ofLines file lines).Has line := by
  obtain ⟨before, after, rfl⟩ := List.append_of_mem inside
  exact ⟨before, after, rfl⟩

namespace Interface
variable {types : TypeScope}

theorem addConstants_entries {cs : List Description.Constant} {i later : Interface}
    (success : cs.foldlM (fun i c => i.addConstant types c.type c.name c.literal) i = .ok later) :
    later.constants.map (fun n => (n.type.declared, n.name, n.value)) =
      i.constants.map (fun n => (n.type.declared, n.name, n.value)) ++
        cs.map fun c => (c.type, c.name, c.literal) := by
  induction cs generalizing i with
  | nil =>
    cases success
    exact (List.append_nil _).symm
  | cons c cs ih =>
    rw [List.foldlM_cons, bind_eq_ok] at success
    obtain ⟨next, first, rest⟩ := success
    obtain ⟨found, known, rfl⟩ := addConstant_eq_ok first
    rw [ih rest, List.map_append, List.append_assoc, List.map_cons (l := cs),
      ← TypeScope.find?_declared known]
    rfl

theorem ofDescription_constants {d : Description.Interface} {i : Interface}
    (success : ofDescription types d = .ok i) :
    i.constants.map (fun n => (n.type.declared, n.name, n.value)) =
      d.constants.map fun c => (c.type, c.name, c.literal) := by
  simp only [ofDescription, bind_eq_ok] at success
  obtain ⟨one, fields, two, resources, three, constants, finished⟩ := success
  have first : one.constants = [] := foldlM_keeps (P := fun i => i.constants = [])
    (fun i _ later added bare => by
      obtain ⟨_, _, rfl⟩ := addField_eq_ok added
      exact bare) _ _ _ fields rfl
  have second : two.constants = [] := foldlM_keeps (P := fun i => i.constants = [])
    (fun i _ later added bare => by
      obtain ⟨_, _, _, rfl⟩ := addResource_eq_ok added
      exact bare) _ _ _ resources first
  cases finish_eq_ok finished
  rw [addConstants_entries constants, second, List.map_nil, List.nil_append]

/-- Whether both headers of an interface have a line in which the literal of a constant stands
behind its type and its name. -/
def Prints (i : Interface) (c : Description.Constant) : Prop :=
  ∃ n ∈ i.constants, n.type.declared = c.type ∧
    (Header.targetInterface i).Has
      s!"    static constexpr {n.type.target} {c.name} = {c.literal};" ∧
    (Header.declaredInterface i).Has s!"    static const {c.type} {c.name} = {c.literal};"

theorem ofDescription_prints {d : Description.Interface} {i : Interface}
    (success : ofDescription types d = .ok i) : ∀ c ∈ d.constants, i.Prints c := by
  intro c member
  have entry : (c.type, c.name, c.literal) ∈
      i.constants.map fun n => (n.type.declared, n.name, n.value) :=
    ofDescription_constants success ▸ List.mem_map_of_mem member
  obtain ⟨n, there, same⟩ := List.mem_map.mp entry
  simp only [Prod.mk.injEq] at same
  obtain ⟨type, name, value⟩ := same
  refine ⟨n, there, type, ?_, ?_⟩
  · rw [← name, ← value, Header.targetInterface_eq]
    refine Header.ofLines_has _ (List.mem_append_right _ ?_)
    have line : Header.targetConstantLine n ∈ i.constants.map Header.targetConstantLine :=
      List.mem_map_of_mem there
    simp only [Header.targetBody, List.mem_append, List.append_assoc]
    exact .inr (.inl line)
  · rw [← type, ← name, ← value, Header.declaredInterface_eq]
    refine Header.ofLines_has _ (List.mem_append_left _ (List.mem_append_right _ ?_))
    have line : Header.declaredConstantLine n ∈ i.constants.map Header.declaredConstantLine :=
      List.mem_map_of_mem there
    simp only [Header.declaredBody, List.mem_append]
    exact .inl (.inl (.inl (.inr line)))

end Interface

/-! ## Documents -/

namespace Description
open Json

/-- Whether a text writes a description, the values of constants in any texts that are read as
them. -/
def Authored (d : Description) (document : String) : Prop :=
  (Writing.object (slotsWith Writing.held)).document d document.toList

theorem ofText_authored (authored : Authored d document) : ofText document = .ok d :=
  (serving_with undoes_held).undoes.read (by decide) authored

theorem Constant.literal_iff {c : Constant} (integer : IsInteger t)
    (held : Writing.held c.value t) : c.literal = String.ofList t ↔ Exact t := by
  obtain ⟨n, number⟩ := integer.number held
  have literal : c.literal = c.value.text := by
    rw [Constant.literal, number]
  rw [literal, ← String.toList_inj, String.toList_ofList]
  exact integer.text_iff held

/-! ## A document with one constant -/

/-- The members of an object, written without blanks, up to its closing brace. -/
def membersText : (first : Bool) → List (String × List Char) → List Char
  | _, [] => ['\x7d']
  | first, (key, value) :: ms =>
      (if first then [] else [',']) ++ ('"' :: key.toList ++ ['"'] ++ ':' :: value) ++
        membersText false ms

def objectText (ms : List (String × List Char)) : List Char := '\x7b' :: membersText true ms

/-- Whether every character of a text can stand for itself between quotes. -/
def Visible (s : String) : Prop := ∀ c ∈ s.toList, 0x20 ≤ c.toNat ∧ c ≠ '"' ∧ c ≠ '\\'

instance (s : String) : Decidable (Visible s) := List.decidableBAll _ _

theorem membersText_parts (first : Bool) (visible : ∀ key ∈ ms.map (·.1), Visible key) :
    Parts (Writing.member Eq) '\x7d' first ms (membersText first ms) := by
  induction ms generalizing first with
  | nil => exact .close Blank.nil
  | cons m ms ih =>
    obtain ⟨here, others⟩ := List.forall_mem_cons.mp visible
    have gap : Gap first (if first then [] else [',']) := by
      cases first with
      | true => exact .first Blank.nil
      | false => exact .next Blank.nil Blank.nil
    have written : Writing.member Eq m ('"' :: m.1.toList ++ ['"'] ++ ':' :: m.2) :=
      ⟨_, [], [], m.2, string_visible m.1 here, Blank.nil, Blank.nil, rfl, by simp⟩
    exact .part gap written (ih false others)

theorem objectText_writes {slots : List (Slot α)} (tells : Tells slots a ms)
    (visible : ∀ key ∈ ms.map (·.1), Visible key) : Writing.object slots a (objectText ms) :=
  ⟨ms, tells, _, membersText_parts true visible, rfl⟩

theorem singleton_writes {w : Writing α} (written : w a t) :
    w.list [a] ('[' :: t ++ [']']) :=
  ⟨_, .part (.first Blank.nil) written (.close Blank.nil), rfl⟩

def constantOf (value : List Char) : List Char :=
  objectText [("Type", "\"int\"".toList), ("Name", "\"K\"".toList), ("Value", value)]

def interfaceOf (value : List Char) : List Char :=
  objectText [("Name", "\"I\"".toList),
    ("ConstantBuffer", objectText [("Register", "7".toList)]),
    ("Consts", '[' :: constantOf value ++ [']'])]

def documentOf (value : List Char) : String :=
  String.ofList (objectText [("ShaderInputs", '[' :: interfaceOf value ++ [']'])])

def descriptionOf (v : Value) : Description :=
  ⟨none, [], [⟨"I", ⟨7, []⟩, [], [⟨"int", "K", v⟩]⟩]⟩

section
variable {w : Writing Value} (written : w v value)
include written

theorem constantOf_writes :
    Writing.object (constantSlotsWith w) ⟨"int", "K", v⟩ (constantOf value) := by
  have name : Writing.string "K" "\"K\"".toList := string_visible "K" (by simp)
  have type : Writing.string "int" "\"int\"".toList := string_visible "int" (by simp)
  have keys : ∀ key ∈ ["Type", "Name", "Value"], Visible key := by decide
  refine objectText_writes ?_ keys
  constructor <;> simp_all [constantSlotsWith]

theorem interfaceOf_writes :
    Writing.object (interfaceSlotsWith w) ⟨"I", ⟨7, []⟩, [], [⟨"int", "K", v⟩]⟩
      (interfaceOf value) := by
  have name : Writing.string "I" "\"I\"".toList := string_visible "I" (by simp)
  have buffer : Writing.object bufferSlots ⟨7, []⟩ (objectText [("Register", "7".toList)]) := by
    have register : Writing.word32 7 "7".toList := ⟨by decide, rfl⟩
    refine objectText_writes ?_ (by decide)
    constructor <;> simp_all [bufferSlots]
  have constants := singleton_writes (constantOf_writes written)
  have keys : ∀ key ∈ ["Name", "ConstantBuffer", "Consts"], Visible key := by decide
  refine objectText_writes ?_ keys
  constructor <;> simp_all [interfaceSlotsWith]

theorem documentOf_writes :
    Writing.object (slotsWith w) (descriptionOf v) (documentOf value).toList := by
  have interfaces := singleton_writes (interfaceOf_writes written)
  have keys : ∀ key ∈ ["ShaderInputs"], Visible key := by decide
  rw [documentOf, String.toList_ofList]
  refine objectText_writes ?_ keys
  constructor <;> simp_all [slotsWith, descriptionOf]

end

example : documentOf "-0".toList =
    "\x7b\"ShaderInputs\":[\x7b\"Name\":\"I\",\"ConstantBuffer\":\x7b\"Register\":7\x7d," ++
      "\"Consts\":[\x7b\"Type\":\"int\",\"Name\":\"K\",\"Value\":-0\x7d]\x7d]\x7d" := by
  decide +kernel

theorem documentOf_authored (held : Writing.held v t) :
    Authored (descriptionOf v) (documentOf t) :=
  document_bare (documentOf_writes held)

/-- A document in which an integer is the value of a constant is read, and the constant is printed
as the integer was written exactly if that can be held as it is. -/
theorem integer_printed_iff {t : List Char} (integer : IsInteger t) :
    (Exact t → ∃ v, Writing.held v t) ∧
    ∀ d document, Authored d document → ofText document = .ok d ∧
      ∀ i ∈ d.interfaces, ∀ c ∈ i.constants, Writing.held c.value t →
        (c.literal = String.ofList t ↔ Exact t) ∧
        ∀ types shown, Interface.ofDescription types i = .ok shown → shown.Prints c := by
  refine ⟨fun fits => ⟨_, held_literal (fits.literal integer)⟩, fun d document authored => ?_⟩
  refine ⟨ofText_authored authored, fun i _ c member held => ?_⟩
  exact ⟨Constant.literal_iff integer held,
    fun types shown success => Interface.ofDescription_prints success c member⟩

theorem greatest_word_printed :
    let t := "18446744073709551615".toList
    let v : Value := .number (.integer 18446744073709551615)
    IsInteger t ∧ Authored (descriptionOf v) (documentOf t) ∧ Writing.held v t ∧
      ofText (documentOf t) = .ok (descriptionOf v) ∧
      Constant.literal ⟨"int", "K", v⟩ = "18446744073709551615" := by
  intro t v
  have digits : ∀ c ∈ t, c.isDigit := List.all_eq_true.mp rfl
  have integer : IsInteger t := ⟨[], by decide, t, .inr ⟨⟨by decide, digits⟩, by decide⟩, rfl⟩
  have fits : Exact t := ⟨by decide, by decide, by decide⟩
  have held : Writing.held v t := held_literal (fits.literal integer)
  have authored := documentOf_authored held
  obtain ⟨read, printed⟩ := (integer_printed_iff integer).2 _ _ authored
  have literal := (printed _ List.mem_cons_self ⟨"int", "K", v⟩ List.mem_cons_self held).1
  exact ⟨integer, authored, held, read, literal.mpr fits⟩

/-- A zero with a sign is printed with a point, which makes it another literal. -/
theorem minusZero_printed :
    let t := "-0".toList
    let v : Value := .number (.binary (Decimal.Binary64.zero true))
    let d : Interface := ⟨"I", ⟨7, []⟩, [], [⟨"int", "K", v⟩]⟩
    let shown : ShaderVariants.Interface :=
      ⟨"I", .blank "I" 7, [], [⟨⟨"int", "int32_t", 4⟩, "K", "-0.0"⟩], []⟩
    IsInteger t ∧ ofText (documentOf t) = .ok ⟨none, [], [d]⟩ ∧
      Constant.literal ⟨"int", "K", v⟩ ≠ String.ofList t ∧
      Interface.ofDescription .empty d = .ok shown ∧
      (Header.targetInterface shown).Has "    static constexpr int32_t K = -0.0;" ∧
      (Header.declaredInterface shown).Has "    static const int K = -0.0;" := by
  intro t v d shown
  have integer : IsInteger t := ⟨['-'], by decide, ['0'], .inl rfl, rfl⟩
  have read : ofText (documentOf t) = .ok ⟨none, [], [d]⟩ :=
    ofText_authored (documentOf_authored held_minusZero)
  have literal : Constant.literal ⟨"int", "K", v⟩ = "-0.0" := by decide
  have success : Interface.ofDescription .empty d = .ok shown := by decide +kernel
  obtain ⟨n, there, _, target, declared⟩ :=
    Interface.ofDescription_prints success ⟨"int", "K", v⟩ List.mem_cons_self
  obtain rfl := List.mem_singleton.mp there
  exact ⟨integer, read, by rw [literal]; decide, success, target, declared⟩

end Description
end ShaderVariants
