import ShaderVariants.Proofs.Expansion

/-!
Scopes under any sequence of calls. Built-in types and registered structures are kept apart, yet
all that is told of them is told by one map from names to types, in which a name keeps the first
type that it is given. So what is told of a name depends on the first registration of it alone, and
what is known once stays as it is.
-/

namespace ShaderVariants.TypeScope

/-! ## Calls -/

inductive Call where
  | register (name : String) (size : Nat)
  | lookup (name : String)
  | isStructure (name : String)
  deriving DecidableEq, Repr

inductive Reply where
  | registered
  | type (found : ValueType)
  | verdict (structured : Bool)
  deriving DecidableEq, Repr

abbrev Answer := Except Fault Reply

/-- Registers a structure in place. What is written before a refusal would stay written. -/
def enter (name : String) (size : Nat) : EStateM Fault TypeScope Unit := do
  let types ← get
  if (ValueType.builtin? name).isSome || types.isStructure name then
    throw (.duplicateName .shared name)
  else modify fun types => ⟨types.structures ++ [(name, size)]⟩

def ask (types : TypeScope) : Call → Answer × TypeScope
  | .register name size =>
      match enter name size types with
      | .ok () later => (.ok .registered, later)
      | .error fault left => (.error fault, left)
  | .lookup name => ((types.lookup name).map .type, types)
  | .isStructure name => (.ok (.verdict (types.isStructure name)), types)

abbrev Transcript := List (Call × Answer)

section
variable {σ τ : Type}

/-- Makes calls one after the other, by a function that answers one of them. -/
def transcript (answer : σ → Call → Answer × σ) : σ → List Call → Transcript
  | _, [] => []
  | s, c :: calls => (c, (answer s c).1) :: transcript answer (answer s c).2 calls

theorem transcript_calls (answer : σ → Call → Answer × σ) (calls : List Call) (s : σ) :
    (transcript answer s calls).map (·.1) = calls := by
  induction calls generalizing s with
  | nil => rfl
  | cons c calls ih => rw [transcript, List.map_cons, ih]

/-- Where one call keeps two states alike and is answered alike, so are all calls. -/
theorem transcript_eq {first : σ → Call → Answer × σ} {second : τ → Call → Answer × τ}
    {Alike : σ → τ → Prop}
    (step : ∀ s t c, Alike s t →
      (first s c).1 = (second t c).1 ∧ Alike (first s c).2 (second t c).2)
    (calls : List Call) {s : σ} {t : τ} (start : Alike s t) :
    transcript first s calls = transcript second t calls := by
  induction calls generalizing s t with
  | nil => rfl
  | cons c calls ih =>
    obtain ⟨answers, later⟩ := step s t c start
    rw [transcript, transcript, answers, ih later]

end

/-! ## One map -/

abbrev Naming := String → Option ValueType

namespace Naming

def give (known : Naming) (name : String) (type : ValueType) : Naming :=
  Function.update known name ((known name).or (some type))

def reply (known : Naming) : Call → Answer
  | .register name _ =>
      if (known name).isNone then .ok .registered else .error (.duplicateName .shared name)
  | .lookup name =>
      match known name with
      | some type => .ok (.type type)
      | none => .error (.unknownType name)
  | .isStructure name =>
      .ok (.verdict ((known name).isSome && (ValueType.builtin? name).isNone))

def next (known : Naming) : Call → Naming
  | .register name size => known.give name ⟨name, name, size⟩
  | _ => known

def answer (known : Naming) (c : Call) : Answer × Naming := (known.reply c, known.next c)

theorem give_of_new {known : Naming} {name : String} (new : known name = none)
    (type : ValueType) : known.give name type = Function.update known name (some type) := by
  rw [give, new, Option.none_or]

theorem give_of_known {known : Naming} {name : String} {own : ValueType}
    (there : known name = some own) (type : ValueType) : known.give name type = known := by
  rw [give, there, Option.some_or, ← there, Function.update_eq_self]

end Naming

/-! ## A scope as a map -/

section
variable {types : TypeScope}

theorem enter_eq_register (types : TypeScope) (name : String) (size : Nat) :
    enter name size types = match types.register name size with
      | .ok later => .ok () later
      | .error fault => .error fault types := by
  show (if (ValueType.builtin? name).isSome || types.isStructure name then
    throw (.duplicateName .shared name)
    else modify fun types : TypeScope => ⟨types.structures ++ [(name, size)]⟩ :
      EStateM Fault TypeScope Unit) types = _
  rw [register]
  split <;> rfl

theorem find?_isSome (types : TypeScope) (name : String) : (types.find? name).isSome =
    ((ValueType.builtin? name).isSome || types.isStructure name) := by
  cases builtin : ValueType.builtin? name with
  | some own =>
    rw [find?, builtin]
    rfl
  | none =>
    rw [find?_of_plain builtin, Option.isSome_map, isStructure]
    rfl

theorem ask_register (types : TypeScope) (name : String) (size : Nat) :
    types.ask (.register name size) = match types.register name size with
      | .ok later => (.ok .registered, later)
      | .error fault => (.error fault, types) := by
  rw [ask, enter_eq_register]
  cases types.register name size <;> rfl

theorem register_eq (types : TypeScope) (name : String) (size : Nat) :
    types.register name size =
      if (types.find? name).isNone then .ok ⟨types.structures ++ [(name, size)]⟩
      else .error (.duplicateName .shared name) := by
  rw [register, ← find?_isSome]
  cases types.find? name <;> rfl

theorem plain_of_unknown {name : String} (unknown : types.find? name = none) :
    ValueType.builtin? name = none ∧ types.structureSize? name = none := by
  have absent := find?_isSome types name
  rw [unknown, Option.isSome_none, eq_comm, Bool.or_eq_false_iff, isStructure] at absent
  exact ⟨by simpa using absent.1, by simpa using absent.2⟩

/-- A structure that is registered anew is found under its name, and nothing else changes. -/
theorem find?_append {name : String} (new : types.find? name = none) (size : Nat) :
    (⟨types.structures ++ [(name, size)]⟩ : TypeScope).find? =
      Function.update types.find? name (some ⟨name, name, size⟩) := by
  obtain ⟨plain, fresh⟩ := plain_of_unknown new
  funext other
  by_cases same : other = name
  · subst same
    rw [Function.update_self, find?_of_plain plain, structureSize?, List.lookup_append,
      ← structureSize?, fresh, Option.none_or, List.lookup_cons_self]
    rfl
  · have apart : (other == name) = false := beq_eq_false_iff_ne.mpr same
    rw [Function.update_of_ne same, find?, find?, structureSize?, List.lookup_append,
      ← structureSize?, List.lookup_cons, apart, List.lookup_nil, Option.or_none]

/-- Whether a map has all that can be found in a scope. -/
structure Shows (types : TypeScope) (known : Naming) : Prop where
  proper : types.Proper
  found : types.find? = known

theorem empty_shows : empty.Shows ValueType.builtin? where
  proper := empty_proper
  found := by
    funext name
    rw [find?]
    cases ValueType.builtin? name <;> rfl

theorem Proper.isStructure_eq (proper : types.Proper) (name : String) : types.isStructure name =
    ((types.find? name).isSome && (ValueType.builtin? name).isNone) := by
  rw [find?_isSome]
  cases structured : types.isStructure name with
  | true =>
    rw [proper name structured]
    rfl
  | false => cases ValueType.builtin? name <;> rfl

/-- A call to a scope is answered as one to the map that it shows, and what they then come to is
again a scope and its map. -/
theorem Shows.ask {known : Naming} (shows : types.Shows known) (c : Call) :
    (types.ask c).1 = (known.answer c).1 ∧ (types.ask c).2.Shows (known.answer c).2 := by
  obtain ⟨proper, rfl⟩ := shows
  cases c with
  | register name size =>
    have registration := register_eq types name size
    rw [ask_register, Naming.answer, Naming.reply, Naming.next]
    cases found : types.find? name with
    | none =>
      rw [found, Option.isNone_none, if_pos rfl] at registration
      rw [registration, Naming.give_of_new found]
      exact ⟨rfl, register_proper registration proper, find?_append found size⟩
    | some own =>
      rw [found, Option.isNone_some, if_neg Bool.false_ne_true] at registration
      rw [registration, Naming.give_of_known found]
      exact ⟨rfl, proper, rfl⟩
  | lookup name =>
    refine ⟨?_, proper, rfl⟩
    rw [TypeScope.ask, lookup, Naming.answer, Naming.reply]
    cases types.find? name <;> rfl
  | isStructure name =>
    refine ⟨?_, proper, rfl⟩
    rw [TypeScope.ask, proper.isStructure_eq]
    rfl

end

/-! ## What is told of names -/

def Registers (log : Transcript) (name : String) (size : Nat) : Prop :=
  (.register name size, .ok .registered) ∈ log

def Free (log : Transcript) (name : String) : Prop :=
  ValueType.builtin? name = none ∧ ∀ size, ¬ Registers log name size

/-- Which answer is due to a call after others with their answers. -/
def Due (log : Transcript) : Call → Answer → Prop
  | .register name _, answer =>
      (answer = .ok .registered ↔ Free log name) ∧
        (answer = .error (.duplicateName .shared name) ↔ ¬ Free log name)
  | .lookup name, answer =>
      (∀ type, answer = .ok (.type type) ↔ ValueType.builtin? name = some type ∨
        ∃ size, Registers log name size ∧ type = ⟨name, name, size⟩) ∧
        (answer = .error (.unknownType name) ↔ Free log name)
  | .isStructure name, answer =>
      ∃ structured, answer = .ok (.verdict structured) ∧
        (structured = true ↔ ∃ size, Registers log name size)

/-- Whether every answer is the one that is due after those before it. -/
def FirstWins (log : Transcript) : Prop :=
  ∀ earlier c answer later, log = earlier ++ (c, answer) :: later → Due earlier c answer

theorem registers_concat {log : Transcript} {c : Call} {answer : Answer} {name : String}
    {size : Nat} : Registers (log ++ [(c, answer)]) name size ↔ Registers log name size ∨
      c = .register name size ∧ answer = .ok .registered := by
  rw [Registers, List.mem_append, List.mem_singleton, Prod.mk.injEq, Registers,
    eq_comm (b := c), eq_comm (b := answer)]

theorem Registers.mono {log : Transcript} {name : String} {size : Nat}
    (registered : Registers log name size) (more : Transcript) :
    Registers (log ++ more) name size :=
  List.mem_append_left _ registered

/-- Whether a map has the built-in types and the structures registered so far. -/
structure Tells (log : Transcript) (known : Naming) : Prop where
  plain : ∀ name size, Registers log name size → ValueType.builtin? name = none
  types : ∀ name type, known name = some type ↔ ValueType.builtin? name = some type ∨
    ∃ size, Registers log name size ∧ type = ⟨name, name, size⟩

theorem tells_nil : Tells [] ValueType.builtin? where
  plain := nofun
  types := by
    intro name type
    rw [or_iff_left]
    rintro ⟨_, registered, _⟩
    cases registered

section
variable {log : Transcript} {known : Naming}

theorem Tells.free_iff (tells : Tells log known) (name : String) :
    known name = none ↔ Free log name := by
  rw [Option.eq_none_iff_forall_ne_some, Free, Option.eq_none_iff_forall_ne_some]
  constructor
  · intro unknown
    refine ⟨fun type builtin => unknown type ((tells.types name type).mpr (Or.inl builtin)), ?_⟩
    intro size registered
    exact unknown _ ((tells.types name _).mpr (Or.inr ⟨size, registered, rfl⟩))
  · rintro ⟨plain, fresh⟩ type there
    rcases (tells.types name type).mp there with builtin | ⟨size, registered, _⟩
    · exact plain type builtin
    · exact fresh size registered

theorem Tells.due (tells : Tells log known) (c : Call) : Due log c (known.reply c) := by
  cases c with
  | register name size =>
    rw [Due, ← tells.free_iff, Naming.reply]
    cases known name with
    | none => simp
    | some own => simp
  | lookup name =>
    rw [Due, ← tells.free_iff, Naming.reply]
    constructor
    · intro type
      rw [← tells.types]
      cases known name <;> simp
    · cases known name <;> simp
  | isStructure name =>
    refine ⟨_, rfl, ?_⟩
    rw [Bool.and_eq_true, Option.isSome_iff_exists, Option.isNone_iff_eq_none]
    constructor
    · rintro ⟨⟨type, there⟩, plain⟩
      rcases (tells.types name type).mp there with builtin | ⟨size, registered, _⟩
      · cases plain.symm.trans builtin
      · exact ⟨size, registered⟩
    · rintro ⟨size, registered⟩
      exact ⟨⟨_, (tells.types name _).mpr (Or.inr ⟨size, registered, rfl⟩)⟩,
        tells.plain name size registered⟩

theorem Tells.unchanged (tells : Tells log known) {c : Call} {answer : Answer}
    (other : answer ≠ .ok .registered) : Tells (log ++ [(c, answer)]) known := by
  have same (name : String) (size : Nat) :
      Registers (log ++ [(c, answer)]) name size ↔ Registers log name size := by
    rw [registers_concat, or_iff_left fun added => other added.2]
  constructor
  · intro name size registered
    exact tells.plain name size ((same name size).mp registered)
  · intro name type
    simp only [same]
    exact tells.types name type

theorem Tells.registered (tells : Tells log known) {name : String} (new : known name = none)
    (size : Nat) : Tells (log ++ [(.register name size, .ok .registered)])
      (Function.update known name (some ⟨name, name, size⟩)) := by
  obtain ⟨plain, fresh⟩ := (tells.free_iff name).mp new
  have added (n : String) (s : Nat) :
      Registers (log ++ [(.register name size, .ok .registered)]) n s ↔
        Registers log n s ∨ name = n ∧ size = s := by
    rw [registers_concat, Call.register.injEq, and_iff_left rfl]
  constructor
  · intro n s registered
    rcases (added n s).mp registered with before | ⟨rfl, _⟩
    · exact tells.plain n s before
    · exact plain
  · intro n type
    simp only [added]
    by_cases same : n = name
    · subst same
      rw [Function.update_self, plain, Option.some_inj]
      constructor
      · rintro rfl
        exact Or.inr ⟨size, Or.inr ⟨rfl, rfl⟩, rfl⟩
      · rintro (builtin | ⟨s, before | ⟨_, rfl⟩, rfl⟩)
        · cases builtin
        · exact absurd before (fresh s)
        · rfl
    · rw [Function.update_of_ne same, tells.types]
      simp only [Ne.symm same, false_and, or_false]

theorem Tells.next (tells : Tells log known) (c : Call) :
    Tells (log ++ [(c, known.reply c)]) (known.next c) := by
  cases c with
  | register name size =>
    rw [Naming.reply, Naming.next]
    cases there : known name with
    | none =>
      rw [Naming.give_of_new there]
      exact tells.registered there size
    | some own =>
      rw [Naming.give_of_known there]
      exact tells.unchanged nofun
  | lookup name =>
    apply tells.unchanged
    rw [Naming.reply]
    cases known name <;> nofun
  | isStructure name => exact tells.unchanged nofun

theorem Tells.transcript_due (tells : Tells log known) {calls : List Call} {earlier : Transcript}
    {c : Call} {answer : Answer} {later : Transcript}
    (whole : transcript Naming.answer known calls = earlier ++ (c, answer) :: later) :
    Due (log ++ earlier) c answer := by
  induction calls generalizing log known earlier with
  | nil => simp [transcript] at whole
  | cons first calls ih =>
    rw [transcript] at whole
    cases earlier with
    | nil =>
      cases whole
      rw [List.append_nil]
      exact tells.due c
    | cons entry earlier =>
      obtain ⟨rfl, rest⟩ := List.cons.inj whole
      rw [List.append_cons]
      exact ih (tells.next first) rest

/-! ## What follows for whole runs -/

theorem FirstWins.free {name : String} {size : Nat} {earlier later : Transcript}
    (wins : FirstWins log)
    (whole : log = earlier ++ (.register name size, .ok .registered) :: later) :
    Free earlier name :=
  (wins _ _ _ _ whole).1.mp rfl

theorem FirstWins.plain {name : String} {size : Nat} (wins : FirstWins log)
    (registered : Registers log name size) : ValueType.builtin? name = none := by
  obtain ⟨earlier, later, whole⟩ := List.append_of_mem registered
  exact (wins.free whole).1

/-- Ahead of the registration that is accepted there is no other one of the name. -/
theorem FirstWins.first {name : String} {size other : Nat} {answer : Answer}
    {earlier later : Transcript} (wins : FirstWins log)
    (whole : log = earlier ++ (.register name size, .ok .registered) :: later) :
    (.register name other, answer) ∉ earlier := by
  intro member
  obtain ⟨plain, fresh⟩ := wins.free whole
  obtain ⟨before, between, rfl⟩ := List.append_of_mem member
  -- It would have been accepted, as nothing before it is in its way either.
  have free : Free before name := ⟨plain, fun s registered => fresh s (registered.mono _)⟩
  rw [List.append_assoc] at whole
  have accepted : answer = .ok .registered := (wins _ _ _ _ whole).1.mpr free
  subst accepted
  exact fresh other member

theorem FirstWins.lasting {name : String} {type : ValueType} {answer : Answer}
    {earlier later : Transcript} (wins : FirstWins log)
    (whole : log = earlier ++ (.lookup name, .ok (.type type)) :: later)
    (again : (.lookup name, answer) ∈ later) : answer = .ok (.type type) := by
  have known := ((wins _ _ _ _ whole).1 type).mp rfl
  obtain ⟨between, rest, rfl⟩ := List.append_of_mem again
  rw [List.append_cons, ← List.append_assoc] at whole
  refine ((wins _ _ _ _ whole).1 type).mpr (known.imp_right ?_)
  rintro ⟨size, registered, rfl⟩
  exact ⟨size, (registered.mono _).mono _, rfl⟩

end

theorem ask_keeps {types : TypeScope} {c : Call} (other : (types.ask c).1 ≠ .ok .registered) :
    (types.ask c).2 = types := by
  cases c with
  | register name size =>
    rw [ask_register] at other ⊢
    split at other
    case h_1 => exact absurd rfl other
    case h_2 => rfl
  | lookup name => rfl
  | isStructure name => rfl

/-- Whatever is asked of a scope that starts out empty, the answers are those of one map that has
the built-in types and in which the first registration of a name stands. So an accepted
registration is the first one of a name that is not built in, every other call changes nothing, and
a type that is found once is found ever after. -/
theorem first_registration_stands (calls : List Call) :
    let log := transcript ask empty calls
    log.map (·.1) = calls ∧
      log = transcript Naming.answer ValueType.builtin? calls ∧
      FirstWins log ∧
      (∀ name size, Registers log name size → ValueType.builtin? name = none) ∧
      (∀ earlier name size later,
        log = earlier ++ (.register name size, .ok .registered) :: later →
          ∀ other answer, (.register name other, answer) ∉ earlier) ∧
      (∀ earlier name type later, log = earlier ++ (.lookup name, .ok (.type type)) :: later →
        ∀ answer, (.lookup name, answer) ∈ later → answer = .ok (.type type)) ∧
      (∀ types name size, ask types (.register name size) = match types.register name size with
        | .ok later => (.ok .registered, later)
        | .error fault => (.error fault, types)) ∧
      ∀ types c, (ask types c).1 ≠ .ok .registered → (ask types c).2 = types := by
  intro log
  have same : log = transcript Naming.answer ValueType.builtin? calls :=
    transcript_eq (fun _ _ c shows => shows.ask c) calls empty_shows
  have wins : FirstWins log := by
    intro earlier c answer later whole
    exact tells_nil.transcript_due (same.symm.trans whole)
  exact ⟨transcript_calls ask calls empty, same, wins, fun _ _ => wins.plain,
    fun _ _ _ _ whole _ _ => wins.first whole, fun _ _ _ _ whole _ => wins.lasting whole,
    ask_register, fun _ _ => ask_keeps⟩

/-- A registration that is refused leaves the size as it is. -/
example : (transcript ask empty [.register "Particle" 32, .register "Particle" 48,
    .lookup "Particle"]).map (·.2) = [.ok .registered,
    .error (.duplicateName .shared "Particle"), .ok (.type ⟨"Particle", "Particle", 32⟩)] := by
  decide +kernel

end ShaderVariants.TypeScope
