import ShaderVariants.Proofs.Verdicts

/-!
What the two faults of numbers tell: too many defines in a stage, and a bit that stands for no
define. Rules are made before defines are counted, and they refuse the bits beyond a key as well. So
a stage with too many defines is told of unless there is a bit that a rule refuses, and a bit that
is refused stands for no define unless its stage has too many of them.
-/

namespace ShaderVariants

def Description.Defines.Crowded (ds : Defines) : Prop := maxDefines < ds.names.length

/-- Whether a rule of a stage has a bit that stands for no define, or for one that no key has. -/
def Description.Defines.Astray (ds : Defines) : Prop :=
  ∃ r ∈ ds.rules, ∃ bit ∈ r.bits, min ds.names.length maxDefines ≤ bit

namespace Description.Shader
variable {d : Description.Shader} (distinct : (d.defines.map (·.1)).Nodup)
include distinct

theorem definesAt_of_mem {stage : Stage} {ds : Defines} (member : (stage.name, ds) ∈ d.defines) :
    d.definesAt stage = ds := by
  obtain ⟨before, after, whole⟩ := List.append_of_mem member
  have first : ∀ e ∈ before, stage.name != e.1 := by
    intro e inside
    rw [whole, List.map_append, List.map_cons] at distinct
    have apart := (List.nodup_append.mp distinct).2.2 e.1 (List.mem_map_of_mem inside)
      stage.name List.mem_cons_self
    exact bne_iff_ne.mpr apart.symm
  rw [definesAt, List.lookup_eq_some_iff.mpr ⟨before, after, whole, first⟩, Option.getD_some]

/-- What the stages with an entry point have in their defines is in the defines that are given. -/
theorem exists_present_iff (placed : ∀ name ∈ d.defines.map (·.1), d.Places name)
    {P : Defines → Prop} (none : ¬P ⟨[], []⟩) :
    (∃ stage ∈ d.present, P (d.definesAt stage)) ↔ ∃ e ∈ d.defines, P e.2 := by
  constructor
  · rintro ⟨stage, _, holds⟩
    cases found : d.defines.lookup stage.name with
    | none =>
      rw [definesAt, found, Option.getD_none] at holds
      exact absurd holds none
    | some ds =>
      rw [definesAt, found, Option.getD_some] at holds
      obtain ⟨before, after, whole, _⟩ := List.lookup_eq_some_iff.mp found
      exact ⟨_, whole ▸ List.mem_append_right before List.mem_cons_self, holds⟩
  · rintro ⟨⟨name, ds⟩, member, holds⟩
    obtain ⟨stage, rfl, entry⟩ := placed name (List.mem_map_of_mem member)
    have listed : stage ∈ Stage.all := by cases stage <;> decide
    refine ⟨stage, List.mem_filter.mpr ⟨listed, entry⟩, ?_⟩
    rwa [definesAt_of_mem distinct member]

end Description.Shader

namespace Shader

/-- Whether the faults of numbers in a description are told truly: that of too many defines wherever
a stage has them, and that of a bit only where it stands for no define. -/
structure Truthful (d : Description.Shader) : Prop where
  defines : (∃ e ∈ d.defines, maxDefines < e.2.names.length) →
    ∃ stage count, ofDescription d = .error (.tooManyDefines d.name stage count)
  bits : ∀ bit count, ofDescription d = .error (.ruleBitOutOfRange bit count) → ¬bit < count

section
variable {d : Description.Shader} (distinct : (d.defines.map (·.1)).Nodup)
  (placed : ∀ name ∈ d.defines.map (·.1), d.Places name)
include distinct placed

theorem ofDescription_astray (astray : ∃ e ∈ d.defines, e.2.Astray) :
    ∃ e ∈ d.defines, ∃ bit, min e.2.names.length maxDefines ≤ bit ∧
      ofDescription d = .error (.ruleBitOutOfRange bit e.2.names.length) := by
  obtain ⟨stage, present, r, rule, bit, member, large⟩ :=
    (Description.Shader.exists_present_iff distinct placed
      (by simp [Description.Defines.Astray])).mpr astray
  have somewhere : ∃ b ∈ d.ruleBits, beyond b = true :=
    ⟨(bit, (d.definesAt stage).names.length), List.mem_flatMap.mpr ⟨stage, present,
      List.mem_flatMap.mpr ⟨r, rule, List.mem_map_of_mem member⟩⟩, by simpa [beyond] using large⟩
  obtain ⟨⟨first, count⟩, found⟩ := Option.isSome_iff_exists.mp (List.find?_isSome.mpr somewhere)
  have refused : min count maxDefines ≤ first := by
    simpa [beyond] using List.find?_some found
  obtain ⟨stage, present, inside⟩ := List.mem_flatMap.mp (List.mem_of_find?_eq_some found)
  obtain ⟨r, rule, there⟩ := List.mem_flatMap.mp inside
  obtain ⟨_, _, same⟩ := List.mem_map.mp there
  -- The number of defines that is told is that of a stage that is given.
  obtain ⟨e, listed, counted, _⟩ := (Description.Shader.exists_present_iff distinct placed
    (P := fun ds => ds.names.length = count ∧ ds.rules ≠ []) (by simp)).mp
      ⟨stage, present, (Prod.mk.inj same).2, List.ne_nil_of_mem rule⟩
  subst counted
  exact ⟨e, listed, first, refused, ofDescription_beyond placed found⟩

theorem below_of_not_astray (none : ¬∃ e ∈ d.defines, e.2.Astray) :
    ∀ b ∈ d.ruleBits, b.1 < min b.2 maxDefines := by
  intro b inside
  by_contra large
  obtain ⟨stage, present, inside⟩ := List.mem_flatMap.mp inside
  obtain ⟨r, rule, there⟩ := List.mem_flatMap.mp inside
  obtain ⟨bit, member, rfl⟩ := List.mem_map.mp there
  exact none ((Description.Shader.exists_present_iff distinct placed
    (by simp [Description.Defines.Astray])).mp
      ⟨stage, present, r, rule, bit, member, not_lt.mp large⟩)

theorem ofDescription_crowded (none : ¬∃ e ∈ d.defines, e.2.Astray)
    (crowded : ∃ e ∈ d.defines, e.2.Crowded) :
    ∃ stage count, ofDescription d = .error (.tooManyDefines d.name stage count) := by
  obtain ⟨stage, present, many⟩ :=
    (Description.Shader.exists_present_iff distinct placed
      (by simp [Description.Defines.Crowded])).mpr crowded
  have somewhere : (d.present.find? fun stage =>
      maxDefines < (d.definesAt stage).names.length).isSome :=
    List.find?_isSome.mpr ⟨stage, present, decide_eq_true many⟩
  obtain ⟨first, found⟩ := Option.isSome_iff_exists.mp somewhere
  exact ⟨_, _, ofDescription_many placed (below_of_not_astray distinct placed none) found⟩

theorem ofDescription_accepted (none : ¬∃ e ∈ d.defines, e.2.Astray)
    (few : ¬∃ e ∈ d.defines, e.2.Crowded) : ∃ s, ofDescription d = .ok s := by
  have fits : ∀ stage ∈ d.present, (d.definesAt stage).names.length ≤ maxDefines := by
    intro stage present
    by_contra many
    exact few ((Description.Shader.exists_present_iff distinct placed
      (by simp [Description.Defines.Crowded])).mp ⟨stage, present, not_le.mp many⟩)
  obtain ⟨s, accepted, _⟩ :=
    ofDescription_describes placed (below_of_not_astray distinct placed none) fits
  exact ⟨s, accepted⟩

/-- The faults of numbers are told truly exactly if no stage has too many defines or no rule has a
bit that is refused. A bit that is told of although it stands for a define is beyond those of a key,
in a stage with too many defines. -/
theorem truthful_iff :
    (Truthful d ↔ ¬((∃ e ∈ d.defines, maxDefines < e.2.names.length) ∧
      ∃ e ∈ d.defines, ∃ r ∈ e.2.rules, ∃ bit ∈ r.bits, min e.2.names.length maxDefines ≤ bit)) ∧
    ∀ bit count, ofDescription d = .error (.ruleBitOutOfRange bit count) → bit < count →
      maxDefines ≤ bit ∧ ∃ e ∈ d.defines, maxDefines < e.2.names.length := by
  by_cases astray : ∃ e ∈ d.defines, e.2.Astray
  · obtain ⟨e, listed, bit, refused, told⟩ := ofDescription_astray distinct placed astray
    refine ⟨⟨?_, ?_⟩, ?_⟩
    · rintro truthful ⟨crowded, _⟩
      obtain ⟨stage, count, other⟩ := truthful.defines crowded
      rw [told] at other
      cases other
    · intro apart
      have few : ¬∃ e ∈ d.defines, maxDefines < e.2.names.length := fun many => apart ⟨many, astray⟩
      refine ⟨fun many => absurd many few, fun bit count here => ?_⟩
      rw [told] at here
      cases here
      have fits : ¬maxDefines < e.2.names.length := fun many => few ⟨e, listed, many⟩
      omega
    · intro bit count here below
      rw [told] at here
      cases here
      exact ⟨by omega, e, listed, by omega⟩
  · have quiet : ∀ bit count, ofDescription d ≠ .error (.ruleBitOutOfRange bit count) := by
      intro bit count here
      by_cases crowded : ∃ e ∈ d.defines, e.2.Crowded
      · obtain ⟨_, _, told⟩ := ofDescription_crowded distinct placed astray crowded
        rw [told] at here
        cases here
      · obtain ⟨_, accepted⟩ := ofDescription_accepted distinct placed astray crowded
        rw [accepted] at here
        cases here
    exact ⟨⟨fun _ both => astray both.2, fun _ => ⟨ofDescription_crowded distinct placed astray,
      fun bit count here => absurd here (quiet bit count)⟩⟩,
      fun bit count here => absurd here (quiet bit count)⟩

end

theorem truthful_last_bit :
    let d : Description.Shader := ⟨"Sky", "Sky.hlsl",
      ⟨none, none, none, none, some "PSMain", none⟩,
      [("Pixel", ⟨List.replicate 33 "FOG", [⟨.anyBitSet, [0, 31]⟩]⟩)]⟩
    (d.defines.map (·.1)).Nodup ∧ (∀ name ∈ d.defines.map (·.1), d.Places name) ∧ Truthful d ∧
      ∃ stage count, ofDescription d = .error (.tooManyDefines "Sky" stage count) := by
  intro d
  have distinct : (d.defines.map (·.1)).Nodup := by decide
  have placed : ∀ name ∈ d.defines.map (·.1), d.Places name := by
    intro name member
    cases List.mem_singleton.mp member
    exact ⟨.pixel, rfl, rfl⟩
  have apart : ¬((∃ e ∈ d.defines, maxDefines < e.2.names.length) ∧
      ∃ e ∈ d.defines, ∃ r ∈ e.2.rules, ∃ bit ∈ r.bits, min e.2.names.length maxDefines ≤ bit) := by
    decide
  have truthful := (truthful_iff distinct placed).1.mpr apart
  exact ⟨distinct, placed, truthful, truthful.defines (by decide)⟩

/-- A bit is told of as if it stood for no define, where it stands for the last of too many. -/
theorem last_define_told_missing :
    let d : Description.Shader := ⟨"Sky", "Sky.hlsl",
      ⟨none, none, none, none, some "PSMain", none⟩,
      [("Pixel", ⟨List.replicate 33 "FOG", [⟨.anyBitSet, [32]⟩]⟩)]⟩
    (∀ name ∈ d.defines.map (·.1), d.Places name) ∧
      (∃ e ∈ d.defines, maxDefines < e.2.names.length) ∧
      ofDescription d = .error (.ruleBitOutOfRange 32 33) ∧
      Fault.message (.ruleBitOutOfRange 32 33) =
        "permutation rule affects bit 32, but only 33 defines exist" ∧ ¬Truthful d := by
  intro d
  have placed : ∀ name ∈ d.defines.map (·.1), d.Places name := by
    intro name member
    cases List.mem_singleton.mp member
    exact ⟨.pixel, rfl, rfl⟩
  have told : ofDescription d = .error (.ruleBitOutOfRange 32 33) :=
    ofDescription_beyond placed rfl
  exact ⟨placed, by decide, told, by decide, fun truthful => truthful.bits 32 33 told (by decide)⟩

end Shader
end ShaderVariants
