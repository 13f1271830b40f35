import ShaderVariants.Proofs.Jobs
import ShaderVariants.Proofs.Registry

/-!
The names that jobs give to compiled headers and to the arrays in them. Names are words joined by
underscores, those of the shader and then those of the defines, so two jobs share their names
exactly if they belong to one stage and have the same words. Names of shaders and defines may
have underscores of their own, so different jobs can have the same words.
-/

namespace ShaderVariants

/-! ## Words of a name -/

/-- What is between the underscores of a name. -/
def wordsOf (name : String) : List (List Char) := name.toList.splitOn '_'

theorem wordsOf_injective {name other : String} (same : wordsOf name = wordsOf other) :
    name = other := by
  have joined := congrArg (['_'].intercalate ·) same
  simp only [wordsOf, List.intercalate_splitOn] at joined
  exact String.toList_inj.mp joined

theorem wordsOf_plain {name : String} (plain : '_' ∉ name.toList) : wordsOf name = [name.toList] :=
  List.splitOn_eq_singleton plain

theorem wordsOf_append (front back : String) :
    wordsOf (front ++ "_" ++ back) = wordsOf front ++ wordsOf back := by
  have chars : (front ++ "_" ++ back).toList = front.toList ++ '_' :: back.toList := by
    rw [String.toList_append, String.toList_append, List.append_assoc]
    rfl
  rw [wordsOf, chars, List.splitOn_append_cons_self]
  rfl

theorem wordsOf_intercalate (names : List String) (nonempty : names ≠ []) :
    wordsOf (String.intercalate "_" names) = names.flatMap wordsOf := by
  induction names with
  | nil => exact absurd rfl nonempty
  | cons name rest ih =>
    cases rest with
    | nil => rw [String.intercalate_singleton, List.flatMap_singleton]
    | cons next rest =>
      rw [String.intercalate_cons_cons, wordsOf_append, ih (List.cons_ne_nil next rest)]
      rfl

theorem flatMap_wordsOf_plain (names : List String) (plain : ∀ name ∈ names, '_' ∉ name.toList) :
    names.flatMap wordsOf = names.map String.toList := by
  induction names with
  | nil => rfl
  | cons name rest ih =>
    rw [List.flatMap_cons, wordsOf_plain (plain name List.mem_cons_self),
      ih fun other member => plain other (List.mem_cons_of_mem _ member)]
    rfl

/-! ## Names of jobs -/

/-- The words of a job: those of its shader, and those of its defines or else `BASE`. -/
def Job.words (j : Job) : List (List Char) :=
  wordsOf j.shader ++
    if j.defines = [] then ["BASE".toList] else j.defines.flatMap wordsOf

theorem Variant.wordsOf_nameOf (key : Key) (defines : List String)
    (few : defines.length ≤ maxDefines) (small : key.mask < 2 ^ defines.length) :
    wordsOf (nameOf key defines) =
      if definesOf key defines = [] then ["BASE".toList]
      else (definesOf key defines).flatMap wordsOf := by
  have base := definesOf_eq_nil_iff key defines few small
  by_cases zero : key = .base
  · have name : nameOf .base defines = "BASE" := rfl
    rw [if_pos (base.mpr zero), zero, name]
    exact wordsOf_plain (by decide)
  · have further : key.isBase = false := by
      rw [Key.isBase, beq_eq_false_iff_ne]
      intro mask
      exact zero (congrArg Key.mk mask)
    have nonempty := fun none => zero (base.mp none)
    rw [if_neg nonempty, nameOf, further, if_neg Bool.false_ne_true]
    exact wordsOf_intercalate _ nonempty

theorem Stage.letters_injective {s t : Stage} (same : s.letters = t.letters) : s = t := by
  cases s <;> cases t <;> first | rfl | exact absurd same (by decide)

theorem Stage.letters_length (s : Stage) : s.letters.toList.length = 2 := by
  cases s <;> rfl

theorem Stage.letters_append_iff {s t : Stage} {rest other : String} :
    s.letters ++ rest = t.letters ++ other ↔ s = t ∧ rest = other := by
  constructor
  · intro same
    have chars := congrArg String.toList same
    rw [String.toList_append, String.toList_append] at chars
    have parts := List.append_inj chars (by rw [s.letters_length, t.letters_length])
    exact ⟨Stage.letters_injective (String.toList_inj.mp parts.1), String.toList_inj.mp parts.2⟩
  · rintro ⟨rfl, rfl⟩
    rfl

/-- Whether both names of a job are made of its stage and its words. -/
structure Job.Named (j : Job) : Prop where
  outputFile : j.outputFile = j.stage.letters ++ ("_" ++ (j.variant ++ ".h"))
  byteCode : j.byteCode = "g_" ++ (j.stage.letters ++ ("_" ++ j.variant))
  words : wordsOf j.variant = j.words

theorem Shader.Built.job_named {shader : Shader} (built : shader.Built) {j : Job}
    (job : j ∈ Job.ofShader shader) : j.Named := by
  obtain ⟨stage, member, inside⟩ := List.mem_flatMap.mp job
  obtain ⟨v, variant, rfl⟩ := List.mem_map.mp inside
  have whole := built.stages stage member
  rw [whole.made] at variant
  obtain ⟨key, held, rfl⟩ := List.mem_map.mp variant
  refine ⟨?_, ?_, ?_⟩
  · simp only [Job.ofVariant, Variant.make, toString, String.append_assoc]
  · simp only [Job.ofVariant, Variant.make, toString, String.append_assoc]
  · have title : (Job.ofVariant shader stage
        (.make shader.name stage.stage key stage.defines)).variant =
        shader.name ++ "_" ++ Variant.nameOf key stage.defines := rfl
    rw [title, wordsOf_append,
      Variant.wordsOf_nameOf key stage.defines whole.few (whole.small key held)]
    rfl

namespace Job.Named

variable {j k : Job} (named : j.Named) (named' : k.Named)
include named named'

theorem words_iff : j.words = k.words ↔ j.variant = k.variant := by
  rw [← named.words, ← named'.words]
  exact ⟨wordsOf_injective, congrArg wordsOf⟩

theorem outputFile_iff : j.outputFile = k.outputFile ↔ j.stage = k.stage ∧ j.words = k.words := by
  rw [named.outputFile, named'.outputFile, words_iff named named', Stage.letters_append_iff,
    String.append_right_inj, String.append_left_inj]

theorem byteCode_iff : j.byteCode = k.byteCode ↔ j.stage = k.stage ∧ j.words = k.words := by
  rw [named.byteCode, named'.byteCode, words_iff named named', String.append_right_inj,
    Stage.letters_append_iff, String.append_right_inj]

theorem apart_iff : (j.outputFile ≠ k.outputFile ∧ j.byteCode ≠ k.byteCode) ↔
    ¬(j.stage = k.stage ∧ j.words = k.words) := by
  rw [ne_eq, ne_eq, outputFile_iff named named', byteCode_iff named named', and_self]

end Job.Named

/-! ## Plain names -/

/-- Whether no name of a shader has an underscore, and the defines of each stage are distinct and
none of them is `BASE`. -/
structure Shader.Plain (s : Shader) : Prop where
  name : '_' ∉ s.name.toList
  distinct : ∀ stage ∈ s.stages, stage.defines.Nodup
  defines : ∀ stage ∈ s.stages, ∀ define ∈ stage.defines, '_' ∉ define.toList ∧ define ≠ "BASE"

theorem Variant.mem_of_mem_definesOf {key : Key} {defines : List String} {define : String}
    (member : define ∈ definesOf key defines) : define ∈ defines := by
  obtain ⟨bit, _, found⟩ := List.mem_filterMap.mp member
  exact List.mem_of_getElem? found

theorem Shader.Built.stage_of_job {shader : Shader} (built : shader.Built) {j : Job}
    (job : j ∈ Job.ofShader shader) : ∃ s ∈ shader.stages, j.shader = shader.name ∧
      j.stage = s.stage ∧ j.key ∈ s.keys ∧ j.defines = Variant.definesOf j.key s.defines := by
  obtain ⟨s, member, inside⟩ := List.mem_flatMap.mp job
  obtain ⟨v, _, rfl⟩ := List.mem_map.mp inside
  exact ⟨s, member, rfl, rfl, built.job_of_stage member job rfl⟩

/-- With plain names, the words of a job tell all its defines. -/
theorem Shader.Plain.words {shader : Shader} (plain : shader.Plain) (built : shader.Built)
    {j : Job} (job : j ∈ Job.ofShader shader) : "BASE" ∉ j.defines ∧
      j.words = (shader.name :: if j.defines = [] then ["BASE"] else j.defines).map
        String.toList := by
  obtain ⟨s, member, name, _, _, defines⟩ := built.stage_of_job job
  have own (define : String) (inside : define ∈ j.defines) :
      '_' ∉ define.toList ∧ define ≠ "BASE" := by
    rw [defines] at inside
    exact plain.defines s member define (Variant.mem_of_mem_definesOf inside)
  refine ⟨fun inside => (own "BASE" inside).2 rfl, ?_⟩
  rw [Job.words, name, wordsOf_plain plain.name,
    flatMap_wordsOf_plain j.defines fun define inside => (own define inside).1]
  split <;> rfl

theorem Shader.Plain.words_apart {shader other : Shader} (plain : shader.Plain)
    (plain' : other.Plain) (built : shader.Built) (built' : other.Built)
    (alone : shader.name = other.name → shader = other) {j k : Job}
    (job : j ∈ Job.ofShader shader) (job' : k ∈ Job.ofShader other) (stage : j.stage = k.stage)
    (same : j.words = k.words) : j.shader = k.shader ∧ j.key = k.key := by
  obtain ⟨unnamed, shown⟩ := plain.words built job
  obtain ⟨unnamed', shown'⟩ := plain'.words built' job'
  rw [shown, shown'] at same
  have texts := List.map_injective_iff.mpr (fun _ _ => String.toList_inj.mp) same
  obtain ⟨name, rest⟩ := List.cons.inj texts
  cases alone name
  have defines : j.defines = k.defines := by
    split_ifs at rest with none none'
    · rw [none, none']
    · rw [← rest] at unnamed'
      exact absurd List.mem_cons_self unnamed'
    · rw [rest] at unnamed
      exact absurd List.mem_cons_self unnamed
    · exact rest
  obtain ⟨s, member, title, here, key, made⟩ := built.stage_of_job job
  obtain ⟨t, member', title', there, key', made'⟩ := built.stage_of_job job'
  have one : t = s := built.stage_unique member member' (by rw [← there, ← stage, here])
  subst one
  have whole := built.stages t member
  refine ⟨title.trans title'.symm, ?_⟩
  apply Variant.definesOf_injective j.key k.key t.defines whole.few (whole.small _ key)
    (whole.small _ key') (plain.distinct t member)
  rw [← made, ← made', defines]

/-! ## Names in a catalog -/

namespace Catalog

theorem Sound.mem_jobs {c : Catalog} (sound : c.Sound) (j : Job) :
    j ∈ c.jobs ↔ ∃ s ∈ c.shaders, j ∈ Job.ofShader s := by
  rw [jobs, List.mem_mergeSort, sound.pending, List.mem_flatMap]

def NamedApart (c : Catalog) : Prop :=
  ∀ j ∈ c.jobs, ∀ k ∈ c.jobs, (j.shader, j.stage, j.key) ≠ (k.shader, k.stage, k.key) →
    j.outputFile ≠ k.outputFile ∧ j.byteCode ≠ k.byteCode

section
variable {c : Catalog} (sound : c.Sound) (built : ∀ s ∈ c.shaders, s.Built)
include sound built

theorem Sound.jobs_named (j : Job) (member : j ∈ c.jobs) : j.Named := by
  obtain ⟨s, inside, job⟩ := (sound.mem_jobs j).mp member
  exact (built s inside).job_named job

theorem Sound.namedApart_iff :
    c.NamedApart ↔ (c.jobs.map fun j => (j.stage, j.words)).Nodup := by
  constructor
  · intro apart
    -- jobs at two places of the snapshot differ, since it ascends strictly
    rw [List.Nodup, List.pairwise_map]
    refine (sound.jobs_ascending built).imp_of_mem ?_
    intro j k member member' below same
    have different : (j.shader, j.stage, j.key) ≠ (k.shader, k.stage, k.key) := by
      intro one
      simp only [Prod.mk.injEq] at one
      have ranks : j.rank = k.rank := by
        rw [Job.rank, Job.rank, one.1, one.2.1, one.2.2]
      exact absurd ranks below.ne
    have names := apart j member k member' different
    rw [(sound.jobs_named built j member).apart_iff (sound.jobs_named built k member')] at names
    exact names (Prod.mk.inj same)
  · intro distinct j member k member' different
    rw [(sound.jobs_named built j member).apart_iff (sound.jobs_named built k member')]
    rintro ⟨stage, words⟩
    cases List.inj_on_of_nodup_map distinct member member' (Prod.ext stage words)
    exact different rfl

theorem Sound.namedApart_of_plain (plain : ∀ s ∈ c.shaders, s.Plain) : c.NamedApart := by
  intro j member k member' different
  rw [(sound.jobs_named built j member).apart_iff (sound.jobs_named built k member')]
  rintro ⟨stage, words⟩
  obtain ⟨s, inside, job⟩ := (sound.mem_jobs j).mp member
  obtain ⟨t, inside', job'⟩ := (sound.mem_jobs k).mp member'
  have alone := List.inj_on_of_nodup_map sound.shaderNames inside inside'
  obtain ⟨shader, key⟩ := (plain s inside).words_apart (plain t inside') (built s inside)
    (built t inside') alone job job' stage words
  exact different (by rw [shader, stage, key])

end

/-- Jobs share their names exactly if they have the same stage and the same words, and in a
catalog with plain names no two different jobs do. -/
theorem names_apart_iff_words_apart (requests : List Request)
    (genuine : ∀ r ∈ requests, ∀ s, r.shader? = some s → s.Genuine) :
    let c := empty.serve requests
    (∀ j ∈ c.jobs, ∀ k ∈ c.jobs,
      (j.outputFile = k.outputFile ↔ j.stage = k.stage ∧ j.words = k.words) ∧
      (j.byteCode = k.byteCode ↔ j.stage = k.stage ∧ j.words = k.words)) ∧
    (c.NamedApart ↔ (c.jobs.map fun j => (j.stage, j.words)).Nodup) ∧
    ((∀ s ∈ c.shaders, s.Plain) → c.NamedApart) := by
  intro c
  have sound : c.Sound := serve_sound requests empty empty_sound
  have built : ∀ s ∈ c.shaders, s.Built := serve_built requests genuine
  refine ⟨?_, sound.namedApart_iff built, sound.namedApart_of_plain built⟩
  intro j member k member'
  have named := sound.jobs_named built j member
  have named' := sound.jobs_named built k member'
  exact ⟨named.outputFile_iff named', named.byteCode_iff named'⟩

/-- A define can read like two others together, and then different jobs share their names. -/
theorem joined_defines_share_names :
    let defines := ["FOG", "LINEAR", "FOG_LINEAR"]
    let pixel : StageVariants := ⟨.pixel, "PSMain", defines,
      [0, 1, 2, 3, 4, 5, 6, 7].map fun mask => .make "Sky" .pixel ⟨mask⟩ defines⟩
    let sky : Shader := ⟨"Sky", "Sky.hlsl", Digest.shortId "Sky", [pixel]⟩
    Shader.build "Sky" "Sky.hlsl" [⟨.pixel, "PSMain", defines, [], fun _ => true⟩] = .ok sky ∧
      ¬(empty.serve [.shader sky]).NamedApart := by
  intro defines pixel sky
  refine ⟨rfl, ?_⟩
  intro apart
  have shaders : (empty.serve [.shader sky]).shaders = [sky] := by rfl
  have sound := serve_sound [.shader sky] empty empty_sound
  have job (mask : Nat) (listed : mask ∈ [0, 1, 2, 3, 4, 5, 6, 7]) :
      Job.ofVariant sky pixel (.make "Sky" .pixel ⟨mask⟩ defines) ∈
        (empty.serve [.shader sky]).jobs := by
    rw [sound.mem_jobs, shaders]
    refine ⟨sky, List.mem_singleton_self _, ?_⟩
    exact List.mem_flatMap.mpr
      ⟨pixel, List.mem_singleton_self _, List.mem_map_of_mem (List.mem_map_of_mem listed)⟩
  have different := apart _ (job 3 (by decide)) _ (job 4 (by decide)) (by decide)
  exact different.1 (by rfl)

theorem names_apart_of_plain_shader :
    let sky : Shader := ⟨"Sky", "Sky.hlsl", Digest.shortId "Sky", [⟨.pixel, "PSMain", ["FOG"],
      [.make "Sky" .pixel ⟨0⟩ ["FOG"], .make "Sky" .pixel ⟨1⟩ ["FOG"]]⟩]⟩
    (∀ r ∈ [Request.shader sky], ∀ s, r.shader? = some s → s.Genuine) ∧
      (empty.serve [.shader sky]).NamedApart := by
  intro sky
  have genuine : ∀ r ∈ [Request.shader sky], ∀ s, r.shader? = some s → s.Genuine := by
    intro r member s offered
    cases List.mem_singleton.mp member
    cases offered
    exact Or.inl ⟨"Sky", "Sky.hlsl", [⟨.pixel, "PSMain", ["FOG"], [], fun _ => true⟩], rfl⟩
  refine ⟨genuine, (names_apart_iff_words_apart _ genuine).2.2 ?_⟩
  have shaders : (empty.serve [.shader sky]).shaders = [sky] := by rfl
  rw [shaders]
  intro s member
  cases List.mem_singleton.mp member
  exact ⟨by decide, by decide, by decide⟩

end Catalog
end ShaderVariants
