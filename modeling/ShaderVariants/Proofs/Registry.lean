import ShaderVariants.Proofs.Snapshots

/-!
The table of compiled code, and what a catalog lists after any requests. Among the lines of the
table those that include a header of the compiler, and those that stand for a record, are one for
each job and in the order of the jobs; the last line has their number.
-/

namespace ShaderVariants

namespace Header

def linesWith (start : String) (lines : List String) : List String :=
  lines.filter fun line => start.toList.isPrefixOf line.toList

/-- Whether a header is a table of the compiled code of jobs, in their order. -/
structure Registers (h : Header) (jobs : List Job) : Prop where
  file : h.file = "shaderbytecodes.h"
  table : ∃ lines : List String, h.content = String.intercalate "\n" lines ∧
    linesWith "#include \"" lines =
      "#include \"shaderpermutations.h\"" ::
        jobs.map (fun j => "#include \"" ++ j.outputFile ++ "\"") ∧
    linesWith "    \x7b " lines =
      jobs.map (fun j => "    \x7b " ++ j.byteCode ++ ", sizeof(" ++ j.byteCode ++ "), " ++
        j.key.text ++ ", " ++ KeyFields.idText j.shaderId ++ ", " ++
        ("ShaderStage::" ++ j.stage.name ++ " \x7d,")) ∧
    lines.getLast? =
      some ("static constexpr size_t g_ShaderByteCodeCount = " ++ toString jobs.length ++ ";")

theorem linesWith_append (start : String) (first second : List String) :
    linesWith start (first ++ second) = linesWith start first ++ linesWith start second :=
  List.filter_append ..

theorem linesWith_same {α : Type} (start : String) (rest : α → String) (l : List α) :
    linesWith start (l.map fun a => start ++ rest a) = l.map fun a => start ++ rest a := by
  rw [linesWith, List.filter_eq_self]
  intro line member
  obtain ⟨a, _, rfl⟩ := List.mem_map.mp member
  rw [String.toList_append, List.isPrefixOf_iff_prefix]
  exact List.prefix_append _ _

theorem linesWith_other {α : Type} (start other : String) (rest : α → String)
    (l : List α) (apart : ¬start.toList <+: other.toList) (turned : ¬other.toList <+: start.toList) :
    linesWith start (l.map fun a => other ++ rest a) = [] := by
  rw [linesWith, List.filter_eq_nil_iff]
  intro line member
  obtain ⟨a, _, rfl⟩ := List.mem_map.mp member
  rw [String.toList_append, List.isPrefixOf_iff_prefix]
  intro begins
  rcases List.prefix_or_prefix_of_prefix begins (List.prefix_append _ _) with one | two
  · exact apart one
  · exact turned two

/-! ## The lines of the table -/

private theorem compiledLine_eq :
    compiledLine = fun r => "#include \"" ++ (r.outputFile ++ "\"") := by
  funext r
  exact String.append_assoc

private theorem recordLine_eq :
    recordLine = fun r => "    \x7b " ++ (r.byteCode ++ (", sizeof(" ++ (r.byteCode ++ ("), " ++
      (r.key.text ++ (", " ++ (KeyFields.idText r.shaderId ++ (", " ++
        ("ShaderStage::" ++ r.stage.name ++ " \x7d,"))))))))) := by
  funext r
  calc
    recordLine r = "    \x7b " ++ r.byteCode ++ ", sizeof(" ++ r.byteCode ++ "), " ++ r.key.text ++
      ", " ++ KeyFields.idText r.shaderId ++ ", " ++
        ("ShaderStage::" ++ r.stage.name ++ " \x7d,") := rfl
    _ = _ := by simp only [String.append_assoc]

private theorem recordTable_included (records : List Record) :
    linesWith "#include \"" (recordTable records) = [] := by
  unfold recordTable
  split
  · rfl
  · rw [linesWith_append, linesWith_append, recordLine_eq,
      linesWith_other _ _ _ _ (by decide) (by decide)]
    rfl

private theorem recordTable_records (records : List Record) :
    linesWith "    \x7b " (recordTable records) = records.map recordLine := by
  unfold recordTable
  split
  case isTrue empty =>
    rw [List.isEmpty_iff.mp empty]
    rfl
  case isFalse =>
    rw [linesWith_append, linesWith_append, recordLine_eq, linesWith_same]
    exact List.append_nil _

private theorem count_left_out (start : String) (count : Nat) (text : start.toList ≠ [])
    (apart : ¬start.toList <+: "static constexpr size_t g_ShaderByteCodeCount = ".toList)
    (turned : ¬"static constexpr size_t g_ShaderByteCodeCount = ".toList <+: start.toList) :
    linesWith start ["", s!"static constexpr size_t g_ShaderByteCodeCount = {count};"] = [] := by
  have blank : linesWith start [""] = [] := by simp [linesWith, text]
  have line := linesWith_other start _ (fun n : Nat => toString n ++ ";") [count] apart turned
  calc
    _ = linesWith start [""] ++ linesWith start
          ([count].map fun n => "static constexpr size_t g_ShaderByteCodeCount = " ++
            (toString n ++ ";")) := by
      rw [← linesWith_append, List.map_cons, ← String.append_assoc]
      rfl
    _ = [] := by rw [blank, line, List.append_nil]

theorem byteCodeLines_included (records : List Record) :
    linesWith "#include \"" (byteCodeLines records) =
      "#include \"shaderpermutations.h\"" :: records.map compiledLine := by
  have last := count_left_out "#include \"" records.length (by decide) (by decide) (by decide)
  simp only [byteCodeLines, linesWith_append, recordTable_included, last, List.append_nil]
  rw [compiledLine_eq, linesWith_same]
  exact List.append_nil _

theorem byteCodeLines_records (records : List Record) :
    linesWith "    \x7b " (byteCodeLines records) = records.map recordLine := by
  have last := count_left_out "    \x7b " records.length (by decide) (by decide) (by decide)
  simp only [byteCodeLines, linesWith_append, recordTable_records, last, List.append_nil]
  rw [compiledLine_eq, linesWith_other _ _ _ _ (by decide) (by decide)]
  rfl

theorem byteCodeLines_count (records : List Record) :
    (byteCodeLines records).getLast? =
      some ("static constexpr size_t g_ShaderByteCodeCount = " ++ toString records.length ++ ";") := by
  simp only [byteCodeLines, List.getLast?_append]
  rfl

theorem byteCodes_registers (jobs : List Job) : (byteCodes jobs).Registers jobs where
  file := rfl
  table := by
    refine ⟨byteCodeLines (jobs.map Record.ofJob), rfl, ?_, ?_, ?_⟩
    · rw [byteCodeLines_included, List.map_map]
      rfl
    · rw [byteCodeLines_records, List.map_map]
      rfl
    · rw [byteCodeLines_count, List.length_map]

end Header

/-! ## What a catalog lists -/

namespace Catalog

/-- Whether the snapshots of a catalog are those of shaders: a job for each variant of each stage
and a selector for each stage, in strictly ascending order, and a record for each job. -/
structure Lists (c : Catalog) (shaders : List Shader) : Prop where
  jobsAscending : c.jobs.Pairwise (·.rank < ·.rank)
  jobs : c.jobs.Perm (shaders.flatMap fun s => s.stages.flatMap fun v => v.variants.map fun p => {
    shader := s.name
    shaderId := s.id
    stage := v.stage
    key := p.key
    entryPoint := v.entryPoint
    source := s.file
    variant := p.fullName
    outputFile := p.outputFile
    byteCode := p.byteCode
    defines := p.defines })
  jobCount : c.jobs.length = (shaders.map Shader.variantCount).sum
  selectorsAscending : c.keyFields.Pairwise (·.rank < ·.rank)
  selectors : c.keyFields.Perm (shaders.flatMap fun s => s.stages.map fun v => {
    shader := s.name
    shaderId := s.id
    stage := v.stage
    fields := v.keyBits s.name })
  registry : (Header.byteCodes c.jobs).Registers c.jobs

theorem ofShader_length (s : Shader) : (Job.ofShader s).length = s.variantCount := by
  rw [Job.ofShader, Shader.variantCount]
  induction s.stages with
  | nil => rfl
  | cons v stages ih =>
    rw [List.flatMap_cons, List.length_append, List.length_map, ih, List.foldr_cons]

theorem Sound.lists {c : Catalog} (sound : c.Sound) (built : ∀ s ∈ c.shaders, s.Built) :
    c.Lists c.shaders where
  jobsAscending := sound.jobs_ascending built
  jobs := sound.jobs_perm
  jobCount := by
    rw [sound.jobs_perm.length_eq, List.length_flatMap]
    simp only [ofShader_length]
  selectorsAscending := sound.keyFields_ascending built
  selectors := sound.keyFields_perm
  registry := Header.byteCodes_registers c.jobs

/-- After any requests a catalog lists the shaders of those that were accepted. -/
theorem requests_listed (requests : List Request)
    (genuine : ∀ r ∈ requests, ∀ s, r.shader? = some s → s.Genuine) :
    (empty.serve requests).Lists (empty.acceptedShaders requests) := by
  have accepted : (empty.serve requests).shaders = empty.acceptedShaders requests :=
    serve_shaders requests empty
  rw [← accepted]
  exact (serve_sound requests empty empty_sound).lists (serve_built requests genuine)

theorem requests_listed_with_repeats :
    let sky : Shader := ⟨"Sky", "Sky.hlsl", Digest.shortId "Sky", [⟨.pixel, "PSMain", ["FOG"],
      [.make "Sky" .pixel ⟨0⟩ ["FOG"], .make "Sky" .pixel ⟨1⟩ ["FOG"]]⟩]⟩
    let fog : Shader := ⟨"Fog", "Fog.hlsl", Digest.shortId "Fog", [⟨.vertex, "VSMain", [],
      [.make "Fog" .vertex ⟨0⟩ []]⟩]⟩
    let requests : List Request := [.shader sky, .failure "late",
      .description [.blank "Extra" 0] (some sky), .description [.blank "Fog" 0] (some fog)]
    (∀ r ∈ requests, ∀ s, r.shader? = some s → s.Genuine) ∧
      (empty.serve requests).Lists [sky, fog] := by
  intro sky fog requests
  have genuine : ∀ r ∈ requests, ∀ s, r.shader? = some s → s.Genuine := by
    intro r member s offered
    have known : s = sky ∨ s = fog := by
      simp only [requests, List.mem_cons, List.not_mem_nil, or_false] at member
      rcases member with rfl | rfl | rfl | rfl <;> cases offered <;> simp
    rcases known with rfl | rfl
    · exact Or.inl ⟨"Sky", "Sky.hlsl", [⟨.pixel, "PSMain", ["FOG"], [], fun _ => true⟩], rfl⟩
    · exact Or.inl ⟨"Fog", "Fog.hlsl", [.plain .vertex "VSMain"], rfl⟩
  have accepted : empty.acceptedShaders requests = [sky, fog] := by rfl
  exact ⟨genuine, accepted ▸ requests_listed requests genuine⟩

end Catalog
end ShaderVariants
