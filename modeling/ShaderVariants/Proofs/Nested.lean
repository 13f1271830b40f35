import ShaderVariants.Proofs.Accounts
import ShaderVariants.Proofs.Documents
import ShaderVariants.Proofs.Republishing

/-!
Headers in directories that have the temporary names of other headers. The name of a structure may
have slashes, so its header may go to a directory that is made for it, and that directory may have
the very name that the temporary file of another header has had before. Such headers are published
as well as any others.
-/

namespace ShaderVariants

/-! ## Making one directory -/

namespace FileTree

theorem makeDirectories_of_vacant {tree : FileTree} {path : Path} {place : Place} {name : String}
    (ends : path.EndsIn name) (leads : tree.Leads path place)
    (vacant : tree.entry? place = none) :
    tree.makeDirectories path = (.ok (), tree.put place .directory) := by
  have free : tree.filePlace path = .ok place :=
    (filePlace_iff tree path place).mpr ⟨⟨name, ends⟩, leads, by simp [vacant]⟩
  have made : tree.makeDirectory path = .ok (tree.put place .directory) := by
    unfold filePlace at free
    obtain ⟨slot, slotted, rest⟩ := bind_eq_ok.mp free
    split at rest
    · cases rest
    case isFalse named =>
      obtain ⟨_, fits, rest⟩ := bind_eq_ok.mp rest
      split at rest
      · cases rest
      · cases rest
        rw [Bool.or_eq_true, not_or] at named
        simp only [makeDirectory, slotted, bind, Except.bind, if_neg named.2, fits, vacant]
        rfl
  obtain ⟨parent, above, _⟩ := tree.goal_parent ends
  obtain ⟨left, count⟩ : ∃ left, path.pieces.length = left + 1 := by
    apply Nat.exists_eq_succ_of_ne_zero
    intro none
    have last := ends.last
    rw [List.length_eq_zero_iff.mp none] at last
    cases last
  rw [makeDirectories, count, makeMissing, above]
  simp only [made, settle]

/-- Publishing goes on from the tree in which the parent of the target has been made. -/
theorem publish_of_made {suffix : String} {tree made : FileTree} {target : Path}
    (parent : tree.makeParent target = (.ok (), made)) (opens : Open suffix made target)
    (content : String) :
    ∃ p later, tree.publish suffix target content = (.ok p, later) ∧ made.Alike later := by
  have again : made.makeParent target = (.ok (), made) := opens.makeParent
  have same : tree.publish suffix target content = made.publish suffix target content := by
    simp only [publish, parent, again]
  rw [same]
  exact publish_of_open opens content

end FileTree

/-! ## Headers below a temporary name -/

namespace Output
open FileTree (temporary Open)

theorem sorted_paths {hs : List Header} {paths : List Path}
    (reordered : (hs.map Header.path).Perm paths)
    (sorted : paths.Pairwise (Path.le · · = true))
    (apart : ∀ a ∈ paths, ∀ b ∈ paths, a.components = b.components → a = b) :
    (hs.mergeSort fun a b => a.path.le b.path).map Header.path = paths := by
  have order : ((hs.mergeSort fun a b => a.path.le b.path).map Header.path).Pairwise
      (Path.le · · = true) := by
    rw [List.pairwise_map]
    apply List.pairwise_mergeSort
    · exact fun a b c => Path.leComponents_trans _ _ _
    · intro a b
      rw [Bool.or_eq_true]
      exact Path.leComponents_total _ _
  have same := ((List.mergeSort_perm hs fun a b => a.path.le b.path).map Header.path).trans
    reordered
  refine List.Perm.eq_of_pairwise (fun a b first second below above => ?_) order sorted same
  exact apart a (same.mem_iff.mp first) b second (Path.leComponents_antisymm _ _ below above)

section
variable {d : String} (among : d = "cpp" ∨ d = "hlsl")
include among

/-- A header can be published into a directory that has the temporary name of another one. -/
theorem open_nested {tree : FileTree} (there : tree.entry? [d] = some .directory)
    (inside : tree.entry? [d, ".-x.h.tmp"] = some .directory)
    (free : ∀ file, tree.entry? [d, ".-x.h.tmp", file] ≠ some .directory) :
    Open ".tmp" tree ⟨["", d, ".-x.h.tmp", "z.h"]⟩ := by
  have below : tree.Leads ⟨["", d, ".-x.h.tmp"]⟩ [d, ".-x.h.tmp"] := by
    rcases among with rfl | rfl <;>
      exact FileTree.leads_below there ⟨rfl, by decide⟩ (by decide) (by decide) ⟨rfl, by decide⟩
        (by decide) (by decide)
  have way : tree.walk [] [d, ".-x.h.tmp"] = .ok [d, ".-x.h.tmp"] := by
    obtain ⟨origin, pieces, started, walked⟩ := below
    have start : tree.start ⟨["", d, ".-x.h.tmp"]⟩ = .ok ([], [d, ".-x.h.tmp"]) := by
      rcases among with rfl | rfl <;> exact FileTree.start_absolute tree rfl (by decide) (by decide)
    cases start.symm.trans started
    exact walked
  have reach : ∀ file ∈ ["z.h", ".z.h.tmp"],
      tree.Leads ((Path.mk ["", d, ".-x.h.tmp"]).join (.single file))
        [d, ".-x.h.tmp", file] := by
    rw [List.forall_mem_cons, List.forall_mem_singleton]
    rcases among with rfl | rfl <;>
      exact ⟨FileTree.leads_absolute tree ⟨rfl, by decide⟩ way inside
          (FileTree.start_absolute tree rfl (by decide) (by decide)) (by decide),
        FileTree.leads_absolute tree ⟨rfl, by decide⟩ way inside
          (FileTree.start_absolute tree rfl (by decide) (by decide)) (by decide)⟩
  have opens := @FileTree.open_of_leads ".tmp" tree ⟨["", d, ".-x.h.tmp"]⟩ _ "z.h" below inside
    ⟨rfl, by decide⟩ (by rcases among with rfl | rfl <;> decide)
    fun file member => ⟨reach file member, free file⟩
  rcases among with rfl | rfl <;> exact opens

/-- A header whose name begins with a temporary name makes a directory of that name. -/
theorem publish_nested {tree : FileTree} (there : tree.entry? [d] = some .directory)
    (vacant : tree.entry? [d, ".-x.h.tmp"] = none)
    (low : ∀ file rest, tree.entry? (d :: file :: rest) ≠ some .directory) {h : Header}
    (path : h.path = ⟨[".-x.h.tmp", "z.h"]⟩) :
    ∃ p later, tree.publish ".tmp" ((Path.mk ["", d]).join h.path) h.content = (.ok p, later) ∧
      (tree.put [d, ".-x.h.tmp"] .directory).Alike later ∧ tree.Keeps later := by
  have leads : tree.Leads ⟨["", d, ".-x.h.tmp"]⟩ [d, ".-x.h.tmp"] := by
    rcases among with rfl | rfl <;>
      exact FileTree.leads_below there ⟨rfl, by decide⟩ (by decide) (by decide) ⟨rfl, by decide⟩
        (by decide) (by decide)
  have ends : (Path.mk ["", d, ".-x.h.tmp"]).EndsIn ".-x.h.tmp" := ⟨⟨rfl, by decide⟩, rfl⟩
  have parent : tree.makeParent ((Path.mk ["", d]).join h.path) =
      (.ok (), tree.put [d, ".-x.h.tmp"] .directory) := by
    have above : ((Path.mk ["", d]).join h.path).parent? = some ⟨["", d, ".-x.h.tmp"]⟩ := by
      rw [path]
      rcases among with rfl | rfl <;> decide
    simp only [FileTree.makeParent, above, FileTree.makeDirectories_of_vacant ends leads vacant]
    rfl
  have kept (place : Place) (other : place ≠ [d, ".-x.h.tmp"]) :
      FileTree.entry? (tree.put [d, ".-x.h.tmp"] .directory) place = tree.entry? place :=
    tree.entry?_put_of_ne .directory other
  have opens : Open ".tmp" (tree.put [d, ".-x.h.tmp"] .directory)
      ((Path.mk ["", d]).join h.path) := by
    have opens := @open_nested d among (tree.put [d, ".-x.h.tmp"] .directory)
      (by rw [kept _ (by simp)]; exact there) (tree.entry?_put_self .directory (by simp))
      (fun file => by rw [kept _ (by simp)]; exact low _ _)
    rw [path]
    rcases among with rfl | rfl <;> exact opens
  obtain ⟨p, later, published, alike⟩ := FileTree.publish_of_made parent opens h.content
  have made := FileTree.makeParent_confined tree ((Path.mk ["", d]).join h.path)
  rw [parent] at made
  exact ⟨p, later, published, alike, made.keeps.trans alike.keeps⟩

/-- Another header can be published beside that directory. -/
theorem open_beside {tree : FileTree} (there : tree.entry? [d] = some .directory)
    (free : ∀ file, file ≠ ".-x.h.tmp" → tree.entry? [d, file] ≠ some .directory) {name : String}
    (fits : Fits ".tmp" name) (apart : name ≠ "-x") :
    Open ".tmp" tree ((Path.mk ["", d]).join (.single (Header.fileOf name))) := by
  have closed : Path.IsName d ∧ '\x00' ∉ d.toList ∧ d.utf8ByteSize ≤ FileTree.maxName := by
    rcases among with rfl | rfl <;> exact ⟨⟨rfl, by decide⟩, by decide, by decide⟩
  refine FileTree.open_below there closed.1 closed.2.1 closed.2.2 (Header.fileOf_isName name)
    (fun file pair => free file ?_) fits.clean fits.short
  rintro rfl
  simp only [List.mem_cons, List.not_mem_nil, or_false] at pair
  rcases pair with target | temp
  · exact Header.fileOf_ne_hidden ⟨"", rfl⟩ name "-x.h" target.symm
  · have chars := congrArg String.toList temp
    rw [FileTree.hidden_toList, Header.fileOf_toList] at chars
    have same : "-x".toList ++ ['.', 'h', '.', 't', 'm', 'p'] =
        name.toList ++ ['.', 'h', '.', 't', 'm', 'p'] := by simpa using chars
    exact apart (String.toList_inj.mp (List.append_cancel_right same)).symm

/-- A header beside them is published, and its temporary name is free again. -/
theorem publish_beside {tree : FileTree} (there : tree.entry? [d] = some .directory)
    (low : ∀ file, tree.entry? [d, file] ≠ some .directory) {h : Header}
    (path : h.path = .single "-x.h") :
    ∃ p later, tree.publish ".tmp" ((Path.mk ["", d]).join h.path) h.content = (.ok p, later) ∧
      tree.Alike later ∧ later.entry? [d, ".-x.h.tmp"] = none := by
  have closed : Path.IsName d ∧ '\x00' ∉ d.toList ∧ d.utf8ByteSize ≤ FileTree.maxName := by
    rcases among with rfl | rfl <;> exact ⟨⟨rfl, by decide⟩, by decide, by decide⟩
  rw [path]
  have opens : Open ".tmp" tree ((Path.mk ["", d]).join (.single "-x.h")) :=
    FileTree.open_below there closed.1 closed.2.1 closed.2.2 ⟨rfl, by decide⟩
      (fun file _ => low file) (by decide) (by decide)
  obtain ⟨p, later, published, alike⟩ := FileTree.publish_of_open opens h.content
  have named : ((Path.mk ["", d]).join (.single "-x.h")).EndsIn "-x.h" :=
    Path.endsIn_join_single _ ⟨rfl, by decide⟩
  have gone := (FileTree.publish_settles ⟨_, named⟩ published).2.1
  have goal : tree.goal (temporary ".tmp" ((Path.mk ["", d]).join (.single "-x.h"))) =
      [d, ".-x.h.tmp"] := by
    rcases among with rfl | rfl <;> rfl
  exact ⟨p, later, published, alike, goal ▸ gone⟩

/-- In a directory without directories, a header whose name begins with the temporary name of the
header before it makes a directory of that name. -/
theorem publishAll_nested {o : Output} (there : o.tree.entry? [d] = some .directory)
    (low : ∀ file rest, o.tree.entry? (d :: file :: rest) ≠ some .directory)
    {hs : List Header} {names : List String}
    (paths : (hs.mergeSort fun a b => a.path.le b.path).map Header.path =
      .single "-x.h" :: ⟨[".-x.h.tmp", "z.h"]⟩ :: names.map fun n => .single (Header.fileOf n))
    (fits : ∀ name ∈ names, Fits ".tmp" name) (apart : "-x" ∉ names) :
    ∃ later, publishAll ".tmp" ⟨["", d]⟩ o hs = (.ok (), later) ∧
      o.tree.Keeps later.tree ∧ later.tree.entry? [d, ".-x.h.tmp"] = some .directory ∧
      ∀ place, later.tree.entry? place = some .directory →
        place = [d, ".-x.h.tmp"] ∨ o.tree.entry? place = some .directory := by
  rw [List.map_eq_cons_iff] at paths
  obtain ⟨first, others, sorted, path, paths⟩ := paths
  rw [List.map_eq_cons_iff] at paths
  obtain ⟨second, rest, rfl, path', paths⟩ := paths
  obtain ⟨p, tree, published, alike, vacant⟩ :=
    publish_beside among there (fun file => low file []) path
  obtain ⟨p', tree', published', alike', keeps⟩ :=
    publish_nested among (alike.keeps.directories _ there) vacant
      (fun file rest found => low file rest (alike.back.directories _ found)) path'
  have back (place : Place) (other : place ≠ [d, ".-x.h.tmp"])
      (found : tree'.entry? place = some .directory) : o.tree.entry? place = some .directory := by
    have before := alike'.back.directories _ found
    rw [tree.entry?_put_of_ne .directory other] at before
    exact alike.back.directories _ before
  obtain ⟨later, remaining, alike''⟩ := publishEach_of_open ".tmp" ⟨["", d]⟩ rest
    ((o.record tree ((Path.mk ["", d]).join first.path) p).record tree'
      ((Path.mk ["", d]).join second.path) p') fun h member => by
    rw [record_tree]
    obtain ⟨name, known, here⟩ := List.mem_map.mp (paths ▸ List.mem_map_of_mem member)
    rw [← here]
    apply open_beside among (keeps.directories _ (alike.keeps.directories _ there)) _
      (fits name known) fun same => apart (same ▸ known)
    intro file other found
    exact low file [] (back [d, file] (by simpa using other) found)
  rw [record_tree] at alike''
  refine ⟨later, ?_, ?_, ?_, ?_⟩
  · rw [publishAll, sorted, publishEach, published]
    dsimp only
    rw [publishEach, record_tree, published']
    exact remaining
  · exact (alike.keeps.trans keeps).trans alike''.keeps
  · apply alike''.keeps.directories
    exact alike'.keeps.directories _ (tree.entry?_put_self .directory (by simp))
  · intro place found
    by_cases here : place = [d, ".-x.h.tmp"]
    · exact Or.inl here
    · exact Or.inr (back place here (alike''.back.directories _ found))

end
end Output

namespace Build

/-- Two structures without members, where the header of the second goes below the temporary name of
that of the first. -/
def nested : List Description.Structure := [⟨"-x", []⟩, ⟨".-x.h.tmp/z", []⟩]

def nestedTree (document : String) : FileTree :=
  ⟨[(["src"], .directory), (["src", "a.json"], .file document.toUTF8), (["cpp"], .directory),
    (["hlsl"], .directory)], []⟩

theorem nestedTree_leads (document : String) :
    (nestedTree document).Leads ⟨["", "src", "a.json"]⟩ ["src", "a.json"] :=
  FileTree.leads_below rfl ⟨rfl, by decide⟩ (by decide) (by decide) ⟨rfl, by decide⟩ (by decide)
    (by decide)

theorem nestedTree_files (document : String) :
    (nestedTree document).descriptionFiles ⟨["", "src"]⟩ = .ok [⟨["", "src", "a.json"]⟩] := by
  have found : (nestedTree document).find ⟨["", "src"]⟩ = .ok (["src"], .directory) := by
    rw [FileTree.find_iff]
    exact ⟨FileTree.leads_rooted _ ⟨rfl, by decide⟩ (by decide) (by decide), rfl⟩
  have names : (nestedTree document).list ⟨["", "src"]⟩ = .ok ["a.json"] := by
    simp only [FileTree.list, found]
    rfl
  have regular : (nestedTree document).isFile ⟨["", "src", "a.json"]⟩ = true := by
    have there := (FileTree.find_iff _ _ _ _).mpr ⟨nestedTree_leads document, rfl⟩
    simp only [FileTree.isFile, there]
  have joined : Path.join ⟨["", "src"]⟩ (.single "a.json") = ⟨["", "src", "a.json"]⟩ := by decide
  have ending : Path.extension? ⟨["", "src", "a.json"]⟩ = some "json" := by decide
  simp [FileTree.descriptionFiles, names, joined, regular, ending, FileTree.descriptionEnding,
    bind, Except.bind, pure, Except.pure]

theorem nestedTree_read {document : String}
    (written : Description.Written ⟨none, nested, []⟩ document) :
    Description.ofFile (nestedTree document) ⟨["", "src", "a.json"]⟩ = .ok ⟨none, nested, []⟩ := by
  have file : (nestedTree document).readFile ⟨["", "src", "a.json"]⟩ = .ok document.toUTF8 :=
    (FileTree.readFile_iff _ _ _).mpr ⟨_, nestedTree_leads document, rfl⟩
  have opened := Description.ofFile_eq file
  rw [Description.ofText_written written] at opened
  exact opened

theorem intake_nested {tree : FileTree} {dir path : Path}
    (listed : tree.descriptionFiles dir = .ok [path])
    (read : Description.ofFile tree path = .ok ⟨none, nested, []⟩) :
    ∃ i, (intake tree dir).1 = .ok i ∧
      i.catalog.ownNames = ["-x", ".-x.h.tmp/z", "ForwardLighting", "IMGUI"] := by
  obtain ⟨types, structures, staged, names⟩ : ∃ types structures,
      Intake.stage .empty nested = .ok (types, structures) ∧
        structures.map (·.name) = ["-x", ".-x.h.tmp/z"] := ⟨_, _, rfl, rfl⟩
  have presets := Preset.standard_taken
  have free : Catalog.Free (Preset.addAll Preset.standard .empty).1.headerNames
      (structures.map (·.name)) := by
    rw [presets.headerNames, names]
    exact ⟨by decide, by decide⟩
  have offered := Catalog.offerStructures_cases (Preset.addAll Preset.standard .empty).1 structures
  simp only [free, true_and, not_true, false_and, or_false] at offered
  obtain ⟨lines, whole⟩ : ∃ lines, Intake.takeFiles tree
      (.start (Preset.addAll Preset.standard .empty).1
        ((Preset.addAll Preset.standard .empty).2 ++ [foundLine dir [path]])) [path] =
      ⟨types, { (Preset.addAll Preset.standard .empty).1 with
        structures := (Preset.addAll Preset.standard .empty).1.structures ++ structures },
        lines, false⟩ := by
    simp only [Intake.takeFiles, Intake.read, read, Intake.register, Intake.addStructures,
      Intake.start, staged, offered]
    exact ⟨_, rfl⟩
  refine ⟨_, intake_eq_ok.mpr ⟨[path], listed, rfl, by rw [whole]⟩, ?_⟩
  rw [whole, Catalog.ownNames]
  dsimp only
  rw [List.map_append, names, presets.structures, presets.interfaces]
  rfl

section
variable {i : Intake}
  (own : i.catalog.ownNames = ["-x", ".-x.h.tmp/z", "ForwardLighting", "IMGUI"])
include own

theorem targetHeaders_nested :
    ((i.catalog.targetHeaders i.types).mergeSort fun a b => a.path.le b.path).map Header.path =
      .single "-x.h" :: ⟨[".-x.h.tmp", "z.h"]⟩ ::
        ["ForwardLighting", "IMGUI", Header.keysName].map fun n => .single (Header.fileOf n) := by
  have files := (i.catalog.targetHeaders_perm i.types).map Path.ofText
  rw [own, List.map_map] at files
  rw [List.map_cons] at files
  have last := files.trans (List.perm_append_singleton _ _).symm
  exact Output.sorted_paths last (by decide) (by decide)

theorem declaredHeaders_nested :
    ((i.catalog.declaredHeaders i.types).mergeSort fun a b => a.path.le b.path).map Header.path =
      .single "-x.h" :: ⟨[".-x.h.tmp", "z.h"]⟩ ::
        ["ForwardLighting", "IMGUI"].map fun n => .single (Header.fileOf n) := by
  have files := (i.catalog.declaredHeaders_perm i.types).map Path.ofText
  rw [own, List.map_map] at files
  exact Output.sorted_paths files (by decide) (by decide)

/-- Where the headers of both structures and of the presets go. -/
theorem generated_nested {config : BuildConfig} (target : config.targetDir = ⟨["", "cpp"]⟩)
    (declared : config.declaredDir = ⟨["", "hlsl"]⟩) :
    (generated config i false).map (·.1) =
      [⟨["", "cpp", "-x.h"]⟩, ⟨["", "cpp", ".-x.h.tmp", "z.h"]⟩,
        ⟨["", "cpp", "ForwardLighting.h"]⟩, ⟨["", "cpp", "IMGUI.h"]⟩,
        ⟨["", "cpp", "shaderpermutations.h"]⟩, ⟨["", "hlsl", "-x.h"]⟩,
        ⟨["", "hlsl", ".-x.h.tmp", "z.h"]⟩, ⟨["", "hlsl", "ForwardLighting.h"]⟩,
        ⟨["", "hlsl", "IMGUI.h"]⟩] := by
  have joined (dir : Path) (hs : List Header) : (Output.filesIn dir hs).map (·.1) =
      ((hs.mergeSort fun a b => a.path.le b.path).map Header.path).map dir.join := by
    rw [Output.filesIn, List.map_map, List.map_map]
    rfl
  rw [generated, if_neg Bool.false_ne_true, List.append_nil, List.map_append, joined, joined,
    targetHeaders_nested own, declaredHeaders_nested own, target, declared]
  rfl

theorem publishHeaders_nested {config : BuildConfig} {tree : FileTree}
    (target : config.targetDir = ⟨["", "cpp"]⟩) (declared : config.declaredDir = ⟨["", "hlsl"]⟩)
    (there : ∀ d ∈ ["cpp", "hlsl"], tree.entry? [d] = some .directory)
    (low : ∀ d ∈ ["cpp", "hlsl"], ∀ file rest, tree.entry? (d :: file :: rest) ≠ some .directory) :
    ∃ o, publishHeaders ".tmp" config i tree = (.ok (), o) ∧
      o.tree.entry? ["cpp", ".-x.h.tmp"] = some .directory := by
  obtain ⟨cpp, hlsl⟩ := List.forall_mem_cons.mp there
  have fits : ∀ name ∈ ["ForwardLighting", "IMGUI", Header.keysName], Output.Fits ".tmp" name := by
    simp only [List.forall_mem_cons]
    refine ⟨?_, ?_, ?_, by simp⟩ <;> exact ⟨by decide, by decide, by decide⟩
  obtain ⟨first, published, keeps, made, back⟩ := Output.publishAll_nested (Or.inl rfl)
    (o := .start tree) cpp (low _ List.mem_cons_self) (targetHeaders_nested own) fits (by decide)
  obtain ⟨second, published', keeps', _⟩ := Output.publishAll_nested (Or.inr rfl) (o := first)
    (keeps.directories _ (hlsl _ List.mem_cons_self))
    (fun file rest found => by
      rcases back _ found with same | before
      · exact absurd (List.cons.inj same).1 (by decide)
      · exact low _ (List.mem_cons_of_mem _ List.mem_cons_self) file rest before)
    (declaredHeaders_nested own)
    (fun name known => fits name (by simp only [List.mem_cons] at known ⊢; tauto)) (by decide)
  refine ⟨second, ?_, keeps'.directories _ made⟩
  rw [publishHeaders, target, published]
  dsimp only
  rw [declared]
  exact published'

end

end Build
end ShaderVariants
