import ShaderVariants.Build.Output
import ShaderVariants.Proofs.Publishing
import ShaderVariants.Proofs.Requests

/-!
What a build publishes, and where. Publishing lists the target of every header and nothing else.
The header of a structure or an interface is never the registry of compiled code, since its name
is not reserved.
-/

namespace ShaderVariants

/-! ## Names of headers -/

namespace Header

theorem fileOf_toList (name : String) : (fileOf name).toList = name.toList ++ ['.', 'h'] := by
  have parts : fileOf name = name ++ ".h" := rfl
  rw [parts, String.toList_append]
  rfl

theorem fileOf_injective {name other : String} (same : fileOf name = fileOf other) :
    name = other := by
  have chars := congrArg String.toList same
  rw [fileOf_toList, fileOf_toList] at chars
  exact String.toList_inj.mp (List.append_cancel_right chars)

theorem fileOf_isName (name : String) : Path.IsName (fileOf name) := by
  have apart (other : String) (last : other.toList.getLast? ≠ some 'h') : fileOf name ≠ other := by
    rintro rfl
    rw [fileOf_toList] at last
    exact last (by simp)
  have empty := apart "" (by decide)
  have dot := apart "." (by decide)
  refine ⟨?_, apart ".." (by decide)⟩
  rw [Path.isFiller, beq_false_of_ne empty, beq_false_of_ne dot]
  rfl

theorem path_of_file {h : Header} {name : String} (file : h.file = fileOf name)
    (unbroken : '/' ∉ name.toList) : h.path = .single (fileOf name) := by
  have whole : '/' ∉ (fileOf name).toList := by
    simp [fileOf_toList, unbroken]
  rw [Header.path, file, Path.ofText_of_single whole]

/-- A header whose name has no slash goes directly into the directory that it is published to. -/
theorem join_path_endsIn (dir : Path) {h : Header} {name : String} (file : h.file = fileOf name)
    (unbroken : '/' ∉ name.toList) : (dir.join h.path).EndsIn (fileOf name) := by
  rw [path_of_file file unbroken]
  exact Path.endsIn_join_single dir (fileOf_isName name)

end Header

namespace Catalog

def ownNames (c : Catalog) : List String := c.structures.map (·.name) ++ c.interfaces.map (·.name)

theorem declaredHeaders_files (c : Catalog) (types : TypeScope) (h : Header)
    (member : h ∈ c.declaredHeaders types) : ∃ name ∈ c.ownNames, h.file = Header.fileOf name := by
  simp only [declaredHeaders, sortedStructures, sortedInterfaces, List.mem_append, List.mem_map,
    List.mem_mergeSort] at member
  rcases member with ⟨s, inside, rfl⟩ | ⟨i, inside, rfl⟩
  · exact ⟨s.name, List.mem_append_left _ (List.mem_map_of_mem inside), rfl⟩
  · exact ⟨i.name, List.mem_append_right _ (List.mem_map_of_mem inside), rfl⟩

theorem targetHeaders_files (c : Catalog) (types : TypeScope) (h : Header)
    (member : h ∈ c.targetHeaders types) :
    ∃ name ∈ Header.keysName :: c.ownNames, h.file = Header.fileOf name := by
  simp only [targetHeaders, sortedStructures, sortedInterfaces, List.mem_append, List.mem_map,
    List.mem_mergeSort, List.mem_singleton] at member
  rcases member with (⟨s, inside, rfl⟩ | ⟨i, inside, rfl⟩) | rfl
  · exact ⟨s.name, List.mem_cons_of_mem _ (List.mem_append_left _ (List.mem_map_of_mem inside)), rfl⟩
  · exact ⟨i.name, List.mem_cons_of_mem _ (List.mem_append_right _ (List.mem_map_of_mem inside)),
      rfl⟩
  · exact ⟨_, List.mem_cons_self, rfl⟩

theorem Sound.ownNames_apart {c : Catalog} (sound : c.Sound) :
    (c.ownNames.map foldCase).Nodup := by
  have distinct := sound.headers
  rw [headerNames, List.append_assoc, List.map_append, List.nodup_append] at distinct
  exact distinct.2.1

theorem Sound.unreserved {c : Catalog} (sound : c.Sound) {name : String}
    (member : name ∈ c.ownNames) : name ∉ reserved := by
  have distinct := sound.headers
  rw [headerNames, List.append_assoc, List.map_append, List.nodup_append] at distinct
  intro taken
  exact distinct.2.2 _ (List.mem_map_of_mem taken) _ (List.mem_map_of_mem member) rfl

end Catalog

/-! ## Publishing headers -/

namespace Output

/-- The targets so far, whether their content was new or not. -/
def targets (o : Output) : List Path := o.written ++ o.unchanged

theorem mem_record_targets (o : Output) (tree : FileTree) (target path : Path) (p : Publication) :
    path ∈ (o.record tree target p).targets ↔ path ∈ o.targets ∨ path = target := by
  cases p with
  | written => simp only [record, targets, List.mem_append, List.mem_singleton]; tauto
  | unchanged => simp only [record, targets, List.mem_append, List.mem_singleton]; tauto

theorem mem_publishEach_targets (suffix : String) (dir : Path) (hs : List Header)
    (o later : Output) (success : publishEach suffix dir o hs = (.ok (), later)) (path : Path) :
    path ∈ later.targets ↔ path ∈ o.targets ∨ ∃ h ∈ hs, path = dir.join h.path := by
  induction hs generalizing o with
  | nil =>
    cases success
    simp
  | cons h hs ih =>
    rw [publishEach] at success
    split at success
    · cases success
    case h_2 p tree _ =>
      rw [ih _ success, mem_record_targets, List.exists_mem_cons_iff, or_assoc]

theorem mem_publishAll_targets (suffix : String) (dir : Path) (hs : List Header)
    (o later : Output) (success : publishAll suffix dir o hs = (.ok (), later)) (path : Path) :
    path ∈ later.targets ↔ path ∈ o.targets ∨ ∃ h ∈ hs, path = dir.join h.path := by
  rw [mem_publishEach_targets suffix dir _ o later success]
  simp only [List.mem_mergeSort]

theorem publishAll_single_readFile (suffix : String) (dir : Path) (h : Header) (o later : Output)
    {name : String} (ends : (dir.join h.path).EndsIn name)
    (success : publishAll suffix dir o [h] = (.ok (), later)) :
    later.tree.readFile (dir.join h.path) = .ok h.content.toUTF8 := by
  rw [publishAll, List.mergeSort_singleton, publishEach] at success
  split at success
  · cases success
  case h_2 p tree published =>
    rw [publishEach] at success
    cases success
    have content := FileTree.publish_readFile ends published
    cases p with
    | written => exact content
    | unchanged => exact content

/-- Headers whose targets are open are published, and all directories stay as they are. -/
theorem publishEach_of_open (suffix : String) (dir : Path) (hs : List Header) (o : Output)
    (opens : ∀ h ∈ hs, FileTree.Open suffix o.tree (dir.join h.path)) :
    ∃ later, publishEach suffix dir o hs = (.ok (), later) ∧ o.tree.Alike later.tree := by
  induction hs generalizing o with
  | nil => exact ⟨o, rfl, FileTree.Alike.refl o.tree⟩
  | cons h hs ih =>
    rw [List.forall_mem_cons] at opens
    obtain ⟨p, tree, published, alike⟩ := FileTree.publish_of_open opens.1 h.content
    have grown : (o.record tree (dir.join h.path) p).tree = tree := by
      cases p <;> rfl
    obtain ⟨later, rest, alike'⟩ := ih (o.record tree (dir.join h.path) p) fun other member => by
      rw [grown]
      exact (opens.2 other member).alike alike
    rw [grown] at alike'
    refine ⟨later, ?_, alike.trans alike'⟩
    rw [publishEach, published]
    exact rest

theorem publishAll_of_open (suffix : String) (dir : Path) (hs : List Header) (o : Output)
    (opens : ∀ h ∈ hs, FileTree.Open suffix o.tree (dir.join h.path)) :
    ∃ later, publishAll suffix dir o hs = (.ok (), later) ∧ o.tree.Alike later.tree := by
  apply publishEach_of_open
  intro h member
  exact opens h (List.mem_mergeSort.mp member)

/-- Whether a header of this name, and the temporary file for it, can be in a directory. -/
structure Fits (suffix name : String) : Prop where
  unbroken : '/' ∉ name.toList
  clean : '\x00' ∉ s!".{Header.fileOf name}{suffix}".toList
  short : (s!".{Header.fileOf name}{suffix}").utf8ByteSize ≤ FileTree.maxName

theorem Fits.opens {suffix name : String} (fits : Fits suffix name) {tree : FileTree}
    (bare : tree.Keeps .empty) {h : Header} (file : h.file = Header.fileOf name) :
    FileTree.Open suffix tree ((Path.mk ["", ""]).join h.path) := by
  rw [Header.path_of_file file fits.unbroken, Path.root_join_single]
  exact FileTree.open_rooted bare (Header.fileOf_isName name) fits.clean fits.short

end Output
end ShaderVariants
