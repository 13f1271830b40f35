import ShaderVariants.Proofs.Goals
import ShaderVariants.Publication

/-!
Writing files, and publishing. A file that is written, moved or published is read back as it was
given. Publishing goes by a temporary file beside the target, which has another name, so it never
gets in the way of the target, and no directory comes of it.
-/

namespace ShaderVariants.FileTree

/-! ## Writing -/

private theorem eq_concat_of_dropWhile {pieces before : List String} {name : String}
    (apart : pieces.getLast? ≠ some "")
    (shape : pieces.reverse.dropWhile (· == "") = name :: before) :
    name ≠ "" ∧ pieces = before.reverse ++ [name] := by
  cases reversed : pieces.reverse with
  | nil =>
    rw [reversed] at shape
    cases shape
  | cons last rest =>
    have solid : last ≠ "" := by
      rintro rfl
      apply apart
      rw [← List.head?_reverse, reversed, List.head?_cons]
    rw [reversed, List.dropWhile_cons_of_neg (by simpa using solid)] at shape
    cases shape
    refine ⟨solid, ?_⟩
    rw [← List.reverse_cons, ← reversed, List.reverse_reverse]

theorem slot_eq_ok (tree : FileTree) (path : Path) (directory : Place) (name : String) :
    tree.slot path = .ok ⟨directory, name, false⟩ ↔ name ≠ "" ∧ ∃ origin before,
      tree.start path = .ok (origin, before ++ [name]) ∧
      tree.walk origin before = .ok directory ∧ tree.entry? directory = some .directory := by
  unfold slot
  rw [bind_eq_ok]
  constructor
  · rintro ⟨⟨origin, pieces⟩, started, rest⟩
    dsimp only at rest
    split at rest
    · cases rest
    case h_2 last before shape =>
      simp only [bind_eq_ok] at rest
      obtain ⟨way, walked, _, checked, made⟩ := rest
      injection made with made
      injection made with here same slash
      subst here same
      obtain ⟨solid, rfl⟩ := eq_concat_of_dropWhile (by simpa using slash) shape
      exact ⟨solid, origin, before.reverse, started, walked,
        (checkDirectory_iff tree way).mp checked⟩
  · rintro ⟨solid, origin, before, started, walked, found⟩
    refine ⟨_, started, ?_⟩
    have stop : (before ++ [name]).reverse.dropWhile (· == "") = name :: before.reverse := by
      rw [List.reverse_append, List.reverse_singleton, List.singleton_append,
        List.dropWhile_cons_of_neg (by simpa using solid)]
    dsimp only
    rw [stop]
    simp only [bind_eq_ok, List.reverse_reverse]
    refine ⟨directory, walked, (), (checkDirectory_iff tree directory).mpr found, ?_⟩
    have unslashed : (some name == some "") = false := by simpa using solid
    rw [List.getLast?_concat, unslashed]
    rfl

/-- The place of a file to write is where its path leads, if the path ends in a name. -/
theorem filePlace_iff (tree : FileTree) (path : Path) (place : Place) :
    tree.filePlace path = .ok place ↔ (∃ name, path.EndsIn name) ∧ tree.Leads path place ∧
      tree.entry? place ≠ some .directory := by
  unfold filePlace
  rw [bind_eq_ok]
  constructor
  · rintro ⟨⟨directory, name, slash⟩, slotted, rest⟩
    split at rest
    · cases rest
    case isFalse usable =>
      simp only [Slot.isName, Bool.or_eq_true, Bool.not_eq_true', not_or, Bool.not_eq_true,
        Bool.not_eq_false, Bool.and_eq_true, bne_iff_ne, ne_eq] at usable
      obtain ⟨rfl, filler, down⟩ := usable
      obtain ⟨_, origin, before, started, walked, found⟩ :=
        (slot_eq_ok tree path directory name).mp slotted
      rw [bind_eq_ok] at rest
      obtain ⟨_, fits, rest⟩ := rest
      split at rest
      · cases rest
      case isFalse free =>
        cases rest
        have ends : path.EndsIn name := by
          refine ⟨⟨by simpa using filler, down⟩, ?_⟩
          rw [← start_getLast? tree path origin _ started, List.getLast?_concat]
        refine ⟨⟨name, ends⟩, ?_, free⟩
        exact (leads_iff_of_endsIn tree path _ ends).mpr
          ⟨origin, before, directory, started, walked, found, fits, rfl⟩
  · rintro ⟨⟨name, ends⟩, leads, free⟩
    obtain ⟨origin, before, directory, started, walked, found, fits, rfl⟩ :=
      (leads_iff_of_endsIn tree path place ends).mp leads
    refine ⟨⟨directory, name, false⟩, (slot_eq_ok tree path directory name).mpr
      ⟨ends.plain.nonempty, origin, before, started, walked, found⟩, ?_⟩
    have usable : (Slot.mk directory name false).isName = true := by
      simp [Slot.isName, ends.plain.solid, ends.plain.down]
    rw [usable, if_neg (by simp), bind_eq_ok]
    exact ⟨(), fits, if_neg free⟩

theorem filePlace_ne_nil {tree : FileTree} {path : Path} {place : Place}
    (success : tree.filePlace path = .ok place) : place ≠ [] := by
  obtain ⟨⟨name, ends⟩, leads, _⟩ := (filePlace_iff tree path place).mp success
  rintro rfl
  cases leads.getLast? ends

theorem writeFile_iff (tree later : FileTree) (path : Path) (bytes : ByteArray) :
    tree.writeFile path bytes = .ok later ↔
      ∃ place, tree.filePlace path = .ok place ∧ later = tree.put place (.file bytes) := by
  unfold writeFile
  rw [bind_eq_ok]
  constructor
  · rintro ⟨place, found, made⟩
    cases made
    exact ⟨place, found, rfl⟩
  · rintro ⟨place, found, rfl⟩
    exact ⟨place, found, rfl⟩

theorem put_readFile {tree : FileTree} {path : Path} {place : Place} (bytes : ByteArray)
    (success : tree.filePlace path = .ok place) :
    (tree.put place (.file bytes)).readFile path = .ok bytes := by
  obtain ⟨_, leads, free⟩ := (filePlace_iff tree path place).mp success
  rw [readFile_iff]
  exact ⟨place, leads.kept (keeps_put tree bytes free),
    entry?_put_self tree _ (filePlace_ne_nil success)⟩

theorem removeFile_iff (tree later : FileTree) (path : Path) :
    tree.removeFile path = .ok later ↔ ∃ place bytes, tree.Leads path place ∧
      tree.entry? place = some (.file bytes) ∧ later = tree.drop place := by
  simp only [removeFile, bind_eq_ok]
  constructor
  · rintro ⟨⟨place, entry⟩, located, removed⟩
    obtain ⟨leads, there⟩ := (find_iff tree path place entry).mp located
    cases entry with
    | directory => cases removed
    | file bytes =>
      cases removed
      exact ⟨place, bytes, leads, there, rfl⟩
  · rintro ⟨place, bytes, leads, there, rfl⟩
    exact ⟨(place, .file bytes), (find_iff tree path place _).mpr ⟨leads, there⟩, rfl⟩

theorem renameFile_iff (tree later : FileTree) (source target : Path) :
    tree.renameFile source target = .ok later ↔ ∃ place goal bytes, tree.Leads source place ∧
      tree.entry? place = some (.file bytes) ∧ tree.filePlace target = .ok goal ∧
      later = (tree.drop place).put goal (.file bytes) := by
  simp only [renameFile, bind_eq_ok]
  constructor
  · rintro ⟨bytes, read, without, removed, goal, writable, made⟩
    cases made
    obtain ⟨place, content, leads, there, rfl⟩ := (removeFile_iff tree without source).mp removed
    cases read.symm.trans ((readFile_iff tree source content).mpr ⟨place, leads, there⟩)
    exact ⟨place, goal, bytes, leads, there, writable, rfl⟩
  · rintro ⟨place, goal, bytes, leads, there, writable, rfl⟩
    exact ⟨bytes, (readFile_iff tree source bytes).mpr ⟨place, leads, there⟩, tree.drop place,
      (removeFile_iff tree _ source).mpr ⟨place, bytes, leads, there, rfl⟩, goal, writable, rfl⟩

theorem renameFile_readFile {tree later : FileTree} {source target : Path} {bytes : ByteArray}
    (given : tree.readFile source = .ok bytes)
    (success : tree.renameFile source target = .ok later) : later.readFile target = .ok bytes := by
  obtain ⟨place, goal, content, way, there, writable, rfl⟩ :=
    (renameFile_iff tree later source target).mp success
  cases given.symm.trans ((readFile_iff tree source content).mpr ⟨place, way, there⟩)
  obtain ⟨_, leads, free⟩ := (filePlace_iff tree target goal).mp writable
  have kept : tree.Keeps (tree.drop place) := keeps_drop tree (by simp [there])
  have free' : entry? (tree.drop place) goal ≠ some .directory := by
    intro directory
    exact free (drop_directory tree directory)
  rw [readFile_iff]
  exact ⟨goal, leads.kept (kept.trans (keeps_put _ bytes free')),
    entry?_put_self _ _ (filePlace_ne_nil writable)⟩

/-! ## Publishing -/

theorem contentOf_iff (tree : FileTree) (target : Path) (bytes : ByteArray) :
    tree.contentOf target = .ok (some bytes) ↔ tree.readFile target = .ok bytes := by
  unfold contentOf
  split <;> simp_all

theorem hidden_toList (name suffix : String) :
    (s!".{name}{suffix}").toList = '.' :: name.toList ++ suffix.toList := by
  have parts : s!".{name}{suffix}" = "." ++ name ++ suffix := rfl
  rw [parts, String.toList_append, String.toList_append]
  rfl

theorem hidden_isName {name : String} (plain : Path.IsName name) (suffix : String) :
    Path.IsName s!".{name}{suffix}" := by
  have chars := hidden_toList name suffix
  obtain ⟨first, rest, shape⟩ : ∃ first rest, name.toList = first :: rest :=
    List.exists_cons_of_ne_nil (by simpa using plain.nonempty)
  have undotted : name.toList ≠ ['.'] := by
    intro dot
    have same : name = "." := String.toList_inj.mp dot
    subst same
    cases plain.solid
  have apart (other : String) (short : other.toList = [] ∨ other.toList = ['.'] ∨
      other.toList = ['.', '.']) : s!".{name}{suffix}" ≠ other := by
    intro same
    rw [← same, chars, shape] at short
    rcases short with short | short | short
    · cases short
    · cases short
    · simp only [List.cons_append, List.cons.injEq, List.append_eq_nil_iff, true_and] at short
      exact undotted (by rw [shape, short.1, short.2.1])
  have empty := apart "" (.inl rfl)
  have dot := apart "." (.inr (.inl rfl))
  refine ⟨?_, apart ".." (.inr (.inr rfl))⟩
  rw [Path.isFiller, beq_false_of_ne empty, beq_false_of_ne dot]
  rfl

theorem temporary_endsIn (suffix : String) {target : Path} {name : String}
    (ends : target.EndsIn name) :
    ∃ other, other ≠ name ∧ (temporary suffix target).EndsIn other := by
  have longer (same : s!".{name}{suffix}" = name) : False := by
    have chars := congrArg List.length (hidden_toList name suffix)
    rw [same, List.length_append, List.length_cons] at chars
    omega
  refine ⟨s!".{name}{suffix}", longer, ?_⟩
  have plain := hidden_isName ends.plain suffix
  unfold temporary Path.withFileName
  rw [ends.fileName?]
  dsimp only [Option.getD_some]
  split
  · exact Path.endsIn_join_single _ plain
  · exact Path.endsIn_join_single _ plain

theorem goal_temporary_ne (tree : FileTree) (suffix : String) {target : Path} {name : String}
    (ends : target.EndsIn name) : tree.goal target ≠ tree.goal (temporary suffix target) := by
  obtain ⟨other, apart, hidden⟩ := temporary_endsIn suffix ends
  obtain ⟨_, _, here⟩ := tree.goal_parent ends
  obtain ⟨_, _, there⟩ := tree.goal_parent hidden
  rw [here, there]
  intro same
  have last := congrArg List.getLast? same
  rw [List.getLast?_concat, List.getLast?_concat] at last
  exact apart (Option.some.inj last).symm

/-- A temporary file that is there is dropped, and nothing else is. -/
theorem discard_cases (tree : FileTree) (temp : Path) : tree.discard temp = tree ∨
    ∃ place bytes, tree.Leads temp place ∧ tree.entry? place = some (.file bytes) ∧
      tree.discard temp = tree.drop place := by
  unfold discard
  cases removed : tree.removeFile temp with
  | error e => exact Or.inl rfl
  | ok later =>
    obtain ⟨place, bytes, leads, there, rfl⟩ := (removeFile_iff tree later temp).mp removed
    exact Or.inr ⟨place, bytes, leads, there, rfl⟩

theorem discard_of_leads {tree : FileTree} {temp : Path} {place : Place} {bytes : ByteArray}
    (leads : tree.Leads temp place) (there : tree.entry? place = some (.file bytes)) :
    tree.discard temp = tree.drop place := by
  rw [discard, (removeFile_iff tree _ temp).mpr ⟨place, bytes, leads, there, rfl⟩]

theorem alike_discard (tree : FileTree) (temp : Path) : tree.Alike (tree.discard temp) := by
  rcases discard_cases tree temp with same | ⟨place, bytes, _, there, dropped⟩
  · rw [same]
    exact Alike.refl tree
  · rw [dropped]
    exact alike_drop tree (by simp [there])

theorem entry?_discard_of_ne (tree : FileTree) {temp : Path} {place : Place}
    (apart : place ≠ tree.goal temp) : entry? (tree.discard temp) place = tree.entry? place := by
  rcases discard_cases tree temp with same | ⟨other, _, leads, _, dropped⟩
  · rw [same]
  · rw [dropped]
    exact entry?_drop_of_ne tree (leads.goal ▸ apart)

theorem discard_readFile {tree : FileTree} {temp target : Path} {bytes : ByteArray}
    (apart : tree.goal target ≠ tree.goal temp) (read : tree.readFile target = .ok bytes) :
    (tree.discard temp).readFile target = .ok bytes := by
  obtain ⟨place, leads, there⟩ := (readFile_iff tree target bytes).mp read
  cases leads.goal
  refine (readFile_iff _ target bytes).mpr ⟨_, leads.kept (alike_discard tree temp).keeps, ?_⟩
  rw [entry?_discard_of_ne tree apart, there]

/-- A file that cannot be moved cannot be copied either, and for the same reason: what is there to
be read can also be removed, so all that stands against the move is the target. -/
theorem copyFile_error {tree : FileTree} {source target : Path} {e : OsError}
    (refused : tree.renameFile source target = .error e) :
    tree.copyFile source target = .error e := by
  cases read : tree.readFile source with
  | error other =>
    rw [renameFile, read] at refused
    rw [copyFile, read]
    exact refused
  | ok bytes =>
    obtain ⟨place, leads, there⟩ := (readFile_iff tree source bytes).mp read
    have removed := (removeFile_iff tree _ source).mpr ⟨place, bytes, leads, there, rfl⟩
    rw [renameFile, read, removed] at refused
    rw [copyFile, read]
    cases found : tree.filePlace target with
    | error other =>
      rw [found] at refused
      exact refused
    | ok goal =>
      rw [found] at refused
      cases refused

/-- So a copy is tried in vain, and only tells the target in its refusal. -/
theorem transfer_eq (staged : FileTree) (temp target : Path) : staged.transfer temp target =
    (staged.renameFile temp target).mapError (fileFault target) := by
  rw [transfer]
  cases moved : staged.renameFile temp target with
  | ok => rfl
  | error e =>
    rw [copyFile_error moved]

/-- What is read back from the temporary file is compared with what the target holds. -/
theorem replace_eq {staged : FileTree} {temp : Path} {bytes : ByteArray}
    (given : staged.readFile temp = .ok bytes) (target : Path) :
    staged.replace temp target =
      match staged.contentOf target with
      | .error fault => (.error fault, staged)
      | .ok old =>
          if old.map (·.data) = some bytes.data then (.ok .unchanged, staged)
          else
            match staged.renameFile temp target with
            | .ok tree => (.ok .written, tree)
            | .error e => (.error (fileFault target e), staged) := by
  rw [replace, (contentOf_iff _ _ _).mpr given, transfer_eq]
  cases staged.contentOf target with
  | error => rfl
  | ok old =>
    simp only [Option.map_some, eq_comm (a := some bytes.data)]
    cases staged.renameFile temp target <;> rfl

/-- A target is left alone where it holds the content already, and is moved there otherwise. -/
theorem replace_ok_cases {staged later : FileTree} {temp target : Path} {bytes : ByteArray}
    {p : Publication} (given : staged.readFile temp = .ok bytes)
    (success : staged.replace temp target = (.ok p, later)) :
    p = .unchanged ∧ later = staged ∧ staged.readFile target = .ok bytes ∨
      p = .written ∧ staged.renameFile temp target = .ok later := by
  rw [replace_eq given] at success
  split at success
  · cases success
  case h_2 old held =>
    split at success
    case isTrue same =>
      cases success
      obtain ⟨content, rfl, data⟩ := Option.map_eq_some_iff.mp same
      rw [ByteArray.ext data] at held
      exact Or.inl ⟨rfl, rfl, (contentOf_iff _ _ _).mp held⟩
    case isFalse =>
      split at success
      case h_1 moved =>
        cases success
        exact Or.inr ⟨rfl, moved⟩
      · cases success

theorem replace_readFile {staged later : FileTree} {temp target : Path} {bytes : ByteArray}
    {p : Publication} (given : staged.readFile temp = .ok bytes)
    (success : staged.replace temp target = (.ok p, later)) :
    later.readFile target = .ok bytes := by
  rcases replace_ok_cases given success with ⟨_, rfl, held⟩ | ⟨_, moved⟩
  · exact held
  · exact renameFile_readFile given moved

theorem publish_ok_cases {suffix : String} {tree later : FileTree} {target : Path}
    {content : String} {p : Publication}
    (success : tree.publish suffix target content = (.ok p, later)) : ∃ before place final,
      tree.makeParent target = (.ok (), before) ∧
      before.filePlace (temporary suffix target) = .ok place ∧
      replace (before.put place (.file content.toUTF8)) (temporary suffix target) target =
        (.ok p, final) ∧
      later = final.discard (temporary suffix target) := by
  unfold publish at success
  split at success
  · cases success
  case h_2 before made =>
    dsimp only at success
    split at success
    · cases success
    case h_2 staged written =>
      obtain ⟨place, found, rfl⟩ := (writeFile_iff before staged _ _).mp written
      generalize replaced : replace (before.put place (.file content.toUTF8))
        (temporary suffix target) target = answer at success
      obtain ⟨result, final⟩ := answer
      cases success
      exact ⟨before, place, final, made, found, replaced, rfl⟩

theorem publish_readFile {suffix : String} {tree later : FileTree} {target : Path} {name : String}
    (ends : target.EndsIn name) {content : String} {p : Publication}
    (success : tree.publish suffix target content = (.ok p, later)) :
    later.readFile target = .ok content.toUTF8 := by
  obtain ⟨before, place, final, _, staging, replaced, rfl⟩ := publish_ok_cases success
  exact discard_readFile (final.goal_temporary_ne suffix ends)
    (replace_readFile (put_readFile _ staging) replaced)

theorem contentOf_of_leads {tree : FileTree} {target : Path} {goal : Place}
    (leads : tree.Leads target goal) (free : tree.entry? goal ≠ some .directory) :
    ∃ old, tree.contentOf target = .ok old := by
  cases there : tree.entry? goal with
  | some entry =>
    cases entry with
    | directory => exact absurd there free
    | file old =>
      refine ⟨some old, (contentOf_iff tree target old).mpr ?_⟩
      exact (readFile_iff tree target old).mpr ⟨goal, leads, there⟩
  | none =>
    obtain ⟨origin, pieces, started, walked⟩ := leads
    refine ⟨none, ?_⟩
    simp only [contentOf, readFile, find, started, walked, there, bind, Except.bind]

/-! ## Going through -/

/-- Behind the last piece of a path that is not empty there are only slashes. -/
theorem eq_append_slashes {pieces before : List String} {name : String}
    (shape : pieces.reverse.dropWhile (· == "") = name :: before) :
    ∃ slashes, pieces = before.reverse ++ name :: slashes ∧
      ∀ f ∈ slashes, Path.isFiller f = true := by
  have split := List.takeWhile_append_dropWhile (p := (· == "")) (l := pieces.reverse)
  refine ⟨(pieces.reverse.takeWhile (· == "")).reverse, ?_, fun f member => ?_⟩
  · rw [shape] at split
    simpa using (congrArg List.reverse split).symm
  · have empty := List.mem_takeWhile_imp (List.mem_reverse.mp member)
    rw [Path.isFiller, empty, Bool.true_or]

/-- The last piece of a path to a directory says nothing, or it is the name of the directory. -/
theorem slot_of_leads {tree : FileTree} {path : Path} {place : Place}
    (leads : tree.Leads path place) : ∃ slot, tree.slot path = .ok slot ∧
      (slot.isName = true → checkName slot.name = .ok () ∧ slot.place = place) := by
  obtain ⟨origin, pieces, started, walked⟩ := leads
  simp only [slot, started, bind, Except.bind]
  cases shape : pieces.reverse.dropWhile (· == "") with
  | nil => exact ⟨_, rfl, fun named => by cases named⟩
  | cons name before =>
    obtain ⟨slashes, rfl, fillers⟩ := eq_append_slashes shape
    rw [walk_append] at walked
    cases first : tree.walk origin before.reverse with
    | error e =>
      rw [first] at walked
      cases walked
    | ok directory =>
      rw [first] at walked
      have behind : tree.walk directory (name :: slashes) = .ok place := walked
      simp only [walk, bind_eq_ok] at behind
      obtain ⟨_, checked, rest⟩ := behind
      simp only [first, checked]
      refine ⟨_, rfl, fun named => ?_⟩
      have plain : Path.isFiller name = false ∧ name ≠ ".." := by simpa [Slot.isName] using named
      rw [plain.1, if_neg Bool.false_ne_true, if_neg plain.2] at rest
      obtain ⟨_, fits, rest⟩ := bind_eq_ok.mp rest
      refine ⟨fits, ?_⟩
      rw [walk_eq_foldl tree slashes _ place rest, foldl_step_fillers _ slashes fillers, Slot.place]

theorem makeDirectories_of_leads {tree : FileTree} {path : Path} {place : Place}
    (leads : tree.Leads path place) (there : tree.entry? place = some .directory) :
    tree.makeDirectories path = (.ok (), tree) := by
  have stands : tree.isDirectory path = true := by
    simp only [isDirectory, (find_iff tree path place _).mpr ⟨leads, there⟩]
  have refused : tree.makeDirectory path = .error .alreadyExists := by
    obtain ⟨slot, slotted, taken⟩ := slot_of_leads leads
    simp only [makeDirectory, slotted, bind, Except.bind]
    cases named : slot.isName with
    | false => rfl
    | true =>
      obtain ⟨fits, here⟩ := taken named
      simp [fits, here, there]
  rw [makeDirectories]
  cases path.pieces.length with
  | zero => rfl
  | succ left =>
    rw [makeMissing]
    split
    · rfl
    · simp only [refused, settle, stands, if_true]

/-- Whether a target can be published without making directories: its directory is there, and
neither it nor its temporary file is a directory. -/
structure Open (suffix : String) (tree : FileTree) (target : Path) : Prop where
  parent : ∀ parent, target.parent? = some parent →
    ∃ place, tree.Leads parent place ∧ tree.entry? place = some .directory
  writable : ∃ place, tree.filePlace target = .ok place
  temporary : ∃ place, tree.filePlace (temporary suffix target) = .ok place

theorem Alike.filePlace {tree later : FileTree} (alike : tree.Alike later) {path : Path}
    {place : Place} (found : tree.filePlace path = .ok place) :
    later.filePlace path = .ok place := by
  obtain ⟨ends, leads, free⟩ := (filePlace_iff tree path place).mp found
  exact (filePlace_iff later path place).mpr
    ⟨ends, leads.kept alike.keeps, fun there => free (alike.back.directories place there)⟩

theorem Open.alike {suffix : String} {tree later : FileTree} {target : Path}
    (opens : Open suffix tree target) (alike : tree.Alike later) : Open suffix later target where
  parent parent above := by
    obtain ⟨place, leads, there⟩ := opens.parent parent above
    exact ⟨place, leads.kept alike.keeps, alike.keeps.directories place there⟩
  writable := opens.writable.imp fun _ => alike.filePlace
  temporary := opens.temporary.imp fun _ => alike.filePlace

theorem replace_of_leads {staged : FileTree} {temp target : Path} {place goal : Place}
    {bytes : ByteArray} (leads : staged.Leads temp place)
    (there : staged.entry? place = some (.file bytes))
    (writable : staged.filePlace target = .ok goal) :
    ∃ p later, staged.replace temp target = (.ok p, later) ∧ staged.Alike later := by
  obtain ⟨_, leads', free⟩ := (filePlace_iff staged target goal).mp writable
  obtain ⟨old, held⟩ := contentOf_of_leads leads' free
  have moved := (renameFile_iff staged _ temp target).mpr
    ⟨place, goal, bytes, leads, there, writable, rfl⟩
  rw [replace_eq ((readFile_iff _ _ _).mpr ⟨place, leads, there⟩), held, moved]
  dsimp only
  split
  · exact ⟨.unchanged, staged, rfl, Alike.refl staged⟩
  · refine ⟨.written, _, rfl, ?_⟩
    have dropped := alike_drop staged (fun found => by rw [there] at found; cases found)
    exact dropped.trans (alike_put _ bytes (filePlace_ne_nil writable)
      fun found => free (drop_directory _ found))

theorem Open.makeParent {suffix : String} {tree : FileTree} {target : Path}
    (opens : Open suffix tree target) : tree.makeParent target = (.ok (), tree) := by
  unfold FileTree.makeParent
  split
  · rfl
  case h_2 parent above =>
    obtain ⟨_, leads, there⟩ := opens.parent parent above
    rw [makeDirectories_of_leads leads there]
    rfl

theorem publish_of_open {suffix : String} {tree : FileTree} {target : Path}
    (opens : Open suffix tree target) (content : String) :
    ∃ p later, tree.publish suffix target content = (.ok p, later) ∧ tree.Alike later := by
  obtain ⟨goal, writable⟩ := opens.writable
  obtain ⟨place, staging⟩ := opens.temporary
  obtain ⟨_, way, vacant⟩ := (filePlace_iff tree _ place).mp staging
  have below := filePlace_ne_nil staging
  have made := opens.makeParent
  have written := (writeFile_iff tree _ _ content.toUTF8).mpr ⟨place, staging, rfl⟩
  have staged := alike_put tree content.toUTF8 below vacant
  obtain ⟨p, later, replaced, alike⟩ := replace_of_leads (way.kept staged.keeps)
    (entry?_put_self tree _ below) (staged.filePlace writable)
  refine ⟨p, later.discard (temporary suffix target), ?_,
    (staged.trans alike).trans (alike_discard later _)⟩
  simp only [publish, made, written, replaced]

/-! ## At the root -/

theorem start_rooted (tree : FileTree) {name : String} (clean : '\x00' ∉ name.toList)
    (short : name.utf8ByteSize ≤ maxName) : tree.start ⟨["", name]⟩ = .ok ([], [name]) := by
  have parts : (Path.mk ["", name]).text = "" ++ "/" ++ name := rfl
  apply start_absolute tree rfl
  · rw [parts, String.toList_append]
    simpa using clean
  · rw [parts, String.utf8ByteSize_append]
    have slash : ("" ++ "/" : String).utf8ByteSize = 1 := rfl
    simp only [maxName, maxPath] at *
    omega

theorem leads_absolute (tree : FileTree) {place : Place} {name : String} (plain : Path.IsName name)
    (way : tree.walk [] place = .ok place) (there : tree.entry? place = some .directory)
    (started : tree.start ⟨"" :: place ++ [name]⟩ = .ok ([], place ++ [name]))
    (short : name.utf8ByteSize ≤ maxName) :
    tree.Leads ⟨"" :: place ++ [name]⟩ (place ++ [name]) := by
  have ends : (Path.mk ("" :: place ++ [name])).EndsIn name :=
    ⟨plain, List.getLast?_concat⟩
  rw [leads_iff_of_endsIn tree _ _ ends]
  exact ⟨[], place, place, started, way, there, if_neg (Nat.not_lt.mpr short), rfl⟩

theorem leads_rooted (tree : FileTree) {name : String} (plain : Path.IsName name)
    (clean : '\x00' ∉ name.toList) (short : name.utf8ByteSize ≤ maxName) :
    tree.Leads ⟨["", name]⟩ [name] :=
  @leads_absolute tree [] name plain rfl rfl (start_rooted tree clean short) short

/-- A target directly in a directory that is there is open, if it and its temporary file can be
reached and are no directories. -/
theorem open_of_leads {suffix : String} {tree : FileTree} {dir : Path} {place : Place}
    {name : String} (leads : tree.Leads dir place) (there : tree.entry? place = some .directory)
    (plain : Path.IsName name) (parent : (dir.join (.single name)).parent? = some dir)
    (reach : ∀ file ∈ [name, s!".{name}{suffix}"],
      tree.Leads (dir.join (.single file)) (place ++ [file]) ∧
        tree.entry? (place ++ [file]) ≠ some .directory) :
    Open suffix tree (dir.join (.single name)) := by
  have ends := dir.endsIn_join_single plain
  have hidden : temporary suffix (dir.join (.single name)) =
      dir.join (.single s!".{name}{suffix}") := by
    simp only [temporary, Path.withFileName, ends.fileName?, parent]
    rfl
  obtain ⟨way, free⟩ := reach name List.mem_cons_self
  obtain ⟨way', free'⟩ := reach _ (List.mem_cons_of_mem _ List.mem_cons_self)
  refine ⟨fun p above => ?_, ⟨_, (filePlace_iff _ _ _).mpr ⟨⟨_, ends⟩, way, free⟩⟩, ?_⟩
  · cases parent.symm.trans above
    exact ⟨place, leads, there⟩
  · rw [hidden]
    exact ⟨_, (filePlace_iff _ _ _).mpr
      ⟨⟨_, dir.endsIn_join_single (hidden_isName plain suffix)⟩, way', free'⟩⟩

/-- What is true of the characters and the size of a temporary name is true of the name. -/
theorem name_of_hidden {suffix name : String} (clean : '\x00' ∉ s!".{name}{suffix}".toList)
    (short : (s!".{name}{suffix}").utf8ByteSize ≤ maxName) :
    '\x00' ∉ name.toList ∧ name.utf8ByteSize ≤ maxName := by
  constructor
  · rw [hidden_toList] at clean
    intro inside
    simp [inside] at clean
  · have parts : s!".{name}{suffix}" = "." ++ name ++ suffix := rfl
    rw [parts, String.utf8ByteSize_append, String.utf8ByteSize_append] at short
    omega

/-- All targets at the root of a tree of files alone can be published. -/
theorem open_rooted {suffix : String} {tree : FileTree} (bare : tree.Keeps .empty)
    {name : String} (plain : Path.IsName name) (clean : '\x00' ∉ s!".{name}{suffix}".toList)
    (short : (s!".{name}{suffix}").utf8ByteSize ≤ maxName) : Open suffix tree ⟨["", name]⟩ := by
  obtain ⟨clean', short'⟩ := name_of_hidden clean short
  have started : tree.start ⟨["", ""]⟩ = .ok ([], [""]) := start_rooted tree (by decide) (by decide)
  have top : tree.Leads ⟨["", ""]⟩ [] := ⟨[], [""], started, rfl⟩
  have free (other : String) : tree.entry? ([] ++ [other]) ≠ some .directory := by
    intro found
    cases bare.directories _ found
  have parent : (Path.mk ["", name]).parent? = some ⟨["", ""]⟩ := by
    have kept := Path.dropLastFillers_concat [] plain.solid
    rw [List.nil_append] at kept
    simp only [Path.parent?, Path.anchored, kept]
    rfl
  rw [← Path.root_join_single] at parent ⊢
  refine open_of_leads top rfl plain parent ?_
  rw [List.forall_mem_cons, List.forall_mem_singleton, Path.root_join_single,
    Path.root_join_single]
  exact ⟨⟨leads_rooted tree plain clean' short', free _⟩,
    leads_rooted tree (hidden_isName plain suffix) clean short, free _⟩

section
variable {tree : FileTree} {directory : String} (there : tree.entry? [directory] = some .directory)
  (plain : Path.IsName directory) (clean : '\x00' ∉ directory.toList)
  (short : directory.utf8ByteSize ≤ maxName)
include there plain clean short

theorem leads_below {file : String} (plain' : Path.IsName file) (clean' : '\x00' ∉ file.toList)
    (short' : file.utf8ByteSize ≤ maxName) :
    tree.Leads ⟨["", directory, file]⟩ [directory, file] := by
  have started : tree.start ⟨["", directory, file]⟩ = .ok ([], [directory, file]) := by
    have parts : (Path.mk ["", directory, file]).text = "" ++ "/" ++ directory ++ "/" ++ file := rfl
    apply start_absolute tree rfl
    · rw [parts, String.toList_append, String.toList_append, String.toList_append]
      simp [clean, clean']
    · rw [parts, String.utf8ByteSize_append, String.utf8ByteSize_append,
        String.utf8ByteSize_append]
      have slash : ("/" : String).utf8ByteSize = 1 := rfl
      have empty : ("" ++ "/" : String).utf8ByteSize = 1 := rfl
      simp only [maxName, maxPath] at *
      omega
  have way : tree.walk [] [directory] = .ok [directory] := by
    rw [walk_singleton tree [] plain, (checkDirectory_iff tree []).mpr (entry?_root tree),
      checkName, if_neg (Nat.not_lt.mpr short)]
    rfl
  exact @leads_absolute tree [directory] file plain' way there started short'

/-- Targets in a directory at the root are open where they and their temporary files are no
directories. -/
theorem open_below {suffix name : String} (plain' : Path.IsName name)
    (free : ∀ file ∈ [name, s!".{name}{suffix}"], tree.entry? [directory, file] ≠ some .directory)
    (clean' : '\x00' ∉ s!".{name}{suffix}".toList)
    (short' : (s!".{name}{suffix}").utf8ByteSize ≤ maxName) :
    Open suffix tree ((Path.mk ["", directory]).join (.single name)) := by
  obtain ⟨clean'', short''⟩ := name_of_hidden clean' short'
  have joined (file : String) :
      (Path.mk ["", directory]).join (.single file) = ⟨["", directory, file]⟩ := by
    have last : some directory ≠ some "" := fun same => plain.nonempty (Option.some.inj same)
    rw [Path.join, Path.single_isAbsolute, if_neg Bool.false_ne_true]
    exact if_neg last
  have parent : (Path.mk ["", directory, name]).parent? = some ⟨["", directory]⟩ := by
    have kept := Path.dropLastFillers_concat [directory] plain'.solid
    have kept' := Path.dropLastFillers_concat [] plain.solid
    rw [List.singleton_append] at kept
    rw [List.nil_append] at kept'
    simp only [Path.parent?, Path.anchored, kept, List.dropLast, kept']
    rfl
  rw [← joined] at parent
  refine open_of_leads (leads_rooted tree plain clean short) there plain' parent ?_
  rw [List.forall_mem_cons, List.forall_mem_singleton, joined, joined]
  exact ⟨⟨leads_below there plain clean short plain' clean'' short'', free _ List.mem_cons_self⟩,
    leads_below there plain clean short (hidden_isName plain' suffix) clean' short',
    free _ (List.mem_cons_of_mem _ List.mem_cons_self)⟩

end

end ShaderVariants.FileTree
