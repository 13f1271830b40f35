import ShaderVariants.Proofs.Ledger
import ShaderVariants.Proofs.Sources

/-!
Files that fail, fail alone. A file that cannot be read or whose structures are refused might as
well not be there, and one whose interfaces or shader are refused might as well have had nothing
but its structures: the other files have the same fates, and all that differs is one failure.
-/

namespace ShaderVariants.Intake
open Catalog

/-! ## Fates of some of the files -/

theorem Turn.of_same {tree other : FileTree} {turn later turn' later' : Intake} {path : Path}
    {fate : Fate} (happens : Turn tree turn later path fate turn' later')
    (same : Description.ofFile other path = Description.ofFile tree path) :
    Turn other turn later path fate turn' later' := by
  cases happens with
  | unread opened => exact .unread (same.trans opened)
  | unregistered opened refused => exact .unregistered (same.trans opened) refused
  | refused opened staged added refused => exact .refused (same.trans opened) staged added refused
  | accepted opened staged added made built described =>
    exact .accepted (same.trans opened) staged added made built described

theorem fatesFrom_of_same {tree other : FileTree} (paths : List Path)
    (same : ∀ p ∈ paths, Description.ofFile other p = Description.ofFile tree p)
    (turn later : Intake) : fatesFrom other turn later paths = fatesFrom tree turn later paths := by
  induction paths generalizing turn later with
  | nil => rfl
  | cons path paths ih =>
    rw [List.forall_mem_cons] at same
    obtain ⟨fate, turn', later', happens⟩ := turn_cases tree turn later path
    rw [happens.fates, (happens.of_same same.1).fates, ih same.2]

theorem registered_of_same {tree other : FileTree} (paths : List Path)
    (same : ∀ p ∈ paths, (Description.ofFile other p).toOption.map (·.structures) =
      (Description.ofFile tree p).toOption.map (·.structures))
    (i : Intake) : registered other i paths = registered tree i paths := by
  induction paths generalizing i with
  | nil => rfl
  | cons path paths ih =>
    rw [List.forall_mem_cons] at same
    have here := same.1
    rw [registered, registered]
    cases mine : Description.ofFile tree path <;> cases theirs : Description.ofFile other path <;>
      rw [mine, theirs] at here
    · exact ih same.2 i
    · cases here
    · cases here
    · simp only [Except.toOption, Option.map_some, Option.some.injEq] at here
      simp only [here]
      exact ih same.2 _

/-- The fates of the files behind others only depend on two intakes that these leave. -/
theorem fatesFrom_append (tree : FileTree) (before : List Path) (turn later : Intake) :
    ∃ turn' later', ∀ other,
      (∀ p ∈ before, Description.ofFile other p = Description.ofFile tree p) → ∀ after,
        registered other turn (before ++ after) = registered other turn' after ∧
        fatesFrom other turn later (before ++ after) =
          fatesFrom tree turn later before ++ fatesFrom other turn' later' after := by
  induction before generalizing turn later with
  | nil => exact ⟨turn, later, fun other _ after => ⟨rfl, rfl⟩⟩
  | cons path before ih =>
    obtain ⟨fate, next, next', happens⟩ := turn_cases tree turn later path
    obtain ⟨turn', later', split⟩ := ih next next'
    refine ⟨turn', later', fun other same after => ?_⟩
    rw [List.forall_mem_cons] at same
    have happens' := happens.of_same same.1
    rw [List.cons_append, happens'.registered, happens'.fates, happens.fates, List.cons_append,
      (split other same.2 after).1, (split other same.2 after).2]
    exact ⟨rfl, rfl⟩

/-- Where a file stands among others: what happens at its turn, and the fates of the files before
it, also in trees in which these files are the same. -/
structure Stands (tree : FileTree) (i start : Intake) (before after : List Path) (path : Path)
    (fate : Fate) (front : List (Path × Fate)) (turn later turn' later' : Intake) : Prop where
  happens : Turn tree turn later path fate turn' later'
  absent : path ∉ before ∧ path ∉ after
  split : ∀ other, (∀ p ∈ before, Description.ofFile other p = Description.ofFile tree p) →
    ∀ rest, registered other i (before ++ rest) = registered other turn rest ∧
      fatesFrom other i start (before ++ rest) = front ++ fatesFrom other turn later rest

theorem fates_stands {tree : FileTree} {i : Intake} {paths : List Path} (distinct : paths.Nodup)
    {path : Path} {fate : Fate} (member : (path, fate) ∈ fates tree i paths) :
    ∃ before after front turn later turn' later', paths = before ++ path :: after ∧
      Stands tree i (registered tree i paths) before after path fate front turn later turn'
        later' := by
  have inside : path ∈ paths := by
    rw [← fates_paths tree i paths]
    exact List.mem_map_of_mem member
  obtain ⟨before, after, shape⟩ := List.append_of_mem inside
  rw [shape, List.nodup_append, List.nodup_cons] at distinct
  have early : path ∉ before := fun here =>
    distinct.2.2 path here path List.mem_cons_self rfl
  have late : path ∉ after := distinct.2.1.1
  obtain ⟨turn, later, split⟩ := fatesFrom_append tree before i (registered tree i paths)
  obtain ⟨fate', turn', later', happens⟩ := turn_cases tree turn later path
  have same : fate = fate' := by
    have elsewhere (turn later : Intake) (others : List Path) (absent : path ∉ others) :
        (path, fate) ∉ fatesFrom tree turn later others := by
      intro there
      have named : path ∈ (fatesFrom tree turn later others).map (·.1) :=
        List.mem_map_of_mem there
      rw [fatesFrom_paths] at named
      exact absent named
    have whole := (split tree (fun _ _ => rfl) (path :: after)).2
    rw [← shape, happens.fates] at whole
    rw [fates, whole, List.mem_append, List.mem_cons] at member
    rcases member with there | here | there
    · exact absurd there (elsewhere _ _ _ early)
    · exact congrArg Prod.snd here
    · exact absurd there (elsewhere _ _ _ late)
  exact ⟨before, after, _, turn, later, turn', later', shape, same ▸ happens, ⟨early, late⟩, split⟩

/-- A file of which nothing is taken leaves the fates of the others as they are. -/
theorem fates_erase {tree : FileTree} {i : Intake} {paths : List Path} (distinct : paths.Nodup)
    {path : Path} {fate : Fate} (member : (path, fate) ∈ fates tree i paths)
    (early : (∃ fault, fate = .unread fault) ∨ ∃ fault, fate = .unregistered fault) :
    ∃ front back, fates tree i paths = front ++ [(path, fate)] ++ back ∧
      fates tree i (paths.erase path) = front ++ [] ++ back := by
  obtain ⟨before, after, front, turn, later, turn', later', rfl, stands⟩ :=
    fates_stands distinct member
  have split := stands.split tree fun _ _ => rfl
  have still : turn' = turn ∧ later' = later := by
    have happens := stands.happens
    rcases early with ⟨fault, rfl⟩ | ⟨fault, rfl⟩ <;> cases happens <;> exact ⟨rfl, rfl⟩
  obtain ⟨rfl, rfl⟩ := still
  have without : (before ++ path :: after).erase path = before ++ after := by
    rw [List.erase_append_right _ stands.absent.1, List.erase_cons_head]
  have registered' : registered tree i (before ++ after) =
      registered tree i (before ++ path :: after) := by
    rw [(split _).1, (split _).1, stands.happens.registered]
  refine ⟨front, fatesFrom tree turn' later' after, ?_, ?_⟩
  · rw [fates, (split _).2, stands.happens.fates, List.append_assoc, List.singleton_append]
  · rw [without, fates, registered', (split _).2, List.append_nil]

/-- Whether files have the same descriptions in another tree, but one has nothing but its
structures there. -/
structure OnlyStructures (tree other : FileTree) (paths : List Path) (path : Path) : Prop where
  others : ∀ p ∈ paths, p ≠ path → Description.ofFile other p = Description.ofFile tree p
  here : ∀ d, Description.ofFile tree path = .ok d →
    Description.ofFile other path = .ok ⟨none, d.structures, []⟩

/-- A file whose interfaces or shader are refused leaves the fates of the others as they would be
if it had only its structures. -/
theorem fates_onlyStructures {tree other : FileTree} {i : Intake} {paths : List Path}
    (distinct : paths.Nodup) {path : Path} {structures : List SharedStructure} {fault : Fault}
    (member : (path, .refused structures fault) ∈ fates tree i paths)
    (only : OnlyStructures tree other paths path) :
    ∃ front back, fates tree i paths = front ++ [(path, .refused structures fault)] ++ back ∧
      fates other i paths = front ++ [(path, .accepted structures [] none)] ++ back := by
  obtain ⟨before, after, front, turn, later, turn', later', rfl, stands⟩ :=
    fates_stands distinct member
  have happens := stands.happens
  cases happens with
  | @refused d types _ _ opened staged added refused =>
    have same (files : List Path) (among : ∀ p ∈ files, p ∈ before ++ path :: after)
        (absent : path ∉ files) :
        ∀ p ∈ files, Description.ofFile other p = Description.ofFile tree p := by
      intro p inside
      exact only.others p (among p inside) fun here => absent (here ▸ inside)
    have front' := same before (by simp +contextual) stands.absent.1
    have back' := same after (by simp +contextual) stands.absent.2
    have registered' : registered other i (before ++ path :: after) =
        registered tree i (before ++ path :: after) := by
      apply registered_of_same
      intro p inside
      by_cases here : p = path
      · rw [here, opened, only.here d opened]
        rfl
      · rw [only.others p inside here]
    have still : later.catalog.grow (.description [] none) = later.catalog := by
      simp [grow]
    have alone : (later.addDescription ⟨none, d.structures, []⟩).1 =
        (.ok (), later.catalog.grow (.description [] none)) := by
      rw [still]
      rfl
    have happens' : Turn other turn later path (.accepted structures [] none)
        { turn with types, catalog := turn.catalog.grow (.sharedStructures structures) }
        { later with catalog := later.catalog.grow (.description [] none) } :=
      .accepted (only.here d opened) staged added rfl rfl alone
    rw [still] at happens'
    refine ⟨front, fatesFrom tree
      { turn with types, catalog := turn.catalog.grow (.sharedStructures structures) } later after,
      ?_, ?_⟩
    · rw [fates, (stands.split tree (fun _ _ => rfl) _).2, stands.happens.fates,
        List.append_assoc, List.singleton_append]
    · rw [fates, registered', (stands.split other front' _).2,
        happens'.fates, fatesFrom_of_same after back', List.append_assoc,
        List.singleton_append]

/-! ## One failure more -/

def Inserts (a : String) (l other : List String) : Prop :=
  ∃ front back, other = front ++ back ∧ l = front ++ a :: back

theorem Inserts.append_left {a : String} {l other : List String} (inserts : Inserts a l other)
    (before : List String) : Inserts a (before ++ l) (before ++ other) := by
  obtain ⟨front, back, rfl, rfl⟩ := inserts
  exact ⟨before ++ front, back, by simp, by simp⟩

theorem Inserts.append_right {a : String} {l other : List String} (inserts : Inserts a l other)
    (after : List String) : Inserts a (l ++ after) (other ++ after) := by
  obtain ⟨front, back, rfl, rfl⟩ := inserts
  exact ⟨front, back ++ after, by simp, by simp⟩

/-- Whether an intake has all that another one has, and one failure more. -/
structure OneMore (message : String) (i other : Intake) : Prop where
  types : i.types = other.types
  structures : i.catalog.structures = other.catalog.structures
  interfaces : i.catalog.interfaces = other.catalog.interfaces
  shaders : i.catalog.shaders = other.catalog.shaders
  pending : i.catalog.pending = other.catalog.pending
  selectors : i.catalog.selectors = other.catalog.selectors
  failures : Inserts message i.catalog.failures other.catalog.failures

theorem messages_append (step : Step) (first second : List (Path × Fate)) :
    messages step (first ++ second) = messages step first ++ messages step second :=
  List.filterMap_append

/-- Fates that leave the same but for one message account for one failure more. -/
theorem oneMore_of_accounts {start i other : Intake} {front mid mid' back : List (Path × Fate)}
    (accounts : Accounts start i (front ++ mid ++ back))
    (accounts' : Accounts start other (front ++ mid' ++ back))
    (structures : mid.flatMap (·.2.structures) = mid'.flatMap (·.2.structures))
    (interfaces : mid.flatMap (·.2.interfaces) = mid'.flatMap (·.2.interfaces))
    (shaders : mid.flatMap (·.2.shaders) = mid'.flatMap (·.2.shaders))
    {step : Step} {message : String} (said : messages step mid = [message])
    (silent : ∀ s, messages s mid' = []) (once : ∀ s, s ≠ step → messages s mid = []) :
    OneMore message i other := by
  have inserts : Inserts message (messages step (front ++ mid ++ back))
      (messages step (front ++ mid' ++ back)) := by
    refine ⟨messages step front, messages step back, ?_, ?_⟩
    · simp [messages_append, silent]
    · simp [messages_append, said]
  have same (s : Step) (apart : s ≠ step) :
      messages s (front ++ mid ++ back) = messages s (front ++ mid' ++ back) := by
    simp [messages_append, silent, once s apart]
  constructor
  · have scopes := accounts.types
    simp only [List.flatMap_append, structures] at scopes
    rw [← List.flatMap_append, ← List.flatMap_append, ← accounts'.types] at scopes
    exact congrArg TypeScope.mk scopes
  · simp only [accounts.structures, accounts'.structures, List.flatMap_append, structures]
  · simp only [accounts.interfaces, accounts'.interfaces, List.flatMap_append, interfaces]
  · simp only [accounts.shaders, accounts'.shaders, List.flatMap_append, shaders]
  · simp only [accounts.pending, accounts'.pending, List.flatMap_append, shaders]
  · simp only [accounts.selectors, accounts'.selectors, List.flatMap_append, shaders]
  · rw [accounts.failures, accounts'.failures]
    apply Inserts.append_left
    cases step with
    | reading =>
      rw [same .registering (by simp), same .describing (by simp)]
      exact (inserts.append_right _).append_right _
    | registering =>
      rw [same .reading (by simp), same .describing (by simp)]
      exact (inserts.append_left _).append_right _
    | describing =>
      rw [same .reading (by simp), same .registering (by simp)]
      exact inserts.append_left _

/-- Every file has a fate that is true of it. A file that fails leaves one failure behind. For all
else it might as well not be there, or if it fails when its structures are already registered, it
might as well have had nothing but these. -/
theorem failing_file_alone (tree : FileTree) (i : Intake) (paths : List Path)
    (distinct : paths.Nodup) :
    (fates tree i paths).map (·.1) = paths ∧
    ∀ path fate step message, (path, fate) ∈ fates tree i paths →
      fate.message path step = some message →
        fate.Holds tree (takeFiles tree i paths).types path ∧
        (step ≠ .describing →
          OneMore message (takeFiles tree i paths) (takeFiles tree i (paths.erase path))) ∧
        (step = .describing → ∀ other, OnlyStructures tree other paths path →
          OneMore message (takeFiles tree i paths) (takeFiles other i paths)) := by
  refine ⟨fates_paths tree i paths, ?_⟩
  intro path fate step message member failed
  have accounts := takeFiles_accounts tree i paths
  have said : messages step [(path, fate)] = [message] := messages_of_failed failed []
  refine ⟨fates_hold tree i paths _ member, ?_, ?_⟩
  · intro early
    have nothing : (∃ fault, fate = .unread fault) ∨ ∃ fault, fate = .unregistered fault := by
      cases fate with
      | unread fault => exact Or.inl ⟨fault, rfl⟩
      | unregistered fault => exact Or.inr ⟨fault, rfl⟩
      | refused _ _ | accepted _ _ _ => cases step <;> contradiction
    obtain ⟨front, back, whole, without⟩ := fates_erase distinct member nothing
    have accounts' := takeFiles_accounts tree i (paths.erase path)
    rw [whole] at accounts
    rw [without] at accounts'
    have once (s : Step) (apart : s ≠ step) : messages s [(path, fate)] = [] :=
      messages_of_silent (Fate.message_once failed apart) []
    rcases nothing with ⟨fault, rfl⟩ | ⟨fault, rfl⟩ <;>
      exact oneMore_of_accounts accounts accounts' rfl rfl rfl said (fun _ => rfl) once
  · rintro rfl other only
    obtain ⟨structures, fault, rfl⟩ : ∃ structures fault, fate = .refused structures fault := by
      cases fate with
      | refused structures fault => exact ⟨structures, fault, rfl⟩
      | unread _ | unregistered _ | accepted _ _ _ => cases failed
    obtain ⟨front, back, whole, only'⟩ := fates_onlyStructures distinct member only
    have accounts' := takeFiles_accounts other i paths
    rw [whole] at accounts
    rw [only'] at accounts'
    have once (s : Step) (apart : s ≠ .describing) :
        messages s [(path, .refused structures fault)] = [] :=
      messages_of_silent (Fate.message_once failed apart) []
    exact oneMore_of_accounts accounts accounts' rfl rfl rfl said (fun s => by cases s <;> rfl) once

private def reservedSource : String :=
  "\x7b\"GlobalStructures\":[\x7b\"Name\":\"ShaderPermutations\"\x7d]\x7d"

private def clashingSource : String :=
  "\x7b\"GlobalStructures\":[\x7b\"Name\":\"Light\"\x7d]," ++
    "\"ShaderInputs\":[\x7b\"Name\":\"Light\",\"ConstantBuffer\":\x7b\"Register\":0\x7d\x7d]\x7d"

private def structureSource : String := "\x7b\"GlobalStructures\":[\x7b\"Name\":\"Light\"\x7d]\x7d"

theorem failing_file_alone_three :
    let tree : FileTree :=
      ⟨[(["b.json"], .file reservedSource.toUTF8), (["c.json"], .file clashingSource.toUTF8)], []⟩
    let other : FileTree :=
      ⟨[(["b.json"], .file reservedSource.toUTF8), (["c.json"], .file structureSource.toUTF8)], []⟩
    let a : Path := ⟨["", "a.json"]⟩
    let b : Path := ⟨["", "b.json"]⟩
    let c : Path := ⟨["", "c.json"]⟩
    let i : Intake := .start .empty []
    OneMore "io error on '/a.json': No such file or directory (os error 2)"
        (takeFiles tree i [a, b, c]) (takeFiles tree i [b, c]) ∧
      OneMore "/b.json: duplicate structure name: 'ShaderPermutations'"
        (takeFiles tree i [a, b, c]) (takeFiles tree i [a, c]) ∧
      OneMore "/c.json: duplicate shader inputs name: 'Light'"
        (takeFiles tree i [a, b, c]) (takeFiles other i [a, b, c]) := by
  intro tree other a b c i
  have missing (t : FileTree) (free : t.entry? ["a.json"] = none) :
      Description.ofFile t a = .error (.file "/a.json" .notFound) :=
    Description.ofFile_missing ⟨rfl, by decide⟩ (by decide) (by decide) free
  have reserved (t : FileTree) (there : t.entry? ["b.json"] = some (.file reservedSource.toUTF8)) :
      Description.ofFile t b = .ok ⟨none, [⟨"ShaderPermutations", []⟩], []⟩ := by
    rw [Description.ofFile_rooted ⟨rfl, by decide⟩ (by decide) (by decide) there]
    rfl
  have light : Description.ofFile tree c =
      .ok ⟨none, [⟨"Light", []⟩], [⟨"Light", ⟨0, []⟩, [], []⟩]⟩ := by
    have there : tree.entry? ["c.json"] = some (.file clashingSource.toUTF8) := rfl
    rw [Description.ofFile_rooted ⟨rfl, by decide⟩ (by decide) (by decide) there]
    rfl
  have alone : Description.ofFile other c = .ok ⟨none, [⟨"Light", []⟩], []⟩ := by
    have there : other.entry? ["c.json"] = some (.file structureSource.toUTF8) := rfl
    rw [Description.ofFile_rooted ⟨rfl, by decide⟩ (by decide) (by decide) there]
    rfl
  have all : fates tree i [a, b, c] = [
      (a, .unread (.file "/a.json" .notFound)),
      (b, .unregistered (.duplicateName .shared "ShaderPermutations")),
      (c, .refused [⟨"Light", ⟨"Light", 0, []⟩⟩] (.duplicateName .interface "Light"))] := by
    simp only [fates, registered, fatesFrom, missing tree rfl, reserved tree rfl, light]
    rfl
  have only : OnlyStructures tree other [a, b, c] c := by
    constructor
    · simp [missing tree rfl, missing other rfl, reserved tree rfl, reserved other rfl]
    · intro d opened
      cases light.symm.trans opened
      exact alone
  have failing := (failing_file_alone tree i [a, b, c] (by decide)).2
  rw [all] at failing
  exact ⟨(failing a _ .reading _ (.head _) rfl).2.1 (by simp),
    (failing b _ .registering _ (.tail _ (.head _)) rfl).2.1 (by simp),
    (failing c _ .describing _ (.tail _ (.tail _ (.head _))) rfl).2.2 rfl other only⟩

end ShaderVariants.Intake
