import ShaderVariants.Log
import ShaderVariants.Text.Blank

/-!
Which lines of a log are kept. A filter is a text of directives with commas between them: a level,
the start of a component's target, or both with `=` between them. Of the directives that cover a
component the one with the longest target decides, and without any directive only errors are kept.
-/

namespace ShaderVariants

structure LogDirective where
  /-- What the targets begin with that it covers; nothing if it covers all. -/
  scope : Option String
  /-- The detail up to which lines are kept. -/
  detail : Nat
  deriving DecidableEq, Repr

namespace LogDirective

def covers (d : LogDirective) (target : String) : Bool :=
  match d.scope with
  | none => true
  | some start => target.startsWith start

def length (d : LogDirective) : Nat := (d.scope.getD "").utf8ByteSize

/-- Names of the bounds on detail, the lowest first. -/
def bounds : List String := ["off", "error", "warn", "info", "debug", "trace"]

def allDetail : Nat := 5

/-- The bound of a name, in whatever case it is written. -/
def bound? (name : String) : Option Nat := bounds.idxOf? name.toLower

/-- Reads a directive; one that cannot be read is left out. -/
def ofText? (text : String) : Option LogDirective :=
  match (text.toList.splitOn '=').map String.ofList with
  | [word] =>
      match bound? word with
      | some detail => some ⟨none, detail⟩
      | none => some ⟨some word, allDetail⟩
  | [scope, bound] =>
      let bound := Text.trimmed bound
      if bound.isEmpty then some ⟨some scope, allDetail⟩
      else (bound? bound).map fun detail => ⟨some scope, detail⟩
  | _ => none

end LogDirective

structure LogFilter where
  directives : List LogDirective
  deriving DecidableEq, Repr

namespace LogFilter

/-- A directive takes the place of an earlier one with the same scope. -/
def insert (directives : List LogDirective) (d : LogDirective) : List LogDirective :=
  if directives.any (·.scope = d.scope) then
    directives.map fun old => if old.scope = d.scope then d else old
  else directives ++ [d]

/-- The directives of a text. What follows a slash is a pattern for messages on a console and
does not count here; more than one slash makes the whole text void. -/
def directiveTexts (text : String) : List String :=
  match text.toList.splitOn '/' with
  | words :: rest =>
      if rest.length ≤ 1 then
        (((words.splitOn ',').map String.ofList).map Text.trimmed).filter (!·.isEmpty)
      else []
  | [] => []

def ofText (text : String) : LogFilter :=
  match (directiveTexts text).filterMap LogDirective.ofText? with
  | [] => ⟨[⟨none, LogLevel.error.detail⟩]⟩
  | directives => ⟨directives.foldl insert []⟩

/-- Keeps all but lines for debugging. -/
def standard : LogFilter := ⟨[⟨none, LogLevel.info.detail⟩]⟩

/-- The filter of a setting that may be absent. -/
def ofSetting (setting : Option String) : LogFilter := (setting.map ofText).getD standard

/-- The directive that decides about a target: of the longest ones the last. -/
def deciding? (f : LogFilter) (target : String) : Option LogDirective :=
  (f.directives.filter (·.covers target)).foldl (fun best d =>
    match best with
    | none => some d
    | some b => if b.length ≤ d.length then some d else best) none

def keeps (f : LogFilter) (line : LogLine) : Bool :=
  match f.deciding? line.component.target with
  | none => false
  | some d => line.level.detail ≤ d.detail

end LogFilter
end ShaderVariants
