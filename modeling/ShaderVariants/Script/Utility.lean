import ShaderVariants.FileTree
import ShaderVariants.Script.Format

/-!
Programs that scripts call. A program is a function of its arguments, of what it reads and of the
files; it gives what it prints, its exit status, how long it takes, and the files after it. Those
that would print or read without end stop at a fixed number of bytes.
-/

namespace ShaderVariants.Script

open Format (Bytes bytesOf)

/-- What a program does. -/
structure Effect where
  output : Bytes
  errors : Bytes
  status : Nat
  /-- In microseconds. -/
  duration : Nat
  tree : FileTree

namespace Effect

def quiet (tree : FileTree) (status : Nat) : Effect := ⟨[], [], status, 0, tree⟩

def printing (tree : FileTree) (output : Bytes) : Effect := ⟨output, [], 0, 0, tree⟩

def failing (tree : FileTree) (words : String) : Effect := ⟨[], bytesOf (words ++ "\n"), 1, 0, tree⟩

/-- Two effects, the second of which starts from the files of the first. -/
def andThen (a b : Effect) : Effect :=
  ⟨a.output ++ b.output, a.errors ++ b.errors, max a.status b.status,
    a.duration + b.duration, b.tree⟩

end Effect

namespace Utility

/-- How many bytes stand for an endless supply. -/
def endless : Nat := 0x20000

/-- What can be read from a path, also from the devices that give nothing or zeros. -/
def contentOf (tree : FileTree) (path : String) : Except OsError Bytes :=
  if path = "/dev/null" then .ok []
  else if path = "/dev/zero" then .ok (List.replicate endless 0)
  else (tree.readFile (.ofText path)).map (·.toList)

/-- The words for an error without its number. -/
def wordsOf (e : OsError) : String :=
  match e with
  | .notFound => "No such file or directory"
  | .permissionDenied => "Permission denied"
  | .alreadyExists => "File exists"
  | .notDirectory => "Not a directory"
  | .isDirectory => "Is a directory"
  | .nameTooLong => "File name too long"
  | e => e.message

/-! ## Printing -/

def join (args : List String) : String := String.intercalate " " args

/-- Prints arguments and, unless they begin with `-n`, the end of a line. -/
def echo (args : List String) : Bytes :=
  let (line, args) := match args with
    | "-n" :: args => (false, args)
    | args => (true, args)
  let (bytes, stop) := Format.escapedText (join args)
  if line && !stop then bytes ++ [10] else bytes

/-- As `echo`, with escapes only where an option asks for them. -/
def plainEcho : (escapes line : Bool) → List String → Bytes
  | escapes, _, "-n" :: args => plainEcho escapes false args
  | _, line, "-e" :: args => plainEcho true line args
  | _, line, "-E" :: args => plainEcho false line args
  | escapes, line, args =>
      let (bytes, stop) :=
        if escapes then Format.escapedText (join args) else (bytesOf (join args), false)
      if line && !stop then bytes ++ [10] else bytes

def printf (tree : FileTree) (origin : String) : List String → Effect
  | [] => { Effect.failing tree s!"{origin}usage: printf format [arg ...]" with status := 2 }
  | "--" :: format :: args => once format args
  | format :: args => once format args
where
  once (format : String) (args : List String) : Effect :=
    let p := Format.print format args
    let errors := String.join (p.complaints.map fun c => s!"{origin}{c}\n")
    ⟨p.output, bytesOf errors, p.failed, 0, tree⟩

def yes (args : List String) : Bytes :=
  let line := bytesOf (if args.isEmpty then "y\n" else join args ++ "\n")
  (List.replicate (endless / line.length) line).flatten

def numbers (args : List String) : Option Bytes := do
  let ns ← args.mapM String.toInt?
  let (first, step, last) ← match ns with
    | [last] => some (1, 1, last)
    | [first, last] => some (first, 1, last)
    | [first, step, last] => some (first, step, last)
    | _ => none
  if step = 0 then none
  else
    let count := ((last - first).tdiv step + 1).toNat
    let count := if (step > 0 && last < first) || (step < 0 && first < last) then 0 else count
    some (bytesOf (String.join ((List.range count).map fun (i : Nat) =>
      toString (first + step * (i : Int)) ++ "\n")))

/-! ## Reading -/

/-- What is read from several files, or from the input where there are none. -/
def gather (name : String) (tree : FileTree) (input : Bytes) (files : List String) : Effect :=
  if files.isEmpty then .printing tree input
  else
    files.foldl (fun (effect : Effect) file =>
      effect.andThen <|
        if file = "-" then .printing tree input
        else
          match contentOf tree file with
          | .ok bytes => .printing tree bytes
          | .error e => .failing tree s!"{name}: {file}: {wordsOf e}")
      (.quiet tree 0)

/-- The lines of some bytes, each with its end. -/
def linesOf (bytes : Bytes) : List Bytes :=
  let (line, lines) := bytes.foldr
    (fun b (line, lines) => if b = 10 then ([b], if line.isEmpty then lines else line :: lines)
      else (b :: line, lines))
    (([], []) : Bytes × List Bytes)
  if line.isEmpty then lines else line :: lines

/-- How much of the input is wanted. -/
inductive Amount where
  | lines (n : Nat)
  | bytes (n : Nat)

/-- An amount from options, and the files behind them. -/
def amount : (a : Amount) → List String → Amount × List String
  | _, "-n" :: n :: args => amount (.lines (n.toNat?.getD 0)) args
  | _, "-c" :: n :: args => amount (.bytes (n.toNat?.getD 0)) args
  | a, arg :: args =>
      match arg.toList with
      | '-' :: 'n' :: n => amount (.lines ((String.ofList n).toNat?.getD 0)) args
      | '-' :: 'c' :: n => amount (.bytes ((String.ofList n).toNat?.getD 0)) args
      | '-' :: d :: n =>
          if d.isDigit then amount (.lines ((String.ofList (d :: n)).toNat?.getD 0)) args
          else (a, arg :: args)
      | _ => (a, arg :: args)
  | a, [] => (a, [])

def firstOf (bytes : Bytes) : Amount → Bytes
  | .lines n => ((linesOf bytes).take n).flatten
  | .bytes n => bytes.take n

def lastOf (bytes : Bytes) : Amount → Bytes
  | .lines n =>
      let lines := linesOf bytes
      (lines.drop (lines.length - n)).flatten
  | .bytes n => bytes.drop (bytes.length - n)

/-- The bytes of a set, in which a hyphen stands for all between its neighbours. -/
def setOf (s : String) : Bytes :=
  let (bytes, _) := unescape (s.length + 1) s.toList
  ranges (bytes.length + 1) bytes
where
  unescape : (left : Nat) → List Char → Bytes × Bool
    | 0, _ => ([], false)
    | _, [] => ([], false)
    | left + 1, '\\' :: s =>
        let (here, s) := Format.formatEscape s
        ((here ++ (unescape left s).1), false)
    | left + 1, c :: s => (bytesOf c.toString ++ (unescape left s).1, false)
  ranges : (left : Nat) → Bytes → Bytes
    | left + 1, a :: 45 :: b :: rest =>
        (List.range (b.toNat + 1 - a.toNat)).map (fun i => UInt8.ofNat (a.toNat + i)) ++
          ranges left rest
    | left + 1, a :: rest => a :: ranges left rest
    | _, bytes => bytes

def transliterate (input : Bytes) : List String → Bytes
  | ["-d", set] =>
      let set := setOf set
      input.filter (!set.contains ·)
  | [source, target] =>
      let source := setOf source
      let target := setOf target
      let last := target.getLast?
      input.map fun b =>
        match source.idxOf? b with
        | some i => (target[i]?.or last).getD b
        | none => b
  | _ => input

def wordCount (bytes : Bytes) : Nat :=
  let isBlank (b : UInt8) : Bool := b == 32 || (9 ≤ b && b ≤ 13)
  (bytes.foldl
    (fun (n, inside) b => if isBlank b then (n, false) else (if inside then n else n + 1, true))
    (0, false)).1

def count (input : Bytes) : List String → Bytes
  | ["-c"] => bytesOf s!"{input.length}\n"
  | ["-l"] => bytesOf s!"{input.count 10}\n"
  | ["-w"] => bytesOf s!"{wordCount input}\n"
  | _ =>
      let column (n : Nat) : String :=
        let digits := toString n
        String.ofList (List.replicate (7 - digits.length) ' ') ++ digits
      bytesOf s!"{column (input.count 10)} {column (wordCount input)} {column input.length}\n"

/-- The lines in the order of their bytes, each with an end. -/
def sorted (bytes : Bytes) : Bytes :=
  let line (l : Bytes) : Bytes := if l.getLast? = some 10 then l else l ++ [10]
  let le (a b : Bytes) : Bool := a ≤ b
  (((linesOf bytes).map line).mergeSort le).flatten

/-! ## Waiting -/

/-- A number with decimals as a number of millionths. -/
def millionths (s : List Char) : Option Nat :=
  match s.span Char.isDigit with
  | ([], '.' :: decimals) => fraction decimals
  | (whole, []) => (String.ofList whole).toNat?.map (· * 1000000)
  | (whole, '.' :: decimals) => do
      let f ← fraction decimals
      some ((String.ofList whole).toNat?.getD 0 * 1000000 + f)
  | _ => none
where
  fraction (decimals : List Char) : Option Nat :=
    if decimals.all Char.isDigit then
      (String.ofList ((decimals ++ List.replicate 6 '0').take 6)).toNat?
    else none

/-- A time with the letter of its unit. -/
def timeOf (s : String) : Option Nat :=
  match s.toList.reverse with
  | [] => none
  | 's' :: rest => millionths rest.reverse
  | 'm' :: rest => (millionths rest.reverse).map (· * 60)
  | 'h' :: rest => (millionths rest.reverse).map (· * 3600)
  | 'd' :: rest => (millionths rest.reverse).map (· * 86400)
  | rest => if s = "infinity" then some 1000000000000000000 else millionths rest.reverse

def sleep (tree : FileTree) (args : List String) : Effect :=
  let hint := "\nTry 'sleep --help' for more information."
  if args.isEmpty then .failing tree s!"sleep: missing operand{hint}"
  else
    match args.find? (timeOf · |>.isNone) with
    | some arg => .failing tree s!"sleep: invalid time interval '{arg}'{hint}"
    | none => { Effect.quiet tree 0 with duration := (args.filterMap timeOf).foldl (· + ·) 0 }

/-! ## Files -/

def isOption (arg : String) : Bool := arg.startsWith "-" && arg != "-"

def touch (tree : FileTree) (files : List String) : Effect :=
  files.foldl (fun (effect : Effect) file =>
    let tree := effect.tree
    effect.andThen <|
      match tree.find (.ofText file) with
      | .ok _ => .quiet tree 0
      | .error _ =>
          match tree.writeFile (.ofText file) .empty with
          | .ok tree => .quiet tree 0
          | .error e => .failing tree s!"touch: cannot touch '{file}': {wordsOf e}")
    (.quiet tree 0)

def makeDirectories (tree : FileTree) (all : Bool) (dirs : List String) : Effect :=
  dirs.foldl (fun (effect : Effect) dir =>
    let tree := effect.tree
    let (result, tree) :=
      if all then tree.makeDirectories (.ofText dir)
      else
        match tree.makeDirectory (.ofText dir) with
        | .ok tree => (.ok (), tree)
        | .error e => (.error e, tree)
    effect.andThen <|
      match result with
      | .ok () => .quiet tree 0
      | .error e => .failing tree s!"mkdir: cannot create directory '{dir}': {wordsOf e}")
    (.quiet tree 0)

def remove (tree : FileTree) (force : Bool) (files : List String) : Effect :=
  files.foldl (fun (effect : Effect) file =>
    let tree := effect.tree
    effect.andThen <|
      match tree.removeFile (.ofText file) with
      | .ok tree => .quiet tree 0
      | .error e =>
          if force && e == .notFound then .quiet tree 0
          else .failing tree s!"rm: cannot remove '{file}': {wordsOf e}")
    (.quiet tree 0)

/-- Where a file goes that is copied or moved to a path. -/
def destination (tree : FileTree) (source target : String) : Path :=
  let path := Path.ofText target
  match tree.isDirectory path, (Path.ofText source).fileName? with
  | true, some name => path.join (.single name)
  | _, _ => path

def copy (tree : FileTree) : List String → Effect
  | [source, target] =>
      match contentOf tree source with
      | .error e => .failing tree s!"cp: cannot stat '{source}': {wordsOf e}"
      | .ok bytes =>
          match tree.writeFile (destination tree source target) ⟨bytes.toArray⟩ with
          | .ok tree => .quiet tree 0
          | .error e => .failing tree s!"cp: cannot create regular file '{target}': {wordsOf e}"
  | _ => .failing tree "cp: missing file operand\nTry 'cp --help' for more information."

def move (tree : FileTree) : List String → Effect
  | [source, target] =>
      match tree.renameFile (.ofText source) (destination tree source target) with
      | .ok tree => .quiet tree 0
      | .error e => .failing tree s!"mv: cannot stat '{source}': {wordsOf e}"
  | _ => .failing tree "mv: missing file operand\nTry 'mv --help' for more information."

/-- Prints the input and keeps it in files. -/
def tee (tree : FileTree) (input : Bytes) (files : List String) : Effect :=
  files.foldl (fun (effect : Effect) file =>
    let tree := effect.tree
    effect.andThen <|
      match tree.writeFile (.ofText file) ⟨input.toArray⟩ with
      | .ok tree => .quiet tree 0
      | .error e => .failing tree s!"tee: {file}: {wordsOf e}")
    (.printing tree input)

/-! ## By name -/

/-- What a program of a name does, if there is one. -/
def run? (tree : FileTree) (input : Bytes) (name : String) (args : List String) : Option Effect :=
  let files := args.filter (!isOption ·)
  let options := args.filter isOption
  let flag (c : Char) : Bool := options.any (·.toList.contains c)
  match name with
  | "true" => some (.quiet tree 0)
  | "false" => some (.quiet tree 1)
  | "echo" => some (.printing tree (plainEcho false true args))
  | "printf" =>
      if args.isEmpty then
        some (.failing tree "printf: missing operand\nTry 'printf --help' for more information.")
      else some (printf tree "printf: " args)
  | "sleep" => some (sleep tree args)
  | "cat" => some (gather "cat" tree input files)
  | "head" =>
      let (a, files) := amount (.lines 10) args
      let effect := gather "head" tree input files
      some { effect with output := firstOf effect.output a }
  | "tail" =>
      let (a, files) := amount (.lines 10) args
      let effect := gather "tail" tree input files
      some { effect with output := lastOf effect.output a }
  | "tr" => some (.printing tree (transliterate input args))
  | "wc" => some (.printing tree (count input args))
  | "yes" => some (.printing tree (yes args))
  | "seq" =>
      match numbers args with
      | some output => some (.printing tree output)
      | none => some (.failing tree "seq: missing operand\nTry 'seq --help' for more information.")
  | "sort" =>
      let effect := gather "sort" tree input files
      some { effect with output := sorted effect.output }
  | "touch" => some (touch tree files)
  | "mkdir" => some (makeDirectories tree (flag 'p') files)
  | "rm" => some (remove tree (flag 'f') files)
  | "cp" => some (copy tree files)
  | "mv" => some (move tree files)
  | "tee" => some (tee tree input files)
  | _ => none

end Utility
end ShaderVariants.Script
