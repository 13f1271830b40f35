import ShaderVariants.Script.Command
import ShaderVariants.Script.Utility

/-!
The state of a running script: files and variables, where its streams go, and what was printed at
what time. Time passes only where a program takes some, and commands in the background have a
clock of their own.
-/

namespace ShaderVariants.Script

open Format (Bytes bytesOf)

/-- Something printed, and whether the script itself printed it or a command that it left
running. -/
structure Event where
  /-- In microseconds from the start. -/
  time : Nat
  bytes : Bytes
  own : Bool

/-- Where a stream goes. -/
inductive Stream where
  | captured
  | piped
  | file (place : Place)
  | dropped
  deriving DecidableEq, Repr

/-- How a script goes on. -/
inductive Flow where
  | going
  | exited
  | killed
  /-- Out of as many loops. -/
  | leaving (loops : Nat)
  /-- To the next round of the loop so many levels up. -/
  | repeating (loops : Nat)
  | returned
  /-- Not to an end in the time that is looked at. -/
  | endless
  deriving DecidableEq, Repr

structure Shell where
  tree : FileTree
  time : Nat
  name : String
  arguments : List String
  vars : List (String × String)
  /-- The names that programs are given too. -/
  exported : List String
  functions : List (String × Command)
  status : Nat
  output : Stream
  errors : Stream
  input : Bytes
  /-- The last one first. -/
  events : List Event
  /-- What goes to the next command, the last of it first. -/
  pipe : List Bytes
  flow : Flow
  loops : Nat
  /-- When the commands in the background end. -/
  jobs : List Nat
  /-- Signals that have no effect. -/
  ignored : List Nat
  /-- What is run at the end. -/
  atEnd : Option String
  /-- Whether a failure ends the script. -/
  strict : Bool
  /-- Whether the status of a command is looked at. -/
  checked : Bool
  own : Bool
  /-- When the script is stopped, if it is. -/
  limit : Option Nat

namespace Shell

/-- The number of the process that runs a script. -/
def parentNumber : String := "12345"

def start (tree : FileTree) (name : String) (arguments : List String) : Shell where
  tree := tree
  time := 0
  name := name
  arguments := arguments
  vars := [("PPID", parentNumber)]
  exported := []
  functions := []
  status := 0
  output := .captured
  errors := .captured
  input := []
  events := []
  pipe := []
  flow := .going
  loops := 0
  jobs := []
  ignored := []
  atEnd := none
  strict := false
  checked := false
  own := true
  limit := none

def isGoing (sh : Shell) : Bool := sh.flow == .going

def appendTo (tree : FileTree) (place : Place) (bytes : Bytes) : FileTree :=
  match tree.entry? place with
  | some (.file old) => tree.put place (.file (old ++ ⟨bytes.toArray⟩))
  | _ => tree

/-- Prints to a stream. -/
def emit (sh : Shell) (stream : Stream) (bytes : Bytes) : Shell :=
  if bytes.isEmpty then sh
  else
    match stream with
    | .captured => { sh with events := ⟨sh.time, bytes, sh.own⟩ :: sh.events }
    | .piped => { sh with pipe := bytes :: sh.pipe }
    | .file place => { sh with tree := appendTo sh.tree place bytes }
    | .dropped => sh

def print (sh : Shell) (bytes : Bytes) : Shell := sh.emit sh.output bytes

/-- Says what went wrong on a line. -/
def complain (sh : Shell) (line : Nat) (words : String) (status : Nat) : Shell :=
  { sh.emit sh.errors (bytesOf s!"{sh.name}: {line}: {words}\n") with status }

/-- Lets time pass up to a moment. The script comes to no end if it is stopped before. -/
def passTo (sh : Shell) (time : Nat) : Shell :=
  let stopped := sh.own && sh.limit.any fun limit => limit ≤ time
  { sh with time, flow := if stopped then .endless else sh.flow }

/-- Lets a program have its effect. -/
def suffer (sh : Shell) (e : Effect) : Shell :=
  let later := sh.passTo (sh.time + e.duration)
  if later.isGoing then
    let sh := { later with tree := e.tree, status := e.status }
    (sh.emit sh.errors e.errors).print e.output
  else later

/-! ## Variables -/

/-- The number of the process. -/
def processNumber : String := "4321"

def set (sh : Shell) (name value : String) : Shell :=
  { sh with vars := Arithmetic.assign sh.vars name value }

def argument? (sh : Shell) (n : Nat) : Option String :=
  if n = 0 then some sh.name else sh.arguments[n - 1]?

/-- The value of a parameter. -/
def value? (sh : Shell) (name : String) : Option String :=
  match name with
  | "#" => some (toString sh.arguments.length)
  | "?" => some (toString sh.status)
  | "$" => some processNumber
  | "!" => if sh.jobs.isEmpty then none else some processNumber
  | "-" => some ""
  | "@" => if sh.arguments.isEmpty then none else some (String.intercalate " " sh.arguments)
  | "*" => if sh.arguments.isEmpty then none else some (String.intercalate " " sh.arguments)
  | name =>
      match name.toNat? with
      | some n => sh.argument? n
      | none => sh.vars.lookup name

/-! ## Fields -/

/-- A part of an expanded word. -/
inductive Fragment where
  | text (s : String) (quoted : Bool)
  /-- The end of one argument and the start of the next. -/
  | cut

def isSeparator (c : Char) : Bool := c == ' ' || c == '\t' || c == '\n'

/-- Cuts text without quotes at its blanks. -/
def cutText : (current : Option (List Char)) → (fields : List String) → List Char →
    Option (List Char) × List String
  | current, fields, [] => (current, fields)
  | current, fields, c :: s =>
      if isSeparator c then
        match current with
        | some field => cutText none (fields ++ [String.ofList field]) s
        | none => cutText none fields s
      else cutText (some ((current.getD []) ++ [c])) fields s

/-- The arguments that fragments make. -/
def fieldsOf (fragments : List Fragment) : List String :=
  let (current, fields) := fragments.foldl
    (fun (current, fields) fragment =>
      match fragment with
      | .text s true => (some ((current.getD []) ++ s.toList), fields)
      | .text s false => cutText current fields s.toList
      | .cut =>
          match current with
          | some field => (none, fields ++ [String.ofList field])
          | none => (none, fields))
    ((none, []) : Option (List Char) × List String)
  match current with
  | some field => fields ++ [String.ofList field]
  | none => fields

def textOf (fragments : List Fragment) : String :=
  String.join (fragments.map fun fragment =>
    match fragment with
    | .text s _ => s
    | .cut => " ")

/-- The arguments, each by itself. -/
def argumentFragments (quoted : Bool) (args : List String) : List Fragment :=
  (args.map (Fragment.text · quoted)).intersperse .cut

/-! ## Conditions -/

def integer? (s : String) : Option Int := s.trimAscii.toString.toInt?

/-- The signs between the two sides of a condition. -/
def comparisons : List String :=
  ["=", "!=", "<", ">", "-eq", "-ne", "-lt", "-le", "-gt", "-ge", "-a", "-o"]

/-- Whether a single condition holds; words for one that is not understood. -/
def holdsOne (tree : FileTree) : List String → Except String Bool
  | [] => .ok false
  | [a] => .ok (!a.isEmpty)
  | ["!", a] => .ok a.isEmpty
  | ["-n", a] => .ok (!a.isEmpty)
  | ["-z", a] => .ok a.isEmpty
  | ["-f", a] => .ok (tree.isFile (.ofText a))
  | ["-d", a] => .ok (tree.isDirectory (.ofText a))
  | ["-e", a] => .ok (tree.find (.ofText a)).isOk
  | ["-r", a] => .ok (tree.find (.ofText a)).isOk
  | ["-w", a] => .ok (tree.find (.ofText a)).isOk
  | ["-x", a] => .ok (tree.isDirectory (.ofText a))
  | ["-s", a] => .ok (((tree.readFile (.ofText a)).toOption.map (·.size != 0)).getD false)
  | [a, b] => .error (if comparisons.contains b then s!"{b}: argument expected"
      else s!"{a}: unexpected operator")
  | [a, sign, b] =>
      match sign with
      | "=" => .ok (a == b)
      | "!=" => .ok (a != b)
      | "<" => .ok (a < b)
      | ">" => .ok (b < a)
      | "-eq" => compare a b (· == ·)
      | "-ne" => compare a b (· != ·)
      | "-lt" => compare a b (· < ·)
      | "-le" => compare a b (· ≤ ·)
      | "-gt" => compare a b (· > ·)
      | "-ge" => compare a b (· ≥ ·)
      | "-a" => .ok (!a.isEmpty && !b.isEmpty)
      | "-o" => .ok (!a.isEmpty || !b.isEmpty)
      | _ =>
          if a = "!" then (holdsOne tree [sign, b]).map (!·)
          else .error s!"{a}: unexpected operator"
  | "!" :: rest => (holdsOne tree rest).map (!·)
  | a :: _ => .error s!"{a}: unexpected operator"
where
  compare (a b : String) (order : Int → Int → Bool) : Except String Bool :=
    match integer? a, integer? b with
    | some x, some y => .ok (order x y)
    | none, _ => .error s!"Illegal number: {a}"
    | _, none => .error s!"Illegal number: {b}"

/-- Whether one of several conditions holds that are joined by a sign, or all of them do. -/
def holdsJoined (sign : String) (unit : Bool)
    (one : List String → Except String Bool) (args : List String) : Except String Bool :=
  (args.splitOn sign).foldlM
    (fun found args => if found != unit then .ok found else one args) unit

/-- Whether a condition holds, which may be made of several. -/
def holds (tree : FileTree) (args : List String) : Except String Bool :=
  if args.length ≤ 3 then holdsOne tree args
  else
    holdsJoined "-o" false (holdsJoined "-a" true (holdsOne tree)) args

/-! ## Signals -/

def signals : List (String × Nat) := [
  ("HUP", 1), ("INT", 2), ("QUIT", 3), ("ILL", 4), ("TRAP", 5), ("ABRT", 6), ("BUS", 7), ("FPE", 8),
  ("KILL", 9), ("USR1", 10), ("SEGV", 11), ("USR2", 12), ("PIPE", 13), ("ALRM", 14), ("TERM", 15),
  ("CHLD", 17), ("CONT", 18), ("STOP", 19), ("TSTP", 20), ("TTIN", 21), ("TTOU", 22), ("URG", 23),
  ("XCPU", 24), ("XFSZ", 25), ("VTALRM", 26), ("PROF", 27), ("WINCH", 28), ("PWR", 30), ("SYS", 31)]

def signal? (s : String) : Option Nat :=
  match s.toNat? with
  | some n => some n
  | none => signals.lookup (if s.startsWith "SIG" then (s.drop 3).toString else s)

/-- Signals that do nothing to a program which does not ask for them. -/
def harmless : List Nat := [0, 17, 18, 23, 28]

/-- Signals that stop a program until another one wakes it. -/
def stopping : List Nat := [19, 20, 21, 22]

def receive (sh : Shell) (signal : Nat) : Shell :=
  let sh := { sh with status := 0 }
  if harmless.contains signal then sh
  else if sh.ignored.contains signal && signal != 9 && signal != 19 then sh
  else if stopping.contains signal then { sh with flow := .endless }
  else { sh with flow := .killed, status := 128 + signal }

/-- The signal and the targets of a call to send one. -/
def signalOf : List String → Option Nat × List String
  | "-s" :: s :: targets => (signal? s, targets)
  | arg :: targets =>
      match arg.toList with
      | '-' :: s => (signal? (String.ofList s), targets)
      | _ => (some 15, arg :: targets)
  | [] => (some 15, [])

def kill (sh : Shell) (line : Nat) (args : List String) : Shell :=
  match signalOf args with
  | (none, _) => sh.complain line ("kill: Illegal number: " ++ args.headD "") 2
  | (some signal, targets) =>
      targets.foldl
        (fun sh target =>
          if target = processNumber then sh.receive signal
          else sh.complain line "kill: No such process" 1)
        sh

end Shell
end ShaderVariants.Script
