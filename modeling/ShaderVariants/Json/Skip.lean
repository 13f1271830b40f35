import ShaderVariants.Json.Scan

/-!
Passing a value that nobody reads. Its grammar is checked, however deep it nests; the lists and
objects that are open form a stack, so the depth costs no more than the length does.
-/

namespace ShaderVariants.Json

inductive Frame where
  | list
  | object
  deriving DecidableEq, Repr

/-- What comes next: a value, or what may follow the opening bracket or a finished value of the
innermost open frame. -/
inductive Turn where
  | value
  | opened
  | finished
  deriving DecidableEq, Repr

/-- Where a pass stands: the open frames, the innermost first, what comes next, and what is
unread. -/
structure Pass where
  frames : List Frame
  turn : Turn
  rest : List Char

/-- Passes a value that is neither a list nor an object, or the opening bracket of one that
is. -/
def skipStart (frames : List Frame) (s : List Char) : Except Stop Pass :=
  match s with
  | [] => stopBehind .endInValue []
  | 'n' :: s => (scanWord ['u', 'l', 'l'] s).map (⟨frames, .finished, ·⟩)
  | 't' :: s => (scanWord ['r', 'u', 'e'] s).map (⟨frames, .finished, ·⟩)
  | 'f' :: s => (scanWord ['a', 'l', 's', 'e'] s).map (⟨frames, .finished, ·⟩)
  | '-' :: s => (skipNumber s).map (⟨frames, .finished, ·⟩)
  | '"' :: s => (skipChars s.length s).map (⟨frames, .finished, ·⟩)
  | '[' :: s => .ok ⟨.list :: frames, .opened, s⟩
  | '\x7b' :: s => .ok ⟨.object :: frames, .opened, s⟩
  | c :: s =>
      if c.isDigit then (skipNumber (c :: s)).map (⟨frames, .finished, ·⟩)
      else stopBehind .expectedValue (c :: s)

/-- Passes a key of an object and its colon. -/
def skipKey (s : List Char) : Except Stop (List Char) :=
  match skipBlanks s with
  | [] => stopBehind .endInObject []
  | '"' :: s => do
      let s ← skipChars s.length s
      match skipBlanks s with
      | [] => stopBehind .endInObject []
      | ':' :: s => pure s
      | s => stopBehind .expectedColon s
  | s => stopBehind .keyNotString s

/-- Turns to the next value of a frame, behind its key if the frame is an object. -/
def skipTo (frame : Frame) (frames : List Frame) (s : List Char) : Except Stop Pass :=
  match frame with
  | .list => .ok ⟨frame :: frames, .value, s⟩
  | .object => (skipKey s).map (⟨frame :: frames, .value, ·⟩)

def Frame.unfinished : Frame → Cause
  | .list => .endInList
  | .object => .endInObject

def Frame.expected : Frame → Cause
  | .list => .expectedListCommaOrEnd
  | .object => .expectedObjectCommaOrEnd

def Frame.closing : Frame → Char
  | .list => ']'
  | .object => '\x7d'

/-- Passes what may stand behind the opening bracket (`opened`) or behind a value of the
innermost frame. -/
def skipInside (opened : Bool) (frame : Frame) (frames : List Frame) (s : List Char) :
    Except Stop Pass :=
  match s with
  | [] => stopBehind frame.unfinished []
  | c :: rest =>
      if c = frame.closing then .ok ⟨frames, .finished, rest⟩
      else if opened then skipTo frame frames (c :: rest)
      else if c = ',' then skipTo frame frames rest
      else stopBehind frame.expected (c :: rest)

def Pass.step (p : Pass) : Except Stop Pass :=
  match p.turn, p.frames with
  | .value, frames => skipStart frames (skipBlanks p.rest)
  | _, [] => .ok p
  | turn, frame :: frames => skipInside (turn == .opened) frame frames (skipBlanks p.rest)

/-- Steps until no frame is open, at most as often as `left`. -/
def Pass.run : (left : Nat) → Pass → Except Stop (List Char)
  | 0, p => .ok p.rest
  | left + 1, p =>
      match p.step with
      | .ok q => if q.turn = .finished ∧ q.frames = [] then .ok q.rest else q.run left
      | .error stop => .error stop

/-- Passes one value. Every step takes a character, but for those from an opening bracket to the
first value behind it, and the step after such a one takes a character. -/
def skipValue (s : List Char) : Except Stop (List Char) :=
  Pass.run (2 * s.length + 2) ⟨[], .value, s⟩

end ShaderVariants.Json
