import ShaderVariants.Text.Letter

/-!
The words of a name, and the name in capitals with underscores between its words. Characters
that are neither letters nor numbers separate words. A word also ends where a small letter is
followed by a capital, and before the last capital of several when a small letter follows; a
number goes on in the case of the letter before it.
-/

namespace ShaderVariants.Text

/-- The maximal runs of letters and numbers. -/
def pieces (s : List Char) : List (List Char) :=
  let (last, done) := s.foldr
    (fun c (piece, done) =>
      if isAlphanumeric c then (c :: piece, done) else ([], piece :: done))
    ([], [])
  (last :: done).filter (!·.isEmpty)

/-- The case of the last letter that has one since the word began. -/
inductive LetterCase where
  | unknown
  | small
  | capital
  deriving DecidableEq, Repr

def LetterCase.after (state : LetterCase) (c : Char) : LetterCase :=
  if isLowercase c then .small else if isUppercase c then .capital else state

/-- Cuts a piece into words; `word` holds the word so far, its last letter first. -/
def cut : (state : LetterCase) → (word : List Char) → List Char → List (List Char)
  | _, word, [] => [word.reverse]
  | _, word, [c] => [(c :: word).reverse]
  | state, word, c :: next :: rest =>
      if state.after c = .small ∧ isUppercase next then
        (c :: word).reverse :: cut .unknown [] (next :: rest)
      else if state = .capital ∧ isUppercase c ∧ isLowercase next then
        word.reverse :: cut .unknown [c] (next :: rest)
      else cut (state.after c) (c :: word) (next :: rest)

def words (s : String) : List (List Char) :=
  (pieces s.toList).flatMap (cut .unknown [])

/-- The words in upper case with underscores between them. -/
def capitals (s : String) : String :=
  String.intercalate "_" ((words s).map fun w => String.ofList (upper w))

end ShaderVariants.Text
