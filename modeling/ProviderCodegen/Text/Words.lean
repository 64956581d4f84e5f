import ProviderCodegen.Text.Letters

/-! # Words of a name and the cases built from them

A name written in any convention falls into words: a character that is no letter or digit separates
words, and so does a change of case. `pascalCase` and `camelCase` join the words again, which is how
one name in a specification becomes Go identifiers.
-/

namespace ProviderCodegen.Text

/-- The case of the letters read last in the current word; digits leave it as it is. -/
inductive LetterCase
  | unset
  | lower
  | upper
deriving Repr, DecidableEq

def LetterCase.after (current : LetterCase) (c : Char) : LetterCase :=
  if isLowercase c then .lower else if isUppercase c then .upper else current

/-- Split letters and digits where the case changes: before a capital that follows a small letter,
and before the last capital of a run that a small letter follows. The word read so far is kept
reversed. -/
def splitAtCase (word : List Char) (current : LetterCase) : List Char → List (List Char)
  | [] => []
  | [c] => [(c :: word).reverse]
  | c :: next :: rest =>
      if current.after c = .lower && isUppercase next then
        (c :: word).reverse :: splitAtCase [] .unset (next :: rest)
      else if current = .upper && isUppercase c && isLowercase next then
        word.reverse :: splitAtCase [c] .unset (next :: rest)
      else splitAtCase (c :: word) (current.after c) (next :: rest)

/-- The maximal stretches of letters and digits; the stretch read so far is kept reversed. -/
def splitAtSeparators (stretch : List Char) : List Char → List (List Char)
  | [] => [stretch.reverse]
  | c :: rest =>
      if isAlphanumeric c then splitAtSeparators (c :: stretch) rest
      else stretch.reverse :: splitAtSeparators [] rest

def words (name : List Char) : List (List Char) :=
  (splitAtSeparators [] name).flatMap (splitAtCase [] .unset)

/-- A word in lower case. A capital sigma that ends the word takes its final form. -/
def lowerWord : List Char → List Char
  | [] => []
  | [c] => if c = 'Σ' then ['ς'] else lower c
  | c :: next :: rest => lower c ++ lowerWord (next :: rest)

/-- A word with its first character in upper case and the rest in lower case. -/
def capitalize : List Char → List Char
  | [] => []
  | c :: rest => upper c ++ lowerWord rest

/-- Every word capitalized: `list_nested` becomes `ListNested`. -/
def pascalCase (name : String) : String :=
  String.ofList ((words name.toList).flatMap capitalize)

/-- Every word but the first capitalized: `list_nested` becomes `listNested`. -/
def camelCase (name : String) : String :=
  match words name.toList with
  | [] => ""
  | first :: rest => String.ofList (lowerWord first ++ rest.flatMap capitalize)

end ProviderCodegen.Text
