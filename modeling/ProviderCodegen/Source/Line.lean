/-! # Go source text

Declarations are lists of lines with their indentation, put together by `block`; expressions that
span lines are texts, put together by `composite`. An expression inside a line keeps its own line
breaks.
-/

namespace ProviderCodegen.Source

def openBrace : String := "\x7b"

def closeBrace : String := "\x7d"

/-- A text between double quotes. -/
def inQuotes (text : String) : String :=
  "\"" ++ text ++ "\""

/-- A composite literal with an entry a line. -/
def composite (type : String) (entries : List String) : String :=
  type ++ openBrace ++ String.join (entries.map ("\n" ++ ·)) ++ "\n" ++ closeBrace

/-- A composite literal without entries. -/
def emptyComposite (type : String) : String :=
  type ++ openBrace ++ closeBrace

/-- One line of source. -/
inductive Line
  | blank
  /-- Text behind a number of tabs, of which it may be empty. -/
  | code (depth : Nat) (text : String)
deriving Repr, DecidableEq

namespace Line

instance : Coe String Line := ⟨.code 0⟩

def indent : Line → Line
  | blank => blank
  | code depth text => code (depth + 1) text

def render : Line → String
  | blank => ""
  | code depth text => String.ofList (List.replicate depth '\t') ++ text

end Line

def line (text : String) : Line := .code 0 text

/-- Lines between an opening and a closing line, one level deeper. -/
def enclosed (opening closing : String) (body : List Line) : List Line :=
  .code 0 opening :: body.map Line.indent ++ [.code 0 closing]

def block (opening : String) (body : List Line) : List Line :=
  enclosed (opening ++ " " ++ openBrace) closeBrace body

def function (signature : String) (body : List Line) : List Line :=
  block ("func " ++ signature) body

def when (condition : String) (body : List Line) : List Line :=
  block ("if " ++ condition) body

/-- Each paragraph behind a blank line. -/
def spaced (paragraphs : List (List Line)) : List Line :=
  paragraphs.flatMap (.blank :: ·)

/-- Paragraphs with blank lines between them. -/
def paragraphs : List (List Line) → List Line
  | [] => []
  | first :: rest => first ++ spaced rest

def renderLines (lines : List Line) : String :=
  "\n".intercalate (lines.map Line.render)

end ProviderCodegen.Source
