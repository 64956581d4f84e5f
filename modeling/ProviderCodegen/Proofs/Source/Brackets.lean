import ProviderCodegen.Proofs.Source.Literal

/-! # Brackets in source text

Reading a text keeps the brackets that are open and whether the reader is inside an interpreted
string literal, where brackets are characters like all others. It stops at a bracket that does not
close the innermost open one and at a line break inside a literal. A text is balanced if reading
gets to its end with nothing open. Balanced texts can be put one behind the other, and between two
texts of which one opens what the other closes.
-/

namespace ProviderCodegen.Source

inductive Bracket
  | brace
  | square
  | round
deriving Repr, DecidableEq

namespace Bracket

def opening? : Char → Option Bracket
  | '\x7b' => some brace
  | '[' => some square
  | '(' => some round
  | _ => none

def closing? : Char → Option Bracket
  | '\x7d' => some brace
  | ']' => some square
  | ')' => some round
  | _ => none

end Bracket

/-- Where a reader is. -/
inductive Mode
  | code
  | literal
  /-- Inside a literal behind a backslash. -/
  | escape
deriving Repr, DecidableEq

/-- What a reader keeps: the open brackets, the innermost first, and where it is. -/
structure Reading where
  opened : List Bracket := []
  mode : Mode := .code
deriving Repr, DecidableEq

namespace Reading

def step (reading : Reading) (c : Char) : Option Reading :=
  match reading.mode with
  | .code =>
      if c = '"' then some { reading with mode := .literal }
      else
        match Bracket.opening? c, Bracket.closing? c with
        | some bracket, _ => some { reading with opened := bracket :: reading.opened }
        | none, some bracket =>
            if reading.opened.head? = some bracket then
              some { reading with opened := reading.opened.tail }
            else none
        | none, none => some reading
  | .literal =>
      if c = '"' then some { reading with mode := .code }
      else if c = '\\' then some { reading with mode := .escape }
      else if c = '\n' then none
      else some reading
  | .escape => if c = '\n' then none else some { reading with mode := .literal }

def through (reading : Reading) (chars : List Char) : Option Reading :=
  chars.foldlM step reading

/-- The reading inside brackets that are open already. -/
def within (reading : Reading) (outer : List Bracket) : Reading :=
  { reading with opened := reading.opened ++ outer }

variable {reading next : Reading} {outer : List Bracket} {chars : List Char}

theorem through_append (reading : Reading) (first second : List Char) :
    reading.through (first ++ second) = (reading.through first).bind (·.through second) :=
  List.foldlM_append

/-- What is open around a text does not matter if the text can be read without it. -/
theorem step_within {c : Char} (read : reading.step c = some next) (outer : List Bracket) :
    (reading.within outer).step c = some (next.within outer) := by
  obtain ⟨opened, mode⟩ := reading
  cases mode with
  | code =>
    simp only [step] at read
    split_ifs at read with quote
    · cases read
      simp only [step, within, if_pos quote]
    · simp only [step, within, if_neg quote]
      split at read
      · cases read
        rfl
      · split_ifs at read with innermost
        cases read
        cases opened with
        | nil => cases innermost
        | cons first rest =>
          have same : (first :: rest ++ outer).head? = some _ := innermost
          exact if_pos same
      · cases read
        rfl
  | literal =>
    simp only [step] at read
    simp only [step, within]
    split_ifs at read ⊢ <;> cases read <;> rfl
  | escape =>
    simp only [step] at read
    simp only [step, within]
    split_ifs at read ⊢
    cases read
    rfl

/-- Brackets that are open around a text are not touched by it. -/
theorem through_within (read : reading.through chars = some next) (outer : List Bracket) :
    (reading.within outer).through chars = some (next.within outer) := by
  induction chars generalizing reading with
  | nil =>
    cases read
    rfl
  | cons c rest ih =>
    rw [through, List.foldlM_cons] at read ⊢
    obtain ⟨between, first, read⟩ := Option.bind_eq_some_iff.mp read
    exact Option.bind_eq_some_iff.mpr ⟨_, step_within first outer, ih read⟩

/-- A text that can be read can be read up to any place in it. -/
theorem exists_through_of_isPrefix {before : List Char} (isPrefix : before <+: chars)
    (read : reading.through chars = some next) :
    ∃ between, reading.through before = some between := by
  obtain ⟨rest, rfl⟩ := isPrefix
  rw [through_append] at read
  obtain ⟨between, first, -⟩ := Option.bind_eq_some_iff.mp read
  exact ⟨between, first⟩

end Reading

/-! ## Balanced texts -/

/-- Whether every bracket of a text is matched by one of its kind and every literal is closed. -/
def IsBalanced (text : String) : Prop :=
  Reading.through {} text.toList = some {}

instance (text : String) : Decidable (IsBalanced text) :=
  inferInstanceAs (Decidable (_ = _))

/-- Whether a text leaves one bracket open. -/
def Opens (text : String) (bracket : Bracket) : Prop :=
  Reading.through {} text.toList = some { opened := [bracket] }

/-- Whether a text closes one bracket that is open. -/
def Closes (text : String) (bracket : Bracket) : Prop :=
  Reading.through { opened := [bracket] } text.toList = some {}

section Texts

variable {first second inside text front back : String} {bracket : Bracket} {outer : List Bracket}

theorem IsBalanced.through (balanced : IsBalanced text) (outer : List Bracket) :
    Reading.through { opened := outer } text.toList = some { opened := outer } :=
  Reading.through_within balanced outer

theorem IsBalanced.append (balanced : IsBalanced first) (other : IsBalanced second) :
    IsBalanced (first ++ second) := by
  rw [IsBalanced, String.toList_append, Reading.through_append, balanced]
  exact other

theorem Opens.behind (opens : Opens front bracket) (balanced : IsBalanced text) :
    Opens (text ++ front) bracket := by
  rw [Opens, String.toList_append, Reading.through_append, balanced]
  exact opens

/-- A bracket and the one that closes it may be put around a balanced text. -/
theorem IsBalanced.between (balanced : IsBalanced inside) (opens : Opens front bracket)
    (closes : Closes back bracket) : IsBalanced (front ++ inside ++ back) := by
  rw [IsBalanced, String.toList_append, String.toList_append, Reading.through_append,
    Reading.through_append, opens, Option.bind_some, balanced.through, Option.bind_some]
  exact closes

theorem isBalanced_join {texts : List String} (each : ∀ text ∈ texts, IsBalanced text) :
    IsBalanced (String.join texts) := by
  induction texts with
  | nil => rfl
  | cons first rest ih =>
    rw [String.join_cons]
    exact (each first (List.mem_cons_self ..)).append
      (ih fun text member => each text (List.mem_cons_of_mem _ member))

theorem opens_brace : Opens openBrace .brace := rfl

theorem closes_brace : Closes closeBrace .brace := rfl

/-- A composite literal is balanced if its type and its entries are. -/
theorem isBalanced_composite {type : String} {entries : List String} (ofType : IsBalanced type)
    (each : ∀ entry ∈ entries, IsBalanced entry) : IsBalanced (composite type entries) := by
  have lines : IsBalanced (String.join (entries.map ("\n" ++ ·))) := by
    refine isBalanced_join fun line member => ?_
    obtain ⟨entry, listed, rfl⟩ := List.mem_map.mp member
    exact IsBalanced.append rfl (each entry listed)
  have closes : Closes ("\n" ++ closeBrace) .brace := rfl
  have between := lines.between (opens_brace.behind ofType) closes
  rwa [← String.append_assoc] at between

theorem isBalanced_emptyComposite {type : String} (ofType : IsBalanced type) :
    IsBalanced (emptyComposite type) := by
  have nothing : IsBalanced "" := rfl
  have between := nothing.between (opens_brace.behind ofType) closes_brace
  rwa [String.append_empty] at between

end Texts

/-! ## Plain text and literals -/

/-- Whether a character is neither a quotation mark nor a bracket. -/
def isPlain (c : Char) : Bool :=
  !(['"', '\x7b', '\x7d', '[', ']', '(', ')'].contains c)

/-- A character of a name as specifications ask for it: a small letter, a digit or an underscore. -/
def isSnakeChar (c : Char) : Bool :=
  c.isLower || c.isDigit || c = '_'

/-- Such names can be quoted. -/
theorem quotable_of_snake {name : String} (snake : name.toList.all isSnakeChar = true) :
    Quotable name := by
  refine List.all_eq_true.mpr fun c member => ?_
  have own := List.all_eq_true.mp snake c member
  rw [standsForItself_iff]
  refine ⟨?_, ?_, ?_⟩ <;> rintro rfl <;> exact absurd own (by decide)

section Literals

variable {text : String} {opened : List Bracket} {chars : List Char}

/-- A plain character leaves everything as it is. -/
private theorem step_plain {c : Char} (plain : isPlain c = true) :
    Reading.step { opened } c = some { opened } := by
  simp only [isPlain, Bool.not_eq_true', List.contains_eq_mem, decide_eq_false_iff_not,
    List.mem_cons, List.not_mem_nil, or_false, not_or] at plain
  have noOpening : Bracket.opening? c = none := by
    unfold Bracket.opening?
    split <;> simp_all
  have noClosing : Bracket.closing? c = none := by
    unfold Bracket.closing?
    split <;> simp_all
  simp only [Reading.step, if_neg plain.1, noOpening, noClosing]

/-- Plain characters neither open nor close anything, nor start a literal. -/
theorem through_plain (plain : chars.all isPlain = true) :
    Reading.through { opened } chars = some { opened } := by
  induction chars with
  | nil => rfl
  | cons c rest ih =>
    obtain ⟨own, plain⟩ := (Bool.and_eq_true _ _).mp plain
    rw [Reading.through, List.foldlM_cons, step_plain own]
    exact ih plain

/-- Inside a literal the reading goes on up to a quotation mark, a backslash or a line break. -/
theorem through_quotable (quotable : chars.all standsForItself = true) :
    Reading.through { opened, mode := .literal } chars = some { opened, mode := .literal } := by
  induction chars with
  | nil => rfl
  | cons c rest ih =>
    obtain ⟨own, quotable⟩ := (Bool.and_eq_true _ _).mp quotable
    obtain ⟨noQuote, noEscape, noBreak⟩ := standsForItself_iff.mp own
    have stays : Reading.step { opened, mode := .literal } c =
        some { opened, mode := .literal } := by
      simp only [Reading.step, if_neg noQuote, if_neg noEscape, if_neg noBreak]
    rw [Reading.through, List.foldlM_cons, stays]
    exact ih quotable

/-- What spells a text leads from inside a literal back into it. -/
theorem through_spells {spelled : List Char} (spells : Spells chars spelled) :
    Reading.through { opened, mode := .literal } chars = some { opened, mode := .literal } := by
  induction spells with
  | nil => rfl
  | @plain c _ _ own _ ih =>
    have single : [c].all standsForItself = true := by rw [List.all_cons, own]; rfl
    rw [← List.singleton_append, Reading.through_append, through_quotable single]
    exact ih
  | @letter letter _ _ _ named _ ih =>
    have noBreak : letter ≠ '\n' := by
      rintro rfl
      cases named
    have behind : Reading.step { opened, mode := .escape } letter =
        some { opened, mode := .literal } := if_neg noBreak
    change Reading.through { opened, mode := .escape } (letter :: _) = _
    rw [Reading.through, List.foldlM_cons, behind]
    exact ih
  | @number first second third fourth _ _ _ named _ ih =>
    -- The backslash and the letter behind it lead back into the literal, the digits stay in it.
    change Reading.through { opened, mode := .literal } ([first, second, third, fourth] ++ _) = _
    rw [Reading.through_append, through_quotable (all_of_numberedBy? named)]
    exact ih

/-- Between quotation marks stands what reads from inside a literal back into it. -/
theorem through_literal
    (inside : Reading.through { mode := .literal } chars = some { mode := .literal }) :
    Reading.through {} ('"' :: chars ++ ['"']) = some {} := by
  rw [List.cons_append, Reading.through, List.foldlM_cons]
  change Reading.through { mode := .literal } (chars ++ ['"']) = _
  rw [Reading.through_append, inside]
  rfl

theorem isBalanced_inQuotes (quotable : Quotable text) : IsBalanced (inQuotes text) := by
  rw [IsBalanced, toList_inQuotes]
  exact through_literal (through_quotable quotable)

/-- A literal is balanced whatever text it is for. -/
theorem isBalanced_goLiteral (text : String) : IsBalanced (Text.goLiteral text) := by
  rw [IsBalanced, goLiteral_eq_inQuotes, toList_inQuotes, String.toList_ofList]
  exact through_literal (through_spells (spells_flatMap_goEscape _))

end Literals

/-! ## The outermost brace -/

/-- Whether a text can be read without any bracket being open anywhere in it. -/
structure Flat (text : String) : Prop where
  balanced : IsBalanced text
  nothingOpen : ∀ before, before <+: text.toList → ∃ mode, Reading.through {} before = some { mode }

/-- Whether a text is an entry around a brace: behind a head in which no bracket is open a brace
opens, and it stays open until, at the end of the text and before a comma, the last brace closes. -/
def ClosesLast (text : String) : Prop :=
  ∃ head inside, text = head ++ openBrace ++ inside ++ closeBrace ++ "," ∧
    (∀ before, before <+: head.toList → ∃ mode, Reading.through {} before = some { mode }) ∧
    ∀ before, before <+: inside.toList → ∃ reading : Reading,
      Reading.through {} ((head ++ openBrace).toList ++ before) = some reading ∧
        reading.opened.getLast? = some .brace

section Entries

variable {first second head inside text : String}

private theorem all_of_isPrefix {holds : Char → Bool} {before chars : List Char}
    (isPrefix : before <+: chars) (all : chars.all holds = true) : before.all holds = true :=
  List.all_eq_true.mpr fun c member => List.all_eq_true.mp all c (isPrefix.subset member)

theorem flat_of_plain (plain : text.toList.all isPlain = true) : Flat text :=
  ⟨through_plain plain, fun _ isPrefix => ⟨.code, through_plain (all_of_isPrefix isPrefix plain)⟩⟩

theorem flat_inQuotes (quotable : Quotable text) : Flat (inQuotes text) := by
  refine ⟨isBalanced_inQuotes quotable, fun before isPrefix => ?_⟩
  rw [toList_inQuotes, List.cons_append, List.prefix_cons_iff] at isPrefix
  rcases isPrefix with rfl | ⟨before, rfl, isPrefix⟩
  · exact ⟨.code, rfl⟩
  · rcases List.prefix_concat_iff.mp isPrefix with rfl | isPrefix
    · have read := isBalanced_inQuotes quotable
      rw [IsBalanced, toList_inQuotes] at read
      exact ⟨.code, read⟩
    · exact ⟨.literal, through_quotable (all_of_isPrefix isPrefix quotable)⟩

theorem Flat.append (flat : Flat first) (other : Flat second) : Flat (first ++ second) := by
  refine ⟨flat.balanced.append other.balanced, fun before isPrefix => ?_⟩
  rw [String.toList_append] at isPrefix
  rcases List.prefix_or_prefix_of_prefix isPrefix (List.prefix_append _ _) with short | ⟨rest, rfl⟩
  · exact flat.nothingOpen before short
  · rw [Reading.through_append, flat.balanced]
    exact other.nothingOpen rest ((List.prefix_append_right_inj _).mp isPrefix)

/-- The text between the braces must be balanced, or another brace could close the first. -/
theorem closesLast_of_balanced (flat : Flat head) (balanced : IsBalanced inside) :
    ClosesLast (head ++ openBrace ++ inside ++ closeBrace ++ ",") := by
  refine ⟨head, inside, rfl, flat.nothingOpen, fun before isPrefix => ?_⟩
  obtain ⟨reading, read⟩ := Reading.exists_through_of_isPrefix isPrefix balanced
  refine ⟨reading.within [.brace], ?_, List.getLast?_concat ..⟩
  rw [Reading.through_append, opens_brace.behind flat.balanced]
  exact Reading.through_within read [.brace]

end Entries

end ProviderCodegen.Source
