import Mathlib.Data.List.Basic
import ProviderCodegen.Source.Line
import ProviderCodegen.Text.Quoted

/-! # Reading literals back

What an interpreted string literal may hold between its quotation marks is given by `Spells`:
characters that stand for themselves, escapes of one letter and characters by number, but no line
break, quotation mark or backslash of its own. `readLiteral?` reads such a spelling at the start
of a text, up to the mark that closes it (`readLiteral?_eq_some_iff`). `goLiteral` writes a spelling
of its text, so the text is read back whatever stands behind the literal.
-/

namespace ProviderCodegen.Source

open Text (goEscape goLiteral hexDigit? hexadecimal isControl)

variable {c : Char} {chars inside text rest : List Char}

/-! ## The inside of a literal -/

/-- Whether a character stands for itself between quotation marks. -/
def standsForItself (c : Char) : Bool :=
  c ≠ '"' && c ≠ '\\' && c ≠ '\n'

/-- Whether a text can stand between quotation marks as it is. -/
def Quotable (text : String) : Prop :=
  text.toList.all standsForItself = true

instance (text : String) : Decidable (Quotable text) :=
  inferInstanceAs (Decidable (_ = _))

/-- The character that a backslash and a letter name. -/
def escapedBy? (letter : Char) : Option Char :=
  if letter = '"' || letter = '\\' then some letter
  else if letter = 'n' then some '\n'
  else if letter = 'r' then some '\r'
  else if letter = 't' then some '\t'
  else none

/-- The character whose number some hexadecimal digits give. Half of a surrogate pair is no
character. -/
def numberedBy? (digits : List Char) : Option Char :=
  (digits.foldlM (fun code digit => (hexDigit? digit).map (16 * code + ·)) 0).bind fun code =>
    if code.isValidChar then some (Char.ofNat code) else none

/-- Whether what stands between quotation marks spells a text. -/
inductive Spells : List Char → List Char → Prop
  | nil : Spells [] []
  | plain {c : Char} {inside text : List Char} (own : standsForItself c = true)
      (others : Spells inside text) : Spells (c :: inside) (c :: text)
  | letter {letter c : Char} {inside text : List Char} (named : escapedBy? letter = some c)
      (others : Spells inside text) : Spells ('\\' :: letter :: inside) (c :: text)
  | number {first second third fourth c : Char} {inside text : List Char}
      (named : numberedBy? [first, second, third, fourth] = some c) (others : Spells inside text) :
      Spells ('\\' :: 'u' :: first :: second :: third :: fourth :: inside) (c :: text)

theorem standsForItself_iff : standsForItself c = true ↔ c ≠ '"' ∧ c ≠ '\\' ∧ c ≠ '\n' := by
  simp only [standsForItself, Bool.and_eq_true, decide_eq_true_eq, and_assoc]

private theorem standsForItself_of_hexDigit? {code : Nat} (digit : hexDigit? c = some code) :
    standsForItself c = true := by
  rw [standsForItself_iff]
  refine ⟨?_, ?_, ?_⟩
  · rintro rfl
    cases digit
  · rintro rfl
    cases digit
  · rintro rfl
    cases digit

private theorem all_of_digits {code value : Nat}
    (read : chars.foldlM (fun code digit => (hexDigit? digit).map (16 * code + ·)) code =
      some value) : chars.all standsForItself = true := by
  induction chars generalizing code with
  | nil => rfl
  | cons digit rest ih =>
    rw [List.foldlM_cons] at read
    obtain ⟨next, first, others⟩ := Option.bind_eq_some_iff.mp read
    obtain ⟨own, isDigit, -⟩ := Option.map_eq_some_iff.mp first
    rw [List.all_cons, standsForItself_of_hexDigit? isDigit, Bool.true_and]
    exact ih others

/-- Digits that give a number stand for themselves. -/
theorem all_of_numberedBy? (named : numberedBy? chars = some c) :
    chars.all standsForItself = true := by
  obtain ⟨value, read, -⟩ := Option.bind_eq_some_iff.mp named
  exact all_of_digits read

/-! ## Reading -/

theorem toList_inQuotes (text : String) : (inQuotes text).toList = '"' :: text.toList ++ ['"'] := by
  simp only [inQuotes, String.toList_append]
  rfl

/-- A reading with one more character in front of its text. -/
def behindChar (c : Char) (reading : Option (List Char × List Char)) :
    Option (List Char × List Char) :=
  reading.map fun (text, rest) => (c :: text, rest)

/-- Read behind the opening mark of a literal: the text that it spells, and what follows its closing
mark. -/
def readInside? : List Char → Option (List Char × List Char)
  | [] => none
  | '"' :: rest => some ([], rest)
  | '\\' :: 'u' :: first :: second :: third :: fourth :: rest =>
      (numberedBy? [first, second, third, fourth]).bind fun c => behindChar c (readInside? rest)
  | '\\' :: letter :: rest => (escapedBy? letter).bind fun c => behindChar c (readInside? rest)
  | c :: rest => if standsForItself c then behindChar c (readInside? rest) else none

/-- Read a literal at the start of a text: the text that it spells, and what follows it. -/
def readLiteral? (text : String) : Option (String × String) :=
  match text.toList with
  | '"' :: chars =>
      (readInside? chars).map fun (text, rest) => (String.ofList text, String.ofList rest)
  | _ => none

/-- A reading that fails behind the character fails as a whole. -/
theorem behindChar_eq_some_iff {reading : Option (List Char × List Char)} :
    behindChar c reading = some (text, rest) ↔
      ∃ others, reading = some (others, rest) ∧ text = c :: others := by
  rw [behindChar, Option.map_eq_some_iff]
  constructor
  · rintro ⟨⟨others, behind⟩, found, same⟩
    cases same
    exact ⟨others, found, rfl⟩
  · rintro ⟨others, found, rfl⟩
    exact ⟨(others, rest), found, rfl⟩

private theorem readInside?_plain (own : standsForItself c = true) (rest : List Char) :
    readInside? (c :: rest) = behindChar c (readInside? rest) := by
  have other {d : Char} (mark : standsForItself d = false) : c ≠ d := by
    rintro rfl
    rw [own] at mark
    cases mark
  rw [readInside?, if_pos own]
  · exact other (by decide)
  · intro first second third fourth behind escape
    exact absurd escape (other (by decide))
  · intro letter behind escape
    exact absurd escape (other (by decide))

private theorem readInside?_letter {letter : Char} (named : escapedBy? letter = some c)
    (rest : List Char) :
    readInside? ('\\' :: letter :: rest) = behindChar c (readInside? rest) := by
  rw [readInside?, named, Option.bind_some]
  rintro first second third fourth behind rfl
  cases named

private theorem readInside?_number {first second third fourth : Char}
    (named : numberedBy? [first, second, third, fourth] = some c) (rest : List Char) :
    readInside? ('\\' :: 'u' :: first :: second :: third :: fourth :: rest) =
      behindChar c (readInside? rest) := by
  rw [readInside?, named, Option.bind_some]

private theorem readInside?_of_spells (spells : Spells inside text) (rest : List Char) :
    readInside? (inside ++ '"' :: rest) = some (text, rest) := by
  induction spells with
  | nil => rfl
  | plain own _ ih =>
    rw [List.cons_append, readInside?_plain own, ih]
    rfl
  | letter named _ ih =>
    rw [List.cons_append, List.cons_append, readInside?_letter named, ih]
    rfl
  | number named _ ih =>
    simp only [List.cons_append]
    rw [readInside?_number named, ih]
    rfl

private theorem exists_spells_of_readInside? (read : readInside? chars = some (text, rest)) :
    ∃ inside, Spells inside text ∧ chars = inside ++ '"' :: rest := by
  induction chars using readInside?.induct generalizing text with
  | case1 => cases read
  | case2 behind =>
    cases read
    exact ⟨[], .nil, rfl⟩
  | case3 first second third fourth behind ih =>
    rw [readInside?] at read
    obtain ⟨c, named, read⟩ := Option.bind_eq_some_iff.mp read
    obtain ⟨others, behindRead, rfl⟩ := behindChar_eq_some_iff.mp read
    obtain ⟨inside, spells, rfl⟩ := ih behindRead
    exact ⟨_, .number named spells, rfl⟩
  | case4 letter behind noNumber ih =>
    rw [readInside?] at read
    · obtain ⟨c, named, read⟩ := Option.bind_eq_some_iff.mp read
      obtain ⟨others, behindRead, rfl⟩ := behindChar_eq_some_iff.mp read
      obtain ⟨inside, spells, rfl⟩ := ih behindRead
      exact ⟨_, .letter named spells, rfl⟩
    · exact noNumber
  | case5 c behind unquoted noNumber noLetter own ih =>
    rw [readInside?_plain own] at read
    obtain ⟨others, behindRead, rfl⟩ := behindChar_eq_some_iff.mp read
    obtain ⟨inside, spells, rfl⟩ := ih behindRead
    exact ⟨_, .plain own spells, rfl⟩
  | case6 c behind unquoted noNumber noLetter foreign =>
    rw [readInside?, if_neg foreign] at read
    · cases read
    · exact unquoted
    · exact noNumber
    · exact noLetter

/-- Reading stops at the first quotation mark that is not part of a spelling. -/
theorem readInside?_eq_some_iff :
    readInside? chars = some (text, rest) ↔
      ∃ inside, Spells inside text ∧ chars = inside ++ '"' :: rest := by
  constructor
  · exact exists_spells_of_readInside?
  · rintro ⟨inside, spells, rfl⟩
    exact readInside?_of_spells spells rest

/-- What is read is a spelling in quotation marks, and what follows it. -/
theorem readLiteral?_eq_some_iff {source text rest : String} :
    readLiteral? source = some (text, rest) ↔
      ∃ inside : String, Spells inside.toList text.toList ∧ source = inQuotes inside ++ rest := by
  have chars (inside : String) : (inQuotes inside ++ rest).toList =
      '"' :: (inside.toList ++ '"' :: rest.toList) := by
    rw [String.toList_append, toList_inQuotes, List.cons_append, List.cons_append, List.append_assoc]
    rfl
  constructor
  · intro read
    unfold readLiteral? at read
    split at read
    · rename_i behind quoted
      obtain ⟨⟨text, rest⟩, inner, same⟩ := Option.map_eq_some_iff.mp read
      cases same
      obtain ⟨inside, spells, rfl⟩ := readInside?_eq_some_iff.mp inner
      refine ⟨String.ofList inside, ?_, ?_⟩
      · rw [String.toList_ofList, String.toList_ofList]
        exact spells
      · rw [← String.toList_inj, quoted, chars, String.toList_ofList, String.toList_ofList]
    · cases read
  · rintro ⟨inside, spells, rfl⟩
    have inner := readInside?_of_spells spells rest.toList
    simp only [readLiteral?, chars, inner, Option.map_some, String.ofList_toList]

/-! ## What is written -/

private theorem length_hexadecimal_of_control :
    ∀ code < 0xa0, (hexadecimal 4 code).length = 4 := by
  decide +kernel

/-- The number of a control character names it. -/
private theorem numberedBy?_of_control :
    ∀ code < 0xa0, numberedBy? (hexadecimal 4 code) = some (Char.ofNat code) := by
  decide +kernel

private theorem hexadecimal_visible :
    ∀ code < 0xa0, (hexadecimal 4 code).any isControl = false := by
  decide +kernel

/-- A character is written by a letter, by its number or as itself. -/
theorem goEscape_cases (c : Char) :
    (∃ letter, escapedBy? letter = some c ∧ isControl letter = false ∧ goEscape c = ['\\', letter]) ∨
      (c.toNat < 0xa0 ∧ goEscape c = '\\' :: 'u' :: hexadecimal 4 c.toNat) ∨
      (standsForItself c = true ∧ isControl c = false ∧ goEscape c = [c]) := by
  unfold goEscape
  split_ifs with quote escape newline carriage tab control
  · exact .inl ⟨'"', by rw [quote]; rfl, by decide, rfl⟩
  · exact .inl ⟨'\\', by rw [escape]; rfl, by decide, rfl⟩
  · exact .inl ⟨'n', by rw [newline]; rfl, by decide, rfl⟩
  · exact .inl ⟨'r', by rw [carriage]; rfl, by decide, rfl⟩
  · exact .inl ⟨'t', by rw [tab]; rfl, by decide, rfl⟩
  · refine .inr (.inl ⟨?_, rfl⟩)
    simp only [isControl, Bool.or_eq_true, Bool.and_eq_true, decide_eq_true_eq] at control
    omega
  · refine .inr (.inr ⟨?_, Bool.eq_false_iff.mpr control, rfl⟩)
    exact standsForItself_iff.mpr ⟨quote, escape, newline⟩

/-- What is written for a character spells it. -/
theorem spells_goEscape_append (c : Char) (others : Spells inside text) :
    Spells (goEscape c ++ inside) (c :: text) := by
  rcases goEscape_cases c with ⟨letter, named, -, written⟩ | ⟨small, written⟩ | ⟨own, -, written⟩
  · rw [written]
    exact .letter named others
  · have named := numberedBy?_of_control c.toNat small
    obtain ⟨first, second, third, fourth, digits⟩ :=
      List.length_eq_four.mp (length_hexadecimal_of_control c.toNat small)
    rw [digits, Char.ofNat_toNat] at named
    rw [written, digits]
    exact .number named others
  · rw [written]
    exact .plain own others

/-- By induction on the characters, each of which is spelled by its own escape. -/
theorem spells_flatMap_goEscape (chars : List Char) : Spells (chars.flatMap goEscape) chars := by
  induction chars with
  | nil => exact .nil
  | cons c rest ih => exact spells_goEscape_append c ih

theorem goLiteral_eq_inQuotes (text : String) :
    goLiteral text = inQuotes (String.ofList (text.toList.flatMap goEscape)) := by
  rw [← String.toList_inj, toList_inQuotes, goLiteral, String.toList_ofList, String.toList_ofList]

/-- The closing quotation mark is found, since those in the text are escaped. -/
theorem readLiteral?_goLiteral_append (text rest : String) :
    readLiteral? (goLiteral text ++ rest) = some (text, rest) := by
  rw [readLiteral?_eq_some_iff]
  refine ⟨String.ofList (text.toList.flatMap goEscape), ?_, ?_⟩
  · rw [String.toList_ofList]
    exact spells_flatMap_goEscape _
  · rw [goLiteral_eq_inQuotes]

private theorem goEscape_visible (c : Char) : (goEscape c).any isControl = false := by
  have mark : isControl '\\' = false := by decide
  have number : isControl 'u' = false := by decide
  rcases goEscape_cases c with ⟨letter, -, seen, written⟩ | ⟨small, written⟩ | ⟨-, seen, written⟩
  · simp only [written, List.any_cons, List.any_nil, mark, seen, Bool.or_false]
  · simp only [written, List.any_cons, mark, number, hexadecimal_visible c.toNat small, Bool.or_false]
  · simp only [written, List.any_cons, List.any_nil, seen, Bool.or_false]

/-- Control characters are all escaped, so the literal stays on its line. -/
theorem goLiteral_visible (text : String) : (goLiteral text).toList.any isControl = false := by
  have inside : (text.toList.flatMap goEscape).any isControl = false := by
    rw [List.any_flatMap]
    exact List.any_eq_false.mpr fun c _ => by rw [goEscape_visible]; exact Bool.false_ne_true
  have mark : isControl '"' = false := by decide
  simp only [goLiteral, String.toList_ofList, List.cons_append, List.any_cons, List.any_append,
    List.any_nil, inside, mark, Bool.or_false]

/-- A literal is read back and ends by itself. The reader takes the spellings in quotation marks and
nothing else. It stops where the literal of a text stops, whatever stands behind it, and gives that
text. So no two texts have the same literal, and a literal has no control character, whatever its
text has. -/
theorem goLiteral_lossless :
    (∀ source text rest : String, readLiteral? source = some (text, rest) ↔
      ∃ inside : String, Spells inside.toList text.toList ∧ source = inQuotes inside ++ rest) ∧
      (∀ text rest : String, readLiteral? (goLiteral text ++ rest) = some (text, rest)) ∧
      Function.Injective goLiteral ∧
      ∀ text : String, (goLiteral text).toList.any isControl = false := by
  refine ⟨fun _ _ _ => readLiteral?_eq_some_iff, readLiteral?_goLiteral_append, ?_,
    goLiteral_visible⟩
  intro text other same
  have read := readLiteral?_goLiteral_append text ""
  rw [same, readLiteral?_goLiteral_append other ""] at read
  exact (congrArg Prod.fst (Option.some.inj read)).symm

/-- A text that ends in a backslash and looks like an escape, with another literal behind it. -/
theorem readLiteral?_twoLiterals :
    goLiteral "\x01\\u0041\\" = "\"\\u0001\\\\u0041\\\\\"" ∧
      readLiteral? (goLiteral "\x01\\u0041\\" ++ "\"") = some ("\x01\\u0041\\", "\"") :=
  ⟨by decide, goLiteral_lossless.2.1 _ _⟩

/-- A line break or an escape without a meaning makes no literal. -/
example : readLiteral? "\"a\nb\"" = none ∧ readLiteral? "\"\\q\"" = none ∧
    readLiteral? "\"\\ud800\"" = none := by
  decide

end ProviderCodegen.Source
