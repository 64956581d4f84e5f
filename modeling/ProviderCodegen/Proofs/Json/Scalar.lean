import Mathlib.Data.Nat.Digits.Defs
import Mathlib.Tactic.IntervalCases
import ProviderCodegen.Json.Printer
import ProviderCodegen.Json.Reader

/-! # Scalars in JSON texts

What `scalar` writes for a number is one word to the lexer, and whole numbers that fit 64 bits are
read back from it. What is written for a text in quotes is one string, whose units make the text
again: most characters stand for themselves, a control character without an escape of its own for
its number.
-/

namespace ProviderCodegen.Json

/-! ## Whole numbers -/

section Digits

variable {n : Nat} {chars rest : List Char}

def digitValue (c : Char) : Nat :=
  c.toNat - '0'.toNat

theorem splitDigits_of_digits (digits : ∀ c ∈ chars, c.isDigit = true) :
    splitDigits chars = (chars.map digitValue, []) := by
  induction chars with
  | nil => rfl
  | cons c rest ih =>
    have first := digits c (List.mem_cons_self ..)
    have others := ih fun d member => digits d (List.mem_cons_of_mem _ member)
    simp only [splitDigits, digit?, first, if_true, others, List.map_cons, digitValue]

theorem isDigit_toDigits {c : Char} (member : c ∈ Nat.toDigits 10 n) : c.isDigit = true :=
  Nat.isDigit_of_mem_toDigits (by decide) (by decide) member

theorem splitDigits_toDigits (n : Nat) :
    splitDigits (Nat.toDigits 10 n) = ((Nat.toDigits 10 n).map digitValue, []) :=
  splitDigits_of_digits fun _ => isDigit_toDigits

theorem ofDigits_toDigits (n : Nat) : ofDigits ((Nat.toDigits 10 n).map digitValue) = n := by
  have read := Nat.ofDigitChars_ten_toDigits (n := n)
  rw [Nat.ofDigitChars_eq_foldl] at read
  rw [ofDigits, List.foldl_map]
  exact read

theorem digitChar_ne_zero {n : Nat} (positive : 0 < n) (small : n < 10) : n.digitChar ≠ '0' := by
  interval_cases n <;> decide

/-- No number but zero starts with the digit zero. -/
theorem head?_toDigits (positive : 0 < n) : (Nat.toDigits 10 n).head? ≠ some '0' := by
  induction n using Nat.strongRecOn with
  | ind n ih =>
    by_cases small : n < 10
    · rw [Nat.toDigits_of_lt_base small, List.head?_cons]
      exact fun same => digitChar_ne_zero positive small (Option.some.inj same)
    · have more : 10 ≤ n := Nat.le_of_not_lt small
      have fewer := ih (n / 10) (by omega) (by omega)
      rw [Nat.toDigits_of_base_le (by decide) more, List.head?_append]
      cases first : (Nat.toDigits 10 (n / 10)).head? with
      | none => exact absurd (List.head?_eq_none_iff.mp first) Nat.toDigits_ne_nil
      | some c =>
        rw [first] at fewer
        exact fewer

/-- The digit zero is the only one of value zero, which matters for leading zeros. -/
theorem eq_zero_of_digitValue {c : Char} (digit : c.isDigit = true) (zero : digitValue c = 0) :
    c = '0' := by
  have bound : '0'.toNat ≤ c.toNat := by
    simp only [Char.isDigit, Bool.and_eq_true, decide_eq_true_eq] at digit
    exact digit.1
  apply Char.toNat_inj.mp
  simp only [digitValue] at zero
  omega

/-- A zero starts no longer number. -/
theorem digits_ne_zero_cons (n d : Nat) (digits : List Nat) :
    (Nat.toDigits 10 n).map digitValue ≠ 0 :: d :: digits := by
  intro same
  obtain ⟨c, others, written, zero, more⟩ := List.map_eq_cons_iff.mp same
  have first : c = '0' := eq_zero_of_digitValue (isDigit_toDigits (written ▸ List.mem_cons_self ..)) zero
  rcases Nat.eq_zero_or_pos n with rfl | positive
  · rw [Nat.toDigits_zero] at written
    cases written
    cases more
  · refine head?_toDigits positive ?_
    rw [written, first]
    rfl

private theorem numeral_of_split (negative : Bool) (n : Nat) :
    (match splitDigits (Nat.toDigits 10 n) with
      | ([], _) => none
      | (0 :: _ :: _, _) => none
      | (whole, rest) => (tail? rest).map fun (fraction, exponent) =>
          ({ negative, whole, fraction, exponent } : Numeral)) =
      some
        { negative, whole := (Nat.toDigits 10 n).map digitValue, fraction := none,
          exponent := none } := by
  rw [splitDigits_toDigits]
  split
  · rename_i empty
    exact absurd (List.map_eq_nil_iff.mp (Prod.mk.inj empty).1) Nat.toDigits_ne_nil
  · rename_i padded
    exact absurd (Prod.mk.inj padded).1 (digits_ne_zero_cons n _ _)
  · rename_i separate
    cases separate
    rfl

/-- A natural number is read without a fraction and without an exponent. -/
theorem ofChars?_toDigits (n : Nat) :
    Numeral.ofChars? (Nat.toDigits 10 n) = some
      { negative := false, whole := (Nat.toDigits 10 n).map digitValue, fraction := none,
        exponent := none } := by
  unfold Numeral.ofChars?
  split
  rename_i negative rest sign
  split at sign
  · rename_i signed
    have digit := isDigit_toDigits (n := n) (c := '-') (signed ▸ List.mem_cons_self ..)
    cases digit
  · cases sign
    exact numeral_of_split false n

/-- The sign in front is all that the numeral of a negative number adds. -/
theorem ofChars?_minus_cons (n : Nat) :
    Numeral.ofChars? ('-' :: Nat.toDigits 10 n) = some
      { negative := true, whole := (Nat.toDigits 10 n).map digitValue, fraction := none,
        exponent := none } :=
  numeral_of_split true n

/-- A text that starts with a digit or a minus is no word. -/
theorem scalar?_eq_ofChars? {c : Char} {chars : List Char} (numeric : c.isDigit = true ∨ c = '-') :
    scalar? (c :: chars) = (Numeral.ofChars? (c :: chars)).map Numeral.toDatum := by
  have different : ∀ {d : Char} {word : List Char}, d.isDigit = false → d ≠ '-' →
      c :: chars ≠ d :: word := by
    rintro d word letter unsigned same
    cases same
    rcases numeric with digit | minus
    · rw [letter] at digit; cases digit
    · exact unsigned minus
  simp only [scalar?, different rfl (by decide : 'n' ≠ '-'), different rfl (by decide : 't' ≠ '-'),
    different rfl (by decide : 'f' ≠ '-'), if_false]

/-- A whole number that fits 64 bits, with or without a sign, is read back. -/
theorem scalar?_decimal {n : Int} (low : -(negativeMax : Int) ≤ n) (high : n ≤ wordMax) :
    scalar? (Text.decimal n).toList = some (.int n) := by
  unfold Text.decimal
  split_ifs with negative
  · have magnitude : -(n.natAbs : Int) = n := by omega
    have positive : n.natAbs ≠ 0 := by omega
    have bound : n.natAbs ≤ negativeMax := by omega
    have chars : ("-" ++ String.ofList (Nat.toDigits 10 n.natAbs)).toList =
        '-' :: Nat.toDigits 10 n.natAbs := by
      simp only [String.toList_append, String.toList_ofList]
      rfl
    rw [chars, scalar?_eq_ofChars? (.inr rfl), ofChars?_minus_cons]
    simp only [Option.map_some, Numeral.toDatum, ofDigits_toDigits, Option.isNone_none, Bool.and_self,
      Bool.not_true, Bool.and_false, Bool.false_and, Bool.false_eq_true, if_false,
      decide_true, positive, bound, ne_eq, not_false_eq_true, if_true, magnitude]
  · have magnitude : (n.natAbs : Int) = n := by omega
    have bound : n.natAbs ≤ wordMax := by omega
    have chars : (String.ofList (Nat.toDigits 10 n.natAbs)).toList = Nat.toDigits 10 n.natAbs :=
      String.toList_ofList
    rw [chars]
    cases written : Nat.toDigits 10 n.natAbs with
    | nil => exact absurd written Nat.toDigits_ne_nil
    | cons c rest =>
      rw [scalar?_eq_ofChars? (.inl (isDigit_toDigits (written ▸ List.mem_cons_self ..))), ← written,
        ofChars?_toDigits]
      simp only [Option.map_some, Numeral.toDatum, ofDigits_toDigits, Option.isNone_none,
        Bool.not_false, Bool.and_self, bound, decide_true, if_true, magnitude]

end Digits

/-! ## Running the lexer -/

namespace Lexer

/-- The tokens of what has been read and of the rest of the text. -/
def run (lexer : Lexer) (chars : List Char) : Option (List Token) :=
  (chars.foldlM step lexer).bind finish

theorem run_cons (lexer : Lexer) (c : Char) (rest : List Char) :
    lexer.run (c :: rest) = (lexer.step c).bind fun next => next.run rest := by
  rw [run, List.foldlM_cons]
  cases lexer.step c <;> rfl

/-- The lexer can be run through a text in two steps. -/
theorem run_append {lexer next : Lexer} {chars : List Char}
    (read : chars.foldlM step lexer = some next) (rest : List Char) :
    lexer.run (chars ++ rest) = next.run rest := by
  rw [run, List.foldlM_append, read]
  rfl

end Lexer

theorem tokens?_eq_run (chars : List Char) : tokens? chars = Lexer.run {} chars := rfl

/-- Whether no word goes on with a text. -/
def EndsWord (rest : List Char) : Prop :=
  ∀ c ∈ rest.head?, isWordChar c = false

/-- Whether a text gives tokens wherever it starts between two tokens and no word goes on after it. -/
def Spells (chars : List Char) (tokens : List Token) : Prop :=
  ∀ before rest, EndsWord rest →
    Lexer.run ⟨.nothing, before⟩ (chars ++ rest) = Lexer.run ⟨.nothing, tokens.reverse ++ before⟩ rest

/-! ## Words -/

section Words

variable {chars : List Char} {value : Datum}

private theorem word_properties {c : Char} (word : isWordChar c = true) :
    isBlank c = false ∧ c ≠ '"' := by
  have different : ∀ {d : Char}, isWordChar d = false → c ≠ d := by
    rintro d other rfl
    rw [word] at other
    cases other
  constructor
  · simp only [isBlank, different (d := ' ') rfl, different (d := '\n') rfl,
      different (d := '\t') rfl, different (d := '\r') rfl, decide_false, Bool.or_self]
  · exact different rfl

private theorem foldlM_word (word : ∀ c ∈ chars, isWordChar c = true) (read : List Char)
    (before : List Token) :
    chars.foldlM Lexer.step ⟨.word read, before⟩ = some ⟨.word (chars.reverse ++ read), before⟩ := by
  induction chars generalizing read with
  | nil => rfl
  | cons c rest ih =>
    have first := word c (List.mem_cons_self ..)
    have others := ih (fun d member => word d (List.mem_cons_of_mem _ member)) (c :: read)
    simp only [List.foldlM_cons, Lexer.step, first, if_true, Option.bind_eq_bind, Option.bind_some,
      others, List.reverse_cons, List.append_assoc, List.singleton_append]

private theorem foldlM_start_word (word : ∀ c ∈ chars, isWordChar c = true) (nonempty : chars ≠ [])
    (before : List Token) :
    chars.foldlM Lexer.step ⟨.nothing, before⟩ = some ⟨.word chars.reverse, before⟩ := by
  cases chars with
  | nil => exact absurd rfl nonempty
  | cons c rest =>
    have first := word c (List.mem_cons_self ..)
    obtain ⟨solid, unquoted⟩ := word_properties first
    have others := foldlM_word (fun d member => word d (List.mem_cons_of_mem _ member)) [c] before
    simp only [List.foldlM_cons, Lexer.step, Lexer.start, solid, Bool.false_eq_true, if_false,
      unquoted, first, if_true, Option.bind_eq_bind, Option.bind_some, others, List.reverse_cons]

/-- A text of word characters is one word, which has the value of the whole. -/
theorem tokens?_word (word : ∀ c ∈ chars, isWordChar c = true) (nonempty : chars ≠ []) :
    tokens? chars = (scalar? chars).map fun value => [.scalar value] := by
  rw [tokens?, foldlM_start_word word nonempty]
  simp only [Option.bind_some, Lexer.finish, List.reverse_reverse]
  rfl

/-- A word is read to its end, where something that is no part of words must follow. -/
theorem spells_word (word : ∀ c ∈ chars, isWordChar c = true) (nonempty : chars ≠ [])
    (read : scalar? chars = some value) : Spells chars [.scalar value] := by
  intro before rest ends
  rw [Lexer.run_append (foldlM_start_word word nonempty before)]
  cases rest with
  | nil =>
    simp only [Lexer.run, List.foldlM_nil, Option.pure_def, Option.bind_some, Lexer.finish,
      List.reverse_reverse, read, Option.map_some]
    rfl
  | cons c rest =>
    have other : isWordChar c = false := ends c rfl
    rw [Lexer.run_cons, Lexer.run_cons]
    simp only [Lexer.step, other, Bool.false_eq_true, if_false, List.reverse_reverse, read,
      Option.bind_some]
    rfl

end Words

/-! ## Strings -/

section Strings

/-- What the lexer keeps of a character that `escape` has written. -/
def unitOf (c : Char) : StringUnit :=
  if c.toNat < 0x20 ∧ c ∉ ['\x08', '\x0c', '\n', '\r', '\t'] then .unit c.toNat else .char c

private theorem foldlM_control {code : Nat} (control : code < 0x20) (units : List StringUnit)
    (before : List Token) :
    ('\\' :: 'u' :: Text.hexadecimal 4 code).foldlM Lexer.step ⟨.quoted units, before⟩ =
      some ⟨.quoted (.unit code :: units), before⟩ := by
  interval_cases code <;> rfl

private theorem foldlM_escape (c : Char) (units : List StringUnit) (before : List Token) :
    (escape c).foldlM Lexer.step ⟨.quoted units, before⟩ =
      some ⟨.quoted (unitOf c :: units), before⟩ := by
  unfold escape
  split_ifs with quote backslash backspace formFeed lineFeed carriageReturn tab control
  · subst quote; rfl
  · subst backslash; rfl
  · subst backspace; rfl
  · subst formFeed; rfl
  · subst lineFeed; rfl
  · subst carriageReturn; rfl
  · subst tab; rfl
  · have numbered : unitOf c = .unit c.toNat := by
      simp only [unitOf, control, List.mem_cons, List.not_mem_nil, backspace, formFeed,
        lineFeed, carriageReturn, tab, or_self, not_false_eq_true, and_self, if_true]
    rw [numbered]
    exact foldlM_control control units before
  · have plain : unitOf c = .char c := by
      simp only [unitOf, control, false_and, if_false]
    simp only [List.foldlM_cons, List.foldlM_nil, Lexer.step, quote, backslash, control, if_false,
      Option.bind_eq_bind, Option.bind_some, Option.pure_def, plain]

private theorem foldlM_flatMap_escape (chars : List Char) (units : List StringUnit)
    (before : List Token) :
    (chars.flatMap escape).foldlM Lexer.step ⟨.quoted units, before⟩ =
      some ⟨.quoted ((chars.map unitOf).reverse ++ units), before⟩ := by
  induction chars generalizing units with
  | nil => rfl
  | cons c rest ih =>
    simp only [List.flatMap_cons, List.foldlM_append, foldlM_escape, Option.bind_eq_bind,
      Option.bind_some, ih, List.map_cons, List.reverse_cons, List.append_assoc,
      List.singleton_append]

private theorem assemble_unit {code : Nat} (control : code < 0x20) (rest : List StringUnit) :
    assemble (.unit code :: rest) = (assemble rest).map (Char.ofNat code :: ·) := by
  have low : ¬ 0xd800 ≤ code := by omega
  rcases rest with _ | ⟨_ | _, rest⟩ <;>
    simp only [assemble, low, decide_false, Bool.false_and, Bool.false_eq_true, if_false]

/-- The units of a text make the text again. -/
theorem assemble_units (chars : List Char) : assemble (chars.map unitOf) = some chars := by
  induction chars with
  | nil => rfl
  | cons c rest ih =>
    rw [List.map_cons, unitOf]
    split_ifs with numbered
    · rw [assemble_unit numbered.1, ih, Char.ofNat_toNat]
      rfl
    · rw [assemble, ih]
      rfl

/-- Every escape in the literal stands for one character of the text. -/
theorem spells_stringLiteral (text : String) :
    Spells (stringLiteral text).toList [.string (some text)] := by
  intro before rest _
  have opened : Lexer.step ⟨.nothing, before⟩ '"' = some ⟨.quoted [], before⟩ := rfl
  have closed (units : List StringUnit) : Lexer.step ⟨.quoted units, before⟩ '"' =
      some ⟨.nothing, .string ((assemble units.reverse).map String.ofList) :: before⟩ := rfl
  rw [stringLiteral, String.toList_ofList, List.append_assoc, List.cons_append, Lexer.run_cons, opened,
    Option.bind_some, Lexer.run_append (foldlM_flatMap_escape ..), List.singleton_append,
    Lexer.run_cons, closed, Option.bind_some, List.append_nil, List.reverse_reverse, assemble_units,
    Option.map_some, String.ofList_toList]
  rfl

end Strings

end ProviderCodegen.Json
