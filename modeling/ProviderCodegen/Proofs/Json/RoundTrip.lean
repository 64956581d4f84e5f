import ProviderCodegen.Proofs.Json.Scalar

/-! # Reading back what is written

A datum with a JSON form of its own is read back from its compact text, as long as it is not nested
too deep. The lexer finds the tokens of the datum in the text (`spells_compact`), and the reader,
wherever it expects a value, takes these tokens to the datum (`foldlM_tokens`).
-/

namespace ProviderCodegen

open Json (Token Reader)

namespace Datum

/-! ## Data with a JSON form -/

mutual

/-- Whether a datum has a JSON form of its own: texts are in quotes, lists are arrays, keys are
texts, whole numbers fit 64 bits, and other numbers are those that the text of a number gives. -/
def HasJson : Datum → Prop
  | null => True
  | bool _ => True
  | int n => -(Json.negativeMax : Int) ≤ n ∧ n ≤ Json.wordMax
  | float x => Json.read? (Json.compact (.float x)) = some (.float x)
  | text form _ => form = .quoted
  | list form items => form = .array ∧ ItemsHaveJson items
  | map entries => EntriesHaveJson entries
  | tagged _ _ => False
  | unreadable => False

def ItemsHaveJson : List Datum → Prop
  | [] => True
  | item :: rest => item.HasJson ∧ ItemsHaveJson rest

/-- Whether all keys of a map are texts and all its values have a JSON form. -/
def EntriesHaveJson : List (Datum × Datum) → Prop
  | [] => True
  | (key, value) :: rest => (∃ name, key = .string name) ∧ value.HasJson ∧ EntriesHaveJson rest

end

mutual

/-- How many lists and maps are nested in one another. -/
def nesting : Datum → Nat
  | list _ items => itemsNesting items + 1
  | map entries => entriesNesting entries + 1
  | tagged _ content => content.nesting
  | _ => 0

/-- The deepest nesting in a list of data. -/
def itemsNesting : List Datum → Nat
  | [] => 0
  | item :: rest => max item.nesting (itemsNesting rest)

/-- The deepest nesting in the values of a map. -/
def entriesNesting : List (Datum × Datum) → Nat
  | [] => 0
  | (_, value) :: rest => max value.nesting (entriesNesting rest)

end

mutual

def tokens : Datum → List Token
  | list _ items => .openArray :: [Token.comma].intercalate (itemTokens items) ++ [.closeArray]
  | map entries => .openObject :: [Token.comma].intercalate (entryTokens entries) ++ [.closeObject]
  | text _ value => [.string (some value)]
  | other => [.scalar other]

def itemTokens : List Datum → List (List Token)
  | [] => []
  | item :: rest => item.tokens :: itemTokens rest

def entryTokens : List (Datum × Datum) → List (List Token)
  | [] => []
  | (key, value) :: rest => (key.tokens ++ .colon :: value.tokens) :: entryTokens rest

end

end Datum

namespace Json

/-! ## Numbers -/

section Numbers

variable {chars : List Char}

private theorem isWordChar_of_isDigit {c : Char} (digit : c.isDigit = true) : isWordChar c = true := by
  simp only [isWordChar, Char.isAlphanum, digit, Bool.or_true, Bool.true_or]

private theorem isWordChar_toDigits (n : Nat) : ∀ c ∈ Nat.toDigits 10 n, isWordChar c = true :=
  fun _ member => isWordChar_of_isDigit (isDigit_toDigits member)

theorem isWordChar_decimal (n : Int) : ∀ c ∈ (Text.decimal n).toList, isWordChar c = true := by
  intro c member
  unfold Text.decimal at member
  split_ifs at member
  · simp only [String.toList_append, List.mem_append, String.toList_ofList] at member
    rcases member with sign | digit
    · obtain rfl := List.mem_singleton.mp sign
      rfl
    · exact isWordChar_toDigits _ c digit
  · rw [String.toList_ofList] at member
    exact isWordChar_toDigits _ c member

theorem decimal_ne_nil (n : Int) : (Text.decimal n).toList ≠ [] := by
  unfold Text.decimal
  split_ifs
  · rw [String.toList_append]
    exact List.append_ne_nil_of_left_ne_nil (by decide) _
  · rw [String.toList_ofList]
    exact Nat.toDigits_ne_nil

open Decimal (Layout)

private theorem isWordChar_positional (word : ∀ c ∈ chars, isWordChar c = true) (point : Int) :
    ∀ c ∈ Layout.json.writePositional chars point, isWordChar c = true := by
  intro c member
  unfold Layout.writePositional at member
  split_ifs at member
  · simp only [List.mem_append, List.mem_cons, List.mem_replicate] at member
    obtain (rfl | rfl | ⟨-, rfl⟩) | digit := member
    · rfl
    · rfl
    · rfl
    · exact word c digit
  · simp only [List.mem_append, List.mem_replicate, Layout.json, List.mem_cons, List.not_mem_nil,
      or_false] at member
    obtain (digit | ⟨-, rfl⟩) | rfl | rfl := member
    · exact word c digit
    · rfl
    · rfl
    · rfl
  · simp only [List.mem_append, List.mem_cons] at member
    obtain digit | rfl | digit := member
    · exact word c (List.mem_of_mem_take digit)
    · rfl
    · exact word c (List.mem_of_mem_drop digit)

private theorem isWordChar_scientific (word : ∀ c ∈ chars, isWordChar c = true) (point : Int) :
    ∀ c ∈ Decimal.writeScientific chars point, isWordChar c = true := by
  intro c member
  simp only [Decimal.writeScientific, List.mem_append, List.mem_cons] at member
  obtain (digit | fraction) | rfl | sign | digit := member
  · exact word c (List.mem_of_mem_take digit)
  · split_ifs at fraction
    · exact absurd fraction List.not_mem_nil
    · rcases List.mem_cons.mp fraction with rfl | digit
      · rfl
      · exact word c (List.mem_of_mem_drop digit)
  · rfl
  · split_ifs at sign <;> subst sign <;> rfl
  · exact isWordChar_toDigits _ c digit

private theorem positional_ne_nil (point : Int) : Layout.json.writePositional chars point ≠ [] := by
  unfold Layout.writePositional
  split_ifs
  · exact List.cons_ne_nil _ _
  · exact List.append_ne_nil_of_right_ne_nil _ (List.cons_ne_nil _ _)
  · exact List.append_ne_nil_of_right_ne_nil _ (List.cons_ne_nil _ _)

private theorem scientific_ne_nil (point : Int) : Decimal.writeScientific chars point ≠ [] :=
  List.append_ne_nil_of_right_ne_nil _ (List.cons_ne_nil _ _)

private theorem magnitude_isWord (x : Float) :
    (∀ c ∈ Layout.json.magnitude x, isWordChar c = true) ∧ Layout.json.magnitude x ≠ [] := by
  unfold Layout.magnitude
  split
  rename_i digits point found
  have word : ∀ c ∈ digits, isWordChar c = true := by
    split at found <;> cases found
    · exact isWordChar_toDigits _
    · exact List.all_eq_true.mp rfl
  split_ifs
  · exact ⟨isWordChar_positional word point, positional_ne_nil point⟩
  · exact ⟨isWordChar_scientific word point, scientific_ne_nil point⟩

/-- What is written for a number, or in its place, is one word. -/
theorem write_isWord (x : Float) :
    (∀ c ∈ (Layout.json.write x).toList, isWordChar c = true) ∧ (Layout.json.write x).toList ≠ [] := by
  obtain ⟨word, nonempty⟩ := magnitude_isWord x
  rw [Layout.write, String.toList_ofList]
  split_ifs
  · exact ⟨List.all_eq_true.mp rfl, by decide⟩
  · exact ⟨List.all_eq_true.mp rfl, by decide⟩
  · exact ⟨List.all_eq_true.mp rfl, by decide⟩
  · exact ⟨List.forall_mem_cons.mpr ⟨rfl, word⟩, List.cons_ne_nil _ _⟩
  · exact ⟨word, nonempty⟩

/-- A number that is read back from its text is the value of the text as a word. -/
theorem scalar?_of_read {x : Float} (read : read? (compact (.float x)) = some (.float x)) :
    scalar? (Layout.json.write x).toList = some (.float x) := by
  obtain ⟨word, nonempty⟩ := write_isWord x
  have text : compact (.float x) = Layout.json.write x := rfl
  rw [read?, text, tokens?_word word nonempty] at read
  cases value : scalar? (Layout.json.write x).toList with
  | none => rw [value] at read; cases read
  | some datum => rw [value] at read; exact read

end Numbers

/-! ## The tokens of a text -/

/-- Whether a character is a token by itself, which also ends a word. -/
structure IsMark (c : Char) (token : Token) : Prop where
  ends : isWordChar c = false
  read : ∀ before rest,
    Lexer.run ⟨.nothing, before⟩ (c :: rest) = Lexer.run ⟨.nothing, token :: before⟩ rest

theorem isMark_comma : IsMark ',' .comma := ⟨rfl, fun _ _ => rfl⟩
theorem isMark_colon : IsMark ':' .colon := ⟨rfl, fun _ _ => rfl⟩
theorem isMark_openArray : IsMark '[' .openArray := ⟨rfl, fun _ _ => rfl⟩
theorem isMark_closeArray : IsMark ']' .closeArray := ⟨rfl, fun _ _ => rfl⟩
theorem isMark_openObject : IsMark '\x7b' .openObject := ⟨rfl, fun _ _ => rfl⟩
theorem isMark_closeObject : IsMark '\x7d' .closeObject := ⟨rfl, fun _ _ => rfl⟩

section Spells

variable {first second chars : List Char} {left right tokens : List Token} {mark closing : Char}
  {token closeToken : Token}

theorem IsMark.endsWord (isMark : IsMark mark token) (rest : List Char) : EndsWord (mark :: rest) := by
  rintro c first
  cases first
  exact isMark.ends

theorem spells_nil : Spells [] [] := fun _ _ _ => rfl

/-- A text, a mark and another text give the tokens of all three. -/
theorem Spells.separated (ofFirst : Spells first left) (isMark : IsMark mark token)
    (ofSecond : Spells second right) : Spells (first ++ mark :: second) (left ++ token :: right) := by
  intro before rest ends
  rw [List.append_assoc, List.cons_append, ofFirst _ _ (isMark.endsWord _), isMark.read,
    ofSecond _ _ ends]
  simp only [List.reverse_append, List.reverse_cons, List.append_assoc, List.cons_append,
    List.nil_append]

/-- A text between two marks gives its tokens between those of the marks. -/
theorem Spells.enclosed (inside : Spells chars tokens) (opens : IsMark mark token)
    (closes : IsMark closing closeToken) :
    Spells (mark :: chars ++ [closing]) (token :: tokens ++ [closeToken]) := by
  intro before rest _
  rw [List.append_assoc, List.cons_append, opens.read, List.singleton_append,
    inside _ _ (closes.endsWord _), closes.read]
  simp only [List.reverse_append, List.reverse_cons, List.reverse_nil, List.append_assoc,
    List.cons_append, List.nil_append]

/-- Texts with commas between them give their tokens with commas between them. -/
theorem spells_intercalate {texts : List (List Char)} {tokenLists : List (List Token)}
    (each : List.Forall₂ Spells texts tokenLists) :
    Spells ([','].intercalate texts) ([Token.comma].intercalate tokenLists) := by
  induction each with
  | nil => exact spells_nil
  | cons head tail ih =>
    cases tail with
    | nil => simpa only [List.intercalate_singleton] using head
    | cons next others =>
      rw [List.intercalate_cons_cons, List.intercalate_cons_cons, List.append_assoc,
        List.append_assoc]
      exact head.separated isMark_comma ih

end Spells

/-- The compact form has commas between its items and no blanks. -/
theorem toList_compact_list (form : ListForm) (items : List Datum) :
    (compact (.list form items)).toList =
      '[' :: [','].intercalate ((compactItems items).map String.toList) ++ [']'] := by
  simp only [compact, String.toList_append, String.toList_intercalate]
  rfl

theorem toList_compact_map (entries : List (Datum × Datum)) :
    (compact (.map entries)).toList =
      '\x7b' :: [','].intercalate ((compactEntries entries).map String.toList) ++ ['\x7d'] := by
  simp only [compact, String.toList_append, String.toList_intercalate]
  rfl

theorem toList_compactEntry (key value : String) :
    (key ++ ":" ++ value).toList = key.toList ++ ':' :: value.toList := by
  rw [String.toList_append, String.toList_append, List.append_assoc]
  rfl

mutual

/-- The text of a datum gives its tokens. -/
theorem spells_compact : ∀ datum : Datum, datum.HasJson → Spells (compact datum).toList datum.tokens
  | .null, _ => spells_word (List.all_eq_true.mp rfl) (by decide) rfl
  | .bool true, _ => spells_word (List.all_eq_true.mp rfl) (by decide) rfl
  | .bool false, _ => spells_word (List.all_eq_true.mp rfl) (by decide) rfl
  | .int n, has =>
      spells_word (isWordChar_decimal n) (decimal_ne_nil n) (scalar?_decimal has.1 has.2)
  | .float x, has =>
      spells_word (write_isWord x).1 (write_isWord x).2 (scalar?_of_read has)
  | .text _ text, _ => spells_stringLiteral text
  | .list _ items, has => by
      have inside := spells_intercalate (spells_compactItems items has.2)
      rw [toList_compact_list, Datum.tokens]
      exact inside.enclosed isMark_openArray isMark_closeArray
  | .map entries, has => by
      have inside := spells_intercalate (spells_compactEntries entries has)
      rw [toList_compact_map, Datum.tokens]
      exact inside.enclosed isMark_openObject isMark_closeObject
  | .tagged _ _, has => has.elim
  | .unreadable, has => has.elim

private theorem spells_compactItems : ∀ items : List Datum, Datum.ItemsHaveJson items →
    List.Forall₂ Spells ((compactItems items).map String.toList) (Datum.itemTokens items)
  | [], _ => .nil
  | item :: rest, has => .cons (spells_compact item has.1) (spells_compactItems rest has.2)

private theorem spells_compactEntries : ∀ entries : List (Datum × Datum),
    Datum.EntriesHaveJson entries →
    List.Forall₂ Spells ((compactEntries entries).map String.toList) (Datum.entryTokens entries)
  | [], _ => .nil
  | (key, value) :: rest, has => by
      obtain ⟨⟨name, named⟩, ofValue, ofRest⟩ := has
      have ofKey : Spells (compact key).toList key.tokens := named ▸ spells_stringLiteral name
      have entry := ofKey.separated isMark_colon (spells_compact value ofValue)
      rw [← toList_compactEntry] at entry
      exact .cons entry (spells_compactEntries rest ofRest)

end

/-! ## Reading tokens -/

section Reading

open Reader (complete close)

variable {stack : List Frame} {expected : Expected}

/-- Whether the reader takes tokens to a datum wherever it expects a value, in a list also the first
one, with no more lists and maps around the datum than may be open around what is inside it. -/
def Reads (tokens : List Token) (datum : Datum) : Prop :=
  ∀ (stack : List Frame) (expected : Expected) (rest : List Token),
    expected = .value ∨ expected = .itemOrEnd → stack.length + datum.nesting ≤ depthLimit + 1 →
    (tokens ++ rest).foldlM Reader.step ⟨stack, expected⟩ =
      (complete stack datum).bind fun next => rest.foldlM Reader.step next

private theorem foldlM_step_cons (reader : Reader) (token : Token) (rest : List Token) :
    (token :: rest).foldlM Reader.step reader =
      (reader.step token).bind fun next => rest.foldlM Reader.step next :=
  List.foldlM_cons

private theorem reads_scalar {datum : Datum} {token : Token}
    (opened : ∀ stack, Reader.openValue stack token = complete stack datum) (starts : token ≠ .closeArray) :
    Reads [token] datum := by
  intro stack expected rest expects _
  rw [List.singleton_append, foldlM_step_cons, ← opened]
  rcases expects with rfl | rfl
  · rfl
  · cases token <;> first | rfl | exact absurd rfl starts

/-- What is not nested too deep is kept when it is closed. -/
private theorem close_of_shallow {value : Datum} (shallow : stack.length ≤ depthLimit) :
    close stack value = complete stack value := by
  rw [close, List.drop_eq_nil_of_le shallow]
  rfl

/-- An item that is read goes to the others, and a comma or the end of the list follows. -/
private theorem foldlM_item {tokens : List Token} {item : Datum} (reads : Reads tokens item)
    {done : List Datum} (expects : expected = .value ∨ expected = .itemOrEnd)
    (shallow : stack.length + item.nesting ≤ depthLimit) (rest : List Token) :
    (tokens ++ rest).foldlM Reader.step ⟨.array done :: stack, expected⟩ =
      rest.foldlM Reader.step ⟨.array (item :: done) :: stack, .separator⟩ :=
  reads _ _ rest expects (by rw [List.length_cons]; omega)

/-- An entry that is read goes to the others, and a comma or the end of the map follows. -/
private theorem foldlM_entry {value : Datum} (reads : Reads value.tokens value) (name : String)
    {done : List (Datum × Datum)} (expects : expected = .key ∨ expected = .keyOrEnd)
    (shallow : stack.length + value.nesting ≤ depthLimit) (rest : List Token) :
    ((Datum.string name).tokens ++ .colon :: value.tokens ++ rest).foldlM Reader.step
        ⟨.object true done :: stack, expected⟩ =
      rest.foldlM Reader.step ⟨.object true ((.string name, value) :: done) :: stack, .separator⟩ := by
  have named : Reader.step ⟨.object true done :: stack, expected⟩ (.string (some name)) =
      some ⟨.entry true done (.string name) :: stack, .colon⟩ := by
    rcases expects with rfl | rfl <;> rfl
  have marked : Reader.step ⟨.entry true done (.string name) :: stack, .colon⟩ .colon =
      some ⟨.entry true done (.string name) :: stack, .value⟩ := rfl
  have read := reads (.entry true done (.string name) :: stack) .value rest (.inl rfl)
    (by rw [List.length_cons]; omega)
  rw [Datum.tokens, List.append_assoc, List.singleton_append, List.cons_append, foldlM_step_cons,
    named, Option.bind_some, foldlM_step_cons, marked, Option.bind_some, read]
  rfl

mutual

/-- The reader takes the tokens of a datum to the datum. -/
theorem reads_tokens : ∀ datum : Datum, datum.HasJson → Reads datum.tokens datum
  | .null, _ => reads_scalar (fun _ => rfl) nofun
  | .bool _, _ => reads_scalar (fun _ => rfl) nofun
  | .int _, _ => reads_scalar (fun _ => rfl) nofun
  | .float _, _ => reads_scalar (fun _ => rfl) nofun
  | .text form text, has => by
      obtain rfl : form = .quoted := has
      exact reads_scalar (fun _ => rfl) nofun
  | .list form items, has => by
      obtain ⟨rfl, has⟩ := has
      intro stack expected rest expects shallow
      rw [Datum.nesting] at shallow
      have opened : Reader.step ⟨stack, expected⟩ .openArray =
          some ⟨.array [] :: stack, .itemOrEnd⟩ := by
        rcases expects with rfl | rfl <;> rfl
      have inside := reads_items items has stack [] .itemOrEnd rest (.inr rfl) (by omega)
      rw [Datum.tokens, List.append_assoc, List.cons_append, foldlM_step_cons, opened, Option.bind_some,
        List.singleton_append, inside]
      rfl
  | .map entries, has => by
      intro stack expected rest expects shallow
      rw [Datum.nesting] at shallow
      have opened : Reader.step ⟨stack, expected⟩ .openObject =
          some ⟨.object true [] :: stack, .keyOrEnd⟩ := by
        rcases expects with rfl | rfl <;> rfl
      have inside := reads_entries entries has stack [] .keyOrEnd rest (.inr rfl) (by omega)
      rw [Datum.tokens, List.append_assoc, List.cons_append, foldlM_step_cons, opened, Option.bind_some,
        List.singleton_append, inside]
      rfl
  | .tagged _ _, has => has.elim
  | .unreadable, has => has.elim

/-- The reader takes the tokens of the items that are left of a list, behind those it has read. -/
private theorem reads_items : ∀ items : List Datum, Datum.ItemsHaveJson items →
    ∀ (stack : List Frame) (done : List Datum) (expected : Expected) (rest : List Token),
      (expected = .value ∧ items ≠ []) ∨ expected = .itemOrEnd →
      stack.length + Datum.itemsNesting items ≤ depthLimit →
      ([Token.comma].intercalate (Datum.itemTokens items) ++ .closeArray :: rest).foldlM Reader.step
          ⟨.array done :: stack, expected⟩ =
        (complete stack (.array (done.reverse ++ items))).bind fun next =>
          rest.foldlM Reader.step next
  | [], _, stack, done, expected, rest, expects, shallow => by
      obtain rfl : expected = .itemOrEnd := expects.resolve_left fun value => value.2 rfl
      have closed : Reader.step ⟨.array done :: stack, .itemOrEnd⟩ .closeArray =
          close stack (.array done.reverse) := rfl
      rw [Datum.itemTokens, List.intercalate_nil, List.nil_append, foldlM_step_cons, closed,
        close_of_shallow (by omega), List.append_nil]
  | item :: [], has, stack, done, expected, rest, expects, shallow => by
      rw [Datum.itemsNesting] at shallow
      have closed : Reader.step ⟨.array (item :: done) :: stack, .separator⟩ .closeArray =
          close stack (.array (item :: done).reverse) := rfl
      rw [Datum.itemTokens, Datum.itemTokens, List.intercalate_singleton,
        foldlM_item (reads_tokens item has.1) (expects.imp_left And.left) (by omega),
        foldlM_step_cons, closed, close_of_shallow (by omega), List.reverse_cons]
  | item :: next :: others, has, stack, done, expected, rest, expects, shallow => by
      rw [Datum.itemsNesting] at shallow
      have more := reads_items (next :: others) has.2 stack (item :: done) .value rest
        (.inl ⟨rfl, List.cons_ne_nil _ _⟩) (by omega)
      have separated : Reader.step ⟨.array (item :: done) :: stack, .separator⟩ .comma =
          some ⟨.array (item :: done) :: stack, .value⟩ := rfl
      rw [Datum.itemTokens] at more
      rw [Datum.itemTokens, Datum.itemTokens, List.intercalate_cons_cons, List.append_assoc,
        List.append_assoc,
        foldlM_item (reads_tokens item has.1) (expects.imp_left And.left) (by omega),
        List.singleton_append, foldlM_step_cons, separated, Option.bind_some, more,
        List.reverse_cons, List.append_assoc, List.singleton_append]

/-- The reader takes the tokens of the entries that are left of a map, behind those it has read. -/
private theorem reads_entries : ∀ entries : List (Datum × Datum), Datum.EntriesHaveJson entries →
    ∀ (stack : List Frame) (done : List (Datum × Datum)) (expected : Expected) (rest : List Token),
      (expected = .key ∧ entries ≠ []) ∨ expected = .keyOrEnd →
      stack.length + Datum.entriesNesting entries ≤ depthLimit →
      ([Token.comma].intercalate (Datum.entryTokens entries) ++ .closeObject :: rest).foldlM Reader.step
          ⟨.object true done :: stack, expected⟩ =
        (complete stack (.map (done.reverse ++ entries))).bind fun next =>
          rest.foldlM Reader.step next
  | [], _, stack, done, expected, rest, expects, shallow => by
      obtain rfl : expected = .keyOrEnd := expects.resolve_left fun key => key.2 rfl
      have closed : Reader.step ⟨.object true done :: stack, .keyOrEnd⟩ .closeObject =
          close stack (.map done.reverse) := rfl
      rw [Datum.entryTokens, List.intercalate_nil, List.nil_append, foldlM_step_cons, closed,
        close_of_shallow (by omega), List.append_nil]
  | (key, value) :: [], has, stack, done, expected, rest, expects, shallow => by
      obtain ⟨⟨name, rfl⟩, ofValue, -⟩ := has
      rw [Datum.entriesNesting] at shallow
      have closed : Reader.step ⟨.object true ((.string name, value) :: done) :: stack, .separator⟩
          .closeObject = close stack (.map ((.string name, value) :: done).reverse) := rfl
      rw [Datum.entryTokens, Datum.entryTokens, List.intercalate_singleton,
        foldlM_entry (reads_tokens value ofValue) name (expects.imp_left And.left) (by omega),
        foldlM_step_cons, closed, close_of_shallow (by omega), List.reverse_cons]
  | (key, value) :: next :: others, has, stack, done, expected, rest, expects, shallow => by
      obtain ⟨⟨name, rfl⟩, ofValue, ofRest⟩ := has
      rw [Datum.entriesNesting] at shallow
      have more := reads_entries (next :: others) ofRest stack ((.string name, value) :: done) .key
        rest (.inl ⟨rfl, List.cons_ne_nil _ _⟩) (by omega)
      have separated : Reader.step
          ⟨.object true ((.string name, value) :: done) :: stack, .separator⟩ .comma =
          some ⟨.object true ((.string name, value) :: done) :: stack, .key⟩ := rfl
      rw [Datum.entryTokens] at more
      rw [Datum.entryTokens, Datum.entryTokens, List.intercalate_cons_cons, List.append_assoc,
        List.append_assoc,
        foldlM_entry (reads_tokens value ofValue) name (expects.imp_left And.left) (by omega),
        List.singleton_append, foldlM_step_cons, separated, Option.bind_some, more,
        List.reverse_cons, List.append_assoc, List.singleton_append]

end

end Reading

/-- A datum with a JSON form is read back from its text, unless it is nested too deep. -/
theorem read?_compact {datum : Datum} (has : datum.HasJson) (shallow : datum.nesting ≤ depthLimit + 1) :
    read? (compact datum) = some datum := by
  have found : tokens? (compact datum).toList = some datum.tokens := by
    have spelled := spells_compact datum has [] [] nofun
    rw [List.append_nil, List.append_nil] at spelled
    rw [tokens?_eq_run, spelled]
    exact congrArg some (List.reverse_reverse _)
  have read := reads_tokens datum has [] .value [] (.inl rfl) (by rw [List.length_nil]; omega)
  rw [List.append_nil] at read
  rw [read?, found, Option.bind_some, read]
  rfl

end Json

end ProviderCodegen
