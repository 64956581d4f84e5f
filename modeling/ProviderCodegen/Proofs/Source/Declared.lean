import Mathlib.Data.List.Basic
import ProviderCodegen.Source.Line

/-! # What lines declare

The types and methods that lines of Go source declare, read from the lines. A type is declared by a
line without indentation that starts with `type`; the lines inside it declare its fields by their
first words. A method is declared by a line that starts with `func` and a receiver. What some
paragraphs declare is what each of them declares.
-/

namespace ProviderCodegen.Source

/-- A struct with the names of its fields. -/
structure Struct where
  name : String
  fields : List String
deriving Repr, DecidableEq

/-- A method by the type of its receiver and its name. -/
structure Method where
  receiver : String
  name : String
deriving Repr, DecidableEq

/-- The start of a text, up to a character. -/
def upTo (stop : Char) (text : List Char) : List Char :=
  text.takeWhile (· ≠ stop)

/-- What is behind the first place of a character. -/
def past (stop : Char) (text : List Char) : List Char :=
  (text.dropWhile (· ≠ stop)).drop 1

/-- What is behind the start of a text, if it starts so. -/
def behind? (start text : String) : Option (List Char) :=
  if start.toList.isPrefixOf text.toList then some (text.toList.drop start.toList.length) else none

def firstWord (text : String) : String :=
  String.ofList (upTo ' ' text.toList)

namespace Line

def typeName? : Line → Option String
  | code 0 text => (behind? "type " text).map fun rest => String.ofList (upTo ' ' rest)
  | _ => none

/-- The first word of a line inside a declaration. -/
def fieldName? : Line → Option String
  | code 1 text => some (firstWord text)
  | _ => none

def isInside : Line → Bool
  | code (_ + 1) _ => true
  | _ => false

def method? : Line → Option Method
  | code 0 text =>
      (behind? "func (" text).map fun rest =>
        { receiver := String.ofList (upTo ')' (past ' ' rest))
          name := String.ofList (upTo '(' (past ' ' (past ')' (past ' ' rest)))) }
  | _ => none

end Line

/-- The structs that lines declare, in their order. -/
def structs : List Line → List Struct
  | [] => []
  | line :: rest =>
      match line.typeName? with
      | some name =>
          { name, fields := (rest.takeWhile Line.isInside).filterMap Line.fieldName? } ::
            structs rest
      | none => structs rest

/-- The methods that lines declare, in their order. -/
def methods (lines : List Line) : List Method :=
  lines.filterMap Line.method?

/-! ## Reading texts -/

variable {stop : Char} {word rest : List Char} {start text name closing : String}

theorem upTo_append (absent : stop ∉ word) (rest : List Char) :
    upTo stop (word ++ stop :: rest) = word := by
  rw [upTo, List.takeWhile_append_of_pos, List.takeWhile_cons_of_neg, List.append_nil]
  · exact fun same => absurd rfl (of_decide_eq_true same)
  · exact fun c member => decide_eq_true fun same => absent (same ▸ member)

theorem past_append (absent : stop ∉ word) (rest : List Char) :
    past stop (word ++ stop :: rest) = rest := by
  rw [past, List.dropWhile_append_of_pos, List.dropWhile_cons_of_neg, List.drop_one, List.tail_cons]
  · exact fun same => absurd rfl (of_decide_eq_true same)
  · exact fun c member => decide_eq_true fun same => absent (same ▸ member)

/-- What starts a text can be taken away from it. -/
theorem behind?_eq_some (rest : List Char) (starts : text.toList = start.toList ++ rest) :
    behind? start text = some rest := by
  rw [behind?, starts, if_pos (List.isPrefixOf_iff_prefix.mpr (List.prefix_append _ _)),
    List.drop_left]

/-- Texts that differ from a start before its end do not start so. -/
theorem behind?_eq_none (common expected : List Char) {c d : Char}
    (starts : start.toList = common ++ c :: expected) (differs : text.toList = common ++ d :: rest)
    (other : c ≠ d) : behind? start text = none := by
  rw [behind?, if_neg]
  rw [List.isPrefixOf_iff_prefix, starts, differs, List.prefix_append_right_inj,
    List.cons_prefix_cons]
  exact fun both => other both.1

theorem firstWord_append (absent : ' ' ∉ name.toList) (rest : String) :
    firstWord (name ++ " " ++ rest) = name := by
  have split : (name ++ " " ++ rest).toList = name.toList ++ ' ' :: rest.toList := by
    rw [String.append_assoc, String.toList_append, String.toList_append]
    rfl
  rw [firstWord, split, upTo_append absent, String.ofList_toList]

/-! ## Structs -/

variable {lines body first second : List Line}

/-- Only lines at the margin declare types. -/
@[simp] theorem Line.typeName?_indent {inner : Line} : inner.indent.typeName? = none := by
  cases inner <;> rfl

/-- Only lines at the margin declare methods. -/
@[simp] theorem Line.method?_indent {inner : Line} : inner.indent.method? = none := by
  cases inner <;> rfl

/-- What holds of indented lines and of the closing line holds behind the opening line. -/
private theorem forall_behind_opening {holds : Line → Prop}
    (indented : ∀ inner : Line, holds inner.indent) (ending : holds (.code 0 closing)) :
    ∀ line ∈ body.map Line.indent ++ [.code 0 closing], holds line := by
  intro line member
  rcases List.mem_append.mp member with member | member
  · obtain ⟨inner, -, rfl⟩ := List.mem_map.mp member
    exact indented inner
  · exact List.mem_singleton.mp member ▸ ending

theorem structs_eq_nil (none : ∀ line ∈ lines, line.typeName? = none) : structs lines = [] := by
  induction lines with
  | nil => rfl
  | cons line rest ih =>
    obtain ⟨here, later⟩ := List.forall_mem_cons.mp none
    rw [structs, here]
    exact ih later

/-- Lines that start outside every declaration leave what is in front of them alone. -/
theorem structs_append (first : List Line)
    (outside : ∀ line ∈ second.head?, line.isInside = false) :
    structs (first ++ second) = structs first ++ structs second := by
  have closed (lines : List Line) :
      (lines ++ second).takeWhile Line.isInside = lines.takeWhile Line.isInside := by
    induction lines with
    | nil =>
      cases second with
      | nil => rfl
      | cons line rest => exact List.takeWhile_cons_of_neg (by rw [outside line rfl]; exact nofun)
    | cons line rest ih => rw [List.cons_append, List.takeWhile_cons, ih, List.takeWhile_cons]
  induction first with
  | nil => rfl
  | cons line rest ih =>
    rw [List.cons_append, structs, structs, ih, closed]
    cases line.typeName? <;> rfl

private theorem head?_spaced (all : List (List Line)) :
    ∀ line ∈ (spaced all).head?, line.isInside = false := by
  cases all with
  | nil => exact fun _ head => absurd head (Option.not_mem_none _)
  | cons => exact fun line head => Option.some.inj head ▸ rfl

private theorem structs_spaced (all : List (List Line)) :
    structs (spaced all) = all.flatMap structs := by
  induction all with
  | nil => rfl
  | cons first rest ih =>
    rw [spaced, List.flatMap_cons, List.flatMap_cons, ← ih]
    exact structs_append (.blank :: first) (head?_spaced rest)

/-- Between paragraphs there is no line of a declaration, so the structs of each are found by
themselves. -/
theorem structs_paragraphs (all : List (List Line)) :
    structs (paragraphs all) = all.flatMap structs := by
  cases all with
  | nil => rfl
  | cons first rest =>
    rw [paragraphs, structs_append first (head?_spaced rest), structs_spaced, List.flatMap_cons]

/-- A block declares no struct unless its first or last line does. -/
theorem structs_enclosed (opening : (Line.code 0 text).typeName? = none)
    (ending : (Line.code 0 closing).typeName? = none) :
    structs (enclosed text closing body) = [] := by
  rw [enclosed, List.cons_append]
  exact structs_eq_nil <| List.forall_mem_cons.mpr
    ⟨opening, forall_behind_opening (fun _ => Line.typeName?_indent) ending⟩

theorem typeName?_of_head? (head : text.toList.head? ≠ some 't') :
    (Line.code 0 text).typeName? = none := by
  cases split : text.toList with
  | nil => simp only [Line.typeName?, behind?, split]; rfl
  | cons c rest =>
    have differs : c ≠ 't' := fun same => head (by rw [split, same]; rfl)
    rw [Line.typeName?, behind?_eq_none [] _ rfl split differs.symm]
    rfl

/-- A function declares no struct. -/
theorem structs_function (signature : String) (body : List Line) :
    structs (function signature body) = [] := by
  refine structs_enclosed (typeName?_of_head? ?_) rfl
  rw [String.append_assoc, String.append_assoc, String.toList_append]
  exact nofun

/-- The name goes up to the first blank. -/
theorem typeName?_type (absent : ' ' ∉ name.toList) (rest : String) :
    (Line.code 0 ("type " ++ name ++ " " ++ rest)).typeName? = some name := by
  rw [Line.typeName?, behind?_eq_some (name.toList ++ ' ' :: rest.toList), Option.map_some,
    upTo_append absent, String.ofList_toList]
  simp only [String.toList_append, List.append_assoc]
  rfl

/-- The declaration of a struct reads as the struct, its fields by their first words. -/
theorem structs_struct (absent : ' ' ∉ name.toList) (fields : List String) :
    structs (block ("type " ++ name ++ " struct") (fields.map line)) =
      [{ name, fields := fields.map firstWord }] := by
  have opening : "type " ++ name ++ " struct" ++ " " ++ openBrace =
      "type " ++ name ++ " " ++ ("struct" ++ " " ++ openBrace) := by
    simp only [String.append_assoc]
    rfl
  have inside : ((fields.map line).map Line.indent ++ [line closeBrace]).takeWhile Line.isInside =
      fields.map (.code 1) := by
    rw [List.map_map, List.takeWhile_append_of_pos]
    · exact List.append_nil _
    · intro inner member
      obtain ⟨field, -, rfl⟩ := List.mem_map.mp member
      rfl
  have read : (fields.map (.code 1)).filterMap Line.fieldName? = fields.map firstWord := by
    rw [List.filterMap_map]
    exact congrFun (List.filterMap_eq_map' (f := firstWord)) fields
  have after : structs ((fields.map line).map Line.indent ++ [line closeBrace]) = [] :=
    structs_eq_nil (forall_behind_opening (fun _ => Line.typeName?_indent) rfl)
  rw [block, enclosed, List.cons_append, structs, opening, typeName?_type absent]
  exact congrArg₂ (fun inner rest => { name, fields := inner } :: rest)
    ((congrArg _ inside).trans read) after

/-! ## Methods -/

@[simp] theorem methods_append : methods (first ++ second) = methods first ++ methods second :=
  List.filterMap_append

/-- Blank lines between paragraphs declare nothing. -/
theorem methods_paragraphs (all : List (List Line)) :
    methods (paragraphs all) = all.flatMap methods := by
  have behind (all : List (List Line)) : methods (spaced all) = all.flatMap methods := by
    rw [methods, spaced, List.filterMap_flatMap]
    rfl
  cases all with
  | nil => rfl
  | cons first rest => rw [paragraphs, methods_append, behind, List.flatMap_cons]

/-- A block that ends with a brace declares what its first line declares. -/
theorem methods_block (opening : String) (body : List Line) :
    methods (block opening body) =
      (Line.code 0 (opening ++ " " ++ openBrace)).method?.toList := by
  have inside : methods (body.map Line.indent ++ [.code 0 closeBrace]) = [] :=
    List.filterMap_eq_nil_iff.mpr (forall_behind_opening (fun _ => Line.method?_indent) rfl)
  rw [block, enclosed, List.cons_append, methods, List.filterMap_cons]
  cases (Line.code 0 (opening ++ " " ++ openBrace)).method? with
  | none => exact inside
  | some method => exact congrArg (method :: ·) inside

/-- What is no function is no method. -/
theorem method?_of_head? (head : text.toList.head? ≠ some 'f') :
    (Line.code 0 text).method? = none := by
  cases split : text.toList with
  | nil => simp only [Line.method?, behind?, split]; rfl
  | cons c rest =>
    have differs : c ≠ 'f' := fun same => head (by rw [split, same]; rfl)
    rw [Line.method?, behind?_eq_none [] _ rfl split differs.symm]
    rfl

/-- A function without a receiver is no method. -/
theorem methods_function_of_head {c : Char} {signature : String}
    (starts : signature.toList = c :: rest) (other : c ≠ '(') (body : List Line) :
    methods (function signature body) = [] := by
  have differs : ("func " ++ signature ++ " " ++ openBrace).toList =
      "func ".toList ++ c :: (rest ++ (" " ++ openBrace).toList) := by
    simp only [String.toList_append, starts, List.append_assoc, List.cons_append]
  rw [function, methods_block, Line.method?, behind?_eq_none _ [] rfl differs other.symm]
  rfl

/-- A function with a receiver is a method of the receiver's type, whose name goes up to the
parameters. -/
theorem methods_function_of_receiver {self type : List Char} {signature : String}
    (starts : signature.toList = '(' :: (self ++ ' ' :: (type ++ ')' :: ' ' :: rest)))
    (unspaced : ' ' ∉ self) (closed : ')' ∉ type) (body : List Line) :
    methods (function signature body) =
      [{ receiver := String.ofList type
         name := String.ofList (upTo '(' (rest ++ (" " ++ openBrace).toList)) }] := by
  have split : ("func " ++ signature ++ " " ++ openBrace).toList =
      "func (".toList ++ (self ++ ' ' :: (type ++ ')' :: ' ' ::
        (rest ++ (" " ++ openBrace).toList))) := by
    simp only [String.toList_append, starts, List.append_assoc, List.cons_append]
    rfl
  have name : past ' ' (' ' :: (rest ++ (" " ++ openBrace).toList)) =
      rest ++ (" " ++ openBrace).toList := rfl
  rw [function, methods_block, Line.method?, behind?_eq_some _ split, Option.map_some,
    past_append unspaced, upTo_append closed, past_append closed, name]
  rfl

end ProviderCodegen.Source
