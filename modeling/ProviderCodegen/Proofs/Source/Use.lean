import Mathlib.Data.List.Infix
import ProviderCodegen.Proofs.Source.Mention
import ProviderCodegen.Source.Line

/-! # Texts that use a package

A text uses a package by a name when it has the name, with the point behind it, after a character
that ends identifiers. Every text around it uses the package too, so one line of a declaration shows
what the whole declaration uses.
-/

namespace ProviderCodegen.Source

variable {name text rest : String}

/-- Whether a text refers to a package by a name, whatever stands before the text. -/
def Uses (name text : String) : Prop :=
  ∃ c, isIdentifierChar c = false ∧ c :: (name.toList ++ ['.']) <:+: text.toList

/-- Whether a text starts with a name and the point behind it. -/
def StartsWith (name text : String) : Prop :=
  name.toList ++ ['.'] <+: text.toList

instance : Decidable (StartsWith name text) :=
  inferInstanceAs (Decidable (_ <+: _))

/-- An import without a usable name, or one whose name the text uses, is referenced. -/
theorem Import.isReferenced_of_uses {i : Import} (uses : Uses i.packageName text) :
    i.isReferenced text = true := by
  obtain ⟨c, boundary, within⟩ := uses
  have mentioned : mentions (i.packageName.toList ++ ['.']) none text.toList = true :=
    mentions_of_infix boundary (List.append_ne_nil_of_right_ne_nil _ (List.cons_ne_nil _ _)) within
  simp only [isReferenced, mentioned, Bool.or_true]

/-- The character before the name is one that no identifier has. -/
theorem Uses.refersTo (uses : Uses name text) : RefersTo name text := by
  obtain ⟨c, boundary, start, finish, split⟩ := uses
  refine ⟨start ++ [c], finish, ?_, ?_⟩
  · rw [← split]
    simp only [List.append_assoc, List.cons_append, List.nil_append]
  · rw [List.getLast?_concat, isBoundary, boundary]
    rfl

/-! ## Texts -/

theorem uses_of_space (within : ' ' :: (name.toList ++ ['.']) <:+: text.toList) : Uses name text :=
  ⟨' ', by decide, within⟩

theorem not_uses_empty : ¬ Uses name "" := by
  rintro ⟨c, -, within⟩
  exact List.cons_ne_nil _ _ (List.infix_nil.mp within)

private theorem Uses.mono (uses : Uses name text) {whole : String}
    (within : text.toList <:+: whole.toList) : Uses name whole := by
  obtain ⟨c, boundary, found⟩ := uses
  exact ⟨c, boundary, found.trans within⟩

theorem Uses.append (uses : Uses name text) (after : String) : Uses name (text ++ after) :=
  uses.mono (by rw [String.toList_append]; exact (List.prefix_append _ _).isInfix)

theorem Uses.behind (uses : Uses name text) (before : String) : Uses name (before ++ text) :=
  uses.mono (by rw [String.toList_append]; exact (List.suffix_append _ _).isInfix)

theorem Uses.join (uses : Uses name text) {texts : List String} (member : text ∈ texts) :
    Uses name (String.join texts) := by
  obtain ⟨before, after, rfl⟩ := List.append_of_mem member
  rw [String.join_append, String.join_cons]
  exact (uses.append _).behind _

theorem Uses.intercalate (uses : Uses name text) {texts : List String} (member : text ∈ texts)
    (separator : String) : Uses name (separator.intercalate texts) := by
  induction texts with
  | nil => exact absurd member List.not_mem_nil
  | cons first rest ih =>
    cases rest with
    | nil =>
      rw [String.intercalate_singleton]
      exact List.mem_singleton.mp member ▸ uses
    | cons second rest =>
      rw [String.intercalate_cons_cons]
      rcases List.mem_cons.mp member with rfl | member
      · exact (uses.append _).append _
      · exact (ih member).behind _

theorem StartsWith.append (starts : StartsWith name text) (after : String) :
    StartsWith name (text ++ after) := by
  unfold StartsWith
  rw [String.toList_append]
  exact starts.trans (List.prefix_append _ _)

/-- A name behind a space is a use. -/
theorem StartsWith.behind (starts : StartsWith name text) {before : String}
    (ends : before.toList.getLast? = some ' ') : Uses name (before ++ text) := by
  obtain ⟨front, split⟩ := List.getLast?_eq_some_iff.mp ends
  obtain ⟨back, same⟩ := starts
  refine uses_of_space ⟨front, back, ?_⟩
  rw [String.toList_append, split, ← same]
  simp only [List.append_assoc, List.cons_append, List.nil_append]

/-- The value of a field in a literal starts behind a space. -/
theorem StartsWith.field (starts : StartsWith name text) (field : String) :
    Uses name (field ++ ": " ++ text ++ ",") := by
  have uses := starts.behind (show ": ".toList.getLast? = some ' ' by decide)
  have split : field ++ ": " ++ text = field ++ (": " ++ text) := String.append_assoc
  exact (split ▸ uses.behind _).append _

/-- The type of a literal is written in front of its brace. -/
theorem uses_composite {type : String} (uses : Uses name type) (entries : List String) :
    Uses name (composite type entries) :=
  (((uses.append _).append _).append _).append _

theorem uses_composite_entry {entry : String} (uses : Uses name entry) {entries : List String}
    (member : entry ∈ entries) (type : String) : Uses name (composite type entries) :=
  ((((uses.behind "\n").join (List.mem_map_of_mem member)).behind _).append _).append _

theorem startsWith_composite {type : String} (starts : StartsWith name type)
    (entries : List String) : StartsWith name (composite type entries) :=
  (((starts.append _).append _).append _).append _

/-! ## Lines -/

/-- Whether one of some lines uses a package. -/
def LinesUse (name : String) (lines : List Line) : Prop :=
  ∃ line ∈ lines, Uses name line.render

variable {lines body : List Line} {opening closing : String}

theorem linesUse_code {depth : Nat} (uses : Uses name text) (member : .code depth text ∈ lines) :
    LinesUse name lines :=
  ⟨_, member, uses.behind _⟩

theorem linesUse_line (uses : Uses name text) : LinesUse name [line text] :=
  linesUse_code uses (List.mem_singleton_self _)

theorem LinesUse.mono (use : LinesUse name lines) {whole : List Line} (subset : lines ⊆ whole) :
    LinesUse name whole := by
  obtain ⟨line, member, uses⟩ := use
  exact ⟨line, subset member, uses⟩

/-- Whether a text that consists of lines has a line among them. -/
def HasLine (line : Line) (text : String) : Prop :=
  ∃ lines, text = renderLines lines ∧ line ∈ lines

/-- A text uses what one of its lines uses. -/
theorem HasLine.uses {line : Line} (has : HasLine line text) (uses : Uses name line.render) :
    Uses name text := by
  obtain ⟨lines, rfl, member⟩ := has
  exact uses.intercalate (List.mem_map_of_mem member) _

/-- Indentation and line breaks keep the text of a line whole. -/
theorem LinesUse.renderLines (use : LinesUse name lines) : Uses name (renderLines lines) := by
  obtain ⟨line, member, uses⟩ := use
  exact HasLine.uses ⟨lines, rfl, member⟩ uses

private theorem Uses.indent {line : Line} (uses : Uses name line.render) :
    Uses name line.indent.render := by
  cases line with
  | blank => exact uses
  | code depth text =>
    have deeper : (Line.code depth text).indent.render =
        "\t" ++ (Line.code depth text).render := by
      simp only [Line.indent, Line.render, List.replicate_succ, String.ofList_cons, ← String.append_assoc]
      rfl
    exact deeper ▸ uses.behind _

theorem linesUse_opening (uses : Uses name opening) : LinesUse name (enclosed opening closing body) :=
  linesUse_code uses (List.mem_append_left _ (List.mem_cons_self ..))

theorem LinesUse.enclosed (use : LinesUse name body) (opening closing : String) :
    LinesUse name (enclosed opening closing body) := by
  obtain ⟨line, member, uses⟩ := use
  exact ⟨_, List.mem_append_left _ (List.mem_cons_of_mem _ (List.mem_map_of_mem member)), uses.indent⟩

theorem LinesUse.block (use : LinesUse name body) (opening : String) :
    LinesUse name (block opening body) :=
  use.enclosed _ _

theorem LinesUse.when (use : LinesUse name body) (condition : String) :
    LinesUse name (Source.when condition body) :=
  use.block _

theorem linesUse_signature {signature : String} (uses : Uses name signature) (body : List Line) :
    LinesUse name (function signature body) :=
  linesUse_opening (((uses.behind _).append _).append _)

/-- Paragraphs have the lines of each of them. -/
theorem mem_paragraphs {line : Line} {paragraph : List Line} (inside : line ∈ paragraph)
    {all : List (List Line)} (member : paragraph ∈ all) : line ∈ paragraphs all := by
  cases all with
  | nil => exact absurd member List.not_mem_nil
  | cons first rest =>
    rcases List.mem_cons.mp member with rfl | member
    · exact List.mem_append_left _ inside
    · exact List.mem_append_right _
        (List.mem_flatMap.mpr ⟨paragraph, member, List.mem_cons_of_mem _ inside⟩)

theorem LinesUse.paragraphs {paragraph : List Line} (use : LinesUse name paragraph)
    {all : List (List Line)} (member : paragraph ∈ all) : LinesUse name (paragraphs all) :=
  use.mono fun _ inside => mem_paragraphs inside member

/-- The lines of a block are those put into it, one level deeper. -/
theorem mem_block {line : Line} (inside : line ∈ body) (opening : String) :
    line.indent ∈ block opening body :=
  List.mem_append_left _ (List.mem_cons_of_mem _ (List.mem_map_of_mem inside))

/-- A function starts with its signature. -/
theorem signature_mem_function (signature : String) (body : List Line) :
    .code 0 ("func " ++ signature ++ " " ++ openBrace) ∈ function signature body :=
  List.mem_append_left _ (List.mem_cons_self ..)

end ProviderCodegen.Source
