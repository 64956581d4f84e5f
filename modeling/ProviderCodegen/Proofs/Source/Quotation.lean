import ProviderCodegen.Proofs.Source.Mention
import ProviderCodegen.Text.Quoted

/-! # Quotations in a source text

Generated text is code with quoted texts inside. A quotation mark is no part of a package name and
an identifier may start after one, so a quoted text is searched on its own: a text refers to a
package when its code does, or when one of the texts that it quotes does.
-/

namespace ProviderCodegen.Source

open Text (goLiteral goEscape)

/-- A piece of a source text. -/
inductive Piece
  | code (text : String)
  /-- A text that stands as a string literal. -/
  | quoted (text : String)

namespace Piece

def text : Piece → String
  | code text => text
  | quoted text => goLiteral text

/-- The piece with nothing between the quotation marks. -/
def emptied : Piece → Piece
  | code text => code text
  | quoted _ => quoted ""

end Piece

def joined (pieces : List Piece) : String :=
  String.join (pieces.map Piece.text)

/-- Whether a text becomes another one when the given texts, which are all that it quotes, are
emptied. -/
def Quotes (whole emptied : String) (texts : List String) : Prop :=
  ∃ pieces : List Piece, whole = joined pieces ∧ emptied = joined (pieces.map Piece.emptied) ∧
    ∀ text, text ∈ texts ↔ .quoted text ∈ pieces

variable {whole emptied other otherEmptied : String} {texts more : List String}

/-! ## How quotations are put together -/

theorem quotes_code (text : String) : Quotes text text [] := by
  refine ⟨[.code text], ?_, ?_, fun _ => ?_⟩
  · simp only [joined, List.map_cons, List.map_nil, Piece.text, String.join_cons, String.join_nil,
      String.append_empty]
  · simp only [joined, List.map_cons, List.map_nil, Piece.emptied, Piece.text, String.join_cons,
      String.join_nil, String.append_empty]
  · simp only [List.not_mem_nil, List.mem_singleton, reduceCtorEq]

theorem quotes_literal (text : String) : Quotes (goLiteral text) (goLiteral "") [text] := by
  refine ⟨[.quoted text], ?_, ?_, fun _ => ?_⟩
  · simp only [joined, List.map_cons, List.map_nil, Piece.text, String.join_cons, String.join_nil,
      String.append_empty]
  · simp only [joined, List.map_cons, List.map_nil, Piece.emptied, Piece.text, String.join_cons,
      String.join_nil, String.append_empty]
  · simp only [List.mem_singleton, Piece.quoted.injEq]

theorem Quotes.append (first : Quotes whole emptied texts) (second : Quotes other otherEmptied more) :
    Quotes (whole ++ other) (emptied ++ otherEmptied) (texts ++ more) := by
  obtain ⟨pieces, rfl, rfl, quoted⟩ := first
  obtain ⟨otherPieces, rfl, rfl, otherQuoted⟩ := second
  refine ⟨pieces ++ otherPieces, ?_, ?_, fun text => ?_⟩
  · rw [joined, joined, joined, List.map_append, String.join_append]
  · rw [joined, joined, joined, List.map_append, List.map_append, String.join_append]
  · rw [List.mem_append, List.mem_append, quoted, otherQuoted]

theorem Quotes.behind (quotes : Quotes whole emptied texts) (before : String) :
    Quotes (before ++ whole) (before ++ emptied) texts :=
  (quotes_code before).append quotes

theorem Quotes.before (quotes : Quotes whole emptied texts) (after : String) :
    Quotes (whole ++ after) (emptied ++ after) texts := by
  have both := quotes.append (quotes_code after)
  rwa [List.append_nil] at both

/-- Only which texts are quoted counts. -/
theorem Quotes.congr (quotes : Quotes whole emptied texts) (same : ∀ text, text ∈ more ↔ text ∈ texts) :
    Quotes whole emptied more := by
  obtain ⟨pieces, ofWhole, ofEmptied, quoted⟩ := quotes
  exact ⟨pieces, ofWhole, ofEmptied, fun text => (same text).trans (quoted text)⟩

/-- By induction on the items, each of which quotes its own texts. -/
theorem Quotes.join {α : Type} {items : List α} {render renderEmptied : α → String}
    {quoted : α → List String}
    (each : ∀ item ∈ items, Quotes (render item) (renderEmptied item) (quoted item)) :
    Quotes (String.join (items.map render)) (String.join (items.map renderEmptied))
      (items.flatMap quoted) := by
  induction items with
  | nil => exact quotes_code _
  | cons item items ih =>
    have head := each item (List.mem_cons_self ..)
    have tail := ih fun other listed => each other (List.mem_cons_of_mem _ listed)
    rw [List.map_cons, List.map_cons, String.join_cons, String.join_cons, List.flatMap_cons]
    exact head.append tail

/-! ## What a text with quotations mentions -/

private theorem joined_cons (piece : Piece) (pieces : List Piece) :
    (joined (piece :: pieces)).toList = piece.text.toList ++ (joined pieces).toList := by
  rw [joined, List.map_cons, String.join_cons, String.toList_append, joined]

variable {qualifier : List Char}

private theorem toList_goLiteral (text : String) :
    (goLiteral text).toList = '"' :: (text.toList.flatMap goEscape ++ ['"']) := by
  rw [goLiteral, String.toList_ofList, List.cons_append]

/-- The marks of a literal mention nothing, what stands between them is searched. -/
private theorem mentions_literal (unquoted : '"' ∉ qualifier) (nonempty : qualifier ≠ [])
    (text : String) :
    mentions qualifier none (goLiteral text).toList =
      mentions qualifier none (text.toList.flatMap goEscape) := by
  have opening := mentions_append_separator none [] (text.toList.flatMap goEscape ++ ['"'])
    (by decide) unquoted nonempty
  have closing := mentions_append_separator none (text.toList.flatMap goEscape) []
    (by decide) unquoted nonempty
  rw [List.nil_append] at opening
  rw [toList_goLiteral, opening, closing]
  simp only [mentions, Bool.false_or, Bool.or_false]

/-- A quoted text is searched on its own, whatever stands around it. -/
private theorem mentions_around_literal (unquoted : '"' ∉ qualifier) (nonempty : qualifier ≠ [])
    (before after : List Char) (text : String) :
    mentions qualifier none (before ++ (goLiteral text).toList ++ after) =
      (mentions qualifier none before || mentions qualifier none (goLiteral text).toList ||
        mentions qualifier none after) := by
  have split : before ++ (goLiteral text).toList ++ after =
      before ++ '"' :: (text.toList.flatMap goEscape ++ '"' :: after) := by
    rw [toList_goLiteral]
    simp only [List.append_assoc, List.cons_append, List.nil_append]
  rw [split, mentions_literal unquoted nonempty,
    mentions_append_separator none before _ (by decide) unquoted nonempty,
    mentions_append_separator none _ after (by decide) unquoted nonempty, Bool.or_assoc]

/-- The code in front of the first quotation is not searched before the quotation, so the induction
is for pieces behind any text. -/
private theorem mentions_joined (unquoted : '"' ∉ qualifier) (nonempty : qualifier ≠ [])
    (before : List Char) (pieces : List Piece) :
    mentions qualifier none (before ++ (joined pieces).toList) = true ↔
      mentions qualifier none (before ++ (joined (pieces.map Piece.emptied)).toList) = true ∨
        ∃ text, Piece.quoted text ∈ pieces ∧
          mentions qualifier none (goLiteral text).toList = true := by
  induction pieces generalizing before with
  | nil => simp only [List.map_nil, List.not_mem_nil, false_and, exists_false, or_false]
  | cons piece pieces ih =>
    rw [List.map_cons, joined_cons, joined_cons, ← List.append_assoc, ← List.append_assoc]
    cases piece with
    | code text =>
      rw [Piece.emptied, ih (before ++ (Piece.code text).text.toList)]
      simp only [List.mem_cons, reduceCtorEq, false_or]
    | quoted text =>
      have empty : mentions qualifier none (goLiteral "").toList = false :=
        mentions_literal unquoted nonempty ""
      have later := ih []
      rw [List.nil_append, List.nil_append] at later
      simp only [Piece.emptied, Piece.text, mentions_around_literal unquoted nonempty,
        Bool.or_eq_true, empty, Bool.false_eq_true, or_false, later, List.mem_cons,
        Piece.quoted.injEq, or_and_right, exists_or, exists_eq_left]
      exact or_or_or_comm

namespace Import

/-- A text refers to a package when it does so without what it quotes, or when a quotation does. -/
theorem isReferenced_of_quotes (quotes : Quotes whole emptied texts) (i : Import) :
    i.isReferenced whole = true ↔
      i.isReferenced emptied = true ∨ ∃ text ∈ texts, i.isReferenced (goLiteral text) = true := by
  obtain always | ⟨absent, searches⟩ := i.isReferenced_cases
  · exact iff_of_true (always _) (.inl (always _))
  · have unquoted : '"' ∉ i.packageName.toList ++ ['.'] := absent '"' (by decide) (by decide)
    have nonempty : i.packageName.toList ++ ['.'] ≠ [] :=
      List.append_ne_nil_of_right_ne_nil _ (List.cons_ne_nil _ _)
    obtain ⟨pieces, rfl, rfl, quoted⟩ := quotes
    simp only [searches, quoted]
    exact mentions_joined unquoted nonempty [] pieces

end Import

end ProviderCodegen.Source
