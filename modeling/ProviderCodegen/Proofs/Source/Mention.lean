import Mathlib.Data.List.Basic
import ProviderCodegen.Source.Import

/-! # Where a text mentions a package

`mentions` scans a text character by character. A text that is put together from parts by line
breaks mentions a qualifier exactly when one of the parts does, because no qualifier holds a line
break and an identifier may start after one. A qualifier behind a character that ends identifiers
is mentioned wherever the two stand together.
-/

namespace ProviderCodegen.Source

variable {qualifier text rest : List Char} {before : Option Char}

/-- Only whether an identifier may start counts of what stands before a text. -/
theorem mentions_congr {other : Option Char} (same : isBoundary before = isBoundary other) :
    mentions qualifier before text = mentions qualifier other text := by
  cases text with
  | nil => rfl
  | cons c rest => simp only [mentions, same]

private theorem isPrefixOf_append_separator {separator : Char} (text rest : List Char)
    (absent : separator ∉ qualifier) :
    qualifier.isPrefixOf (text ++ separator :: rest) = qualifier.isPrefixOf text := by
  induction qualifier generalizing text with
  | nil => simp only [List.isPrefixOf_nil_left]
  | cons q qualifier ih =>
    obtain ⟨head, tail⟩ := not_or.mp (List.mem_cons.not.mp absent)
    cases text with
    | nil => simp only [List.nil_append, List.isPrefixOf, beq_eq_false_iff_ne.mpr (Ne.symm head),
        Bool.false_and]
    | cons c text => simp only [List.cons_append, List.isPrefixOf, ih _ tail]

/-- A separator that is no part of a qualifier cuts a text into two that are scanned alone. -/
theorem mentions_append_separator {separator : Char} (before : Option Char) (text rest : List Char)
    (boundary : isBoundary (some separator) = true) (absent : separator ∉ qualifier)
    (nonempty : qualifier ≠ []) :
    mentions qualifier before (text ++ separator :: rest) =
      (mentions qualifier before text || mentions qualifier none rest) := by
  -- What stands before the scanned text changes with every step, and at the separator it is a
  -- boundary, as at the start of a text.
  induction text generalizing before with
  | nil =>
    have head : qualifier.isPrefixOf (separator :: rest) = false := by
      have cut := isPrefixOf_append_separator [] rest absent
      rw [List.nil_append] at cut
      rw [cut]
      cases qualifier with
      | nil => exact absurd rfl nonempty
      | cons q qualifier => rfl
    have tail : mentions qualifier (some separator) rest = mentions qualifier none rest :=
      mentions_congr boundary
    simp only [List.nil_append, mentions, head, tail, Bool.and_false, Bool.false_or]
  | cons c text ih =>
    have head := isPrefixOf_append_separator (c :: text) rest absent
    simp only [List.cons_append] at head ⊢
    simp only [mentions, head, ih, Bool.or_assoc]

/-- A text of lines mentions what one of the lines mentions. -/
theorem mentions_intercalate (lines : List String) (absent : '\n' ∉ qualifier)
    (nonempty : qualifier ≠ []) :
    mentions qualifier none ("\n".intercalate lines).toList =
      lines.any fun line => mentions qualifier none line.toList := by
  induction lines with
  | nil => rw [String.intercalate_nil]; rfl
  | cons first rest ih =>
    cases rest with
    | nil => simp only [String.intercalate_singleton, List.any_cons, List.any_nil, Bool.or_false]
    | cons second rest =>
      have cut := mentions_append_separator none first.toList
        ("\n".intercalate (second :: rest)).toList (by decide) absent nonempty
      have joined : ("\n".intercalate (first :: second :: rest)).toList =
          first.toList ++ '\n' :: ("\n".intercalate (second :: rest)).toList := by
        simp only [String.intercalate_cons_cons, String.toList_append, List.append_assoc]
        rfl
      rw [joined, cut, ih]
      simp only [List.any_cons]

private theorem mentions_of_start (boundary : isBoundary before = true) (nonempty : qualifier ≠ [])
    (start : qualifier <+: text) : mentions qualifier before text = true := by
  cases text with
  | nil => exact absurd (List.prefix_nil.mp start) nonempty
  | cons c rest =>
    simp only [mentions, boundary, Bool.true_and, List.isPrefixOf_iff_prefix.mpr start,
      Bool.true_or]

/-- A qualifier behind a character that ends identifiers is a mention. -/
theorem mentions_of_infix {c : Char} (boundary : isIdentifierChar c = false)
    (nonempty : qualifier ≠ []) (within : c :: qualifier <:+: text) :
    mentions qualifier before text = true := by
  obtain ⟨start, finish, rfl⟩ := within
  induction start generalizing before with
  | nil =>
    simp only [List.nil_append, List.cons_append, mentions]
    rw [mentions_of_start (by simp only [isBoundary, boundary, Bool.not_false]) nonempty
      (List.prefix_append _ _), Bool.or_true]
  | cons d start ih =>
    simp only [List.cons_append, mentions] at ih ⊢
    rw [ih, Bool.or_true]

private theorem getLast?_cons_or (c : Char) (start : List Char) :
    (c :: start).getLast?.or before = start.getLast?.or (some c) := by
  cases last : start.getLast? with
  | none => simp only [List.getLast?_cons, last, Option.getD_none, Option.some_or, Option.none_or]
  | some d => simp only [List.getLast?_cons, last, Option.getD_some, Option.some_or]

/-- A scan finds the places where a qualifier stands behind a boundary. -/
theorem mentions_iff (nonempty : qualifier ≠ []) :
    mentions qualifier before text = true ↔
      ∃ start finish, text = start ++ (qualifier ++ finish) ∧
        isBoundary (start.getLast?.or before) = true := by
  induction text generalizing before with
  | nil =>
    refine iff_of_false (by simp only [mentions, Bool.false_eq_true, not_false_iff]) ?_
    rintro ⟨start, finish, split, -⟩
    obtain ⟨-, atEnd⟩ := List.append_eq_nil_iff.mp split.symm
    exact nonempty (List.append_eq_nil_iff.mp atEnd).1
  | cons c rest ih =>
    rw [mentions, Bool.or_eq_true, Bool.and_eq_true, List.isPrefixOf_iff_prefix, ih]
    constructor
    · rintro (⟨boundary, finish, split⟩ | ⟨start, finish, rfl, boundary⟩)
      · exact ⟨[], finish, split.symm, boundary⟩
      · exact ⟨c :: start, finish, rfl, getLast?_cons_or c start ▸ boundary⟩
    · rintro ⟨start, finish, split, boundary⟩
      cases start with
      | nil => exact .inl ⟨boundary, finish, split.symm⟩
      | cons d start =>
        obtain ⟨rfl, rest⟩ := List.cons.inj split
        exact .inr ⟨start, finish, rest, getLast?_cons_or c start ▸ boundary⟩

/-- Whether a text refers to a package by a name: the name, with the point behind it, stands where an
identifier may start. -/
def RefersTo (name text : String) : Prop :=
  ∃ start finish, text.toList = start ++ ((name.toList ++ ['.']) ++ finish) ∧
    isBoundary start.getLast? = true

/-- The search goes through the text once, remembering the character before. -/
theorem refersTo_iff {name text : String} :
    RefersTo name text ↔ mentions (name.toList ++ ['.']) none text.toList = true := by
  rw [mentions_iff (List.append_ne_nil_of_right_ne_nil _ (List.cons_ne_nil _ _))]
  simp only [RefersTo, Option.or_none]

namespace Import

/-- What a text refers to by the name of a package, it uses. -/
theorem isReferenced_of_refersTo {i : Import} {text : String} (refers : RefersTo i.packageName text) :
    i.isReferenced text = true := by
  rw [isReferenced, refersTo_iff.mp refers, Bool.or_true]

/-- A package without a usable name counts as used by every text. The others are searched by their
names, which hold no character that ends identifiers. -/
theorem isReferenced_cases (i : Import) :
    (∀ text, i.isReferenced text = true) ∨
      (∀ c, isIdentifierChar c = false → c ≠ '.' → c ∉ i.packageName.toList ++ ['.']) ∧
        ∀ text, i.isReferenced text =
          mentions (i.packageName.toList ++ ['.']) none text.toList := by
  by_cases unnamed : (i.packageName == "_" || i.packageName == "." ||
      !i.packageName.toList.all isIdentifierChar) = true
  · exact .inl fun text => by simp only [isReferenced, unnamed, Bool.true_or]
  · rw [Bool.not_eq_true] at unnamed
    have characters : i.packageName.toList.all isIdentifierChar = true := by
      rw [Bool.or_eq_false_iff, Bool.not_eq_false'] at unnamed
      exact unnamed.2
    refine .inr ⟨fun c ends other member => ?_, fun text => ?_⟩
    · rcases List.mem_append.mp member with inName | isPoint
      · exact absurd (List.all_eq_true.mp characters c inName) (Bool.eq_false_iff.mp ends)
      · exact other (List.mem_singleton.mp isPoint)
    · simp only [isReferenced, unnamed, Bool.false_or]

/-- A text of lines uses a package exactly when one of the lines does. -/
theorem isReferenced_intercalate (i : Import) {lines : List String} (nonempty : lines ≠ []) :
    i.isReferenced ("\n".intercalate lines) = lines.any i.isReferenced := by
  obtain ⟨first, rest, rfl⟩ := List.exists_cons_of_ne_nil nonempty
  obtain always | ⟨absent, searches⟩ := i.isReferenced_cases
  · simp only [always, List.any_cons, Bool.true_or]
  · have single : '\n' ∉ i.packageName.toList ++ ['.'] := absent '\n' (by decide) (by decide)
    rw [searches, funext searches]
    exact mentions_intercalate _ single (List.append_ne_nil_of_right_ne_nil _ (by decide))

end Import

end ProviderCodegen.Source
