import Mathlib.Data.List.Infix
import ProviderCodegen.Proofs.Source.Mention

/-! # Searching a text for a package name

A search from left to right goes on behind each occurrence that it finds, so it passes over those
that overlap one found before (`occurrences`). A package name with the point behind it overlaps
itself nowhere, because the point is no character of the name. So the search finds all occurrences,
and a text uses a package exactly when one of those found stands where an identifier may start.
-/

namespace ProviderCodegen.Source

variable {name word before start text rest : List Char}

/-- The occurrences of a word that a search from left to right finds, each as all that stands before
it. Behind an occurrence the search goes on at its end. -/
def occurrences (word before : List Char) : List Char → List (List Char)
  | [] => []
  | c :: rest =>
      if word.isPrefixOf (c :: rest) then
        before :: occurrences word (before ++ word) (rest.drop (word.length - 1))
      else occurrences word (before ++ [c]) rest
termination_by text => text.length
decreasing_by
  · simp only [List.length_drop, List.length_cons]
    omega
  · simp only [List.length_cons]
    omega

/-! ## No occurrence overlaps another -/

/-- Where a word stands that has its last character nowhere else, it can stand again only behind its
end. -/
private theorem isPrefix_of_later {last : Char} {between : List Char} (once : last ∉ name)
    (first : name ++ [last] <+: text) (later : between ++ (name ++ [last]) <+: text)
    (nonempty : between ≠ []) : name ++ [last] <+: between := by
  have reaches : name ++ [last] <+: between ++ (name ++ [last]) := by
    refine List.prefix_of_prefix_length_le first later ?_
    simp only [List.length_append, List.length_cons, List.length_nil]
    omega
  obtain ⟨behind, same⟩ := reaches
  rcases List.append_eq_append_iff.mp same with ⟨apart, split, -⟩ | ⟨shared, split, again⟩
  · exact ⟨apart, split.symm⟩
  · -- What both occurrences share ends in the last character of the word, and the word starts with
    -- it again. As the character stands at the end only, nothing is shared or all of the word is.
    rcases shared.eq_nil_or_concat' with rfl | ⟨front, d, rfl⟩
    · exact ⟨[], by rw [List.append_nil, split, List.append_nil]⟩
    · rw [← List.append_assoc] at split
      obtain ⟨ofFirst, ends⟩ := List.append_inj' split rfl
      cases ends
      rcases behind.eq_nil_or_concat' with rfl | ⟨others, e, rfl⟩
      · rw [List.append_nil] at again
        obtain ⟨ofSecond, -⟩ := List.append_inj' again rfl
        rw [ofSecond] at ofFirst
        exact absurd (List.append_left_eq_self.mp ofFirst.symm) nonempty
      · rw [← List.append_assoc] at again
        obtain ⟨rfl, -⟩ := List.append_inj' again rfl
        exact absurd (List.mem_append_left _ (List.mem_append_right _ (List.mem_singleton_self _))) once

/-- A search finds all occurrences of a word that has its last character nowhere else. -/
theorem mem_occurrences_iff {last : Char} (once : last ∉ name) :
    start ∈ occurrences (name ++ [last]) before text ↔
      ∃ between, start = before ++ between ∧ between ++ (name ++ [last]) <+: text := by
  induction before, text using occurrences.induct (name ++ [last]) with
  | case1 before =>
    rw [occurrences]
    refine iff_of_false List.not_mem_nil ?_
    rintro ⟨between, -, found⟩
    have empty := List.prefix_nil.mp found
    simp only [List.append_eq_nil_iff, List.cons_ne_nil, and_false] at empty
  | case2 before c rest found ih =>
    have first := List.isPrefixOf_iff_prefix.mp found
    have split : name ++ [last] ++ rest.drop ((name ++ [last]).length - 1) = c :: rest := by
      have behind := List.prefix_iff_eq_append.mp first
      have size : (name ++ [last]).length = name.length + 1 := by
        rw [List.length_append, List.length_singleton]
      rw [size, List.drop_succ_cons] at behind
      rwa [size, Nat.add_sub_cancel]
    rw [occurrences, if_pos found, List.mem_cons, ih]
    constructor
    · rintro (rfl | ⟨between, rfl, later⟩)
      · exact ⟨[], (List.append_nil _).symm, first⟩
      · refine ⟨name ++ [last] ++ between, List.append_assoc .., ?_⟩
        rw [← split, List.append_assoc, List.prefix_append_right_inj]
        exact later
    · rintro ⟨between, rfl, later⟩
      by_cases atStart : between = []
      · left
        rw [atStart, List.append_nil]
      · obtain ⟨behind, rfl⟩ := isPrefix_of_later once first later atStart
        refine .inr ⟨behind, (List.append_assoc ..).symm, ?_⟩
        rw [← split, List.append_assoc, List.prefix_append_right_inj] at later
        exact later
  | case3 before c rest missed ih =>
    rw [occurrences, if_neg missed, ih]
    constructor
    · rintro ⟨between, rfl, later⟩
      refine ⟨c :: between, List.append_assoc .., ?_⟩
      exact List.cons_prefix_cons.mpr ⟨rfl, later⟩
    · rintro ⟨between, rfl, later⟩
      cases between with
      | nil => exact absurd (List.isPrefixOf_iff_prefix.mpr later) missed
      | cons d between =>
        obtain ⟨rfl, inRest⟩ := List.cons_prefix_cons.mp later
        exact ⟨between, List.append_cons .., inRest⟩

/-! ## The use of a package -/

/-- The search for a name with the point behind it finds a place where an identifier may start
exactly when the text refers to a package by the name. -/
theorem any_occurrences_iff {name body : String}
    (identifier : name.toList.all isIdentifierChar = true) :
    ((occurrences (name.toList ++ ['.']) [] body.toList).any fun start =>
        isBoundary start.getLast?) = true ↔ RefersTo name body := by
  have once : '.' ∉ name.toList := by
    intro member
    have point := List.all_eq_true.mp identifier '.' member
    cases point
  rw [List.any_eq_true, RefersTo]
  constructor
  · rintro ⟨start, found, boundary⟩
    obtain ⟨between, same, finish, split⟩ := (mem_occurrences_iff once).mp found
    rw [List.nil_append] at same
    subst same
    exact ⟨start, finish, by rw [← split, List.append_assoc], boundary⟩
  · rintro ⟨start, finish, split, boundary⟩
    refine ⟨start, (mem_occurrences_iff once).mpr ⟨start, rfl, finish, ?_⟩, boundary⟩
    rw [split, List.append_assoc]

/-- Whether texts are searched for the name of a package: it is neither blank nor the point and has
no character that ends identifiers. -/
def Import.IsSearched (i : Import) : Prop :=
  i.packageName ≠ "_" ∧ i.packageName ≠ "." ∧ i.packageName.toList.all isIdentifierChar = true

instance (i : Import) : Decidable i.IsSearched :=
  inferInstanceAs (Decidable (_ ∧ _ ∧ _))

private theorem isBoundary_getLast?_iff {front : String} :
    isBoundary front.toList.getLast? = true ↔
      front = "" ∨ ∃ c, front.toList.getLast? = some c ∧ isIdentifierChar c = false := by
  cases ends : front.toList.getLast? with
  | none =>
    rw [List.getLast?_eq_none_iff, String.toList_eq_nil_iff] at ends
    exact iff_of_true rfl (.inl ends)
  | some c =>
    have nonempty : front ≠ "" := by
      rintro rfl
      cases ends
    rw [isBoundary, Bool.not_eq_true', or_iff_right nonempty]
    simp only [Option.some.injEq, exists_eq_left']

/-- A reference splits the text at the name and the point behind it. -/
theorem refersTo_iff_split {name body : String} :
    RefersTo name body ↔
      ∃ front back : String, body = front ++ name ++ "." ++ back ∧
        (front = "" ∨ ∃ c, front.toList.getLast? = some c ∧ isIdentifierChar c = false) := by
  constructor
  · rintro ⟨start, finish, split, boundary⟩
    refine ⟨String.ofList start, String.ofList finish, ?_, isBoundary_getLast?_iff.mp ?_⟩
    · rw [← String.toList_inj, split]
      simp only [String.toList_append, String.toList_ofList, List.append_assoc]
      rfl
    · rwa [String.toList_ofList]
  · rintro ⟨front, back, rfl, boundary⟩
    refine ⟨front.toList, back.toList, ?_, isBoundary_getLast?_iff.mpr boundary⟩
    simp only [String.toList_append, List.append_assoc]
    rfl

namespace Import

variable {i : Import}

/-- An import whose name cannot be looked for is kept, whatever the text is. -/
theorem isReferenced_of_not_isSearched (unsearched : ¬ i.IsSearched) (body : String) :
    i.isReferenced body = true := by
  by_contra missed
  rw [isReferenced, Bool.not_eq_true] at missed
  simp only [Bool.or_eq_false_iff, beq_eq_false_iff_ne, Bool.not_eq_false'] at missed
  exact unsearched ⟨missed.1.1.1, missed.1.1.2, missed.1.2⟩

/-- The loop over all matches finds one at a boundary if there is one. -/
theorem isReferenced_iff_refersTo (searched : i.IsSearched) (body : String) :
    i.isReferenced body = true ↔ RefersTo i.packageName body := by
  obtain ⟨named, noPoint, identifier⟩ := searched
  rw [refersTo_iff, isReferenced, beq_eq_false_iff_ne.mpr named, beq_eq_false_iff_ne.mpr noPoint,
    identifier]
  rfl

/-- The test for a reference finds every use and nothing else. Every text uses a package whose name
is no identifier. Otherwise a text uses the package exactly when it has the name, with the point
behind it, at its start or behind a character that ends identifiers. Testing the occurrences that a
search from left to right finds gives the same answer, although it looks at no two that overlap. -/
theorem isReferenced_finds_uses (i : Import) (body : String) :
    (¬ i.IsSearched → i.isReferenced body = true) ∧
      (i.IsSearched →
        (i.isReferenced body = true ↔
          ∃ front back : String, body = front ++ i.packageName ++ "." ++ back ∧
            (front = "" ∨ ∃ c, front.toList.getLast? = some c ∧ isIdentifierChar c = false)) ∧
        i.isReferenced body =
          (occurrences (i.packageName.toList ++ ['.']) [] body.toList).any fun start =>
            isBoundary start.getLast?) := by
  refine ⟨fun unsearched => isReferenced_of_not_isSearched unsearched body, fun searched => ?_⟩
  constructor
  · rw [isReferenced_iff_refersTo searched, refersTo_iff_split]
  · rw [Bool.eq_iff_iff, isReferenced_iff_refersTo searched, any_occurrences_iff searched.2.2]

/-- The search rejects the first occurrence, which ends a longer name, and takes the second one,
behind a letter that identifiers do not have. -/
theorem isReferenced_behind_rejected :
    IsSearched { path := "example.com/a" } ∧
      isReferenced { path := "example.com/a" } "aa.x = éa.y" = true := by
  refine ⟨by decide, ?_⟩
  obtain ⟨uses, -⟩ := (isReferenced_finds_uses { path := "example.com/a" } "aa.x = éa.y").2
    (by decide)
  exact uses.mpr ⟨"aa.x = é", "y", by decide, .inr ⟨'é', by decide, by decide⟩⟩

end Import

end ProviderCodegen.Source
