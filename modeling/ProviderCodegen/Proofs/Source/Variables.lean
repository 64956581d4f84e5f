import ProviderCodegen.Proofs.Text.Pascal
import ProviderCodegen.Source.Line

/-! # Local variables in a text

A variable stands in a Go text where its name is an identifier of its own that is not selected from
something else (`Stands`). A text that is cut next to a character of no identifier has the variables
of its parts. So in a text of literals with something between them (`fill`), a variable stands only
where one was put or inside a text that was put there, if the literals have no room for it. For the
variables of conversion methods that is seen from their endings (`IsLocal`).
-/

namespace ProviderCodegen.Source

open Text (isNameChar isWord)

/-! ## Standing in a text -/

def isIdentifierPart (c : Char) : Bool :=
  isNameChar c || c == '_'

/-- Whether a variable may start behind a character. -/
def mayStart (before : Option Char) : Bool :=
  before.all fun c => !isIdentifierPart c && c != '.'

/-- Whether a character, if there is one, is in no identifier, so that none goes on across it. -/
def isApart (next : Option Char) : Bool :=
  next.all fun c => !isIdentifierPart c

/-- Whether a variable stands in a text that is behind some character. -/
def StandsBehind (previous : Option Char) (name text : List Char) : Prop :=
  ∃ before after, text = before ++ name ++ after ∧
    mayStart (before.getLast?.or previous) = true ∧ isApart after.head? = true

/-- Whether a variable stands in a text. -/
def Stands (name text : String) : Prop :=
  StandsBehind none name.toList text.toList

/-- A name by itself stands. -/
theorem stands_self (name : String) : Stands name name :=
  ⟨[], [], (List.append_nil _).symm, rfl, rfl⟩

section Around

variable {name text : String}

/-- What stands in a text stands behind a character that no identifier and no selection goes on
from. -/
theorem Stands.behind {before : String} (stands : Stands name text)
    (starts : mayStart before.toList.getLast? = true) : Stands name (before ++ text) := by
  obtain ⟨front, after, split, frontStarts, ends⟩ := stands
  refine ⟨before.toList ++ front, after, ?_, ?_, ends⟩
  · rw [String.toList_append, split]
    simp only [List.append_assoc]
  · rw [List.getLast?_append]
    cases last : front.getLast? with
    | none => rwa [Option.none_or, Option.or_none]
    | some c => rwa [last] at frontStarts

/-- What stands in a text stands before a character that no identifier goes on with. -/
theorem Stands.before {after : String} (stands : Stands name text)
    (ends : isApart after.toList.head? = true) : Stands name (text ++ after) := by
  obtain ⟨front, back, split, starts, backEnds⟩ := stands
  refine ⟨front, back ++ after.toList, ?_, starts, ?_⟩
  · rw [String.toList_append, split]
    simp only [List.append_assoc]
  · cases back with
    | nil => exact ends
    | cons c back => exact backEnds

end Around

section Characters

variable {previous : Option Char} {name first second text : List Char}

/-- What stands in a text stands there too when nothing is in front of it. -/
theorem StandsBehind.alone (stands : StandsBehind previous name text) :
    StandsBehind none name text := by
  obtain ⟨before, after, split, starts, ends⟩ := stands
  refine ⟨before, after, split, ?_, ends⟩
  cases last : before.getLast? with
  | none => rfl
  | some c => rwa [last] at starts

theorem isApart_eq_false {c : Char} (inside : isIdentifierPart c = true) :
    isApart (some c) = false := by
  rw [isApart, Option.all_some, inside, Bool.not_true]

/-- A variable in a text that is cut where no identifier goes on stands on one side. -/
theorem StandsBehind.of_append (inside : ∀ c ∈ name, isIdentifierPart c = true)
    (apart : isApart first.getLast? = true ∨ isApart second.head? = true)
    (stands : StandsBehind previous name (first ++ second)) :
    StandsBehind previous name first ∨
      StandsBehind (first.getLast?.or previous) name second := by
  obtain ⟨before, after, split, starts, ends⟩ := stands
  rcases List.append_eq_append_iff.mp split with ⟨between, front, rfl⟩ | ⟨between, rfl, rfl⟩
  · rcases List.append_eq_append_iff.mp front with ⟨left, rfl, rfl⟩ | ⟨left, rfl, rfl⟩
    · -- The name lies across the cut, so one side of the cut belongs to it unless it is empty.
      cases between with
      | nil => exact .inl ⟨before, [], by simp only [List.append_nil], starts, rfl⟩
      | cons c between =>
        cases last : left.getLast? with
        | none =>
          obtain rfl := List.getLast?_eq_none_iff.mp last
          refine .inr ⟨[], after, rfl, ?_, ends⟩
          rwa [List.append_nil]
        | some d =>
          have outside : isApart (some d) = false :=
            isApart_eq_false (inside d (List.mem_append_left _ (List.mem_of_getLast? last)))
          have within : isApart (some c) = false :=
            isApart_eq_false (inside c (List.mem_append_right _ (List.mem_cons_self ..)))
          rw [List.getLast?_append, last, Option.some_or, outside] at apart
          cases within.symm.trans (apart.resolve_left Bool.false_ne_true)
    · refine .inr ⟨left, after, rfl, ?_, ends⟩
      rwa [List.getLast?_append, Option.or_assoc] at starts
  · refine .inl ⟨before, between, rfl, starts, ?_⟩
    cases between with
    | nil => rfl
    | cons c between => exact ends

/-- A variable that stands in an identifier is the whole of it, and may start there. -/
theorem StandsBehind.eq_of_inside (inside : ∀ c ∈ text, isIdentifierPart c = true)
    (stands : StandsBehind previous name text) : text = name ∧ mayStart previous = true := by
  obtain ⟨before, after, rfl, starts, ends⟩ := stands
  have nothingBehind : after = [] := by
    cases after with
    | nil => rfl
    | cons c after =>
      have within := isApart_eq_false (inside c (List.mem_append_right _ (List.mem_cons_self ..)))
      cases within.symm.trans ends
  have nothingBefore : before = [] := by
    cases last : before.getLast? with
    | none => exact List.getLast?_eq_none_iff.mp last
    | some c =>
      have within := inside c
        (List.mem_append_left _ (List.mem_append_left _ (List.mem_of_getLast? last)))
      rw [last, Option.some_or, mayStart, Option.all_some, within] at starts
      cases starts
  subst nothingBehind nothingBefore
  exact ⟨List.append_nil _, starts⟩

/-! ## Local variables -/

/-- Whether an identifier with an ending may be over in a text. -/
def endsIn (ending : List Char) : List Char → Bool
  | [] => false
  | c :: rest =>
      ending.isPrefixOf (c :: rest) && isApart ((c :: rest).drop ending.length).head? ||
        endsIn ending rest

theorem endsIn_append {ending : List Char} (nonempty : ending ≠ []) (before : List Char)
    {after : List Char} (ends : isApart after.head? = true) :
    endsIn ending (before ++ (ending ++ after)) = true := by
  induction before with
  | nil =>
    cases ending with
    | nil => exact absurd rfl nonempty
    | cons c ending =>
      have here : (c :: ending).isPrefixOf (c :: (ending ++ after)) = true :=
        List.isPrefixOf_iff_prefix.mpr (List.prefix_append (c :: ending) after)
      have rest : (c :: (ending ++ after)).drop (c :: ending).length = after := List.drop_left
      rw [List.nil_append, List.cons_append, endsIn, here, rest, ends]
      rfl
  | cons c before ih => rw [List.cons_append, endsIn, ih, Bool.or_true]

end Characters

/-- The endings of the local variables that conversion methods have for fields. -/
def localEndings : List String :=
  ["Field", "Val"]

/-- Whether a name is that of a local variable for a field. -/
def IsLocal (name : String) : Prop :=
  ∃ stem, ∃ ending ∈ localEndings, name = stem ++ ending ∧ isWord stem = true

/-- Whether a text has no room for a local variable. -/
def hasNoLocal (text : String) : Bool :=
  localEndings.all fun ending => !endsIn ending.toList text.toList

section Locals

variable {previous : Option Char} {name text : String}

theorem isIdentifierPart_of_isWord (word : isWord text = true) :
    ∀ c ∈ text.toList, isIdentifierPart c = true := by
  intro c member
  rw [isIdentifierPart, List.all_eq_true.mp word c member, Bool.true_or]

theorem IsLocal.isWord (isLocal : IsLocal name) : isWord name = true := by
  obtain ⟨stem, ending, member, rfl, word⟩ := isLocal
  have wordEnding : Text.isWord ending = true := by
    rcases List.mem_cons.mp member with rfl | member
    · decide
    · obtain rfl := List.mem_singleton.mp member
      decide
  rw [Text.isWord_append, word, wordEnding]
  rfl

/-- The ending of the variable would have to be in the text. -/
theorem not_standsBehind_of_hasNoLocal (isLocal : IsLocal name) (none : hasNoLocal text = true) :
    ¬ StandsBehind previous name.toList text.toList := by
  obtain ⟨stem, ending, member, rfl, -⟩ := isLocal
  rintro ⟨before, after, split, -, ends⟩
  have absent := List.all_eq_true.mp none ending member
  have nonempty : ending.toList ≠ [] := by
    rcases List.mem_cons.mp member with rfl | member
    · decide
    · obtain rfl := List.mem_singleton.mp member
      decide
  rw [split, String.toList_append, ← List.append_assoc, List.append_assoc,
    endsIn_append nonempty (before ++ stem.toList) ends] at absent
  cases absent

end Locals

/-! ## Texts with holes -/

/-- What stands between literals in a text. -/
inductive Hole
  /-- A name that is selected from what is before it. -/
  | selected (name : String) (word : isWord name = true)
  | localName (name : String) (word : isWord name = true)
  /-- A text from somewhere else. -/
  | given (text : String)

namespace Hole

def text : Hole → String
  | selected name _ => name
  | localName name _ => name
  | given text => text

/-- Whether a hole may stand behind a character. -/
def mayFollow (hole : Hole) (last : Option Char) : Bool :=
  match hole with
  | selected _ _ => last == some '.'
  | localName _ _ => isApart last
  | given _ => isApart last

/-- Whether a hole is for a local variable, or for a text in which it stands. -/
def Admits (name : String) : Hole → Prop
  | selected _ _ => False
  | localName other _ => other = name
  | given text => Stands name text

end Hole

/-- Literals with something behind each of them, and a last literal. -/
def fill : List (String × Hole) → String → String
  | [], last => last
  | (literal, hole) :: rest, last => literal ++ hole.text ++ fill rest last

/-- Whether no identifier goes on at the start of a text with holes. -/
def startsApart : List (String × Hole) → String → Bool
  | [], last => isApart last.toList.head?
  | (literal, _) :: _, _ => literal.toList.head?.any fun c => !isIdentifierPart c

/-- Whether there is no room for a local variable but in the holes. -/
def fits : List (String × Hole) → String → Bool
  | [], last => hasNoLocal last
  | (literal, hole) :: rest, last =>
      hasNoLocal literal && hole.mayFollow literal.toList.getLast? && startsApart rest last &&
        fits rest last

section Holes

variable {previous : Option Char} {name last : String} {holes : List (String × Hole)}

theorem isApart_of_startsApart (apart : startsApart holes last = true) :
    isApart (fill holes last).toList.head? = true := by
  cases holes with
  | nil => exact apart
  | cons first rest =>
    obtain ⟨literal, hole⟩ := first
    obtain ⟨c, head, outside⟩ := Option.any_eq_true _ _ |>.mp apart
    rw [fill, String.toList_append, String.toList_append, List.append_assoc, List.head?_append,
      head]
    exact outside

/-- A hole is allowed only where no identifier can run into it. -/
theorem Hole.isApart_of_mayFollow {hole : Hole} {before : Option Char}
    (follows : hole.mayFollow before = true) : isApart before = true := by
  cases hole with
  | selected name word =>
    obtain rfl := beq_iff_eq.mp follows
    decide
  | localName name word => exact follows
  | given text => exact follows

/-- A local variable in a text with holes stands in one of the holes. -/
theorem StandsBehind.exists_hole (isLocal : IsLocal name) (fit : fits holes last = true)
    (stands : StandsBehind previous name.toList (fill holes last).toList) :
    ∃ entry ∈ holes, entry.2.Admits name := by
  have inside := isIdentifierPart_of_isWord isLocal.isWord
  induction holes generalizing previous with
  | nil => exact absurd stands (not_standsBehind_of_hasNoLocal isLocal fit)
  | cons first rest ih =>
    obtain ⟨literal, hole⟩ := first
    simp only [fits, Bool.and_eq_true] at fit
    obtain ⟨⟨⟨none, follows⟩, apart⟩, fit⟩ := fit
    rw [fill, String.toList_append, String.toList_append, List.append_assoc] at stands
    rcases stands.of_append inside (.inl (Hole.isApart_of_mayFollow follows)) with stands | stands
    · exact absurd stands (not_standsBehind_of_hasNoLocal isLocal none)
    rcases stands.of_append inside (.inr (isApart_of_startsApart apart)) with stands | stands
    · refine ⟨(literal, hole), List.mem_cons_self .., ?_⟩
      cases hole with
      | selected other word =>
        have point := beq_iff_eq.mp follows
        have starts := (stands.eq_of_inside (isIdentifierPart_of_isWord word)).2
        rw [point] at starts
        cases starts
      | localName other word =>
        exact String.toList_inj.mp (stands.eq_of_inside (isIdentifierPart_of_isWord word)).1
      | given text => exact stands.alone
    · obtain ⟨entry, member, admits⟩ := ih fit stands
      exact ⟨entry, List.mem_cons_of_mem _ member, admits⟩

end Holes

/-! ## Variables of a text -/

/-- Whether the local variables that stand in a text are among some names, except for those that one
of some texts given has. -/
def LocalsAmong (names given : List String) (text : String) : Prop :=
  ∀ name, IsLocal name → Stands name text → name ∈ names ∨ ∃ own ∈ given, Stands name own

/-- Whether the same holds of what is in a hole. -/
def Hole.LocalsAmong (names given : List String) : Hole → Prop
  | selected _ _ => True
  | localName name _ => name ∈ names
  | .given text => Source.LocalsAmong names given text

section Texts

variable {names given : List String} {text : String}

theorem localsAmong_of_mem (member : text ∈ given) : LocalsAmong names given text :=
  fun _ _ stands => .inr ⟨text, member, stands⟩

/-- More names and more texts leave the exception wider. -/
theorem LocalsAmong.mono {more others : List String} (among : LocalsAmong names given text)
    (sub : ∀ name ∈ names, name ∈ more) (subGiven : ∀ own ∈ given, own ∈ others) :
    LocalsAmong more others text := by
  intro name isLocal stands
  refine (among name isLocal stands).imp (sub name) ?_
  rintro ⟨own, member, inside⟩
  exact ⟨own, subGiven own member, inside⟩

/-- The variables of a text with holes are in the holes. -/
theorem localsAmong_fill {holes : List (String × Hole)} {last : String}
    (fit : fits holes last = true)
    (each : holes.Forall fun entry => entry.2.LocalsAmong names given) :
    LocalsAmong names given (fill holes last) := by
  intro name isLocal stands
  obtain ⟨⟨literal, hole⟩, member, admits⟩ := StandsBehind.exists_hole isLocal fit stands
  have among := List.forall_iff_forall_mem.mp each _ member
  cases hole with
  | selected other word => cases admits
  | localName other word =>
    obtain rfl : other = name := admits
    exact .inl among
  | given text => exact among name isLocal admits

theorem localsAmong_literal (none : hasNoLocal text = true) : LocalsAmong names given text :=
  fun _ isLocal stands => absurd stands (not_standsBehind_of_hasNoLocal isLocal none)

/-- A line break belongs to no identifier, so no variable stands across it. -/
theorem localsAmong_intercalate {texts : List String}
    (each : ∀ text ∈ texts, LocalsAmong names given text) :
    LocalsAmong names given ("\n".intercalate texts) := by
  induction texts with
  | nil => exact localsAmong_literal rfl
  | cons first rest ih =>
    obtain ⟨ofFirst, ofRest⟩ := List.forall_mem_cons.mp each
    cases rest with
    | nil => rwa [String.intercalate_singleton]
    | cons second rest =>
      have split : "\n".intercalate (first :: second :: rest) =
          fill [("", .given first), ("\n", .given ("\n".intercalate (second :: rest)))] "" := by
        simp only [fill, Hole.text, String.intercalate_cons_cons, String.empty_append,
          String.append_empty, String.append_assoc]
      rw [split]
      exact localsAmong_fill rfl ⟨ofFirst, ih ofRest⟩

private theorem localsAmong_entries {entries : List String}
    (each : ∀ entry ∈ entries, LocalsAmong names given entry) :
    LocalsAmong names given (String.join (entries.map ("\n" ++ ·))) := by
  have filled : String.join (entries.map ("\n" ++ ·)) =
      fill (entries.map fun entry => ("\n", .given entry)) "" := by
    clear each
    induction entries with
    | nil => rfl
    | cons first rest ih => rw [List.map_cons, String.join_cons, ih]; rfl
  have fit : fits (entries.map fun entry => ("\n", .given entry)) "" = true := by
    clear each filled
    induction entries with
    | nil => rfl
    | cons first rest ih => cases rest with
      | nil => rfl
      | cons second rest => exact ih
  rw [filled]
  refine localsAmong_fill fit (List.forall_iff_forall_mem.mpr fun hole member => ?_)
  obtain ⟨entry, listed, rfl⟩ := List.mem_map.mp member
  exact each entry listed

/-- A literal has the variables of its type and its entries. -/
theorem localsAmong_composite {type : String} {entries : List String}
    (ofType : LocalsAmong names given type)
    (each : ∀ entry ∈ entries, LocalsAmong names given entry) :
    LocalsAmong names given (composite type entries) := by
  have filled : composite type entries =
      fill [("", .given type), (openBrace, .given (String.join (entries.map ("\n" ++ ·))))]
        ("\n" ++ closeBrace) := by
    simp only [composite, fill, Hole.text, String.empty_append, String.append_assoc]
  rw [filled]
  exact localsAmong_fill rfl ⟨ofType, localsAmong_entries each⟩

end Texts

end ProviderCodegen.Source
