import Mathlib.Data.List.Basic
import ProviderCodegen.Text.Words

/-! # Characters of converted names

Case conversions drop what separates words, and the case maps lead from letters and digits to
characters that can stand in a Go name again (`isNameChar`), so a converted name is one word
wherever it is written. It never starts with a small letter of ASCII (`isHeadChar`), which keeps it
apart from names that are not exported.
-/

namespace ProviderCodegen.Text

/-- An ASCII letter or digit, or a character beyond ASCII. -/
def isNameChar (c : Char) : Bool :=
  c.isAlphanum || 0x80 ≤ c.toNat

/-- A name character other than the small letters of ASCII. -/
def isHeadChar (c : Char) : Bool :=
  isNameChar c && !c.isLower

/-- Whether a text consists of name characters. -/
def isWord (text : String) : Bool :=
  text.toList.all isNameChar

variable {c : Char} {text : String}

@[simp] theorem isWord_append (first second : String) :
    isWord (first ++ second) = (isWord first && isWord second) := by
  rw [isWord, String.toList_append, List.all_append]
  rfl

/-- A word has no other characters. -/
theorem notMem_of_isWord (word : isWord text = true) (other : isNameChar c = false) :
    c ∉ text.toList := by
  intro member
  have named := List.all_eq_true.mp word c member
  rw [other] at named
  cases named

/-- There is one way to cut a text into a word and what starts with a character of no word. -/
theorem eq_of_word_append {other : String} {d : Char} {rest others : List Char}
    (word : isWord text = true) (otherWord : isWord other = true) (outside : isNameChar c = false)
    (otherOutside : isNameChar d = false)
    (same : text.toList ++ c :: rest = other.toList ++ d :: others) :
    text = other ∧ c = d ∧ rest = others := by
  have read {word : String} (isWord : isWord word = true) {next : Char}
      (outside : isNameChar next = false) (rest : List Char) :
      (word.toList ++ next :: rest).takeWhile isNameChar = word.toList := by
    rw [List.takeWhile_append_of_pos (List.all_eq_true.mp isWord), List.takeWhile_cons_of_neg,
      List.append_nil]
    rw [outside]
    exact Bool.false_ne_true
  have words : text.toList = other.toList := by
    rw [← read word outside rest, same, read otherWord otherOutside]
  rw [words] at same
  obtain ⟨nextSame, restSame⟩ := List.cons.inj (List.append_cancel_left same)
  exact ⟨String.toList_inj.mp words, nextSame, restSame⟩

theorem isNameChar_of_isAlphanumeric (holds : isAlphanumeric c = true) : isNameChar c = true := by
  simp only [isAlphanumeric, Bool.or_eq_true, Bool.and_eq_true] at holds
  simp only [isNameChar, Bool.or_eq_true]
  exact holds.imp id And.left

theorem isNameChar_of_isHeadChar (holds : isHeadChar c = true) : isNameChar c = true :=
  ((Bool.and_eq_true _ _).mp holds).1

/-- Beyond ASCII every character may stand at the start of a name. -/
theorem isHeadChar_of_beyond (beyond : 0x80 ≤ c.toNat) : isHeadChar c = true := by
  have large : ¬ c.isLower = true := by
    intro lower
    obtain ⟨-, small⟩ := (Bool.and_eq_true _ _).mp lower
    have above : 'z'.val < c.val := Nat.lt_of_lt_of_le (by decide) beyond
    exact absurd (of_decide_eq_true small) (UInt32.not_le.mpr above)
  simp only [isHeadChar, isNameChar, Bool.and_eq_true, Bool.or_eq_true, decide_eq_true_eq,
    Bool.not_eq_true']
  exact ⟨.inr beyond, Bool.eq_false_iff.mpr large⟩

/-- Texts with different ends are different. -/
theorem append_ne_append {first second : String} (apart : ¬ first.toList <:+ second.toList)
    (other : ¬ second.toList <:+ first.toList) (a b : String) : a ++ first ≠ b ++ second := by
  intro same
  have chars : a.toList ++ first.toList = b.toList ++ second.toList := by
    rw [← String.toList_append, same, String.toList_append]
  have left : first.toList <:+ b.toList ++ second.toList := chars ▸ List.suffix_append _ _
  rcases List.suffix_or_suffix_of_suffix left (List.suffix_append _ _) with inside | inside
  · exact apart inside
  · exact other inside

/-! ## Case maps -/

/-- What holds of all ASCII characters by computation holds of each. -/
private theorem ascii_induction {motive : Char → Prop}
    (all : ∀ code < 0x80, motive (Char.ofNat code)) (ascii : c.toNat < 0x80) : motive c :=
  Char.ofNat_toNat c ▸ all c.toNat ascii

/-- Whether a run, moved by a distance, consists of characters beyond ASCII. -/
def Run.staysBeyond (run : Run) (distance : Int) : Bool :=
  (0x80 ≤ run.first + distance && run.last + distance < 0xd800) ||
    (0xe000 ≤ run.first + distance && run.last + distance < 0x110000)

/-- Whether a run, moved by a distance, consists of characters beyond ASCII or is one character of a
class. -/
def Run.leadsTo (holds : Char → Bool) (entry : Run × Int) : Bool :=
  entry.1.staysBeyond entry.2 ||
    (entry.1.first == entry.1.last && holds (Char.ofNat (entry.1.first + entry.2).toNat))

private theorem toNat_ofNat {code : Nat} (valid : code.isValidChar) :
    (Char.ofNat code).toNat = code := by
  rw [Char.ofNat, dif_pos valid]
  rfl

/-- A table whose runs lead to a class keeps characters in the class. -/
theorem shiftBy_of_leadsTo {holds : Char → Bool} {shifts : List (Run × Int)}
    (beyond : ∀ c, 0x80 ≤ c.toNat → holds c = true)
    (table : shifts.all (Run.leadsTo holds) = true) (given : holds c = true) :
    holds (shiftBy shifts c) = true := by
  unfold shiftBy
  split
  case h_2 => exact given
  case h_1 run distance found =>
    have leads := List.all_eq_true.mp table _ (List.mem_of_find?_eq_some found)
    have within := List.find?_some found
    simp only [Run.contains, Bool.and_eq_true, decide_eq_true_eq] at within
    obtain ⟨⟨lower, upper⟩, -⟩ := within
    simp only [Run.leadsTo, Run.staysBeyond, Bool.or_eq_true, Bool.and_eq_true, decide_eq_true_eq,
      beq_iff_eq] at leads
    rcases leads with stays | ⟨single, leads⟩
    · refine beyond _ ?_
      rw [toNat_ofNat (by unfold Nat.isValidChar; omega)]
      omega
    · rwa [show c.toNat = run.first by omega]

/-- The characters of all expansions are name characters, and none is empty. -/
private theorem expansions_lead :
    upperExpansions.all (fun entry =>
      !entry.2.isEmpty && entry.2.all fun code => isHeadChar (Char.ofNat code)) = true := by
  decide

private theorem mem_of_lookup {entries : List (Nat × List Nat)} {code : Nat} {codes : List Nat}
    (found : entries.lookup code = some codes) : (code, codes) ∈ entries := by
  obtain ⟨before, after, rfl, -⟩ := List.lookup_eq_some_iff.mp found
  exact List.mem_append_right _ (List.mem_cons_self ..)

/-- The upper case of a name character is some characters, none of them a small letter of ASCII. -/
theorem upper_leads (given : isNameChar c = true) :
    upper c ≠ [] ∧ ∀ mapped ∈ upper c, isHeadChar mapped = true := by
  unfold upper
  split_ifs with ascii
  · refine ⟨List.cons_ne_nil _ _, fun mapped member => ?_⟩
    rw [List.mem_singleton.mp member]
    revert given
    exact ascii_induction (motive := fun c => isNameChar c = true → isHeadChar c.toUpper = true)
      (by decide) ascii
  · have beyond := isHeadChar_of_beyond (Nat.le_of_not_lt ascii)
    cases found : upperExpansions.lookup c.toNat with
    | none =>
      refine ⟨List.cons_ne_nil _ _, fun mapped member => ?_⟩
      rw [List.mem_singleton.mp member]
      exact shiftBy_of_leadsTo (fun _ => isHeadChar_of_beyond) (by decide) beyond
    | some codes =>
      have leads := List.all_eq_true.mp expansions_lead _ (mem_of_lookup found)
      simp only [Bool.and_eq_true, Bool.not_eq_true', List.isEmpty_eq_false_iff] at leads
      refine ⟨fun none => leads.1 (List.map_eq_nil_iff.mp none), fun mapped member => ?_⟩
      obtain ⟨code, listed, rfl⟩ := List.mem_map.mp member
      exact List.all_eq_true.mp leads.2 code listed

/-- A character may have several for its lower case. -/
theorem isNameChar_lower (given : isNameChar c = true) :
    ∀ mapped ∈ lower c, isNameChar mapped = true := by
  unfold lower
  split_ifs with ascii dotted
  · intro mapped member
    rw [List.mem_singleton.mp member]
    revert given
    exact ascii_induction (motive := fun c => isNameChar c = true → isNameChar c.toLower = true)
      (by decide) ascii
  · exact List.all_eq_true.mp rfl
  · intro mapped member
    rw [List.mem_singleton.mp member]
    exact shiftBy_of_leadsTo
      (fun _ beyond => isNameChar_of_isHeadChar (isHeadChar_of_beyond beyond)) (by decide) given

/-! ## Words -/

private theorem isAlphanumeric_of_stretch {rest : List Char} :
    ∀ {stretch}, (∀ c ∈ stretch, isAlphanumeric c = true) →
      ∀ word ∈ splitAtSeparators stretch rest, ∀ c ∈ word, isAlphanumeric c = true := by
  induction rest with
  | nil =>
    intro stretch holds word member c inside
    rw [List.mem_singleton.mp member] at inside
    exact holds c (List.mem_reverse.mp inside)
  | cons next rest ih =>
    intro stretch holds word member
    unfold splitAtSeparators at member
    split_ifs at member with reads
    · exact ih (List.forall_mem_cons.mpr ⟨reads, holds⟩) word member
    · rcases List.mem_cons.mp member with rfl | member
      · exact fun c inside => holds c (List.mem_reverse.mp inside)
      · exact ih (List.forall_mem_nil _) word member

/-- Splitting at changes of case puts every character into a word and adds none. -/
private theorem mem_of_splitAtCase (read : List Char) (current : LetterCase) (rest : List Char) :
    ∀ word ∈ splitAtCase read current rest, ∀ c ∈ word, c ∈ read ∨ c ∈ rest := by
  fun_induction splitAtCase read current rest with
  | case1 => exact fun _ member => absurd member List.not_mem_nil
  | case2 read _ last =>
    intro word member c inside
    rw [List.mem_singleton.mp member, List.mem_reverse, List.mem_cons] at inside
    exact inside.symm.imp_right fun same => List.mem_singleton.mpr same
  | case3 read current first next rest _ ih =>
    intro word member c inside
    rcases List.mem_cons.mp member with rfl | member
    · rw [List.mem_reverse, List.mem_cons] at inside
      exact inside.symm.imp_right fun same => List.mem_cons.mpr (.inl same)
    · rcases ih word member c inside with none | later
      · exact absurd none List.not_mem_nil
      · exact .inr (List.mem_cons_of_mem _ later)
  | case4 read current first next rest _ _ ih =>
    intro word member c inside
    rcases List.mem_cons.mp member with rfl | member
    · exact .inl (List.mem_reverse.mp inside)
    · rcases ih word member c inside with only | later
      · exact .inr (List.mem_cons.mpr (.inl (List.mem_singleton.mp only)))
      · exact .inr (List.mem_cons_of_mem _ later)
  | case5 read current first next rest _ _ ih =>
    intro word member c inside
    rcases ih word member c inside with kept | later
    · exact (List.mem_cons.mp kept).symm.imp_right fun same => List.mem_cons.mpr (.inl same)
    · exact .inr (List.mem_cons_of_mem _ later)

/-- Words consist of name characters. -/
theorem isNameChar_of_mem_words {text word : List Char} (member : word ∈ words text) (c : Char)
    (inside : c ∈ word) : isNameChar c = true := by
  obtain ⟨stretch, listed, member⟩ := List.mem_flatMap.mp member
  rcases mem_of_splitAtCase _ _ _ word member c inside with none | within
  · exact absurd none List.not_mem_nil
  · exact isNameChar_of_isAlphanumeric
      (isAlphanumeric_of_stretch (List.forall_mem_nil _) stretch listed c within)

theorem isNameChar_lowerWord {word : List Char} (given : ∀ c ∈ word, isNameChar c = true) :
    ∀ c ∈ lowerWord word, isNameChar c = true := by
  fun_induction lowerWord word with
  | case1 => exact given
  | case2 => exact List.all_eq_true.mp rfl
  | case3 only => exact isNameChar_lower (given only (List.mem_singleton_self _))
  | case4 first next rest ih =>
    intro c member
    rcases List.mem_append.mp member with here | later
    · exact isNameChar_lower (given first (List.mem_cons_self ..)) c here
    · exact ih (fun other inside => given other (List.mem_cons_of_mem _ inside)) c later

theorem isNameChar_capitalize {word : List Char} (given : ∀ c ∈ word, isNameChar c = true) :
    ∀ c ∈ capitalize word, isNameChar c = true := by
  cases word with
  | nil => exact given
  | cons first rest =>
    obtain ⟨head, tail⟩ := List.forall_mem_cons.mp given
    intro c member
    rcases List.mem_append.mp member with here | later
    · exact isNameChar_of_isHeadChar ((upper_leads head).2 c here)
    · exact isNameChar_lowerWord tail c later

/-- A converted name is a word. -/
@[simp] theorem isWord_pascalCase (name : String) : isWord (pascalCase name) = true := by
  apply List.all_eq_true.mpr
  intro c member
  rw [pascalCase, String.toList_ofList] at member
  obtain ⟨word, listed, inside⟩ := List.mem_flatMap.mp member
  exact isNameChar_capitalize (isNameChar_of_mem_words listed) c inside

/-- Like the Pascal case, from which it differs in the first word. -/
@[simp] theorem isWord_camelCase (name : String) : isWord (camelCase name) = true := by
  have named : ∀ word ∈ words name.toList, ∀ c ∈ word, isNameChar c = true :=
    fun _ listed => isNameChar_of_mem_words listed
  unfold camelCase
  cases split : words name.toList with
  | nil => rfl
  | cons first rest =>
    rw [split] at named
    obtain ⟨ofFirst, ofRest⟩ := List.forall_mem_cons.mp named
    apply List.all_eq_true.mpr
    intro c member
    rw [String.toList_ofList] at member
    rcases List.mem_append.mp member with here | later
    · exact isNameChar_lowerWord ofFirst c here
    · obtain ⟨word, listed, inside⟩ := List.mem_flatMap.mp later
      exact isNameChar_capitalize (ofRest word listed) c inside

private theorem isHeadChar_of_head? {all : List (List Char)}
    (given : ∀ word ∈ all, ∀ c ∈ word, isNameChar c = true) :
    ∀ c ∈ (all.flatMap capitalize).head?, isHeadChar c = true := by
  induction all with
  | nil => exact fun _ head => absurd head (Option.not_mem_none _)
  | cons word rest ih =>
    obtain ⟨here, later⟩ := List.forall_mem_cons.mp given
    cases word with
    | nil => exact ih later
    | cons first tail =>
      obtain ⟨nonempty, leads⟩ := upper_leads (here first (List.mem_cons_self ..))
      intro c head
      rw [List.flatMap_cons, capitalize, List.append_assoc,
        List.head?_append_of_ne_nil _ nonempty] at head
      exact leads c (List.mem_of_mem_head? head)

/-- A converted name starts with no small letter of ASCII. -/
theorem isHeadChar_pascalCase (name : String) :
    ∀ c ∈ (pascalCase name).toList.head?, isHeadChar c = true := by
  rw [pascalCase, String.toList_ofList]
  exact isHeadChar_of_head? fun _ listed => isNameChar_of_mem_words listed

end ProviderCodegen.Text
