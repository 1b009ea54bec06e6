import Mathlib.Data.String.Basic
import Zradar.Lib.SortedMap

/-! JSON trees and their compact text, which determines the tree up to the digits of its fractions. -/

namespace Zradar

/-- A JSON document, with numbers that have a fraction or an exponent kept as their text. -/
inductive Json where
  | null
  | bool (value : Bool)
  | int (value : Int)
  | float (text : String)
  | str (value : String)
  | arr (items : List Json)
  | obj (entries : List (String × Json))

namespace Json

/-- Induction over a tree, with the claim for everything inside an array or an object. -/
@[elab_as_elim]
theorem induct {motive : Json → Prop} (null : motive .null) (bool : ∀ value, motive (.bool value))
    (int : ∀ value, motive (.int value)) (float : ∀ text, motive (.float text))
    (str : ∀ value, motive (.str value))
    (arr : ∀ items, (∀ item ∈ items, motive item) → motive (.arr items))
    (obj : ∀ entries : List (String × Json), (∀ entry ∈ entries, motive entry.2) →
      motive (.obj entries))
    (tree : Json) : motive tree :=
  tree.rec null bool int float str arr obj
    (fun _ member => nomatch member)
    (fun _ _ first rest => List.forall_mem_cons.mpr ⟨first, rest⟩)
    (fun _ member => nomatch member)
    (fun _ _ first rest => List.forall_mem_cons.mpr ⟨first, rest⟩)
    (fun _ _ own => own)

end Json

/-- The mark at both ends of a string. -/
def quoteMark : Char := Char.ofNat 34

/-- The mark in front of what stands for another character. -/
def backslash : Char := Char.ofNat 92

def openBrace : Char := Char.ofNat 123

def closeBrace : Char := Char.ofNat 125

/-- How a character stands in a string. -/
def escape (char : Char) : List Char :=
  if char = quoteMark ∨ char = backslash then [backslash, char]
  else if char.toNat = 8 then [backslash, 'b']
  else if char.toNat = 9 then [backslash, 't']
  else if char.toNat = 10 then [backslash, 'n']
  else if char.toNat = 12 then [backslash, 'f']
  else if char.toNat = 13 then [backslash, 'r']
  else if char.toNat < 32 then
    [backslash, 'u', '0', '0', Nat.digitChar (char.toNat / 16), Nat.digitChar (char.toNat % 16)]
  else [char]

/-- The text of a string. -/
def quoted (text : String) : List Char := quoteMark :: text.toList.flatMap escape ++ [quoteMark]

/-- Some texts with commas between them, where the first has its own lead. -/
def joined (lead : List Char) : List (List Char) → List Char
  | [] => []
  | item :: items => lead ++ item ++ joined [','] items

/-- The text of an array of items. -/
def arrayChars (items : List (List Char)) : List Char := '[' :: joined [] items ++ [']']

/-- The text of an entry of an object. -/
def entryChars (entry : String × List Char) : List Char := quoted entry.1 ++ ':' :: entry.2

/-- The text of an object with some entries. -/
def objectChars (entries : List (String × List Char)) : List Char :=
  openBrace :: joined [] (entries.map entryChars) ++ [closeBrace]

namespace Json

mutual

/-- The compact text of a tree. -/
def chars : Json → List Char
  | .null => "null".toList
  | .bool value => (if value then "true" else "false").toList
  | .int value => value.repr.toList
  | .float text => text.toList
  | .str value => quoted value
  | .arr items => arrayChars (charsOfItems items)
  | .obj entries => objectChars (charsOfEntries entries)

def charsOfItems : List Json → List (List Char)
  | [] => []
  | item :: items => item.chars :: charsOfItems items

def charsOfEntries : List (String × Json) → List (String × List Char)
  | [] => []
  | (key, value) :: entries => (key, value.chars) :: charsOfEntries entries

end

theorem charsOfItems_eq (items : List Json) : charsOfItems items = items.map chars := by
  induction items with
  | nil => rfl
  | cons item items ih => rw [charsOfItems, ih, List.map_cons]

theorem charsOfEntries_eq (entries : List (String × Json)) :
    charsOfEntries entries = entries.map fun entry => (entry.1, entry.2.chars) := by
  induction entries with
  | nil => rfl
  | cons entry entries ih =>
    obtain ⟨key, value⟩ := entry
    rw [charsOfEntries, ih, List.map_cons]

/-- The text of a tree. -/
def text (tree : Json) : String := .ofList tree.chars

/-- Whether a character can stand in a number. -/
def isNumberChar (char : Char) : Bool :=
  char.isDigit || char = '-' || char = '+' || char = '.' || char = 'e' || char = 'E'

/-- The text of a number that has a fraction or an exponent. -/
structure IsFraction (text : String) : Prop where
  number : ∀ char ∈ text.toList, isNumberChar char = true
  marked : ∃ char ∈ text.toList, char.isDigit = false ∧ char ≠ '-'

mutual

/-- Every object has ascending keys, and every fraction is written as one. -/
def Canonical : Json → Prop
  | .float text => IsFraction text
  | .arr items => CanonicalItems items
  | .obj entries => Ascending entries ∧ CanonicalEntries entries
  | .null | .bool _ | .int _ | .str _ => True

def CanonicalItems : List Json → Prop
  | [] => True
  | item :: items => item.Canonical ∧ CanonicalItems items

def CanonicalEntries : List (String × Json) → Prop
  | [] => True
  | (_, value) :: entries => value.Canonical ∧ CanonicalEntries entries

end

mutual

/-- A tree without the digits of its fractions. -/
def outline : Json → Json
  | .null => .null
  | .bool value => .bool value
  | .int value => .int value
  | .float _ => .float ""
  | .str value => .str value
  | .arr items => .arr (outlineItems items)
  | .obj entries => .obj (outlineEntries entries)

def outlineItems : List Json → List Json
  | [] => []
  | item :: items => item.outline :: outlineItems items

def outlineEntries : List (String × Json) → List (String × Json)
  | [] => []
  | (key, value) :: entries => (key, value.outline) :: outlineEntries entries

end

theorem canonicalItems_iff (items : List Json) :
    CanonicalItems items ↔ ∀ item ∈ items, item.Canonical := by
  induction items with
  | nil => simp [CanonicalItems]
  | cons item items ih => simp [CanonicalItems, ih]

theorem canonicalEntries_iff (entries : List (String × Json)) :
    CanonicalEntries entries ↔ ∀ entry ∈ entries, entry.2.Canonical := by
  induction entries with
  | nil => simp [CanonicalEntries]
  | cons entry entries ih => simp [CanonicalEntries, ih]

theorem outlineItems_eq (items : List Json) : outlineItems items = items.map outline := by
  induction items with
  | nil => rfl
  | cons item items ih => rw [outlineItems, ih, List.map_cons]

theorem outlineEntries_eq (entries : List (String × Json)) :
    outlineEntries entries = entries.map fun entry => (entry.1, entry.2.outline) := by
  induction entries with
  | nil => rfl
  | cons entry entries ih =>
    obtain ⟨key, value⟩ := entry
    rw [outlineEntries, ih, List.map_cons]

/-- Objects with one outline have values with one outline. -/
theorem outline_valueOf {first second : List (String × Json)}
    (same : (obj first).outline = (obj second).outline) (key : String) :
    (valueOf first key).map outline = (valueOf second key).map outline := by
  rw [outline, outline, outlineEntries_eq, outlineEntries_eq] at same
  rw [← valueOf_mapEntries (fun _ => outline), ← valueOf_mapEntries (fun _ => outline),
    Json.obj.inj same]

end Json

section

/-- The value of a hexadecimal digit. -/
def hexValue (char : Char) : Nat :=
  ((List.range 16).find? fun value => Nat.digitChar value = char).getD 0

theorem hexValue_digitChar {value : Nat} (small : value < 16) :
    hexValue (Nat.digitChar value) = value := by
  rcases value with _ | _ | _ | _ | _ | _ | _ | _ | _ | _ | _ | _ | _ | _ | _ | _ | value
  all_goals first | rfl | omega

/-- The first character of a string, from its text. -/
def unescape : List Char → Option (Char × List Char)
  | [] => none
  | first :: rest =>
    if first = backslash then
      match rest with
      | [] => none
      | second :: rest =>
        if second = 'b' then some (Char.ofNat 8, rest)
        else if second = 't' then some (Char.ofNat 9, rest)
        else if second = 'n' then some (Char.ofNat 10, rest)
        else if second = 'f' then some (Char.ofNat 12, rest)
        else if second = 'r' then some (Char.ofNat 13, rest)
        else if second = 'u' then
          match rest with
          | _ :: _ :: high :: low :: rest =>
            some (Char.ofNat (16 * hexValue high + hexValue low), rest)
          | _ => none
        else some (second, rest)
    else some (first, rest)

/-- A character comes back from how it stands in a string. -/
theorem unescape_escape (char : Char) (rest : List Char) :
    unescape (escape char ++ rest) = some (char, rest) := by
  -- Each character is determined by its number, which the escape spells out.
  have back : Char.ofNat char.toNat = char := Char.ofNat_toNat char
  unfold escape
  split_ifs with marked b t n f r control
  · rcases marked with rfl | rfl
    · rfl
    · rfl
  · rw [b] at back
    rw [← back]
    rfl
  · rw [t] at back
    rw [← back]
    rfl
  · rw [n] at back
    rw [← back]
    rfl
  · rw [f] at back
    rw [← back]
    rfl
  · rw [r] at back
    rw [← back]
    rfl
  -- A control character is written as two hexadecimal digits.
  · have high : char.toNat / 16 < 16 := by omega
    have low : char.toNat % 16 < 16 := by omega
    have whole : 16 * (char.toNat / 16) + char.toNat % 16 = char.toNat := by omega
    show some (Char.ofNat (16 * hexValue (Nat.digitChar (char.toNat / 16)) +
      hexValue (Nat.digitChar (char.toNat % 16))), rest) = some (char, rest)
    rw [hexValue_digitChar high, hexValue_digitChar low, whole, back]
  · have plain : char ≠ backslash := fun same => marked (.inr same)
    simp [unescape, plain]

/-- No character stands in a string as the mark that ends it. -/
theorem escape_head (char : Char) :
    ∃ first others, escape char = first :: others ∧ first ≠ quoteMark := by
  -- Every escape starts with a backslash, and any other character stands for itself.
  have different : backslash ≠ quoteMark := by decide
  unfold escape
  split_ifs with marked
  all_goals first
    | exact ⟨_, _, rfl, different⟩
    | exact ⟨_, _, rfl, fun same => marked (.inl same)⟩

/-- What stands in a string, up to the mark that ends it, determines its characters. -/
theorem escaped_unique {chars others rest after : List Char}
    (same : chars.flatMap escape ++ quoteMark :: rest = others.flatMap escape ++ quoteMark :: after) :
    chars = others ∧ rest = after := by
  -- The first escape of either text decodes to one character, so the texts agree step by step.
  induction chars generalizing others with
  | nil =>
    cases others with
    | nil => exact ⟨rfl, (List.cons.inj same).2⟩
    | cons other others =>
      -- No escape begins with the quote that ends the other text.
      obtain ⟨first, tail, head, different⟩ := escape_head other
      rw [List.flatMap_cons, head] at same
      exact absurd (List.cons.inj same).1.symm different
  | cons char chars ih =>
    cases others with
    | nil =>
      obtain ⟨first, tail, head, different⟩ := escape_head char
      rw [List.flatMap_cons, head] at same
      exact absurd (List.cons.inj same).1 different
    | cons other others =>
      rw [List.flatMap_cons, List.flatMap_cons, List.append_assoc, List.append_assoc] at same
      have decoded := congrArg unescape same
      rw [unescape_escape, unescape_escape, Option.some.injEq, Prod.mk.injEq] at decoded
      obtain ⟨rfl, left⟩ := decoded
      obtain ⟨rfl, equal⟩ := ih left
      exact ⟨rfl, equal⟩

theorem quoted_unique {first second : String} {rest after : List Char}
    (same : quoted first ++ rest = quoted second ++ after) : first = second ∧ rest = after := by
  simp only [quoted, List.cons_append, List.append_assoc, List.nil_append, List.cons.injEq,
    true_and] at same
  obtain ⟨equal, left⟩ := escaped_unique same
  exact ⟨String.toList_inj.mp equal, left⟩

/-- What can follow a value: nothing, a comma, or the end of an array or an object. -/
def Follows (rest : List Char) : Prop :=
  ∀ char ∈ rest.head?, char = ',' ∨ char = ']' ∨ char = closeBrace

/-- The text of a value, in front of what can follow it, determines what is kept of the value. -/
def Unique {α β : Type} (write : α → List Char) (keep : α → β) (first second : α) : Prop :=
  ∀ rest after, Follows rest → Follows after → write first ++ rest = write second ++ after →
    keep first = keep second ∧ rest = after

/-- A text that begins with none of the marks that follow a value. -/
def Opens (text : List Char) : Prop :=
  ∃ first others, text = first :: others ∧ first ≠ ',' ∧ first ≠ ']' ∧ first ≠ closeBrace

/-- The mark that ends an array or an object. -/
def Closes (close : Char) : Prop := close = ']' ∨ close = closeBrace

section

variable {α β : Type} {write : α → List Char} {keep : α → β} {close : Char} (closes : Closes close)
include closes

/-- Where a value begins, a list does not end. -/
theorem joined_cons_ne {value : α} (opens : Opens (write value)) {lead rest after : List Char}
    (leads : lead = [] ∨ lead = [',']) : lead ++ (write value ++ rest) ≠ close :: after := by
  -- A value never begins with the bracket that closes the list.
  intro same
  obtain ⟨first, tail, head, comma, bracket, brace⟩ := opens
  rw [head] at same
  rcases leads with rfl | rfl
  · have start : first = close := (List.cons.inj same).1
    rcases closes with rfl | rfl
    · exact bracket start
    · exact brace start
  · have start : ',' = close := (List.cons.inj same).1
    rcases closes with rfl | rfl
    · exact absurd start (by decide)
    · exact absurd start (by decide)

/-- What comes after a value of a list can follow it. -/
theorem follows_joined (values : List (List Char)) (rest : List Char) :
    Follows (joined [','] values ++ close :: rest) := by
  -- After a value comes a comma or the closing bracket.
  intro char head
  cases values with
  | nil =>
    have start : close = char := by simpa [joined] using head
    rcases closes with rfl | rfl
    · exact .inr (.inl start.symm)
    · exact .inr (.inr start.symm)
  | cons value values =>
    have start : ',' = char := by simpa [joined] using head
    exact .inl start.symm

/-- The text of some values determines what is kept of each of them. -/
theorem joined_unique {firsts seconds : List α}
    (opensFirsts : ∀ value ∈ firsts, Opens (write value))
    (opensSeconds : ∀ value ∈ seconds, Opens (write value))
    (unique : ∀ first ∈ firsts, ∀ second ∈ seconds, Unique write keep first second)
    {lead rest after : List Char} (leads : lead = [] ∨ lead = [','])
    (same : joined lead (firsts.map write) ++ close :: rest =
      joined lead (seconds.map write) ++ close :: after) :
    firsts.map keep = seconds.map keep ∧ rest = after := by
  induction firsts generalizing seconds lead with
  | nil =>
    cases seconds with
    | nil => exact ⟨rfl, (List.cons.inj same).2⟩
    | cons second seconds =>
      refine absurd same.symm ?_
      simp only [List.map_cons, joined, List.append_assoc]
      exact joined_cons_ne closes (opensSeconds second List.mem_cons_self) leads
  | cons first firsts ih =>
    cases seconds with
    | nil =>
      refine absurd same ?_
      simp only [List.map_cons, joined, List.append_assoc]
      exact joined_cons_ne closes (opensFirsts first List.mem_cons_self) leads
    | cons second seconds =>
      -- The first values are determined, and so is what is left of both texts.
      simp only [List.map_cons, joined, List.append_assoc, List.append_cancel_left_eq] at same
      obtain ⟨head, left⟩ := unique first List.mem_cons_self second List.mem_cons_self _ _
        (follows_joined closes _ _) (follows_joined closes _ _) same
      obtain ⟨tail, equal⟩ := ih
        (fun value member => opensFirsts value (List.mem_cons_of_mem _ member))
        (fun value member => opensSeconds value (List.mem_cons_of_mem _ member))
        (fun one member two other =>
          unique one (List.mem_cons_of_mem _ member) two (List.mem_cons_of_mem _ other))
        (.inr rfl) left
      exact ⟨by rw [List.map_cons, List.map_cons, head, tail], equal⟩

end

/-- Two runs of characters of one kind, each in front of another kind, are the same run. -/
theorem run_unique {kind : Char → Bool} {first second rest after : List Char}
    (allFirst : ∀ char ∈ first, kind char = true) (allSecond : ∀ char ∈ second, kind char = true)
    (endsFirst : ∀ char ∈ rest.head?, kind char = false)
    (endsSecond : ∀ char ∈ after.head?, kind char = false)
    (same : first ++ rest = second ++ after) : first = second ∧ rest = after := by
  -- The run is what can be taken from the front as long as the characters are of its kind.
  have taken : ∀ {run others : List Char}, (∀ char ∈ run, kind char = true) →
      (∀ char ∈ others.head?, kind char = false) → (run ++ others).takeWhile kind = run := by
    intro run others all ends
    rw [List.takeWhile_append_of_pos all]
    cases others with
    | nil => simp
    | cons char others =>
      rw [List.takeWhile_cons_of_neg (by simp [ends char (by simp)]), List.append_nil]
  have equal := congrArg (List.takeWhile kind) same
  rw [taken allFirst endsFirst, taken allSecond endsSecond] at equal
  subst equal
  exact ⟨rfl, List.append_cancel_left same⟩

end

namespace Json

/-- The digits of a number determine it. -/
theorem toDigits_injective : Function.Injective (Nat.toDigits 10) := by
  intro first second same
  have decoded := congrArg (fun digits => Nat.ofDigitChars 10 digits 0) same
  simpa [Nat.ofDigitChars_ten_toDigits] using decoded

theorem repr_toList (value : Int) :
    value.repr.toList =
      if 0 ≤ value then Nat.toDigits 10 value.toNat else '-' :: Nat.toDigits 10 (-value).toNat := by
  rw [Int.repr_eq_if]
  split
  · rw [Nat.toList_repr]
  · rw [String.toList_append, Nat.toList_repr]
    rfl

/-- Only digits and a minus stand in a whole number. -/
theorem mem_repr {value : Int} {char : Char} (member : char ∈ value.repr.toList) :
    char.isDigit = true ∨ char = '-' := by
  -- A negative number is a minus sign and the digits of its absolute value.
  rw [repr_toList] at member
  split at member
  · exact .inl (Nat.isDigit_of_mem_toDigits (by decide) (by decide) member)
  · rcases List.mem_cons.mp member with same | digit
    · exact .inr same
    · exact .inl (Nat.isDigit_of_mem_toDigits (by decide) (by decide) digit)

theorem repr_injective {first second : Int}
    (same : first.repr.toList = second.repr.toList) : first = second := by
  -- The sign is no digit, so it tells the negative numbers from the others.
  have signed : ∀ value : Nat, '-' ∉ Nat.toDigits 10 value := by
    intro value member
    exact absurd (Nat.isDigit_of_mem_toDigits (by decide) (by decide) member) (by decide)
  rw [repr_toList, repr_toList] at same
  split at same <;> split at same
  · have digits := toDigits_injective same
    omega
  · exact absurd (same ▸ List.mem_cons_self) (signed _)
  · exact absurd (same ▸ List.mem_cons_self) (signed _)
  · have digits := toDigits_injective (List.cons.inj same).2
    omega

/-- What the first character of a text says about the tree. -/
def leadKind (char : Char) : Nat :=
  if isNumberChar char then 0
  else if char = 'n' then 1
  else if char = 't' ∨ char = 'f' then 2
  else if char = quoteMark then 3
  else if char = '[' then 4
  else if char = openBrace then 5
  else 6

/-- The kind of a tree, where all numbers are of one kind. -/
def kind : Json → Nat
  | .int _ | .float _ => 0
  | .null => 1
  | .bool _ => 2
  | .str _ => 3
  | .arr _ => 4
  | .obj _ => 5

theorem number_chars (tree : Json) (canonical : tree.Canonical) (number : tree.kind = 0) :
    tree.chars ≠ [] ∧ ∀ char ∈ tree.chars, isNumberChar char = true := by
  -- Both kinds of numbers are written without a delimiter in them.
  cases tree with
  | int value =>
    rw [chars]
    refine ⟨?_, ?_⟩
    · rw [repr_toList]
      split
      · exact Nat.toDigits_ne_nil
      · simp
    · intro char member
      rcases mem_repr member with digit | rfl
      · simp [isNumberChar, digit]
      · decide
  | float text =>
    rw [Canonical] at canonical
    rw [chars]
    refine ⟨?_, canonical.number⟩
    obtain ⟨char, member, _⟩ := canonical.marked
    exact List.ne_nil_of_mem member
  | null | bool _ | str _ | arr _ | obj _ => exact absurd number (by simp [kind])

/-- The first character of a text shows the kind of the tree. -/
theorem chars_lead {tree : Json} (canonical : tree.Canonical) :
    ∃ first others, tree.chars = first :: others ∧ leadKind first = tree.kind := by
  -- The first character of a text already tells the kind of the tree.
  cases tree with
  | int value =>
    obtain ⟨some, number⟩ := number_chars (.int value) canonical rfl
    obtain ⟨first, others, same⟩ := List.exists_cons_of_ne_nil some
    refine ⟨first, others, same, ?_⟩
    simp [leadKind, kind, number first (by simp [same])]
  | float text =>
    obtain ⟨some, number⟩ := number_chars (.float text) canonical rfl
    obtain ⟨first, others, same⟩ := List.exists_cons_of_ne_nil some
    refine ⟨first, others, same, ?_⟩
    simp [leadKind, kind, number first (by simp [same])]
  | bool value => cases value <;> exact ⟨_, _, rfl, by decide⟩
  | null => exact ⟨_, _, rfl, by decide⟩
  | str value => exact ⟨quoteMark, _, rfl, show leadKind quoteMark = 3 by decide⟩
  | arr items => exact ⟨'[', _, rfl, show leadKind '[' = 4 by decide⟩
  | obj entries => exact ⟨openBrace, _, rfl, show leadKind openBrace = 5 by decide⟩

theorem chars_opens {tree : Json} (canonical : tree.Canonical) : Opens tree.chars := by
  -- Commas and closing brackets lead no kind of tree.
  obtain ⟨first, others, same, lead⟩ := chars_lead canonical
  have known : leadKind first ≤ 5 := by
    rw [lead]
    cases tree <;> simp [kind]
  refine ⟨first, others, same, ?_, ?_, ?_⟩
  all_goals
    rintro rfl
    exact absurd known (by decide)

theorem follows_number {rest : List Char} (follows : Follows rest) :
    ∀ char ∈ rest.head?, isNumberChar char = false := by
  intro char head
  rcases follows char head with rfl | rfl | rfl
  all_goals decide

/-- A whole number is not written as a fraction. -/
theorem repr_ne_fraction {value : Int} {text : String} (fraction : IsFraction text) :
    value.repr.toList ≠ text.toList := by
  -- A fraction has a character that is neither a digit nor a minus sign.
  intro same
  obtain ⟨char, member, digit, minus⟩ := fraction.marked
  rw [← same] at member
  rcases mem_repr member with isDigit | isMinus
  · rw [isDigit] at digit
    exact absurd digit (by decide)
  · exact minus isMinus

/-- Texts that begin alike are of trees of one kind. -/
theorem kind_eq_of_chars {first second : Json} (canonical : first.Canonical)
    (other : second.Canonical) {rest after : List Char}
    (same : first.chars ++ rest = second.chars ++ after) : first.kind = second.kind := by
  obtain ⟨char, others, begins, lead⟩ := chars_lead canonical
  obtain ⟨otherChar, _, otherBegins, otherLead⟩ := chars_lead other
  rw [begins, otherBegins] at same
  rw [← lead, ← otherLead, (List.cons.inj same).1]

/-- The text of a number determines its outline. -/
theorem number_unique {first second : Json} (canonical : first.Canonical)
    (other : second.Canonical) (number : first.kind = 0) : Unique chars outline first second := by
  -- The texts are runs of number characters that end at the same place.
  intro rest after follows ends same
  have otherNumber := (kind_eq_of_chars canonical other same).symm.trans number
  obtain ⟨equal, left⟩ := run_unique (number_chars first canonical number).2
    (number_chars second other otherNumber).2 (follows_number follows) (follows_number ends) same
  refine ⟨?_, left⟩
  -- Equal texts of numbers are both whole or both fractions.
  cases first with
  | int value =>
    cases second with
    | int otherValue =>
      have same : value = otherValue := repr_injective (by simpa [chars] using equal)
      rw [same]
    | float text => exact absurd equal (by simpa [chars] using repr_ne_fraction other)
    | null | bool _ | str _ | arr _ | obj _ => exact absurd otherNumber (by simp [kind])
  | float text =>
    cases second with
    | int value => exact absurd equal.symm (by simpa [chars] using repr_ne_fraction canonical)
    | float text => rfl
    | null | bool _ | str _ | arr _ | obj _ => exact absurd otherNumber (by simp [kind])
  | null | bool _ | str _ | arr _ | obj _ => exact absurd number (by simp [kind])

/-- The text of a tree determines its outline, whatever follows it. -/
theorem chars_unique (first : Json) : first.Canonical →
    ∀ second : Json, second.Canonical → Unique chars outline first second := by
  induction first using Json.induct with
  | int value =>
    intro canonical second other
    exact number_unique canonical other rfl
  | float text =>
    intro canonical second other
    exact number_unique canonical other rfl
  | null =>
    intro canonical second other rest after _ _ same
    have kinds := kind_eq_of_chars canonical other same
    cases second with
    | null => exact ⟨rfl, List.append_cancel_left same⟩
    | bool _ | int _ | float _ | str _ | arr _ | obj _ => exact absurd kinds (by simp [kind])
  | bool value =>
    intro canonical second other rest after _ _ same
    have kinds := kind_eq_of_chars canonical other same
    cases second with
    | bool otherValue =>
      -- The two texts differ in their first characters.
      cases value <;> cases otherValue
      · exact ⟨rfl, List.append_cancel_left same⟩
      · exact absurd (List.cons.inj same).1 (by decide)
      · exact absurd (List.cons.inj same).1 (by decide)
      · exact ⟨rfl, List.append_cancel_left same⟩
    | null | int _ | float _ | str _ | arr _ | obj _ => exact absurd kinds (by simp [kind])
  | str value =>
    intro canonical second other rest after _ _ same
    have kinds := kind_eq_of_chars canonical other same
    cases second with
    | str otherValue =>
      obtain ⟨rfl, left⟩ := quoted_unique (by simpa [chars] using same)
      exact ⟨rfl, left⟩
    | null | bool _ | int _ | float _ | arr _ | obj _ => exact absurd kinds (by simp [kind])
  | arr items ih =>
    intro canonical second other rest after _ _ same
    have kinds := kind_eq_of_chars canonical other same
    cases second with
    | arr others =>
      rw [Canonical, canonicalItems_iff] at canonical other
      simp only [chars, charsOfItems_eq, arrayChars, List.cons_append, List.append_assoc,
        List.nil_append, List.cons.injEq, true_and] at same
      obtain ⟨equal, left⟩ := joined_unique (.inl rfl)
        (fun value member => chars_opens (canonical value member))
        (fun value member => chars_opens (other value member))
        (fun one member two there =>
          ih one member (canonical one member) two (other two there))
        (.inl rfl) same
      exact ⟨by rw [outline, outline, outlineItems_eq, outlineItems_eq, equal], left⟩
    | null | bool _ | int _ | float _ | str _ | obj _ => exact absurd kinds (by simp [kind])
  | obj entries ih =>
    intro canonical second other rest after _ _ same
    have kinds := kind_eq_of_chars canonical other same
    cases second with
    | obj others =>
      rw [Canonical, canonicalEntries_iff] at canonical other
      simp only [chars, charsOfEntries_eq, objectChars, List.map_map, List.cons_append,
        List.append_assoc, List.nil_append, List.cons.injEq, true_and] at same
      -- The key of an entry is determined first, and then the value behind the colon.
      have each : ∀ one ∈ entries, ∀ two ∈ others,
          Unique (entryChars ∘ fun entry : String × Json => (entry.1, entry.2.chars))
            (fun entry => (entry.1, entry.2.outline)) one two := by
        intro one member two there rest after follows ends same
        simp only [Function.comp_apply, entryChars, List.append_assoc] at same
        obtain ⟨key, behind⟩ := quoted_unique same
        obtain ⟨value, left⟩ := ih one member (canonical.2 one member) two.2
          (other.2 two there) rest after follows ends (List.cons.inj behind).2
        exact ⟨Prod.ext key value, left⟩
      obtain ⟨equal, left⟩ := joined_unique (.inr rfl)
        (fun entry _ => ⟨quoteMark, _, rfl, by decide, by decide, by decide⟩)
        (fun entry _ => ⟨quoteMark, _, rfl, by decide, by decide, by decide⟩) each (.inl rfl) same
      exact ⟨by rw [outline, outline, outlineEntries_eq, outlineEntries_eq, equal], left⟩
    | null | bool _ | int _ | float _ | str _ | arr _ => exact absurd kinds (by simp [kind])

/-- Trees with one text have one outline. -/
theorem outline_eq_of_text {first second : Json} (canonical : first.Canonical)
    (other : second.Canonical) (same : first.text = second.text) :
    first.outline = second.outline := by
  have chars : first.chars = second.chars := String.ofList_injective same
  have follows : Follows [] := by simp [Follows]
  exact (chars_unique first canonical second other [] [] follows follows (by rw [chars])).1

end Json

end Zradar
