import Mathlib
import Zradar.Lib.Fallible
import Zradar.Lib.Like
import Zradar.Lib.Separated

/-! Identifiers in SQL: the allowlist that names are checked against before they are quoted. -/

namespace Zradar.Parquet

open Computability

/-- Why a name is refused. -/
inductive IdentifierError where
  | empty
  | forbiddenSequence (name bad : String)
  | emptySegment (name : String)
  | segmentStart (name : String) (first : Char)
  | disallowedCharacter (name : String) (ch : Char)

/-- How texts and characters are written for debugging. -/
structure DebugFormat where
  text : String → String
  char : Char → String

def IdentifierError.message (debug : DebugFormat) : IdentifierError → String
  | .empty => "quote_identifier: identifier must not be empty"
  | .forbiddenSequence name bad =>
    "quote_identifier: identifier " ++ debug.text name ++ " contains forbidden sequence " ++
      debug.text bad
  | .emptySegment name => "quote_identifier: identifier " ++ debug.text name ++ " has empty segment"
  | .segmentStart name first =>
    "quote_identifier: identifier " ++ debug.text name ++
      " segment must start with [a-zA-Z], got " ++ debug.char first
  | .disallowedCharacter name ch =>
    "quote_identifier: identifier " ++ debug.text name ++ " contains disallowed character " ++
      debug.char ch

/-- The injection sequences that are refused by name. -/
def forbiddenSequences : List String := [";", "'", "--", "/*", "*/"]

section

variable (name : String)

/-- Check a character behind the first one of a segment. -/
def checkCharacter (ch : Char) : Except IdentifierError Unit :=
  if ch.isAlphanum || ch = '_' then .ok () else .error (.disallowedCharacter name ch)

/-- Check a segment between dots. -/
def checkSegment : List Char → Except IdentifierError Unit
  | [] => .error (.emptySegment name)
  | first :: chars =>
    if !first.isAlpha then .error (.segmentStart name first)
    else chars.forM (checkCharacter name)

/-- Quote a name that is an identifier. -/
def quoteIdentifier : Except IdentifierError String :=
  if name = "" then .error .empty
  else
    match forbiddenSequences.find? fun bad => HasInside name bad with
    | some bad => .error (.forbiddenSequence name bad)
    | none => do
      (name.toList.splitOn '.').forM (checkSegment name)
      .ok ("\"" ++ name ++ "\"")

end

/-- The characters of `[a-zA-Z]`. -/
def Letter (ch : Char) : Prop := 'a' ≤ ch ∧ ch ≤ 'z' ∨ 'A' ≤ ch ∧ ch ≤ 'Z'

/-- The characters of `[a-zA-Z0-9_]`. -/
def WordCharacter (ch : Char) : Prop := Letter ch ∨ '0' ≤ ch ∧ ch ≤ '9' ∨ ch = '_'

instance (ch : Char) : Decidable (Letter ch) := inferInstanceAs (Decidable (_ ∨ _))

instance (ch : Char) : Decidable (WordCharacter ch) := inferInstanceAs (Decidable (_ ∨ _ ∨ _))

/-- `[a-zA-Z][a-zA-Z0-9_]*` -/
def identifierSegment : Language Char := oneOf Letter * (oneOf WordCharacter)∗

/-- Segments with dots between them. -/
def identifiers : Language Char := separated '.' identifierSegment

theorem isAlpha_iff {ch : Char} : ch.isAlpha = true ↔ Letter ch := by
  -- The library asks for upper case first, and the grammar for lower case.
  simp only [Char.isAlpha, Char.isUpper, Char.isLower, Letter, Char.le_def, Bool.or_eq_true,
    Bool.and_eq_true, decide_eq_true_eq, ge_iff_le]
  exact or_comm

theorem isAlphanum_iff {ch : Char} : (ch.isAlphanum || ch = '_') = true ↔ WordCharacter ch := by
  -- A letter, a digit or an underscore, on both sides.
  simp only [Char.isAlphanum, Char.isDigit, WordCharacter, Char.le_def, Bool.or_eq_true,
    Bool.and_eq_true, decide_eq_true_eq, ge_iff_le, isAlpha_iff, or_assoc]

/-- A segment is a letter and word characters. -/
theorem mem_identifierSegment {text : List Char} :
    text ∈ identifierSegment ↔
      ∃ first chars, text = first :: chars ∧ Letter first ∧ ∀ ch ∈ chars, WordCharacter ch := by
  -- The product has one letter in front, and any number of word characters behind it.
  rw [identifierSegment, Language.mem_mul]
  constructor
  · rintro ⟨lead, ⟨first, letter, rfl⟩, chars, rest, rfl⟩
    exact ⟨first, chars, rfl, letter, mem_kstar_oneOf.mp rest⟩
  · rintro ⟨first, chars, rfl, letter, rest⟩
    exact ⟨[first], ⟨first, letter, rfl⟩, chars, mem_kstar_oneOf.mpr rest, rfl⟩

/-- The check of a segment passes exactly for the segments of the grammar. -/
theorem checkSegment_eq_ok {name : String} {segment : List Char} :
    checkSegment name segment = .ok () ↔ segment ∈ identifierSegment := by
  -- Both sides look at the first character, and then at every other one.
  rw [mem_identifierSegment]
  cases segment with
  | nil => simp [checkSegment]
  | cons first chars =>
    -- The first character has a check of its own, and the others share one.
    have rest (ch : Char) : checkCharacter name ch = .ok () ↔ WordCharacter ch := by
      rw [← isAlphanum_iff, checkCharacter]
      split
      · exact iff_of_true rfl ‹_›
      · exact iff_of_false (by simp) ‹_›
    rw [checkSegment]
    split
    · rename_i bad
      refine iff_of_false (by simp) ?_
      rintro ⟨_, _, same, letter, _⟩
      cases same
      rw [← isAlpha_iff] at letter
      simp [letter] at bad
    · rename_i good
      rw [Fallible.forM_eq_ok]
      have letter : Letter first := isAlpha_iff.mp (by simpa using good)
      constructor
      · intro passed
        exact ⟨first, chars, rfl, letter, fun ch member => (rest ch).mp (passed ch member)⟩
      · rintro ⟨_, _, same, _, words⟩ ch member
        cases same
        exact (rest ch).mpr (words ch member)

/-- A character of an identifier is a word character or a dot. -/
theorem char_of_identifier {text : List Char} (accepted : text ∈ identifiers) {ch : Char}
    (member : ch ∈ text) : WordCharacter ch ∨ ch = '.' := by
  -- A character is a dot, or it stands in one of the segments.
  obtain dot | ⟨segment, inside, listed⟩ := mem_of_separated accepted member
  · exact .inr dot
  · -- A letter is a word character, too.
    obtain ⟨first, chars, rfl, letter, words⟩ := mem_identifierSegment.mp inside
    obtain rfl | behind := List.mem_cons.mp listed
    · exact .inl (.inl letter)
    · exact .inl (words ch behind)

/-- Splitting at the dots checks the grammar. -/
theorem segments_eq_ok {name : String} :
    (name.toList.splitOn '.').forM (checkSegment name) = .ok () ↔ name.toList ∈ identifiers := by
  -- No segment has a dot.
  have plain : ∀ segment ∈ identifierSegment, '.' ∉ segment := by
    intro segment inside dot
    obtain ⟨first, chars, rfl, letter, words⟩ := mem_identifierSegment.mp inside
    obtain same | behind := List.mem_cons.mp dot
    · exact absurd (same ▸ letter) (by decide)
    · exact absurd (words _ behind) (by decide)
  rw [Fallible.forM_eq_ok, identifiers, mem_separated_iff plain]
  exact forall₂_congr fun _ _ => checkSegment_eq_ok

/-- The sequences that are refused by name are refused by the grammar. -/
theorem not_hasInside_of_identifier {name : String} (accepted : name.toList ∈ identifiers)
    {bad : String} (listed : bad ∈ forbiddenSequences) : ¬ HasInside name bad := by
  intro inside
  -- Each of the sequences has a character that no identifier has.
  have strange : ∃ ch ∈ bad.toList, ¬ (WordCharacter ch ∨ ch = '.') := by
    simp only [forbiddenSequences, List.mem_cons, List.not_mem_nil, or_false] at listed
    obtain rfl | rfl | rfl | rfl | rfl := listed
    · exact ⟨';', by simp, by decide⟩
    · exact ⟨'\x27', by simp, by decide⟩
    · exact ⟨'-', by simp, by decide⟩
    · exact ⟨'*', by simp, by decide⟩
    · exact ⟨'*', by simp, by decide⟩
  obtain ⟨ch, member, other⟩ := strange
  exact other (char_of_identifier accepted (inside.subset member))

/-- A name is quoted exactly if the grammar accepts it. -/
theorem quoteIdentifier_eq_ok {name result : String} :
    quoteIdentifier name = .ok result ↔
      name.toList ∈ identifiers ∧ result = "\"" ++ name ++ "\"" := by
  -- The three checks are made one after the other, and the last of them is the grammar.
  have segments := @segments_eq_ok name
  unfold quoteIdentifier
  split
  · -- An empty name has an empty segment, which the grammar refuses.
    rename_i empty
    refine iff_of_false (by simp) ?_
    rintro ⟨accepted, _⟩
    subst empty
    have refused := segments.mpr accepted
    cases refused
  · split
    · -- A name with a forbidden sequence would be refused by the grammar, too.
      rename_i bad found
      refine iff_of_false (by simp) ?_
      rintro ⟨accepted, _⟩
      have inside : HasInside name bad := by simpa using List.find?_some found
      exact not_hasInside_of_identifier accepted (List.mem_of_find?_eq_some found) inside
    · rw [Fallible.bind_eq_ok]
      constructor
      · rintro ⟨_, passed, same⟩
        exact ⟨segments.mp passed, (Except.ok.inj same).symm⟩
      · rintro ⟨accepted, rfl⟩
        exact ⟨(), segments.mpr accepted, rfl⟩

/--
A name is quoted exactly if it is an identifier of the grammar. It then stands between double quotes
and has none inside, and none of the explicit checks would have refused it.
-/
theorem quote_identifier_exact (name : String) :
    ((∃ result, quoteIdentifier name = .ok result) ↔ name.toList ∈ identifiers) ∧
      (∀ result, quoteIdentifier name = .ok result →
        result = "\"" ++ name ++ "\"" ∧ '\x22' ∉ name.toList) ∧
      (name.toList ∈ identifiers → ∀ bad ∈ forbiddenSequences, ¬ HasInside name bad) := by
  -- All three parts follow from when a name is quoted, and from the characters of one that is.
  refine ⟨?_, ?_, fun accepted bad listed => not_hasInside_of_identifier accepted listed⟩
  · constructor
    · rintro ⟨result, quoted⟩
      exact (quoteIdentifier_eq_ok.mp quoted).1
    · intro accepted
      exact ⟨_, quoteIdentifier_eq_ok.mpr ⟨accepted, rfl⟩⟩
  · intro result quoted
    obtain ⟨accepted, same⟩ := quoteIdentifier_eq_ok.mp quoted
    refine ⟨same, fun inside => ?_⟩
    -- A double quote is neither a word character nor a dot.
    exact absurd (char_of_identifier accepted inside) (by decide)

/-- A qualified name is an identifier without any of the forbidden sequences. -/
theorem qualified_name_is_quoted :
    "gen_ai.request.model".toList ∈ identifiers ∧ '\x22' ∉ "gen_ai.request.model".toList ∧
      ∀ bad ∈ forbiddenSequences, ¬ HasInside "gen_ai.request.model" bad := by
  have quoted : quoteIdentifier "gen_ai.request.model" = .ok "\"gen_ai.request.model\"" := by rfl
  obtain ⟨accepts, shape, checks⟩ := quote_identifier_exact "gen_ai.request.model"
  have accepted := accepts.mp ⟨_, quoted⟩
  exact ⟨accepted, (shape _ quoted).2, checks accepted⟩

end Zradar.Parquet
