import Mathlib.Data.List.TakeWhile
import Zradar.Lib.Json

/-! Lines of a text exposition: written one after the other, and read back. -/

namespace Zradar.Exposition

/-- A line about a metric, or a sample of one. -/
inductive Line where
  | help (name text : List Char)
  | type (name kind : List Char)
  | sample (name : List Char) (labels : List (List Char × List Char)) (value : List Char)
  deriving DecidableEq

/-- How a character stands in the value of a label. -/
def escapeMark (char : Char) : List Char :=
  if char = quoteMark then [backslash, quoteMark]
  else if char = backslash then [backslash, backslash]
  else if char = '\n' then [backslash, 'n']
  else [char]

/-- The text of a label. -/
def labelChars (label : List Char × List Char) : List Char :=
  label.1 ++ '=' :: quoteMark :: label.2.flatMap escapeMark ++ [quoteMark]

/-- The text of the labels of a sample, which has no braces where there are none. -/
def labelSetChars : List (List Char × List Char) → List Char
  | [] => []
  | label :: labels => openBrace :: joined [] ((label :: labels).map labelChars) ++ [closeBrace]

/-- The text of a line about a metric. -/
def commentChars (keyword name text : List Char) : List Char :=
  '#' :: ' ' :: keyword ++ ' ' :: name ++ ' ' :: text ++ ['\n']

namespace Line

/-- The text of a line. -/
def chars : Line → List Char
  | help name text => commentChars "HELP".toList name text
  | type name kind => commentChars "TYPE".toList name kind
  | sample name labels value => name ++ labelSetChars labels ++ ' ' :: value ++ ['\n']

end Line

/-- Whether a character can stand in a name. -/
def isNameChar (char : Char) : Bool := char.isAlphanum || char = '_' || char = ':'

/-- Some characters are a name. -/
def IsName (name : List Char) : Prop := name ≠ [] ∧ ∀ char ∈ name, isNameChar char = true

instance (name : List Char) : Decidable (IsName name) :=
  have : Decidable (∀ char ∈ name, isNameChar char = true) := List.decidableBAll _ name
  inferInstanceAs (Decidable (_ ∧ _))

/-- Some characters can be the value of a sample. -/
def IsValue (value : List Char) : Prop := value ≠ [] ∧ ' ' ∉ value ∧ '\n' ∉ value

instance (value : List Char) : Decidable (IsValue value) := inferInstanceAs (Decidable (_ ∧ _))

/-- A line can be told from the next one. -/
def Line.WellFormed : Line → Prop
  | help name text => IsName name ∧ '\n' ∉ text
  | type name kind => IsName name ∧ '\n' ∉ kind
  | sample name labels value => IsName name ∧ (∀ label ∈ labels, IsName label.1) ∧ IsValue value

/-- The text up to the end of the line, and what follows it. -/
def takeLine : List Char → Option (List Char × List Char)
  | [] => none
  | char :: chars =>
    if char = '\n' then some ([], chars)
    else (takeLine chars).map fun (text, rest) => (char :: text, rest)

/-- A name with a blank behind it. -/
def readWord (chars : List Char) : Option (List Char × List Char) :=
  match chars.span isNameChar with
  | (name, ' ' :: rest) => if name = [] then none else some (name, rest)
  | _ => none

/-- The character that stands behind a backslash. -/
def unescapeMark (char : Char) : Option Char :=
  if char = 'n' then some '\n'
  else if char = quoteMark ∨ char = backslash then some char
  else none

/-- The value of a label, up to the mark at its end. -/
def readQuoted : List Char → Option (List Char × List Char)
  | [] => none
  | char :: chars =>
    if char = quoteMark then some ([], chars)
    else if char = backslash then
      match chars with
      | [] => none
      | next :: chars => do
        let mark ← unescapeMark next
        let (value, rest) ← readQuoted chars
        some (mark :: value, rest)
    else if char = '\n' then none
    else do
      let (value, rest) ← readQuoted chars
      some (char :: value, rest)

/-- A label. -/
def readLabel (chars : List Char) : Option ((List Char × List Char) × List Char) :=
  match chars.span isNameChar with
  | (name, '=' :: mark :: rest) =>
    if name = [] ∨ mark ≠ quoteMark then none
    else (readQuoted rest).map fun (value, rest) => ((name, value), rest)
  | _ => none

/-- The labels up to the brace at their end, at most so many. -/
def readLabels : Nat → List Char → Option (List (List Char × List Char) × List Char)
  | 0, _ => none
  | fuel + 1, chars => do
    let (label, rest) ← readLabel chars
    match rest with
    | [] => none
    | char :: rest =>
      if char = closeBrace then some ([label], rest)
      else if char = ',' then do
        let (labels, rest) ← readLabels fuel rest
        some (label :: labels, rest)
      else none

/-- The labels of a sample, if it has any. -/
def readLabelSet : List Char → Option (List (List Char × List Char) × List Char)
  | [] => some ([], [])
  | char :: chars =>
    if char = openBrace then readLabels chars.length chars else some ([], char :: chars)

/-- A line about a metric, behind its mark. -/
def readComment (chars : List Char) : Option (Line × List Char) := do
  let (keyword, rest) ← readWord chars
  let (name, rest) ← readWord rest
  let (text, rest) ← takeLine rest
  if keyword = "HELP".toList then some (.help name text, rest)
  else if keyword = "TYPE".toList then some (.type name text, rest)
  else none

/-- A sample. -/
def readSample (chars : List Char) : Option (Line × List Char) :=
  match chars.span isNameChar with
  | (name, rest) => do
    let (labels, rest) ← readLabelSet rest
    match rest with
    | ' ' :: rest => do
      let (value, rest) ← takeLine rest
      if IsName name ∧ IsValue value then some (.sample name labels value, rest) else none
    | _ => none

/-- The first line of a text. -/
def readLine : List Char → Option (Line × List Char)
  | '#' :: ' ' :: rest => readComment rest
  | chars => readSample chars

/-- The lines of a text, at most so many. -/
def readLines : Nat → List Char → Option (List Line)
  | _, [] => some []
  | 0, _ :: _ => none
  | fuel + 1, chars => do
    let (line, rest) ← readLine chars
    let lines ← readLines fuel rest
    some (line :: lines)

/-- The lines of a text, if it is an exposition. -/
def readText (text : String) : Option (List Line) := readLines text.toList.length text.toList

/-- A name is read up to a character that cannot stand in one. -/
theorem span_name {name : List Char} (all : ∀ char ∈ name, isNameChar char = true) {mark : Char}
    (ends : isNameChar mark = false) (rest : List Char) :
    (name ++ mark :: rest).span isNameChar = (name, mark :: rest) := by
  rw [List.span_eq_takeWhile_dropWhile, List.takeWhile_append_of_pos all,
    List.dropWhile_append_of_pos all]
  simp [ends]

theorem readWord_append {name : List Char} (isName : IsName name) (rest : List Char) :
    readWord (name ++ ' ' :: rest) = some (name, rest) := by
  unfold readWord
  rw [span_name isName.2 (by decide)]
  simp [isName.1]

theorem takeLine_append {text : List Char} (single : '\n' ∉ text) (rest : List Char) :
    takeLine (text ++ '\n' :: rest) = some (text, rest) := by
  induction text with
  | nil => simp [takeLine]
  | cons char text ih =>
    obtain ⟨other, later⟩ := not_or.mp (mt List.mem_cons.mpr single)
    simp [takeLine, Ne.symm other, ih later]

/-- A character behind a backslash is read as the one it stands for. -/
theorem readQuoted_escaped {next mark : Char} (unescaped : unescapeMark next = some mark)
    {chars value rest : List Char} (read : readQuoted chars = some (value, rest)) :
    readQuoted (backslash :: next :: chars) = some (mark :: value, rest) := by
  have apart : backslash ≠ quoteMark := by decide
  unfold readQuoted
  rw [if_neg apart, if_pos rfl]
  simp [unescaped, read]

/-- A value is read as it was before it was escaped. -/
theorem readQuoted_append (value rest : List Char) :
    readQuoted (value.flatMap escapeMark ++ quoteMark :: rest) = some (value, rest) := by
  induction value with
  | nil =>
    rw [List.flatMap_nil, List.nil_append]
    unfold readQuoted
    rw [if_pos rfl]
  | cons char value ih =>
    rw [List.flatMap_cons, List.append_assoc, escapeMark]
    -- A character is escaped if it would end the value, the line or the escape.
    split_ifs with isQuote isBackslash isBreak
    · subst isQuote
      exact readQuoted_escaped rfl ih
    · subst isBackslash
      exact readQuoted_escaped rfl ih
    · subst isBreak
      exact readQuoted_escaped rfl ih
    · rw [List.singleton_append]
      unfold readQuoted
      rw [if_neg isQuote, if_neg isBackslash, if_neg isBreak]
      simp [ih]

theorem readLabel_append {label : List Char × List Char} (isName : IsName label.1)
    (rest : List Char) : readLabel (labelChars label ++ rest) = some (label, rest) := by
  have split : labelChars label ++ rest =
      label.1 ++ '=' :: (quoteMark :: (label.2.flatMap escapeMark ++ quoteMark :: rest)) := by
    simp [labelChars]
  unfold readLabel
  rw [split, span_name isName.2 (by decide)]
  simp [isName.1, readQuoted_append]

/-- Labels are read up to the brace behind the last one. -/
theorem readLabels_append {label : List Char × List Char} {labels : List (List Char × List Char)}
    (names : ∀ other ∈ label :: labels, IsName other.1) {fuel : Nat}
    (enough : labels.length < fuel) (rest : List Char) :
    readLabels fuel (joined [] ((label :: labels).map labelChars) ++ closeBrace :: rest) =
      some (label :: labels, rest) := by
  -- The induction is on the labels behind the first one.
  induction labels generalizing label fuel with
  | nil =>
    obtain ⟨fuel, rfl⟩ := Nat.exists_eq_succ_of_ne_zero (Nat.ne_of_gt enough)
    have first := readLabel_append (names label (by simp)) (closeBrace :: rest)
    simp [readLabels, joined, first]
  | cons next labels ih =>
    obtain ⟨fuel, rfl⟩ := Nat.exists_eq_succ_of_ne_zero (Nat.ne_of_gt (Nat.zero_lt_of_lt enough))
    obtain ⟨isName, others⟩ := List.forall_mem_cons.mp names
    have later := ih others (by simpa using enough)
    have split : joined [] ((label :: next :: labels).map labelChars) ++ closeBrace :: rest =
        labelChars label ++
          ',' :: (joined [] ((next :: labels).map labelChars) ++ closeBrace :: rest) := by
      simp [joined]
    have comma : ',' ≠ closeBrace := by decide
    rw [split, readLabels, readLabel_append isName]
    simp only [bind, Option.bind, if_neg comma, later]
    rfl

theorem readLabelSet_append {labels : List (List Char × List Char)}
    (names : ∀ label ∈ labels, IsName label.1) (rest : List Char) :
    readLabelSet (labelSetChars labels ++ ' ' :: rest) = some (labels, ' ' :: rest) := by
  cases labels with
  | nil =>
    have blank : ' ' ≠ openBrace := by decide
    simp [readLabelSet, labelSetChars, blank]
  | cons label labels =>
    have split : labelSetChars (label :: labels) ++ ' ' :: rest = openBrace ::
        (joined [] ((label :: labels).map labelChars) ++ closeBrace :: ' ' :: rest) := by
      simp [labelSetChars]
    rw [split, readLabelSet, if_pos rfl]
    apply readLabels_append names
    -- Every label takes a character at least.
    have long (lead : List Char) (texts : List (List Char)) (filled : ∀ text ∈ texts, text ≠ []) :
        texts.length ≤ (joined lead texts).length := by
      induction texts generalizing lead with
      | nil => simp [joined]
      | cons text texts ih =>
        obtain ⟨some, others⟩ := List.forall_mem_cons.mp filled
        have here := List.length_pos_of_ne_nil some
        have later := ih [','] others
        simp only [joined, List.length_append, List.length_cons]
        omega
    have filled : ∀ text ∈ (label :: labels).map labelChars, text ≠ [] := by
      intro text listed
      obtain ⟨other, _, rfl⟩ := List.mem_map.mp listed
      simp [labelChars]
    have bound := long [] _ filled
    simp only [List.length_map, List.length_cons, List.length_append] at bound ⊢
    omega

/-- A line about a metric is read up to its end. -/
theorem readLine_commentChars {keyword name text : List Char} (isKeyword : IsName keyword)
    (isName : IsName name) (single : '\n' ∉ text) (rest : List Char) :
    readLine (commentChars keyword name text ++ rest) =
      if keyword = "HELP".toList then some (.help name text, rest)
      else if keyword = "TYPE".toList then some (.type name text, rest)
      else none := by
  have split : commentChars keyword name text ++ rest =
      '#' :: ' ' :: (keyword ++ ' ' :: (name ++ ' ' :: (text ++ '\n' :: rest))) := by
    simp only [commentChars, List.append_assoc, List.cons_append, List.nil_append]
  rw [split, readLine, readComment, readWord_append isKeyword]
  simp only [bind, Option.bind, readWord_append isName, takeLine_append single]

/-- A line is read up to its end. -/
theorem readLine_append {line : Line} (wellFormed : line.WellFormed) (rest : List Char) :
    readLine (line.chars ++ rest) = some (line, rest) := by
  cases line with
  | help name text =>
    obtain ⟨isName, single⟩ := wellFormed
    have isKeyword : IsName "HELP".toList := by decide
    rw [Line.chars, readLine_commentChars isKeyword isName single, if_pos rfl]
  | type name kind =>
    obtain ⟨isName, single⟩ := wellFormed
    have isKeyword : IsName "TYPE".toList := by decide
    have other : "TYPE".toList ≠ "HELP".toList := by decide
    rw [Line.chars, readLine_commentChars isKeyword isName single, if_neg other, if_pos rfl]
  | sample name labels value =>
    obtain ⟨isName, names, isValue⟩ := wellFormed
    have split : (Line.sample name labels value).chars ++ rest =
        name ++ (labelSetChars labels ++ ' ' :: (value ++ '\n' :: rest)) := by
      simp only [Line.chars, List.append_assoc, List.cons_append, List.nil_append]
    -- A sample does not begin with the mark of a comment.
    have other : readLine (name ++ (labelSetChars labels ++ ' ' :: (value ++ '\n' :: rest))) =
        readSample (name ++ (labelSetChars labels ++ ' ' :: (value ++ '\n' :: rest))) := by
      obtain ⟨filled, all⟩ := isName
      cases name with
      | nil => exact absurd rfl filled
      | cons char name =>
        have plain := all char List.mem_cons_self
        have apart : char ≠ '#' := by
          rintro rfl
          exact absurd plain (by decide)
        unfold readLine
        split
        · rename_i same
          exact absurd (List.cons.inj same).1 apart
        · rfl
    -- The name ends with a brace or a blank.
    have lead : ∃ mark more, labelSetChars labels ++ ' ' :: (value ++ '\n' :: rest) = mark :: more ∧
        isNameChar mark = false := by
      cases labels with
      | nil => exact ⟨_, _, rfl, by decide⟩
      | cons label labels => exact ⟨_, _, rfl, by decide⟩
    obtain ⟨mark, more, begins, ends⟩ := lead
    have named := span_name isName.2 ends more
    rw [← begins] at named
    rw [split, other, readSample, named]
    simp only [bind, Option.bind, readLabelSet_append names, takeLine_append isValue.2.2]
    rw [if_pos ⟨isName, isValue⟩]

/-- The lines of a text are read back. -/
theorem readLines_flatMap {lines : List Line} (wellFormed : ∀ line ∈ lines, line.WellFormed)
    {fuel : Nat} (enough : lines.length ≤ fuel) :
    readLines fuel (lines.flatMap Line.chars) = some lines := by
  induction lines generalizing fuel with
  | nil => cases fuel <;> rfl
  | cons line lines ih =>
    obtain ⟨first, others⟩ := List.forall_mem_cons.mp wellFormed
    obtain ⟨fuel, rfl⟩ := Nat.exists_eq_add_of_lt (Nat.zero_lt_of_lt enough)
    rw [Nat.zero_add] at enough ⊢
    have later := ih others (Nat.le_of_succ_le_succ enough)
    have read := readLine_append first (lines.flatMap Line.chars)
    rw [List.flatMap_cons]
    cases text : line.chars ++ lines.flatMap Line.chars with
    | nil =>
      rw [text] at read
      cases read
    | cons char chars =>
      rw [text] at read
      unfold readLines
      simp only [bind, Option.bind, read, later]

theorem Line.chars_ne_nil (line : Line) : line.chars ≠ [] := by
  cases line with
  | help | type => exact List.cons_ne_nil _ _
  | sample name labels value => exact List.append_ne_nil_of_right_ne_nil _ (List.cons_ne_nil _ _)

/-- A text of well-formed lines is read as these lines. -/
theorem readText_ofList {lines : List Line} (wellFormed : ∀ line ∈ lines, line.WellFormed) :
    readText (String.ofList (lines.flatMap Line.chars)) = some lines := by
  -- Every line takes a character at least.
  have long : lines.length ≤ (lines.flatMap Line.chars).length := by
    induction lines with
    | nil => simp
    | cons line lines ih =>
      have here := List.length_pos_of_ne_nil line.chars_ne_nil
      have later := ih (List.forall_mem_cons.mp wellFormed).2
      simp only [List.flatMap_cons, List.length_append, List.length_cons]
      omega
  unfold readText
  rw [String.toList_ofList]
  exact readLines_flatMap wellFormed long

end Zradar.Exposition
