import Mathlib.Tactic
import Zradar.Lib.Json

/-! The words of SQL clauses: a lexer for conditions, and the texts that it reads back. -/

namespace Zradar

/-- A token of a clause, where a literal stands for the text between its quotes. -/
inductive SqlToken where
  | word (text : String)
  | number (digits : String)
  | literal (text : String)
  | symbol (text : String)
  deriving DecidableEq

/-- The quote that literals begin and end with. -/
def quote : Char := '\x27'

/-- What the lexer is reading. -/
inductive LexMode where
  | between
  | word (chars : List Char)
  | number (digits : List Char)
  | literal (chars : List Char)
  /-- After a quote in a literal, which ends it unless another one follows. -/
  | closing (chars : List Char)
  | symbol (text : String)
  deriving DecidableEq

/-- The tokens that are read if the text ends, which it may not inside of a literal. -/
def LexMode.settle : LexMode → Option (List SqlToken)
  | .between => some []
  | .word chars => some [.word (String.ofList chars)]
  | .number digits => some [.number (String.ofList digits)]
  | .literal _ => none
  | .closing chars => some [.literal (String.ofList chars)]
  | .symbol text => some [.symbol text]

/-- Characters of words. -/
def isWordChar (char : Char) : Bool := char.isAlpha || char = '_'

/-- The characters that stand between tokens. -/
def isBlank (char : Char) : Bool := char = ' ' || char = '\n' || char = '\t' || char = '\r'

/-- The first character of a token. -/
def startToken (char : Char) : Option LexMode :=
  if char.isDigit then some (.number [char])
  else if isBlank char then some .between
  else if char = quote then some (.literal [])
  else if isWordChar char then some (.word [char])
  else if char ∈ ['=', '<', '>', '(', ')', ',', '-'] then some (.symbol (String.ofList [char]))
  else none

/-- Another token begins, if the last one is complete. -/
def LexMode.restart (mode : LexMode) (char : Char) : Option (List SqlToken × LexMode) := do
  let tokens ← mode.settle
  let next ← startToken char
  some (tokens, next)

/--
Read one character.

Literals with a prefix, fractions, comments and quoted names are not read.
-/
def LexMode.step (mode : LexMode) (char : Char) : Option (List SqlToken × LexMode) :=
  match mode with
  | .between => mode.restart char
  | .word chars =>
    if isWordChar char || char.isDigit then some ([], .word (chars ++ [char]))
    else if char = quote then none
    else mode.restart char
  | .number digits =>
    if char.isDigit then some ([], .number (digits ++ [char]))
    else if isWordChar char || char = '.' then none
    else mode.restart char
  -- A backslash is a character like any other.
  | .literal chars => some ([], if char = quote then .closing chars else .literal (chars ++ [char]))
  | .closing chars =>
    if char = quote then some ([], .literal (chars ++ [quote])) else mode.restart char
  | .symbol text =>
    if (text = "<" || text = ">") && char = '=' then some ([], .symbol (text ++ "="))
    else if text = "-" && char = '-' then none
    else mode.restart char

/-- Read some characters, with the tokens that are complete and what is being read after them. -/
def lexFrom : LexMode → List Char → Option (List SqlToken × LexMode)
  | mode, [] => some ([], mode)
  | mode, char :: rest => do
    let (tokens, next) ← mode.step char
    let (later, last) ← lexFrom next rest
    some (tokens ++ later, last)

/-- The tokens up to the end of the text. -/
def lexRest (mode : LexMode) (chars : List Char) : Option (List SqlToken) := do
  let (tokens, last) ← lexFrom mode chars
  let ended ← last.settle
  some (tokens ++ ended)

/-- The tokens of some characters. -/
def lexChars (chars : List Char) : Option (List SqlToken) := lexRest .between chars

/-- The tokens of a text. -/
def sqlLex (text : String) : Option (List SqlToken) := lexChars text.toList

/-- Escape the quotes of a text by doubling them. -/
def escapeChars : List Char → List Char :=
  List.flatMap fun char => if char = quote then [quote, quote] else [char]

/-- Escape single quotes in a SQL string literal. -/
def escapeSqlStr (text : String) : String := String.ofList (escapeChars text.toList)

/-- A literal with the given text in it. -/
def literalText (text : String) : String := "'" ++ escapeSqlStr text ++ "'"

section

variable {mode middle last : LexMode} {front back : List Char} {tokens later : List SqlToken}

/-- Reading goes on where it was left. -/
theorem lexFrom_append (read : lexFrom mode front = some (tokens, middle)) :
    lexFrom mode (front ++ back) =
      (lexFrom middle back).map fun rest => (tokens ++ rest.1, rest.2) := by
  -- The mode carries all that the front leaves behind for the back.
  induction front generalizing mode tokens with
  | nil =>
    simp only [lexFrom, Option.some.injEq, Prod.mk.injEq] at read
    obtain ⟨rfl, rfl⟩ := read
    simp
  | cons char front ih =>
    rw [List.cons_append]
    simp only [lexFrom, bind, Option.bind_eq_some_iff, Option.some.injEq, Prod.exists,
      Prod.mk.injEq] at read ⊢
    obtain ⟨first, next, stepped, others, after, rest, rfl, rfl⟩ := read
    rw [stepped]
    simp only [Option.bind_some]
    rw [ih rest]
    cases lexFrom after back with
    | none => rfl
    | some rest => simp [List.append_assoc]

theorem lexRest_append (read : lexFrom mode front = some (tokens, middle)) :
    lexRest mode (front ++ back) = (lexRest middle back).map (tokens ++ ·) := by
  rw [lexRest, lexRest, lexFrom_append read]
  cases lexFrom middle back with
  | none => rfl
  | some rest =>
    simp only [bind, Option.bind_some, Option.map_some]
    cases rest.2.settle with
    | none => rfl
    | some ended => simp [List.append_assoc]

/-- A complete text is one that is read up to a mode in which it may end. -/
theorem lexChars_eq_some :
    lexChars front = some tokens ↔ ∃ before last ended, lexFrom .between front = some (before, last) ∧
      last.settle = some ended ∧ before ++ ended = tokens := by
  simp [lexChars, lexRest, Option.bind_eq_some_iff]

theorem restart_of_settle (complete : mode.settle = some tokens) (char : Char) :
    mode.restart char = (startToken char).map fun next => (tokens, next) := by
  rw [LexMode.restart, complete]
  cases startToken char with
  | none => rfl
  | some next => rfl

/-- After a complete token a blank, a comma or a closing parenthesis begins another one. -/
theorem step_separator {char : Char} (separates : char ∈ [' ', ',', ')'])
    (complete : mode.settle = some tokens) :
    mode.step char = (startToken char).map fun next => (tokens, next) := by
  -- A separator continues no token, so each mode settles what it has and starts again.
  have plain : isWordChar char = false ∧ char.isDigit = false ∧ char ≠ quote ∧ char ≠ '.' ∧
      char ≠ '=' ∧ char ≠ '-' := by
    simp only [List.mem_cons, List.not_mem_nil, or_false] at separates
    obtain rfl | rfl | rfl := separates <;> decide
  obtain ⟨notWord, notDigit, notQuote, notPoint, notEqual, notMinus⟩ := plain
  rw [← restart_of_settle complete]
  cases mode with
  | between => rfl
  | word chars => simp [LexMode.step, notWord, notDigit, notQuote]
  | number digits => simp [LexMode.step, notWord, notDigit, notPoint]
  | literal chars => cases complete
  | closing chars => simp [LexMode.step, notQuote]
  | symbol text => simp [LexMode.step, notEqual, notMinus]

/-- Where another token begins, what comes is read as from the start. -/
theorem lexRest_of_step {char : Char}
    (starts : mode.step char = (startToken char).map fun next => (tokens, next)) :
    lexRest mode (char :: back) = (lexChars (char :: back)).map (tokens ++ ·) := by
  -- Both sides take the step that the character starts, with and without the tokens before it.
  have fresh : LexMode.between.step char = (startToken char).map fun next => ([], next) :=
    restart_of_settle rfl char
  rw [lexChars, lexRest, lexRest, lexFrom, lexFrom, starts, fresh]
  cases startToken char with
  | none => rfl
  | some next =>
    simp only [Option.map_some, bind, Option.bind_some]
    cases lexFrom next back with
    | none => rfl
    | some rest =>
      simp only [Option.bind_some, List.nil_append]
      cases rest.2.settle with
      | none => rfl
      | some tail => simp [List.append_assoc]

/-- The tokens before a separator are read whatever comes after it. -/
theorem lexChars_append {char : Char} (separates : char ∈ [' ', ',', ')'])
    (first : lexChars front = some tokens) :
    lexChars (front ++ char :: back) = (lexChars (char :: back)).map (tokens ++ ·) := by
  obtain ⟨before, last, ended, read, complete, rfl⟩ := lexChars_eq_some.mp first
  rw [lexChars, lexRest_append read, lexRest_of_step (step_separator separates complete),
    Option.map_map]
  simp [Function.comp_def, List.append_assoc]

/-- Blanks before a text are skipped. -/
theorem lexChars_space (chars : List Char) : lexChars (' ' :: chars) = lexChars chars := by
  have skipped : lexFrom .between [' '] = some ([], .between) := by decide
  rw [lexChars, lexChars, ← List.singleton_append, lexRest_append skipped]
  simp

/-- A symbol that does not go on is read before what comes next. -/
theorem lexChars_symbol_cons {char next : Char} {text : String}
    (read : lexFrom .between [char] = some ([], .symbol text))
    (ends : (LexMode.symbol text).step next = (LexMode.symbol text).restart next) (rest : List Char) :
    lexChars (char :: next :: rest) = (lexChars (next :: rest)).map (SqlToken.symbol text :: ·) := by
  have starts : (LexMode.symbol text).step next =
      (startToken next).map fun mode => ([.symbol text], mode) := by
    rw [ends]
    exact restart_of_settle rfl next
  rw [← List.singleton_append, lexChars, lexRest_append read, lexRest_of_step starts,
    Option.map_map]
  rfl

/-- A symbol of one character is read before anything else. -/
theorem lexChars_symbol {char : Char} (single : char ∈ ['=', '(', ')', ',']) (chars : List Char) :
    lexChars (char :: chars) =
      (lexChars chars).map (SqlToken.symbol (String.ofList [char]) :: ·) := by
  -- None of these is the front of a longer symbol, whatever comes next.
  have read : lexFrom .between [char] = some ([], .symbol (String.ofList [char])) ∧
      String.ofList [char] ≠ "<" ∧ String.ofList [char] ≠ ">" ∧ String.ofList [char] ≠ "-" := by
    simp only [List.mem_cons, List.not_mem_nil, or_false] at single
    obtain rfl | rfl | rfl | rfl := single <;> decide
  obtain ⟨read, notLess, notGreater, notMinus⟩ := read
  generalize String.ofList [char] = text at *
  cases chars with
  | nil =>
    rw [lexChars, lexRest, read]
    rfl
  | cons next chars =>
    apply lexChars_symbol_cons read
    simp [LexMode.step, notLess, notGreater, notMinus]

/-- Digits go on with a number. -/
theorem lexFrom_number (digits : List Char) {more : List Char}
    (numeric : ∀ char ∈ more, char.isDigit = true) :
    lexFrom (.number digits) more = some ([], .number (digits ++ more)) := by
  induction more generalizing digits with
  | nil => simp [lexFrom]
  | cons char more ih =>
    obtain ⟨first, others⟩ := List.forall_mem_cons.mp numeric
    simp [lexFrom, LexMode.step, first, ih _ others]

/-- Digits are read as a number. -/
theorem lexChars_number {digits : List Char} (nonempty : digits ≠ [])
    (numeric : ∀ char ∈ digits, char.isDigit = true) :
    lexChars digits = some [.number (String.ofList digits)] := by
  -- The first digit starts the number, and the others only make it longer.
  cases digits with
  | nil => exact absurd rfl nonempty
  | cons char digits =>
    obtain ⟨first, others⟩ := List.forall_mem_cons.mp numeric
    have started : startToken char = some (.number [char]) := by
      simp [startToken, first]
    have read : lexFrom .between [char] = some ([], .number [char]) := by
      simp [lexFrom, LexMode.step, LexMode.restart, LexMode.settle, started]
    rw [← List.singleton_append, lexChars, lexRest_append read]
    simp [lexRest, lexFrom_number _ others, LexMode.settle]

/-- An escaped text stays in its literal, and is read back there. -/
theorem lexFrom_escapeChars (chars text : List Char) :
    lexFrom (.literal chars) (escapeChars text) = some ([], .literal (chars ++ text)) := by
  induction text generalizing chars with
  | nil => simp [escapeChars, lexFrom]
  | cons char text ih =>
    rw [escapeChars, List.flatMap_cons]
    by_cases quoted : char = quote
    · -- Two quotes are one quote of the text.
      subst quoted
      have read : lexFrom (.literal chars) [quote, quote] = some ([], .literal (chars ++ [quote])) := by
        simp [lexFrom, LexMode.step]
      rw [if_pos rfl, lexFrom_append read]
      have rest := ih (chars ++ [quote])
      rw [escapeChars] at rest
      simp [rest]
    · have read : lexFrom (.literal chars) [char] = some ([], .literal (chars ++ [char])) := by
        simp [lexFrom, LexMode.step, quoted]
      rw [if_neg quoted, lexFrom_append read]
      have rest := ih (chars ++ [char])
      rw [escapeChars] at rest
      simp [rest]

/-- A literal is read back as the text that was escaped for it. -/
theorem sqlLex_literalText (text : String) : sqlLex (literalText text) = some [.literal text] := by
  have opened : lexFrom .between [quote] = some ([], .literal []) := by decide
  have closed : lexFrom (.literal text.toList) [quote] = some ([], .closing text.toList) := by
    simp [lexFrom, LexMode.step]
  have chars : (literalText text).toList = [quote] ++ (escapeChars text.toList ++ [quote]) := by
    simp [literalText, escapeSqlStr, String.toList_append]
    rfl
  rw [sqlLex, chars, lexChars, lexRest_append opened, lexRest_append (lexFrom_escapeChars _ _)]
  simp [lexRest, closed, LexMode.settle]

theorem escapeSqlStr_append (first second : String) :
    escapeSqlStr (first ++ second) = escapeSqlStr first ++ escapeSqlStr second := by
  simp [escapeSqlStr, escapeChars]

/-- A text without quotes is not changed. -/
theorem escapeSqlStr_of_unquoted {text : String} (unquoted : quote ∉ text.toList) :
    escapeSqlStr text = text := by
  -- Only quotes are doubled, one character at a time.
  have chars : escapeChars text.toList = text.toList := by
    generalize text.toList = chars at unquoted
    induction chars with
    | nil => rfl
    | cons char chars ih =>
      simp only [List.mem_cons, not_or] at unquoted
      obtain ⟨apart, others⟩ := unquoted
      have rest := ih others
      rw [escapeChars] at rest ⊢
      rw [List.flatMap_cons, if_neg (Ne.symm apart), rest]
      rfl
  rw [escapeSqlStr, chars, String.ofList_toList]

/-- Texts with a blank between them are read one after the other. -/
theorem sqlLex_space {first second : String} (one : sqlLex first = some tokens)
    (other : sqlLex second = some later) :
    sqlLex (first ++ " " ++ second) = some (tokens ++ later) := by
  have chars : (first ++ " " ++ second).toList = first.toList ++ ' ' :: second.toList := by
    simp [String.toList_append]
  unfold sqlLex at one other ⊢
  rw [chars, lexChars_append (by decide) one, lexChars_space, other]
  rfl

/-- So are texts with a comma and a blank between them. -/
theorem sqlLex_comma {first second : String} (one : sqlLex first = some tokens)
    (other : sqlLex second = some later) :
    sqlLex (first ++ ", " ++ second) = some (tokens ++ .symbol "," :: later) := by
  have chars : (first ++ ", " ++ second).toList = first.toList ++ ',' :: ' ' :: second.toList := by
    simp [String.toList_append]
  unfold sqlLex at one other ⊢
  rw [chars, lexChars_append (by decide) one, lexChars_symbol (by decide), lexChars_space, other]
  rfl

/-- Parentheses around a text are read as such. -/
theorem sqlLex_parentheses {inner : String} (read : sqlLex inner = some tokens) :
    sqlLex ("(" ++ inner ++ ")") = some (.symbol "(" :: (tokens ++ [.symbol ")"])) := by
  have chars : ("(" ++ inner ++ ")").toList = '(' :: (inner.toList ++ ')' :: []) := by
    simp [String.toList_append]
  have closed : lexChars [')'] = some [.symbol ")"] := by decide
  unfold sqlLex at read ⊢
  rw [chars, lexChars_symbol (by decide), lexChars_append (by decide) read, closed]
  rfl

/-- A number is read with its sign as a symbol before it. -/
theorem sqlLex_repr (value : Int) :
    sqlLex value.repr = some (
      if 0 ≤ value then [.number value.natAbs.repr]
      else [.symbol "-", .number value.natAbs.repr]) := by
  have digits (number : Nat) : lexChars (Nat.toDigits 10 number) = some [.number number.repr] := by
    rw [lexChars_number Nat.toDigits_ne_nil fun char member =>
      Nat.isDigit_of_mem_toDigits (by decide) (by decide) member, ← Nat.toList_repr,
      String.ofList_toList]
  rw [sqlLex, Json.repr_toList]
  split
  · rename_i nonneg
    rw [show value.natAbs = value.toNat by omega]
    exact digits _
  · rename_i negative
    obtain ⟨digit, rest, same⟩ := List.exists_cons_of_ne_nil
      (Nat.toDigits_ne_nil (n := (-value).toNat) (b := 10))
    have first : digit ∈ Nat.toDigits 10 (-value).toNat := by
      rw [same]
      exact List.mem_cons_self
    have numeric := Nat.isDigit_of_mem_toDigits (by decide) (by decide) first
    -- What follows the sign is a digit, and not another minus.
    have ends : (LexMode.symbol "-").step digit = (LexMode.symbol "-").restart digit := by
      have notMinus : digit ≠ '-' := by
        rintro rfl
        cases numeric
      simp [LexMode.step, notMinus]
    rw [same, lexChars_symbol_cons (by decide) ends, ← same, digits,
      show value.natAbs = (-value).toNat by omega]
    rfl

end

end Zradar
