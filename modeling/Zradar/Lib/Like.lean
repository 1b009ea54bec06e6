import Mathlib.Data.List.Infix
import Mathlib.Tactic

/-! Patterns of the LIKE operator, and the texts between percent signs that are matched literally. -/

namespace Zradar

/-- What a pattern is made of: any run of characters, any one character, or a given one. -/
inductive LikeItem where
  | run
  | any
  | char (char : Char)
  deriving DecidableEq

/-- The items of a pattern, where a backslash takes the meaning from the character after it. -/
def likeItems : List Char → List LikeItem
  | [] => []
  | '\\' :: char :: rest => .char char :: likeItems rest
  | '%' :: rest => .run :: likeItems rest
  | '_' :: rest => .any :: likeItems rest
  | char :: rest => .char char :: likeItems rest

/-- Whether a text matches some items. -/
def matchesItems : List LikeItem → List Char → Bool
  | [], text => text.isEmpty
  | .run :: items, text => text.tails.any (matchesItems items)
  | .any :: items, _ :: text => matchesItems items text
  | .char char :: items, first :: text => char = first && matchesItems items text
  | _ :: _, [] => false

/-- Whether a text matches a pattern. -/
def sqlLike (text pattern : String) : Bool := matchesItems (likeItems pattern.toList) text.toList

/-- The characters that mean something in a pattern. -/
def likeSpecials : List Char := ['%', '_', '\\']

/-- No character of the text means anything in a pattern. -/
def PlainForLike (text : String) : Prop := ∀ char ∈ text.toList, char ∉ likeSpecials

instance (text : String) : Decidable (PlainForLike text) :=
  inferInstanceAs (Decidable (∀ char ∈ text.toList, char ∉ likeSpecials))

/-- A text has another one somewhere in it. -/
def HasInside (text inside : String) : Prop := inside.toList <:+: text.toList

instance (text inside : String) : Decidable (HasInside text inside) :=
  inferInstanceAs (Decidable (_ <:+: _))

/-- A run takes up the front of a text, and the rest is matched. -/
theorem matchesItems_run {items : List LikeItem} {text : List Char} :
    matchesItems (.run :: items) text = true ↔
      ∃ front back, text = front ++ back ∧ matchesItems items back = true := by
  simp only [matchesItems, List.any_eq_true, List.mem_tails]
  constructor
  · rintro ⟨back, ⟨front, same⟩, found⟩
    exact ⟨front, back, same.symm, found⟩
  · rintro ⟨front, back, same, found⟩
    exact ⟨back, ⟨front, same.symm⟩, found⟩

/-- Given characters are matched by themselves. -/
theorem matchesItems_chars (chars : List Char) {items : List LikeItem} {text : List Char} :
    matchesItems (chars.map LikeItem.char ++ items) text = true ↔
      ∃ back, text = chars ++ back ∧ matchesItems items back = true := by
  -- Each character takes one of the text, so the rest is behind all of them.
  induction chars generalizing text with
  | nil => simp
  | cons char chars ih =>
    cases text with
    | nil => simp [matchesItems]
    | cons first text =>
      simp only [List.map_cons, List.cons_append, matchesItems, Bool.and_eq_true,
        decide_eq_true_eq, ih, List.cons.injEq]
      constructor
      · rintro ⟨rfl, back, rfl, found⟩
        exact ⟨back, ⟨rfl, rfl⟩, found⟩
      · rintro ⟨back, ⟨rfl, rfl⟩, found⟩
        exact ⟨rfl, back, rfl, found⟩

/-- A character that means nothing is read as itself. -/
theorem likeItems_ordinary {char : Char} (ordinary : char ∉ likeSpecials) (rest : List Char) :
    likeItems (char :: rest) = .char char :: likeItems rest := by
  simp only [likeSpecials, List.mem_cons, List.not_mem_nil, or_false, not_or] at ordinary
  obtain ⟨percent, underscore, backslash⟩ := ordinary
  rw [likeItems]
  · exact fun _ _ read _ => backslash read
  · exact percent
  · exact underscore

theorem likeItems_plain {chars : List Char} (plain : ∀ char ∈ chars, char ∉ likeSpecials)
    (rest : List Char) :
    likeItems (chars ++ rest) = chars.map LikeItem.char ++ likeItems rest := by
  induction chars with
  | nil => rfl
  | cons char chars ih =>
    obtain ⟨ordinary, others⟩ := List.forall_mem_cons.mp plain
    rw [List.cons_append, likeItems_ordinary ordinary, ih others]
    rfl

/-- A shortest text that matches some items. -/
def shortest : List LikeItem → List Char
  | [] => []
  | .run :: items => shortest items
  | .any :: items => 'a' :: shortest items
  | .char char :: items => char :: shortest items

theorem matchesItems_shortest (items : List LikeItem) :
    matchesItems items (shortest items) = true := by
  induction items with
  | nil => rfl
  | cons item items ih =>
    cases item with
    | run => exact matchesItems_run.mpr ⟨[], shortest items, rfl, ih⟩
    | any => exact ih
    | char char => simp [shortest, matchesItems, ih]

/-- It is no longer than the text between the percent signs, and is that text only if it is plain. -/
theorem shortest_spec (chars : List Char) :
    (shortest (likeItems (chars ++ ['%']))).length ≤ chars.length ∧
      (shortest (likeItems (chars ++ ['%'])) = chars → ∀ char ∈ chars, char ∉ likeSpecials) := by
  -- The pattern is gone through as it is read, two characters at a time behind a backslash.
  induction chars using likeItems.induct with
  | case1 => exact ⟨le_rfl, fun _ => List.forall_mem_nil _⟩
  | case2 char rest ih =>
    have short : (shortest (likeItems ('\\' :: char :: rest ++ ['%']))).length < rest.length + 2 := by
      have later := ih.1
      simp only [List.cons_append, likeItems, shortest, List.length_cons]
      omega
    refine ⟨short.le, fun same => ?_⟩
    rw [same] at short
    exact absurd short (lt_irrefl _)
  | case3 rest ih =>
    have short : (shortest (likeItems ('%' :: rest ++ ['%']))).length < rest.length + 1 := by
      have later := ih.1
      simp only [List.cons_append, likeItems, shortest]
      omega
    refine ⟨short.le, fun same => ?_⟩
    rw [same] at short
    exact absurd short (lt_irrefl _)
  | case4 rest ih =>
    -- Any character may stand for the underscore, so it is not the one that is chosen.
    constructor
    · simpa [likeItems, shortest] using ih.1
    · intro same
      simp [likeItems, shortest] at same
  | case5 char rest escapes percent underscore ih =>
    by_cases backslash : char = '\\'
    · -- A backslash at the end takes the meaning from the percent sign after it.
      have ended : rest = [] := by
        cases rest with
        | nil => rfl
        | cons next rest => exact (escapes next rest backslash rfl).elim
      subst backslash ended
      exact ⟨le_rfl, fun same => absurd same (by decide)⟩
    · have ordinary : char ∉ likeSpecials := by
        simp only [likeSpecials, List.mem_cons, List.not_mem_nil, or_false, not_or]
        exact ⟨percent, underscore, backslash⟩
      rw [List.cons_append, likeItems_ordinary ordinary, shortest]
      constructor
      · exact Nat.succ_le_succ ih.1
      · intro same
        exact List.forall_mem_cons.mpr ⟨ordinary, ih.2 (List.cons.inj same).2⟩

/-- A text between percent signs is matched literally exactly if no character of it means anything. -/
theorem sqlLike_literal_iff (inside : String) :
    (∀ text, sqlLike text ("%" ++ inside ++ "%") = true ↔ HasInside text inside) ↔
      PlainForLike inside := by
  have pattern : ("%" ++ inside ++ "%").toList = '%' :: (inside.toList ++ ['%']) := by
    simp [String.toList_append]
  constructor
  · intro literal
    -- The shortest text is matched, so that it has the whole of the other in it.
    obtain ⟨short, plain⟩ := shortest_spec inside.toList
    have matched : sqlLike (String.ofList (shortest (likeItems (inside.toList ++ ['%']))))
        ("%" ++ inside ++ "%") = true := by
      rw [sqlLike, pattern, String.toList_ofList, likeItems]
      exact matchesItems_run.mpr ⟨[], _, rfl, matchesItems_shortest _⟩
    have found := (literal _).mp matched
    rw [HasInside, String.toList_ofList] at found
    exact plain (found.eq_of_length_le short).symm
  · intro plain text
    have anything (rest : List Char) : matchesItems (likeItems ['%']) rest = true := by
      exact matchesItems_run.mpr ⟨rest, [], (List.append_nil rest).symm, rfl⟩
    rw [sqlLike, pattern, likeItems, likeItems_plain plain, matchesItems_run]
    simp only [matchesItems_chars, anything, and_true]
    constructor
    · rintro ⟨front, _, same, back, rfl⟩
      exact ⟨front, back, by rw [same, List.append_assoc]⟩
    · rintro ⟨front, back, same⟩
      exact ⟨front, inside.toList ++ back, by rw [← same, List.append_assoc], back, rfl⟩

end Zradar
