import Mathlib.Computability.Language
import Mathlib.Tactic

/-! Words with separators between them, as a language and as the pieces of a split text. -/

namespace Zradar

open Computability

variable {α : Type} {separator : α} {word : Language α}

/-- One word, and then any number of words with a separator in front of each. -/
def separated (separator : α) (word : Language α) : Language α :=
  word * (({[separator]} : Language α) * word)∗

/-- The texts of one allowed character. -/
def oneOf (allowed : α → Prop) : Language α := {text | ∃ char, allowed char ∧ text = [char]}

/-- Any number of allowed characters are a text of nothing else. -/
theorem mem_kstar_oneOf {allowed : α → Prop} {text : List α} :
    text ∈ (oneOf allowed)∗ ↔ ∀ char ∈ text, allowed char := by
  rw [Language.mem_kstar]
  constructor
  · rintro ⟨parts, rfl, each⟩ char member
    -- The character is all there is in its part.
    obtain ⟨part, listed, inside⟩ := List.mem_flatten.mp member
    obtain ⟨single, good, rfl⟩ := each part listed
    rw [List.mem_singleton.mp inside]
    exact good
  · intro all
    refine ⟨text.map fun char => [char], by simp [← List.flatMap_def], ?_⟩
    intro part listed
    obtain ⟨char, member, rfl⟩ := List.mem_map.mp listed
    exact ⟨char, all char member, rfl⟩

/-- The first piece stands in front, and every other one behind a separator. -/
theorem intercalate_cons (separator : α) (first : List α) (pieces : List (List α)) :
    [separator].intercalate (first :: pieces) =
      first ++ pieces.flatMap fun piece => separator :: piece := by
  -- Each step passes the first piece on, so it stays quantified over.
  induction pieces generalizing first with
  | nil => simp
  | cons next pieces ih =>
    rw [List.intercalate_cons_of_ne_nil (List.cons_ne_nil _ _), ih, List.flatMap_cons]
    simp

/-- The words behind separators are a list of words, each behind one. -/
theorem mem_behind_separators {text : List α} :
    text ∈ (({[separator]} : Language α) * word)∗ ↔
      ∃ pieces : List (List α), (∀ piece ∈ pieces, piece ∈ word) ∧
        text = pieces.flatMap fun piece => separator :: piece := by
  rw [Language.mem_kstar]
  constructor
  · rintro ⟨parts, rfl, each⟩
    -- Every part is a separator and a word, so the induction collects the words.
    induction parts with
    | nil => exact ⟨[], by simp, rfl⟩
    | cons part parts ih =>
      obtain ⟨lead, single, piece, inside, whole⟩ := each part List.mem_cons_self
      obtain ⟨pieces, members, rest⟩ := ih fun other member =>
        each other (List.mem_cons_of_mem _ member)
      refine ⟨piece :: pieces, List.forall_mem_cons.mpr ⟨inside, members⟩, ?_⟩
      have alone : lead = [separator] := single
      rw [List.flatten_cons, rest, List.flatMap_cons, ← whole, alone]
      rfl
  · rintro ⟨pieces, members, rfl⟩
    refine ⟨pieces.map fun piece => separator :: piece, List.flatMap_def, ?_⟩
    intro part listed
    obtain ⟨piece, member, rfl⟩ := List.mem_map.mp listed
    exact Language.append_mem_mul (a := [separator]) rfl (members piece member)

/-- A character of separated words is the separator, or stands in a word. -/
theorem mem_of_separated {text : List α} (accepted : text ∈ separated separator word) {char : α}
    (member : char ∈ text) : char = separator ∨ ∃ piece ∈ word, char ∈ piece := by
  obtain ⟨first, begins, rest, follows, rfl⟩ := accepted
  obtain ⟨pieces, members, rfl⟩ := mem_behind_separators.mp follows
  obtain lead | behind := List.mem_append.mp member
  · exact .inr ⟨first, begins, lead⟩
  · -- Behind the first word there are separators with words.
    obtain ⟨piece, listed, inside⟩ := List.mem_flatMap.mp behind
    obtain same | inner := List.mem_cons.mp inside
    · exact .inl same
    · exact .inr ⟨piece, members piece listed, inner⟩

/-- Where no word has a separator, a text is separated words exactly if its pieces are words. -/
theorem mem_separated_iff [DecidableEq α] (plain : ∀ piece ∈ word, separator ∉ piece)
    {text : List α} :
    text ∈ separated separator word ↔ ∀ piece ∈ text.splitOn separator, piece ∈ word := by
  constructor
  · rintro ⟨first, begins, rest, follows, rfl⟩
    obtain ⟨pieces, members, rfl⟩ := mem_behind_separators.mp follows
    have all : ∀ piece ∈ first :: pieces, piece ∈ word :=
      List.forall_mem_cons.mpr ⟨begins, members⟩
    -- Splitting undoes the separators that were put between the words.
    have split : (first ++ pieces.flatMap fun piece => separator :: piece).splitOn separator =
        first :: pieces := by
      rw [← intercalate_cons]
      exact List.splitOn_intercalate separator (fun piece member => plain piece (all piece member))
        (List.cons_ne_nil _ _)
    show ∀ piece ∈ (first ++ _).splitOn separator, piece ∈ word
    rw [split]
    exact all
  · intro all
    obtain ⟨first, pieces, split⟩ := List.exists_cons_of_ne_nil (List.splitOn_ne_nil separator text)
    have whole : text = first ++ pieces.flatMap fun piece => separator :: piece := by
      rw [← intercalate_cons, ← split, List.intercalate_splitOn]
    rw [split] at all
    obtain ⟨begins, members⟩ := List.forall_mem_cons.mp all
    rw [whole]
    exact Language.append_mem_mul begins (mem_behind_separators.mpr ⟨pieces, members, rfl⟩)

end Zradar
