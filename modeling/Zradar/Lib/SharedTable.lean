import Mathlib.Data.List.Basic

/-! A table that several owners share, and the tables of their own that it stands for. -/

namespace Zradar

variable {α ω ε : Type} [DecidableEq ω]

/-- Rows with an owner each, and effects on them that are meant for one owner. -/
structure SharedTable (α ω ε : Type) where
  owner : α → ω
  target : ε → ω
  apply : List α → ε → List α

namespace SharedTable

variable (shared : SharedTable α ω ε)

/-- The rows of an owner. -/
def rowsOf (own : ω) (rows : List α) : List α := rows.filter fun row => shared.owner row = own

/-- The effects that are meant for an owner. -/
def effectsOf (own : ω) (effects : List ε) : List ε :=
  effects.filter fun effect => shared.target effect = own

/-- What an owner would have in a table without the others. -/
def book (own : ω) (rows : List α) (effects : List ε) : List α :=
  (shared.effectsOf own effects).foldl shared.apply (shared.rowsOf own rows)

/-- An effect leaves the rows of the others alone, and does not depend on them. -/
def Confined (rows : List α) (effect : ε) : Prop :=
  ∀ own, shared.rowsOf own (shared.apply rows effect) =
    if shared.target effect = own then shared.apply (shared.rowsOf own rows) effect
    else shared.rowsOf own rows

/-- A table is in step with the books of all its owners. -/
def Divides (start rows : List α) (effects : List ε) : Prop :=
  ∀ own, shared.rowsOf own rows = shared.book own start effects

variable {shared}

theorem mem_rowsOf {own : ω} {rows : List α} {row : α} :
    row ∈ shared.rowsOf own rows ↔ row ∈ rows ∧ shared.owner row = own := by
  simp [rowsOf]

theorem divides_start (start : List α) : shared.Divides start start [] := fun _ => rfl

/-- An effect that is confined is an effect on the book of its owner. -/
theorem Divides.apply {start rows : List α} {effects : List ε}
    (divides : shared.Divides start rows effects) {effect : ε} (confined : shared.Confined rows effect) :
    shared.Divides start (shared.apply rows effect) (effects ++ [effect]) := by
  -- The effect is the last one of its owner, and none of any other.
  intro own
  rw [confined own, book, effectsOf, List.filter_append, List.foldl_append, divides own]
  by_cases meant : shared.target effect = own
  · rw [if_pos meant, List.filter_singleton, decide_eq_true meant]
    rfl
  · rw [if_neg meant, List.filter_singleton, decide_eq_false meant]
    rfl

/-- A row of the table is in the book of its owner. -/
theorem Divides.mem_book {start rows : List α} {effects : List ε}
    (divides : shared.Divides start rows effects) {row : α} (member : row ∈ rows) :
    row ∈ shared.book (shared.owner row) start effects := by
  rw [← divides (shared.owner row)]
  exact mem_rowsOf.mpr ⟨member, rfl⟩

end SharedTable

end Zradar
