import Zradar.Lib.LexicalPath

/-! Paths as their components, with the text that is left behind a stripped prefix. -/

namespace Zradar

/-- One component of a path. -/
inductive Component where
  | rootDir
  | curDir
  | parentDir
  | normal (name : String)
  deriving DecidableEq

/-- The pieces of a path between its slashes. -/
def pathPieces (path : String) : List (List Char) := path.toList.splitOn '/'

/-- The component that a piece stands for, where nothing and a single dot are passed over. -/
def pieceComponent (piece : List Char) : Option Component :=
  if piece = [] ∨ piece = ['.'] then none
  else if piece = ['.', '.'] then some .parentDir
  else some (.normal (.ofList piece))

/-- Whether a piece is passed over. -/
def isSilent (piece : List Char) : Bool := (pieceComponent piece).isNone

/-- The components of a path, where a dot counts only at the start. -/
def pathComponents (path : String) : List Component :=
  (if isAbsolute path then [.rootDir]
    else if (pathPieces path).head? = some ['.'] then [.curDir] else []) ++
      (pathPieces path).filterMap pieceComponent

/-- The last component, if it is a name. -/
def fileName (path : String) : Option String :=
  match (pathComponents path).getLast? with
  | some (.normal name) => some name
  | _ => none

/-- The text of some pieces. -/
def joinPieces (pieces : List (List Char)) : String := .ofList (['/'].intercalate pieces)

def trimFront (pieces : List (List Char)) : List (List Char) := pieces.dropWhile isSilent

def trimBack (pieces : List (List Char)) : List (List Char) :=
  (pieces.reverse.dropWhile isSilent).reverse

/-- The pieces behind so many components. -/
def skipComponents : Nat → List (List Char) → List (List Char)
  | 0, pieces => pieces
  | _ + 1, [] => []
  | count + 1, piece :: pieces =>
    if isSilent piece then skipComponents (count + 1) pieces else skipComponents count pieces

/-- A path without what is passed over at its end. -/
def trimEnd (path : String) : String :=
  match pathPieces path with
  | [] => ""
  | first :: rest =>
    if isAbsolute path then
      -- The slash of the root stays.
      if trimBack rest = [] then "/" else joinPieces (first :: trimBack rest)
    else if first = ['.'] then joinPieces (first :: trimBack rest)
    else joinPieces (trimBack (first :: rest))

/-- The rest of a path behind a prefix of its components, as it stands in the text of the path. -/
def stripPrefix (path base : String) : Option String :=
  if pathComponents base <+: pathComponents path then
    if pathComponents base = [] then some (trimEnd path)
    else some (joinPieces (trimBack (trimFront
      (skipComponents ((pathPieces base).filterMap pieceComponent).length (pathPieces path)))))
  else none

theorem joinPieces_pathPieces (path : String) : joinPieces (pathPieces path) = path := by
  rw [joinPieces, pathPieces, List.intercalate_splitOn, String.ofList_toList]

theorem pathPieces_slash (front back : String) :
    pathPieces (front ++ "/" ++ back) = pathPieces front ++ pathPieces back := by
  have slash : (front ++ "/" ++ back).toList = front.toList ++ '/' :: back.toList := by simp
  rw [pathPieces, slash, List.splitOn_append_cons_self]
  rfl

theorem pathPieces_ne_nil (path : String) : pathPieces path ≠ [] := List.splitOn_ne_nil _ _

theorem slash_not_mem_piece {path : String} {piece : List Char} (member : piece ∈ pathPieces path) :
    '/' ∉ piece := by
  have general (text : List Char) : ∀ piece ∈ text.splitOn '/', '/' ∉ piece := by
    -- A character is a slash, or it goes in front of the first piece.
    induction text with
    | nil => simp
    | cons char text ih =>
      rw [List.splitOn_cons_eq_if_modifyHead]
      split
      · simpa using ih
      · rename_i other
        obtain ⟨first, rest, split⟩ := List.exists_cons_of_ne_nil (List.splitOn_ne_nil '/' text)
        rw [split] at ih ⊢
        have apart : ¬ '/' = char := fun same => other (by simp [← same])
        simpa [apart] using ih
  exact general path.toList piece member

/-- The text of some pieces ends with the last one, behind nothing or a slash. -/
theorem intercalate_last (pieces : List (List Char)) (piece : List Char) :
    ∃ lead, ['/'].intercalate (pieces ++ [piece]) = lead ++ piece ∧
      (lead = [] ∨ lead.getLast? = some '/') := by
  induction pieces with
  | nil => exact ⟨[], by simp, .inl rfl⟩
  | cons first rest ih =>
    obtain ⟨lead, text, ends⟩ := ih
    -- Behind the first piece there is a slash, which is the last one if nothing else leads.
    refine ⟨first ++ '/' :: lead, ?_, .inr ?_⟩
    · rw [List.cons_append, List.intercalate_cons_of_ne_nil (by simp), text]
      simp
    · obtain empty | slash := ends
      · simp [empty]
      · have some : lead ≠ [] := by
          intro empty
          simp [empty] at slash
        rw [List.getLast?_append_of_ne_nil _ (by simp), List.getLast?_cons_of_ne_nil some, slash]

/-- A text that ends in another character than a slash or a dot has a last piece that counts. -/
theorem last_piece {path : String} {last : Char} (ends : path.toList.getLast? = some last)
    (slash : last ≠ '/') (dot : last ≠ '.') :
    ∃ pieces piece, pathPieces path = pieces ++ [piece] ∧ isSilent piece = false := by
  obtain ⟨pieces, piece, split⟩ : ∃ pieces piece, pathPieces path = pieces ++ [piece] :=
    ⟨_, _, (List.dropLast_append_getLast (pathPieces_ne_nil path)).symm⟩
  refine ⟨pieces, piece, split, ?_⟩
  obtain ⟨lead, text, closed⟩ := intercalate_last pieces piece
  have whole : path.toList = lead ++ piece := by
    rw [← text, ← split, pathPieces, List.intercalate_splitOn]
  rw [whole] at ends
  have some : piece ≠ [] := by
    -- Without a piece the text is empty, or it ends with the slash in front.
    intro empty
    rw [empty, List.append_nil] at ends
    obtain none | other := closed
    · simp [none] at ends
    · exact slash (Option.some.inj (ends.symm.trans other))
  have pointless : piece ≠ ['.'] := by
    intro point
    rw [point] at ends
    simp at ends
    exact dot ends.symm
  unfold isSilent pieceComponent
  rw [if_neg (by simp [some, pointless])]
  split <;> rfl

/-- Equal paths have the same text behind their last slash. -/
theorem eq_of_last_slash {front front' last last' : List Char}
    (same : front ++ '/' :: last = front' ++ '/' :: last') (plain : '/' ∉ last)
    (plain' : '/' ∉ last') : last = last' := by
  have pieces := congrArg (fun text => text.splitOn '/') same
  simp only [List.splitOn_append_cons_self, List.splitOn_eq_singleton plain,
    List.splitOn_eq_singleton plain'] at pieces
  simpa using congrArg List.getLast? pieces

/-- Where the first piece counts, nothing is trimmed at the front. -/
theorem trimFront_cons {piece : List Char} (counts : isSilent piece = false)
    (rest : List (List Char)) : trimFront (piece :: rest) = piece :: rest := by
  unfold trimFront
  rw [List.dropWhile_cons_of_neg (by simp [counts])]

/-- Where the last piece counts, nothing is trimmed at the end. -/
theorem trimBack_concat {piece : List Char} (counts : isSilent piece = false)
    (front : List (List Char)) : trimBack (front ++ [piece]) = front ++ [piece] := by
  unfold trimBack
  rw [List.reverse_append, List.reverse_singleton, List.singleton_append,
    List.dropWhile_cons_of_neg (by simp [counts]), List.reverse_cons, List.reverse_reverse]

/-- Behind the components of the first pieces come the other pieces. -/
theorem skipComponents_append (front rest : List (List Char)) :
    trimFront (skipComponents (front.filterMap pieceComponent).length (front ++ rest)) =
      trimFront rest := by
  -- A piece that stands for nothing is trimmed, or passed over before the next component.
  induction front with
  | nil => simp [skipComponents]
  | cons piece front ih =>
    cases kind : pieceComponent piece with
    | some component =>
      have counts : isSilent piece = false := by simp [isSilent, kind]
      rw [List.filterMap_cons_some kind]
      simpa [skipComponents, counts] using ih
    | none =>
      have silent : isSilent piece = true := by simp [isSilent, kind]
      rw [List.filterMap_cons_none kind]
      rw [← ih]
      cases (front.filterMap pieceComponent).length with
      | zero => simp [skipComponents, trimFront, silent]
      | succ count => simp [skipComponents, silent]

/-- The pieces of a joined path, where the base may end with the slash between the two. -/
theorem pathPieces_join {base path : String} (rooted : isAbsolute base = true)
    (below : isAbsolute path = false) :
    ∃ front, pathPieces (pathJoin base path) = front ++ pathPieces path ∧
      front.filterMap pieceComponent = (pathPieces base).filterMap pieceComponent := by
  unfold pathJoin
  rw [if_neg (by simp [below])]
  split
  case isTrue ended =>
    obtain empty | closed := ended
    · -- An absolute base is not empty.
      rw [isAbsolute, List.getLast?_eq_none_iff.mp empty] at rooted
      simp at rooted
    · obtain ⟨front, slash⟩ := eq_append_slash closed
      refine ⟨pathPieces front, ?_, ?_⟩
      · rw [slash, pathPieces_slash]
      · have trailing : pathPieces base = pathPieces front ++ [[]] := by
          have empty := pathPieces_slash front ""
          rw [String.append_empty, ← slash] at empty
          exact empty
        rw [trailing, List.filterMap_append]
        simp [pieceComponent]
  case isFalse => exact ⟨pathPieces base, pathPieces_slash base path, rfl⟩

/-- What was joined to an absolute base is what is left of the join without the base. -/
theorem stripPrefix_join {base path : String} (rooted : isAbsolute base = true)
    (below : isAbsolute path = false) (front : trimFront (pathPieces path) = pathPieces path)
    (back : trimBack (pathPieces path) = pathPieces path) :
    stripPrefix (pathJoin base path) base = some path := by
  -- The components of the join begin with those of the base, and what follows is the path's.
  obtain ⟨pieces, split, components⟩ := pathPieces_join rooted below
  have start : isAbsolute (pathJoin base path) = true := by rw [isAbsolute_join base below, rooted]
  have begins : pathComponents base <+: pathComponents (pathJoin base path) := by
    unfold pathComponents
    rw [if_pos rooted, if_pos start, split, List.filterMap_append, components, ← List.append_assoc]
    exact List.prefix_append _ _
  have some : pathComponents base ≠ [] := by simp [pathComponents, rooted]
  unfold stripPrefix
  rw [if_pos begins, if_neg some, split, ← components, skipComponents_append, front, back,
    joinPieces_pathPieces]

/-- An absolute path has only absolute prefixes and the empty one. -/
theorem stripPrefix_relative {path base : String} (rooted : isAbsolute path = true)
    (below : isAbsolute base = false) (some : pathComponents base ≠ []) :
    stripPrefix path base = none := by
  unfold stripPrefix
  refine if_neg fun begins => ?_
  -- The first component of the path is its root, and a relative path has no root.
  obtain ⟨first, rest, components⟩ := List.exists_cons_of_ne_nil some
  have start : pathComponents path =
      .rootDir :: (pathPieces path).filterMap pieceComponent := by simp [pathComponents, rooted]
  rw [components, start, List.cons_prefix_cons] at begins
  have root : .rootDir ∈ pathComponents base := by
    rw [components, begins.1]
    exact List.mem_cons_self
  unfold pathComponents at root
  rw [if_neg (by simp [below]), List.mem_append] at root
  obtain lead | body := root
  · split at lead <;> simp at lead
  · obtain ⟨piece, _, kind⟩ := List.mem_filterMap.mp body
    unfold pieceComponent at kind
    split at kind
    · exact nomatch kind
    · split at kind <;> exact nomatch kind

/-- The empty prefix leaves an absolute path whose last piece counts. -/
theorem stripPrefix_empty {path base : String} (empty : pathComponents base = [])
    (rooted : isAbsolute path = true) {front : List (List Char)} {piece : List Char}
    (split : pathPieces path = front ++ [piece]) (counts : isSilent piece = false) :
    stripPrefix path base = some path := by
  unfold stripPrefix
  rw [if_pos (by simp [empty]), if_pos empty, Option.some.injEq]
  unfold trimEnd
  cases front with
  | nil =>
    -- A single piece has no slash, so the path is not absolute.
    have whole : ['/'].intercalate (path.toList.splitOn '/') = path.toList :=
      List.intercalate_splitOn '/'
    rw [← pathPieces, split, List.nil_append, List.intercalate_singleton] at whole
    have slash : '/' ∈ path.toList := List.mem_of_head? (by simpa [isAbsolute] using rooted)
    have member : piece ∈ pathPieces path := by simp [split]
    exact absurd (whole ▸ slash) (slash_not_mem_piece member)
  | cons first front =>
    rw [split]
    simp only [List.cons_append, rooted, if_true, trimBack_concat counts]
    rw [if_neg (by simp), ← List.cons_append, ← split, joinPieces_pathPieces]

/-- The name at the end of a path has no slash. -/
theorem slash_not_mem_fileName {path name : String} (named : fileName path = some name) :
    '/' ∉ name.toList := by
  unfold fileName at named
  split at named
  case h_2 => exact nomatch named
  case h_1 last ends =>
    cases named
    -- The name is the text of one piece.
    have member := List.mem_of_getLast? ends
    unfold pathComponents at member
    obtain lead | body := List.mem_append.mp member
    · split at lead
      · simp at lead
      · split at lead <;> simp at lead
    · obtain ⟨piece, inside, kind⟩ := List.mem_filterMap.mp body
      have text : piece = name.toList := by
        unfold pieceComponent at kind
        split at kind
        · exact nomatch kind
        · split at kind
          · exact nomatch kind
          · cases kind
            rw [String.toList_ofList]
      exact text ▸ slash_not_mem_piece inside

end Zradar
