import Mathlib.Tactic

/-! Paths read segment by segment: where a walk ends, and when it ends below its start. -/

namespace Zradar

/-- One segment of a path. -/
inductive Segment (ν : Type) where
  | stay
  | up
  | name (entry : ν)
  deriving DecidableEq

/-- A place in a tree: some directories up, and then down along names. -/
structure Place (ν : Type) where
  ups : Nat
  names : List ν
  deriving DecidableEq

namespace Place

variable {ν : Type}

/-- The place where nothing has been walked. -/
def start : Place ν := ⟨0, []⟩

/-- Walk one segment, where nothing lies above a root. -/
def step (rooted : Bool) (place : Place ν) : Segment ν → Place ν
  | .stay => place
  | .up =>
    if place.names.isEmpty then
      if rooted then place else { place with ups := place.ups + 1 }
    else { place with names := place.names.dropLast }
  | .name entry => { place with names := place.names ++ [entry] }

/-- Walk along segments. -/
def walk (rooted : Bool) (place : Place ν) (segments : List (Segment ν)) : Place ν :=
  segments.foldl (step rooted) place

/-- The segments on their own: the ups that are left in front of the names that are left. -/
def relative (segments : List (Segment ν)) : Place ν :=
  walk false start segments

/-- Walk up a number of times. -/
def climb (rooted : Bool) (place : Place ν) (count : Nat) : Place ν :=
  if count ≤ place.names.length then
    { place with names := place.names.take (place.names.length - count) }
  else ⟨if rooted then place.ups else place.ups + (count - place.names.length), []⟩

/-- A place lies strictly below another one. -/
def Under (base place : Place ν) : Prop :=
  base.ups = place.ups ∧ base.names <+: place.names ∧ base.names ≠ place.names

instance [DecidableEq ν] (base place : Place ν) : Decidable (base.Under place) :=
  inferInstanceAs (Decidable (_ ∧ _ ∧ _))

/-- The directories that a relative place leaves are the ones its names lead back into. -/
def Reentered (rooted : Bool) (base way : Place ν) : Prop :=
  (way.ups ≤ base.names.length ∨ rooted = true) ∧
    base.names.drop (base.names.length - way.ups) <+: way.names

instance [DecidableEq ν] (rooted : Bool) (base way : Place ν) :
    Decidable (base.Reentered rooted way) :=
  inferInstanceAs (Decidable (_ ∧ _))

theorem walk_append (rooted : Bool) (place : Place ν) (front back : List (Segment ν)) :
    place.walk rooted (front ++ back) = (place.walk rooted front).walk rooted back := by
  unfold walk
  exact List.foldl_append

@[simp] theorem walk_nil (rooted : Bool) (place : Place ν) : place.walk rooted [] = place := rfl

@[simp] theorem walk_stay (rooted : Bool) (place : Place ν) :
    place.walk rooted [.stay] = place := rfl

/-- Walking along names goes down along these names. -/
theorem walk_names (rooted : Bool) (place : Place ν) (names : List ν) :
    place.walk rooted (names.map .name) = ⟨place.ups, place.names ++ names⟩ := by
  -- A walk along names appends them one after another.
  induction names generalizing place with
  | nil => simp
  | cons entry names ih =>
    have first : place.walk rooted ((entry :: names).map .name) =
        (place.step rooted (.name entry)).walk rooted (names.map .name) := rfl
    rw [first, ih]
    simp [step]

@[simp] theorem climb_zero (rooted : Bool) (place : Place ν) : place.climb rooted 0 = place := by
  simp [climb]

/-- One more step up is one more climbed directory. -/
theorem climb_succ (rooted : Bool) (place : Place ν) (count : Nat) :
    (place.climb rooted count).step rooted .up = place.climb rooted (count + 1) := by
  unfold climb step
  by_cases below : count < place.names.length
  · -- A name is left to be taken away.
    have left : ¬ place.names.length - count = 0 := by omega
    have some : place.names ≠ [] := by
      rintro empty
      simp [empty] at below
    have shorter : place.names.length - (count + 1) = place.names.length - count - 1 := by omega
    simp [below, below.le, left, some, List.dropLast_eq_take, List.take_take, shorter]
  · by_cases here : count = place.names.length
    · subst here
      cases rooted <;> simp
    · -- The names were used up before.
      have past : ¬ count ≤ place.names.length := by omega
      have beyond : ¬ count + 1 ≤ place.names.length := by omega
      have more : count + 1 - place.names.length = count - place.names.length + 1 := by omega
      cases rooted <;> simp [past, beyond, more, Nat.add_assoc]

/-- A walk goes up as far as its segments do on their own, and then down along their names. -/
theorem walk_eq_climb (rooted : Bool) (place : Place ν) (segments : List (Segment ν)) :
    place.walk rooted segments =
      ⟨(place.climb rooted (relative segments).ups).ups,
        (place.climb rooted (relative segments).ups).names ++ (relative segments).names⟩ := by
  -- The last segment decides what is left of those before it.
  induction segments using List.reverseRecOn with
  | nil => simp [relative, start]
  | append_singleton segments segment ih =>
    have stepped : relative (segments ++ [segment]) =
        (relative segments).step false segment := by
      simp [relative, walk]
    have walked : place.walk rooted (segments ++ [segment]) =
        (place.walk rooted segments).step rooted segment := by
      simp [walk]
    rw [walked, ih, stepped]
    generalize relative segments = way
    obtain ⟨ups, names⟩ := way
    cases segment with
    | stay => rfl
    | name entry => simp [step]
    | up =>
      by_cases empty : names = []
      · subst empty
        have more := climb_succ rooted place ups
        simp only [List.append_nil]
        rw [more]
        simp [step]
      · simp [step, empty, List.dropLast_append_of_ne_nil empty]

/-- A climb that is made up for ends where it began, with whatever names are left. -/
theorem prefix_climb_iff (rooted : Bool) (base : Place ν) (count : Nat) (names : List ν) :
    (base.ups = (base.climb rooted count).ups ∧
        base.names <+: (base.climb rooted count).names ++ names) ↔
      (count ≤ base.names.length ∨ rooted = true) ∧
        base.names.drop (base.names.length - count) <+: names := by
  unfold climb
  by_cases inside : count ≤ base.names.length
  · -- The names that stay are common to both sides.
    have split := List.take_append_drop (base.names.length - count) base.names
    simp only [inside, if_true, true_and, true_or]
    nth_rewrite 1 [← split]
    exact List.prefix_append_right_inj _
  · have whole : base.names.length - count = 0 := by omega
    have further : ¬ count - base.names.length = 0 := by omega
    cases rooted <;> simp [inside, whole, further]

/-- A list that begins a longer one, and whose last entry is not in the rest, begins the front. -/
theorem prefix_of_last_not_mem {start front rest : List ν} {last : ν}
    (ends : start = [] ∨ start.getLast? = some last) (absent : last ∉ rest)
    (begins : start <+: front ++ rest) : start <+: front := by
  rcases le_total start.length front.length with short | long
  · exact List.prefix_of_prefix_length_le begins (List.prefix_append front rest) short
  · -- What is beyond the front would end with the last entry.
    obtain ⟨more, rfl⟩ := List.prefix_of_prefix_length_le (List.prefix_append front rest) begins long
    have within : more <+: rest := (List.prefix_append_right_inj front).mp begins
    by_cases empty : more = []
    · simp [empty]
    · rcases ends with none | final
      · simp [empty] at none
      · rw [List.getLast?_append_of_ne_nil _ empty] at final
        exact absurd (within.subset (List.mem_of_getLast? final)) absent

/--
A walk that ends in names is below its start exactly when the segments before these names lead
back, provided that the names do not repeat the last name of the start.
-/
theorem under_walk_iff (rooted : Bool) {base : Place ν} {last : ν} {names : List ν}
    (ends : base.names.getLast? = some last) (absent : last ∉ names) (some : names ≠ [])
    (segments : List (Segment ν)) :
    base.Under (base.walk rooted (segments ++ names.map .name)) ↔
      base.Reentered rooted (relative segments) := by
  have shape := walk_eq_climb rooted base segments
  rw [walk_append, shape, walk_names]
  generalize relative segments = way
  have reaches := prefix_climb_iff rooted base way.ups (way.names ++ names)
  have closing : base.names.drop (base.names.length - way.ups) = [] ∨
      (base.names.drop (base.names.length - way.ups)).getLast? = Option.some last := by
    by_cases left : base.names.length - way.ups < base.names.length
    · right
      rw [List.getLast?_drop, if_neg (by omega), ends]
    · left
      rw [List.drop_eq_nil_iff]
      omega
  unfold Under Reentered
  simp only [List.append_assoc]
  constructor
  · rintro ⟨level, begins, _⟩
    obtain ⟨bounded, back⟩ := reaches.mp ⟨level, begins⟩
    exact ⟨bounded, prefix_of_last_not_mem closing absent back⟩
  · rintro ⟨bounded, back⟩
    obtain ⟨level, begins⟩ := reaches.mpr ⟨bounded, back.trans (List.prefix_append _ _)⟩
    refine ⟨level, begins, ?_⟩
    -- The last name of the start is not the last name of the walk.
    intro same
    rw [same, ← List.append_assoc, List.getLast?_append_of_ne_nil _ some] at ends
    exact absent (List.mem_of_getLast? ends)

end Place

/-- The segment that stands between two slashes. -/
def segmentOf (text : List Char) : Segment String :=
  if text = [] ∨ text = ['.'] then .stay
  else if text = ['.', '.'] then .up
  else .name (String.ofList text)

/-- The segments of a path. -/
def pathSegments (path : String) : List (Segment String) :=
  (path.toList.splitOn '/').map segmentOf

/-- Whether a path starts at the root. -/
def isAbsolute (path : String) : Bool :=
  path.toList.head? = some '/'

/-- Append a path to another one, unless it starts at the root itself. -/
def pathJoin (base path : String) : String :=
  if isAbsolute path then path
  else if base.toList.getLast? = none ∨ base.toList.getLast? = some '/' then base ++ path
  else base ++ "/" ++ path

/-- The place that a path names, by its text alone. -/
def lexicalPlace (path : String) : Place String :=
  Place.start.walk (isAbsolute path) (pathSegments path)

/-- A text that stands for itself as a segment. -/
def PlainName (text : String) : Prop :=
  text ≠ "" ∧ text ≠ "." ∧ text ≠ ".." ∧ '/' ∉ text.toList

theorem pathSegments_slash (front back : String) :
    pathSegments (front ++ "/" ++ back) = pathSegments front ++ pathSegments back := by
  have slash : (front ++ "/" ++ back).toList = front.toList ++ '/' :: back.toList := by simp
  unfold pathSegments
  rw [slash, List.splitOn_eq_splitOnP, List.splitOnP_append_cons _ _ (by simp), List.map_append]
  rfl

theorem pathSegments_plain {text : String} (plain : PlainName text) :
    pathSegments text = [.name text] := by
  obtain ⟨some, dot, dots, whole⟩ := plain
  -- Without a slash the text is one segment, and it is none of the special ones.
  have single : text.toList.splitOn '/' = [text.toList] := by
    rw [List.splitOn_eq_splitOnP]
    apply List.splitOnP_eq_singleton
    intro char inside
    have other : char ≠ '/' := fun same => whole (same ▸ inside)
    simpa using other
  have named (other : String) (apart : text ≠ other) : text.toList ≠ other.toList :=
    fun same => apart (String.toList_inj.mp same)
  have nonempty : ¬ (text.toList = [] ∨ text.toList = ['.']) := by
    rintro (empty | point)
    · exact named "" some empty
    · exact named "." dot point
  have below : ¬ text.toList = ['.', '.'] := named ".." dots
  unfold pathSegments
  rw [single]
  simp only [List.map_cons, List.map_nil, segmentOf, if_neg nonempty, if_neg below,
    String.ofList_toList]

/-- A path that ends with a slash is what is in front of it and the slash. -/
theorem eq_append_slash {path : String} (closed : path.toList.getLast? = some '/') :
    ∃ front, path = front ++ "/" := by
  obtain ⟨front, ends⟩ := List.getLast?_eq_some_iff.mp closed
  refine ⟨String.ofList front, String.toList_inj.mp ?_⟩
  rw [ends]
  simp

/-- A joined path starts where its base starts. -/
theorem isAbsolute_join (base : String) {path : String} (below : isAbsolute path = false) :
    isAbsolute (pathJoin base path) = isAbsolute base := by
  -- The join begins as its base does, unless the base is empty.
  unfold pathJoin
  rw [if_neg (by simp [below])]
  cases chars : base.toList with
  | nil =>
    have none : base = "" := String.toList_inj.mp chars
    subst none
    rw [if_pos (.inl rfl), String.empty_append, below]
    rfl
  | cons first rest =>
    split
    · simp [isAbsolute, chars]
    · simp [isAbsolute, chars]

/-- A joined path leads on from where its base leads. -/
theorem lexicalPlace_join (base : String) {path : String} (below : isAbsolute path = false) :
    lexicalPlace (pathJoin base path) =
      (lexicalPlace base).walk (isAbsolute base) (pathSegments path) := by
  unfold lexicalPlace
  rw [isAbsolute_join base below, ← Place.walk_append]
  unfold pathJoin
  rw [if_neg (by simp [below])]
  split
  case isTrue ended =>
    rcases ended with empty | closed
    · -- Nothing stands in front of the path.
      have none : base = "" := String.toList_inj.mp (List.getLast?_eq_none_iff.mp empty)
      subst none
      rw [String.empty_append]
      rfl
    · -- The slash at the end of the base is the one between the two.
      obtain ⟨front, slash⟩ := eq_append_slash closed
      have trailing : pathSegments base = pathSegments front ++ [.stay] := by
        have empty := pathSegments_slash front ""
        rw [String.append_empty, ← slash] at empty
        exact empty
      rw [trailing, Place.walk_append, Place.walk_append, Place.walk_stay]
      nth_rewrite 2 [slash]
      rw [pathSegments_slash, Place.walk_append]
  case isFalse => rw [pathSegments_slash]

/-- A path lies below a directory, by the texts of the two alone. -/
def LexicallyUnder (directory path : String) : Prop :=
  isAbsolute directory = isAbsolute path ∧ (lexicalPlace directory).Under (lexicalPlace path)

instance (directory path : String) : Decidable (LexicallyUnder directory path) :=
  inferInstanceAs (Decidable (_ ∧ _))

/-- A text without slashes that is not made of dots is a plain name. -/
theorem plainName_of_mem {text : String} {char : Char} (other : char ≠ '.')
    (inside : char ∈ text.toList) (whole : '/' ∉ text.toList) : PlainName text := by
  have apart (special : String) (dots : ∀ letter ∈ special.toList, letter = '.') :
      text ≠ special := by
    rintro rfl
    exact other (dots char inside)
  exact ⟨apart "" (by simp), apart "." (by simp), apart ".." (by simp), whole⟩

end Zradar
