import Mathlib
import Zradar.Lib.LexicalPath

/-! File URLs read as paths: where a URL leads, and when it leads where its path does. -/

namespace Zradar

/-- The bytes of a text, as a file system has them. -/
def utf8 (text : String) : List UInt8 := text.toList.flatMap String.utf8EncodeChar

/-- The segment that stands between two slashes of a path. -/
def byteSegment (bytes : List UInt8) : Segment (List UInt8) :=
  if bytes = [] ∨ bytes = ['.'.toUInt8] then .stay
  else if bytes = ['.'.toUInt8, '.'.toUInt8] then .up
  else .name bytes

/-- The segments of a path. -/
def byteSegments (path : List UInt8) : List (Segment (List UInt8)) :=
  (path.splitOn '/'.toUInt8).map byteSegment

/-- The place that an absolute path leads to. -/
def bytePlace (path : List UInt8) : Place (List UInt8) :=
  Place.start.walk true (byteSegments path)

/-- Whether a path has a segment that leaves a directory. -/
def Climbs (path : List UInt8) : Prop := .up ∈ byteSegments path

instance (path : List UInt8) : Decidable (Climbs path) :=
  inferInstanceAs (Decidable (_ ∈ _))

/-- The value of a hexadecimal digit. -/
def escapeDigit (digit : UInt8) : Option UInt8 :=
  if '0'.toUInt8 ≤ digit ∧ digit ≤ '9'.toUInt8 then some (digit - '0'.toUInt8)
  else if 'a'.toUInt8 ≤ digit ∧ digit ≤ 'f'.toUInt8 then some (digit - 'a'.toUInt8 + 10)
  else if 'A'.toUInt8 ≤ digit ∧ digit ≤ 'F'.toUInt8 then some (digit - 'A'.toUInt8 + 10)
  else none

/-- The byte that is written as a percent sign and two digits. -/
def escaped (first high low : UInt8) : Option UInt8 :=
  if first = '%'.toUInt8 then
    match escapeDigit high, escapeDigit low with
    | some high, some low => some (16 * high + low)
    | _, _ => none
  else none

/-- Decode the bytes that are written as percent signs with two digits. -/
def percentDecode : List UInt8 → List UInt8
  | first :: high :: low :: rest =>
    match escaped first high low with
    | some byte => byte :: percentDecode rest
    | none => first :: percentDecode (high :: low :: rest)
  | few => few

/-- Whether a byte is written as a percent sign and two digits. -/
def hasEscape : List UInt8 → Bool
  | first :: high :: low :: rest =>
    (escaped first high low).isSome || hasEscape (high :: low :: rest)
  | _ => false

/-- Whether the path of a URL ends at a byte. -/
def endsPath (byte : UInt8) : Bool := byte = '?'.toUInt8 || byte = '#'.toUInt8

/-- The path of a file URL, behind its host and up to its query or fragment. -/
def urlPath (url : List UInt8) : Option (List UInt8) :=
  if (utf8 "file://").isPrefixOf url then
    let rest := (url.drop 7).dropWhile fun byte => byte ≠ '/'.toUInt8 && !endsPath byte
    some (percentDecode (rest.takeWhile fun byte => !endsPath byte))
  else none

/-- The place that a file URL denotes. -/
def urlPlace (url : String) : Option (Place (List UInt8)) :=
  (urlPath (utf8 url)).map bytePlace

/-- Bytes that mean in a URL what they mean in a path. -/
def UrlSafe (bytes : List UInt8) : Prop :=
  (∀ byte ∈ bytes, endsPath byte = false) ∧ hasEscape bytes = false

instance (bytes : List UInt8) : Decidable (UrlSafe bytes) :=
  @instDecidableAnd _ _ (List.decidableBAll _ bytes) (instDecidableEqBool _ _)

theorem utf8_append (front back : String) : utf8 (front ++ back) = utf8 front ++ utf8 back := by
  simp [utf8]

theorem utf8_slash (front back : String) :
    utf8 (front ++ "/" ++ back) = utf8 front ++ '/'.toUInt8 :: utf8 back := by
  have slash : utf8 "/" = ['/'.toUInt8] := by decide
  rw [utf8_append, utf8_append, slash, List.append_assoc]
  rfl

theorem byteSegments_slash (front back : List UInt8) :
    byteSegments (front ++ '/'.toUInt8 :: back) = byteSegments front ++ byteSegments back := by
  unfold byteSegments
  rw [List.splitOn_eq_splitOnP, List.splitOnP_append_cons _ _ (by simp), List.map_append]
  rfl

theorem byteSegments_whole {bytes : List UInt8} (whole : '/'.toUInt8 ∉ bytes) :
    byteSegments bytes = [byteSegment bytes] := by
  -- Splitting at slashes leaves a text without one as it is.
  have single : bytes.splitOn '/'.toUInt8 = [bytes] := by
    rw [List.splitOn_eq_splitOnP]
    apply List.splitOnP_eq_singleton
    intro byte inside
    have other : byte ≠ '/'.toUInt8 := fun same => whole (same ▸ inside)
    simpa using other
  unfold byteSegments
  rw [single]
  rfl

/-- Paths are built from texts without slashes, one segment in front of the next. -/
theorem slashInduction {motive : List UInt8 → Prop}
    (whole : ∀ bytes, '/'.toUInt8 ∉ bytes → motive bytes)
    (slash : ∀ front back, '/'.toUInt8 ∉ front → motive back →
      motive (front ++ '/'.toUInt8 :: back))
    (bytes : List UInt8) : motive bytes := by
  -- The induction is on the length, and the first slash splits the path.
  induction length : bytes.length using Nat.strong_induction_on generalizing bytes with
  | _ count ih =>
    by_cases inside : '/'.toUInt8 ∈ bytes
    · obtain ⟨front, back, rfl, first⟩ := List.eq_append_cons_of_mem inside
      apply slash front back first
      apply ih back.length _ back rfl
      rw [← length]
      simp
      omega
    · exact whole bytes inside

/-- An escape needs a percent sign and two digits, and a slash is neither. -/
theorem escaped_slash {first high low : UInt8}
    (slash : first = '/'.toUInt8 ∨ high = '/'.toUInt8 ∨ low = '/'.toUInt8) :
    escaped first high low = none := by
  -- The position of the slash decides which of the three checks fails.
  have digit : escapeDigit '/'.toUInt8 = none := by decide
  unfold escaped
  rcases slash with rfl | rfl | rfl
  · rw [if_neg (by decide)]
  · simp [digit]
  · cases escapeDigit high <;> simp [digit]

/-- No escape reaches from one segment into the next. -/
theorem percentDecode_slash (front back : List UInt8) :
    percentDecode (front ++ '/'.toUInt8 :: back) =
      percentDecode front ++ '/'.toUInt8 :: percentDecode back := by
  -- A slash in front is passed over, whatever follows it.
  have passed (rest : List UInt8) :
      percentDecode ('/'.toUInt8 :: rest) = '/'.toUInt8 :: percentDecode rest := by
    match rest with
    | [] | [_] => rfl
    | high :: low :: rest => rw [percentDecode, escaped_slash (.inl rfl)]
  -- The front shrinks by an escape or by a byte, until fewer than three bytes are left of it.
  induction front using percentDecode.induct with
  | case1 first high low rest byte found ih =>
    simp only [List.cons_append, percentDecode, found, ih]
  | case2 first high low rest none ih =>
    simp only [List.cons_append, percentDecode, none] at ih ⊢
    rw [ih]
  -- The end of the front is looked at together with the slash and what is behind it.
  | case3 few short =>
    match few, short with
    | [], _ => exact passed back
    | [first], _ =>
      match back with
      | [] => rfl
      | low :: rest =>
        have none : escaped first '/'.toUInt8 low = Option.none := escaped_slash (.inr (.inl rfl))
        simp only [List.cons_append, List.nil_append, percentDecode, none]
        rw [passed]
    | [first, second], _ =>
      have none : escaped first second '/'.toUInt8 = Option.none := escaped_slash (.inr (.inr rfl))
      simp only [List.cons_append, List.nil_append, percentDecode, none]
      match back with
      | [] => rfl
      | low :: rest =>
        have none : escaped second '/'.toUInt8 low = Option.none := escaped_slash (.inr (.inl rfl))
        simp only [percentDecode, none]
        rw [passed]
    | first :: high :: low :: rest, short => exact absurd rfl (short first high low rest)

theorem hasEscape_slash (front back : List UInt8) :
    hasEscape (front ++ '/'.toUInt8 :: back) = (hasEscape front || hasEscape back) := by
  -- The cases are those of the decoding.
  have passed (rest : List UInt8) : hasEscape ('/'.toUInt8 :: rest) = hasEscape rest := by
    match rest with
    | [] | [_] => rfl
    | high :: low :: rest => simp [hasEscape, escaped_slash (.inl rfl)]
  induction front using hasEscape.induct with
  | case1 first high low rest ih =>
    simp only [List.cons_append, hasEscape, Bool.or_assoc] at ih ⊢
    rw [ih]
  | case2 few short =>
    match few, short with
    | [], _ => simpa [hasEscape] using passed back
    | [first], _ =>
      match back with
      | [] => rfl
      | low :: rest =>
        have none : escaped first '/'.toUInt8 low = Option.none := escaped_slash (.inr (.inl rfl))
        simpa [hasEscape, none] using passed (low :: rest)
    | [first, second], _ =>
      have none : escaped first second '/'.toUInt8 = Option.none := escaped_slash (.inr (.inr rfl))
      match back with
      | [] => simp [hasEscape, none]
      | low :: rest =>
        have next : escaped second '/'.toUInt8 low = Option.none := escaped_slash (.inr (.inl rfl))
        simpa [hasEscape, none, next] using passed (low :: rest)
    | first :: high :: low :: rest, short => exact absurd rfl (short first high low rest)

/-- Without an escape there is nothing to decode. -/
theorem percentDecode_eq_self {bytes : List UInt8} (plain : hasEscape bytes = false) :
    percentDecode bytes = bytes := by
  -- No step of the decoding finds an escape.
  induction bytes using hasEscape.induct with
  | case1 first high low rest ih =>
    simp only [hasEscape, Bool.or_eq_false_iff, Option.isSome_eq_false_iff,
      Option.isNone_iff_eq_none] at plain
    rw [percentDecode, plain.1]
    simp only
    rw [ih plain.2]
  | case2 few short =>
    unfold percentDecode
    split
    · exact absurd rfl (short _ _ _ _)
    · rfl

/-- Decoding does not add bytes, and an escape becomes fewer of them. -/
theorem length_percentDecode (bytes : List UInt8) :
    (percentDecode bytes).length ≤ bytes.length ∧
      (hasEscape bytes = true → (percentDecode bytes).length < bytes.length) := by
  induction bytes using percentDecode.induct with
  -- An escape of three bytes is one byte afterwards.
  | case1 first high low rest byte found ih =>
    simp only [percentDecode, found, List.length_cons]
    omega
  -- Any other byte is kept.
  | case2 first high low rest none ih =>
    simp only [percentDecode, none, hasEscape, List.length_cons, Option.isSome_none,
      Bool.false_or] at ih ⊢
    exact ⟨by omega, fun escape => by have := ih.2 escape; omega⟩
  | case3 few short =>
    match few, short with
    | [], _ => simp [percentDecode, hasEscape]
    | [_], _ => simp [percentDecode, hasEscape]
    | [_, _], _ => simp [percentDecode, hasEscape]
    | first :: high :: low :: rest, short => exact absurd rfl (short first high low rest)

/-- How much a segment adds to a path when it is walked. -/
def Segment.weight : Segment (List UInt8) → Nat
  | .name bytes => bytes.length + 1
  | .stay | .up => 0

/-- How much the names of a path amount to. -/
def nameWeight (segments : List (Segment (List UInt8))) : Nat :=
  (segments.map Segment.weight).sum

/-- How much the names of a place amount to. -/
def Place.weight (place : Place (List UInt8)) : Nat := nameWeight (place.names.map .name)

theorem nameWeight_append (front back : List (Segment (List UInt8))) :
    nameWeight (front ++ back) = nameWeight front + nameWeight back := by
  simp [nameWeight]

theorem nameWeight_cons (segment : Segment (List UInt8)) (segments : List (Segment (List UInt8))) :
    nameWeight (segment :: segments) = segment.weight + nameWeight segments := by
  simp [nameWeight]

/-- A walk adds the names it goes along, and without a way up it loses none of them. -/
theorem Place.weight_walk (rooted : Bool) (place : Place (List UInt8))
    (segments : List (Segment (List UInt8))) :
    (place.walk rooted segments).weight ≤ place.weight + nameWeight segments ∧
      (.up ∉ segments → (place.walk rooted segments).weight = place.weight + nameWeight segments) := by
  -- The place changes with each segment, so it stays quantified over.
  induction segments generalizing place with
  | nil => simp [nameWeight]
  | cons segment segments ih =>
    have next := ih (place.step rooted segment)
    have unfolded : place.walk rooted (segment :: segments) =
        (place.step rooted segment).walk rooted segments := rfl
    rw [unfolded, nameWeight_cons]
    cases segment with
    | stay =>
      refine ⟨by simpa [step, Segment.weight] using next.1, fun level => ?_⟩
      simpa [step, Segment.weight] using next.2 (by simpa using level)
    | name entry =>
      have added : (place.step rooted (.name entry)).weight =
          place.weight + (Segment.name entry).weight := by
        simp [step, weight, nameWeight]
      rw [added] at next
      refine ⟨by omega, fun level => ?_⟩
      have exact := next.2 (by simpa using level)
      omega
    | up =>
      -- A way up takes the last name away, if there is one.
      have fewer : (place.step rooted .up).weight ≤ place.weight := by
        obtain ⟨ups, names⟩ := place
        rcases List.eq_nil_or_concat names with rfl | ⟨front, last, rfl⟩
        · cases rooted <;> exact le_refl _
        · simp [step, weight, nameWeight_append]
      refine ⟨by simp only [Segment.weight]; omega, fun level => ?_⟩
      simp at level

/-- A segment has no more weight than its bytes and the slash behind it. -/
theorem weight_byteSegment_le (bytes : List UInt8) :
    (byteSegment bytes).weight ≤ bytes.length + 1 := by
  -- A segment of dots has no weight, and any other one that of its bytes.
  unfold byteSegment
  split
  · exact Nat.zero_le _
  · split
    · exact Nat.zero_le _
    · exact le_refl _

/-- A segment that is longer than two dots, or has another byte in it, is a name. -/
theorem byteSegment_name {bytes : List UInt8} {byte : UInt8} (other : byte ≠ '.'.toUInt8)
    (inside : byte ∈ bytes) : byteSegment bytes = .name bytes := by
  -- Only texts of dots are not names.
  unfold byteSegment
  rw [if_neg, if_neg]
  · rintro rfl
    simp [other] at inside
  · rintro (rfl | rfl)
    · simp at inside
    · simp [other] at inside

theorem nameWeight_byteSegments_le (path : List UInt8) :
    nameWeight (byteSegments path) ≤ path.length + 1 := by
  -- The slash behind a segment makes up for the one that is counted with it.
  induction path using slashInduction with
  | whole bytes whole =>
    rw [byteSegments_whole whole]
    simpa [nameWeight] using weight_byteSegment_le bytes
  | slash front back whole ih =>
    rw [byteSegments_slash, byteSegments_whole whole, List.singleton_append, nameWeight_cons]
    have first := weight_byteSegment_le front
    simp only [List.length_append, List.length_cons]
    omega

theorem mem_of_hasEscape {bytes : List UInt8} (escape : hasEscape bytes = true) :
    '%'.toUInt8 ∈ bytes := by
  -- An escape starts with a percent sign, here or later.
  induction bytes using hasEscape.induct with
  | case1 first high low rest ih =>
    rw [hasEscape, Bool.or_eq_true] at escape
    rcases escape with here | later
    · unfold escaped at here
      split at here
      · simp_all
      · simp at here
    · exact List.mem_cons_of_mem _ (ih later)
  | case2 few short =>
    unfold hasEscape at escape
    split at escape
    · exact absurd rfl (short _ _ _ _)
    · exact absurd escape (by decide)

/-- The names of a path lose weight when an escape in them is decoded, and gain none. -/
theorem nameWeight_percentDecode (path : List UInt8) :
    nameWeight (byteSegments (percentDecode path)) ≤ nameWeight (byteSegments path) ∧
      (hasEscape path = true →
        nameWeight (byteSegments (percentDecode path)) < nameWeight (byteSegments path)) := by
  -- A segment with an escape is a name, and its decoded bytes are fewer.
  have single (bytes : List UInt8) (whole : '/'.toUInt8 ∉ bytes) :
      nameWeight (byteSegments (percentDecode bytes)) ≤ nameWeight (byteSegments bytes) ∧
        (hasEscape bytes = true →
          nameWeight (byteSegments (percentDecode bytes)) < nameWeight (byteSegments bytes)) := by
    cases escape : hasEscape bytes with
    | false => simp [percentDecode_eq_self escape]
    | true =>
      have named := byteSegment_name (by decide) (mem_of_hasEscape escape)
      have fewer := (length_percentDecode bytes).2 escape
      have bounded := nameWeight_byteSegments_le (percentDecode bytes)
      have before : nameWeight (byteSegments bytes) = bytes.length + 1 := by
        rw [byteSegments_whole whole, named]
        simp [nameWeight, Segment.weight]
      rw [before]
      exact ⟨by omega, fun _ => by omega⟩
  -- No escape reaches over a slash, so the segments are decoded one by one.
  induction path using slashInduction with
  | whole bytes whole => exact single bytes whole
  | slash front back whole ih =>
    have first := single front whole
    rw [percentDecode_slash, byteSegments_slash, byteSegments_slash, nameWeight_append,
      nameWeight_append, hasEscape_slash, Bool.or_eq_true]
    refine ⟨by omega, ?_⟩
    rintro (escape | escape)
    · have fewer := first.2 escape
      omega
    · have fewer := ih.2 escape
      omega

/-- A path that is cut off before a byte that is no dot and no slash loses weight. -/
theorem nameWeight_cut (front back : List UInt8) {byte : UInt8} (dot : byte ≠ '.'.toUInt8)
    (slash : byte ≠ '/'.toUInt8) :
    nameWeight (byteSegments front) < nameWeight (byteSegments (front ++ byte :: back)) := by
  -- The segments in front of the cut are the same on both sides.
  induction front using slashInduction with
  | whole front whole =>
    -- What is cut off begins inside of a name.
    have bounded := nameWeight_byteSegments_le front
    have heavier (rest : List UInt8) (inside : '/'.toUInt8 ∉ rest) :
        front.length + 1 < nameWeight (byteSegments (front ++ byte :: rest)) := by
      have joined : '/'.toUInt8 ∉ front ++ byte :: rest := by
        simp [whole, inside, slash.symm]
      rw [byteSegments_whole joined, byteSegment_name dot (by simp)]
      simp [nameWeight, Segment.weight]
    by_cases more : '/'.toUInt8 ∈ back
    · obtain ⟨rest, beyond, rfl, first⟩ := List.eq_append_cons_of_mem more
      have begun := heavier rest first
      rw [← List.cons_append, ← List.append_assoc, byteSegments_slash, nameWeight_append]
      omega
    · have begun := heavier back more
      omega
  | slash front rest whole ih =>
    rw [List.append_assoc, List.cons_append, byteSegments_slash, byteSegments_slash,
      nameWeight_append, nameWeight_append]
    omega

/-- The path of a URL that is made from an absolute path. -/
theorem urlPath_file (path : List UInt8) :
    urlPath (utf8 "file://" ++ '/'.toUInt8 :: path) =
      some (percentDecode (('/'.toUInt8 :: path).takeWhile fun byte => !endsPath byte)) := by
  -- The host is empty, as a slash follows the scheme.
  have scheme : (utf8 "file://").length = 7 := by decide
  have behind : (utf8 "file://" ++ '/'.toUInt8 :: path).drop 7 = '/'.toUInt8 :: path := by
    rw [← scheme]
    exact List.drop_left
  unfold urlPath
  rw [if_pos (by simp), behind]
  simp

/-- What is cut off and decoded has less weight than the path, unless the path is safe. -/
theorem nameWeight_url_lt {path : List UInt8} (special : ¬ UrlSafe path) :
    nameWeight (byteSegments (percentDecode (path.takeWhile fun byte => !endsPath byte))) <
      nameWeight (byteSegments path) := by
  cases found : path.find? endsPath with
  | some byte =>
    -- The path is cut off at the first such byte.
    obtain ⟨ends, front, back, rfl, before⟩ := List.find?_eq_some_iff_append.mp found
    have cut : (front ++ byte :: back).takeWhile (fun byte => !endsPath byte) = front := by
      rw [List.takeWhile_append_of_pos before]
      simp [ends]
    have apart (other : UInt8) (inside : endsPath other = false) : byte ≠ other := by
      rintro rfl
      simp [ends] at inside
    rw [cut]
    exact lt_of_le_of_lt (nameWeight_percentDecode front).1
      (nameWeight_cut front back (apart _ (by decide)) (apart _ (by decide)))
  -- Nothing is cut off, so there is an escape to be decoded.
  | none =>
    have whole : ∀ byte ∈ path, endsPath byte = false := by simpa using found
    have escape : hasEscape path = true := by
      by_contra plain
      exact special ⟨whole, by simpa using plain⟩
    rw [List.takeWhile_eq_self_iff.mpr (by simpa using whole)]
    exact (nameWeight_percentDecode path).2 escape

/-- A path at the root is a slash and what is behind it. -/
theorem utf8_absolute {path : String} (absolute : isAbsolute path = true) :
    ∃ rest, utf8 path = '/'.toUInt8 :: rest := by
  -- The first character is a slash, and a slash is one byte.
  obtain ⟨rest, chars⟩ : ∃ rest, path.toList = '/' :: rest := by
    cases chars : path.toList with
    | nil => simp [isAbsolute, chars] at absolute
    | cons first rest =>
      refine ⟨rest, ?_⟩
      simp only [isAbsolute, chars, List.head?_cons, Option.some.injEq, decide_eq_true_eq] at absolute
      rw [absolute]
  refine ⟨rest.flatMap String.utf8EncodeChar, ?_⟩
  have slash : String.utf8EncodeChar '/' = ['/'.toUInt8] := by decide
  rw [utf8, chars, List.flatMap_cons, slash]
  rfl

/-- Where the URL of an absolute path leads. -/
theorem urlPlace_absolute {path : String} (absolute : isAbsolute path = true) :
    urlPlace ("file://" ++ path) =
      some (bytePlace (percentDecode ((utf8 path).takeWhile fun byte => !endsPath byte))) := by
  obtain ⟨rest, bytes⟩ := utf8_absolute absolute
  unfold urlPlace
  rw [utf8_append, bytes, urlPath_file]
  rfl

/-- The URL of a safe path leads where the path does. -/
theorem urlPlace_of_safe {path : String} (absolute : isAbsolute path = true)
    (safe : UrlSafe (utf8 path)) :
    urlPlace ("file://" ++ path) = some (bytePlace (utf8 path)) := by
  -- Nothing is cut off, and nothing is decoded.
  obtain ⟨whole, plain⟩ := safe
  rw [urlPlace_absolute absolute, List.takeWhile_eq_self_iff.mpr (by simpa using whole),
    percentDecode_eq_self plain]

/-- The URL of a path without a way up leads where the path does only if the path is safe. -/
theorem safe_of_urlPlace {path : String} (absolute : isAbsolute path = true)
    (level : ¬ Climbs (utf8 path))
    (denotes : urlPlace ("file://" ++ path) = some (bytePlace (utf8 path))) :
    UrlSafe (utf8 path) := by
  by_contra special
  rw [urlPlace_absolute absolute, Option.some.injEq] at denotes
  -- The URL leads to names of less weight than those of the path.
  have lighter := nameWeight_url_lt special
  have bounded := (Place.start.weight_walk true (byteSegments (percentDecode
    ((utf8 path).takeWhile fun byte => !endsPath byte)))).1
  have reached := (Place.start.weight_walk true (byteSegments (utf8 path))).2 level
  have same : (bytePlace (utf8 path)).weight = Place.start.weight +
      nameWeight (byteSegments (utf8 path)) := reached
  rw [← denotes] at same
  unfold bytePlace at same
  omega

theorem urlSafe_slash (front back : List UInt8) :
    UrlSafe (front ++ '/'.toUInt8 :: back) ↔ UrlSafe front ∧ UrlSafe back := by
  -- A slash neither ends a path nor belongs to an escape.
  have slash : endsPath '/'.toUInt8 = false := by decide
  unfold UrlSafe
  rw [hasEscape_slash, Bool.or_eq_false_iff]
  simp only [List.mem_append, List.mem_cons, or_imp, forall_and, forall_eq, slash, true_and]
  tauto

theorem climbs_slash (front back : List UInt8) :
    Climbs (front ++ '/'.toUInt8 :: back) ↔ Climbs front ∨ Climbs back := by
  unfold Climbs
  rw [byteSegments_slash, List.mem_append]

/-- A character of the names that are safe everywhere. -/
def nameChar (char : Char) : Bool := char.isAlphanum || char = '-' || char = '.'

/-- Such a character is one byte, and it has no meaning of its own in a path or a URL. -/
theorem utf8EncodeChar_nameChar {char : Char} (tame : nameChar char = true) :
    String.utf8EncodeChar char = [char.toUInt8] ∧
      (∀ special ∈ ['/', '%', '?', '#'], char.toUInt8 ≠ special.toUInt8) ∧
      (char ≠ '.' → char.toUInt8 ≠ '.'.toUInt8) := by
  -- The characters lie in ranges of ASCII that the special ones are not in.
  have range : (0x41 ≤ char.toNat ∧ char.toNat ≤ 0x5A) ∨ (0x61 ≤ char.toNat ∧ char.toNat ≤ 0x7A) ∨
      (0x30 ≤ char.toNat ∧ char.toNat ≤ 0x39) ∨ char.toNat = 0x2D ∨ char.toNat = 0x2E := by
    simp only [nameChar, Char.isAlphanum, Char.isAlpha, Char.isUpper, Char.isLower, Char.isDigit,
      Bool.or_eq_true, Bool.and_eq_true, decide_eq_true_eq, ge_iff_le, UInt32.le_iff_toNat_le] at tame
    rcases tame with (((upper | lower) | digit) | rfl) | rfl
    · exact .inl upper
    · exact .inr (.inl lower)
    · exact .inr (.inr (.inl digit))
    · exact .inr (.inr (.inr (.inl rfl)))
    · exact .inr (.inr (.inr (.inr rfl)))
  -- So the byte has the value of the character.
  have byte : char.toUInt8.toNat = char.toNat := by
    have small : char.toNat < 256 := by omega
    unfold Char.toUInt8
    rw [UInt32.toNat_toUInt8]
    exact Nat.mod_eq_of_lt small
  refine ⟨?_, ?_, ?_⟩
  · apply String.utf8EncodeChar_eq_singleton
    unfold Char.utf8Size
    rw [if_pos]
    rw [UInt32.le_iff_toNat_le]
    change char.toNat ≤ 127
    omega
  · intro special listed same
    have equal := congrArg UInt8.toNat same
    rw [byte] at equal
    simp only [List.mem_cons, List.not_mem_nil, or_false] at listed
    rcases listed with rfl | rfl | rfl | rfl
    · have slash : '/'.toUInt8.toNat = 0x2F := rfl
      omega
    · have percent : '%'.toUInt8.toNat = 0x25 := rfl
      omega
    · have question : '?'.toUInt8.toNat = 0x3F := rfl
      omega
    · have hash : '#'.toUInt8.toNat = 0x23 := rfl
      omega
  · intro other same
    have equal := congrArg UInt8.toNat same
    rw [byte] at equal
    exact other (Char.ext (UInt32.toNat_inj.mp equal))

/-- A name of such characters that is not made of dots alone. -/
def UrlName (text : String) : Prop :=
  (∀ char ∈ text.toList, nameChar char = true) ∧ ∃ char ∈ text.toList, char ≠ '.'

instance (text : String) : Decidable (UrlName text) :=
  @instDecidableAnd _ _ (List.decidableBAll _ text.toList) (List.decidableBEx _ text.toList)

/-- Such a name stands for itself, in a URL and in a path. -/
theorem UrlName.safe {text : String} (name : UrlName text) :
    UrlSafe (utf8 text) ∧ ¬ Climbs (utf8 text) := by
  obtain ⟨tame, char, listed, other⟩ := name
  -- Every byte is one of the characters.
  have apart (byte : UInt8) (inside : byte ∈ utf8 text) :
      ∀ special ∈ ['/', '%', '?', '#'], byte ≠ special.toUInt8 := by
    obtain ⟨char, listed, held⟩ := List.mem_flatMap.mp inside
    obtain ⟨single, apart, _⟩ := utf8EncodeChar_nameChar (tame char listed)
    rw [single, List.mem_singleton] at held
    subst held
    exact apart
  refine ⟨⟨?_, ?_⟩, ?_⟩
  · intro byte inside
    have question := apart byte inside '?' (by simp)
    have hash := apart byte inside '#' (by simp)
    simp [endsPath, question, hash]
  · by_contra escape
    exact apart _ (mem_of_hasEscape (by simpa using escape)) '%' (by simp) rfl
  · -- Without a slash the name is one segment, and not all of it are dots.
    have whole : '/'.toUInt8 ∉ utf8 text := fun slash => apart _ slash '/' (by simp) rfl
    obtain ⟨single, _, letter⟩ := utf8EncodeChar_nameChar (tame char listed)
    have inside : char.toUInt8 ∈ utf8 text :=
      List.mem_flatMap.mpr ⟨char, listed, by simp [single]⟩
    unfold Climbs
    rw [byteSegments_whole whole, byteSegment_name (letter other) inside]
    simp

/-- An absolute path and one that is appended to it meet at a slash. -/
theorem pathJoin_slash {base path : String} (absolute : isAbsolute base = true)
    (below : isAbsolute path = false) :
    ∃ front, pathJoin base path = front ++ "/" ++ path ∧ (base = front ∨ base = front ++ "/") := by
  -- An absolute base is not empty, and it may end with a slash.
  unfold pathJoin
  rw [if_neg (by simp [below])]
  split
  case isTrue ended =>
    rcases ended with empty | closed
    · have none : base.toList = [] := List.getLast?_eq_none_iff.mp empty
      simp [isAbsolute, none] at absolute
    · obtain ⟨front, slash⟩ := eq_append_slash closed
      exact ⟨front, by rw [← slash], .inr slash⟩
  case isFalse => exact ⟨base, rfl, .inl rfl⟩

/-- A joined path is safe when both parts are, and climbs when one of them does. -/
theorem utf8_join {base path : String} (absolute : isAbsolute base = true)
    (below : isAbsolute path = false) :
    (UrlSafe (utf8 (pathJoin base path)) ↔ UrlSafe (utf8 base) ∧ UrlSafe (utf8 path)) ∧
      (Climbs (utf8 (pathJoin base path)) ↔ Climbs (utf8 base) ∨ Climbs (utf8 path)) := by
  obtain ⟨front, joined, base⟩ := pathJoin_slash absolute below
  -- A slash at the end of the base stands in front of nothing.
  have nothing : UrlSafe (utf8 "") ∧ ¬ Climbs (utf8 "") := by decide
  have closed := utf8_slash front ""
  rw [String.append_empty] at closed
  rw [joined, utf8_slash, urlSafe_slash, climbs_slash]
  rcases base with rfl | rfl
  · exact ⟨Iff.rfl, Iff.rfl⟩
  · rw [closed, urlSafe_slash, climbs_slash]
    simp [nothing]

end Zradar
