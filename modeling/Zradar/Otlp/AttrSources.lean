import Zradar.Otlp.MetricLabels
import Zradar.Otlp.SpanTypeMapper

/-! The borrowed view of some attributes, against the map that they are stored as. -/

namespace Zradar.Otlp

/-- The text of a JSON string. -/
def asStr : Json → Option String
  | .str text => some text
  | _ => none

/-- A JSON number that fits 64 bits. -/
def asI64 (tree : Json) : Option Int64 := (tree.readInt (2 ^ 63)).map Int64.ofInt

/-- The value of a JSON flag. -/
def asBool : Json → Option Bool
  | .bool value => some value
  | _ => none

/-- The entries that some attributes are stored as. -/
def storedAttributes (serde : SerdeJson) (attributes : List KeyValue) : List (String × Json) :=
  sortedMap (pairsToJson serde attributes)

/-- The look-ups of the type detection in a map. -/
def mapSource (entries : List (String × Json)) : AttrSource where
  lookupStr key := (valueOf entries key).bind asStr
  hasKey key := (valueOf entries key).isSome
  hasKeyPrefix lead := entries.any fun entry => startsWith entry.1 lead

namespace AttrView

/-- The lazily built index from each key to the position of its last attribute. -/
def index (view : AttrView) : String → Option Nat :=
  view.attributes.zipIdx.foldl
    (fun index entry => Function.update index entry.1.key (some entry.2)) fun _ => none

/-- The value at the position in the index. -/
def getIndexed (view : AttrView) (key : String) : Option AnyValue := do
  let position ← view.index key
  let pair ← view.attributes[position]?
  pair.value

/-- What the claims of the view and the map come to for one list of attributes. -/
structure AgreesWith (view : AttrView) (entries : List (String × Json)) : Prop where
  strings : ∀ key, view.getStr key = (valueOf entries key).bind asStr
  integers : ∀ key, view.getI64 key = (valueOf entries key).bind asI64
  flags : ∀ key, view.getBool key = (valueOf entries key).bind asBool
  keys : ∀ key, view.contains key = (valueOf entries key).isSome
  /-- The detected type is the same, however long the span is and whatever it is called. -/
  types : ∀ toUppercase durationNs spanName serviceName,
    SpanTypeMapper.detectType view.toSource toUppercase durationNs spanName serviceName =
      SpanTypeMapper.detectType (mapSource entries) toUppercase durationNs spanName serviceName

end AttrView

/-- Bytes are stored as a text, but they are no text of the view. -/
def AnyValue.isBytes (value : AnyValue) : Bool :=
  match value.value with
  | some (.bytesValue _) => true
  | _ => false

/-- The values that are stored as a text, a number or a flag that the map can be asked for. -/
def AnyValue.isRead (value : AnyValue) : Bool :=
  match value.value with
  | some (.stringValue _) | some (.boolValue _) | some (.intValue _) | some (.bytesValue _) => true
  | _ => false

/--
The last attribute of a key has a value that is not bytes; or it has none, and the one that is
stored instead is nothing that the map can be asked for.
-/
structure ShownAsStored (attributes : List KeyValue) (key : String) : Prop where
  written : ∀ value, lastValueOf (occurrences attributes) key = some (some value) →
    value.isBytes = false
  missing : lastValueOf (occurrences attributes) key = some none →
    ∃ value, lastValueOf (pairsOf attributes) key = some value ∧ value.isRead = false

section

variable (attributes : List KeyValue) (key : String)

/-- The text that is stored is that of the map. -/
theorem stored_text (serde : SerdeJson) :
    attrsToJsonFiltered serde attributes (fun _ => false) =
      (Json.obj (storedAttributes serde attributes)).text := by
  rw [attrsToJsonFiltered_eq, storedAttributes]
  simp only [Bool.not_false, List.filter_true]

theorem valueOf_storedAttributes (serde : SerdeJson) :
    valueOf (storedAttributes serde attributes) key =
      (lastValueOf (pairsOf attributes) key).map (anyValueToJson serde) := by
  rw [storedAttributes, valueOf_sortedMap, pairsToJson_eq]
  exact lastValueOf_mapEntries (fun _ => anyValueToJson serde) (pairsOf attributes) key

/-- The last attribute with a key is the one that the view shows. -/
theorem find_reverse_eq :
    (attributes.reverse.find? fun pair => pair.key = key).map KeyValue.value =
      lastValueOf (occurrences attributes) key := by
  rw [lastValueOf, valueOf, occurrences, ← List.map_reverse, List.find?_map, Option.map_map]
  rfl

theorem get_eq : (AttrView.mk attributes).get key =
    (lastValueOf (occurrences attributes) key).join := by
  rw [← find_reverse_eq, AttrView.get]
  cases attributes.reverse.find? fun pair => pair.key = key <;> rfl

theorem contains_eq_lastValueOf : (AttrView.mk attributes).contains key =
    (lastValueOf (occurrences attributes) key).isSome := by
  rw [← find_reverse_eq, Option.isSome_map, Bool.eq_iff_iff, List.find?_isSome, AttrView.contains,
    List.any_eq_true]
  simp only [List.mem_reverse]

end

/-- Another attribute at the end takes the place of its key in the index. -/
theorem index_append (front : List KeyValue) (pair : KeyValue) :
    (AttrView.mk (front ++ [pair])).index =
      Function.update (AttrView.mk front).index pair.key (some front.length) := by
  simp [AttrView.index, List.zipIdx_append]

theorem lt_of_index {attributes : List KeyValue} {key : String} {position : Nat}
    (found : (AttrView.mk attributes).index key = some position) :
    position < attributes.length := by
  induction attributes using List.reverseRecOn with
  | nil => cases found
  | append_singleton front pair ih =>
    rw [index_append] at found
    rw [List.length_append, List.length_singleton]
    by_cases here : key = pair.key
    · -- The last position is that of the last attribute.
      rw [here, Function.update_self, Option.some.injEq] at found
      omega
    · rw [Function.update_of_ne here] at found
      have earlier := ih found
      omega

/-- The index finds what a search from the end finds. -/
theorem getIndexed_eq (view : AttrView) (key : String) : view.getIndexed key = view.get key := by
  obtain ⟨attributes⟩ := view
  -- The index is built from the front, so the induction takes attributes off the end.
  induction attributes using List.reverseRecOn with
  | nil => rfl
  | append_singleton front pair ih =>
    unfold AttrView.getIndexed AttrView.get at ih ⊢
    rw [index_append, List.reverse_concat, List.find?_cons]
    by_cases here : pair.key = key
    · simp [here]
    · rw [Function.update_of_ne (Ne.symm here)]
      simp only [here, decide_false]
      rw [← ih]
      cases found : (AttrView.mk front).index key with
      | none => rfl
      | some position =>
        have inside : position < front.length := lt_of_index found
        simp [List.getElem?_append_left inside]

theorem isSome_index (view : AttrView) (key : String) :
    (view.index key).isSome = view.contains key := by
  -- Later pairs overwrite earlier ones in the index, so the induction is from the back.
  obtain ⟨attributes⟩ := view
  induction attributes using List.reverseRecOn with
  | nil => rfl
  | append_singleton front pair ih =>
    rw [AttrView.contains] at ih ⊢
    rw [index_append, List.any_append]
    by_cases here : pair.key = key
    · simp [here]
    · rw [Function.update_of_ne (Ne.symm here), ih]
      simp [here]

section

variable {serde : SerdeJson} {attributes : List KeyValue} {key : String} {value : AnyValue}

theorem asI64_toInt (number : Int64) : asI64 (.int number.toInt) = some number := by
  exact Json.readInt_int64 number

/-- The map cannot be asked for a value that is no text, number or flag. -/
theorem unread (plain : value.isRead = false) :
    asStr (anyValueToJson serde value) = none ∧ asI64 (anyValueToJson serde value) = none ∧
      asBool (anyValueToJson serde value) = none := by
  obtain ⟨value⟩ := value
  cases value with
  | none => exact ⟨rfl, rfl, rfl⟩
  | some value =>
    cases value with
    | doubleValue number => cases number <;> exact ⟨rfl, rfl, rfl⟩
    | arrayValue _ | kvlistValue _ | stringValueStrindex _ => exact ⟨rfl, rfl, rfl⟩
    | stringValue _ | boolValue _ | intValue _ | bytesValue _ => cases plain

/-- Any other value is found by one of the look-ups. -/
theorem isRead_eq_false (text : asStr (anyValueToJson serde value) = none)
    (number : asI64 (anyValueToJson serde value) = none)
    (flag : asBool (anyValueToJson serde value) = none) : value.isRead = false := by
  -- Of the kinds that are read, each is found by the look-up of its own type.
  obtain ⟨value⟩ := value
  cases value with
  | none => rfl
  | some value =>
    cases value with
    | stringValue _ | bytesValue _ => cases text
    | boolValue _ => cases flag
    | intValue value =>
      have found := asI64_toInt value
      rw [show Json.int value.toInt = anyValueToJson serde (.mk (some (.intValue value))) from rfl,
        number] at found
      contradiction
    | doubleValue _ | arrayValue _ | kvlistValue _ | stringValueStrindex _ => rfl

/-- A value that is not bytes is read as it is stored. -/
theorem accessors_of_get {view : AttrView} (got : view.get key = some value)
    (notBytes : value.isBytes = false) :
    view.getStr key = asStr (anyValueToJson serde value) ∧
      view.getI64 key = asI64 (anyValueToJson serde value) ∧
      view.getBool key = asBool (anyValueToJson serde value) := by
  -- Kind by kind; bytes are the one kind that is stored as a text but not read as one.
  unfold AttrView.getStr AttrView.getI64 AttrView.getBool
  rw [got]
  obtain ⟨value⟩ := value
  cases value with
  | none => exact ⟨rfl, rfl, rfl⟩
  | some value =>
    cases value with
    | intValue number => exact ⟨rfl, (asI64_toInt number).symm, rfl⟩
    | doubleValue number => cases number <;> exact ⟨rfl, rfl, rfl⟩
    | bytesValue _ => cases notBytes
    | stringValue _ | boolValue _ | arrayValue _ | kvlistValue _ | stringValueStrindex _ =>
      exact ⟨rfl, rfl, rfl⟩

theorem accessors_of_get_none {view : AttrView} (got : view.get key = none) :
    view.getStr key = none ∧ view.getI64 key = none ∧ view.getBool key = none := by
  unfold AttrView.getStr AttrView.getI64 AttrView.getBool
  rw [got]
  exact ⟨rfl, rfl, rfl⟩

/-- The look-ups of one key agree exactly if its attribute is shown as it is stored. -/
theorem lookups_agree_iff :
    ((AttrView.mk attributes).getStr key =
          (valueOf (storedAttributes serde attributes) key).bind asStr ∧
        (AttrView.mk attributes).getI64 key =
          (valueOf (storedAttributes serde attributes) key).bind asI64 ∧
        (AttrView.mk attributes).getBool key =
          (valueOf (storedAttributes serde attributes) key).bind asBool ∧
        (AttrView.mk attributes).contains key =
          (valueOf (storedAttributes serde attributes) key).isSome) ↔
      ShownAsStored attributes key := by
  have present := (lastValueOf_pairsOf attributes key).1
  have absent := (lastValueOf_pairsOf attributes key).2
  have got := get_eq attributes key
  rw [valueOf_storedAttributes, contains_eq_lastValueOf]
  cases last : lastValueOf (occurrences attributes) key with
  | none =>
    -- The key is in neither.
    rw [last] at got
    obtain ⟨text, number, flag⟩ := accessors_of_get_none got
    rw [absent last, text, number, flag]
    refine ⟨fun _ => ⟨?_, ?_⟩, fun _ => ⟨rfl, rfl, rfl, rfl⟩⟩
    · intro value found
      rw [last] at found
      contradiction
    · intro found
      rw [last] at found
      contradiction
  | some value =>
    rw [last] at got
    cases value with
    | some value =>
      -- Both have the value, so all depends on whether it is bytes.
      rw [present value last]
      constructor
      · rintro ⟨text, -, -, -⟩
        refine ⟨?_, ?_⟩
        · intro other found
          rw [last, Option.some.injEq, Option.some.injEq] at found
          subst found
          by_contra bytes
          obtain ⟨value⟩ := value
          unfold AttrView.getStr at text
          rw [got] at text
          cases value with
          | none => exact bytes rfl
          | some value =>
            cases value with
            | bytesValue _ => cases text
            | _ => exact bytes rfl
        · intro found
          rw [last] at found
          cases found
      · intro shown
        have notBytes := shown.written value last
        obtain ⟨text, number, flag⟩ := @accessors_of_get serde key value _ got notBytes
        exact ⟨text, number, flag, rfl⟩
    | none =>
      -- The view has the key without a value, so the map has to have it as nothing that is read.
      obtain ⟨text, number, flag⟩ := accessors_of_get_none got
      rw [text, number, flag]
      constructor
      · rintro ⟨noText, noNumber, noFlag, stored⟩
        refine ⟨?_, ?_⟩
        · intro value found
          rw [last] at found
          cases found
        · intro _
          obtain ⟨tree, found⟩ := Option.isSome_iff_exists.mp stored.symm
          obtain ⟨value, kept, rfl⟩ := Option.map_eq_some_iff.mp found
          rw [kept] at noText noNumber noFlag
          exact ⟨value, kept, isRead_eq_false noText.symm noNumber.symm noFlag.symm⟩
      · intro shown
        obtain ⟨value, kept, plain⟩ := shown.missing last
        obtain ⟨noText, noNumber, noFlag⟩ := @unread serde value plain
        rw [kept, Option.map_some]
        exact ⟨noText.symm, noNumber.symm, noFlag.symm, rfl⟩

/-- The search for a prefix leaves out what is not stored, and finds what is. -/
theorem hasKeyPrefix_eq (serde : SerdeJson) (attributes : List KeyValue) :
    (AttrView.mk attributes).toSource.hasKeyPrefix =
      (mapSource (storedAttributes serde attributes)).hasKeyPrefix := by
  funext lead
  rw [Bool.eq_iff_iff]
  simp only [AttrView.toSource, mapSource, List.any_eq_true, Bool.and_eq_true]
  constructor
  · rintro ⟨pair, member, valued, starts⟩
    -- Some value under this key is stored.
    obtain ⟨value, given⟩ := Option.isSome_iff_exists.mp valued
    have listed : (pair.key, value) ∈ pairsOf attributes :=
      List.mem_filterMap.mpr ⟨pair, member, by rw [given]; rfl⟩
    have found : (lastValueOf (pairsOf attributes) pair.key).isSome = true := by
      rw [lastValueOf, valueOf, Option.isSome_map, List.find?_isSome]
      exact ⟨_, List.mem_reverse.mpr listed, by simp⟩
    obtain ⟨last, found⟩ := Option.isSome_iff_exists.mp found
    have stored := valueOf_storedAttributes attributes pair.key serde
    rw [found] at stored
    exact ⟨_, mem_of_valueOf stored, starts⟩
  · rintro ⟨entry, stored, starts⟩
    -- What is stored comes from an attribute with a value.
    have listed := mem_sortedMap stored
    rw [pairsToJson_eq, List.mem_map] at listed
    obtain ⟨⟨key, value⟩, listed, rfl⟩ := listed
    obtain ⟨pair, member, given⟩ := List.mem_filterMap.mp listed
    obtain ⟨value, valued, same⟩ := Option.map_eq_some_iff.mp given
    cases same
    exact ⟨pair, member, by rw [valued]; rfl, starts⟩

/--
The view of some attributes agrees with what they are stored as, in every look-up and in the type
that is detected, exactly if every key is shown as it is stored.
-/
theorem view_agrees_iff (serde : SerdeJson) (attributes : List KeyValue) :
    (AttrView.mk attributes).AgreesWith (storedAttributes serde attributes) ↔
      ∀ key, ShownAsStored attributes key := by
  constructor
  · intro agrees key
    exact lookups_agree_iff.mp
      ⟨agrees.strings key, agrees.integers key, agrees.flags key, agrees.keys key⟩
  · intro shown
    have agree (key : String) := (@lookups_agree_iff serde attributes key).mpr (shown key)
    refine ⟨fun key => (agree key).1, fun key => (agree key).2.1, fun key => (agree key).2.2.1,
      fun key => (agree key).2.2.2, ?_⟩
    -- The detection sees no more of the attributes than its three look-ups.
    have same : (AttrView.mk attributes).toSource =
        mapSource (storedAttributes serde attributes) := by
      have strings : (AttrView.mk attributes).toSource.lookupStr =
          (mapSource (storedAttributes serde attributes)).lookupStr :=
        funext fun key => (agree key).1
      have keys : (AttrView.mk attributes).toSource.hasKey =
          (mapSource (storedAttributes serde attributes)).hasKey :=
        funext fun key => (agree key).2.2.2
      have prefixes := hasKeyPrefix_eq serde attributes
      generalize (AttrView.mk attributes).toSource = first at *
      generalize mapSource (storedAttributes serde attributes) = second at *
      obtain ⟨_, _, _⟩ := first
      obtain ⟨_, _, _⟩ := second
      subst strings keys prefixes
      rfl
    rw [same]
    exact fun _ _ _ _ => rfl

/-- An attribute without a value makes a generation of a span whose stored map has no model. -/
theorem valueless_model_disagrees :
    ¬ (AttrView.mk [.mk "gen_ai.request.model" none]).AgreesWith
      (storedAttributes plainSerde [.mk "gen_ai.request.model" none]) := by
  -- The view finds the key and takes it for a model, where the map has no text for it.
  intro agrees
  have types := agrees.types id 1 "call" "service"
  have view : SpanTypeMapper.detectType
      (AttrView.mk [.mk "gen_ai.request.model" none]).toSource id 1 "call" "service" =
        "GENERATION" := by
    decide +kernel
  have stored : SpanTypeMapper.detectType
      (mapSource (storedAttributes plainSerde [.mk "gen_ai.request.model" none])) id 1 "call"
        "service" = "SPAN" := by
    decide +kernel
  rw [view, stored] at types
  contradiction

end

end Zradar.Otlp
