import Zradar.Otlp.ContentVariant

/-! What the JSON columns show of content: the attributes of a span, and the events that are kept. -/

namespace Zradar.Otlp

/-- Whether a value shows in JSON. -/
def AnyValue.Shown (value : AnyValue) : Prop := value.kind ≠ none ∧ value.kind ≠ some .strindex

theorem anyValueToJson_of_hidden (serde : SerdeJson) {value : AnyValue} (hidden : ¬ value.Shown) :
    anyValueToJson serde value = .null := by
  -- Only a missing value and an index into the table of strings are hidden.
  obtain ⟨inner⟩ := value
  cases inner with
  | none => rfl
  | some inner =>
    cases inner with
    | stringValueStrindex index => rfl
    | stringValue _ | boolValue _ | intValue _ | doubleValue _ | arrayValue _ | kvlistValue _
    | bytesValue _ =>
      exact absurd ⟨by simp [AnyValue.kind, AnyValue.value],
        by simp [AnyValue.kind, AnyValue.value, Value.kind]⟩ hidden

/-- Two values under a key have one kind, and are the same unless the key is of content. -/
def PairVaries (content : String → Bool) (first second : String × AnyValue) : Prop :=
  first.1 = second.1 ∧ first.2.kind = second.2.kind ∧ (content first.1 = false → first.2 = second.2)

section

variable {content : String → Bool} {firsts seconds : List KeyValue}
  (varies : List.Forall₂ (Varies content) firsts seconds)
include varies

theorem pairsOf_varies : List.Forall₂ (PairVaries content) (pairsOf firsts) (pairsOf seconds) := by
  -- Variants have a value at the same places, so the same pairs are left out.
  induction varies with
  | nil => exact .nil
  | @cons first second firsts seconds head _ ih =>
    obtain ⟨key, value⟩ := first
    obtain ⟨otherKey, other⟩ := second
    obtain ⟨same, kinds, values⟩ := head
    cases value with
    | none =>
      cases other with
      | none => exact ih
      | some other => exact nomatch kinds
    | some value =>
      cases other with
      | none => exact nomatch kinds
      | some other =>
        refine .cons ⟨same, Option.some.inj kinds, fun plain => ?_⟩ ih
        exact Option.some.inj (values plain)

/-- The last values under a key have one kind, and are the same unless the key is of content. -/
theorem lastValueOf_varies (key : String) :
    Option.Rel (fun first second => first.kind = second.kind ∧ (content key = false → first = second))
      (lastValueOf (pairsOf firsts) key) (lastValueOf (pairsOf seconds) key) := by
  -- The last value of a key is the first one when the pairs are reversed.
  have general : ∀ {front back : List (String × AnyValue)},
      List.Forall₂ (PairVaries content) front back →
      Option.Rel (fun first second =>
        first.kind = second.kind ∧ (content key = false → first = second))
        (valueOf front key) (valueOf back key) := by
    intro front back varies
    induction varies with
    | nil => exact .none
    | @cons first second front back head _ ih =>
      obtain ⟨same, kinds, values⟩ := head
      rw [valueOf_cons, valueOf_cons, ← same]
      split_ifs with here
      · exact .some ⟨kinds, fun plain => values (here ▸ plain)⟩
      · exact ih
  exact general (List.rel_reverse (pairsOf_varies varies))

/-- Attributes that show no content are written the same. -/
theorem sortedMap_eq_of_hidden (serde : SerdeJson)
    (hidden : ∀ key value, content key = true → lastValueOf (pairsOf firsts) key = some value →
      ¬ value.Shown) :
    sortedMap (pairsToJson serde firsts) = sortedMap (pairsToJson serde seconds) := by
  refine sortedMap_congr fun key => ?_
  rw [pairsToJson_eq, pairsToJson_eq, lastValueOf_mapEntries (fun _ => anyValueToJson serde),
    lastValueOf_mapEntries (fun _ => anyValueToJson serde)]
  have related := lastValueOf_varies varies key
  have quiet := hidden key
  revert related quiet
  generalize lastValueOf (pairsOf firsts) key = first
  generalize lastValueOf (pairsOf seconds) key = second
  intro related quiet
  cases related with
  | none => rfl
  | @some value other related =>
    obtain ⟨kinds, values⟩ := related
    cases plain : content key with
    | false => rw [values plain]
    | true =>
      -- Both values are null.
      have first : ¬ value.Shown := quiet value plain rfl
      have second : ¬ other.Shown := by
        unfold AnyValue.Shown at first ⊢
        rwa [← kinds]
      rw [Option.map_some, Option.map_some, anyValueToJson_of_hidden serde first,
        anyValueToJson_of_hidden serde second]

end

/-- An object of canonical values is canonical. -/
theorem obj_canonical {pairs : List (String × Json)} (each : ∀ pair ∈ pairs, pair.2.Canonical) :
    (Json.obj (sortedMap pairs)).Canonical := by
  rw [Json.Canonical, Json.canonicalEntries_iff]
  exact ⟨ascending_sortedMap pairs, fun entry member => each entry (mem_sortedMap member)⟩

/-- The serializer writes every double with a fraction or an exponent. -/
def WritesFractions (serde : SerdeJson) : Prop := ∀ value, Json.IsFraction (serde.writeF64 value)

theorem plainSerde_fractions : WritesFractions plainSerde := by
  -- The writer of the example writes every fraction as the same text.
  intro value
  refine ⟨?_, '.', ?_, ?_⟩
  · show ∀ char ∈ "0.0".toList, Json.isNumberChar char = true
    exact List.all_eq_true.mp (by decide)
  · show '.' ∈ "0.0".toList
    decide
  · decide

theorem toJson_canonical {serde : SerdeJson} (fractions : WritesFractions serde) (value : F64) :
    (value.toJson serde).Canonical := by
  cases value with
  | finite value => exact fractions value
  | posInf | negInf | nan => exact trivial

mutual

/-- Values are converted to canonical trees. -/
theorem anyValueToJson_canonical {serde : SerdeJson} (fractions : WritesFractions serde) :
    ∀ value : AnyValue, (anyValueToJson serde value).Canonical
  | .mk none => trivial
  | .mk (some value) => valueToJson_canonical fractions value

theorem valueToJson_canonical {serde : SerdeJson} (fractions : WritesFractions serde) :
    ∀ value : Value, (valueToJson serde value).Canonical
  | .stringValue _ => trivial
  | .boolValue _ => trivial
  | .intValue _ => trivial
  | .doubleValue value => toJson_canonical fractions value
  | .arrayValue values => by
    rw [valueToJson, Json.Canonical, Json.canonicalItems_iff]
    exact valuesToJson_canonical fractions values
  | .kvlistValue values => obj_canonical (pairsToJson_canonical fractions values)
  | .bytesValue _ => trivial
  | .stringValueStrindex _ => trivial

theorem valuesToJson_canonical {serde : SerdeJson} (fractions : WritesFractions serde) :
    ∀ values : List AnyValue, ∀ item ∈ valuesToJson serde values, item.Canonical
  | [] => fun _ member => nomatch member
  | value :: values => by
    rw [valuesToJson, List.forall_mem_cons]
    exact ⟨anyValueToJson_canonical fractions value, valuesToJson_canonical fractions values⟩

theorem pairsToJson_canonical {serde : SerdeJson} (fractions : WritesFractions serde) :
    ∀ pairs : List KeyValue, ∀ pair ∈ pairsToJson serde pairs, pair.2.Canonical
  | [] => fun _ member => nomatch member
  | .mk _ none :: pairs => by
    rw [pairsToJson]
    exact pairsToJson_canonical fractions pairs
  | .mk _ (some value) :: pairs => by
    rw [pairsToJson, List.forall_mem_cons]
    exact ⟨anyValueToJson_canonical fractions value, pairsToJson_canonical fractions pairs⟩

end

theorem Event.toJson_canonical {serde : SerdeJson} (fractions : WritesFractions serde)
    (event : Event) : (event.toJson serde).Canonical := by
  -- The fields of an event are written as a map, which is canonical when its values are.
  refine obj_canonical ?_
  simp only [List.forall_mem_append, List.forall_mem_singleton]
  refine ⟨⟨trivial, ?_⟩, ?_⟩
  · split_ifs
    · exact fun _ member => nomatch member
    · exact List.forall_mem_singleton.mpr trivial
  · split_ifs
    · exact fun _ member => nomatch member
    · refine List.forall_mem_singleton.mpr ?_
      exact obj_canonical (pairsToJson_canonical fractions event.attributes)

/-- One of two values of the kind of a value. -/
def Value.alternate (flag : Bool) : Value → Value
  | .stringValue _ => .stringValue (if flag then "x" else "")
  | .boolValue _ => .boolValue flag
  | .intValue _ => .intValue (if flag then 1 else 0)
  | .doubleValue _ => .doubleValue (if flag then .nan else .zero)
  | .arrayValue _ => .arrayValue (if flag then [.mk none] else [])
  | .kvlistValue _ => .kvlistValue (if flag then [.mk "" (some (.mk none))] else [])
  | .bytesValue _ => .bytesValue (if flag then [0] else [])
  | .stringValueStrindex index => .stringValueStrindex index

def AnyValue.alternate (flag : Bool) (value : AnyValue) : AnyValue :=
  .mk (value.value.map (Value.alternate flag))

theorem AnyValue.alternate_kind (flag : Bool) (value : AnyValue) :
    (value.alternate flag).kind = value.kind := by
  obtain ⟨inner⟩ := value
  cases inner with
  | none => rfl
  | some inner => cases inner <;> rfl

/-- The two values are written differently, if their kind shows at all. -/
theorem AnyValue.alternate_differs (serde : SerdeJson) {value : AnyValue} (shown : value.Shown) :
    (anyValueToJson serde (value.alternate true)).outline ≠
      (anyValueToJson serde (value.alternate false)).outline := by
  -- The two alternates of a shown value have outlines that differ.
  obtain ⟨inner⟩ := value
  cases inner with
  | none => exact absurd rfl shown.1
  | some inner =>
    cases inner with
    | stringValueStrindex index => exact absurd rfl shown.2
    | stringValue _ | boolValue _ | intValue _ | doubleValue _ | arrayValue _ | kvlistValue _
    | bytesValue _ =>
      intro same
      simp [AnyValue.alternate, AnyValue.value, Value.alternate, anyValueToJson, valueToJson,
        valuesToJson, pairsToJson, F64.toJson, F64.zero, Json.outline, Json.outlineItems_eq,
        Json.outlineEntries_eq, hexEncode, sortedMap, insertAll, insertEntry] at same

/-- Attributes with one of two values under a key. -/
def alternateAt (key : String) (flag : Bool) (attributes : List KeyValue) : List KeyValue :=
  attributes.map fun pair =>
    if pair.key = key then .mk pair.key (pair.value.map (AnyValue.alternate flag)) else pair

theorem alternateAt_varies {content : String → Bool} {key : String} (isContent : content key = true)
    (flag : Bool) (attributes : List KeyValue) :
    List.Forall₂ (Varies content) attributes (alternateAt key flag attributes) := by
  -- Attributes of other keys are the same, and the key itself is one of content.
  unfold alternateAt
  rw [List.forall₂_map_right_iff]
  refine forall₂_refl (fun pair => ?_) attributes
  split_ifs with here
  · refine ⟨rfl, ?_, fun plain => ?_⟩
    · show pair.value.map AnyValue.kind = (pair.value.map (AnyValue.alternate flag)).map AnyValue.kind
      rw [Option.map_map]
      congr 1
      funext value
      exact (value.alternate_kind flag).symm
    · rw [here, isContent] at plain
      exact nomatch plain
  · exact Varies.refl pair

theorem lastValueOf_alternateAt (key : String) (flag : Bool) (attributes : List KeyValue) :
    lastValueOf (pairsOf (alternateAt key flag attributes)) key =
      (lastValueOf (pairsOf attributes) key).map (AnyValue.alternate flag) := by
  -- The alternate is taken at every attribute of the key, so also at the last one.
  have pairs : pairsOf (alternateAt key flag attributes) = (pairsOf attributes).map fun pair =>
      (pair.1, if pair.1 = key then pair.2.alternate flag else pair.2) := by
    induction attributes with
    | nil => rfl
    | cons pair attributes ih =>
      obtain ⟨name, value⟩ := pair
      have head : alternateAt key flag (.mk name value :: attributes) =
          .mk name (if name = key then value.map (AnyValue.alternate flag) else value) ::
            alternateAt key flag attributes := by
        rw [alternateAt, List.map_cons]
        show (if name = key then _ else _) :: _ = _
        split_ifs <;> rfl
      rw [head]
      cases value with
      | none =>
        rw [Option.map_none, ite_self]
        exact ih
      | some value =>
        show pairsOf _ = (name, if name = key then _ else _) :: List.map _ (pairsOf attributes)
        rw [← ih]
        split_ifs <;> rfl
  rw [pairs]
  refine (lastValueOf_mapEntries
    (fun name value => if name = key then AnyValue.alternate flag value else value) _ key).trans ?_
  simp

/-- What an event holds under a key, as JSON. -/
theorem Event.toJson_entries (serde : SerdeJson) (event : Event) :
    ∃ entries, event.toJson serde = .obj entries ∧
      valueOf entries "name" = some (.str event.name) ∧
      (event.attributes ≠ [] → valueOf entries "attributes" =
        some (.obj (sortedMap (pairsToJson serde event.attributes)))) := by
  -- The name is always written, and the attributes only when there are any.
  refine ⟨_, rfl, ?_, ?_⟩
  · rw [valueOf_sortedMap]
    split_ifs <;> rfl
  · intro some
    have filled : event.attributes.isEmpty = false := by simpa using some
    rw [valueOf_sortedMap, filled, if_neg Bool.false_ne_true]
    split_ifs <;> rfl

section

variable (serde : SerdeJson)

/-- The column of events when some more are looked at and some bytes are used. -/
def columnFrom : Nat → Nat → List Event → List Json
  | _, _, [] => []
  | room, used, event :: events =>
    if event.isNewToken then columnFrom room used events
    else if room = 0 then []
    else if event.isPromoted then columnFrom (room - 1) used events
    else if used + eventCost serde event > maxBytesPerSpan then [truncationMarker]
    else event.toJson serde :: columnFrom (room - 1) (used + eventCost serde event) events

/-- A promoted event leaves everything but the texts as it is. -/
theorem promoteEvent_column (event : Event) (state : EventLoop) :
    (promoteEvent serde event state).preserved = state.preserved ∧
      (promoteEvent serde event state).runningBytes = state.runningBytes ∧
      (promoteEvent serde event state).truncated = state.truncated := by
  -- The details of an inference fill fields of the span, and nothing of the column.
  have detail : ∀ (pairs : List KeyValue) (state : EventLoop),
      (pairs.foldl (applyInferenceDetail serde) state).preserved = state.preserved ∧
        (pairs.foldl (applyInferenceDetail serde) state).runningBytes = state.runningBytes ∧
        (pairs.foldl (applyInferenceDetail serde) state).truncated = state.truncated := by
    intro pairs
    induction pairs with
    | nil => exact fun state => ⟨rfl, rfl, rfl⟩
    | cons pair pairs ih =>
      intro state
      have step : (applyInferenceDetail serde state pair).preserved = state.preserved ∧
          (applyInferenceDetail serde state pair).runningBytes = state.runningBytes ∧
          (applyInferenceDetail serde state pair).truncated = state.truncated := by
        unfold applyInferenceDetail
        cases pair.value with
        | none => exact ⟨rfl, rfl, rfl⟩
        | some value =>
          dsimp only
          split_ifs <;> exact ⟨rfl, rfl, rfl⟩
      obtain ⟨preserved, bytes, truncated⟩ := ih (applyInferenceDetail serde state pair)
      exact ⟨preserved.trans step.1, bytes.trans step.2.1, truncated.trans step.2.2⟩
  unfold promoteEvent
  split_ifs
  · exact ⟨rfl, rfl, rfl⟩
  · exact ⟨rfl, rfl, rfl⟩
  · exact ⟨rfl, rfl, rfl⟩
  · exact ⟨rfl, rfl, rfl⟩
  · exact detail event.attributes state

/-- The loop adds to what is preserved the column of the events that it looks at. -/
theorem eventLoop_column (events : List Event) (room : Nat) (state : EventLoop)
    (open_ : state.truncated = false) :
    (eventLoop serde ((events.filter fun event => !event.isNewToken).take room) state).column =
      state.preserved ++ columnFrom serde room state.runningBytes events := by
  -- The induction follows the events; a loop that has not stopped keeps what it has so far.
  have stays : ∀ state : EventLoop, state.truncated = false → state.column = state.preserved := by
    intro state running
    simp [EventLoop.column, running]
  induction events generalizing room state with
  | nil => simp [eventLoop, columnFrom, stays state open_]
  | cons event events ih =>
    rw [columnFrom]
    by_cases noise : event.isNewToken = true
    · rw [List.filter_cons_of_neg (by simp [noise]), if_pos noise]
      exact ih room state open_
    · rw [List.filter_cons_of_pos (by simp [noise]), if_neg noise]
      cases room with
      | zero => simp [eventLoop, stays state open_]
      | succ room =>
        rw [List.take_succ_cons, eventLoop, if_neg (Nat.succ_ne_zero room), Nat.add_sub_cancel]
        split_ifs with promoted full
        · obtain ⟨preserved, bytes, truncated⟩ := promoteEvent_column serde event state
          rw [ih room _ (truncated.trans open_), preserved, bytes]
        · simp [EventLoop.column]
        · set next : EventLoop := { state with
            runningBytes := state.runningBytes + eventCost serde event
            preserved := state.preserved ++ [event.toJson serde] }
          refine (ih room next open_).trans ?_
          rw [List.append_assoc, List.singleton_append]

end

end Zradar.Otlp
