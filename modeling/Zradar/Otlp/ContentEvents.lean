import Zradar.Otlp.ContentColumns

/-! When the column of events shows no content, however many events are looked at before it. -/

namespace Zradar.Otlp

namespace Event

/-- Whether an attribute is where a stream of tokens is marked. -/
def couldMark (pair : KeyValue) : Bool :=
  pair.key = "nat.event_type" && pair.value.bind AnyValue.kind = some .string

/-- Whether other values could make an event one of a stream of tokens. -/
def canBeNewToken (event : Event) : Bool := event.attributes.any couldMark

/-- An event has content that shows in the column. -/
def ShowsContent (event : Event) : Prop :=
  ∃ key value, isContentKey key = true ∧ lastValueOf (pairsOf event.attributes) key = some value ∧
    value.Shown

theorem Varies.refl (event : Event) : event.Varies event :=
  ⟨rfl, rfl, forall₂_refl Otlp.Varies.refl event.attributes⟩

/-- Whether an attribute marks an event depends on its kind and its value. -/
theorem couldMark_of_marks {pair : KeyValue} (marks : marksNewToken pair = true) :
    couldMark pair = true := by
  -- Only a text under the right key is a mark.
  obtain ⟨key, value⟩ := pair
  cases value with
  | none => simp [marksNewToken, KeyValue.value] at marks
  | some value =>
    obtain ⟨inner⟩ := value
    cases inner with
    | none => simp [marksNewToken, KeyValue.value, AnyValue.value] at marks
    | some inner =>
      cases inner with
      | stringValue text =>
        simp [marksNewToken, KeyValue.key, KeyValue.value, AnyValue.value] at marks
        simp [couldMark, KeyValue.key, KeyValue.value, AnyValue.kind, AnyValue.value, Value.kind,
          marks.1]
      | boolValue _ | intValue _ | doubleValue _ | arrayValue _ | kvlistValue _ | bytesValue _
      | stringValueStrindex _ =>
        simp [marksNewToken, KeyValue.key, KeyValue.value, AnyValue.value] at marks

theorem couldMark_eq {content : String → Bool} {first second : KeyValue}
    (varies : Otlp.Varies content first second) : couldMark first = couldMark second := by
  have kinds : ∀ value : Option AnyValue,
      value.bind AnyValue.kind = (value.map AnyValue.kind).bind id := by
    intro value
    cases value <;> rfl
  rw [couldMark, couldMark, kinds, kinds, varies.kind, varies.key]

/-- A list that is looked through for a mark that both lists have. -/
theorem any_varies {content : String → Bool} {check : KeyValue → Bool}
    (same : ∀ {first second}, Otlp.Varies content first second → check first = check second)
    {firsts seconds : List KeyValue} (varies : List.Forall₂ (Otlp.Varies content) firsts seconds) :
    firsts.any check = seconds.any check := by
  induction varies with
  | nil => rfl
  | cons head _ ih => rw [List.any_cons, List.any_cons, same head, ih]

section

variable {event other : Event} (varies : event.Varies other)
include varies

theorem Varies.isPromoted : other.isPromoted = event.isPromoted := by
  rw [Event.isPromoted, Event.isPromoted, varies.name]

theorem Varies.canBeNewToken : event.canBeNewToken = other.canBeNewToken :=
  any_varies couldMark_eq varies.attributes

/-- An event that is not promoted is dropped whatever its content is. -/
theorem Varies.isNewToken (kept : event.isPromoted = false) : event.isNewToken = other.isNewToken := by
  -- The type of an event is no content, so a variant has the same.
  have content : event.content = isContentKey := by simp [Event.content, kept]
  have same : ∀ {first second : KeyValue}, Otlp.Varies isContentKey first second →
      marksNewToken first = marksNewToken second := by
    intro first second varies
    unfold marksNewToken
    rw [← varies.key]
    by_cases here : first.key = "nat.event_type"
    · rw [varies.value (here ▸ rfl)]
    · simp [here]
  exact any_varies same (content ▸ varies.attributes)

/-- An event that could not be of a stream of tokens is not of one. -/
theorem Varies.not_isNewToken (cannot : event.canBeNewToken = false) : other.isNewToken = false := by
  rw [varies.canBeNewToken] at cannot
  refine List.any_eq_false.mpr fun pair member marks => ?_
  exact List.any_eq_false.mp cannot pair member (couldMark_of_marks marks)

/-- An event that shows no content is written the same. -/
theorem Varies.toJson (serde : SerdeJson) (kept : event.isPromoted = false)
    (hidden : ¬ event.ShowsContent) : event.toJson serde = other.toJson serde := by
  -- The texts of hidden content are the same, whatever the content is.
  have content : event.content = isContentKey := by simp [Event.content, kept]
  have attributes := content ▸ varies.attributes
  have objects := sortedMap_eq_of_hidden attributes serde
    fun key value isContent found shown => hidden ⟨key, value, isContent, found, shown⟩
  have empty : event.attributes.isEmpty = other.attributes.isEmpty := by
    rw [Bool.eq_iff_iff, List.isEmpty_iff_length_eq_zero, List.isEmpty_iff_length_eq_zero,
      attributes.length_eq]
  rw [Event.toJson, Event.toJson, varies.name, varies.time, objects, empty]

end

end Event

section

variable (serde : SerdeJson)

/-- An event has room in the column when some bytes are used. -/
def Fits (used : Nat) (event : Event) : Prop := used + eventCost serde event ≤ maxBytesPerSpan

instance (used : Nat) (event : Event) : Decidable (Fits serde used event) :=
  inferInstanceAs (Decidable (_ ≤ _))

/--
The column shows no content of these events.
The counts are the fewest and the most events that can have been looked at before them.
-/
def EventsSealed (least most used : Nat) : List Event → Prop
  | [] => True
  | event :: events =>
    if event.isPromoted then
      EventsSealed (if event.canBeNewToken then least else least + 1) (most + 1) used events
    else if event.isNewToken then EventsSealed least most used events
    else if maxEventsPerSpan ≤ least then True
    else most < maxEventsPerSpan ∧
      (event.ShowsContent → ∀ other, event.Varies other → ¬ Fits serde used other) ∧
      (¬ event.ShowsContent → Fits serde used event →
        EventsSealed (least + 1) (most + 1) (used + eventCost serde event) events)

/-- When no more events are looked at, the column ends. -/
theorem columnFrom_zero (used : Nat) (events : List Event) : columnFrom serde 0 used events = [] := by
  -- Without room no event is written, whether it is promoted or not.
  induction events with
  | nil => rfl
  | cons event events ih =>
    rw [columnFrom, if_pos rfl]
    split_ifs
    · exact ih
    · rfl

/-- A promoted event that is not dropped takes up room only. -/
theorem columnFrom_promoted {event : Event} (promoted : event.isPromoted = true)
    (counts : event.isNewToken = false) (looked used : Nat) (events : List Event) :
    columnFrom serde (maxEventsPerSpan - looked) used (event :: events) =
      columnFrom serde (maxEventsPerSpan - (looked + 1)) used events := by
  rw [columnFrom, if_neg (by simp [counts]), Nat.sub_add_eq]
  split_ifs with full
  · rw [full, columnFrom_zero]
  · rfl

/-- An event of a stream of tokens is skipped. -/
theorem columnFrom_newToken {event : Event} (dropped : event.isNewToken = true) (room used : Nat)
    (events : List Event) :
    columnFrom serde room used (event :: events) = columnFrom serde room used events := by
  rw [columnFrom, if_pos dropped]

/-- An event that is kept if it fits. -/
theorem columnFrom_kept {event : Event} (plain : event.isPromoted = false)
    (counts : event.isNewToken = false) {looked : Nat} (open_ : looked < maxEventsPerSpan) (used : Nat)
    (events : List Event) :
    columnFrom serde (maxEventsPerSpan - looked) used (event :: events) =
      if Fits serde used event then event.toJson serde ::
        columnFrom serde (maxEventsPerSpan - (looked + 1)) (used + eventCost serde event) events
      else [truncationMarker] := by
  have room : maxEventsPerSpan - looked ≠ 0 := by omega
  rw [columnFrom, if_neg (by simp [counts]), if_neg room, if_neg (by simp [plain]), Nat.sub_add_eq]
  by_cases fits : Fits serde used event
  · rw [if_pos fits, if_neg (Nat.not_lt.mpr fits)]
  · rw [if_neg fits, if_pos (Nat.lt_of_not_le fits)]

/-- Events that show no content have one column, however many were looked at before. -/
theorem columnFrom_eq_of_sealed {events : List Event} {least most used : Nat}
    (isSealed : EventsSealed serde least most used events) {firsts seconds : List Event}
    (one : List.Forall₂ Event.Varies events firsts) (two : List.Forall₂ Event.Varies events seconds)
    {looked others : Nat} (low : least ≤ looked) (high : looked ≤ most) (lowOther : least ≤ others)
    (highOther : others ≤ most) :
    columnFrom serde (maxEventsPerSpan - looked) used firsts =
      columnFrom serde (maxEventsPerSpan - others) used seconds := by
  -- Both variants are looked at event by event, with counts that the bounds enclose.
  induction events generalizing least most used firsts seconds looked others with
  | nil =>
    cases one
    cases two
    rfl
  | cons event events ih =>
    obtain ⟨first, firsts, head, tail, rfl⟩ := List.forall₂_cons_left_iff.mp one
    obtain ⟨second, seconds, otherHead, otherTail, rfl⟩ := List.forall₂_cons_left_iff.mp two
    rw [EventsSealed] at isSealed
    split_ifs at isSealed with promoted could dropped full
    · -- The event may count or not, so the counts drift apart by one.
      have step : ∀ (variant : Event) (rest : List Event) (looked : Nat), event.Varies variant →
          least ≤ looked → looked ≤ most → ∃ after, least ≤ after ∧ after ≤ most + 1 ∧
            columnFrom serde (maxEventsPerSpan - looked) used (variant :: rest) =
              columnFrom serde (maxEventsPerSpan - after) used rest := by
        intro variant rest looked varies low high
        cases counts : variant.isNewToken with
        | true => exact ⟨looked, low, by omega, columnFrom_newToken serde counts _ _ _⟩
        | false =>
          refine ⟨looked + 1, by omega, by omega, ?_⟩
          exact columnFrom_promoted serde (varies.isPromoted.trans promoted) counts _ _ _
      obtain ⟨after, afterLow, afterHigh, same⟩ := step first firsts looked head low high
      obtain ⟨further, furtherLow, furtherHigh, sameOther⟩ :=
        step second seconds others otherHead lowOther highOther
      rw [same, sameOther]
      exact ih isSealed tail otherTail afterLow afterHigh furtherLow furtherHigh
    · -- The event counts in both.
      have cannot : event.canBeNewToken = false := by simpa using could
      rw [columnFrom_promoted serde (head.isPromoted.trans promoted) (head.not_isNewToken cannot),
        columnFrom_promoted serde (otherHead.isPromoted.trans promoted)
          (otherHead.not_isNewToken cannot)]
      exact ih isSealed tail otherTail (Nat.succ_le_succ low) (Nat.succ_le_succ high)
        (Nat.succ_le_succ lowOther) (Nat.succ_le_succ highOther)
    · have plain : event.isPromoted = false := by simpa using promoted
      rw [columnFrom_newToken serde ((head.isNewToken plain).symm.trans dropped),
        columnFrom_newToken serde ((otherHead.isNewToken plain).symm.trans dropped)]
      exact ih isSealed tail otherTail low high lowOther highOther
    · have room : maxEventsPerSpan - looked = 0 := by omega
      have roomOther : maxEventsPerSpan - others = 0 := by omega
      -- Neither of them looks at any more events.
      rw [room, roomOther, columnFrom_zero, columnFrom_zero]
    · have plain : event.isPromoted = false := by simpa using promoted
      have counts : event.isNewToken = false := by simpa using dropped
      obtain ⟨open_, showing, hidden⟩ := isSealed
      rw [columnFrom_kept serde (head.isPromoted.trans plain) ((head.isNewToken plain).symm.trans counts)
          (by omega),
        columnFrom_kept serde (otherHead.isPromoted.trans plain)
          ((otherHead.isNewToken plain).symm.trans counts) (by omega)]
      by_cases shows : event.ShowsContent
      · rw [if_neg (showing shows first head), if_neg (showing shows second otherHead)]
      · have sameJson := head.toJson serde plain shows
        have sameOther := otherHead.toJson serde plain shows
        have cost : eventCost serde first = eventCost serde event := by
          rw [eventCost, eventCost, sameJson]
        have costOther : eventCost serde second = eventCost serde event := by
          rw [eventCost, eventCost, sameOther]
        have fitsFirst : Fits serde used first ↔ Fits serde used event := by rw [Fits, Fits, cost]
        have fitsSecond : Fits serde used second ↔ Fits serde used event := by
          rw [Fits, Fits, costOther]
        by_cases fits : Fits serde used event
        · rw [if_pos (fitsFirst.mpr fits), if_pos (fitsSecond.mpr fits), cost, costOther, ← sameJson,
            ← sameOther]
          have rest := ih (hidden shows fits) tail otherTail (Nat.succ_le_succ low)
            (Nat.succ_le_succ high) (Nat.succ_le_succ lowOther) (Nat.succ_le_succ highOther)
          rw [rest]
        · rw [if_neg (mt fitsFirst.mp fits), if_neg (mt fitsSecond.mp fits)]

end

namespace Event

/-- An event whose marks are set or cleared. -/
def withToken (flag : Bool) (event : Event) : Event :=
  { event with
    attributes := event.attributes.map fun pair =>
      if couldMark pair then
        .mk pair.key (some (.mk (some (.stringValue (if flag then "_NEW_TOKEN" else "")))))
      else pair }

theorem withToken_varies {event : Event} (promoted : event.isPromoted = true) (flag : Bool) :
    event.Varies (event.withToken flag) := by
  -- All attributes of a promoted event may vary, as long as they stay texts.
  refine ⟨rfl, rfl, ?_⟩
  have content : event.content = fun _ => true := by simp [Event.content, promoted]
  rw [content]
  show List.Forall₂ _ _ (List.map _ event.attributes)
  rw [List.forall₂_map_right_iff]
  refine forall₂_refl (fun pair => ?_) event.attributes
  by_cases could : couldMark pair = true
  · rw [if_pos could]
    refine ⟨rfl, ?_, fun plain => nomatch plain⟩
    obtain ⟨key, value⟩ := pair
    cases value with
    | none => simp [couldMark, KeyValue.value] at could
    | some value =>
      have kind : value.kind = some .string := by
        simp only [couldMark, Bool.and_eq_true, decide_eq_true_eq] at could
        exact could.2
      show some value.kind = _
      rw [kind]
      rfl
  · rw [if_neg could]
    exact Otlp.Varies.refl pair

theorem withToken_isNewToken {event : Event} (could : event.canBeNewToken = true) (flag : Bool) :
    (event.withToken flag).isNewToken = flag := by
  -- The mark is set in one attribute, or taken from all of them.
  cases flag with
  | true =>
    obtain ⟨pair, member, marked⟩ := List.any_eq_true.mp could
    refine List.any_eq_true.mpr ⟨_, List.mem_map_of_mem member, ?_⟩
    have named : pair.key = "nat.event_type" := by
      simp [couldMark] at marked
      exact marked.1
    rw [if_pos marked, named]
    rfl
  | false =>
    refine List.any_eq_false.mpr fun pair member => ?_
    obtain ⟨original, _, rfl⟩ := List.mem_map.mp member
    by_cases marked : couldMark original = true
    · rw [if_pos marked, if_neg Bool.false_ne_true]
      simp [marksNewToken, KeyValue.value, AnyValue.value, endsWith]
    · rw [if_neg marked]
      exact mt couldMark_of_marks marked

/-- An event with one of two contents under a key. -/
def withAlternate (key : String) (flag : Bool) (event : Event) : Event :=
  { event with attributes := alternateAt key flag event.attributes }

theorem withAlternate_varies {event : Event} (plain : event.isPromoted = false) {key : String}
    (isContent : isContentKey key = true) (flag : Bool) :
    event.Varies (event.withAlternate key flag) := by
  refine ⟨rfl, rfl, ?_⟩
  have content : event.content = isContentKey := by simp [Event.content, plain]
  rw [content]
  exact alternateAt_varies isContent flag event.attributes

/-- The two contents are written differently, if they show. -/
theorem withAlternate_differs (serde : SerdeJson) {event : Event} {key : String} {value : AnyValue}
    (found : lastValueOf (pairsOf event.attributes) key = some value) (shown : value.Shown) :
    ((event.withAlternate key true).toJson serde).outline ≠
      ((event.withAlternate key false).toJson serde).outline := by
  -- The value under the key is part of the outline of the attributes.
  have filled : ∀ flag, (event.withAlternate key flag).attributes ≠ [] := by
    intro flag none
    have listed := lastValueOf_alternateAt key flag event.attributes
    rw [show alternateAt key flag event.attributes = [] from none, found] at listed
    exact nomatch listed
  intro same
  obtain ⟨one, isOne, _, attributes⟩ := toJson_entries serde (event.withAlternate key true)
  obtain ⟨two, isTwo, _, others⟩ := toJson_entries serde (event.withAlternate key false)
  rw [isOne, isTwo] at same
  have objects := Json.outline_valueOf same "attributes"
  rw [attributes (filled true), others (filled false)] at objects
  have values := Json.outline_valueOf (Option.some.inj objects) key
  rw [valueOf_sortedMap, valueOf_sortedMap, pairsToJson_eq, pairsToJson_eq,
    lastValueOf_mapEntries (fun _ => anyValueToJson serde),
    lastValueOf_mapEntries (fun _ => anyValueToJson serde)] at values
  simp only [withAlternate, lastValueOf_alternateAt, found, Option.map_some] at values
  exact AnyValue.alternate_differs serde shown (Option.some.inj values)

/-- No event is written as the marker is. -/
theorem toJson_ne_marker (serde : SerdeJson) (event : Event) :
    (event.toJson serde).outline ≠ truncationMarker.outline := by
  -- An event is written with its name, which the marker has not.
  intro same
  obtain ⟨entries, written, named, _⟩ := toJson_entries serde event
  rw [written] at same
  have names := Json.outline_valueOf same "name"
  rw [named] at names
  simp [valueOf] at names

end Event

section

variable (serde : SerdeJson)

/-- The first entry of a column tells apart what comes of two events. -/
theorem head_outline_ne {first second : Json} (differ : first.outline ≠ second.outline)
    (rest others : List Json) :
    (first :: rest).map Json.outline ≠ (second :: others).map Json.outline := by
  intro same
  exact differ (List.cons.inj same).1

/-- An event that fits and shows content has a variant with another column. -/
theorem exists_shown {event other : Event} {used least most : Nat} (plain : event.isPromoted = false)
    (counts : event.isNewToken = false) (shows : event.ShowsContent) (varies : event.Varies other)
    (fits : Fits serde used other) (low : least < maxEventsPerSpan) (high : most < maxEventsPerSpan)
    (events : List Event) :
    ∃ variant, event.Varies variant ∧
      (columnFrom serde (maxEventsPerSpan - least) used (other :: events)).map Json.outline ≠
        (columnFrom serde (maxEventsPerSpan - most) used (variant :: events)).map Json.outline := by
  obtain ⟨key, value, isContent, found, shown⟩ := shows
  have kept : ∀ {variant : Event}, event.Varies variant → variant.isPromoted = false ∧
      variant.isNewToken = false := fun varies =>
    ⟨varies.isPromoted.trans plain, (varies.isNewToken plain).symm.trans counts⟩
  have alternates := Event.withAlternate_varies plain isContent
  rw [columnFrom_kept serde (kept varies).1 (kept varies).2 low, if_pos fits]
  -- A variant without room leaves the marker.
  have crowded : ∀ flag, ¬ Fits serde used (event.withAlternate key flag) →
      (other.toJson serde :: columnFrom serde (maxEventsPerSpan - (least + 1))
        (used + eventCost serde other) events).map Json.outline ≠
      (columnFrom serde (maxEventsPerSpan - most) used
        (event.withAlternate key flag :: events)).map Json.outline := by
    intro flag full
    rw [columnFrom_kept serde (kept (alternates flag)).1 (kept (alternates flag)).2 high, if_neg full]
    exact head_outline_ne (other.toJson_ne_marker serde) _ _
  -- Of two variants that are kept, one differs from the event.
  have roomy : ∀ flag, Fits serde used (event.withAlternate key flag) →
      (other.toJson serde).outline ≠ ((event.withAlternate key flag).toJson serde).outline →
      (other.toJson serde :: columnFrom serde (maxEventsPerSpan - (least + 1))
        (used + eventCost serde other) events).map Json.outline ≠
      (columnFrom serde (maxEventsPerSpan - most) used
        (event.withAlternate key flag :: events)).map Json.outline := by
    intro flag room differ
    rw [columnFrom_kept serde (kept (alternates flag)).1 (kept (alternates flag)).2 high, if_pos room]
    exact head_outline_ne differ _ _
  by_cases roomTrue : Fits serde used (event.withAlternate key true)
  · by_cases roomFalse : Fits serde used (event.withAlternate key false)
    · by_cases same : (other.toJson serde).outline =
          ((event.withAlternate key true).toJson serde).outline
      · refine ⟨_, alternates false, roomy false roomFalse ?_⟩
        rw [same]
        exact Event.withAlternate_differs serde found shown
      · exact ⟨_, alternates true, roomy true roomTrue same⟩
    · exact ⟨_, alternates false, crowded false roomFalse⟩
  · exact ⟨_, alternates true, crowded true roomTrue⟩

/-- Events that are not sealed have two variants with different columns. -/
theorem exists_columns {events : List Event} {least most used : Nat} (ordered : least ≤ most)
    (leaks : ¬ EventsSealed serde least most used events) :
    ∃ firsts seconds, List.Forall₂ Event.Varies events firsts ∧
      List.Forall₂ Event.Varies events seconds ∧
      (columnFrom serde (maxEventsPerSpan - least) used firsts).map Json.outline ≠
        (columnFrom serde (maxEventsPerSpan - most) used seconds).map Json.outline := by
  -- The induction finds the first event that tells two variants apart.
  induction events generalizing least most used with
  | nil => exact absurd trivial leaks
  | cons event events ih =>
    rw [EventsSealed] at leaks
    split_ifs at leaks with promoted could dropped full
    · -- One variant is dropped and the other counts.
      obtain ⟨firsts, seconds, one, two, differ⟩ := ih (by omega) leaks
      refine ⟨event.withToken true :: firsts, event.withToken false :: seconds,
        .cons (Event.withToken_varies promoted true) one,
        .cons (Event.withToken_varies promoted false) two, ?_⟩
      have stays := Event.withToken_varies promoted false
      rw [columnFrom_newToken serde (Event.withToken_isNewToken could true),
        columnFrom_promoted serde (stays.isPromoted.trans promoted)
          (Event.withToken_isNewToken could false)]
      exact differ
    · obtain ⟨firsts, seconds, one, two, differ⟩ := ih (Nat.succ_le_succ ordered) leaks
      have counts := (Event.Varies.refl event).not_isNewToken (by simpa using could)
      refine ⟨event :: firsts, event :: seconds, .cons (.refl event) one, .cons (.refl event) two, ?_⟩
      rw [columnFrom_promoted serde promoted counts, columnFrom_promoted serde promoted counts]
      exact differ
    · obtain ⟨firsts, seconds, one, two, differ⟩ := ih ordered leaks
      refine ⟨event :: firsts, event :: seconds, .cons (.refl event) one, .cons (.refl event) two, ?_⟩
      rw [columnFrom_newToken serde dropped, columnFrom_newToken serde dropped]
      exact differ
    · exact absurd trivial leaks
    · have plain : event.isPromoted = false := by simpa using promoted
      have counts : event.isNewToken = false := by simpa using dropped
      have whole := forall₂_refl Event.Varies.refl events
      by_cases high : most < maxEventsPerSpan
      · by_cases shows : event.ShowsContent
        · have some : ∃ other, event.Varies other ∧ Fits serde used other := by
            by_contra none
            refine leaks ⟨high, fun _ other varies fits => none ⟨other, varies, fits⟩, ?_⟩
            exact fun hidden => absurd shows hidden
          obtain ⟨other, varies, fits⟩ := some
          obtain ⟨variant, alternates, differ⟩ :=
            exists_shown serde plain counts shows varies fits (Nat.lt_of_not_le full) high events
          exact ⟨other :: events, variant :: events, .cons varies whole, .cons alternates whole, differ⟩
        · by_cases fits : Fits serde used event
          · have rest : ¬ EventsSealed serde (least + 1) (most + 1) (used + eventCost serde event)
                events := fun isSealed =>
              leaks ⟨high, fun shown => absurd shown shows, fun _ _ => isSealed⟩
            obtain ⟨firsts, seconds, one, two, differ⟩ := ih (Nat.succ_le_succ ordered) rest
            refine ⟨event :: firsts, event :: seconds, .cons (.refl event) one,
              .cons (.refl event) two, ?_⟩
            rw [columnFrom_kept serde plain counts (by omega), if_pos fits,
              columnFrom_kept serde plain counts high, if_pos fits]
            intro same
            exact differ (List.cons.inj same).2
          · exact absurd ⟨high, fun shown => absurd shown shows, fun _ room => absurd room fits⟩ leaks
      · -- The event may come too late to be looked at.
        have room : maxEventsPerSpan - most = 0 := by omega
        refine ⟨event :: events, event :: events, .cons (.refl event) whole, .cons (.refl event) whole,
          ?_⟩
        rw [room, columnFrom_zero, columnFrom_kept serde plain counts (by omega)]
        split_ifs <;> exact List.cons_ne_nil _ _

end

end Zradar.Otlp
