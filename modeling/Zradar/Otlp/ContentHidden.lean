import Zradar.Otlp.ContentEvents

/-! When no content of a span is stored for a workspace that does not capture it. -/

namespace Zradar.Otlp

/-- The values of the messages among some attributes do not show. -/
def MessagesHidden (attributes : List KeyValue) : Prop :=
  ∀ key ∈ ["gen_ai.input.messages", "gen_ai.output.messages"], ∀ value,
    lastValueOf (pairsOf attributes) key = some value → ¬ value.Shown

/-- The attributes that are written when content is not captured. -/
def writtenAttributes (attributes : List KeyValue) : List KeyValue :=
  attributes.filter fun pair => !isContentAttribute pair.key

/-- The messages are the only content that is not skipped. -/
theorem mem_messages {key : String} (isContent : isContentKey key = true)
    (written : isContentAttribute key = false) :
    key ∈ ["gen_ai.input.messages", "gen_ai.output.messages"] := by
  simp only [isContentKey, isContentAttribute, Bool.or_eq_true, Bool.or_eq_false_iff,
    decide_eq_true_eq, decide_eq_false_iff_not] at isContent written
  rw [List.mem_pair]
  simpa [written] using isContent

theorem messages_written {key : String}
    (member : key ∈ ["gen_ai.input.messages", "gen_ai.output.messages"]) :
    isContentKey key = true ∧ isContentAttribute key = false := by
  obtain rfl | rfl := List.mem_pair.mp member
  · exact ⟨by decide +kernel, by decide +kernel⟩
  · exact ⟨by decide +kernel, by decide +kernel⟩

theorem lastValueOf_written (attributes : List KeyValue) (key : String) :
    lastValueOf (pairsOf (writtenAttributes attributes)) key =
      if isContentAttribute key then none else lastValueOf (pairsOf attributes) key := by
  -- Content attributes are taken out before the last value is looked for.
  have pairs : pairsOf (writtenAttributes attributes) =
      (pairsOf attributes).filter fun pair => !isContentAttribute pair.1 := by
    unfold pairsOf writtenAttributes
    rw [List.filterMap_filter, List.filter_filterMap]
    refine List.filterMap_congr fun pair _ => ?_
    cases pair.value with
    | none => simp
    | some value => cases skipped : isContentAttribute pair.key <;> simp [Option.filter, skipped]
  rw [pairs, lastValueOf, ← List.filter_reverse, valueOf_filter (fun key => !isContentAttribute key)]
  cases isContentAttribute key <;> rfl

/-- The text of the attributes when content is not captured. -/
def attributesText (serde : SerdeJson) (attributes : List KeyValue) : String :=
  (Json.obj (sortedMap (pairsToJson serde (writtenAttributes attributes)))).text

/-- Attributes whose messages are hidden are written without content. -/
theorem attributesText_eq (serde : SerdeJson) {firsts seconds : List KeyValue}
    (varies : List.Forall₂ (Varies isContentKey) firsts seconds) (hidden : MessagesHidden firsts) :
    attributesText serde firsts = attributesText serde seconds := by
  -- The attributes that are written differ in messages only, and these are hidden.
  have written : List.Forall₂ (Varies isContentKey) (writtenAttributes firsts)
      (writtenAttributes seconds) := by
    refine List.rel_filter ?_ varies
    intro first second same
    simp only [same.key]
  unfold attributesText
  rw [sortedMap_eq_of_hidden written serde]
  intro key value isContent found
  rw [lastValueOf_written] at found
  split_ifs at found with skipped
  exact hidden key (mem_messages isContent (by simpa using skipped)) value found

/-- Messages that show tell variants apart. -/
theorem attributesText_ne {serde : SerdeJson} (fractions : WritesFractions serde)
    {attributes : List KeyValue} {key : String} {value : AnyValue}
    (member : key ∈ ["gen_ai.input.messages", "gen_ai.output.messages"])
    (found : lastValueOf (pairsOf attributes) key = some value) (shown : value.Shown) :
    attributesText serde (alternateAt key true attributes) ≠
      attributesText serde (alternateAt key false attributes) := by
  -- The messages are written to the column, where the two alternates differ.
  intro same
  have outlines := Json.outline_eq_of_text (obj_canonical (pairsToJson_canonical fractions _))
    (obj_canonical (pairsToJson_canonical fractions _)) same
  have values := Json.outline_valueOf outlines key
  simp only [valueOf_sortedMap, pairsToJson_eq, lastValueOf_mapEntries (fun _ => anyValueToJson serde),
    lastValueOf_written, (messages_written member).2, lastValueOf_alternateAt, found, Option.map_some,
    Bool.false_eq_true, if_false] at values
  exact AnyValue.alternate_differs serde shown (Option.some.inj values)

/-- What is read back is what was written, but for the digits of fractions. -/
def ReadsBack (env : ConverterEnv) : Prop :=
  ∀ items read, (∀ item ∈ items, item.Canonical) → env.fromStr (Json.arr items).text = some read →
    (∀ item ∈ read, item.Canonical) ∧ read.map Json.outline = items.map Json.outline

/-- The column of the events of a span. -/
def column (serde : SerdeJson) (events : List Event) : List Json :=
  columnFrom serde maxEventsPerSpan 2 events

section

variable {serde : SerdeJson}

/-- The entries of the column are the marker and events that are not promoted. -/
theorem mem_columnFrom {events : List Event} {room used : Nat} {item : Json}
    (member : item ∈ columnFrom serde room used events) :
    item = truncationMarker ∨ ∃ event : Event, event.isPromoted = false ∧ item = event.toJson serde := by
  -- An item is the marker at the end, or it was written for an event.
  induction events generalizing room used with
  | nil => cases member
  | cons event events ih =>
    rw [columnFrom] at member
    split_ifs at member with dropped full promoted crowded
    · exact ih member
    · cases member
    · exact ih member
    · exact .inl (List.mem_singleton.mp member)
    · obtain rfl | later := List.mem_cons.mp member
      · exact .inr ⟨event, by simpa using promoted, rfl⟩
      · exact ih later

theorem column_canonical (fractions : WritesFractions serde) (events : List Event) :
    ∀ item ∈ column serde events, item.Canonical := by
  intro item member
  obtain rfl | ⟨event, _, rfl⟩ := mem_columnFrom member
  · simp [truncationMarker, Json.Canonical, Json.CanonicalEntries, Ascending]
  · exact event.toJson_canonical fractions

theorem arr_canonical {items : List Json} (each : ∀ item ∈ items, item.Canonical) :
    (Json.arr items).Canonical := by
  rw [Json.Canonical, Json.canonicalItems_iff]
  exact each

/-- The text under a key is the same in trees with one outline. -/
theorem textUnder_eq {first second : Json} (same : first.outline = second.outline) (key : String) :
    textUnder key first = textUnder key second := by
  -- Texts are part of the outline, whatever else is left out of it.
  cases first with
  | obj entries =>
    cases second with
    | obj others =>
      have outlines := Json.outline_valueOf same key
      simp only [textUnder]
      generalize valueOf entries key = one at outlines ⊢
      generalize valueOf others key = two at outlines ⊢
      cases one with
      | none =>
        cases two with
        | none => rfl
        | some two => cases outlines
      | some one =>
        cases two with
        | none => cases outlines
        | some two =>
          have inner := Option.some.inj outlines
          cases one <;> cases two <;> simp_all [Json.outline]
    | _ => simp [Json.outline] at same
  | _ =>
    cases second with
    | obj others => simp [Json.outline] at same
    | _ => rfl

/-- The column of a span has nothing that would be stripped. -/
theorem retained_of_column {events : List Event} {item read : Json}
    (member : item ∈ column serde events) (same : read.outline = item.outline) :
    isRetained read = true := by
  -- The marker and the events that were not promoted have no name of a promoted event.
  rw [isRetained, textUnder_eq same]
  obtain rfl | ⟨event, plain, rfl⟩ := mem_columnFrom member
  · rfl
  · obtain ⟨entries, written, named, _⟩ := event.toJson_entries serde
    have name : textUnder "name" (event.toJson serde) = some event.name := by
      rw [written, textUnder, named]
    rw [name]
    simpa [Event.isPromoted, bne] using plain

end

section

variable {env : ConverterEnv} (fractions : WritesFractions env.serde) (readsBack : ReadsBack env)
include fractions readsBack

/-- What is left of the column has the outlines of the column. -/
theorem scrubEvents_column (events : List Event) :
    ∃ items, scrubEvents env (Json.arr (column env.serde events)).text = (Json.arr items).text ∧
      (∀ item ∈ items, item.Canonical) ∧
      items.map Json.outline = (column env.serde events).map Json.outline := by
  have canonical := column_canonical fractions events
  unfold scrubEvents
  cases read : env.fromStr (Json.arr (column env.serde events)).text with
  | none => exact ⟨_, rfl, canonical, rfl⟩
  | some items =>
    obtain ⟨readCanonical, same⟩ := readsBack _ _ canonical read
    -- No event of the column is one that the scrubbing takes out.
    have kept : items.filter isRetained = items := by
      refine List.filter_eq_self.mpr fun item member => ?_
      have listed : item.outline ∈ (column env.serde events).map Json.outline :=
        same ▸ List.mem_map_of_mem member
      obtain ⟨written, isWritten, outline⟩ := List.mem_map.mp listed
      exact retained_of_column isWritten outline.symm
    exact ⟨items, congrArg (fun items => (Json.arr items).text) kept, readCanonical, same⟩

/-- Columns that are stored alike have one outline. -/
theorem column_outline_of_scrubbed {firsts seconds : List Event}
    (same : scrubEvents env (Json.arr (column env.serde firsts)).text =
      scrubEvents env (Json.arr (column env.serde seconds)).text) :
    (column env.serde firsts).map Json.outline = (column env.serde seconds).map Json.outline := by
  -- The scrubbing keeps the column, which is read back up to its outlines.
  obtain ⟨items, stored, canonical, outlines⟩ := scrubEvents_column fractions readsBack firsts
  obtain ⟨others, storedOther, canonicalOther, outlinesOther⟩ :=
    scrubEvents_column fractions readsBack seconds
  rw [stored, storedOther] at same
  have whole := Json.outline_eq_of_text (arr_canonical canonical) (arr_canonical canonicalOther) same
  rw [Json.outline, Json.outline, Json.outlineItems_eq, Json.outlineItems_eq] at whole
  rw [← outlines, ← outlinesOther, Json.arr.inj whole]

end

/-- What stands in the events of a span after its events are applied. -/
theorem applySpanEvents_events (serde : SerdeJson) (events : List Event) (span : Span)
    (empty : span.events = (Json.arr []).text) :
    (applySpanEvents serde events span).events = (Json.arr (column serde events)).text := by
  -- The loop builds the column, and an empty column is written as it was before.
  have listed := eventLoop_column serde events maxEventsPerSpan
    ⟨span.llmInput, span.llmOutput, [], 2, false⟩ rfl
  rw [List.nil_append] at listed
  show (if List.isEmpty (EventLoop.column _) then _ else _) = _
  rw [listed, empty]
  show (if (column serde events).isEmpty then _ else _) = _
  split_ifs with none
  · rw [List.isEmpty_iff.mp none]
  · rfl

/-- Applying events touches the messages and the events only. -/
theorem applySpanEvents_eq (serde : SerdeJson) (events : List Event) (span : Span) :
    ∃ input output written, applySpanEvents serde events span =
      { span with llmInput := input, llmOutput := output, events := written } :=
  ⟨_, _, _, rfl⟩

theorem applySpanLinks_withContent (serde : SerdeJson) (links : List Link) (span : Span)
    (content : Content) (events : String) :
    applySpanLinks serde links { withContent span content with events := events } =
      { withContent (applySpanLinks serde links span) content with events := events } := by
  unfold applySpanLinks
  split_ifs <;> rfl

theorem applyStatus_withContent (status : Option Status) (span : Span) (content : Content)
    (events : String) :
    applyStatus status { withContent span content with events := events } =
      { withContent (applyStatus status span) content with events := events } := by
  cases status <;> rfl

theorem applySpanLinks_keeps (serde : SerdeJson) (links : List Link) (span : Span) :
    Keeps (applySpanLinks serde links span) span := by
  unfold applySpanLinks
  split_ifs <;> exact ⟨rfl, rfl⟩

theorem applyStatus_keeps (status : Option Status) (span : Span) :
    Keeps (applyStatus status span) span := by
  cases status <;> exact ⟨rfl, rfl⟩

section

variable (env : ConverterEnv) (captureEnabled : WorkspaceId → Bool)
  (serviceName environment : String) (workspaceId : WorkspaceId) (now : Int64)

/-- The workspace and the events of a span before anything is cleared. -/
theorem mappedSpan_keeps (otlpSpan : OtlpSpan) :
    (mappedSpan env (.new env captureEnabled) serviceName environment workspaceId now otlpSpan).events =
      (Json.arr (column env.serde otlpSpan.events)).text ∧
    (mappedSpan env (.new env captureEnabled) serviceName environment workspaceId now
      otlpSpan).workspaceId = workspaceId.toText := by
  -- The conventions, the links and the status leave both fields alone.
  set view : AttrView := ⟨otlpSpan.attributes⟩
  have self : view.Varies view := ⟨forall₂_refl Varies.refl _⟩
  have kept := applyConventions_keeps (defaultConventions_carry self env.serde) view
    (initialSpan serviceName environment workspaceId now otlpSpan)
  unfold mappedSpan
  constructor
  · refine (applyStatus_keeps _ _).events.trans ?_
    refine (applySpanLinks_keeps env.serde otlpSpan.links _).events.trans ?_
    exact applySpanEvents_events env.serde otlpSpan.events _ kept.events
  · refine (applyStatus_keeps _ _).workspace.trans ?_
    refine (applySpanLinks_keeps env.serde otlpSpan.links _).workspace.trans ?_
    exact kept.workspace

/-- Spans that differ in content only are mapped to rows that differ in content and events only. -/
theorem mappedSpan_varies {first second : OtlpSpan} (varies : first.Varies second) :
    ∃ content events,
      mappedSpan env (.new env captureEnabled) serviceName environment workspaceId now second =
        { withContent (mappedSpan env (.new env captureEnabled) serviceName environment workspaceId
            now first) content with events := events } := by
  obtain ⟨same, attributes, _⟩ := varies
  generalize second.attributes = otherAttributes at same attributes
  generalize second.events = otherEvents at same
  subst same
  have views : AttrView.Varies ⟨first.attributes⟩ ⟨otherAttributes⟩ := ⟨attributes⟩
  set start := initialSpan serviceName environment workspaceId now first with isStart
  obtain ⟨after, carried⟩ := applyConventions_carries (defaultConventions_carry views env.serde) start
    ⟨start.llmInput, start.llmOutput, start.dbQueryText, start.mcpToolInput, start.mcpToolOutput⟩
  have carried : applyConventions (defaultConventions env.serde) ⟨otherAttributes⟩ start =
      withContent (applyConventions (defaultConventions env.serde) ⟨first.attributes⟩ start) after :=
    carried
  have starts : initialSpan serviceName environment workspaceId now
      { first with attributes := otherAttributes, events := otherEvents } = start := rfl
  have types := detectType_eq views env.toUppercase
    (durationNs first.startTimeUnixNano first.endTimeUnixNano)
  unfold mappedSpan OtlpConverter.new
  dsimp only
  rw [starts, carried, ← isStart]
  generalize applyConventions (defaultConventions env.serde) ⟨first.attributes⟩ start = mapped
  obtain ⟨input, output, written, applied⟩ := applySpanEvents_eq env.serde first.events mapped
  obtain ⟨otherInput, otherOutput, otherWritten, otherApplied⟩ :=
    applySpanEvents_eq env.serde otherEvents (withContent mapped after)
  -- Both rows come from one row, with other content and other events.
  have rows : applySpanEvents env.serde otherEvents (withContent mapped after) =
      { withContent (applySpanEvents env.serde first.events mapped)
          { after with llmInput := otherInput, llmOutput := otherOutput } with
        events := otherWritten } := by
    rw [applied, otherApplied]
    rfl
  rw [rows, applySpanLinks_withContent]
  generalize applySpanLinks env.serde first.links (applySpanEvents env.serde first.events mapped) = row
  refine ⟨{ after with llmInput := otherInput, llmOutput := otherOutput }, otherWritten, ?_⟩
  rw [← applyStatus_withContent]
  simp only [withContent, types]

end

section

variable {env : ConverterEnv} {captureEnabled : WorkspaceId → Bool} {workspaceId : WorkspaceId}
  (parses : env.parseUuid workspaceId.toText = some workspaceId)
  (disabled : captureEnabled workspaceId = false) (serviceName environment : String) (now : Int64)
include parses disabled

/-- The row that is stored when content is not captured. -/
theorem convertSpan_eq (otlpSpan : OtlpSpan) :
    convertSpan env (.new env captureEnabled) serviceName environment workspaceId now otlpSpan =
      { clearContent env (mappedSpan env (.new env captureEnabled) serviceName environment workspaceId
          now otlpSpan) with
        attributes := attributesText env.serde otlpSpan.attributes
        createdAt := now
        updatedAt := now } := by
  -- The workspace of the row is known, and it does not capture content.
  have parsed : env.parseUuid (mappedSpan env (.new env captureEnabled) serviceName environment
      workspaceId now otlpSpan).workspaceId = some workspaceId := by
    rw [(mappedSpan_keeps env captureEnabled serviceName environment workspaceId now otlpSpan).2]
    exact parses
  have hidden : (OtlpConverter.new env captureEnabled).captureEnabled workspaceId = false := disabled
  unfold convertSpan
  simp only [parsed, hidden, Bool.not_false, Bool.true_and, Bool.false_eq_true, if_false]
  rw [attrsToJsonFiltered_eq]
  rfl

/-- The stored columns that can show content. -/
theorem convertSpan_columns (otlpSpan : OtlpSpan) :
    (convertSpan env (.new env captureEnabled) serviceName environment workspaceId now
      otlpSpan).attributes = attributesText env.serde otlpSpan.attributes ∧
    (convertSpan env (.new env captureEnabled) serviceName environment workspaceId now
      otlpSpan).events = scrubEvents env (Json.arr (column env.serde otlpSpan.events)).text := by
  -- The mapping leaves both columns as the converter has written them.
  have events := (mappedSpan_keeps env captureEnabled serviceName environment workspaceId now
    otlpSpan).1
  rw [convertSpan_eq parses disabled serviceName environment now otlpSpan]
  refine ⟨rfl, ?_⟩
  rw [← events]
  rfl

/-- Spans that differ in content only are stored alike but for the attributes and the events. -/
theorem convertSpan_varies {first second : OtlpSpan} (varies : first.Varies second)
    (attributes : attributesText env.serde first.attributes =
      attributesText env.serde second.attributes)
    (events : column env.serde first.events = column env.serde second.events) :
    convertSpan env (.new env captureEnabled) serviceName environment workspaceId now first =
      convertSpan env (.new env captureEnabled) serviceName environment workspaceId now second := by
  -- What varies is overwritten: the content is cleared, and the texts are the same.
  obtain ⟨content, written, mapped⟩ := mappedSpan_varies env captureEnabled serviceName environment
    workspaceId now varies
  have one := (mappedSpan_keeps env captureEnabled serviceName environment workspaceId now first).1
  have two := (mappedSpan_keeps env captureEnabled serviceName environment workspaceId now second).1
  have kept : written = (mappedSpan env (.new env captureEnabled) serviceName environment workspaceId
      now first).events := by
    rw [one, events, ← two, mapped]
  rw [convertSpan_eq parses disabled, convertSpan_eq parses disabled, mapped, kept, attributes]
  rfl

end

/--
For a workspace whose content is not captured, no stored field depends on the content of a span
exactly if the values of its messages do not show and its events are sealed.
-/
theorem convertSpan_hides_content_iff {env : ConverterEnv} {captureEnabled : WorkspaceId → Bool}
    {workspaceId : WorkspaceId} (fractions : WritesFractions env.serde) (readsBack : ReadsBack env)
    (parses : env.parseUuid workspaceId.toText = some workspaceId)
    (disabled : captureEnabled workspaceId = false) (serviceName environment : String) (now : Int64)
    (first : OtlpSpan) :
    (∀ second, first.Varies second →
      convertSpan env (.new env captureEnabled) serviceName environment workspaceId now first =
        convertSpan env (.new env captureEnabled) serviceName environment workspaceId now second) ↔
      MessagesHidden first.attributes ∧ EventsSealed env.serde 0 0 2 first.events := by
  have columns := convertSpan_columns parses disabled serviceName environment now
  have attributesRefl : List.Forall₂ (Varies isContentKey) first.attributes first.attributes :=
    forall₂_refl Varies.refl first.attributes
  have eventsRefl := forall₂_refl Event.Varies.refl first.events
  constructor
  · intro same
    constructor
    · -- Two values of the messages are both stored as the span's own is.
      intro key member value found shown
      have variant : ∀ flag,
          first.Varies { first with attributes := alternateAt key flag first.attributes } := fun flag =>
        ⟨rfl, alternateAt_varies (messages_written member).1 flag first.attributes, eventsRefl⟩
      have stored : ∀ flag, attributesText env.serde first.attributes =
          attributesText env.serde (alternateAt key flag first.attributes) := by
        intro flag
        have rows := same _ (variant flag)
        rw [← (columns first).1, rows, (columns _).1]
      exact attributesText_ne fractions member found shown ((stored true).symm.trans (stored false))
    -- Two variants of the events would leave columns that differ.
    · by_contra leaks
      obtain ⟨firsts, seconds, one, two, differ⟩ := exists_columns env.serde (Nat.le_refl 0) leaks
      have stored : ∀ {events : List Event}, List.Forall₂ Event.Varies first.events events →
          (column env.serde first.events).map Json.outline =
            (column env.serde events).map Json.outline := by
        intro events varies
        have rows := same { first with events := events } ⟨rfl, attributesRefl, varies⟩
        refine column_outline_of_scrubbed fractions readsBack ?_
        rw [← (columns first).2, rows, (columns _).2]
      exact differ ((stored one).symm.trans (stored two))
  -- Nothing that varies is in the row.
  · rintro ⟨hidden, isSealed⟩ second varies
    refine convertSpan_varies parses disabled serviceName environment now varies ?_ ?_
    · exact attributesText_eq env.serde varies.attributes hidden
    · exact columnFrom_eq_of_sealed env.serde isSealed eventsRefl varies.events (Nat.le_refl 0)
        (Nat.le_refl 0) (Nat.le_refl 0) (Nat.le_refl 0)

/-- A converter's surroundings that read only the empty array back. -/
def plainEnv : ConverterEnv where
  serde := ⟨fun _ => .error "", fun _ => none, fun _ => "0.0", fun _ => none, fun _ => .zero⟩
  fromStr text := if text = (Json.arr []).text then some [] else none
  toUppercase text := text
  parseUuid text := if text = Uuid.nil.toText then some Uuid.nil else none

theorem plainEnv_fractions : WritesFractions plainEnv.serde := plainSerde_fractions

theorem plainEnv_readsBack : ReadsBack plainEnv := by
  -- The reader of the example reads the empty column only.
  intro items read canonical found
  have found : (if (Json.arr items).text = (Json.arr []).text then some [] else none) = some read :=
    found
  split_ifs at found with empty
  cases found
  have none : ∀ item ∈ ([] : List Json), item.Canonical := List.forall_mem_nil _
  have outlines := Json.outline_eq_of_text (arr_canonical canonical) (arr_canonical none) empty
  rw [Json.outline, Json.outline, Json.outlineItems_eq, Json.outlineItems_eq] at outlines
  exact ⟨none, (Json.arr.inj outlines).symm⟩

theorem plainEnv_parses : plainEnv.parseUuid Uuid.nil.toText = some Uuid.nil := by
  show (if Uuid.nil.toText = Uuid.nil.toText then some Uuid.nil else none) = some Uuid.nil
  rw [if_pos rfl]

/-- A span with one attribute, a text under a key. -/
def spanWithText (key text : String) : OtlpSpan where
  traceId := []
  spanId := []
  parentSpanId := []
  name := ""
  kind := 0
  startTimeUnixNano := 0
  endTimeUnixNano := 0
  attributes := [.mk key (some (.mk (some (.stringValue text))))]
  events := []
  links := []
  status := none

theorem llmInput_is_hidden :
    convertSpan plainEnv (.new plainEnv fun _ => false) "" "" Uuid.nil 0
        (spanWithText "llm.input" "hello") =
      convertSpan plainEnv (.new plainEnv fun _ => false) "" "" Uuid.nil 0
        (spanWithText "llm.input" "secret") := by
  -- The two spans differ in the text of a content key.
  have varies : (spanWithText "llm.input" "hello").Varies (spanWithText "llm.input" "secret") := by
    refine ⟨rfl, .cons ⟨rfl, rfl, fun plain => ?_⟩ .nil, .nil⟩
    exact absurd plain (by decide +kernel)
  -- The span has no message attributes and no events.
  refine (convertSpan_hides_content_iff plainEnv_fractions plainEnv_readsBack plainEnv_parses rfl "" ""
    0 (spanWithText "llm.input" "hello")).mpr ⟨?_, trivial⟩ _ varies
  intro key member value found
  obtain rfl | rfl := List.mem_pair.mp member
  · cases found
  · cases found

theorem input_messages_are_stored :
    ¬ ∀ (env : ConverterEnv) (captureEnabled : WorkspaceId → Bool) (workspaceId : WorkspaceId),
      WritesFractions env.serde → ReadsBack env →
      env.parseUuid workspaceId.toText = some workspaceId → captureEnabled workspaceId = false →
      ∀ (serviceName environment : String) (now : Int64) (first second : OtlpSpan),
        first.Varies second →
        convertSpan env (.new env captureEnabled) serviceName environment workspaceId now first =
          convertSpan env (.new env captureEnabled) serviceName environment workspaceId now second := by
  intro claim
  -- Two spans that differ in a message of the prompt.
  have varies : (spanWithText "gen_ai.input.messages" "x").Varies
      (spanWithText "gen_ai.input.messages" "") := by
    refine ⟨rfl, .cons ⟨rfl, rfl, fun plain => ?_⟩ .nil, .nil⟩
    exact absurd plain (by decide +kernel)
  have rows := claim plainEnv (fun _ => false) Uuid.nil plainEnv_fractions plainEnv_readsBack
    plainEnv_parses rfl "" "" 0 _ _ varies
  have columns := @convertSpan_columns plainEnv (fun _ => false) Uuid.nil plainEnv_parses rfl "" "" 0
  have texts := (columns _).1.symm.trans ((congrArg Span.attributes rows).trans (columns _).1)
  exact absurd texts (by decide +kernel)

end Zradar.Otlp
