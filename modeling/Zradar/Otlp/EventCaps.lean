import Zradar.Lib.Budget
import Zradar.Models.Span
import Zradar.Otlp.ContentEvents

/-! What the caps on the events of a span leave out, and what the column says of it. -/

namespace Zradar.Otlp

/-- A field of a span that events are promoted to. -/
inductive PromotedField where
  | llmInput
  | llmOutput
  deriving DecidableEq

namespace PromotedField

/-- The name of the events whose content is promoted to a field. -/
def eventName : PromotedField → String
  | .llmInput => "gen_ai.content.prompt"
  | .llmOutput => "gen_ai.content.completion"

/-- The detail of an inference that is promoted to a field. -/
def key : PromotedField → String
  | .llmInput => "gen_ai.input.messages"
  | .llmOutput => "gen_ai.output.messages"

def ofSpan (span : Span) : PromotedField → String
  | .llmInput => span.llmInput
  | .llmOutput => span.llmOutput

def ofLoop (state : EventLoop) : PromotedField → String
  | .llmInput => state.llmInput
  | .llmOutput => state.llmOutput

end PromotedField

/-- The events that are no part of a stream of tokens. -/
def meaningful (events : List Event) : List Event := events.filter fun event => !event.isNewToken

/-- The events that the column is for. -/
def plain (events : List Event) : List Event := events.filter fun event => !event.isPromoted

section

variable (serde : SerdeJson)

/-- The text that a detail of an inference has for a field. -/
def detailText (field : PromotedField) (pair : KeyValue) : Option String :=
  if pair.key = field.key then pair.value.map fun value => (anyValueToJson serde value).text else none

/-- The texts that an event has for a field. -/
def Event.texts (event : Event) (field : PromotedField) : List String :=
  if event.name = field.eventName then event.bodyString.toList
  else if event.name = "gen_ai.client.inference.operation.details" then
    event.attributes.filterMap (detailText serde field)
  else []

/-- What an event takes of the bytes. -/
def Event.cost (event : Event) : Nat := if event.isPromoted then 0 else eventCost serde event

/-- The events that are looked at and taken in, up to the first one that does not fit. -/
def beforeCut (events : List Event) : List Event :=
  Budget.fitting (Event.cost serde) maxBytesPerSpan 2 ((meaningful events).take maxEventsPerSpan)

/-- The bytes of a column with the first events, the last comma of which counts as a bracket. -/
def bytesOf (events : List Event) : Nat := 2 + Budget.total (Event.cost serde) events

/-- The bytes do not pay for all events that would be looked at. -/
def BytesRunOut (events : List Event) : Prop :=
  maxBytesPerSpan < bytesOf serde ((meaningful events).take maxEventsPerSpan)

instance (events : List Event) : Decidable (BytesRunOut serde events) :=
  inferInstanceAs (Decidable (_ < _))

/-- The loop over the events of a span, when it has ended. -/
def spanLoop (events : List Event) (span : Span) : EventLoop :=
  eventLoop serde ((meaningful events).take maxEventsPerSpan)
    ⟨span.llmInput, span.llmOutput, [], 2, false⟩

/-- The caps leave out what they should: the column stays in its bounds and says if an event of it is
left out, streams of tokens do not matter, and the promoted fields depend on promoted events only. -/
structure CapsHold (events : List Event) (span : Span) : Prop where
  bytes : (applySpanEvents serde events span).events.utf8ByteSize ≤ maxBytesPerSpan
  written : (applySpanEvents serde events span).events =
    (Json.arr (spanLoop serde events span).column).text
  column : ∃ kept left, kept ++ left = plain (meaningful events) ∧ kept.length ≤ maxEventsPerSpan ∧
    (spanLoop serde events span).column =
      kept.map (Event.toJson serde) ++ if left = [] then [] else [truncationMarker]
  streams : applySpanEvents serde events span = applySpanEvents serde (meaningful events) span
  promoted : ∀ field : PromotedField, field.ofSpan (applySpanEvents serde events span) =
    field.ofSpan (applySpanEvents serde (events.filter Event.isPromoted) span)

/-- The caps are reached where it does no harm. -/
structure CapsHarmless (events : List Event) (span : Span) : Prop where
  /-- If the bytes run out, there are enough of them left for the marker. -/
  room : BytesRunOut serde events →
    bytesOf serde (beforeCut serde events) + truncationMarker.text.utf8ByteSize ≤ maxBytesPerSpan
  /-- If they do not, all events that are not looked at are promoted ones. -/
  count : ¬ BytesRunOut serde events →
    ∀ event ∈ (meaningful events).drop maxEventsPerSpan, event.isPromoted = true
  /-- If nothing before the cut has a text for a field, no other promoted event has one. -/
  promoted : ∀ field : PromotedField,
    (∀ text ∈ field.ofSpan span :: (beforeCut serde events).flatMap fun event =>
      event.texts serde field, text = "") →
    ∀ text ∈ (((meaningful events).filter Event.isPromoted).take maxEventsPerSpan).flatMap
      fun event => event.texts serde field, text = ""

end

/-- The first text that is not empty. -/
def firstText : List String → String
  | [] => ""
  | text :: texts => if text = "" then firstText texts else text

theorem firstText_singleton (text : String) : firstText [text] = text := by
  by_cases empty : text = ""
  · rw [empty]
    rfl
  · rw [firstText, if_neg empty]

theorem firstText_append (texts others : List String) :
    firstText (texts ++ others) = firstText (firstText texts :: others) := by
  induction texts with
  | nil => rfl
  | cons text texts ih =>
    by_cases empty : text = ""
    · have skipped : firstText (text :: texts) = firstText texts := by rw [firstText, if_pos empty]
      rw [List.cons_append, skipped, ← ih, firstText, if_pos empty]
    · have filled : firstText (text :: texts) = text := by rw [firstText, if_neg empty]
      rw [List.cons_append, filled, firstText, firstText, if_neg empty, if_neg empty]

theorem firstText_eq_empty (texts : List String) : firstText texts = "" ↔ ∀ text ∈ texts, text = "" := by
  -- A text is passed over exactly if it is empty.
  induction texts with
  | nil => simp [firstText]
  | cons text texts ih =>
    rw [firstText, List.forall_mem_cons]
    split
    · rename_i empty
      rw [ih, and_iff_right empty]
    · rename_i filled
      simp [filled]

/-- More texts do not matter exactly if they are empty whenever the first ones are. -/
theorem firstText_append_eq (texts others : List String) :
    firstText texts = firstText (texts ++ others) ↔
      ((∀ text ∈ texts, text = "") → ∀ text ∈ others, text = "") := by
  rw [firstText_append, ← firstText_eq_empty, ← firstText_eq_empty, firstText]
  split
  · rename_i empty
    rw [empty, imp_iff_right rfl, eq_comm]
  · rename_i filled
    exact iff_of_true rfl fun empty => absurd empty filled

section

variable {serde : SerdeJson}

/-- A detail of an inference fills the field that it is for, if nothing else does. -/
theorem ofLoop_applyInferenceDetail (field : PromotedField) (state : EventLoop) (pair : KeyValue) :
    field.ofLoop (applyInferenceDetail serde state pair) =
      firstText (field.ofLoop state :: (detailText serde field pair).toList) := by
  unfold applyInferenceDetail detailText
  cases pair.value with
  | none => cases field <;> simp [firstText]
  | some value =>
    -- The two fields have different keys.
    cases field <;> dsimp only [PromotedField.ofLoop, PromotedField.key, Option.map_some]
    all_goals
      split_ifs <;> simp_all [firstText]

theorem ofLoop_foldl_detail (field : PromotedField) (pairs : List KeyValue) (state : EventLoop) :
    field.ofLoop (pairs.foldl (applyInferenceDetail serde) state) =
      firstText (field.ofLoop state :: pairs.filterMap (detailText serde field)) := by
  induction pairs generalizing state with
  | nil => simp [firstText]
  | cons pair pairs ih =>
    have split : (pair :: pairs).filterMap (detailText serde field) =
        (detailText serde field pair).toList ++ pairs.filterMap (detailText serde field) := by
      rw [List.filterMap_cons]
      cases detailText serde field pair <;> rfl
    rw [List.foldl_cons, ih, ofLoop_applyInferenceDetail, split, ← List.cons_append, firstText_append]

/-- A promoted event fills a field with its first text, if nothing else does. -/
theorem ofLoop_promoteEvent {event : Event} (promoted : event.isPromoted = true)
    (field : PromotedField) (state : EventLoop) :
    field.ofLoop (promoteEvent serde event state) =
      firstText (field.ofLoop state :: event.texts serde field) := by
  -- A prompt fills the input, a completion the output, and other events either by attributes.
  have filled (text : String) (body : Option String) :
      firstText (text :: body.toList) = if text = "" then body.getD "" else text := by
    rw [firstText]
    cases body with
    | none => rfl
    | some body => rw [Option.toList_some, firstText_singleton, Option.getD_some]
  simp only [Event.isPromoted, Bool.or_eq_true, decide_eq_true_eq] at promoted
  unfold promoteEvent
  obtain (prompt | completion) | details := promoted
  · rw [if_pos prompt]
    cases field with
    | llmInput =>
      have texts : event.texts serde .llmInput = event.bodyString.toList := if_pos prompt
      rw [texts, filled]
      split <;> simp_all [PromotedField.ofLoop]
    | llmOutput =>
      have texts : event.texts serde .llmOutput = [] := by
        rw [Event.texts, prompt, if_neg (by decide), if_neg (by decide)]
      rw [texts, firstText_singleton]
      split <;> rfl
  · rw [if_neg (by rw [completion]; decide), if_pos completion]
    cases field with
    | llmInput =>
      have texts : event.texts serde .llmInput = [] := by
        rw [Event.texts, completion, if_neg (by decide), if_neg (by decide)]
      rw [texts, firstText_singleton]
      split <;> rfl
    | llmOutput =>
      have texts : event.texts serde .llmOutput = event.bodyString.toList := if_pos completion
      rw [texts, filled]
      split <;> simp_all [PromotedField.ofLoop]
  · have texts : event.texts serde field = event.attributes.filterMap (detailText serde field) := by
      rw [Event.texts, details, if_neg (by cases field <;> decide), if_pos rfl]
    rw [if_neg (by rw [details]; decide), if_neg (by rw [details]; decide), texts]
    exact ofLoop_foldl_detail field event.attributes state

/-- Only promoted events have texts for fields. -/
theorem texts_eq_nil {event : Event} (kept : ¬ event.isPromoted = true) (field : PromotedField) :
    event.texts serde field = [] := by
  simp only [Event.isPromoted, Bool.or_eq_true, decide_eq_true_eq, not_or] at kept
  obtain ⟨⟨notPrompt, notCompletion⟩, notDetails⟩ := kept
  have other : event.name ≠ field.eventName := by
    cases field with
    | llmInput => exact notPrompt
    | llmOutput => exact notCompletion
  rw [Event.texts, if_neg other, if_neg notDetails]

/-- What the loop takes in, when it has bytes left at the start. -/
theorem eventLoop_eq (events : List Event) {state : EventLoop} (running : state.truncated = false)
    (paid : state.runningBytes ≤ maxBytesPerSpan) :
    (eventLoop serde events state).column = state.preserved ++
        ((plain (Budget.fitting (Event.cost serde) maxBytesPerSpan state.runningBytes events)).map
          (Event.toJson serde) ++
        if maxBytesPerSpan < state.runningBytes + Budget.total (Event.cost serde) events then
          [truncationMarker] else []) ∧
      ∀ field : PromotedField, field.ofLoop (eventLoop serde events state) =
        firstText (field.ofLoop state ::
          (Budget.fitting (Event.cost serde) maxBytesPerSpan state.runningBytes events).flatMap
            fun event => event.texts serde field) := by
  -- The loop and the prefix that fits are cut at the same event.
  induction events generalizing state with
  | nil =>
    constructor
    · simp [eventLoop, EventLoop.column, running, Budget.fitting, plain, paid]
    · intro field
      exact (firstText_singleton _).symm
  | cons event events ih =>
    rw [eventLoop, Budget.fitting, Budget.total_cons]
    by_cases promoted : event.isPromoted = true
    · -- A promoted event costs nothing, and has no entry of its own.
      have free : event.cost serde = 0 := if_pos promoted
      have fits : ¬ state.runningBytes + 0 > maxBytesPerSpan := by omega
      obtain ⟨preserved, bytes, truncated⟩ := promoteEvent_column serde event state
      obtain ⟨column, fields⟩ := ih (truncated.trans running) (bytes.trans_le paid)
      rw [if_pos promoted, free, if_neg fits, Nat.add_zero, Nat.zero_add]
      rw [preserved, bytes] at column
      rw [bytes] at fields
      constructor
      · rw [column, plain, plain, List.filter_cons_of_neg (by simpa using promoted)]
      · intro field
        rw [fields field, ofLoop_promoteEvent promoted, List.flatMap_cons, ← List.cons_append,
          firstText_append (_ :: _)]
    · have costs : event.cost serde = eventCost serde event := if_neg promoted
      rw [if_neg promoted, costs]
      split
      · -- The event does not fit, and neither does all of the rest.
        rename_i crowded
        have short : maxBytesPerSpan < state.runningBytes +
            (eventCost serde event + Budget.total (Event.cost serde) events) := by omega
        rw [if_pos short]
        exact ⟨rfl, fun field => (firstText_singleton _).symm⟩
      · rename_i fits
        obtain ⟨column, fields⟩ := @ih { state with
          runningBytes := state.runningBytes + eventCost serde event
          preserved := state.preserved ++ [event.toJson serde] } running (Nat.le_of_not_lt fits)
        constructor
        · rw [column, plain, plain, List.filter_cons_of_pos (by simpa using promoted), Nat.add_assoc,
            List.map_cons, List.append_assoc]
          rfl
        · intro field
          rw [fields field, List.flatMap_cons, texts_eq_nil promoted, List.nil_append]
          rfl

/-- Lists with commas between them. -/
theorem utf8Len_joined (items : List (List Char)) :
    String.utf8Len (joined [','] items) =
      Budget.total (fun item => String.utf8Len item + 1) items := by
  induction items with
  | nil => rfl
  | cons item items ih =>
    rw [joined, String.utf8Len_append, String.utf8Len_append, ih, Budget.total_cons]
    have comma : String.utf8Len [','] = 1 := rfl
    omega

/-- The bytes of an array, where each item counts with the comma or bracket behind it. -/
theorem arr_size {items : List Json} (filled : items ≠ []) :
    (Json.arr items).text.utf8ByteSize =
      1 + Budget.total (fun item => item.text.utf8ByteSize + 1) items := by
  -- The opening bracket is the one byte more; each item has one comma or the closing bracket.
  have size (item : Json) : item.text.utf8ByteSize = String.utf8Len item.chars :=
    String.utf8ByteSize_ofList item.chars
  rw [size]
  simp only [size]
  cases items with
  | nil => exact absurd rfl filled
  | cons item items =>
    rw [Json.chars, Json.charsOfItems_eq, arrayChars, List.map_cons, joined]
    simp only [List.nil_append, String.utf8Len_cons, String.utf8Len_append, String.utf8Len_nil,
      utf8Len_joined, Budget.total, List.map_map]
    have brackets : '['.utf8Size = 1 ∧ ']'.utf8Size = 1 := by decide
    rw [List.map_cons, List.sum_cons, Function.comp_def]
    omega

/-- The events that are kept cost what they take in the column. -/
theorem total_plain (events : List Event) :
    Budget.total (fun item => item.text.utf8ByteSize + 1) ((plain events).map (Event.toJson serde)) =
      Budget.total (Event.cost serde) events := by
  -- Promoted events are in neither of them.
  induction events with
  | nil => rfl
  | cons event events ih =>
    rw [Budget.total_cons, ← ih, plain]
    by_cases promoted : event.isPromoted = true
    · have free : event.cost serde = 0 := if_pos promoted
      rw [List.filter_cons_of_neg (by simpa using promoted), free, Nat.zero_add, plain]
    · have costs : event.cost serde = eventCost serde event := if_neg promoted
      rw [List.filter_cons_of_pos (by simpa using promoted), costs, List.map_cons, Budget.total_cons,
        eventCost, plain]

section

variable (serde) (events : List Event) (span : Span)

theorem beforeCut_prefix :
    beforeCut serde events <+: (meaningful events).take maxEventsPerSpan :=
  Budget.fitting_prefix _

theorem beforeCut_paid : bytesOf serde (beforeCut serde events) ≤ maxBytesPerSpan :=
  Budget.total_fitting (by decide) _

theorem spanLoop_column :
    (spanLoop serde events span).column = (plain (beforeCut serde events)).map (Event.toJson serde) ++
      if BytesRunOut serde events then [truncationMarker] else [] := by
  have empty : (2 : Nat) ≤ maxBytesPerSpan := by decide
  exact (eventLoop_eq _ rfl empty).1

/-- A field is filled by the span, or else by the first text before the cut. -/
theorem ofSpan_applySpanEvents (field : PromotedField) :
    field.ofSpan (applySpanEvents serde events span) =
      firstText (field.ofSpan span :: (beforeCut serde events).flatMap fun event =>
        event.texts serde field) := by
  have empty : (2 : Nat) ≤ maxBytesPerSpan := by decide
  have filled : ∀ field : PromotedField, field.ofLoop (spanLoop serde events span) = _ :=
    (eventLoop_eq _ rfl empty).2
  cases field with
  | llmInput => exact filled .llmInput
  | llmOutput => exact filled .llmOutput

/-- The text of the column, for a span that has none yet. -/
theorem events_applySpanEvents (fresh : span.events = "[]") :
    (applySpanEvents serde events span).events = (Json.arr (spanLoop serde events span).column).text := by
  change (if (spanLoop serde events span).column.isEmpty then span.events
    else (Json.arr (spanLoop serde events span).column).text) = _
  split
  · rename_i empty
    rw [List.isEmpty_iff.mp empty, fresh]
    decide
  · rfl

/-- The column takes the bytes of what it holds. -/
theorem size_column :
    (Json.arr (spanLoop serde events span).column).text.utf8ByteSize ≤ maxBytesPerSpan ↔
      (BytesRunOut serde events →
        bytesOf serde (beforeCut serde events) + truncationMarker.text.utf8ByteSize ≤
          maxBytesPerSpan) := by
  have paid := beforeCut_paid serde events
  rw [spanLoop_column]
  by_cases runOut : BytesRunOut serde events
  · rw [if_pos runOut, imp_iff_right runOut, arr_size (by simp), Budget.total_append, total_plain,
      Budget.total_cons, Budget.total_nil]
    unfold bytesOf
    omega
  · -- Without a marker the column is as long as the events that it holds.
    refine iff_of_true ?_ fun ranOut => absurd ranOut runOut
    rw [if_neg runOut, List.append_nil]
    by_cases filled : (plain (beforeCut serde events)).map (Event.toJson serde) = []
    · rw [filled]
      decide
    · rw [arr_size filled, total_plain]
      unfold bytesOf at paid
      omega

/-- The marker is there exactly when it should be, unless events are not even looked at. -/
theorem column_iff :
    (∃ kept left, kept ++ left = plain (meaningful events) ∧ kept.length ≤ maxEventsPerSpan ∧
      (spanLoop serde events span).column =
        kept.map (Event.toJson serde) ++ if left = [] then [] else [truncationMarker]) ↔
      (¬ BytesRunOut serde events →
        ∀ event ∈ (meaningful events).drop maxEventsPerSpan, event.isPromoted = true) := by
  set looked := (meaningful events).take maxEventsPerSpan with isLooked
  set unseen := (meaningful events).drop maxEventsPerSpan with isUnseen
  have whole : plain (meaningful events) = plain looked ++ plain unseen := by
    rw [plain, plain, plain, ← List.filter_append, List.take_append_drop]
  have before := beforeCut_prefix serde events
  have enough : beforeCut serde events = looked ↔ ¬ BytesRunOut serde events := by
    rw [BytesRunOut, Nat.not_lt]
    exact Budget.fitting_eq_self (by decide) looked
  have short : (plain (beforeCut serde events)).length ≤ maxEventsPerSpan :=
    (List.length_filter_le _ _).trans (before.length_le.trans (List.length_take_le _ _))
  rw [spanLoop_column]
  by_cases runOut : BytesRunOut serde events
  · refine iff_of_true ?_ fun fits => absurd runOut fits
    obtain ⟨missing, split⟩ := before.filter fun event => !event.isPromoted
    have some : missing ++ plain unseen ≠ [] := by
      -- If nothing of the column were missing, the bytes would have paid for all of it.
      intro none
      have same : plain (beforeCut serde events) = plain looked := by
        rw [plain, plain, ← split, (List.append_eq_nil_iff.mp none).1, List.append_nil]
      have paid := beforeCut_paid serde events
      have costs : Budget.total (Event.cost serde) (beforeCut serde events) =
          Budget.total (Event.cost serde) looked := by
        rw [← total_plain, same, total_plain]
      rw [bytesOf, costs] at paid
      exact absurd paid (Nat.not_le.mpr runOut)
    refine ⟨plain (beforeCut serde events), missing ++ plain unseen, ?_, short, ?_⟩
    · rw [whole, ← List.append_assoc]
      exact congrArg (· ++ plain unseen) split
    · rw [if_pos runOut, if_neg some]
  · rw [if_neg runOut, List.append_nil, imp_iff_right runOut, enough.mpr runOut]
    have promoted : plain unseen = [] ↔ ∀ event ∈ unseen, event.isPromoted = true := by
      rw [plain, List.filter_eq_nil_iff]
      simp only [Bool.not_eq_true', Bool.not_eq_false]
    rw [← promoted]
    constructor
    · intro ⟨kept, left, split, _, column⟩
      by_cases none : left = []
      · -- Every event of the column was looked at, so none of them is unseen.
        rw [if_pos none, List.append_nil] at column
        have lengths := congrArg List.length column
        have sum := congrArg List.length (split.trans whole)
        simp only [List.length_map, List.length_append, none, List.length_nil] at lengths sum
        exact List.length_eq_zero_iff.mp (by omega)
      · -- No event is written as a marker.
        rw [if_neg none] at column
        have marked : truncationMarker ∈ (plain looked).map (Event.toJson serde) := by
          rw [column]
          exact List.mem_append_right _ (List.mem_singleton.mpr rfl)
        obtain ⟨event, _, written⟩ := List.mem_map.mp marked
        exact absurd (congrArg Json.outline written) (event.toJson_ne_marker serde)
    · intro none
      refine ⟨plain looked, [], ?_, ?_, ?_⟩
      · rw [whole, none]
      · rw [← enough.mpr runOut]
        exact short
      · rw [if_pos rfl, List.append_nil]

/-- Streams of tokens do not matter. -/
theorem applySpanEvents_meaningful :
    applySpanEvents serde events span = applySpanEvents serde (meaningful events) span := by
  unfold applySpanEvents meaningful
  rw [List.filter_filter]
  simp only [Bool.and_self]

/-- Events that are promoted all fit. -/
theorem beforeCut_promoted : beforeCut serde (events.filter Event.isPromoted) =
    ((meaningful events).filter Event.isPromoted).take maxEventsPerSpan := by
  -- Promoted events cost nothing, so that only their number is limited.
  have same : meaningful (events.filter Event.isPromoted) =
      (meaningful events).filter Event.isPromoted := by
    rw [meaningful, meaningful, List.filter_filter, List.filter_filter]
    simp only [Bool.and_comm]
  rw [beforeCut, same, Budget.fitting_eq_self (by decide), ← total_plain]
  have none : plain (((meaningful events).filter Event.isPromoted).take maxEventsPerSpan) = [] := by
    rw [plain, List.filter_eq_nil_iff]
    intro event member
    have promoted := (List.mem_filter.mp (List.mem_of_mem_take member)).2
    rw [promoted]
    exact Bool.false_ne_true
  rw [none, List.map_nil, Budget.total_nil]
  decide

/-- Only the promoted events have texts for a field. -/
theorem flatMap_texts (field : PromotedField) :
    (events.flatMap fun event => event.texts serde field) =
      (events.filter Event.isPromoted).flatMap fun event => event.texts serde field := by
  induction events with
  | nil => rfl
  | cons event events ih =>
    rw [List.flatMap_cons, ih]
    by_cases promoted : event.isPromoted = true
    · rw [List.filter_cons_of_pos promoted, List.flatMap_cons]
    · rw [List.filter_cons_of_neg promoted, texts_eq_nil promoted, List.nil_append]

/-- The promoted fields are those of the promoted events exactly if none of them is lost. -/
theorem promoted_iff (field : PromotedField) :
    field.ofSpan (applySpanEvents serde events span) =
        field.ofSpan (applySpanEvents serde (events.filter Event.isPromoted) span) ↔
      ((∀ text ∈ field.ofSpan span :: (beforeCut serde events).flatMap fun event =>
          event.texts serde field, text = "") →
        ∀ text ∈ (((meaningful events).filter Event.isPromoted).take maxEventsPerSpan).flatMap
          fun event => event.texts serde field, text = "") := by
  set promoted := (meaningful events).filter Event.isPromoted
  -- The promoted events before the cut are the first ones of all that are promoted.
  have first : (beforeCut serde events).filter Event.isPromoted <+: promoted.take maxEventsPerSpan := by
    have before := beforeCut_prefix serde events
    refine List.prefix_take_iff.mpr ⟨(before.trans (List.take_prefix _ _)).filter _, ?_⟩
    exact (List.length_filter_le _ _).trans (before.length_le.trans (List.length_take_le _ _))
  obtain ⟨rest, split⟩ := first
  rw [ofSpan_applySpanEvents, ofSpan_applySpanEvents, beforeCut_promoted, flatMap_texts, ← split,
    List.flatMap_append, ← List.cons_append, firstText_append_eq]
  constructor
  · intro quiet empty
    rw [List.forall_mem_append]
    exact ⟨(List.forall_mem_cons.mp empty).2, quiet empty⟩
  · intro quiet empty
    exact (List.forall_mem_append.mp (quiet empty)).2

end

/-- An event with nothing but a name. -/
def namedEvent (name : String) : Event := ⟨0, name, []⟩

/-- A name that nothing in a text has to be escaped for. -/
def plainName (length : Nat) : String := .ofList (List.replicate length 'a')

theorem plainName_ne {length : Nat} {text : String} (differ : text.length ≠ length) :
    plainName length ≠ text := by
  intro same
  rw [← same, plainName, String.length_ofList, List.length_replicate] at differ
  exact differ rfl

/-- An event takes a byte for each letter of its name, and a few around them. -/
theorem eventCost_named (length : Nat) :
    eventCost serde (namedEvent (plainName length)) = length + 12 := by
  -- None of the letters is escaped, so the text of the event is its name between fixed signs.
  have letters : ∀ count, (List.replicate count 'a').flatMap escape = List.replicate count 'a' ∧
      String.utf8Len (List.replicate count 'a') = count := by
    intro count
    induction count with
    | zero => exact ⟨rfl, rfl⟩
    | succ count ih =>
      rw [List.replicate_succ, List.flatMap_cons, ih.1, String.utf8Len_cons, ih.2]
      exact ⟨rfl, rfl⟩
  obtain ⟨escaped, sizes⟩ := letters length
  have written : ((namedEvent (plainName length)).toJson serde).chars =
      openBrace :: (quoted "name" ++ ':' :: quoteMark :: List.replicate length 'a' ++ [quoteMark]) ++
        [closeBrace] := by
    change objectChars [("name", quoted (plainName length))] = _
    simp [objectChars, joined, entryChars, quoted, plainName, escaped]
  have front : String.utf8Len (quoted "name") = 6 := by decide
  have signs : openBrace.utf8Size = 1 ∧ closeBrace.utf8Size = 1 ∧ quoteMark.utf8Size = 1 ∧
      ':'.utf8Size = 1 := by decide
  rw [eventCost, Json.text, written, String.utf8ByteSize_ofList]
  simp only [String.utf8Len_append, String.utf8Len_cons, String.utf8Len_nil, front, sizes]
  omega

/-- Two events of which only one fits, and leaves too little for the marker. -/
theorem not_capsHold_of_cost {event : Event} (noise : event.isNewToken = false)
    (costs : event.cost serde = 65522) {span : Span} : ¬ CapsHold serde [event, event] span := by
  -- The first event leaves 14 bytes, which are fewer than the marker takes.
  have looked : (meaningful [event, event]).take maxEventsPerSpan = [event, event] := by
    simp [meaningful, noise, maxEventsPerSpan]
  have first : beforeCut serde [event, event] = [event] := by
    rw [beforeCut, looked]
    simp [Budget.fitting, costs, maxBytesPerSpan]
  have runOut : BytesRunOut serde [event, event] := by
    rw [BytesRunOut, looked]
    simp [bytesOf, costs, maxBytesPerSpan]
  have marker : truncationMarker.text.utf8ByteSize = 25 := by decide
  intro holds
  have size := (size_column serde [event, event] span).mp (holds.written ▸ holds.bytes) runOut
  rw [first, marker, bytesOf, Budget.total_cons, costs, Budget.total_nil] at size
  exact absurd size (by decide)

end

end Zradar.Otlp
