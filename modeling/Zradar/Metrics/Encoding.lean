import Zradar.Metrics.Primitive

/-! What the encoder writes, read as lines of an exposition. -/

namespace Zradar.Metrics

open Exposition

/-- A call of the encoder. -/
inductive Emission where
  | counter (name help : String) (value : UInt64) (labels : Labels)
  | gauge (name help : String) (value : F64) (labels : Labels)
  | histogram {bounds : Bounds} (name help : String) (reading : HistogramReading bounds)
      (labels : Labels)

namespace Emission

/-- The name of the metric that is written. -/
def name : Emission → String
  | counter name _ _ _ | gauge name _ _ _ | histogram name _ _ _ => name

/-- The description of the metric that is written. -/
def help : Emission → String
  | counter _ help _ _ | gauge _ help _ _ | histogram _ help _ _ => help

/-- The kind of metric that is written. -/
def kind : Emission → String
  | counter _ _ _ _ => "counter"
  | gauge _ _ _ _ => "gauge"
  | histogram _ _ _ _ => "histogram"

/-- The labels that are on every sample. -/
def labels : Emission → Labels
  | counter _ _ _ labels | gauge _ _ _ labels | histogram _ _ _ labels => labels

end Emission

/-- Carry a call of the encoder out. -/
def PromEncoder.emit (display : DisplayF64) (encoder : PromEncoder) : Emission → PromEncoder
  | .counter name help value labels => encoder.counter name help value labels
  | .gauge name help value labels => encoder.gauge display name help value labels
  | .histogram name help reading labels => encoder.histogram display name help reading labels

/-- A sample as a line. -/
def sampleLine (name : String) (labels : Labels) (value : String) : Line :=
  .sample name.toList (labels.map fun label => (label.1.toList, label.2.toList)) value.toList

/-- The sums of the first counts, for every number of them. -/
def cumulatives (total : UInt64) : List UInt64 → List UInt64
  | [] => []
  | count :: counts => (total + count) :: cumulatives (total + count) counts

/-- The sum of counts. -/
def totalCount (counts : List UInt64) : UInt64 := counts.foldl (fun total count => total + count) 0

/-- The samples of the buckets of a histogram. -/
def bucketSamples (display : DisplayF64) (bounds : Bounds) (name : String) (counts : List UInt64)
    (labels : Labels) : List Line :=
  ((bounds.values.map (ftoa display) ++ ["+Inf"]).zip (cumulatives 0 counts)).map
    fun bucket => sampleLine (name ++ "_bucket") (labels ++ [("le", bucket.1)]) (itoa bucket.2)

namespace Emission

/-- The samples that a call writes. -/
def samples (display : DisplayF64) : Emission → List Line
  | counter name _ value labels => [sampleLine name labels (itoa value)]
  | gauge name _ value labels => [sampleLine name labels (ftoa display value)]
  | @histogram bounds name _ reading labels =>
    bucketSamples display bounds name reading.counts labels ++
      [sampleLine (name ++ "_sum") labels (ftoa display reading.sum),
        sampleLine (name ++ "_count") labels (itoa (totalCount reading.counts))]

/-- The lines that a call writes, with a description where the metric has none yet. -/
def lines (display : DisplayF64) (seen : List String) (emission : Emission) : List Line :=
  (if emission.name ∈ seen then []
    else [.help emission.name.toList emission.help.toList,
      .type emission.name.toList emission.kind.toList]) ++ emission.samples display

/-- The metrics that are described behind a call. -/
def describes (seen : List String) (emission : Emission) : List String :=
  if emission.name ∈ seen then seen else emission.name :: seen

end Emission

/-- The lines of calls in a row. -/
def linesOf (display : DisplayF64) : List String → List Emission → List Line
  | _, [] => []
  | seen, emission :: emissions =>
    emission.lines display seen ++ linesOf display (emission.describes seen) emissions

theorem cumulatives_length (total : UInt64) (counts : List UInt64) :
    (cumulatives total counts).length = counts.length := by
  induction counts generalizing total with
  | nil => rfl
  | cons count counts ih => rw [cumulatives, List.length_cons, ih, List.length_cons]

/-- The last sum of counts is the one of all of them. -/
theorem cumulatives_concat (counts : List UInt64) (last : UInt64) :
    cumulatives 0 (counts ++ [last]) = cumulatives 0 counts ++ [totalCount counts + last] := by
  have general (total : UInt64) : cumulatives total (counts ++ [last]) =
      cumulatives total counts ++
        [counts.foldl (fun total count => total + count) total + last] := by
    induction counts generalizing total with
    | nil => rfl
    | cons count counts ih =>
      rw [List.cons_append, cumulatives, ih]
      rfl
  exact general 0

namespace PromEncoder

@[simp] theorem pushStr_out (encoder : PromEncoder) (text : String) :
    (encoder.pushStr text).out = encoder.out ++ text.toList := rfl

@[simp] theorem pushStr_seen (encoder : PromEncoder) (text : String) :
    (encoder.pushStr text).seen = encoder.seen := rfl

/-- The labels behind a first one have a comma in front. -/
theorem zipIdx_labels (labels : Labels) (position : Nat) :
    ((labels.zipIdx position).flatMap fun ((key, value), position) =>
        (if position > 0 then [','] else []) ++ key.toList ++ ['=', quoteMark] ++
          value.toList.flatMap pushLabelChar ++ [quoteMark]) =
      joined (if position > 0 then [','] else [])
        (labels.map fun label => labelChars (label.1.toList, label.2.toList)) := by
  -- Only the first label of all stands at the position zero.
  induction labels generalizing position with
  | nil => rfl
  | cons label labels ih =>
    obtain ⟨key, value⟩ := label
    have same : pushLabelChar = escapeMark := rfl
    have later := ih (position + 1)
    rw [if_pos (Nat.succ_pos position)] at later
    rw [List.zipIdx_cons, List.flatMap_cons, later, List.map_cons, joined, same]
    simp [labelChars]

theorem writeLabels_out (encoder : PromEncoder) (labels : Labels) :
    (encoder.writeLabels labels).out = encoder.out ++
      labelSetChars (labels.map fun label => (label.1.toList, label.2.toList)) := by
  cases labels with
  | nil => simp [writeLabels, labelSetChars]
  | cons label labels =>
    have pushed := zipIdx_labels (label :: labels) 0
    rw [if_neg (Nat.lt_irrefl 0)] at pushed
    have some : (label :: labels).isEmpty = false := rfl
    unfold writeLabels
    rw [some, if_neg Bool.false_ne_true]
    simp only [pushed]
    rw [List.map_cons, List.map_cons, labelSetChars, List.map_cons, List.map_map]
    simp only [List.cons_append, List.append_assoc, Function.comp_def]

theorem writeLabels_seen (encoder : PromEncoder) (labels : Labels) :
    (encoder.writeLabels labels).seen = encoder.seen := by
  unfold writeLabels
  split <;> rfl

/-- A sample of a counter is written as its line. -/
theorem lineU64_eq (encoder : PromEncoder) (name : String) (labels : Labels) (value : UInt64) :
    encoder.lineU64 name labels value =
      { encoder with out := encoder.out ++ (sampleLine name labels (itoa value)).chars } := by
  have blank : " ".toList = [' '] := rfl
  have line : "\n".toList = ['\n'] := rfl
  unfold lineU64
  refine PromEncoder.mk.injEq .. ▸ ⟨?_, ?_⟩
  · simp only [pushStr_out, writeLabels_out, sampleLine, Line.chars, blank, line,
      List.append_assoc, List.cons_append, List.nil_append]
  · simp only [pushStr_seen, writeLabels_seen]

/-- A sample of a double is written as its line. -/
theorem lineF64_eq (encoder : PromEncoder) (display : DisplayF64) (name : String)
    (labels : Labels) (value : F64) :
    encoder.lineF64 display name labels value =
      { encoder with out := encoder.out ++ (sampleLine name labels (ftoa display value)).chars } := by
  have blank : " ".toList = [' '] := rfl
  have line : "\n".toList = ['\n'] := rfl
  unfold lineF64
  refine PromEncoder.mk.injEq .. ▸ ⟨?_, ?_⟩
  · simp only [pushStr_out, writeLabels_out, sampleLine, Line.chars, blank, line,
      List.append_assoc, List.cons_append, List.nil_append]
  · simp only [pushStr_seen, writeLabels_seen]

/-- A metric is described where it has not been before. -/
theorem describe_eq (encoder : PromEncoder) (name help kind : String) :
    encoder.describe name help kind =
      if name ∈ encoder.seen then encoder
      else ⟨encoder.out ++ ((Line.help name.toList help.toList).chars ++
        (Line.type name.toList kind.toList).chars), name :: encoder.seen⟩ := by
  have helpMark : "# HELP ".toList = '#' :: ' ' :: ("HELP".toList ++ [' ']) := by decide
  have typeMark : "# TYPE ".toList = '#' :: ' ' :: ("TYPE".toList ++ [' ']) := by decide
  have blank : " ".toList = [' '] := rfl
  have line : "\n".toList = ['\n'] := rfl
  unfold describe
  split
  · rfl
  · refine PromEncoder.mk.injEq .. ▸ ⟨?_, rfl⟩
    simp only [pushStr_out, Line.chars, commentChars, helpMark, typeMark, blank, line,
      List.append_assoc, List.cons_append, List.nil_append]

/-- The buckets that have a bound are written as their samples. -/
theorem bucketLines_eq (display : DisplayF64) (name : String) (labels : Labels)
    (bounds : List F64) (counts : List UInt64) (encoder : PromEncoder) (total : UInt64) :
    bucketLines display name labels (bounds.zip counts) (encoder, total) =
      ({ encoder with out := encoder.out ++
          (((bounds.map (ftoa display)).zip (cumulatives total counts)).map fun bucket =>
            sampleLine name (labels ++ [("le", bucket.1)]) (itoa bucket.2)).flatMap Line.chars },
        (counts.take bounds.length).foldl (fun total count => total + count) total) := by
  -- The induction is on the bounds, with the count so far.
  induction bounds generalizing counts encoder total with
  | nil => simp [bucketLines]
  | cons bound bounds ih =>
    cases counts with
    | nil => simp [bucketLines, cumulatives]
    | cons count counts =>
      rw [List.zip_cons_cons, bucketLines, ih, lineU64_eq]
      simp [cumulatives]

/-- A histogram is written as its samples. -/
theorem histogram_eq {bounds : Bounds} (encoder : PromEncoder) (display : DisplayF64)
    (name help : String) (reading : HistogramReading bounds) (labels : Labels) :
    encoder.histogram display name help reading labels =
      { encoder.describe name help "histogram" with
        out := (encoder.describe name help "histogram").out ++
          ((Emission.histogram name help reading labels).samples display).flatMap Line.chars } := by
  obtain ⟨counts, sum, sized⟩ := reading
  -- The last count is the one behind those that have a bound.
  obtain ⟨front, last, rfl⟩ : ∃ front last, counts = front ++ [last] := by
    have filled : counts ≠ [] := List.ne_nil_of_length_pos (by omega)
    exact ⟨counts.dropLast, counts.getLast filled, (List.dropLast_append_getLast filled).symm⟩
  have length : front.length = bounds.values.length := by simpa using sized
  have taken : (front ++ [last]).take bounds.values.length = front := by
    rw [← length, List.take_left]
  have behind : (front ++ [last]).get ⟨bounds.values.length, by rw [sized]; omega⟩ = last := by
    simp [← length]
  have sums : (cumulatives 0 front).length = (bounds.values.map (ftoa display)).length := by
    rw [cumulatives_length, length, List.length_map]
  have cut : (bounds.values.map (ftoa display)).zip (cumulatives 0 (front ++ [last])) =
      (bounds.values.map (ftoa display)).zip (cumulatives 0 front) := by
    have parts : (bounds.values.map (ftoa display) ++ []).zip
        (cumulatives 0 front ++ [totalCount front + last]) =
          (bounds.values.map (ftoa display)).zip (cumulatives 0 front) ++
            [].zip [totalCount front + last] := List.zip_append sums.symm
    rwa [List.append_nil, List.zip_nil_left, List.append_nil, ← cumulatives_concat] at parts
  have all : (bounds.values.map (ftoa display) ++ ["+Inf"]).zip (cumulatives 0 (front ++ [last])) =
      (bounds.values.map (ftoa display)).zip (cumulatives 0 front) ++
        [("+Inf", totalCount front + last)] := by
    rw [cumulatives_concat, List.zip_append sums.symm]
    rfl
  have total : totalCount (front ++ [last]) = totalCount front + last := by
    rw [totalCount, List.foldl_append]
    rfl
  unfold histogram
  simp only [bucketLines_eq, lineU64_eq, lineF64_eq, taken, behind, cut, Emission.samples,
    bucketSamples, all, total, List.map_append, List.flatMap_append, List.map_cons, List.map_nil,
    List.flatMap_cons, List.flatMap_nil, List.append_assoc, List.append_nil]
  rfl

/-- A call of the encoder writes its lines. -/
theorem emit_eq (display : DisplayF64) (encoder : PromEncoder) (emission : Emission) :
    encoder.emit display emission =
      ⟨encoder.out ++ (emission.lines display encoder.seen).flatMap Line.chars,
        emission.describes encoder.seen⟩ := by
  have described : encoder.describe emission.name emission.help emission.kind =
      ⟨encoder.out ++ (if emission.name ∈ encoder.seen then []
        else [Line.help emission.name.toList emission.help.toList,
          Line.type emission.name.toList emission.kind.toList]).flatMap Line.chars,
        emission.describes encoder.seen⟩ := by
    rw [describe_eq, Emission.describes]
    split <;> simp
  have written : encoder.emit display emission =
      { encoder.describe emission.name emission.help emission.kind with
        out := (encoder.describe emission.name emission.help emission.kind).out ++
          (emission.samples display).flatMap Line.chars } := by
    cases emission with
    | counter name help value labels =>
      simp only [emit, counter, lineU64_eq, Emission.samples, Emission.name, Emission.help,
        Emission.kind, List.flatMap_cons, List.flatMap_nil, List.append_nil]
    | gauge name help value labels =>
      simp only [emit, gauge, lineF64_eq, Emission.samples, Emission.name, Emission.help,
        Emission.kind, List.flatMap_cons, List.flatMap_nil, List.append_nil]
    | histogram name help reading labels => exact histogram_eq _ _ _ _ _ _
  rw [written, described, Emission.lines, List.flatMap_append, List.append_assoc]

/-- Calls in a row write their lines. -/
theorem emits_out (display : DisplayF64) (emissions : List Emission) (encoder : PromEncoder) :
    (emissions.foldl (emit display) encoder).out =
      encoder.out ++ (linesOf display encoder.seen emissions).flatMap Line.chars := by
  induction emissions generalizing encoder with
  | nil => simp [linesOf]
  | cons emission emissions ih =>
    rw [List.foldl_cons, ih, emit_eq, linesOf, List.flatMap_append, List.append_assoc]

end PromEncoder

/-- What a metric is described by. -/
structure Family where
  name : String
  help : String
  kind : String
  deriving DecidableEq

/-- What a call of the encoder describes. -/
def Emission.family (emission : Emission) : Family :=
  ⟨emission.name, emission.help, emission.kind⟩

/-- The names of the samples of a metric. -/
def Family.sampleNames (family : Family) : List String :=
  if family.kind = "histogram" then
    [family.name ++ "_bucket", family.name ++ "_sum", family.name ++ "_count"]
  else [family.name]

/-- Metrics that can be written into one exposition. -/
structure Catalogued (families : List Family) : Prop where
  names : ∀ family ∈ families, IsName family.name.toList
  helps : ∀ family ∈ families, '\n' ∉ family.help.toList
  /-- No two metrics have a name in common, for themselves or for their samples. -/
  apart : families.Pairwise fun first second =>
    ∀ name ∈ first.name :: first.sampleNames, name ∉ second.name :: second.sampleNames

/-- The name that a line is about. -/
def lineName : Line → List Char
  | .help name _ | .type name _ | .sample name _ _ => name

/-- Whether a line is a sample. -/
def isSample : Line → Bool
  | .sample _ _ _ => true
  | .help _ _ | .type _ _ => false

/-- What has to be different for every sample. -/
def sampleKey : Line → Option (List Char × List (List Char × List Char))
  | .sample name labels _ => some (name, labels)
  | .help _ _ | .type _ _ => none

/-- Lines are an exposition of what was written by calls of the encoder. -/
structure Exposes (display : DisplayF64) (emissions : List Emission) (lines : List Line) : Prop where
  /-- The samples are those of the calls, in their order. -/
  samples : lines.filter isSample = emissions.flatMap (Emission.samples display)
  /-- No two samples have the same name and the same labels. -/
  unique : (lines.filterMap sampleKey).Nodup
  /-- A metric is described once, in front of all of its samples. -/
  described : ∀ emission ∈ emissions, ∃ before after,
    lines = before ++ .help emission.name.toList emission.help.toList ::
      .type emission.name.toList emission.kind.toList :: after ∧
    (∀ line ∈ before, ∀ name ∈ emission.name :: emission.family.sampleNames,
      lineName line ≠ name.toList) ∧
    ∀ line ∈ after, isSample line = true ∨ lineName line ≠ emission.name.toList

/-- A catalogue has one metric under a name. -/
theorem Catalogued.eq_of_name {families : List Family} (catalogued : Catalogued families)
    {first second : Family} (one : first ∈ families) (other : second ∈ families) {name : String}
    (inFirst : name ∈ first.name :: first.sampleNames)
    (inSecond : name ∈ second.name :: second.sampleNames) : first = second := by
  by_contra differs
  have _symmetric : Std.Symm fun first second : Family =>
      ∀ name ∈ first.name :: first.sampleNames, name ∉ second.name :: second.sampleNames :=
    ⟨fun first second disjoint name inSecond inFirst => disjoint name inFirst inSecond⟩
  exact catalogued.apart.forall one other differs name inFirst inSecond

theorem isName_append {name suffix : String} (isName : IsName name.toList)
    (further : IsName suffix.toList) : IsName (name ++ suffix).toList := by
  rw [String.toList_append]
  refine ⟨List.append_ne_nil_of_left_ne_nil isName.1 _, fun char inside => ?_⟩
  rcases List.mem_append.mp inside with front | behind
  · exact isName.2 char front
  · exact further.2 char behind

/-- A decimal number can be the value of a sample. -/
theorem isValue_itoa (value : UInt64) : IsValue (itoa value).toList := by
  rw [itoa, Nat.toList_repr]
  have digit : ∀ char ∈ Nat.toDigits 10 value.toNat, char.isDigit = true :=
    fun char inside => Nat.isDigit_of_mem_toDigits (by decide) (by decide) inside
  refine ⟨Nat.toDigits_ne_nil, ?_, ?_⟩
  · exact fun inside => absurd (digit _ inside) (by decide)
  · exact fun inside => absurd (digit _ inside) (by decide)

/-- A double can be the value of a sample. -/
theorem isValue_ftoa (display : DisplayF64) (value : F64) : IsValue (ftoa display value).toList := by
  cases value with
  | finite value =>
    obtain ⟨filled, plain⟩ := display.plain value
    refine ⟨fun empty => filled (String.toList_eq_nil_iff.mp empty), ?_, ?_⟩
    · exact fun inside => absurd (plain _ inside) (by decide)
    · exact fun inside => absurd (plain _ inside) (by decide)
  | posInf | negInf | nan =>
    have spelled : ∀ text ∈ ["+Inf", "-Inf", "NaN"], IsValue text.toList := by decide
    exact spelled _ (by simp [ftoa])

/-- A call of the encoder writes samples of a metric of the catalogue, under proper labels. -/
structure Emission.Valid (families : List Family) (emission : Emission) : Prop where
  listed : emission.family ∈ families
  labels : ∀ label ∈ emission.labels, IsName label.1.toList

/-- What stands in the samples of a call. -/
structure Emission.Writes (emission : Emission) (line : Line) : Prop where
  sample : isSample line = true
  named : ∃ name ∈ emission.family.sampleNames, lineName line = name.toList
  wellFormed : IsName emission.name.toList → (∀ label ∈ emission.labels, IsName label.1.toList) →
    line.WellFormed

theorem sampleLine_wellFormed {name value : String} {labels : Labels} (isName : IsName name.toList)
    (names : ∀ label ∈ labels, IsName label.1.toList) (isValue : IsValue value.toList) :
    (sampleLine name labels value).WellFormed := by
  refine ⟨isName, fun label listed => ?_, isValue⟩
  obtain ⟨source, among, rfl⟩ := List.mem_map.mp listed
  exact names source among

/-- Every sample of a call is under one of the names of its metric. -/
theorem Emission.writes (display : DisplayF64) (emission : Emission) :
    ∀ line ∈ emission.samples display, emission.Writes line := by
  cases emission with
  | counter name help value labels =>
    intro line listed
    obtain rfl := List.mem_singleton.mp listed
    exact ⟨rfl, ⟨name, by simp [family, Family.sampleNames, kind, Emission.name], rfl⟩,
      fun isName names => sampleLine_wellFormed isName names (isValue_itoa value)⟩
  | gauge name help value labels =>
    intro line listed
    obtain rfl := List.mem_singleton.mp listed
    exact ⟨rfl, ⟨name, by simp [family, Family.sampleNames, kind, Emission.name], rfl⟩,
      fun isName names => sampleLine_wellFormed isName names (isValue_ftoa display value)⟩
  | @histogram bounds name help reading labels =>
    have suffixed : (Emission.histogram name help reading labels).family.sampleNames =
        [name ++ "_bucket", name ++ "_sum", name ++ "_count"] := rfl
    intro line listed
    rcases List.mem_append.mp listed with bucket | other
    · obtain ⟨⟨le, cumulative⟩, _, rfl⟩ := List.mem_map.mp bucket
      refine ⟨rfl, ⟨name ++ "_bucket", by simp [suffixed], rfl⟩, fun isName names => ?_⟩
      refine sampleLine_wellFormed (isName_append isName (by decide)) ?_ (isValue_itoa cumulative)
      intro label inside
      rcases List.mem_append.mp inside with own | bound
      · exact names label own
      · obtain rfl := List.mem_singleton.mp bound
        have isLe : IsName "le".toList := by decide
        exact isLe
    · rcases List.mem_cons.mp other with rfl | last
      · exact ⟨rfl, ⟨name ++ "_sum", by simp [suffixed], rfl⟩, fun isName names =>
          sampleLine_wellFormed (isName_append isName (by decide)) names (isValue_ftoa display _)⟩
      · obtain rfl := List.mem_singleton.mp last
        exact ⟨rfl, ⟨name ++ "_count", by simp [suffixed], rfl⟩, fun isName names =>
          sampleLine_wellFormed (isName_append isName (by decide)) names (isValue_itoa _)⟩

/-- Every line of calls is about one of them. -/
theorem mem_linesOf {display : DisplayF64} {emissions : List Emission} {seen : List String}
    {line : Line} (listed : line ∈ linesOf display seen emissions) :
    ∃ emission ∈ emissions, line ∈ emission.samples display ∨
      (emission.name ∉ seen ∧ (line = .help emission.name.toList emission.help.toList ∨
        line = .type emission.name.toList emission.kind.toList)) := by
  induction emissions generalizing seen with
  | nil => cases listed
  | cons emission emissions ih =>
    rcases List.mem_append.mp listed with here | later
    · rcases List.mem_append.mp here with described | sample
      · split at described
        · cases described
        · rename_i fresh
          exact ⟨emission, by simp, .inr ⟨fresh, by simpa using described⟩⟩
      · exact ⟨emission, by simp, .inl sample⟩
    · obtain ⟨other, among, about⟩ := ih later
      refine ⟨other, List.mem_cons_of_mem _ among, about.imp_right fun ⟨fresh, described⟩ => ?_⟩
      refine ⟨fun old => fresh ?_, described⟩
      unfold Emission.describes
      split
      · exact old
      · exact List.mem_cons_of_mem _ old

/-- Lines of calls are well-formed. -/
theorem linesOf_wellFormed {display : DisplayF64} {families : List Family}
    (catalogued : Catalogued families) {emissions : List Emission}
    (valid : ∀ emission ∈ emissions, emission.Valid families) (seen : List String) :
    ∀ line ∈ linesOf display seen emissions, line.WellFormed := by
  intro line listed
  obtain ⟨emission, among, about⟩ := mem_linesOf listed
  obtain ⟨inCatalogue, names⟩ := valid emission among
  have isName : IsName emission.name.toList := catalogued.names _ inCatalogue
  rcases about with sample | ⟨_, rfl | rfl⟩
  · exact (emission.writes display line sample).wellFormed isName names
  · exact ⟨isName, catalogued.helps _ inCatalogue⟩
  · refine ⟨isName, ?_⟩
    cases emission <;> simp only [Emission.kind] <;> decide

/-- The samples of calls stand in their order. -/
theorem linesOf_samples (display : DisplayF64) (emissions : List Emission) (seen : List String) :
    (linesOf display seen emissions).filter isSample =
      emissions.flatMap (Emission.samples display) := by
  induction emissions generalizing seen with
  | nil => rfl
  | cons emission emissions ih =>
    have all : (emission.samples display).filter isSample = emission.samples display :=
      List.filter_eq_self.mpr fun line listed => (emission.writes display line listed).sample
    have here : (emission.lines display seen).filter isSample = emission.samples display := by
      rw [Emission.lines, List.filter_append, all]
      split <;> rfl
    rw [linesOf, List.filter_append, here, ih, List.flatMap_cons]

/-- A metric that was described is not described again. -/
theorem linesOf_seen {display : DisplayF64} {emissions : List Emission} {seen : List String}
    {name : String} (old : name ∈ seen) :
    ∀ line ∈ linesOf display seen emissions, isSample line = true ∨ lineName line ≠ name.toList := by
  intro line listed
  obtain ⟨emission, _, sample | ⟨fresh, described⟩⟩ := mem_linesOf listed
  · exact .inl (emission.writes display line sample).sample
  · have other : emission.name.toList ≠ name.toList := by
      intro same
      rw [String.toList_inj.mp same] at fresh
      exact fresh old
    rcases described with rfl | rfl <;> exact .inr other

/-- The lines of a call of another metric are not about this one. -/
theorem lines_apart {display : DisplayF64} {families : List Family}
    (catalogued : Catalogued families) {first second : Emission}
    (firstListed : first.family ∈ families) (secondListed : second.family ∈ families)
    (apart : first.family ≠ second.family) (seen : List String) :
    ∀ line ∈ first.lines display seen, ∀ name ∈ second.name :: second.family.sampleNames,
      lineName line ≠ name.toList := by
  intro line listed name among same
  -- The name of the line would be one of both metrics.
  have shared : ∃ own ∈ first.name :: first.family.sampleNames, lineName line = own.toList := by
    rcases List.mem_append.mp listed with described | sample
    · split at described
      · cases described
      · have about : line = .help first.name.toList first.help.toList ∨
            line = .type first.name.toList first.kind.toList := by
          simpa using described
        rcases about with rfl | rfl <;> exact ⟨first.name, by simp, rfl⟩
    · obtain ⟨own, inside, named⟩ := (first.writes display line sample).named
      exact ⟨own, List.mem_cons_of_mem _ inside, named⟩
  obtain ⟨own, inside, named⟩ := shared
  rw [named] at same
  rw [String.toList_inj.mp same] at inside
  exact apart (catalogued.eq_of_name firstListed secondListed inside among)

/-- A metric is described in front of its first sample. -/
theorem linesOf_described {display : DisplayF64} {families : List Family}
    (catalogued : Catalogued families) {emissions : List Emission}
    (listed : ∀ emission ∈ emissions, emission.family ∈ families) {seen : List String}
    {emission : Emission} (among : emission ∈ emissions) (fresh : emission.name ∉ seen) :
    ∃ before after,
      linesOf display seen emissions = before ++ .help emission.name.toList emission.help.toList ::
        .type emission.name.toList emission.kind.toList :: after ∧
      (∀ line ∈ before, ∀ name ∈ emission.name :: emission.family.sampleNames,
        lineName line ≠ name.toList) ∧
      ∀ line ∈ after, isSample line = true ∨ lineName line ≠ emission.name.toList := by
  -- The first call for the metric describes it, and those in front are for others.
  induction emissions generalizing seen with
  | nil => cases among
  | cons first emissions ih =>
    obtain ⟨firstListed, othersListed⟩ := List.forall_mem_cons.mp listed
    have own := listed emission among
    by_cases same : first.family = emission.family
    · have name : first.name = emission.name := congrArg Family.name same
      have help : first.help = emission.help := congrArg Family.help same
      have kind : first.kind = emission.kind := congrArg Family.kind same
      refine ⟨[], first.samples display ++
        linesOf display (first.describes seen) emissions, ?_, by simp, ?_⟩
      · rw [linesOf, Emission.lines, name, if_neg fresh, help, kind]
        rfl
      · intro line inside
        rcases List.mem_append.mp inside with sample | later
        · exact .inl (first.writes display line sample).sample
        · have old : emission.name ∈ first.describes seen := by
            rw [Emission.describes, name, if_neg fresh]
            exact List.mem_cons_self
          exact linesOf_seen old line later
    · have later : emission ∈ emissions := by
        rcases List.mem_cons.mp among with rfl | later
        · exact absurd rfl same
        · exact later
      have stillFresh : emission.name ∉ first.describes seen := by
        unfold Emission.describes
        split
        · exact fresh
        · intro inside
          rcases List.mem_cons.mp inside with equal | old
          · have shared : emission.name ∈ first.name :: first.family.sampleNames := by simp [equal]
            exact same (catalogued.eq_of_name firstListed own shared List.mem_cons_self)
          · exact fresh old
      obtain ⟨before, after, split, others, rest⟩ := ih othersListed later stillFresh
      refine ⟨first.lines display seen ++ before, after, ?_, ?_, rest⟩
      · rw [linesOf, split, List.append_assoc]
      · intro line inside
        rcases List.mem_append.mp inside with here | among
        · exact lines_apart catalogued firstListed own same seen line here
        · exact others line among

/-- What has to be different for a sample under a name and labels. -/
def keyOf (name : String) (labels : Labels) : List Char × List (List Char × List Char) :=
  (name.toList, labels.map fun label => (label.1.toList, label.2.toList))

theorem keyOf_injective {name other : String} {labels others : Labels}
    (same : keyOf name labels = keyOf other others) : name = other ∧ labels = others := by
  obtain ⟨named, labelled⟩ := Prod.mk.inj same
  have pairs : Function.Injective fun label : String × String =>
      (label.1.toList, label.2.toList) := by
    intro first second equal
    obtain ⟨key, value⟩ := Prod.mk.inj equal
    exact Prod.ext (String.toList_inj.mp key) (String.toList_inj.mp value)
  exact ⟨String.toList_inj.mp named, List.map_injective_iff.mpr pairs labelled⟩

/-- The bounds of a histogram are displayed in different ways. -/
theorem bounds_displayed (display : DisplayF64) (bounds : Bounds) :
    (bounds.values.map (ftoa display) ++ ["+Inf"]).Nodup := by
  -- Finite doubles are told apart, and none of them is displayed like infinity.
  have apart : bounds.values.Nodup := bounds.ascending.imp fun pair => pair.2
  refine List.nodup_append.mpr ⟨?_, List.nodup_singleton _, ?_⟩
  · refine List.Nodup.map_on ?_ apart
    intro first among second inside same
    obtain ⟨one, rfl⟩ := bounds.finite first among
    obtain ⟨other, rfl⟩ := bounds.finite second inside
    exact congrArg F64.finite (display.exact same)
  · intro text displayed other last same
    obtain ⟨value, among, rfl⟩ := List.mem_map.mp displayed
    obtain ⟨number, rfl⟩ := bounds.finite value among
    rw [List.mem_singleton.mp last] at same
    have plain := (display.plain number).2 '+'
    have text : display.text number = "+Inf" := same
    rw [text] at plain
    exact absurd (plain (by decide)) (by decide)

namespace Emission

/-- The names and the labels of the samples of a call. -/
def keys (display : DisplayF64) : Emission → List (String × Labels)
  | counter name _ _ labels | gauge name _ _ labels => [(name, labels)]
  | @histogram bounds name _ _ labels =>
    ((bounds.values.map (ftoa display) ++ ["+Inf"]).map fun le =>
        (name ++ "_bucket", labels ++ [("le", le)])) ++
      [(name ++ "_sum", labels), (name ++ "_count", labels)]

theorem append_ne (name : String) {first second : String} (differ : first ≠ second) :
    name ++ first ≠ name ++ second := by
  intro same
  have texts := congrArg String.toList same
  rw [String.toList_append, String.toList_append] at texts
  exact differ (String.toList_inj.mp (List.append_cancel_left texts))

theorem samples_keys (display : DisplayF64) (emission : Emission) :
    (emission.samples display).filterMap sampleKey =
      (emission.keys display).map fun key => keyOf key.1 key.2 := by
  cases emission with
  | counter | gauge => rfl
  | @histogram bounds name help reading labels =>
    -- There is a count for every bound, and one more.
    have sized : (bounds.values.map (ftoa display) ++ ["+Inf"]).length =
        (cumulatives 0 reading.counts).length := by
      rw [cumulatives_length, reading.sized]
      simp
    have texts := List.map_fst_zip (Nat.le_of_eq sized)
    have buckets (pairs : List (String × UInt64)) :
        (pairs.map fun bucket => sampleLine (name ++ "_bucket") (labels ++ [("le", bucket.1)])
            (itoa bucket.2)).filterMap sampleKey =
          (pairs.map Prod.fst).map fun le => keyOf (name ++ "_bucket") (labels ++ [("le", le)]) := by
      rw [List.filterMap_map, List.map_map]
      exact List.filterMap_eq_map ▸ rfl
    simp only [samples, keys, bucketSamples, List.filterMap_append, buckets, texts, List.map_append,
      List.map_map]
    rfl

/-- Whether a key is that of a bucket shows in its name. -/
theorem mem_keys {display : DisplayF64} {emission : Emission} {key : String × Labels}
    (listed : key ∈ emission.keys display) : key.1 ∈ emission.family.sampleNames ∧
      ((key.1 ≠ emission.name ++ "_bucket" ∧ key.2 = emission.labels) ∨
        key.1 = emission.name ++ "_bucket" ∧ ∃ le, key.2 = emission.labels ++ [("le", le)]) := by
  have suffixed (name : String) : name ≠ name ++ "_bucket" := by
    have apart : name ++ "" ≠ name ++ "_bucket" := append_ne name (by decide)
    rwa [String.append_empty] at apart
  cases emission with
  | counter name help value labels =>
    obtain rfl := List.mem_singleton.mp listed
    exact ⟨by simp [family, Family.sampleNames, kind, Emission.name],
      .inl ⟨suffixed name, rfl⟩⟩
  | gauge name help value labels =>
    obtain rfl := List.mem_singleton.mp listed
    exact ⟨by simp [family, Family.sampleNames, kind, Emission.name],
      .inl ⟨suffixed name, rfl⟩⟩
  | @histogram bounds name help reading labels =>
    have names : (Emission.histogram name help reading labels).family.sampleNames =
        [name ++ "_bucket", name ++ "_sum", name ++ "_count"] := rfl
    rcases List.mem_append.mp listed with bucket | other
    · obtain ⟨le, _, rfl⟩ := List.mem_map.mp bucket
      exact ⟨by simp [names], .inr ⟨rfl, le, rfl⟩⟩
    · rcases List.mem_cons.mp other with rfl | last
      · exact ⟨by simp [names], .inl ⟨append_ne name (by decide), rfl⟩⟩
      · obtain rfl := List.mem_singleton.mp last
        exact ⟨by simp [names], .inl ⟨append_ne name (by decide), rfl⟩⟩

/-- No two samples of a call are the same one. -/
theorem keys_nodup (display : DisplayF64) (emission : Emission) :
    (emission.keys display).Nodup := by
  cases emission with
  | counter | gauge => exact List.nodup_singleton _
  | @histogram bounds name help reading labels =>
    refine List.nodup_append.mpr ⟨?_, ?_, ?_⟩
    · refine (bounds_displayed display bounds).map ?_
      intro first second same
      have lists := List.append_cancel_left (Prod.mk.inj same).2
      exact (Prod.mk.inj (List.cons.inj lists).1).2
    · have apart : name ++ "_sum" ≠ name ++ "_count" := append_ne name (by decide)
      simp [apart]
    · intro key bucket other last same
      obtain ⟨le, _, rfl⟩ := List.mem_map.mp bucket
      have sum : name ++ "_bucket" ≠ name ++ "_sum" := append_ne name (by decide)
      have count : name ++ "_bucket" ≠ name ++ "_count" := append_ne name (by decide)
      rcases List.mem_cons.mp last with rfl | final
      · exact sum (Prod.mk.inj same).1
      · obtain rfl := List.mem_singleton.mp final
        exact count (Prod.mk.inj same).1

end Emission

/-- Samples of two calls are different, for another metric or other labels. -/
theorem keys_apart {display : DisplayF64} {families : List Family}
    (catalogued : Catalogued families) {first second : Emission}
    (firstListed : first.family ∈ families) (secondListed : second.family ∈ families)
    (differ : first.name = second.name → first.labels ≠ second.labels)
    {key : String × Labels} (one : key ∈ first.keys display) : key ∉ second.keys display := by
  intro other
  obtain ⟨inFirst, firstLabels⟩ := Emission.mem_keys one
  obtain ⟨inSecond, secondLabels⟩ := Emission.mem_keys other
  -- A shared key is one of the same metric, so the labels are the same, too.
  have same : first.family = second.family := catalogued.eq_of_name firstListed secondListed
    (List.mem_cons_of_mem _ inFirst) (List.mem_cons_of_mem _ inSecond)
  have name : first.name = second.name := congrArg Family.name same
  apply differ name
  rw [name] at firstLabels
  rcases firstLabels with ⟨plain, labels⟩ | ⟨bucket, le, labels⟩
  · rcases secondLabels with ⟨_, others⟩ | ⟨bucket, _⟩
    · exact labels.symm.trans others
    · exact absurd bucket plain
  · rcases secondLabels with ⟨plain, _⟩ | ⟨_, limit, others⟩
    · exact absurd bucket plain
    · exact List.append_inj_left' (labels.symm.trans others) rfl

/-- What calls write is an exposition, if they are for different metrics or under other labels. -/
theorem linesOf_exposes (display : DisplayF64) {families : List Family}
    (catalogued : Catalogued families) {emissions : List Emission}
    (listed : ∀ emission ∈ emissions, emission.family ∈ families)
    (apart : emissions.Pairwise fun first second =>
      first.name = second.name → first.labels ≠ second.labels) :
    Exposes display emissions (linesOf display [] emissions) where
  samples := linesOf_samples display emissions []
  unique := by
    -- The keys are those of the samples, call by call.
    have keys : (linesOf display [] emissions).filterMap sampleKey =
        (emissions.flatMap (Emission.keys display)).map fun key => keyOf key.1 key.2 := by
      have only (lines : List Line) :
          lines.filterMap sampleKey = (lines.filter isSample).filterMap sampleKey := by
        rw [List.filterMap_filter]
        congr 1
        funext line
        cases line <;> rfl
      rw [only, linesOf_samples, List.filterMap_flatMap, List.map_flatMap]
      simp only [Emission.samples_keys]
    rw [keys]
    have injective : Function.Injective fun key : String × Labels => keyOf key.1 key.2 := by
      intro first second same
      obtain ⟨name, labels⟩ := keyOf_injective same
      exact Prod.ext name labels
    refine List.Nodup.map injective (List.nodup_flatMap.mpr ⟨?_, ?_⟩)
    · exact fun emission _ => emission.keys_nodup display
    · refine apart.imp_of_mem ?_
      intro first second firstAmong secondAmong differ key one other
      exact keys_apart catalogued (listed first firstAmong) (listed second secondAmong) differ
        one other
  described := fun emission among =>
    linesOf_described catalogued listed among List.not_mem_nil

end Zradar.Metrics
