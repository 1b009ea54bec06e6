import Zradar.Lib.Exposition
import Zradar.Models.Row

/-! Readings of metrics, and the encoder that writes them as a text exposition. -/

namespace Zradar

/-- What a finite double is worth, in units that do not depend on its exponent. -/
def FiniteF64.rank (value : FiniteF64) : Int :=
  let magnitude : Int := value.exponent.val * 2 ^ 52 + value.fraction.val
  if value.negative then -magnitude else magnitude

/-- Whether a double is at most another one. -/
def F64.le : F64 → F64 → Bool
  | .nan, _ => false
  | _, .nan => false
  | .negInf, _ => true
  | _, .posInf => true
  | .finite first, .finite second => first.rank ≤ second.rank
  | _, _ => false

theorem F64.le_trans {first second third : F64} (low : first.le second = true)
    (high : second.le third = true) : first.le third = true := by
  cases first <;> cases second <;> cases third <;> simp_all [F64.le]
  omega

namespace Metrics

open Exposition

/-- The upper bounds of the buckets of a histogram, which come in order. -/
structure Bounds where
  values : List F64
  finite : ∀ value ∈ values, ∃ number, value = .finite number
  ascending : values.Pairwise fun lower upper => lower.le upper = true ∧ lower ≠ upper

/-- A positive double in its normal form. -/
def positive (exponent fraction : Nat) (small : exponent < 2047 ∧ fraction < 2 ^ 52) : F64 :=
  .finite ⟨false, ⟨exponent, small.1⟩, ⟨fraction, small.2⟩⟩

/-- Half a millisecond up to ten seconds. -/
def latencyValues : List F64 :=
  [ positive 1012 108086391056892 (by decide),
    positive 1013 108086391056892 (by decide),
    positive 1014 1261007895663739 (by decide),
    positive 1015 1261007895663739 (by decide),
    positive 1016 1261007895663739 (by decide),
    positive 1017 2702159776422298 (by decide),
    positive 1018 2702159776422298 (by decide),
    positive 1019 2702159776422298 (by decide),
    positive 1021 0 (by decide),
    positive 1022 0 (by decide),
    positive 1023 0 (by decide),
    positive 1024 1125899906842624 (by decide),
    positive 1025 1125899906842624 (by decide),
    positive 1026 1125899906842624 (by decide)]

theorem latencyValues_finite : ∀ value ∈ latencyValues, ∃ number, value = .finite number := by
  simp [latencyValues, positive]

theorem latencyValues_ascending :
    latencyValues.Pairwise fun lower upper => lower.le upper = true ∧ lower ≠ upper := by
  decide

def latencySeconds : Bounds := ⟨latencyValues, latencyValues_finite, latencyValues_ascending⟩

/-- A kibibyte up to 256 mebibytes. -/
def sizeValues : List F64 :=
  [ positive 1033 0 (by decide), positive 1037 0 (by decide), positive 1039 0 (by decide),
    positive 1041 0 (by decide), positive 1043 0 (by decide), positive 1045 0 (by decide),
    positive 1047 0 (by decide), positive 1049 0 (by decide), positive 1051 0 (by decide)]

theorem sizeValues_finite : ∀ value ∈ sizeValues, ∃ number, value = .finite number := by
  simp [sizeValues, positive]

theorem sizeValues_ascending :
    sizeValues.Pairwise fun lower upper => lower.le upper = true ∧ lower ≠ upper := by
  decide

def sizeBytes : Bounds := ⟨sizeValues, sizeValues_finite, sizeValues_ascending⟩

/-- What is read of the cells of a histogram: a count for each bucket, and the sum. -/
structure HistogramReading (bounds : Bounds) where
  counts : List UInt64
  sum : F64
  sized : counts.length = bounds.values.length + 1

/-- How finite doubles are displayed. -/
structure DisplayF64 where
  text : FiniteF64 → String
  /-- Without an exponent. -/
  plain : ∀ value, text value ≠ "" ∧
    ∀ char ∈ (text value).toList, char.isDigit = true ∨ char = '-' ∨ char = '.'
  /-- With as many digits as it takes to tell them apart. -/
  exact : Function.Injective text

/-- A counter as text. -/
def itoa (value : UInt64) : String := value.toNat.repr

/-- A double as text, where the ones that are not finite have spellings of their own. -/
def ftoa (display : DisplayF64) : F64 → String
  | .nan => "NaN"
  | .posInf => "+Inf"
  | .negInf => "-Inf"
  | .finite value => display.text value

/-- The names and the values of labels. -/
abbrev Labels := List (String × String)

/-- How a character is pushed into the value of a label. -/
def pushLabelChar (char : Char) : List Char :=
  if char = quoteMark then [backslash, quoteMark]
  else if char = backslash then [backslash, backslash]
  else if char = '\n' then [backslash, 'n']
  else [char]

/-- A text exposition so far, and the names of the metrics that were described in it. -/
structure PromEncoder where
  out : List Char
  seen : List String

namespace PromEncoder

/-- An encoder that has written nothing. -/
def new : PromEncoder := ⟨[], []⟩

/-- The text that was written. -/
def intoString (encoder : PromEncoder) : String := .ofList encoder.out

def pushStr (encoder : PromEncoder) (text : String) : PromEncoder :=
  { encoder with out := encoder.out ++ text.toList }

/-- Describe a metric, the first time that it is written. -/
def describe (encoder : PromEncoder) (name help kind : String) : PromEncoder :=
  if name ∈ encoder.seen then encoder
  else
    let encoder := { encoder with seen := name :: encoder.seen }
    let encoder := (((encoder.pushStr "# HELP ").pushStr name).pushStr " ").pushStr help
    let encoder := ((encoder.pushStr "\n").pushStr "# TYPE ").pushStr name
    ((encoder.pushStr " ").pushStr kind).pushStr "\n"

/-- Write the labels of a sample, with commas between them. -/
def writeLabels (encoder : PromEncoder) (labels : Labels) : PromEncoder :=
  if labels.isEmpty then encoder
  else
    let pushed := labels.zipIdx.flatMap fun ((key, value), position) =>
      (if position > 0 then [','] else []) ++ key.toList ++ ['=', quoteMark] ++
        value.toList.flatMap pushLabelChar ++ [quoteMark]
    { encoder with out := encoder.out ++ openBrace :: pushed ++ [closeBrace] }

/-- Write a sample of a counter. -/
def lineU64 (encoder : PromEncoder) (name : String) (labels : Labels) (value : UInt64) :
    PromEncoder :=
  ((((encoder.pushStr name).writeLabels labels).pushStr " ").pushStr (itoa value)).pushStr "\n"

/-- Write a sample of a double. -/
def lineF64 (encoder : PromEncoder) (display : DisplayF64) (name : String) (labels : Labels)
    (value : F64) : PromEncoder :=
  ((((encoder.pushStr name).writeLabels labels).pushStr " ").pushStr (ftoa display value)).pushStr
    "\n"

/-- Write a counter. -/
def counter (encoder : PromEncoder) (name help : String) (value : UInt64) (labels : Labels) :
    PromEncoder :=
  (encoder.describe name help "counter").lineU64 name labels value

/-- Write a gauge. -/
def gauge (encoder : PromEncoder) (display : DisplayF64) (name help : String) (value : F64)
    (labels : Labels) : PromEncoder :=
  (encoder.describe name help "gauge").lineF64 display name labels value

/-- Write the cumulative counts of the buckets that have a bound. -/
def bucketLines (display : DisplayF64) (name : String) (labels : Labels) :
    List (F64 × UInt64) → PromEncoder × UInt64 → PromEncoder × UInt64
  | [], written => written
  | (bound, count) :: buckets, (encoder, cumulative) =>
    let cumulative := cumulative + count
    let encoder := encoder.lineU64 name (labels ++ [("le", ftoa display bound)]) cumulative
    bucketLines display name labels buckets (encoder, cumulative)

/-- Write a histogram. -/
def histogram {bounds : Bounds} (encoder : PromEncoder) (display : DisplayF64)
    (name help : String) (reading : HistogramReading bounds) (labels : Labels) : PromEncoder :=
  let encoder := encoder.describe name help "histogram"
  let bucketName := name ++ "_bucket"
  let (encoder, cumulative) :=
    bucketLines display bucketName labels (bounds.values.zip reading.counts) (encoder, 0)
  -- The last bucket has no bound, and counts whatever is in no other one.
  let last := reading.counts.get ⟨bounds.values.length, by rw [reading.sized]; omega⟩
  let cumulative := cumulative + last
  let encoder := encoder.lineU64 bucketName (labels ++ [("le", "+Inf")]) cumulative
  let encoder := encoder.lineF64 display (name ++ "_sum") labels reading.sum
  encoder.lineU64 (name ++ "_count") labels cumulative

end PromEncoder

end Metrics

end Zradar
