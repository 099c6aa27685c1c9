import StagedScript.Decimal.Layout
import StagedScript.Profile.RuleTimer

/-!
# Histograms of latencies

A histogram counts observations below each of its bounds and adds up their time. Counts and sums
are words of 64 bits and wrap.
-/

namespace StagedScript

/-- A span of time in seconds, as a real. -/
def Nanoseconds.toSeconds (elapsed : Nanoseconds) : Float :=
  Float.ofNat (elapsed / 1000000000) + Float.ofNat (elapsed % 1000000000) / 1000000000.0

/-- A span of time in milliseconds, as a real. -/
def Nanoseconds.toMillis (elapsed : Nanoseconds) : Float :=
  elapsed.toSeconds * 1000.0

/-- A span of time in whole microseconds. -/
def Nanoseconds.toMicros (elapsed : Nanoseconds) : UInt64 :=
  UInt64.ofNat (elapsed / 1000)

/-- How many observations were at most a bound in seconds. -/
structure Bucket where
  bound : Float
  count : UInt64
deriving DecidableEq

/-- Observations of a latency. -/
structure Histogram where
  buckets : List Bucket
  sumMicros : UInt64
  count : UInt64
deriving DecidableEq

namespace Histogram

/-- The bounds of latencies, from a tenth of a millisecond to ten seconds. -/
def latencyBounds : List Float :=
  [0.0001, 0.0005, 0.001, 0.005, 0.01, 0.05, 0.1, 0.5, 1.0, 5.0, 10.0]

def new : Histogram :=
  ⟨latencyBounds.map fun bound => ⟨bound, 0⟩, 0, 0⟩

/-- Count an observation in every bucket whose bound it does not exceed. -/
def observe (histogram : Histogram) (elapsed : Nanoseconds) : Histogram where
  buckets := histogram.buckets.map fun bucket =>
    if elapsed.toSeconds ≤ bucket.bound then { bucket with count := bucket.count + 1 } else bucket
  sumMicros := histogram.sumMicros + elapsed.toMicros
  count := histogram.count + 1

@[simp] theorem count_observe (histogram : Histogram) (elapsed : Nanoseconds) :
    (histogram.observe elapsed).count = histogram.count + 1 :=
  rfl

/-- The count of the bucket with a bound, up to a hundredth of a millisecond; zero if there is
none. -/
def bucketCount (histogram : Histogram) (bound : Float) : UInt64 :=
  match histogram.buckets.find? fun bucket => (bucket.bound - bound).abs < 0.00001 with
  | some bucket => bucket.count
  | none => 0

/-- The lines of a histogram in the exposition format, for a metric with labels. -/
def exposition (histogram : Histogram) (name labels : String) : List String :=
  let separator := if labels.isEmpty then "" else ","
  let inBraces := if labels.isEmpty then "" else "\x7b" ++ labels ++ "\x7d"
  let total := Float.ofNat histogram.sumMicros.toNat / 1000000.0
  (histogram.buckets.map fun bucket =>
    name ++ "_bucket\x7b" ++ labels ++ separator ++ "le=\"" ++
      Decimal.RealFormat.plain.render bucket.bound ++ "\"\x7d " ++ toString bucket.count.toNat) ++
  [name ++ "_sum" ++ inBraces ++ " " ++ Decimal.RealFormat.plain.render total,
    name ++ "_count" ++ inBraces ++ " " ++ toString histogram.count.toNat]

end Histogram
end StagedScript
