/-!
# FacetedSearch.Duration — spans of time

A span is a number of seconds and of nanoseconds below a full second.
-/

namespace FacetedSearch

/-- A span of time. -/
structure Duration where
  seconds : Nat
  nanos : Nat
  nanos_lt : nanos < 1000000000 := by omega
deriving DecidableEq

namespace Duration

/-- The span of some seconds and some nanoseconds; full seconds carry over. -/
def ofParts (seconds nanos : Nat) : Duration :=
  ⟨seconds + nanos / 1000000000, nanos % 1000000000, Nat.mod_lt _ (by decide)⟩

/-- The span of some milliseconds. -/
def ofMillis (ms : Nat) : Duration := ofParts (ms / 1000) (ms % 1000 * 1000000)

/-- The full milliseconds of a span. -/
def toMillis (d : Duration) : Nat := d.seconds * 1000 + d.nanos / 1000000

theorem toMillis_ofMillis (ms : Nat) : (ofMillis ms).toMillis = ms := by
  simp only [ofMillis, ofParts, toMillis]; omega

end Duration

end FacetedSearch
