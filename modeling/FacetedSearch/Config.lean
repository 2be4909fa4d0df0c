import FacetedSearch.Duration

/-!
# FacetedSearch.Config — settings

Every setting has a default, so a settings text names only what it changes.
-/

namespace FacetedSearch

/-- The settings of a reader. -/
structure Config where
  /-- The greatest number of term groups on a page. -/
  maxPageSize : Nat := 1024
  /-- Facets used less than this many milliseconds ago are warmed on a new generation; zero turns
  warming off. -/
  prewarmMaxAge : Nat := 600000
  /-- How many milliseconds an installation waits for the warming. -/
  prewarmWait : Nat := 3000
  /-- How often a check-out is tried; it is tried once at least. -/
  checkOutAttempts : Nat := 1024
deriving DecidableEq

namespace Config

/-- Milliseconds as a setting of 64 bits holds them. -/
def settingMillis (d : Duration) : Nat := d.toMillis % 18446744073709551616

/-- Other spans for warming. -/
def withPrewarm (c : Config) (maxAge wait : Duration) : Config :=
  { c with prewarmMaxAge := settingMillis maxAge, prewarmWait := settingMillis wait }

/-- Another page limit. -/
def withMaxPageSize (c : Config) (size : Nat) : Config := { c with maxPageSize := size }

end Config

end FacetedSearch
