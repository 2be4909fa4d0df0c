import FacetedSearch.Config
import FacetedSearch.Error
import FacetedSearch.Toml.Document

/-!
# FacetedSearch.Config.Toml — settings as TOML

A settings text is a TOML document.  What it does not name has its default, and what it names
besides is passed over.  A setting is a whole number that is not negative.
-/

namespace FacetedSearch.Config

/-- The value of a setting, with what it has where it is not given. -/
def setting? (names : Toml.Names) (name : String) (default : Nat) : Option Nat :=
  match names.top? name with
  | none => some default
  | some (.value (.integer i)) => if 0 ≤ i then some i.toNat else none
  | some _ => none

/-- The settings that a document names. -/
def ofNames? (names : Toml.Names) : Option Config := do
  let default : Config := {}
  return {
    maxPageSize := ← setting? names "max_page_size" default.maxPageSize
    prewarmMaxAge := ← setting? names "prewarm_facets_max_age_ms" default.prewarmMaxAge
    prewarmWait := ← setting? names "prewarm_facets_sync_wait_ms" default.prewarmWait
    checkOutAttempts := ← setting? names "checkout_retry_limit" default.checkOutAttempts }

/-- The settings of a text. -/
def parse (text : String) : Except Error Config :=
  match (Toml.read? text).bind ofNames? with
  | some config => .ok config
  | none => .error .malformedConfig

/-- The settings of a file; `none` is one that is not there. -/
def load (content : Option ByteArray) : Except Error Config :=
  match content with
  | none => .error (.reported .io "no such file")
  | some bytes => match String.fromUTF8? bytes with
    | some text => parse text
    | none => .error (.reported .io "the file is not valid UTF-8")

end FacetedSearch.Config
