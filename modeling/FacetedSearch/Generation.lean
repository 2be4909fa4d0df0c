import FacetedSearch.View
import FacetedSearch.TermTable
import FacetedSearch.TextSet

/-!
# FacetedSearch.Generation — the life of one generation of an index

A generation is handed out while it is live.  Once it is superseded nobody new gets hold of it, and
the release that takes its usage to zero tears it down: its view is closed, its caches are dropped
and it gives up its registration for low-memory notifications.  The atomic steps (`acquire`,
`decrement`, `supersede`, `tearDown`) are functions of their own, and the operations are built from
them.  Every call on the view is recorded.
-/

namespace FacetedSearch

/-- Where a generation is in its life. -/
inductive Lifecycle
  /-- Current, and handed out. -/
  | live
  /-- Replaced; those who hold it may still read it. -/
  | superseded
  /-- Closed. -/
  | released
deriving DecidableEq

namespace Lifecycle

/-- The name of a stage. -/
def name : Lifecycle → String
  | .live => "Live"
  | .superseded => "Superseded"
  | .released => "Released"

end Lifecycle

/-- A call on the view of a generation. -/
inductive ViewCall
  | search
  | scan (field : String)
  | read (document : DocId) (field : String)
  | close
deriving DecidableEq

namespace ViewCall

/-- Whether the call walks the pairs of a field. -/
def isScan : ViewCall → Bool
  | .scan _ => true
  | _ => false

/-- Whether the call reads stored values. -/
def isRead : ViewCall → Bool
  | .read .. => true
  | _ => false

/-- Whether the call closes the view. -/
def isClose : ViewCall → Bool
  | .close => true
  | _ => false

end ViewCall

/-- Stored values under the fields they were read for. -/
structure FieldValues where
  fields : TextSet
  values : TextSet

/-- What is derived from the view and may be dropped at any time. -/
structure Caches where
  /-- The term table of each field that was asked for. -/
  terms : SortedMap String TermTable := ∅
  /-- The number table of each field and sort type that was asked for. -/
  numbers : SortedMap (String × SortType) NumberTable := ∅
  /-- The stored values of a document, under the checksum of the fields they were read for. -/
  values : SortedMap (DocId × UInt32) FieldValues := ∅
  /-- When each facet field was last used. -/
  uses : SortedMap String Nat := ∅

/-- One generation of an index. -/
structure Generation where
  number : Nat
  view : View
  /-- How many holds are out. -/
  usage : Nat := 0
  lifecycle : Lifecycle := .live
  /-- The signal for those who wait for the teardown: whether it has been given, once somebody
  waits. -/
  signal : Option Bool := none
  /-- The registration for low-memory notifications. -/
  registration : Option Nat := none
  caches : Caches := {}
  /-- The terms of all fields, once asked for; kept for the generation's whole life. -/
  documentTerms : Option DocumentTerms := none
  /-- The calls on the view, the latest first. -/
  calls : List ViewCall := []

namespace Generation

/-! ## Atomic steps -/

/-- Count one more hold. -/
def acquire (g : Generation) : Generation := { g with usage := g.usage + 1 }

/-- Count one hold less; none is counted below zero. -/
def decrement (g : Generation) : Generation := { g with usage := g.usage - 1 }

/-- End the time as the current generation, if it has not ended. -/
def supersede (g : Generation) : Generation :=
  if g.lifecycle = .live then { g with lifecycle := .superseded } else g

/-- Drop what is derived from the view and may be derived again. -/
def clearCaches (g : Generation) : Generation := { g with caches := {} }

/-- Close a superseded generation.  Whether the view closes without a fault makes no difference. -/
def tearDown (g : Generation) : Generation :=
  if g.lifecycle = .superseded then
    { g.clearCaches with
      lifecycle := .released, registration := none, calls := .close :: g.calls
      signal := g.signal.map fun _ => true }
  else g

/-! ## Operations -/

/-- Whether the generation is no longer handed out. -/
def disposalRequested (g : Generation) : Bool := decide (g.lifecycle ≠ .live)

/-- Give back one hold.  The one that gives back the last tears a superseded generation down; a
release without a hold is ignored. -/
def release (g : Generation) : Generation :=
  if g.usage = 1 then g.decrement.tearDown else g.decrement

/-- Take a hold, if the generation is still handed out, and tell whether it was. -/
def tryHold (g : Generation) : Bool × Generation :=
  let g := g.acquire
  if g.disposalRequested then (false, g.release) else (true, g)

/-- Ask for the teardown, which happens at once if nobody holds the generation.  With `wait` there
is a signal from now on, which tells when the teardown is done.  A hold of its own makes sure that
only a release sees the usage reach zero. -/
def markForDisposal (g : Generation) (wait : Bool) : Generation :=
  let g := if wait then { g with signal := some (g.signal.getD false) } else g
  let g := g.acquire.supersede.release
  if wait && decide (g.lifecycle = .released) then { g with signal := some true } else g

/-- Whether the signal has been given. -/
def signalled (g : Generation) : Bool := g.signal.getD false

/-- How many calls on the view pass a test. -/
def countCalls (g : Generation) (p : ViewCall → Bool) : Nat := g.calls.countP p

end Generation

end FacetedSearch
