import FacetedSearch.Generation.Pool
import FacetedSearch.Facet.Execute
import FacetedSearch.Config

/-!
# FacetedSearch.Reader — the current generation of an index

A reader hands out the current generation of one index and installs new ones.  Installing begins to
warm the new generation with the facets that were lately used on the old one, waits for that as long
as the settings allow, and then asks for the teardown of the old one, which waits for those who still
hold it.  A warming holds its generation too, and goes on beside everything else until it has given
the hold back, which may be after the installation.
-/

namespace FacetedSearch

/-- The warming of a generation, which it holds until it is over. -/
structure Warming where
  /-- The facet fields that have not been tried yet. -/
  untried : List String
  /-- Whether the term table of some field could not be built; the others need not be tried then. -/
  failed : Bool := false
  /-- Whether it has been told that the warming is done. -/
  told : Bool := false

/-- A step of a warming.  Several fields may be fetched at once, so they come in any order. -/
inductive WarmingStep
  /-- Fetch the term table of a field that has not been tried. -/
  | fetch (field : String)
  /-- Tell that the warming is done: every field has been tried, or one could not be fetched. -/
  | tell
  /-- Give back the hold, after telling. -/
  | giveBack

/-- A step of a warming while an installation goes on. -/
structure WarmingEvent where
  /-- The milliseconds since the installation began to wait. -/
  elapsed : Nat
  /-- The generation that is warmed. -/
  number : Nat
  step : WarmingStep

/-- The reader of one index. -/
structure Reader where
  name : String
  config : Config
  pool : Pool
  /-- The number of the current generation. -/
  current : Nat := 0
  /-- The number of the next generation. -/
  next : Nat := 1
  /-- The warmings that are not over, by the number of the generation. -/
  warmings : SortedMap Nat Warming := ∅

namespace Reader

/-- A reader over a first generation. -/
def ofView (name : String) (config : Config) (view : View) : Reader :=
  { name, config, pool := Pool.openGeneration {} 0 view true }

/-- Change the pool. -/
def withPool (r : Reader) (pool : Pool) : Reader := { r with pool }

/-- Hold the current generation within some attempts. -/
def checkOutWithin (r : Reader) : Nat → Except Error Nat × Reader
  | 0 => (.error (.noLiveGeneration r.name r.config.checkOutAttempts), r)
  | attempts + 1 =>
    let (held, pool) := r.pool.tryHold r.current
    let r := r.withPool pool
    if held then (.ok r.current, r) else r.checkOutWithin attempts

/-- Hold the current generation, and tell its number. -/
def checkOut (r : Reader) : Except Error Nat × Reader :=
  r.checkOutWithin (max r.config.checkOutAttempts 1)

/-- Give back a hold on a generation. -/
def release (r : Reader) (number : Nat) : Reader := r.withPool (r.pool.release number)

/-- Run a session on a generation. -/
def run {α : Type} (r : Reader) (number : Nat) (s : Session α) : Except Error α × Reader :=
  let (result, pool) := r.pool.run number s (.error (.noLiveGeneration r.name 0))
  (result, r.withPool pool)

/-- Hold the current generation and fetch the terms of all its fields; the hold is given back
where that fails. -/
def checkOutWithTerms (r : Reader) : Except Error (Nat × DocumentTerms) × Reader :=
  match r.checkOut with
  | (.error e, r) => (.error e, r)
  | (.ok number, r) =>
    match r.run number Session.documentTerms with
    | (.error e, r) => (.error e, r.release number)
    | (.ok terms, r) => (.ok (number, terms), r)

/-- Run the facets of a request on the current generation, which is held meanwhile. -/
def runFacets (r : Reader) (executor : FacetExecutor) (request : FacetRequest) (now : Nat) :
    Except Error FacetResults × Reader :=
  match r.checkOut with
  | (.error e, r) => (.error e, r)
  | (.ok number, r) =>
    let (result, r) := r.run number (executor.execute request now)
    (result, r.release number)

/-! ## Warming -/

/-- Fetch the term tables of some fields, until one cannot be built. -/
def warm : List String → Session Unit
  | [] => return
  | field :: rest => do
    let _ ← Session.termTable field
    warm rest

/-- The facet fields lately used on a generation. -/
def usedFields (r : Reader) (number now : Nat) : List String :=
  match r.pool.get? number with
  | some g => g.usedFields now r.config.prewarmMaxAge
  | none => []

/-- Hold one generation for the facets lately used on another, if there are any, and begin to warm
it. -/
def startWarming (r : Reader) (old new now : Nat) : Reader :=
  let fields := r.usedFields old now
  if fields.isEmpty then r
  else match r.pool.tryHold new with
    | (false, pool) => r.withPool pool
    | (true, pool) => { r with pool, warmings := r.warmings.insert new { untried := fields } }

/-- A step of the warming of a generation.  A step that is not due changes nothing. -/
def advance (r : Reader) (number : Nat) (step : WarmingStep) : Reader :=
  match r.warmings.get? number, step with
  | some w, .fetch field =>
    if field ∈ w.untried ∧ w.told = false then
      let (table, r) := r.run number (Session.termTable field)
      let failed := w.failed || !table.isOk
      let w := { w with untried := w.untried.erase field, failed }
      { r with warmings := r.warmings.insert number w }
    else r
  | some w, .tell =>
    if w.untried = [] ∨ w.failed = true then
      { r with warmings := r.warmings.insert number { w with told := true } }
    else r
  | some w, .giveBack =>
    if w.told = true then { r.release number with warmings := r.warmings.erase number } else r
  | none, _ => r

/-- Some steps of warmings, one after the other. -/
def proceed (r : Reader) (events : List WarmingEvent) : Reader :=
  events.foldl (fun r e => r.advance e.number e.step) r

/-- Whether a generation is being warmed, and it has not been told that this is done. -/
def isWarming (r : Reader) (number : Nat) : Bool := (r.warmings.get? number).any fun w => !w.told

/-- Wait until it is told that the warming of a generation is done, for as long as the settings
allow, and give what happens after that. -/
def await (r : Reader) (number : Nat) : List WarmingEvent → Reader × List WarmingEvent
  | [] => (r, [])
  | e :: rest =>
    if r.isWarming number ∧ e.elapsed ≤ r.config.prewarmWait then
      (r.advance e.number e.step).await number rest
    else (r, e :: rest)

/-- Let the warming of a generation run to its end. -/
def settle (r : Reader) (number : Nat) : Reader :=
  match r.warmings.get? number with
  | some w =>
    let warmed := if w.told then r else (r.run number (warm w.untried)).2
    { warmed.release number with warmings := r.warmings.erase number }
  | none => r

/-! ## Installing -/

/-- Open a generation and make it the current one. -/
def openGeneration (r : Reader) (view : View) : Reader :=
  { r with
    pool := r.pool.openGeneration r.next view true
    current := r.next
    next := r.next + 1 }

/-- Ask for the teardown of a generation. -/
def markForDisposal (r : Reader) (number : Nat) (wait : Bool) : Reader :=
  r.withPool (r.pool.markForDisposal number wait)

/-- Install a view as the current generation, wait for its warming, and ask for the teardown of the
former generation.  The events are what the warmings do until the installation is over, those of
earlier installations among them. -/
def install (r : Reader) (view : View) (wait : Bool) (now : Nat) (events : List WarmingEvent) :
    Reader :=
  let opened := (r.openGeneration view).startWarming r.current r.next now
  let (awaited, rest) := opened.await r.next events
  (awaited.markForDisposal r.current wait).proceed rest

/-- Install what has been opened.  Where opening failed, the current generation stays. -/
def installOpened (r : Reader) (opened : Except Error View) (wait : Bool) (now : Nat)
    (events : List WarmingEvent) : Except Error Unit × Reader :=
  match opened with
  | .ok view => (.ok (), r.install view wait now events)
  | .error e => (.error (.openingFailed r.name e.message), r)

/-- Notify every registered generation that memory is low, and tell how many there were. -/
def lowMemory (r : Reader) : Nat × Reader :=
  let (count, pool) := r.pool.lowMemory
  (count, r.withPool pool)

/-- Close the reader: its current generation is torn down once nobody holds it. -/
def close (r : Reader) : Reader := r.markForDisposal r.current false

/-- How often a generation has been installed over another. -/
def installations (r : Reader) : Nat := r.next - 1

end Reader

end FacetedSearch
