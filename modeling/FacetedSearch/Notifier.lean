import FacetedSearch.SortedMap

/-!
# FacetedSearch.Notifier — low-memory notifications

A notifier lists handlers under numbers of their registrations.  It does not keep a handler alive:
a broadcast runs the live ones, once for each registration, and forgets the dead ones.  `Exchange`
adds what stands around a notifier, each with a life of its own: the handlers, which count how
often they ran, and the holders of registrations.
-/

namespace FacetedSearch

/-- The registered handlers. -/
structure Notifier (η : Type) where
  /-- The number of the next registration. -/
  next : Nat := 0
  handlers : SortedMap Nat η := ∅

namespace Notifier

variable {η : Type}

/-- Register a handler; the number of the registration comes with it. -/
def register (n : Notifier η) (handler : η) : Nat × Notifier η :=
  (n.next, { next := n.next + 1, handlers := n.handlers.insert n.next handler })

/-- Forget a registration. -/
def deregister (n : Notifier η) (id : Nat) : Notifier η :=
  { n with handlers := n.handlers.erase id }

/-- The handlers that a broadcast runs, in the order of their registrations. -/
def live (n : Notifier η) (alive : η → Bool) : List η :=
  (n.handlers.entries.map Prod.snd).filter alive

/-- Forget the handlers that are dead. -/
def prune (n : Notifier η) (alive : η → Bool) : Notifier η :=
  { n with handlers := n.handlers.filterValues alive }

/-- How many registrations are listed. -/
def count (n : Notifier η) : Nat := n.handlers.size

end Notifier

/-- A notifier among handlers that come and go. -/
structure Exchange where
  /-- The notifier, until it is dropped.  Its handlers are known by number. -/
  notifier : Option (Notifier Nat) := some {}
  /-- The number of the next handler. -/
  next : Nat := 0
  /-- The live handlers, each with how often it ran. -/
  runs : SortedMap Nat Nat := ∅

namespace Exchange

/-- Make a handler. -/
def addHandler (x : Exchange) : Nat × Exchange :=
  (x.next, { x with next := x.next + 1, runs := x.runs.insert x.next 0 })

/-- Let a handler die. -/
def dropHandler (x : Exchange) (handler : Nat) : Exchange :=
  { x with runs := x.runs.erase handler }

/-- Register a handler, where the notifier is still there. -/
def register (x : Exchange) (handler : Nat) : Option (Nat × Exchange) :=
  x.notifier.map fun n =>
    let (id, n) := n.register handler
    (id, { x with notifier := some n })

/-- Drop a registration.  It leaves every other registration alone, and does nothing where the
notifier is gone. -/
def dropRegistration (x : Exchange) (id : Nat) : Exchange :=
  { x with notifier := x.notifier.map fun n => n.deregister id }

/-- Count one more run of a handler. -/
def countRun (runs : SortedMap Nat Nat) (handler : Nat) : SortedMap Nat Nat :=
  runs.alter handler fun n => n.getD 0 + 1

/-- Run every live registered handler, once for each registration, and tell how many ran. -/
def broadcast (x : Exchange) : Option (Nat × Exchange) :=
  x.notifier.map fun n =>
    let ran := n.live x.runs.contains
    (ran.length, { x with
      notifier := some (n.prune x.runs.contains), runs := ran.foldl countRun x.runs })

/-- Drop the notifier. -/
def dropNotifier (x : Exchange) : Exchange := { x with notifier := none }

end Exchange

end FacetedSearch
