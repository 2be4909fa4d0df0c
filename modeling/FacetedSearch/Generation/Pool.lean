import FacetedSearch.Generation.Session
import FacetedSearch.Notifier

/-!
# FacetedSearch.Generation.Pool — generations that share a notifier

A pool holds generations by number, from their opening on and also after their release, and the
notifier that they are registered with.  A generation that gives up its registration is taken off
the notifier in the same step.
-/

namespace FacetedSearch

/-- Generations and their notifier. -/
structure Pool where
  generations : SortedMap Nat Generation := ∅
  /-- The registered generations, by number. -/
  notifier : Notifier Nat := {}

namespace Pool

/-- Open a generation over a view, with a registration if asked for. -/
def openGeneration (p : Pool) (number : Nat) (view : View) (register : Bool) : Pool :=
  if register then
    let (id, notifier) := p.notifier.register number
    { generations := p.generations.insert number { number, view, registration := some id }, notifier }
  else { p with generations := p.generations.insert number { number, view } }

/-- The generation of a number. -/
def get? (p : Pool) (number : Nat) : Option Generation := p.generations.get? number

/-- Put a generation in the place of its former state. -/
def put (p : Pool) (former g : Generation) : Pool :=
  { generations := p.generations.insert g.number g
    notifier := match former.registration, g.registration with
      | some id, none => p.notifier.deregister id
      | _, _ => p.notifier }

/-- Change a generation. -/
def update (p : Pool) (number : Nat) (f : Generation → Generation) : Pool :=
  match p.get? number with
  | some g => p.put g (f g)
  | none => p

/-- Take a hold on a generation, if it is still handed out, and tell whether it was. -/
def tryHold (p : Pool) (number : Nat) : Bool × Pool :=
  match p.get? number with
  | some g => (g.tryHold.1, p.put g g.tryHold.2)
  | none => (false, p)

/-- Give back a hold on a generation. -/
def release (p : Pool) (number : Nat) : Pool := p.update number Generation.release

/-- Ask for the teardown of a generation. -/
def markForDisposal (p : Pool) (number : Nat) (wait : Bool) : Pool :=
  p.update number fun g => g.markForDisposal wait

/-- Run a session on a generation. -/
def run {α : Type} (p : Pool) (number : Nat) (s : Session α) (missing : Except Error α) :
    Except Error α × Pool :=
  match p.get? number with
  | some g => ((g.run s).1, p.put g (g.run s).2)
  | none => (missing, p)

/-- Notify the registered generations that memory is low, and tell how many there were. -/
def lowMemory (p : Pool) : Nat × Pool :=
  let registered := p.notifier.live fun _ => true
  (registered.length, registered.foldl (fun p n => p.update n Generation.clearCaches) p)

end Pool

end FacetedSearch
