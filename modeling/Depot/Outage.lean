import Depot.Blob.Store
import Depot.Entries

/-!
# Outages

An outage is a planned failure of one of the capabilities that a depot is built on: it
takes the place of every call, or of the calls with one first argument, until it is lifted.
-/

namespace Depot

/-- A capability that can be out of order. -/
inductive Capability where
  | store
  | fetch
  | upsert
  | search
  | createIndex
  /-- A step of writing a payload. -/
  | step (step : WriteStep)
  deriving DecidableEq

/-- The failure that takes the place of calls, and the first argument it is limited to. -/
structure Outage where
  argument : Option Text
  failure : Failure

/-- At most one outage for each capability. -/
abbrev Outages := List (Capability × Outage)

namespace Outages

/-- Starts an outage in place of the one that the capability may have. -/
def start (outages : Outages) (capability : Capability) (outage : Outage) : Outages :=
  insertEntry capability outage outages

/-- Lifts the outage of a capability. -/
def lift (outages : Outages) (capability : Capability) : Outages :=
  eraseEntry capability outages

/-- The failure of a call, if an outage takes its place. -/
def failure? (outages : Outages) (capability : Capability) (argument : Option Text) :
    Option Failure :=
  match valueOf? capability outages with
  | none => none
  | some outage =>
    if outage.argument.isNone || outage.argument == argument then some outage.failure else none

/-- Without outages no call is replaced. -/
@[simp] theorem failure?_nil (capability : Capability) (argument : Option Text) :
    failure? [] capability argument = none := rfl

end Outages
end Depot
