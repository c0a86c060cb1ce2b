import Clausal.Datum.Display

/-!
# Limits on a decision

A decision may be limited in seconds, in conflicts, in both or in neither. Only a
limited decision may give up.
-/

namespace Clausal

/-- The budget of one decision. A limit that is absent does not bind. -/
structure Limits where
  timeout : Option Number
  conflicts : Option Number

namespace Limits

/-- No limit at all. -/
def none : Limits := ⟨Option.none, Option.none⟩

/-- A decision under these limits may give up. -/
def isLimited (limits : Limits) : Bool := limits.timeout.isSome || limits.conflicts.isSome

/-- A bound on conflicts must be a whole number of them. It is examined only when a
decision is made under it. A backend counts in machine integers, so a whole bound that is
too large for one of them fails there as well; such bounds are left out. -/
def isCountable (limits : Limits) : Bool :=
  match limits.conflicts with
  | some (.decimal _) => false
  | _ => true

/-- How a decision that gave up names its limits. -/
def describe (limits : Limits) : String :=
  let seconds := limits.timeout.toList.map fun bound => "timeout " ++ bound.display ++ "s"
  let conflicts := limits.conflicts.toList.map fun bound => bound.display ++ " conflicts"
  ", ".intercalate (seconds ++ conflicts)

/-- Where there are no limits, no decision may give up. -/
@[simp] theorem isLimited_none : none.isLimited = false := rfl

/-- Where there is no bound on conflicts, there is none that could not be counted. -/
@[simp] theorem isCountable_none : none.isCountable = true := rfl

end Limits

end Clausal
