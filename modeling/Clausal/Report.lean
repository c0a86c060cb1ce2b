import Clausal.Argument

/-!
# Reports

A report is a record of what a survey found that anyone may fill in: its fields are
loose values and are not checked. One field is obligatory and the others are empty
unless given. A report cannot be changed, and two are equal if their fields are.
-/

namespace Clausal

/-- A record of findings. -/
structure Report where
  highest : Datum
  forced : Datum
  agreeing : Datum
  classes : Datum
  decisions : Datum

namespace Report

/-- The name of the obligatory field. -/
def obligatory : String := "highest_variable"

/-- The names of the fields, in order. -/
def names : List String :=
  [obligatory, "determined", "equal_pairs", "equivalence_classes", "oracle_calls"]

/-- Fills in a report. A field of another name is refused before a missing one. -/
def ofFields (given : List (String × Datum)) : Except Fault Report := do
  for (name, _) in given do
    if !names.contains name then throw (.unknownField name)
  match given.lookup obligatory with
  | none => throw (.missingField obligatory)
  | some highest =>
    let field (name : String) (standard : Datum) := (given.lookup name).getD standard
    return {
      highest
      forced := field "determined" (.list [])
      agreeing := field "equal_pairs" (.list [])
      classes := field "equivalence_classes" (.list [])
      decisions := field "oracle_calls" (.whole 0) }

/-- The fields with their names, in order. -/
def fields (report : Report) : List (String × Datum) :=
  names.zip [report.highest, report.forced, report.agreeing, report.classes, report.decisions]

/-- The report as a line. -/
def display (report : Report) : String :=
  "RuleSetAnalysis(" ++ ", ".intercalate (report.fields.map fun field =>
    field.1 ++ "=" ++ field.2.display) ++ ")"

/-- Two reports agree in every field. -/
def same (first second : Report) : Bool :=
  Datum.sameItems (first.fields.map Prod.snd) (second.fields.map Prod.snd)

/-- The end of a range of variables. It is an integer by its form, and a value that
is no number has no successor to stop at. -/
def rangeEnd (given : Datum) : Except Fault Int :=
  match given with
  | .number value =>
    match value.integer? with
    | some last => .ok last
    | none => .error (.notWhole value.kind)
  | other => .error (.noSuccessor other.kind)

/-- The variables in range that the report does not have as forced. -/
def free (report : Report) : Except Fault (List Nat) := do
  let magnitudes := (← Argument.pinned report.forced).map Int.natAbs
  let last ← rangeEnd report.highest
  return ((List.range last.toNat).map Nat.succ).filter fun number => !magnitudes.contains number

/-- The attempt to change a field. -/
def assign (_ : Report) (name : String) : Except Fault Unit := .error (.frozenField name)

end Report

end Clausal
