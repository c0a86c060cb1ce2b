import Clausal.Fault

/-!
# Backends

A rule base is built on a backend chosen by name, in upper or lower case. All known
backends answer alike; the name only decides whether there is one.
-/

namespace Clausal.Backend

/-- The backend of a rule base for which none is named. -/
def standard : String := "m22"

/-- The known names. -/
def names : List String := [
  "m22", "msat22", "minisat22",
  "g3", "g30", "glucose3", "glucose30",
  "g4", "g41", "glucose4", "glucose41",
  "g42", "g421", "glucose42", "glucose421",
  "mgh", "msat-gh", "minisat-gh",
  "mc", "mcard", "minicard",
  "gc3", "gc30", "gluecard3", "gluecard30",
  "gc4", "gc41", "gluecard4", "gluecard41"]

/-- Reads the name of a backend. The name is kept as it was given. -/
def read : Option Datum → Except Fault String
  | none => .ok standard
  | some (.text name) =>
    if names.contains name.toLower then .ok name else .error (.unknownBackend name)
  | some other => .error (.backendKind other.kind)

end Clausal.Backend
