import Clausal.Backend
import Clausal.Call
import Clausal.Enumeration

/-!
# Workspaces

A workspace keeps rule bases in named slots. A step works on one slot and replies
with its value, with the standing of the slot afterwards, and with the events that
the step recorded. A rule base that replaces another is built first; the other is
closed only if that succeeds.

A step may be given an allowance: so many limited decisions are answered, and every
later one gives up.
-/

namespace Clausal

/-- Rule bases by the names of their slots. -/
structure Workspace where
  slots : List (String × RuleBase)

/-- What a step asks for. -/
inductive Action
  /-- Build a rule base in the slot. -/
  | create (clauses : Datum) (backend : Option Datum) (timeout conflicts : Datum)
  /-- List all models of the slot's clauses. -/
  | models (literals : Datum)
  /-- Call the slot's rule base. -/
  | call (call : Call)

/-- A step: a slot, an action and perhaps an allowance. -/
structure Step where
  slot : String
  action : Action
  allowance : Option Nat

/-- The value of a step that succeeded. -/
inductive Value
  /-- The slot is empty. -/
  | absent
  | answer (answer : Answer)
  /-- The entries that all models share; nothing if there is no model. -/
  | entries (shared : Option (List (Option Literal)))
  | models (models : List (List Literal))

/-- Where a rule base stands. -/
structure Standing where
  clauses : Nat
  highest : Nat
  decisions : Nat
  trusted : Bool

/-- What can be read off a rule base at any time, also when it is closed. -/
def RuleBase.standing (base : RuleBase) : Standing :=
  ⟨base.clauses.length, base.highest, base.decisions, base.trusted⟩

/-- The reply to a step. -/
structure Reply where
  value : Except Fault Value
  standing : Option Standing
  events : List Event

/-- The events that one rule base has recorded since it was another, oldest first. -/
def RuleBase.eventsSince (base earlier : RuleBase) : List Event :=
  (base.journal.take (base.journal.length - earlier.journal.length)).reverse

namespace Workspace

/-- No slot is taken. -/
def empty : Workspace := ⟨[]⟩

/-- The rule base in a slot, if there is one. -/
def find? (workspace : Workspace) (slot : String) : Option RuleBase := workspace.slots.lookup slot

/-- Puts a rule base in a slot, in the place of one that was there. -/
def put (workspace : Workspace) (slot : String) (base : RuleBase) : Workspace :=
  ⟨(slot, base) :: workspace.slots.filter fun entry => entry.1 != slot⟩

/-- The oracle of a step whose first decision is at the given turn. -/
def oracleFor (oracle : Oracle) (turn : Nat) : Option Nat → Oracle
  | none => oracle
  | some allowance => oracle.exhaustedFrom (turn + allowance)

/-- Builds a rule base. The limits are read first, then the backend, then the clauses. -/
def build (oracle : Oracle) (clauses : Datum) (backend : Option Datum)
    (timeout conflicts : Datum) : Except Fault (Outcome Unit) := do
  let limits ← Argument.limits timeout conflicts
  let backend ← Backend.read backend
  return RuleBase.create oracle backend limits (Argument.batch clauses)

/-- All models of a rule base's clauses. Clauses without a model are refused as they
would be in a new rule base. -/
def listModels (oracle : Oracle) (base : RuleBase) (literals : Datum) : Except Fault Value := do
  let assumptions ← Argument.literals .model literals
  (RuleBase.create oracle Backend.standard Limits.none (base.clauses.map Except.ok)).1
  return .models (allModels oracle base.highest base.clauses assumptions)

/-- The literals against which a model is compared for a report. A value that is no
list is taken for a single assumption then, so it must have a magnitude, even where
going through it meets no literal at all. -/
def assumed : Call → Except Fault (List Literal)
  | .modelWith given => do
    if let .list _ := given then pure () else discard (Argument.measured given)
    Argument.literals .model given
  | _ => .ok []

/-- A model is reported by the entries that all models share, so that a reply does not
depend on which model was found. -/
def report (oracle : Oracle) (base : RuleBase) (call : Call) : Answer → Except Fault Value
  | .model (some found) => do
    return .entries (some (sharedEntries oracle base.clauses (← assumed call) found))
  | .model none => .ok (.entries none)
  | answer => .ok (.answer answer)

/-- Carries out a step. -/
def step (oracle : Oracle) (workspace : Workspace) (step : Step) : Reply × Workspace :=
  let current := workspace.find? step.slot
  let standing := current.map RuleBase.standing
  match step.action, current with
  | .create clauses backend timeout conflicts, _ =>
    match build (oracleFor oracle 0 step.allowance) clauses backend timeout conflicts with
    | .error fault => (⟨.error fault, standing, []⟩, workspace)
    | .ok (.error fault, failed) => (⟨.error fault, standing, failed.journal.reverse⟩, workspace)
    | .ok (.ok _, base) =>
      let closing := (current.map fun old => old.close.eventsSince old).getD []
      (⟨.ok (.answer (.text base.describe)), some base.standing, base.journal.reverse ++ closing⟩,
        workspace.put step.slot base)
  | _, none => (⟨.ok .absent, none, []⟩, workspace)
  | .models literals, some base => (⟨listModels oracle base literals, standing, []⟩, workspace)
  | .call call, some base =>
    let (result, after) := call.perform (oracleFor oracle base.decisions step.allowance) base
    (⟨result.bind (report oracle after call), some after.standing, after.eventsSince base⟩,
      workspace.put step.slot after)

/-- Carries out steps in order. -/
def run (oracle : Oracle) (steps : List Step) : List Reply :=
  (steps.foldl (fun (replies, workspace) next =>
    let (reply, workspace) := step oracle workspace next
    (reply :: replies, workspace)) (([] : List Reply), empty)).1.reverse

end Workspace

end Clausal
