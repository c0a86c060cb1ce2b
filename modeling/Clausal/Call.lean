import Clausal.Argument
import Clausal.Request

/-!
# Calls

A call is a request whose arguments are still loose values. Reading it either gives
the request or fails, and touches no rule base: a malformed argument is refused
before anything happens.
-/

namespace Clausal

/-- A request with its arguments as they came. -/
inductive Call
  | tellFact (literal : Datum)
  | tell (clause : Datum)
  | satisfiable
  | satisfiableWith (literals : Datum)
  | alongside (clauses : Datum)
  | alongsideClause (clause : Datum)
  | model
  | modelWith (literals : Datum)
  | entails (premise conclusion : Datum)
  | entailsHard (premise conclusion : Datum)
  | backbone
  | agreement (determined : Datum)
  | classes
  | survey
  | close
  | enter
  | describe
  | listing

/-- Reads the arguments of a call. -/
def Call.read : Call → Except Fault Request
  | tellFact literal => return .tellFact (← Argument.literal .fact literal)
  | tell clause => return .tell (← Argument.clause .clause clause)
  | satisfiable => return .inquire (.satisfiable [])
  | satisfiableWith literals =>
    return .inquire (.satisfiable (← Argument.literals .satisfiability literals))
  | alongside clauses => return .inquire (.alongside (← Argument.clauses .extraClauses clauses))
  | alongsideClause clause =>
    return .inquire (.alongside [← Argument.clause .extraClauses clause])
  | model => return .inquire (.model [])
  | modelWith literals => return .inquire (.model (← Argument.literals .model literals))
  | entails premise conclusion => do
    let (premise, conclusion) ← Argument.entailment premise conclusion
    return .inquire (.entails premise conclusion)
  | entailsHard premise conclusion => do
    let (premise, conclusion) ← Argument.entailment premise conclusion
    return .inquire (.entailsHard premise conclusion)
  | backbone => return .inquire .backbone
  | agreement .null => return .inquire (.agreement none)
  | agreement determined => return .inquire (.agreement (some (← Argument.pinned determined)))
  | classes => return .inquire .classes
  | survey => return .inquire .survey
  | close => return .close
  | enter => return .enter
  | describe => return .describe
  | listing => return .listing

/-- Reads a call and carries it out. -/
def Call.perform (oracle : Oracle) (base : RuleBase) (call : Call) : Outcome Answer :=
  match call.read with
  | .error fault => (.error fault, base)
  | .ok request => request.perform oracle base

end Clausal
