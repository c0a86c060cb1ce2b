import Clausal.Survey

/-!
# Requests

What can be asked of a rule base, with all arguments read. A query is an inquiry and
its answer; the other requests add to the rule base, close it or show what it holds.
-/

namespace Clausal

/-- A request that changes no clause. -/
inductive Query
  | satisfiable (literals : List Literal)
  | alongside (extra : List Clause)
  | model (literals : List Literal)
  | entails (premise conclusion : Literal)
  | entailsHard (premise conclusion : Literal)
  | backbone
  | agreement (pinned : Option (List Int))
  | classes
  | survey

/-- A request to an existing rule base. -/
inductive Request
  | tellFact (literal : Literal)
  | tell (clause : Clause)
  | inquire (query : Query)
  | close
  | enter
  | describe
  | listing

/-- What a request is answered with. -/
inductive Answer
  | nothing
  | flag (value : Bool)
  | text (value : String)
  | clauses (value : List Clause)
  | model (value : Option (List Literal))
  | literals (value : List Literal)
  | pairs (value : List (Variable × Variable))
  | classes (value : List (List Variable))
  | survey (value : Survey)

/-- The inquiry that answers a query about a rule base with a given highest variable. -/
def Query.inquiry (highest : Nat) : Query → Inquiry Answer
  | satisfiable literals => return .flag (← satisfiableWith literals)
  | alongside extra => return .flag (← satisfiableAlongside extra)
  | model literals => return .model (← modelWith highest literals)
  | entails premise conclusion => return .flag (← Clausal.entails premise conclusion)
  | entailsHard premise conclusion => return .flag (← Clausal.entailsHard premise conclusion)
  | backbone => return .literals (← Clausal.backbone highest)
  | agreement pinned => return .pairs (← Clausal.agreement highest pinned)
  | classes => return .classes (← agreementClasses highest)
  | survey => return .survey (← Clausal.survey highest)

/-- The outcome of an operation that has nothing to say, as an answer. -/
def Outcome.silent : Outcome Unit → Outcome Answer
  | (.error fault, base) => (.error fault, base)
  | (.ok _, base) => (.ok .nothing, base)

/-- Carries a request out. -/
def Request.perform (oracle : Oracle) (base : RuleBase) : Request → Outcome Answer
  | tellFact literal => (base.tellFact oracle literal).silent
  | tell clause => (base.tell oracle clause).silent
  | inquire query => (query.inquiry base.highest).run oracle base
  | close => (.ok .nothing, base.close)
  | enter => (.ok (.flag true), base)
  | describe => (.ok (.text base.describe), base)
  | listing => (.ok (.clauses base.clauses), base)

end Clausal
