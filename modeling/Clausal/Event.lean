import Clausal.Limits
import Clausal.Question

/-!
# The audit trail

Everything a rule base does that an auditor may want to see is an event: clauses
taken in, decisions answered or given up, and what the finders conclude. The trail
is data; its wording is derived from it.
-/

namespace Clausal

/-- How much an event matters. -/
inductive Level
  | debug
  | info
  | warning
  deriving DecidableEq

/-- The name of the level in the audit trail. -/
def Level.name : Level → String
  | debug => "DEBUG"
  | info => "INFO"
  | warning => "WARNING"

/-- The part of the library an event speaks for. -/
inductive Topic
  | ruleBase
  | entailment
  | backbone
  | agreement
  | survey
  deriving DecidableEq

/-- One record of the audit trail. -/
inductive Event
  | created (clauses highest : Nat) (backend : String)
  | closed
  | factAdded (literal : Literal)
  | clauseAdded (clause : Clause)
  | contradiction (clause : Option Clause)
  | decided (question : Question) (satisfiable : Bool)
  | gaveUp (question : Question) (limits : Limits)
  | entailed (premise conclusion : Literal) (holds : Bool)
  | entailedHard (premise conclusion : Literal) (holds : Bool)
  | forced (literal : Literal)
  | backboneFound (forced examined : Nat)
  | agreeing (first second : Variable)
  | agreementFound (pairs candidates : Nat)
  | surveyed (forced pairs classes decisions : Nat)

namespace Event

/-- How much each event matters. Refusals and decisions that gave up are warnings, what the
finders conclude is information, and all else is there for those who look into details. -/
def level : Event → Level
  | contradiction _ | gaveUp _ _ => .warning
  | backboneFound _ _ | agreementFound _ _ | surveyed _ _ _ _ => .info
  | _ => .debug

/-- The part of the library that each event speaks for. -/
def topic : Event → Topic
  | created _ _ _ | closed | factAdded _ | clauseAdded _ | contradiction _
  | decided _ _ | gaveUp _ _ => .ruleBase
  | entailed _ _ _ | entailedHard _ _ _ => .entailment
  | forced _ | backboneFound _ _ => .backbone
  | agreeing _ _ | agreementFound _ _ => .agreement
  | surveyed _ _ _ _ => .survey

/-- The wording of each event. -/
def message : Event → String
  | created clauses highest backend =>
    "RuleSet created: " ++ toString clauses ++ " clauses, highest variable " ++ toString highest
      ++ ", solver " ++ backend
  | closed => "RuleSet closed"
  | factAdded literal => "Added fact: " ++ toString literal.code
  | clauseAdded clause => "Added clause: " ++ Literal.displayList clause.literals
  | contradiction none => "Contradiction: the clause batch leaves the rule set without a model"
  | contradiction (some clause) =>
    "Contradiction: clause " ++ Literal.displayList clause.literals
      ++ " leaves the rule set without a model"
  | decided question satisfiable =>
    "Oracle decision under " ++ Literal.displayList question.assumptions ++ ": "
      ++ if satisfiable then "SAT" else "UNSAT"
  | gaveUp question limits =>
    "Oracle gave up under " ++ Literal.displayList question.assumptions ++ " (" ++ limits.describe
      ++ ")"
  | entailed premise conclusion holds =>
    "Logical conclusion " ++ toString premise.code ++ " -> " ++ toString conclusion.code ++ ": "
      ++ (Number.truth holds).display
  | entailedHard premise conclusion holds =>
    "Hard conclusion " ++ toString premise.code ++ " -> " ++ toString conclusion.code ++ ": "
      ++ (Number.truth holds).display
  | forced literal =>
    "Variable " ++ toString literal.var.number ++ " determined: " ++ toString literal.code
  | backboneFound literals examined =>
    "Determined " ++ toString literals ++ " of " ++ toString examined ++ " variables"
  | agreeing first second =>
    "Variables " ++ toString first.number ++ " and " ++ toString second.number ++ " are equal"
  | agreementFound pairs candidates =>
    "Found " ++ toString pairs ++ " equal pairs among " ++ toString candidates
      ++ " undetermined variables"
  | surveyed literals pairs classes decisions =>
    "Analysis: " ++ toString literals ++ " determined, " ++ toString pairs ++ " equal pairs, "
      ++ toString classes ++ " classes, " ++ toString decisions ++ " oracle calls"

end Event

end Clausal
