import Clausal.Clause
import Clausal.Limits

/-!
# What can go wrong

Every failure is recorded by its cause; the wording is derived from the cause in
one place, and so is the class of error under which it can be caught. Two causes are
answers of the rule base itself: a clause that leaves no model, and a decision that gave
up. The others say that an argument was malformed or that the rule base was closed.
-/

namespace Clausal

/-- The operation in whose arguments a malformed literal or clause was found. -/
inductive Place
  | construction
  | fact
  | clause
  | satisfiability
  | model
  | extraClauses
  deriving DecidableEq

namespace Place

/-- The name of the operation in messages. -/
def label : Place → String
  | construction => "RuleSet"
  | fact => "add_fact"
  | clause => "add_clause"
  | satisfiability => "is_satisfiable_with"
  | model => "get_model_with"
  | extraClauses => "is_satisfiable_under_clauses"

end Place

/-- The two limits by name. -/
inductive LimitName
  | timeout
  | conflicts
  deriving DecidableEq

/-- The name of the limit in messages. -/
def LimitName.label : LimitName → String
  | timeout => "timeout"
  | conflicts => "conflict_budget"

/-- The classes of error under which failures are caught. -/
inductive ErrorClass
  | value
  | type
  | member
  | unknownBackend
  | frozenField
  | contradiction
  | timeout
  deriving DecidableEq

namespace ErrorClass

/-- The name under which the class is caught. -/
def name : ErrorClass → String
  | value => "ValueError"
  | type => "TypeError"
  | member => "AttributeError"
  | unknownBackend => "NoSuchSolverError"
  | frozenField => "FrozenInstanceError"
  | contradiction => "ContradictionError"
  | timeout => "SolverTimeoutError"

/-- The two classes that are the rule base's own have a class above them, by which both are
caught at once. -/
def isRefusal : ErrorClass → Bool
  | contradiction | timeout => true
  | _ => false

end ErrorClass

/-- The text of a refusal, for parts that may be any values. -/
inductive Notice
  | contradiction (clause : Option (List Datum))
  | gaveUp (assumptions : List Datum) (detail : String)

/-- The wording of a refusal. What limits there were is added where it is known. -/
def Notice.message : Notice → String
  | contradiction none => "The rule set is unsatisfiable"
  | contradiction (some clause) =>
    "Adding clause " ++ (Datum.list clause).display ++ " makes the rule set unsatisfiable"
  | gaveUp assumptions detail =>
    "Solver gave up under assumptions " ++ (Datum.list assumptions).display
      ++ if detail.isEmpty then "" else " (" ++ detail ++ ")"

/-- The causes of failure. -/
inductive Fault
  /-- A value that is no whole number stands where a literal is wanted. -/
  | notLiteral (place : Place) (given : Datum)
  /-- Zero stands where a literal is wanted. -/
  | zeroLiteral (place : Place)
  /-- A clause has no literal. -/
  | emptyClause (place : Place)
  /-- The value cannot be gone through. -/
  | notIterable (kind : Kind)
  /-- The value has no negation. -/
  | noNegation (kind : Kind)
  /-- The value has no magnitude. -/
  | noMagnitude (kind : Kind)
  /-- The value has no successor. -/
  | noSuccessor (kind : Kind)
  /-- A whole number is wanted. -/
  | notWhole (kind : Kind)
  /-- A limit that cannot be compared with zero. -/
  | limitKind (kind : Kind)
  /-- A limit that is zero or negative. -/
  | limitNotPositive (limit : LimitName) (given : Number)
  /-- The name of a backend is not a text. -/
  | backendKind (kind : Kind)
  /-- No backend has this name. -/
  | unknownBackend (name : String)
  /-- The rule base is closed. -/
  | closed
  /-- The clauses have no model; the clause is the one whose addition showed it. -/
  | contradiction (clause : Option Clause)
  /-- A decision used up its limits. -/
  | gaveUp (assumptions : List Literal) (limits : Limits)
  /-- The value cannot be taken apart into two. -/
  | notPair (kind : Kind)
  /-- The value has fewer than two parts. -/
  | pairTooShort (size : Nat)
  /-- The value has more than two parts. -/
  | pairTooLong
  /-- The value cannot be a member of a class. -/
  | notHashable (kind : Kind)
  /-- Two members that have no order. -/
  | unordered (later earlier : Kind)
  /-- A report has no field of this name. -/
  | unknownField (name : String)
  /-- A report lacks its one obligatory field. -/
  | missingField (name : String)
  /-- A field of a report cannot be changed. -/
  | frozenField (name : String)

namespace Fault

/-- The wording of each cause. -/
def message : Fault → String
  | notLiteral place given =>
    place.label ++ ": " ++ given.display ++ " is not an integer literal."
  | zeroLiteral place =>
    place.label ++ ": 0 is not a literal. Use v or -v for variable v."
  | emptyClause place => place.label ++ ": a clause needs at least one literal."
  | notIterable kind => "'" ++ kind.name ++ "' object is not iterable"
  | noNegation kind => "bad operand type for unary -: '" ++ kind.name ++ "'"
  | noMagnitude kind => "bad operand type for abs(): '" ++ kind.name ++ "'"
  | noSuccessor .text => "can only concatenate str (not \"int\") to str"
  | noSuccessor .list => "can only concatenate list (not \"int\") to list"
  | noSuccessor kind => "unsupported operand type(s) for +: '" ++ kind.name ++ "' and 'int'"
  | notWhole kind => "'" ++ kind.name ++ "' object cannot be interpreted as an integer"
  | limitKind kind =>
    "'<=' not supported between instances of '" ++ kind.name ++ "' and 'int'"
  | limitNotPositive limit given =>
    limit.label ++ " must be positive, got " ++ given.display ++ "."
  | backendKind kind => "'" ++ kind.name ++ "' object has no attribute 'lower'"
  | unknownBackend name => name
  | closed => "Operation on a closed RuleSet."
  | contradiction clause =>
    (Notice.contradiction (clause.map fun given => given.literals.map Datum.ofLiteral)).message
  | gaveUp assumptions limits =>
    (Notice.gaveUp (assumptions.map Datum.ofLiteral) limits.describe).message
  | notPair kind => "cannot unpack non-iterable " ++ kind.name ++ " object"
  | pairTooShort size =>
    "not enough values to unpack (expected 2, got " ++ toString size ++ ")"
  | pairTooLong => "too many values to unpack (expected 2)"
  | notHashable kind => "unhashable type: '" ++ kind.name ++ "'"
  | unordered later earlier =>
    "'<' not supported between instances of '" ++ later.name ++ "' and '" ++ earlier.name ++ "'"
  | unknownField name =>
    "RuleSetAnalysis.__init__() got an unexpected keyword argument '" ++ name ++ "'"
  | missingField name =>
    "RuleSetAnalysis.__init__() missing 1 required positional argument: '" ++ name ++ "'"
  | frozenField name => "cannot assign to field " ++ Text.quoted name

/-- The class of error of each cause. What is wrong with a value that is of the right kind
is told apart from a value of the wrong kind. A closed rule base counts as a wrong value. -/
def errorClass : Fault → ErrorClass
  | notLiteral _ _ | zeroLiteral _ | emptyClause _ | limitNotPositive _ _ | closed
  | pairTooShort _ | pairTooLong => .value
  | notIterable _ | noNegation _ | noMagnitude _ | noSuccessor _ | notWhole _ | limitKind _
  | notPair _ | notHashable _ | unordered _ _ | unknownField _ | missingField _ => .type
  | backendKind _ => .member
  | unknownBackend _ => .unknownBackend
  | frozenField _ => .frozenField
  | contradiction _ => .contradiction
  | gaveUp _ _ => .timeout

end Fault

end Clausal
