import Clausal.Argument
import Clausal.Grouping

/-!
# Classes of loose values

Pairs may be any values that come apart into two, and members any values but lists
and records. Equal numbers of different forms are one member, shown in the form met
first. Classes are ordered by their roots, and it is a fault if two roots that the
ordering compares have no order.
-/

namespace Clausal

namespace Sorting

variable {α : Type} {ε : Type}

/-- The rest of a run: values are taken while each stands to the one before as
`descending` says. The run is returned latest first. -/
def takeRun (less : α → α → Except ε Bool) (descending : Bool) (last : α) (taken : List α) :
    List α → Except ε (List α × List α)
  | [] => .ok (last :: taken, [])
  | next :: rest => do
    if (← less next last) = descending then takeRun less descending next (last :: taken) rest
    else return (last :: taken, next :: rest)

/-- The first run of a list in ascending order, and what follows it. A descending run
is turned round. -/
def leadingRun (less : α → α → Except ε Bool) : List α → Except ε (List α × List α)
  | first :: second :: rest => do
    let descending ← less second first
    let (run, rest) ← takeRun less descending second [first] rest
    return (if descending then run else run.reverse, rest)
  | short => .ok (short, [])

/-- Where a value belongs in an ascending list, behind its equals, by bisection. -/
def position (less : α → α → Except ε Bool) (value : α) (sorted : List α) : Except ε Nat :=
  match _ : sorted.drop (sorted.length / 2) with
  | [] => .ok 0
  | middle :: above => do
    if ← less value middle then position less value (sorted.take (sorted.length / 2))
    else return sorted.length / 2 + 1 + (← position less value above)
termination_by sorted.length
decreasing_by
  all_goals
    have sizes := congrArg List.length ‹_›
    simp only [List.length_drop, List.length_cons, List.length_take] at sizes ⊢
    omega

/-- Puts values one after the other where they belong. -/
def insertAll (less : α → α → Except ε Bool) (sorted : List α) : List α → Except ε (List α)
  | [] => .ok sorted
  | value :: rest => do
    let place ← position less value sorted
    insertAll less (sorted.take place ++ value :: sorted.drop place) rest

/-- Sorts a list by a comparison that may fail: the leading run is kept and the
other values are inserted into it in order. -/
def sort (less : α → α → Except ε Bool) (values : List α) : Except ε (List α) := do
  let (run, rest) ← leadingRun less values
  insertAll less run rest

end Sorting

namespace Grouping

/-- Takes a value apart into two. -/
def readPair (given : Datum) : Except Fault (Datum × Datum) :=
  match given.elements? with
  | none => .error (.notPair given.kind)
  | some [first, second] => .ok (first, second)
  | some parts =>
    if parts.length < 2 then .error (.pairTooShort parts.length) else .error .pairTooLong

/-- Members must not be lists or records. -/
def checkMember (given : Datum) : Except Fault Unit :=
  match given with
  | .list _ | .record _ => .error (.notHashable given.kind)
  | _ => .ok ()

/-- Reads one pair and takes it in. -/
def linkLoose (grouping : Grouping Datum) (given : Datum) : Except Fault (Grouping Datum) := do
  let (first, second) ← readPair given
  checkMember first
  checkMember second
  return grouping.link (first, second)

/-- Compares two roots, the later one first. -/
def lessRoot (later earlier : Class Datum) : Except Fault Bool :=
  match later.root.less? earlier.root with
  | some answer => .ok answer
  | none => .error (.unordered later.root.kind earlier.root.kind)

end Grouping

/-- The classes that a value's pairs make. -/
def collectLoose (given : Datum) : Except Fault (List (List Datum)) := do
  let grouping ← (← Argument.elements given).foldlM Grouping.linkLoose Grouping.empty
  return (← Sorting.sort Grouping.lessRoot grouping.classes).map Class.members

end Clausal
