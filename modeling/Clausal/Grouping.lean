/-!
# Classes out of pairs

Pairs are taken in one after the other. The first member of a pair is the root of
its own class unless it already has a root; the second member, if it has no root yet,
joins the class of the first. A member that has a root keeps it, so two classes are
never merged: only if the pairs come ordered and closed under transitivity are the
classes those of the relation the pairs spell out.
-/

namespace Clausal

/-- A class with its root and the other members in the order in which they joined. -/
structure Class (α : Type) where
  root : α
  others : List α

/-- All members, the root first. -/
def Class.members {α : Type} (group : Class α) : List α := group.root :: group.others

/-- The classes so far. A root may have no class yet. -/
structure Grouping (α : Type) where
  /-- The root of each member. -/
  roots : List (α × α)
  /-- The classes in the order in which they began. -/
  classes : List (Class α)

namespace Grouping

variable {α : Type} [BEq α]

/-- No member has been met, and there is no class. -/
def empty : Grouping α := ⟨[], []⟩

/-- Puts a member into the class of a root, which begins if there is none yet. -/
def join (root member : α) : List (Class α) → List (Class α)
  | [] => [⟨root, [member]⟩]
  | group :: rest =>
    if group.root == root then { group with others := group.others ++ [member] } :: rest
    else group :: join root member rest

/-- Makes a member a root unless it has one, and gives its root. -/
def rooted (grouping : Grouping α) (member : α) : α × List (α × α) :=
  match grouping.roots.lookup member with
  | some root => (root, grouping.roots)
  | none => (member, grouping.roots ++ [(member, member)])

/-- Takes in a pair. -/
def link (grouping : Grouping α) (pair : α × α) : Grouping α :=
  let (root, roots) := grouping.rooted pair.1
  match roots.lookup pair.2 with
  | some _ => { grouping with roots := roots }
  | none => ⟨roots ++ [(pair.2, root)], join root pair.2 grouping.classes⟩

/-- Takes in pairs in order. -/
def ofPairs (pairs : List (α × α)) : Grouping α := pairs.foldl link empty

end Grouping

/-- The classes that the pairs make, ordered by their roots. -/
def collect {α : Type} [BEq α] (before : α → α → Bool) (pairs : List (α × α)) :
    List (List α) :=
  ((Grouping.ofPairs pairs).classes.mergeSort fun first second => before first.root second.root).map
    Class.members

end Clausal
