import Clausal.Backbone
import Clausal.Entailment

/-!
# Variables that agree

Two variables agree if each is a hard conclusion of the other. Every pair is examined
on its own; nothing is inferred from other pairs.

Pinned variables are left out before the scan, and it is the caller who says which
variables are pinned. A variable forced true is never a hard conclusion, but of two
variables forced false each is one of the other, so the scan of pinned variables
would report every such pair.
-/

namespace Clausal

/-- All pairs of a member and a later one, in the order of the list. -/
def pairsOf {α : Type} : List α → List (α × α)
  | [] => []
  | first :: rest => rest.map (fun second => (first, second)) ++ pairsOf rest

/-- Is each variable a hard conclusion of the other? -/
def agree (first second : Variable) : Inquiry Bool := do
  if ← entailsHard ⟨first, true⟩ ⟨second, true⟩ then entailsHard ⟨second, true⟩ ⟨first, true⟩
  else return false

/-- The variables up to the highest that are not the magnitude of a pinned number. -/
def unpinned (highest : Nat) (pinned : List Int) : List Variable :=
  (Variable.upTo highest).filter fun var => !(pinned.map Int.natAbs).contains var.number

/-- The agreeing pairs among the variables that are not pinned. -/
def agreeingPairs (highest : Nat) (pinned : List Int) : Inquiry (List (Variable × Variable)) := do
  let candidates := unpinned highest pinned
  let pairs ← (pairsOf candidates).filterMapM fun pair => do
    if ← agree pair.1 pair.2 then
      Inquiry.record (.agreeing pair.1 pair.2)
      return some pair
    else return none
  Inquiry.record (.agreementFound pairs.length candidates.length)
  return pairs

/-- The agreeing pairs of variables outside the backbone, which is found first unless
the caller brings the pinned numbers along. -/
def agreement (highest : Nat) (pinned : Option (List Int)) :
    Inquiry (List (Variable × Variable)) := do
  match pinned with
  | some pinned => agreeingPairs highest pinned
  | none => agreeingPairs highest ((← backbone highest).map Literal.code)

end Clausal
