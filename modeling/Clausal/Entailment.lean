import Clausal.Inquiry

/-!
# Entailment between two literals

A premise entails a conclusion if no model has the premise true and the conclusion
false; a premise that no model has true entails everything. The entailment is hard
if, moreover, some model has the conclusion false, so that it does not hold merely
because the conclusion is forced. Nothing of the kind is asked of the premise.
-/

namespace Clausal

/-- Does every model with the premise true have the conclusion true? One question. -/
def entails (premise conclusion : Literal) : Inquiry Bool := do
  let holds := !(← satisfiableWith [premise, -conclusion])
  Inquiry.record (.entailed premise conclusion holds)
  return holds

/-- Does the premise entail a conclusion that can be false? The second question is
asked only if the premise does entail the conclusion. -/
def entailsHard (premise conclusion : Literal) : Inquiry Bool := do
  let holds ← if ← entails premise conclusion then satisfiableWith [-conclusion] else pure false
  Inquiry.record (.entailedHard premise conclusion holds)
  return holds

end Clausal
