import Clausal.Proofs.Reading
import Clausal.Proofs.Runs

/-!
# What well-formed arguments mean

What a loose value means is said here without regard to how it is read. A value spells a
literal if it is, by its form, the integer that codes the literal; it spells a clause if
going through it meets literals only, and at least one; and so on up to the calls. A call
that means something means one request, and reading finds exactly that request. Every other
call is malformed, and it is refused before anything is done.
-/

namespace Clausal

variable {α β : Type}

namespace Datum

/-- The value is, as an integer, the code of the literal. -/
def Spells (given : Datum) (literal : Literal) : Prop :=
  Argument.integer? given = some literal.code

/-- Going through the value meets elements that mean the listed values, in order. -/
def Lists (means : Datum → α → Prop) (given : Datum) (values : List α) : Prop :=
  ∃ items, given.elements? = some items ∧ List.Forall₂ means items values

/-- The value meets the literals of the clause, which is never empty. -/
def SpellsClause (given : Datum) (clause : Clause) : Prop :=
  given.Lists Spells clause.literals

/-- The value is a single literal or meets some, perhaps none. -/
def SpellsLiterals (given : Datum) (literals : List Literal) : Prop :=
  (∃ literal, given.Spells literal ∧ literals = [literal]) ∨ given.Lists Spells literals

/-- The value meets numbers, and these are the integers among them. A number that is equal
to an integer counts as one, whatever its form. -/
def Pins (given : Datum) (pinned : List Int) : Prop :=
  ∃ integers, given.Lists
    (fun item integer => ∃ value, item = number value ∧ integer = value.integral?) integers ∧
      pinned = integers.filterMap id

end Datum

/-- The arguments of the call mean this request. -/
def Call.Means : Call → Request → Prop
  | tellFact given, request => ∃ literal, given.Spells literal ∧ request = .tellFact literal
  | tell given, request => ∃ clause, given.SpellsClause clause ∧ request = .tell clause
  | satisfiable, request => request = .inquire (.satisfiable [])
  | satisfiableWith given, request =>
    ∃ literals, given.SpellsLiterals literals ∧ request = .inquire (.satisfiable literals)
  | alongside given, request =>
    ∃ extra, given.Lists Datum.SpellsClause extra ∧ request = .inquire (.alongside extra)
  | alongsideClause given, request =>
    ∃ clause, given.SpellsClause clause ∧ request = .inquire (.alongside [clause])
  | model, request => request = .inquire (.model [])
  | modelWith given, request =>
    ∃ literals, given.SpellsLiterals literals ∧ request = .inquire (.model literals)
  | entails given denied, request => ∃ premise conclusion, given.Spells premise ∧
      denied.Spells conclusion ∧ request = .inquire (.entails premise conclusion)
  | entailsHard given denied, request => ∃ premise conclusion, given.Spells premise ∧
      denied.Spells conclusion ∧ request = .inquire (.entailsHard premise conclusion)
  | backbone, request => request = .inquire .backbone
  | agreement given, request => given = .null ∧ request = .inquire (.agreement none) ∨
      ∃ pinned, given.Pins pinned ∧ request = .inquire (.agreement (some pinned))
  | classes, request => request = .inquire .classes
  | survey, request => request = .inquire .survey
  | close, request => request = .close
  | enter, request => request = .enter
  | describe, request => request = .describe
  | listing, request => request = .listing

/-- The call is well formed, and it is a call to add the clause. -/
def Call.Adds (call : Call) (clause : Clause) : Prop :=
  ∃ request, call.Means request ∧ request.added? = some clause

namespace Argument

variable {place : Place} {given : Datum}

/-- Of two readings in turn, both must succeed, the second one with what the first one read. -/
theorem bind_ok_iff {reading : Except Fault α} {next : α → Except Fault β} {result : β} :
    reading >>= next = .ok result ↔ ∃ value, reading = .ok value ∧ next value = .ok result := by
  cases reading with
  | error fault =>
    constructor
    · rintro ⟨⟩
    · rintro ⟨value, ⟨⟩, _⟩
  | ok value =>
    constructor
    · exact fun reads => ⟨value, rfl, reads⟩
    · rintro ⟨_, ⟨⟩, reads⟩
      exact reads

/-- Wrapping up what was read cannot fail. -/
theorem wrap_ok_iff {reading : Except Fault α} {wrap : α → β} {result : β} :
    (do return wrap (← reading)) = .ok result ↔
      ∃ value, reading = .ok value ∧ result = wrap value := by
  refine bind_ok_iff.trans (exists_congr fun value => and_congr_right fun _ => ?_)
  exact ⟨fun same => (Except.ok.inj same).symm, fun same => congrArg Except.ok same.symm⟩

/-- All items are read if each one is, and what is read of them keeps their order. The induction
is on the items. -/
theorem mapM_ok_iff {read : α → Except Fault β} {items : List α} {values : List β} :
    items.mapM read = .ok values ↔
      List.Forall₂ (fun item value => read item = .ok value) items values := by
  induction items generalizing values with
  | nil =>
    rw [List.mapM_nil, List.forall₂_nil_left_iff]
    exact ⟨fun same => (Except.ok.inj same).symm, fun same => congrArg Except.ok same.symm⟩
  | cons item rest inductionHypothesis =>
    rw [List.mapM_cons, bind_ok_iff, List.forall₂_cons_left_iff]
    refine exists_congr fun value => ?_
    constructor
    · rintro ⟨first, later⟩
      obtain ⟨others, reads, rfl⟩ := wrap_ok_iff.mp later
      exact ⟨others, first, inductionHypothesis.mp reads, rfl⟩
    · rintro ⟨others, first, reads, rfl⟩
      exact ⟨first, wrap_ok_iff.mpr ⟨others, inductionHypothesis.mpr reads, rfl⟩⟩

/-- Going through a value and reading each element finds what the elements mean. The value must
be one that can be gone through. -/
theorem lists_ok_iff {read : Datum → Except Fault α} {means : Datum → α → Prop}
    (each : ∀ item value, read item = .ok value ↔ means item value) {values : List α} :
    (do (← elements given).mapM read) = .ok values ↔ given.Lists means values := by
  rw [bind_ok_iff]
  refine exists_congr fun items => and_congr ?_ ?_
  · unfold elements
    cases given.elements? with
    | none => exact ⟨nofun, nofun⟩
    | some found => exact ⟨fun same => congrArg some (Except.ok.inj same),
        fun same => congrArg Except.ok (Option.some.inj same)⟩
  · rw [mapM_ok_iff]
    simp only [each]

/-- Exactly the integers other than zero are read as literals, and each as the literal that it
codes. -/
theorem literal_ok_iff {literal : Literal} :
    Argument.literal place given = .ok literal ↔ given.Spells literal := by
  unfold Argument.literal Datum.Spells
  cases integer? given with
  | none => exact ⟨nofun, nofun⟩
  | some code =>
    dsimp only
    rw [Option.some.injEq]
    cases coded : Literal.ofCode? code with
    | none =>
      obtain rfl := Literal.ofCode?_eq_none_iff.mp coded
      exact ⟨nofun, fun zero => absurd zero.symm literal.code_ne_zero⟩
    | some found =>
      rw [← Literal.code_of_ofCode? coded]
      exact ⟨fun same => congrArg Literal.code (Except.ok.inj same),
        fun same => congrArg Except.ok (Literal.code_injective same)⟩

/-- Exactly what meets the literals of a clause is read as the clause. That there is one at least
is part of being a clause. -/
theorem clause_ok_iff {clause : Clause} :
    Argument.clause place given = .ok clause ↔ given.SpellsClause clause := by
  have each (item : Datum) (value : Literal) :
      Argument.literal place item = .ok value ↔ item.Spells value := literal_ok_iff
  unfold Argument.clause
  rw [← bind_assoc, bind_ok_iff]
  refine (exists_congr fun literals => and_congr_right fun _ => ?assembled).trans
    (exists_eq_right'.trans (lists_ok_iff each))
  cases made : Clause.ofList? literals with
  | none =>
    obtain rfl := Clause.ofList?_eq_none_iff.mp made
    exact ⟨fun failed => absurd failed (by simp), fun none => absurd none clause.literals_ne_nil⟩
  | some found =>
    rw [← Clause.literals_of_ofList? made]
    obtain ⟨literals, nonempty⟩ := found
    obtain ⟨others, alsoNonempty⟩ := clause
    simp [eq_comm]

/-- Several clauses are read exactly from what meets values that spell them, in order. -/
theorem clauses_ok_iff {extra : List Clause} :
    Argument.clauses place given = .ok extra ↔ given.Lists Datum.SpellsClause extra :=
  lists_ok_iff fun _ _ => clause_ok_iff

/-- Literals are read from an integer or from a value that meets some. The two do not overlap,
since an integer cannot be gone through. -/
theorem literals_ok_iff {literals : List Literal} :
    Argument.literals place given = .ok literals ↔ given.SpellsLiterals literals := by
  have each (item : Datum) (value : Literal) :
      Argument.literal place item = .ok value ↔ item.Spells value := literal_ok_iff
  unfold Argument.literals Datum.SpellsLiterals
  cases formed : integer? given with
  | none =>
    rw [lists_ok_iff each, or_iff_right]
    rintro ⟨literal, spells, _⟩
    rw [Datum.Spells, formed] at spells
    cases spells
  | some code =>
    rw [wrap_ok_iff, or_iff_left]
    · exact exists_congr fun literal => and_congr_left fun _ => literal_ok_iff
    · -- An integer cannot be gone through.
      rintro ⟨items, met, _⟩
      cases given with
      | number value => cases met
      | null => cases formed
      | text value => cases formed
      | list items => cases formed
      | record entries => cases formed

/-- Changing the sign of a number denies the literal that it spells. The truth values become
integers with that. -/
theorem spells_neg {value : Number} {literal : Literal} :
    (Datum.number value.neg).Spells literal ↔ (Datum.number value).Spells (-literal) := by
  unfold Datum.Spells integer?
  rw [Literal.code_neg]
  cases value with
  | truth value =>
    simp only [Number.neg, Number.integer?, Option.some.injEq]
    cases value <;> simp only [Bool.false_eq_true, if_true, if_false] <;> omega
  | whole value =>
    simp only [Number.neg, Number.integer?, Option.some.injEq]
    omega
  | decimal value => simp only [Number.neg, Number.integer?, reduceCtorEq]

/-- The ends of an entailment are read as if each were a literal of its own, although the
conclusion is read by its negation. -/
theorem entailment_ok_iff {denied : Datum} {premise conclusion : Literal} :
    Argument.entailment given denied = .ok (premise, conclusion) ↔
      given.Spells premise ∧ denied.Spells conclusion := by
  have ends (negated : Datum) : (do
      let premise ← Argument.literal .satisfiability given
      let denied ← Argument.literal .satisfiability negated
      return (premise, -denied)) = .ok (premise, conclusion) ↔
        given.Spells premise ∧ negated.Spells (-conclusion) := by
    rw [bind_ok_iff]
    constructor
    · rintro ⟨first, reads, later⟩
      obtain ⟨second, alsoReads, same⟩ := wrap_ok_iff.mp later
      obtain ⟨rfl, rfl⟩ := Prod.mk.inj same
      rw [Literal.neg_neg]
      exact ⟨literal_ok_iff.mp reads, literal_ok_iff.mp alsoReads⟩
    · rintro ⟨spells, alsoSpells⟩
      refine ⟨premise, literal_ok_iff.mpr spells, wrap_ok_iff.mpr ?_⟩
      exact ⟨-conclusion, literal_ok_iff.mpr alsoSpells, by rw [Literal.neg_neg]⟩
  unfold Argument.entailment
  cases denied with
  | number value =>
    refine (ends (.number value.neg)).trans (and_congr_right fun _ => ?_)
    rw [spells_neg, Literal.neg_neg]
  | null => exact ⟨nofun, fun spells => nomatch spells.2⟩
  | text value => exact ⟨nofun, fun spells => nomatch spells.2⟩
  | list items => exact ⟨nofun, fun spells => nomatch spells.2⟩
  | record entries => exact ⟨nofun, fun spells => nomatch spells.2⟩

/-- Pinned numbers are read exactly from what meets numbers, and the integers among these pin. A
number that is not whole is passed over. -/
theorem pinned_ok_iff {pinned : List Int} :
    Argument.pinned given = .ok pinned ↔ given.Pins pinned := by
  have each (item : Datum) (integer : Option Int) : measured item = .ok integer ↔
      ∃ value, item = .number value ∧ integer = value.integral? := by
    cases item with
    | number value =>
      constructor
      · rintro ⟨⟩
        exact ⟨value, rfl, rfl⟩
      · rintro ⟨_, ⟨⟩, rfl⟩
        rfl
    | null => exact ⟨nofun, nofun⟩
    | text value => exact ⟨nofun, nofun⟩
    | list items => exact ⟨nofun, nofun⟩
    | record entries => exact ⟨nofun, nofun⟩
  unfold Argument.pinned
  rw [← bind_assoc, wrap_ok_iff]
  exact exists_congr fun integers => and_congr_left fun _ => lists_ok_iff each

end Argument

open Argument

/-- Reading finds what the call means, and fails if it means nothing. A call has one meaning at
most, since reading has one result. -/
theorem Call.read_ok_iff {call : Call} {request : Request} :
    call.read = .ok request ↔ call.Means request := by
  have plain (only : Request) : (.ok only : Except Fault Request) = .ok request ↔
      request = only :=
    ⟨fun same => (Except.ok.inj same).symm, fun same => congrArg Except.ok same.symm⟩
  cases call with
  | tellFact given =>
    exact wrap_ok_iff.trans (exists_congr fun _ => and_congr_left fun _ => literal_ok_iff)
  | tell given =>
    exact wrap_ok_iff.trans (exists_congr fun _ => and_congr_left fun _ => clause_ok_iff)
  | satisfiableWith given =>
    exact wrap_ok_iff.trans (exists_congr fun _ => and_congr_left fun _ => literals_ok_iff)
  | alongside given =>
    exact wrap_ok_iff.trans (exists_congr fun _ => and_congr_left fun _ => clauses_ok_iff)
  | alongsideClause given =>
    exact wrap_ok_iff.trans (exists_congr fun _ => and_congr_left fun _ => clause_ok_iff)
  | modelWith given =>
    exact wrap_ok_iff.trans (exists_congr fun _ => and_congr_left fun _ => literals_ok_iff)
  | entails given denied =>
    refine wrap_ok_iff.trans (Prod.exists.trans ?_)
    simp only [entailment_ok_iff, and_assoc]
    rfl
  | entailsHard given denied =>
    refine wrap_ok_iff.trans (Prod.exists.trans ?_)
    simp only [entailment_ok_iff, and_assoc]
    rfl
  | agreement given =>
    have scanned : (do return Request.inquire (.agreement (some (← pinned given)))) = .ok request ↔
        ∃ pinned, given.Pins pinned ∧ request = .inquire (.agreement (some pinned)) :=
      wrap_ok_iff.trans (exists_congr fun _ => and_congr_left fun _ => pinned_ok_iff)
    cases given with
    | null =>
      refine (plain _).trans ⟨fun same => Or.inl ⟨rfl, same⟩, ?_⟩
      rintro (⟨_, same⟩ | ⟨_, ⟨_, ⟨_, met, _⟩, _⟩, _⟩)
      · exact same
      · cases met
    | number value => exact scanned.trans (or_iff_right fun blank => nomatch blank.1).symm
    | text value => exact scanned.trans (or_iff_right fun blank => nomatch blank.1).symm
    | list items => exact scanned.trans (or_iff_right fun blank => nomatch blank.1).symm
    | record entries => exact scanned.trans (or_iff_right fun blank => nomatch blank.1).symm
  | satisfiable => exact plain _
  | model => exact plain _
  | backbone => exact plain _
  | classes => exact plain _
  | survey => exact plain _
  | close => exact plain _
  | enter => exact plain _
  | describe => exact plain _
  | listing => exact plain _

variable {oracle : Oracle} {base : RuleBase} {call : Call}

/-- That a call adds a clause can be told from its meaning, without reading it. The theorems
speak of the meaning, and the proofs read. -/
theorem Call.added?_eq_some_iff {clause : Clause} :
    call.added? = some clause ↔ call.Adds clause := by
  unfold added? Adds
  simp only [← read_ok_iff]
  cases call.read with
  | error fault => exact ⟨nofun, nofun⟩
  | ok request =>
    constructor
    · exact fun adds => ⟨request, rfl, adds⟩
    · rintro ⟨_, ⟨⟩, adds⟩
      exact adds

/-- A call that adds no clause is malformed or means a request to do something else. -/
theorem Call.added?_eq_none_iff : call.added? = none ↔ ∀ clause, ¬call.Adds clause := by
  simp only [Option.eq_none_iff_forall_ne_some, ne_eq, added?_eq_some_iff]

/-- A call with a meaning is carried out as the request that it means. -/
theorem Call.perform_of_means {request : Request} (means : call.Means request) :
    call.perform oracle base = request.perform oracle base := by
  rw [perform, read_ok_iff.mpr means]

end Clausal
