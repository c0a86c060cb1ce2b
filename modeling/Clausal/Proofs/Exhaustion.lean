import Clausal.Proofs.Construction
import Clausal.Proofs.Interruptions
import Clausal.Proofs.Reading
import Clausal.Proofs.Trust

/-!
# Exhaustion

Every operation on a rule base is interruptible, be it an addition, a query, the taking in
of a batch or anything else that can be called, and with whatever arguments. Under limits
the oracle may therefore be exhausted at any decision of any operation, and it is always
seen to be: no decision that was given up is ever taken for an answer. Without limits
nothing gives up.
-/

namespace Clausal

namespace RuleBase

variable {α : Type} {oracle : Oracle} {base : RuleBase}

/-- An inquiry that keeps its records to itself puts its questions in order. The induction
is on the inquiry, with the rule base left general: what remains of an inquiry starts
where its first question left off. -/
theorem interruptible_run (lawful : oracle.Lawful) (coherent : base.Coherent)
    (limited : base.limits.isLimited = true) {inquiry : Inquiry α} (modest : inquiry.Modest) :
    ∃ asked, Interruptible oracle base (fun oracle => inquiry.run oracle base) asked := by
  induction inquiry generalizing base with
  | done result => exact ⟨[], interruptible_nil rfl (Or.inl rfl) fun _ => rfl⟩
  | note event rest inductionHypothesis =>
    obtain ⟨silent, modest⟩ := modest
    obtain ⟨asked, recorded, counted, spared, interrupted⟩ :=
      inductionHypothesis (coherent.log event) limited modest
    rw [questions_silent base silent] at recorded
    refine ⟨asked, recorded, counted, spared, fun allowed beyond => ?_⟩
    obtain ⟨fault, decisions, trusted, clauses, highest⟩ := interrupted allowed beyond
    exact ⟨fault, decisions, trusted, clauses, highest⟩
  | ask question next inductionHypothesis =>
    obtain ⟨asked, begins⟩ := interruptible_ask oracle limited question
    have first := conducted_ask lawful coherent question
    have whole (oracle : Oracle) : (Inquiry.ask question next).run oracle base =
        followed (fun oracle => base.ask oracle question)
          (fun answer after oracle => (next answer).run oracle after) oracle := by
      rw [Inquiry.run, followed]
      rcases base.ask oracle question with ⟨_ | _, _⟩ <;> rfl
    simp only [whole]
    refine begins.bind first.unaltered fun answer after reached => ?_
    rw [reached] at first
    have limits : after.limits = base.limits := first.unaltered.limits
    exact ⟨(conducted_run lawful first.coherent (next answer)).unaltered,
      inductionHypothesis answer first.coherent (limits ▸ limited) (modest answer)⟩

/-- What a check makes of its one decision. -/
def certified (blamed : Option Clause) : Outcome (Option (List Literal)) → Outcome Unit
  | (.error fault, after) => (.error fault, after)
  | (.ok none, after) => after.refuse blamed
  | (.ok (some _), after) => (.ok (), after)

/-- To certify is to ask for a model without assumptions and to conclude from what comes of it. -/
theorem certify_eq (oracle : Oracle) (base : RuleBase) (blamed : Option Clause) :
    base.certify oracle blamed = certified blamed (base.ask oracle (.assuming [])) := rfl

/-- Refusing ends the trust, but it is no failure of the decision. -/
theorem concludes_certified (blamed : Option Clause) : Concludes (certified blamed) where
  failed := by
    rintro ⟨_, after⟩ fault ⟨⟩
    exact ⟨rfl, rfl⟩
  questions := by
    rintro ⟨_ | _ | _, after⟩
    · rfl
    · exact questions_silent { after with trusted := false } rfl
    · rfl
  decisions := by rintro ⟨_ | _ | _, after⟩ <;> rfl
  clauses := by rintro ⟨_ | _ | _, after⟩ <;> rfl
  highest := by rintro ⟨_ | _ | _, after⟩ <;> rfl

/-- Certifying is one question with a conclusion, so it is interrupted where the question is. -/
theorem interruptible_certify (oracle : Oracle) (limited : base.limits.isLimited = true)
    (blamed : Option Clause) :
    ∃ asked, Interruptible oracle base (fun oracle => base.certify oracle blamed) asked := by
  obtain ⟨asked, interruptible⟩ := interruptible_ask oracle limited (.assuming [])
  simp only [certify_eq]
  exact ⟨asked, interruptible.conclude (concludes_certified blamed)⟩

/-- Storing a clause and handing it to the solver asks and counts nothing. -/
theorem insert_kept (oracle : Oracle) (base : RuleBase) (clause : Clause) :
    (base.insert oracle clause).2.limits = base.limits ∧
      (base.insert oracle clause).2.decisions = base.decisions ∧
      (base.insert oracle clause).2.trusted = base.trusted ∧
      (base.insert oracle clause).2.journal = base.journal := by
  unfold insert
  split <;> exact ⟨rfl, rfl, rfl, rfl⟩

/-- An operation that begins with storing a clause leaves the asking to what follows, if
anything does. -/
theorem interruptible_inserted {clause : Clause} {whole : Oracle → Outcome Unit}
    (next : RuleBase → Oracle → Outcome Unit)
    (sequence : ∀ oracle, whole oracle = match base.insert oracle clause with
      | (.error fault, stored) => (.error fault, stored)
      | (.ok false, stored) => stored.refuse (some clause)
      | (.ok true, stored) => next stored oracle)
    (goesOn : ∀ stored : RuleBase, stored.limits = base.limits →
      ∃ asked, Interruptible oracle stored (next stored) asked) :
    ∃ asked, Interruptible oracle base whole asked := by
  -- The solver's objection does not depend on what the oracle decides.
  have unaffected (turn : Nat) :
      base.insert (oracle.exhaustedFrom turn) clause = base.insert oracle clause := rfl
  obtain ⟨limits, decisions, trusted, journal⟩ := insert_kept oracle base clause
  rcases inserted : base.insert oracle clause with ⟨fault | _ | _, stored⟩ <;>
    rw [inserted] at limits decisions trusted journal
  · have ended : whole oracle = (.error fault, stored) := by rw [sequence, inserted]
    refine ⟨[], interruptible_nil ?_ (Or.inl ?_) fun turn => ?_⟩
    · rw [ended]
      exact questions_congr journal
    · rw [ended, decisions]
    · rw [ended, sequence, unaffected, inserted]
  · have ended : whole oracle = stored.refuse (some clause) := by rw [sequence, inserted]
    refine ⟨[], interruptible_nil ?_ (Or.inl ?_) fun turn => ?_⟩
    · rw [ended]
      exact (questions_silent { stored with trusted := false } rfl).trans (questions_congr journal)
    · rw [ended, ← decisions]
      rfl
    · rw [ended, sequence, unaffected, inserted]
  · have goes (turn : Nat) : whole (oracle.exhaustedFrom turn) =
        next stored (oracle.exhaustedFrom turn) := by rw [sequence, unaffected, inserted]
    have continued : whole oracle = next stored oracle := by rw [sequence, inserted]
    obtain ⟨asked, interruptible⟩ := goesOn stored limits
    obtain ⟨recorded, counted, spared, interrupted⟩ :=
      interruptible.of_stored limits decisions trusted journal
    refine ⟨asked, continued ▸ recorded, continued ▸ counted, ?_, ?_⟩
    · intro allowed enough
      rw [goes, continued, spared allowed enough]
    · intro allowed beyond
      rw [goes, continued]
      exact interrupted allowed beyond

/-- An addition puts its clause in, which asks nothing, and certifies. -/
theorem interruptible_add (oracle : Oracle) (limited : base.limits.isLimited = true)
    (clause : Clause) :
    ∃ asked, Interruptible oracle base (fun oracle => base.add oracle clause) asked :=
  interruptible_inserted (fun stored oracle => stored.certify oracle (some clause))
    (fun _ => rfl) fun _ limits => interruptible_certify oracle (limits ▸ limited) (some clause)

/-- Taking in a batch asks at most once, at its end. The induction is on the batch: a clause is
stored without asking, and a fault or a conflict ends it. -/
theorem interruptible_load (oracle : Oracle) (limited : base.limits.isLimited = true)
    (batch : List (Except Fault Clause)) :
    ∃ asked, Interruptible oracle base (fun oracle => base.load oracle batch) asked := by
  induction batch generalizing base with
  | nil =>
    cases blank : base.clauses.isEmpty with
    | true =>
      have ended (oracle : Oracle) : base.load oracle [] = (.ok (), base) := by simp [load, blank]
      simp only [ended]
      exact ⟨[], interruptible_nil rfl (Or.inl rfl) fun _ => rfl⟩
    | false =>
      have checked (oracle : Oracle) : base.load oracle [] = base.certify oracle none := by
        simp [load, blank]
      simp only [checked]
      exact interruptible_certify oracle limited none
  | cons head rest inductionHypothesis =>
    cases head with
    | error fault => exact ⟨[], interruptible_nil rfl (Or.inl rfl) fun _ => rfl⟩
    | ok clause =>
      exact interruptible_inserted (fun stored oracle => stored.load oracle rest)
        (fun _ => rfl) fun _ limits => inductionHypothesis (limits ▸ limited)

/-- What a construction makes of the batch it took in. -/
def built (backend : String) : Outcome Unit → Outcome Unit
  | (.error fault, base) => (.error fault, base.close)
  | (.ok _, base) => (.ok (), base.log (.created base.clauses.length base.highest backend))

/-- A construction takes a batch in and concludes from what comes of it. -/
theorem create_eq (oracle : Oracle) (backend : String) (limits : Limits)
    (batch : List (Except Fault Clause)) :
    create oracle backend limits batch = built backend ((empty backend limits).load oracle batch) :=
  rfl

/-- A construction that fails closes what it has, which changes nothing that counts. -/
theorem concludes_built (backend : String) : Concludes (built backend) where
  failed := by
    rintro ⟨_, after⟩ fault ⟨⟩
    exact ⟨rfl, close_trusted after⟩
  questions := by
    rintro ⟨_ | _, after⟩
    · exact questions_close after
    · exact questions_silent after rfl
  decisions := by
    rintro ⟨_ | _, after⟩
    · exact close_decisions after
    · rfl
  clauses := by
    rintro ⟨_ | _, after⟩
    · exact close_clauses after
    · rfl
  highest := by
    rintro ⟨_ | _, after⟩
    · exact close_highest after
    · rfl

/-- A construction is interrupted where the taking in of its batch is. It closes what it has
then, which asks nothing. -/
theorem interruptible_create (oracle : Oracle) {limits : Limits}
    (limited : limits.isLimited = true) (backend : String) (batch : List (Except Fault Clause)) :
    ∃ asked, Interruptible oracle (empty backend limits)
      (fun oracle => create oracle backend limits batch) asked := by
  have ofEmpty : (empty backend limits).limits.isLimited = true := limited
  obtain ⟨asked, interruptible⟩ := interruptible_load oracle ofEmpty batch
  simp only [create_eq]
  exact ⟨asked, interruptible.conclude (concludes_built backend)⟩

end RuleBase

open RuleBase

variable {oracle : Oracle} {base : RuleBase}

/-- What a request to add makes of the addition: it is recorded and answered silently. -/
def RuleBase.acknowledged (event : Event) : Outcome Unit → Outcome Answer
  | (.error fault, after) => (.error fault, after)
  | (.ok _, after) => (.ok .nothing, after.log event)

/-- To tell a fact is to add it as a clause and to record it if that succeeds. -/
theorem RuleBase.tellFact_silent (oracle : Oracle) (base : RuleBase) (literal : Literal) :
    (base.tellFact oracle literal).silent =
      acknowledged (.factAdded literal) (base.add oracle (Clause.unit literal)) := by
  unfold tellFact
  rcases base.add oracle (Clause.unit literal) with ⟨_ | _, after⟩ <;> rfl

/-- To tell a clause is to add it and to record it if that succeeds. -/
theorem RuleBase.tell_silent (oracle : Oracle) (base : RuleBase) (clause : Clause) :
    (base.tell oracle clause).silent =
      acknowledged (.clauseAdded clause) (base.add oracle clause) := by
  unfold tell
  rcases base.add oracle clause with ⟨_ | _, after⟩ <;> rfl

/-- A record that is not about a decision may conclude any operation: it adds no question and
lets failures through. -/
theorem RuleBase.concludes_acknowledged {event : Event} (silent : event.question? = none) :
    Concludes (acknowledged event) where
  failed := by
    rintro ⟨_, after⟩ fault ⟨⟩
    exact ⟨rfl, rfl⟩
  questions := by
    rintro ⟨_ | _, after⟩
    · rfl
    · exact questions_silent after silent
  decisions := by rintro ⟨_ | _, after⟩ <;> rfl
  clauses := by rintro ⟨_ | _, after⟩ <;> rfl
  highest := by rintro ⟨_ | _, after⟩ <;> rfl

/-- Requests are interruptible, each for the reason that its own operation is: additions ask once
at most, queries run inquiries, and the rest asks nothing. -/
theorem Request.interruptible_perform (lawful : oracle.Lawful) (coherent : base.Coherent)
    (limited : base.limits.isLimited = true) (request : Request) :
    ∃ asked, Interruptible oracle base (fun oracle => request.perform oracle base) asked := by
  cases request with
  | tellFact literal =>
    obtain ⟨asked, interruptible⟩ := interruptible_add oracle limited (Clause.unit literal)
    simp only [perform, tellFact_silent]
    exact ⟨asked, interruptible.conclude (concludes_acknowledged rfl)⟩
  | tell clause =>
    obtain ⟨asked, interruptible⟩ := interruptible_add oracle limited clause
    simp only [perform, tell_silent]
    exact ⟨asked, interruptible.conclude (concludes_acknowledged rfl)⟩
  | inquire query =>
    exact interruptible_run lawful coherent limited (query.modest_inquiry base.highest)
  | close =>
    have counted : base.close.decisions = base.decisions := close_decisions base
    exact ⟨[], interruptible_nil (questions_close base) (Or.inl counted) fun _ => rfl⟩
  | enter => exact ⟨[], interruptible_nil rfl (Or.inl rfl) fun _ => rfl⟩
  | describe => exact ⟨[], interruptible_nil rfl (Or.inl rfl) fun _ => rfl⟩
  | listing => exact ⟨[], interruptible_nil rfl (Or.inl rfl) fun _ => rfl⟩

/-- A malformed call asks nothing, and any other asks what its request asks. -/
theorem Call.interruptible_perform (lawful : oracle.Lawful) (coherent : base.Coherent)
    (limited : base.limits.isLimited = true) (call : Call) :
    ∃ asked, Interruptible oracle base (fun oracle => call.perform oracle base) asked := by
  cases read : call.read with
  | error fault =>
    have refused (oracle : Oracle) : call.perform oracle base = (.error fault, base) := by
      rw [perform, read]
    simp only [refused]
    exact ⟨[], interruptible_nil rfl (Or.inl rfl) fun _ => rfl⟩
  | ok request =>
    have carriedOut (oracle : Oracle) : call.perform oracle base = request.perform oracle base := by
      rw [perform, read]
    simp only [carriedOut]
    exact request.interruptible_perform lawful coherent limited

/-- Once its arguments are read, a call fails for want of a model or because a decision was
not made. -/
theorem Call.failed_of_read (lawful : oracle.Lawful) (coherent : base.Coherent) {call : Call}
    {request : Request} {fault : Fault} (read : call.read = .ok request)
    (failed : (call.perform oracle base).1 = .error fault) :
    (∃ blamed, fault = .contradiction blamed) ∨ base.Declines fault := by
  cases adds : call.added? with
  | some clause =>
    rcases call.failed_perform lawful coherent adds failed with ⟨blamed, _⟩ | declines
    · exact Or.inl ⟨some clause, blamed⟩
    · exact Or.inr declines
  | none =>
    unfold added? at adds
    unfold perform at failed
    rw [read] at adds failed
    cases request with
    | tellFact literal => cases adds
    | tell clause => cases adds
    | inquire query =>
      exact Or.inr ((query.conducted_perform lawful coherent).declined fault failed)
    | close => cases failed
    | enter => cases failed
    | describe => cases failed
    | listing => cases failed

/-- A call fails for a malformed argument, for want of a model, or because a decision was
not made. -/
theorem Call.perform_failed (lawful : oracle.Lawful) (coherent : base.Coherent) {call : Call}
    {fault : Fault} (failed : (call.perform oracle base).1 = .error fault) :
    fault.Malformed ∨ (∃ blamed, fault = .contradiction blamed) ∨ base.Declines fault := by
  cases read : call.read with
  | error unread =>
    rw [perform, read] at failed
    obtain ⟨⟩ := failed
    exact Or.inl (call.careful_read fault read)
  | ok request => exact Or.inr (call.failed_of_read lawful coherent read failed)

/-- On an open rule base whose limit can be counted, the class of the error tells whose fault
it was: a call that fails is refused by the rule base exactly if its arguments could be read,
and otherwise it was given a wrong value or a value of the wrong kind. -/
theorem Call.refused_iff_read (lawful : oracle.Lawful) (coherent : base.Coherent)
    (isOpen : base.isOpen = true) (countable : base.limits.isCountable = true) {call : Call}
    {fault : Fault} (failed : (call.perform oracle base).1 = .error fault) :
    fault.errorClass.isRefusal = true ↔ ∃ request, call.read = .ok request := by
  cases read : call.read with
  | error unread =>
    rw [perform, read] at failed
    obtain ⟨⟩ := failed
    have malformed : fault.Malformed := call.careful_read fault read
    rcases malformed.errorClass with wrong | wrong <;> simp [wrong, ErrorClass.isRefusal]
  | ok request =>
    refine iff_of_true ?_ ⟨request, rfl⟩
    rcases call.failed_of_read lawful coherent read failed with ⟨blamed, rfl⟩ | declines
    · rfl
    · obtain ⟨assumptions, rfl⟩ := declines.of_countable isOpen countable
      rfl

/-- Only under limits is it a reason to decline that a decision gives up. -/
theorem RuleBase.limited_of_declines {assumptions : List Literal} {limits : Limits}
    (declines : base.Declines (.gaveUp assumptions limits)) : base.limits.isLimited = true := by
  cases declines with
  | gaveUp _ limited => exact limited

/-- Exhaustion, for every operation on every rule base that a run led to. Under limits,
every call and every construction is interruptible: if the oracle lasts for all decisions
of the full run, the outcome is the same in every respect; if it gives up earlier, the
outcome is the failure of the first decision that was not made, the decisions so far are
counted, trust is as it was, and the clauses are those that the full run stores. The full
run may be served by any lawful oracle, one that never gives up among them. Without limits
no call and no construction fails by giving up. -/
theorem interrupted_only_where_exhausted {oracle : Oracle} (lawful : oracle.Lawful) :
    (∀ (base : RuleBase) (call : Call), Reachable base → base.limits.isLimited = true →
      ∃ asked, Interruptible oracle base (fun oracle => call.perform oracle base) asked) ∧
    (∀ backend limits batch, limits.isLimited = true →
      ∃ asked, Interruptible oracle (RuleBase.empty backend limits)
        (fun oracle => RuleBase.create oracle backend limits batch) asked) ∧
    (∀ (base : RuleBase) (call : Call) assumptions limits, Reachable base →
      base.limits.isLimited = false →
        (call.perform oracle base).1 ≠ .error (.gaveUp assumptions limits)) ∧
    (∀ backend limits given assumptions named, limits.isLimited = false →
      (RuleBase.create oracle backend limits (Argument.batch given)).1 ≠
        .error (.gaveUp assumptions named)) := by
  refine ⟨?_, ?_, ?_, ?_⟩
  · intro base call reachable limited
    exact call.interruptible_perform lawful reachable.coherent limited
  · intro backend limits batch limited
    exact interruptible_create oracle limited backend batch
  · intro base call assumptions limits reachable unlimited gaveUp
    rcases call.perform_failed lawful reachable.coherent gaveUp with malformed | ⟨_, ⟨⟩⟩ | declines
    · exact malformed
    · rw [limited_of_declines declines] at unlimited
      cases unlimited
  · intro backend limits given assumptions named unlimited gaveUp
    rcases create_failed lawful gaveUp with unread | ⟨⟨_, ⟨⟩⟩, _⟩ | declines
    · exact Argument.careful_batch unread _ rfl
    · have limited : limits.isLimited = true := limited_of_declines declines
      rw [limited] at unlimited
      cases unlimited

/-- A survey of the closed chain is cut off after eleven decisions. It was about to ask
whether variable 2 can be false, having found that variable 1 entails it, and it reports
neither that nor the backbone, which was complete by then. -/
theorem mirrored_survey_interrupted :
    Oracle.search.Lawful ∧ Reachable mirrored ∧ mirrored.limits.isLimited = true ∧
      (Call.survey.perform (Oracle.search.exhaustedFrom (mirrored.decisions + 11)) mirrored).1 =
        .error (.gaveUp [⟨⟨2, by decide⟩, false⟩] mirrored.limits) := by
  have limited : mirrored.limits.isLimited = true := by cbv
  refine ⟨Oracle.search_lawful, mirrored_reachable, limited, ?_⟩
  obtain ⟨asked, interruptible⟩ := (interrupted_only_where_exhausted Oracle.search_lawful).1
    mirrored .survey mirrored_reachable limited
  have before : mirrored.questions.length = 2 := by cbv
  have twelfth : (Call.survey.perform .search mirrored).2.questions[13]? =
      some (.assuming [⟨⟨2, by decide⟩, false⟩]) := by cbv
  rw [interruptible.recorded, List.getElem?_append_right (by rw [before]; decide),
    before] at twelfth
  obtain ⟨beyond, question⟩ := List.getElem?_eq_some_iff.mp twelfth
  have cut := (interruptible.interrupted 11 beyond).fault
  rwa [question] at cut

end Clausal
