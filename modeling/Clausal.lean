import Clausal.Grouping.Loose
import Clausal.Oracle.Branching
import Clausal.Release
import Clausal.Report
import Clausal.Workspace
import Clausal.Proofs.Models
import Clausal.Proofs.Truthful
import Clausal.Proofs.Coherence
import Clausal.Proofs.Additions
import Clausal.Proofs.Runs
import Clausal.Proofs.SatisfiabilityPaths
import Clausal.Proofs.Trust
import Clausal.Proofs.Finders
import Clausal.Proofs.AgreementScan
import Clausal.Proofs.Grouping
import Clausal.Proofs.Partition
import Clausal.Proofs.AgreementClasses
import Clausal.Proofs.Reading
import Clausal.Proofs.WellFormed
import Clausal.Proofs.PlainInquiries
import Clausal.Proofs.Construction
import Clausal.Proofs.Records
import Clausal.Proofs.Interruptions
import Clausal.Proofs.Exhaustion
import Clausal.Proofs.Surveys
import Clausal.Proofs.Responsive
import Clausal.Proofs.Equivalence
import Clausal.Proofs.Routes
import Clausal.Proofs.Findings
import Clausal.Proofs.Refinement
import Clausal.Proofs.Knowledge
import Clausal.Proofs.Trails
import Clausal.Proofs.AuditTrail
import Clausal.Proofs.Frame
import Clausal.Proofs.Closing
import Clausal.Proofs.Certainty
import Clausal.Proofs.Twins
import Clausal.Proofs.Invisibility
import Clausal.Proofs.Obstacles
import Clausal.Proofs.Verdicts
import Clausal.Proofs.Denials
import Clausal.Proofs.SurveyCost
import Clausal.Proofs.ForcedLiterals
import Clausal.Proofs.EntailmentLaws
import Clausal.Proofs.FoundModels
import Clausal.Proofs.Sorting
import Clausal.Proofs.WholePairs
import Clausal.Proofs.RoundTrip
import Clausal.Proofs.Arrivals
