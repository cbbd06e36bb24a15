import ControlAssurance.Admission.Isolation
import ControlAssurance.Admission.TypedFailures
import ControlAssurance.Admission.Unused
import ControlAssurance.Benchmark.CorruptionAgreement
import ControlAssurance.Benchmark.IssueSuppression
import ControlAssurance.Benchmark.RecoveryPairs
import ControlAssurance.ControlPlane.DeploymentHistory
import ControlAssurance.ControlPlane.Noninterference
import ControlAssurance.Controls.MissingEvidence
import ControlAssurance.Execution.Adoption
import ControlAssurance.Experiment.Verdicts
import ControlAssurance.Incident.HistoryPin
import ControlAssurance.Incident.Independence
import ControlAssurance.Incident.Replacement
import ControlAssurance.Oidc.LoginCapacity
import ControlAssurance.Oidc.Logins
import ControlAssurance.Pam.ManagedRelease
import ControlAssurance.Pam.TokenClosure
import ControlAssurance.Reconciliation.InForce
import ControlAssurance.Runtime.Materialization
import ControlAssurance.Runtime.RunProtocol
import ControlAssurance.Runtime.Validity
import ControlAssurance.SiteEgress.Policies
