import DesiredState.Collection
import DesiredState.Logging
import DesiredState.Value.Tagged
import DesiredState.Proofs.LastRecord
import DesiredState.Proofs.Script
import DesiredState.Proofs.AbortLaw
import DesiredState.Proofs.Row
import DesiredState.Proofs.Merging
import DesiredState.Proofs.Denotation
import DesiredState.Proofs.Equality
import DesiredState.Proofs.Replay
import DesiredState.Proofs.Agenda
import DesiredState.Proofs.Answers
import DesiredState.Proofs.Schedule
import DesiredState.Proofs.Attained
import DesiredState.Proofs.Convergence
import DesiredState.Proofs.Idempotence
import DesiredState.Proofs.Recovery
import DesiredState.Proofs.OrderIndependence
import DesiredState.Proofs.Forecast
import DesiredState.Proofs.Minimality
import DesiredState.Proofs.Identity
import DesiredState.Proofs.Imprint
import DesiredState.Proofs.FailurePoint
import DesiredState.Proofs.StaleRows
import DesiredState.Proofs.SinglePhases
import DesiredState.Proofs.Atomicity
import DesiredState.Proofs.Simulation
import DesiredState.Proofs.NonInterference
import DesiredState.Proofs.Journal
import DesiredState.Proofs.ByteOrder
import DesiredState.Proofs.Snapshot
import DesiredState.Proofs.Lifetime
import DesiredState.Proofs.Leniency
import DesiredState.Proofs.PairedKeys
import DesiredState.Proofs.NumberTrace
import DesiredState.Proofs.ReadBack
import DesiredState.Proofs.SlotWrites
import DesiredState.Proofs.Spelling
import DesiredState.Proofs.RoundTrip
import DesiredState.Proofs.Annotations
import DesiredState.Proofs.EventLog
