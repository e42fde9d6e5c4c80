import AdmissionControl.Main
import AdmissionControl.RateLimit.ScriptedStore
import AdmissionControl.Server.Respond
import AdmissionControl.Server.Sample
import AdmissionControl.Settings.Encode
import AdmissionControl.Time.Deadline
import AdmissionControl.Json.Parser
import AdmissionControl.Proofs.Breaker.Deadline
import AdmissionControl.Proofs.Breaker.History
import AdmissionControl.Proofs.Shared.Budget
import AdmissionControl.Proofs.Shared.Cooldown
import AdmissionControl.Proofs.Window.Callers
import AdmissionControl.Proofs.Window.Minutes
import AdmissionControl.Proofs.Shared.Overlap
import AdmissionControl.Proofs.BodyGuard.Observed
import AdmissionControl.Proofs.BodyGuard.Reads
import AdmissionControl.Proofs.BodyGuard.Declared
import AdmissionControl.Proofs.Server.Overflow
import AdmissionControl.Proofs.Server.Stages
import AdmissionControl.Proofs.Server.TurnedAway
import AdmissionControl.Proofs.Server.Unprotected
import AdmissionControl.Proofs.Shared.Agreement
import AdmissionControl.Proofs.Shared.Crowd
import AdmissionControl.Proofs.Shared.Expiry
import AdmissionControl.Proofs.Json.RoundTrip
import AdmissionControl.Proofs.Server.Rendered
import AdmissionControl.Proofs.Server.Contents
import AdmissionControl.Proofs.Server.Leaving
import AdmissionControl.Proofs.Server.Origin
import AdmissionControl.Proofs.Identity.Accepted
import AdmissionControl.Proofs.Server.Named
import AdmissionControl.Proofs.Server.Outage
import AdmissionControl.Proofs.Server.Tally
import AdmissionControl.Proofs.Server.Ruling
import AdmissionControl.Proofs.Server.Accounts
import AdmissionControl.Proofs.Server.Plain
import AdmissionControl.Proofs.Shared.Healing
import AdmissionControl.Proofs.Server.Forwarding
import AdmissionControl.Proofs.Server.Credentials
import AdmissionControl.Proofs.Server.Probes
import AdmissionControl.Proofs.Server.Oversized
import AdmissionControl.Proofs.Settings.Construction
import AdmissionControl.Proofs.Settings.Problems
import AdmissionControl.Proofs.BodyGuard.Evidence
import AdmissionControl.Proofs.Shared.Protocol
import AdmissionControl.Proofs.Identity.Canonical
import AdmissionControl.Proofs.Window.Denials
import AdmissionControl.Proofs.Window.Memory
import AdmissionControl.Proofs.Identity.Supplied
import AdmissionControl.Proofs.Text.Words
import AdmissionControl.Proofs.Access.Scopes
import AdmissionControl.Proofs.Net.Blocks
import AdmissionControl.Proofs.Identity.Networks
import AdmissionControl.Proofs.BodyGuard.Unbounded
import AdmissionControl.Proofs.Settings.RoundTrip
import AdmissionControl.Proofs.Shared.Apart
