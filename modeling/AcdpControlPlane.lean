import AcdpControlPlane.Inclusion.Audit
import AcdpControlPlane.Ingest.Dedup
import AcdpControlPlane.Ingest.Lifecycle
import AcdpControlPlane.Ingest.Redelivery
import AcdpControlPlane.Auth.LedgerReplicas
import AcdpControlPlane.Auth.DenyList
import AcdpControlPlane.Lock.Release
import AcdpControlPlane.Receipt.Claimed
import AcdpControlPlane.Receipt.Signer
import AcdpControlPlane.Witness.Alerts
import AcdpControlPlane.Witness.Growth
import AcdpControlPlane.Witness.Honest
import AcdpControlPlane.Revocation.Retry
import AcdpControlPlane.Revocation.Suppress
import AcdpControlPlane.Cosign.Counts
import AcdpControlPlane.Cosign.RoundTrip
import AcdpControlPlane.Contexts.Relay
import AcdpControlPlane.Retention.Purge
import AcdpControlPlane.Auth.Confinement
import AcdpControlPlane.Events.RedisHub
import AcdpControlPlane.Shutdown.Ends
import AcdpControlPlane.Policy.Caching
import AcdpControlPlane.Ingest.Transitions
import AcdpControlPlane.Ingest.Fingerprint
import AcdpControlPlane.Ingest.Runs
import AcdpControlPlane.Auth.PostgresFeed
import AcdpControlPlane.Auth.ClaimRules
import AcdpControlPlane.Auth.PinnedDirectory
import AcdpControlPlane.Auth.LedgerTamper
import AcdpControlPlane.Auth.IssueToken
import AcdpControlPlane.Webhook.Retries
import AcdpControlPlane.Policy.Opa
import AcdpControlPlane.Auth.Jwks
import AcdpControlPlane.Events.RunFeeds
import AcdpControlPlane.Events.Sse
import AcdpControlPlane.Health.Readiness
import AcdpControlPlane.Receipt.TrustClass
import AcdpControlPlane.Common.MultibaseRoundTrip
import AcdpControlPlane.Retention.Cosignatures
import AcdpControlPlane.Quota.Store
import AcdpControlPlane.Ingest.JsonDepth
import AcdpControlPlane.Contexts.SafeFetch
