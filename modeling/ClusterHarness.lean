import ClusterHarness.Suite
import ClusterHarness.Proofs.Cluster.SettingsScope
import ClusterHarness.Proofs.Ingestion.LaggingCluster
import ClusterHarness.Proofs.Cluster.RollBack
import ClusterHarness.Proofs.Http.Refusal
import ClusterHarness.Proofs.Ingestion.PollingDecision
import ClusterHarness.Proofs.Ingestion.BulkLines
import ClusterHarness.Proofs.Settings.Scheme
import ClusterHarness.Proofs.Http.Warnings
import ClusterHarness.Proofs.Cluster.Wiping
import ClusterHarness.Proofs.Time.Calendar
import ClusterHarness.Proofs.Time.Civil
import ClusterHarness.Proofs.Number.Numeral
import ClusterHarness.Proofs.Time.IsoReading
import ClusterHarness.Proofs.Time.Millis
import ClusterHarness.Proofs.Time.Offsets
import ClusterHarness.Proofs.Time.Forms
import ClusterHarness.Proofs.Time.Shifts
import ClusterHarness.Proofs.Ingestion.FixtureFaults
import ClusterHarness.Proofs.Ingestion.TrainTime
import ClusterHarness.Proofs.Http.ErrorBody
import ClusterHarness.Proofs.Http.ErrorType
import ClusterHarness.Proofs.Http.Headers
import ClusterHarness.Proofs.Text.LowerCase
import ClusterHarness.Proofs.Time.LongTexts
import ClusterHarness.Proofs.Time.TimeValues
import ClusterHarness.Proofs.Settings.TimeoutErrors
import ClusterHarness.Proofs.Files.PathText
import ClusterHarness.Proofs.Json.SortedKeys
import ClusterHarness.Proofs.Settings.NormalForm
import ClusterHarness.Proofs.Settings.Stability
import ClusterHarness.Proofs.Security.Chain
import ClusterHarness.Proofs.Number.Bounds
import ClusterHarness.Proofs.Security.Expiry
import ClusterHarness.Proofs.Security.Authorities
import ClusterHarness.Proofs.Security.Context
import ClusterHarness.Proofs.Settings.Addresses
import ClusterHarness.Proofs.Detector.Orderings
import ClusterHarness.Proofs.Cluster.Acknowledgement
import ClusterHarness.Proofs.Settings.Password
import ClusterHarness.Proofs.Cluster.ListingRoundTrip
