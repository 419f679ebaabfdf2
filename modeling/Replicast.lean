import Replicast.Header.Map
import Replicast.Time.Instant
import Replicast.Quorum.Threshold
import Replicast.Target
import Replicast.Client.Config
import Replicast.Json.Writer
import Replicast.Json.Error
import Replicast.Json.Reader
import Replicast.Text.Chars
import Replicast.Url.Percent
import Replicast.Url.Form
import Replicast.Url.Ipv4
import Replicast.Url.Ipv6
import Replicast.Url.Idna.Punycode
import Replicast.Url.Idna.Mapping
import Replicast.Url.Idna.Classes
import Replicast.Url.Idna.Composition
import Replicast.Url.Parser
import Replicast.Uri.Resolve
import Replicast.Error.Basic
import Replicast.Text.Excerpt
import Replicast.Transport.Failure
import Replicast.Body.Request
import Replicast.Body.Bounded
import Replicast.Outcome.Handler
import Replicast.Client.Builder
import Replicast.Text.Utf8
import Replicast.Text.Quoted
import Replicast.Log
import Replicast.Metrics
import Replicast.Operation
import Replicast.Quorum.Report
import Replicast.Batch.Worker
import Replicast.Engine
import Replicast.Client.Rule
import Replicast.Simulation.Basic
import Replicast.Simulation.Session
import Replicast.Proofs.Engine.Share
import Replicast.Proofs.Engine.Newborn
import Replicast.Proofs.Engine.Position
import Replicast.Proofs.Ledger
import Replicast.Proofs.Delivery
import Replicast.Proofs.Consumption
import Replicast.Proofs.Interruption
import Replicast.Proofs.RetryLoop
import Replicast.Proofs.Counters
import Replicast.Proofs.Conservation
import Replicast.Proofs.Replication
import Replicast.Proofs.Intersection
import Replicast.Proofs.Independence.Agenda
import Replicast.Proofs.Independence.Stand
import Replicast.Proofs.Independence.Undisturbed
import Replicast.Proofs.Independence.Course
import Replicast.Proofs.Independence
import Replicast.Proofs.Attempts
import Replicast.Proofs.Promptness
import Replicast.Proofs.Settling
import Replicast.Proofs.Agreement.Supply
import Replicast.Proofs.Agreement.Course
import Replicast.Proofs.Agreement
import Replicast.Proofs.Engine.Origin
import Replicast.Proofs.Requests
import Replicast.Proofs.Outcomes
import Replicast.Proofs.Reasons
import Replicast.Proofs.Release
import Replicast.Proofs.Carriage
import Replicast.Proofs.Redaction
import Replicast.Proofs.Redaction.Userinfo
import Replicast.Proofs.Secrecy
import Replicast.Proofs.Verdicts
import Replicast.Proofs.FirstSuccess
import Replicast.Proofs.Form
import Replicast.Proofs.QueryPairs.Parts
import Replicast.Proofs.QueryPairs
import Replicast.Proofs.Settings
import Replicast.Proofs.Limits
import Replicast.Proofs.Headers
import Replicast.Proofs.Joining
import Replicast.Proofs.Hosts.Blanks
import Replicast.Proofs.Hosts.Sites
import Replicast.Proofs.Hosts
import Replicast.Proofs.Reading.Course
import Replicast.Proofs.Reading
import Replicast.Proofs.Lengths.Decimal
import Replicast.Proofs.Lengths.Faults
import Replicast.Proofs.Lengths
import Replicast.Proofs.Causes
import Replicast.Proofs.Thresholds
import Replicast.Proofs.Deadlines
