import Failover.Simulation.Workload
import Failover.Simulation.Queue
import Failover.Journal.Log
import Failover.Journal.Metrics
import Failover.Proofs.Call.Budget
import Failover.Proofs.Call.Preferred
import Failover.Proofs.Call.Waits
import Failover.Proofs.Call.Answers
import Failover.Proofs.Call.Alone
import Failover.Proofs.Call.Permits
import Failover.Proofs.Call.Story
import Failover.Proofs.Call.Round
import Failover.Proofs.Call.Reports
import Failover.Proofs.Limiter.Waking
import Failover.Proofs.Limiter.Gauges
import Failover.Proofs.Journal.Metrics
import Failover.Proofs.Config.Check
import Failover.Proofs.Config.Accepted
import Failover.Proofs.Text.Numeral
import Failover.Proofs.Url.Path
import Failover.Proofs.Url.Ipv4
import Failover.Proofs.Url.Ipv6
import Failover.Proofs.Url.Host
import Failover.Proofs.Url.Authority
import Failover.Proofs.Url.Written
import Failover.Proofs.Url.Made
import Failover.Proofs.Url.Below
import Failover.Proofs.Endpoint.Redirect
import Failover.Proofs.Endpoint.Target
import Failover.Proofs.Endpoint.Ring
import Failover.Proofs.Endpoint.InPlace
import Failover.Proofs.Endpoint.Tour
import Failover.Proofs.Endpoint.Origins
import Failover.Proofs.Url.Front
import Failover.Proofs.Call.Destination
import Failover.Proofs.Config.Documented
import Failover.Proofs.Limiter.Envelope
import Failover.Proofs.Limiter.Summary
import Failover.Proofs.Limiter.Overload
import Failover.Proofs.Backoff
import Failover.Proofs.Http.RetryAfter
import Failover.Proofs.Limiter.Steady
import Failover.Proofs.Call.Keys
