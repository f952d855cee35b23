import Lookout.Main
import Lookout.Proofs.Text.Apart
import Lookout.Proofs.Redaction.UrlPassword
import Lookout.Proofs.Redaction.Url
import Lookout.Proofs.Redaction.Mask
import Lookout.Proofs.Redaction.Bridge
import Lookout.Proofs.Redaction.Hiding
import Lookout.Proofs.Activity.Run
import Lookout.Proofs.Redaction.Idempotence
import Lookout.Proofs.Redaction.Userinfo
import Lookout.Proofs.Worker.Execution
import Lookout.Proofs.Worker.Disclosure
import Lookout.Proofs.Queue.Traffic
import Lookout.Proofs.Activity.Course
import Lookout.Proofs.Simulation.History
import Lookout.Proofs.Worker.Oracle
import Lookout.Proofs.Worker.Jobs
import Lookout.Proofs.Worker.ExactlyOnce
import Lookout.Proofs.Simulation.Shutdown
import Lookout.Proofs.JobLine.Reading
import Lookout.Proofs.Redaction.Clauses
import Lookout.Proofs.Simulation.Schedule
import Lookout.Proofs.Queue.Receipts
import Lookout.Proofs.Enqueue.Pushing
import Lookout.Proofs.Json.Numerals
import Lookout.Proofs.Json.Objects
import Lookout.Proofs.Router.Agreement
import Lookout.Proofs.Destination.Spelling
import Lookout.Proofs.Destination.Rereading
import Lookout.Proofs.ResultMessage.Reading
import Lookout.Proofs.JobLine.Grammar
import Lookout.Proofs.JobLine.Answers
import Lookout.Proofs.Resolver.Kept
import Lookout.Proofs.Worker.Retrying
import Lookout.Proofs.Worker.Refusals
import Lookout.Proofs.Configuration.Saved
import Lookout.Proofs.Probe.Reaching
import Lookout.Proofs.Redaction.Words
import Lookout.Proofs.DomainName.Ascii
import Lookout.Proofs.Address.Literals
import Lookout.Proofs.Url.Hosts
import Lookout.Proofs.Url.Alone
import Lookout.Proofs.Probe.BareHosts
import Lookout.Proofs.Redaction.Untouched
import Lookout.Proofs.Url.Percent
import Lookout.Proofs.Url.Paths
import Lookout.Proofs.Redis.Login
import Lookout.Proofs.Url.Extended
import Lookout.Proofs.Probe.Services
import Lookout.Proofs.Kube.Selection
import Lookout.Proofs.Redaction.Fragments
import Lookout.Proofs.JobLine.Renderings
import Lookout.Proofs.Text.Meaning
import Lookout.Proofs.Probe.Numbers
import Lookout.Proofs.Json.Wholes
import Lookout.Proofs.ResultMessage.Times
