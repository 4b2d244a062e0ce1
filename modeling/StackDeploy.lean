import StackDeploy.CommandLine.Simulation
import StackDeploy.Deployment.Simulation
import StackDeploy.Main
import StackDeploy.Manifest.Printer
import StackDeploy.Proofs.ChangeSet.Bookkeeping
import StackDeploy.Proofs.ChangeSet.Controller
import StackDeploy.Proofs.ChangeSet.Lifecycle
import StackDeploy.Proofs.ChangeSet.Polling
import StackDeploy.Proofs.Config.Precedence
import StackDeploy.Proofs.Deployment.Blame
import StackDeploy.Proofs.Deployment.Decision
import StackDeploy.Proofs.Deployment.Deletion
import StackDeploy.Proofs.Deployment.Ending
import StackDeploy.Proofs.Deployment.Review
import StackDeploy.Proofs.Deployment.Streaming
import StackDeploy.Proofs.Deployment.Submission
import StackDeploy.Proofs.Deployment.Vanishing
import StackDeploy.Proofs.Event.EachOnce
import StackDeploy.Proofs.Event.Repetition
import StackDeploy.Proofs.Event.Selection
import StackDeploy.Proofs.Progress.Enrichment
import StackDeploy.Proofs.Progress.Lookup
import StackDeploy.Proofs.Progress.Nesting
import StackDeploy.Proofs.Progress.Newest
import StackDeploy.Proofs.Progress.Origin
import StackDeploy.Proofs.Progress.Redraw
import StackDeploy.Proofs.Progress.Traversal
import StackDeploy.Proofs.Progress.Work
import StackDeploy.Proofs.Service.ChangeSets
import StackDeploy.Proofs.Service.History
import StackDeploy.Proofs.Service.Paging
import StackDeploy.Proofs.Service.Records
import StackDeploy.Proofs.Service.Routes
import StackDeploy.Proofs.Stream.Delivery
import StackDeploy.Proofs.Stream.Discovery
import StackDeploy.Proofs.Stream.Drain
import StackDeploy.Proofs.Stream.Retry
import StackDeploy.Proofs.Stream.Subscribers
import StackDeploy.Proofs.Template.Substitution
import StackDeploy.Service.Scripted
