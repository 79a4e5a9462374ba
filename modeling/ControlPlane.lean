import ControlPlane.Config.Json
import ControlPlane.Config.Yaml
import ControlPlane.Router.Report
import ControlPlane.Tracing.Components
import ControlPlane.View.Routing
import ControlPlane.Proofs.Accounting
import ControlPlane.Proofs.ConfigData
import ControlPlane.Proofs.Gateway
import ControlPlane.Proofs.Idempotence
import ControlPlane.Proofs.InPlace
import ControlPlane.Proofs.Journal
import ControlPlane.Proofs.KernelMatch
import ControlPlane.Proofs.LongestMatch
import ControlPlane.Proofs.Memoryless
import ControlPlane.Proofs.Netlink
import ControlPlane.Proofs.NetworkLibrary
import ControlPlane.Proofs.OriginReplacement
import ControlPlane.Proofs.Prefix
import ControlPlane.Proofs.Resync
import ControlPlane.Proofs.Router.AdmissionPaths
import ControlPlane.Proofs.Router.Chronicle
import ControlPlane.Proofs.Router.Connected
import ControlPlane.Proofs.Router.DeclarationOrder
import ControlPlane.Proofs.Router.Election
import ControlPlane.Proofs.Router.Failures
import ControlPlane.Proofs.Router.Flap
import ControlPlane.Proofs.Router.Integrity
import ControlPlane.Proofs.Router.Isolation
import ControlPlane.Proofs.Router.OfConfig
import ControlPlane.Proofs.Router.PathLimit
import ControlPlane.Proofs.Router.Removal
import ControlPlane.Proofs.Router.RoutingOff
import ControlPlane.Proofs.Router.SelfRouting
import ControlPlane.Proofs.StaticHistory
import ControlPlane.Proofs.StaticRouteText
import ControlPlane.Proofs.Tracing.ConfigText
import ControlPlane.Proofs.Tracing.Library
import ControlPlane.Proofs.Usability
