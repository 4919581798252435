import SplitTunnel.Text.Blank
import SplitTunnel.Text.Cut
import SplitTunnel.Text.Numeral
import SplitTunnel.Text.Quoted
import SplitTunnel.Text.Bytes
import SplitTunnel.Net.AddressSet.Text
import SplitTunnel.Net.InterfaceAddress
import SplitTunnel.Json.Printer
import SplitTunnel.Json.Reader
import SplitTunnel.Profile.Json
import SplitTunnel.Settings
import SplitTunnel.ServiceConfig
import SplitTunnel.Status
import SplitTunnel.Tunnel
import SplitTunnel.Controller
import SplitTunnel.Rehearsal.Engine
import SplitTunnel.Rehearsal.Journal
import SplitTunnel.Rehearsal.Strict
import SplitTunnel.Main
import SplitTunnel.Log.Session
import SplitTunnel.Text.Alphanumeric
import SplitTunnel.Text.Pattern
import SplitTunnel.Proofs.Net.Cover
import SplitTunnel.Proofs.Net.Arithmetic
import SplitTunnel.Proofs.Policy.Placeholder
import SplitTunnel.Proofs.Controller.Switch
import SplitTunnel.Proofs.Platform.Servers
import SplitTunnel.Proofs.Tunnel.Account
import SplitTunnel.Proofs.Tunnel.Readers
import SplitTunnel.Proofs.Controller.Engine
import SplitTunnel.Proofs.Controller.Requests
import SplitTunnel.Proofs.Controller.Handover
import SplitTunnel.Proofs.Tunnel.Failure
import SplitTunnel.Proofs.Tunnel.Replacement
import SplitTunnel.Proofs.Net.Canonical
import SplitTunnel.Proofs.Controller.Reports
import SplitTunnel.Proofs.Controller.Wakeups
import SplitTunnel.Proofs.Controller.Isolation
import SplitTunnel.Proofs.Flags
import SplitTunnel.Proofs.Settings
import SplitTunnel.Proofs.Json.Text
import SplitTunnel.Proofs.Profile.Json
import SplitTunnel.Proofs.Routeplan
import SplitTunnel.Proofs.Net.Algebra
import SplitTunnel.Proofs.Policy.Independence
import SplitTunnel.Proofs.Platform.Multicast
import SplitTunnel.Proofs.Net.Grammar
import SplitTunnel.Proofs.Drain.Tally
import SplitTunnel.Proofs.Tunnel.Rebuild
import SplitTunnel.Proofs.Tunnel.Scoping
import SplitTunnel.Proofs.Net.Laminar
import SplitTunnel.Proofs.Net.Word.Set
import SplitTunnel.Proofs.Net.Cutting
