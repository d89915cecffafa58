import ChatConsole.Main
import ChatConsole.Screen.View
import ChatConsole.Proofs.Session.Outbound
import ChatConsole.Proofs.Session.Stale
import ChatConsole.Proofs.Session.Quiet
import ChatConsole.Proofs.Session.RoleChanges
import ChatConsole.Proofs.Session.Identity
import ChatConsole.Proofs.Console.Runs
import ChatConsole.Proofs.Screen.Newest
import ChatConsole.Proofs.Session.Chronicle
import ChatConsole.Proofs.Session.Retention
import ChatConsole.Proofs.Text.Utf8
import ChatConsole.Proofs.Url.Form
import ChatConsole.Proofs.Gateway.OpenRequests
import ChatConsole.Proofs.Session.Roles
import ChatConsole.Proofs.Config.Layers
import ChatConsole.Proofs.Config.Precedence
import ChatConsole.Proofs.Config.Delay
import ChatConsole.Proofs.Session.Endpoints
import ChatConsole.Proofs.Session.Lines
import ChatConsole.Proofs.Console.Transmission
import ChatConsole.Proofs.Session.Dispatch
import ChatConsole.Proofs.Envelope.Decoding
import ChatConsole.Proofs.Session.Mirrors
import ChatConsole.Proofs.Console.Grammar
import ChatConsole.Proofs.Console.Rejections
import ChatConsole.Proofs.Console.Typing
import ChatConsole.Proofs.Screen.Scrolling
import ChatConsole.Proofs.Screen.Entries
