import ProxyRouting.Main
import ProxyRouting.Proofs.Bypass
import ProxyRouting.Proofs.Credentials
import ProxyRouting.Proofs.Destination.Selection
import ProxyRouting.Proofs.Destination.Uri
import ProxyRouting.Proofs.Gateway
import ProxyRouting.Proofs.Redaction.Parse
import ProxyRouting.Proofs.Routing
import ProxyRouting.Proofs.Text.Blank
import ProxyRouting.Proofs.Text.Cut
import ProxyRouting.Settings.Printer
import ProxyRouting.Proofs.Destination.Written
import ProxyRouting.Proofs.Url.Hierarchy
import ProxyRouting.Proofs.Environment
import ProxyRouting.Proofs.Gateway.Variables
import ProxyRouting.Proofs.Gateway.Separation
import ProxyRouting.Proofs.Json.Number
import ProxyRouting.Proofs.Json.Text
import ProxyRouting.Proofs.Settings.Written
import ProxyRouting.Proofs.Settings.RoundTrip
import ProxyRouting.Proofs.Secrecy.Gateway
import ProxyRouting.Proofs.Secrecy
import ProxyRouting.Proofs.CommandLine
import ProxyRouting.Proofs.Routing.Log
import ProxyRouting.Proofs.Routing.Append
import ProxyRouting.Proofs.Routing.Complement
import ProxyRouting.Proofs.Url.Authority
import ProxyRouting.Proofs.Url.Percent
import ProxyRouting.Proofs.ProxyVariable.Login
import ProxyRouting.Proofs.Text.Digit
import ProxyRouting.Proofs.Url.Ipv6
import ProxyRouting.Proofs.Url.Name
import ProxyRouting.Proofs.ProxyVariable.Written
import ProxyRouting.Proofs.ProxyVariable.RoundTrip
import ProxyRouting.Proofs.Rules.FirstFault
import ProxyRouting.Proofs.HostPattern.Slashes
import ProxyRouting.Proofs.HostPattern.Spelling
import ProxyRouting.Proofs.Url.Port
import ProxyRouting.Proofs.Url.Number
import ProxyRouting.Proofs.ProxyVariable.Port
import ProxyRouting.Proofs.ProxyVariable.DefaultPort
import ProxyRouting.Proofs.Url.Host
import ProxyRouting.Proofs.ProxyVariable.Outcome
import ProxyRouting.Proofs.Destination.SchemeCase
import ProxyRouting.Proofs.Text.Base64
import ProxyRouting.Proofs.Credentials.Authorization
import ProxyRouting.Proofs.Endpoint
import ProxyRouting.Proofs.Url.Domain
import ProxyRouting.Proofs.Url.Ipv4
import ProxyRouting.Proofs.ProxyVariable.Value
import ProxyRouting.Proofs.Json.Tree
import ProxyRouting.Proofs.Json.Literal
import ProxyRouting.Proofs.Json.Numeral
import ProxyRouting.Proofs.Settings.ByName
import ProxyRouting.Proofs.Settings.Entries
import ProxyRouting.Proofs.Settings.Sources
import ProxyRouting.Proofs.Redaction.Exact
