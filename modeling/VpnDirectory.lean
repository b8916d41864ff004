import VpnDirectory.Capability
import VpnDirectory.Clock
import VpnDirectory.Collection.Dictionary
import VpnDirectory.Collection.StringSet
import VpnDirectory.Command.Arguments
import VpnDirectory.Command.Report
import VpnDirectory.Directory.Basic
import VpnDirectory.Directory.Locations
import VpnDirectory.Directory.Order
import VpnDirectory.Directory.Selection
import VpnDirectory.Document.GatewayEntry
import VpnDirectory.Document.Lenient
import VpnDirectory.Document.Secrets
import VpnDirectory.Document.ServerOrder
import VpnDirectory.Document.Service
import VpnDirectory.Files
import VpnDirectory.Gateway
import VpnDirectory.Json.Error
import VpnDirectory.Json.Printer
import VpnDirectory.Json.Reader
import VpnDirectory.Json.Record
import VpnDirectory.Json.Token
import VpnDirectory.Json.Value
import VpnDirectory.Load
import VpnDirectory.Location
import VpnDirectory.Main
import VpnDirectory.Net.Address
import VpnDirectory.Net.Port
import VpnDirectory.Number.Binary64
import VpnDirectory.Number.Double
import VpnDirectory.Number.Layout
import VpnDirectory.Number.Numeral
import VpnDirectory.Number.Range
import VpnDirectory.Number.Scaling
import VpnDirectory.Number.Shortest
import VpnDirectory.Preferences.Basic
import VpnDirectory.Preferences.Json
import VpnDirectory.Preferences.Toml
import VpnDirectory.Proofs.Capability
import VpnDirectory.Proofs.Capability.Matrix
import VpnDirectory.Proofs.Clock
import VpnDirectory.Proofs.Collection.Choices
import VpnDirectory.Proofs.Collection.Dictionary
import VpnDirectory.Proofs.Collection.Distinct
import VpnDirectory.Proofs.Collection.Kept
import VpnDirectory.Proofs.Collection.Sorted
import VpnDirectory.Proofs.Directory.Agreement
import VpnDirectory.Proofs.Directory.Building
import VpnDirectory.Proofs.Directory.Construction
import VpnDirectory.Proofs.Directory.Entries
import VpnDirectory.Proofs.Directory.LocationLoad
import VpnDirectory.Proofs.Directory.Locations
import VpnDirectory.Proofs.Directory.Order
import VpnDirectory.Proofs.Directory.Position
import VpnDirectory.Proofs.Directory.Preferences
import VpnDirectory.Proofs.Directory.Ranking
import VpnDirectory.Proofs.Directory.Reach
import VpnDirectory.Proofs.Directory.Rearrangement
import VpnDirectory.Proofs.Directory.ReportedLoad
import VpnDirectory.Proofs.Directory.Representation
import VpnDirectory.Proofs.Directory.Selection
import VpnDirectory.Proofs.Directory.ServerOrder
import VpnDirectory.Proofs.Directory.SortedLocations
import VpnDirectory.Proofs.Document.ServerOrder
import VpnDirectory.Proofs.Document.Service
import VpnDirectory.Proofs.Document.Whole
import VpnDirectory.Proofs.Fallible
import VpnDirectory.Proofs.Gateway
import VpnDirectory.Proofs.Gateway.Preferences
import VpnDirectory.Proofs.Gateway.Spelling
import VpnDirectory.Proofs.Gateway.Transports
import VpnDirectory.Proofs.Json.Compact
import VpnDirectory.Proofs.Json.Fields
import VpnDirectory.Proofs.Json.Outline
import VpnDirectory.Proofs.Json.Record
import VpnDirectory.Proofs.Json.Replaced
import VpnDirectory.Proofs.Json.Tokens
import VpnDirectory.Proofs.Location
import VpnDirectory.Proofs.Location.Mean
import VpnDirectory.Proofs.Net.Address
import VpnDirectory.Proofs.Net.Port
import VpnDirectory.Proofs.Number.Integer
import VpnDirectory.Proofs.Number.Overflow
import VpnDirectory.Proofs.Number.Rounding
import VpnDirectory.Proofs.Number.TotalOrder
import VpnDirectory.Proofs.Preferences.Json
import VpnDirectory.Proofs.Preferences.Toml
import VpnDirectory.Proofs.Text.Lines
import VpnDirectory.Proofs.Text.Visible
import VpnDirectory.Proofs.Text.Words
import VpnDirectory.Proofs.Toml.Document
import VpnDirectory.Proofs.Toml.Quoted
import VpnDirectory.Proofs.Toml.Value
import VpnDirectory.Proofs.Tunnel.Advertised
import VpnDirectory.Proofs.Tunnel.Bridge
import VpnDirectory.Proofs.Tunnel.BridgeRoute
import VpnDirectory.Proofs.Tunnel.Chunks
import VpnDirectory.Proofs.Tunnel.Conversion
import VpnDirectory.Proofs.Tunnel.Faults
import VpnDirectory.Proofs.Tunnel.Interference
import VpnDirectory.Proofs.Tunnel.Obfuscation
import VpnDirectory.Proofs.Tunnel.Options
import VpnDirectory.Proofs.Tunnel.Reading
import VpnDirectory.Proofs.Tunnel.RemoteOrder
import VpnDirectory.Proofs.Tunnel.Rendering
import VpnDirectory.Proofs.Tunnel.Rereading
import VpnDirectory.Proofs.Tunnel.RoundTrip
import VpnDirectory.Proofs.Tunnel.UdpFirst
import VpnDirectory.Provider
import VpnDirectory.Text.Basic
import VpnDirectory.Text.Order
import VpnDirectory.Text.Printable
import VpnDirectory.Toml.Date
import VpnDirectory.Toml.Key
import VpnDirectory.Toml.Number
import VpnDirectory.Toml.Printer
import VpnDirectory.Toml.Quoted
import VpnDirectory.Toml.Reader
import VpnDirectory.Toml.Space
import VpnDirectory.Toml.Value
import VpnDirectory.Transport
import VpnDirectory.Tunnel.Blueprint
import VpnDirectory.Tunnel.Config
import VpnDirectory.Tunnel.Connection
import VpnDirectory.Tunnel.Error
import VpnDirectory.Tunnel.Profile
