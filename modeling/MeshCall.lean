import MeshCall.Call.Basic
import MeshCall.Call.Controller
import MeshCall.Call.Handlers
import MeshCall.Call.Loop
import MeshCall.Cli.Command
import MeshCall.Cli.Desk
import MeshCall.Cli.Start
import MeshCall.Cli.Usage
import MeshCall.Config.Csv
import MeshCall.Config.Dotenv
import MeshCall.Config.Duration
import MeshCall.Config.Flags
import MeshCall.Config.Layers
import MeshCall.Config.Load
import MeshCall.Config.Scalar
import MeshCall.Config.Setting
import MeshCall.Config.Toml
import MeshCall.Config.Toml.Syntax
import MeshCall.Config.Toml.Value
import MeshCall.Config.Toml.Keys
import MeshCall.Config.Yaml.Decode
import MeshCall.Config.Yaml.Write
import MeshCall.Config.Yaml.Parse
import MeshCall.Config.Yaml.Scan
import MeshCall.Config.Yaml.Timestamp
import MeshCall.Envelope.Basic
import MeshCall.Envelope.Wire
import MeshCall.Fault
import MeshCall.Json.Read
import MeshCall.Json.Value
import MeshCall.Json.Write
import MeshCall.Main
import MeshCall.Media.Capture
import MeshCall.Media.Disk
import MeshCall.Media.Ivf
import MeshCall.Media.Manager
import MeshCall.Media.Ogg
import MeshCall.Media.Stream
import MeshCall.Numeric.Decimal
import MeshCall.Numeric.Fixed
import MeshCall.Proofs.Tables
import MeshCall.Proofs.Reachable
import MeshCall.Proofs.Journal
import MeshCall.Proofs.Ledger
import MeshCall.Proofs.Negotiation.Sessions
import MeshCall.Proofs.Negotiation.Events
import MeshCall.Proofs.Connections.Sessions
import MeshCall.Proofs.Connections.Events
import MeshCall.Proofs.Connections
import MeshCall.Proofs.Negotiation
import MeshCall.Proofs.Ignored
import MeshCall.Proofs.Tracks.Shapes
import MeshCall.Proofs.Tracks.Sessions
import MeshCall.Proofs.Tracks.Events
import MeshCall.Proofs.Tracks
import MeshCall.Proofs.Envelopes
import MeshCall.Proofs.Retries.Steps
import MeshCall.Proofs.Retries
import MeshCall.Proofs.Pair.System
import MeshCall.Proofs.Pair.Protocol
import MeshCall.Proofs.Pair.Stages
import MeshCall.Peer.Basic
import MeshCall.Relay.Channel
import MeshCall.Relay.Url
import MeshCall.Roster.Terminal
import MeshCall.Roster.View
import MeshCall.Session.Registry
import MeshCall.Session.State
import MeshCall.Session.Tag
import MeshCall.Sim.Call
import MeshCall.Sim.Capture
import MeshCall.Sim.Media
import MeshCall.Sim.Meter
import MeshCall.Sim.Network
import MeshCall.Sim.Registry
import MeshCall.Sim.Store
import MeshCall.Speaking.Meter
import MeshCall.Speaking.Rtp
import MeshCall.Store.File
import MeshCall.Store.Saved
import MeshCall.Text.Base64
import MeshCall.Text.Hex
import MeshCall.Text.Printable
import MeshCall.Text.Quoted
import MeshCall.Text.Space
import MeshCall.Text.Utf8
import MeshCall.Text.Grapheme
import MeshCall.Text.Case
import MeshCall.Text.Width
import MeshCall.Traffic
import MeshCall.Proofs.Pair.Invariant
import MeshCall.Proofs.Pair
import MeshCall.Proofs.Microphone.Streams
import MeshCall.Proofs.Ending
import MeshCall.Proofs.Roster.Tiles
import MeshCall.Proofs.Roster.Events
import MeshCall.Proofs.Roster
import MeshCall.Proofs.Microphone.Shown
import MeshCall.Proofs.Microphone.Events
import MeshCall.Proofs.Microphone
import MeshCall.Proofs.SessionMap
import MeshCall.Proofs.Roster.Orphans
import MeshCall.Proofs.Roster.Speakers
import MeshCall.Proofs.Speaking
import MeshCall.Proofs.Codec.Utf8
import MeshCall.Proofs.Codec.Json
import MeshCall.Proofs.Codec.Envelope
import MeshCall.Proofs.Release
import MeshCall.Proofs.Playback.Pages
import MeshCall.Proofs.Playback.Looping
import MeshCall.Proofs.Playback.Rewind
import MeshCall.Proofs.Relay.Escapes
import MeshCall.Proofs.Relay.Reparse
import MeshCall.Proofs.Config.Layers
import MeshCall.Proofs.Config.Flags
import MeshCall.Proofs.Config.Precedence
