import CommandBridge.Lifecycle
import CommandBridge.Wire.Envelope
import CommandBridge.Uuid
import CommandBridge.Conformance.Relation
import CommandBridge.Registry.Build
import CommandBridge.Dispatch
import CommandBridge.TypeScript.Module
import CommandBridge.TypeScript.Support
import CommandBridge.TypeScript.Install
import CommandBridge.Handler.Compose
import CommandBridge.Registry.Embed
import CommandBridge.Script.Application
import CommandBridge.Showcase.Registry
import CommandBridge.Events.Decoder
import CommandBridge.Config.Flags
import CommandBridge.Channel.Move
import CommandBridge.Socket.Move
import CommandBridge.Bridge.Visit
import CommandBridge.Http.Exchange
import CommandBridge.Http.EventBody
import CommandBridge.Bridge.Startup
import CommandBridge.Client.Basic
import CommandBridge.Proofs.Session.Line
import CommandBridge.Proofs.Bridge.Run
import CommandBridge.Proofs.Channel.Life
import CommandBridge.Proofs.Channel.Step
import CommandBridge.Proofs.Bridge.Channels
import CommandBridge.Proofs.Channel.Delivery
import CommandBridge.Proofs.Channel.Progress
import CommandBridge.Proofs.Bridge.Delivery
import CommandBridge.Proofs.Channel.Closing
import CommandBridge.Proofs.Bridge.Closing
import CommandBridge.Proofs.Schema.References
import CommandBridge.Proofs.Socket.Life
import CommandBridge.Proofs.Socket.Step
import CommandBridge.Proofs.Bridge.Connections
import CommandBridge.Proofs.Socket.Order
import CommandBridge.Proofs.Bridge.Callbacks
import CommandBridge.Proofs.Socket.Progress
import CommandBridge.Proofs.Socket.Ending
import CommandBridge.Proofs.Bridge.Ending
import CommandBridge.Proofs.Schema.Occurrence
import CommandBridge.Proofs.Schema.Collection
import CommandBridge.Proofs.Registry.Building
import CommandBridge.Proofs.Registry.WellFormed
import CommandBridge.Proofs.TypeScript.Expressible
import CommandBridge.Proofs.Registry.Generation
import CommandBridge.Proofs.Text.Utf8
import CommandBridge.Proofs.Events.Decoding
import CommandBridge.Proofs.Json.Numbers
import CommandBridge.Proofs.Json.Canonical
import CommandBridge.Proofs.Json.RoundTrip
import CommandBridge.Proofs.Json.Printable
import CommandBridge.Proofs.Wire.Messages
import CommandBridge.Proofs.Client.Stream
import CommandBridge.Proofs.Client.Values
import CommandBridge.Proofs.Bridge.Requests
import CommandBridge.Proofs.Twins.Related
import CommandBridge.Proofs.Twins.Handlers
import CommandBridge.Proofs.Twins.Channels
import CommandBridge.Proofs.Twins.Registries
import CommandBridge.Proofs.Twins.Connections
import CommandBridge.Proofs.Twins.Bridges
import CommandBridge.Proofs.Twins.Requests
import CommandBridge.Proofs.Twins.Disclosure
import CommandBridge.Proofs.Keyed
import CommandBridge.Proofs.Text.KeyCase
import CommandBridge.Proofs.Json.KeyCase
import CommandBridge.Proofs.Dispatch.Arguments
import CommandBridge.Proofs.Dispatch.KeyCase
import CommandBridge.Proofs.Conformance.Slots
import CommandBridge.Proofs.TypeScript.Properties
import CommandBridge.Proofs.Channel.History
import CommandBridge.Proofs.Channel.Table
import CommandBridge.Proofs.Channel.Phases
import CommandBridge.Proofs.Bridge.Table
import CommandBridge.Proofs.Bridge.Starting
import CommandBridge.Proofs.Bridge.Outcome
import CommandBridge.Proofs.Socket.Course
import CommandBridge.Proofs.Socket.Line
import CommandBridge.Proofs.Socket.Hooks
import CommandBridge.Proofs.Socket.Traffic
import CommandBridge.Proofs.Bridge.Course
import CommandBridge.Proofs.TypeScript.Outline
import CommandBridge.Proofs.TypeScript.Order
import CommandBridge.Proofs.TypeScript.Spelling
import CommandBridge.Proofs.Registry.Client
import CommandBridge.Proofs.TypeScript.Names
import CommandBridge.Proofs.Schema.Alike
import CommandBridge.Proofs.Registry.Reordering
import CommandBridge.Proofs.Session.Descent
import CommandBridge.Proofs.Channel.Origin
import CommandBridge.Proofs.Socket.Origin
import CommandBridge.Proofs.Bridge.Calls
import CommandBridge.Proofs.Bridge.Reloading
import CommandBridge.Proofs.Native.Described
import CommandBridge.Proofs.Bridge.Outbound
import CommandBridge.Proofs.Showcase.Outputs
import CommandBridge.Proofs.Conformance.Exactness
import CommandBridge.Proofs.Conformance.Nullability
import CommandBridge.Proofs.Conformance.Offences
import CommandBridge.Proofs.Files.Store
import CommandBridge.Proofs.Files.Tree
import CommandBridge.Files.Volume
import CommandBridge.Proofs.Files.Walks
import CommandBridge.Proofs.Files.Volume
import CommandBridge.Proofs.Files.Directories
import CommandBridge.Proofs.TypeScript.Staging
import CommandBridge.Proofs.TypeScript.Installation
import CommandBridge.Proofs.TypeScript.Placement
import CommandBridge.Proofs.TypeScript.Installed
import CommandBridge.Proofs.TypeScript.Grammar
import CommandBridge.Proofs.TypeScript.Meaning
import CommandBridge.Proofs.Client.ErrorEvents
import CommandBridge.Proofs.Showcase.Forest
import CommandBridge.Proofs.Showcase.TaskBoard
import CommandBridge.Proofs.Showcase.FailedCreation
import CommandBridge.Proofs.Channel.Unclosed
import CommandBridge.Proofs.Showcase.Updates
import CommandBridge.Proofs.Showcase.UpdatesTold
import CommandBridge.Proofs.Showcase.WeatherChannel
import CommandBridge.Proofs.Bridge.World
import CommandBridge.Proofs.Showcase.Room
import CommandBridge.Proofs.Showcase.Listeners
import CommandBridge.Proofs.Showcase.ChatDelivery
import CommandBridge.Proofs.Dispatch.Spellings
import CommandBridge.Proofs.Schema.Undocumented
import CommandBridge.Proofs.TypeScript.Comments
import CommandBridge.Proofs.TypeScript.Documentation
