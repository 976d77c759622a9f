import PbxTemplates.Command.Arguments
import PbxTemplates.Command.Error
import PbxTemplates.Command.Run
import PbxTemplates.Document.Form
import PbxTemplates.Document.Node
import PbxTemplates.Document.Record
import PbxTemplates.Document.Tagged
import PbxTemplates.Dump
import PbxTemplates.Dump.Form
import PbxTemplates.Dump.Format
import PbxTemplates.Endpoint.Basic
import PbxTemplates.Endpoint.Catalog
import PbxTemplates.Endpoint.Finish
import PbxTemplates.Endpoint.Form
import PbxTemplates.Endpoint.Record
import PbxTemplates.Files.Path
import PbxTemplates.Files.System
import PbxTemplates.FunctionKey.Basic
import PbxTemplates.FunctionKey.Form
import PbxTemplates.FunctionKey.Listing
import PbxTemplates.FunctionKey.Position
import PbxTemplates.Json.Basic
import PbxTemplates.Json.Printer
import PbxTemplates.Json.Reader
import PbxTemplates.Json.Text
import PbxTemplates.Main
import PbxTemplates.Owner.Basic
import PbxTemplates.Owner.Form
import PbxTemplates.Owner.Injection
import PbxTemplates.Resolution.Basic
import PbxTemplates.Resolution.Error
import PbxTemplates.Resolution.Owners
import PbxTemplates.Resolution.Report
import PbxTemplates.Resolution.Walk
import PbxTemplates.Section.Basic
import PbxTemplates.Section.Canonical
import PbxTemplates.Section.Form
import PbxTemplates.Section.Kind
import PbxTemplates.Settings.Basic
import PbxTemplates.Settings.Form
import PbxTemplates.SortedMap
import PbxTemplates.Tenant
import PbxTemplates.Tenant.Form
import PbxTemplates.Text.Decimal
import PbxTemplates.Text.Hex
import PbxTemplates.Text.Invisible
import PbxTemplates.Text.Magnitude
import PbxTemplates.Text.Mark
import PbxTemplates.Text.Ranges
import PbxTemplates.Text.Style
import PbxTemplates.Toml.Key
import PbxTemplates.Toml.Reader
import PbxTemplates.Toml.Scalar
import PbxTemplates.Toml.Space
import PbxTemplates.Toml.Text
import PbxTemplates.Toml.Tree
import PbxTemplates.Proofs.Catalog.Ancestry
import PbxTemplates.Proofs.Catalog.Inheritance
import PbxTemplates.Proofs.Resolution.BuildOrder
import PbxTemplates.Proofs.Resolution.WalkState
import PbxTemplates.Proofs.Resolution.OwnerTable
import PbxTemplates.Proofs.Resolution.Recursion
import PbxTemplates.Proofs.Resolution.Acceptance
import PbxTemplates.Proofs.Resolution.FlatMerge
import PbxTemplates.Proofs.Resolution.Dependence
import PbxTemplates.Proofs.Catalog.Fault
import PbxTemplates.Proofs.Resolution.Lineage
import PbxTemplates.Proofs.Resolution.Refusal
import PbxTemplates.Proofs.Resolution.Failure
import PbxTemplates.Proofs.Resolution.Cycle
import PbxTemplates.Proofs.Resolution.Inventory
import PbxTemplates.Proofs.Resolution.Declarations
import PbxTemplates.Proofs.Endpoint.References
import PbxTemplates.Proofs.Resolution.ClosestDefinition
import PbxTemplates.Proofs.Endpoint.SingleKeys
import PbxTemplates.Proofs.Endpoint.Precedence
import PbxTemplates.Proofs.Endpoint.ChannelVariables
import PbxTemplates.Proofs.Endpoint.CallerId
import PbxTemplates.Proofs.Resolution.WithoutWalk
import PbxTemplates.Proofs.Resolution.Locality
import PbxTemplates.Proofs.Resolution.ItemOrder
import PbxTemplates.Proofs.Json.RoundTrip
import PbxTemplates.Proofs.Document.Lawful
import PbxTemplates.Proofs.FunctionKey.Position
import PbxTemplates.Proofs.Dump.RoundTrip
import PbxTemplates.Proofs.SortedMap
import PbxTemplates.Proofs.Section.Form
import PbxTemplates.Proofs.Section.NormalForm
import PbxTemplates.Proofs.Json.OneLine
import PbxTemplates.Proofs.Json.Document
import PbxTemplates.Proofs.Resolution.Report
import PbxTemplates.Proofs.Files.Writing
import PbxTemplates.Proofs.Command.Effects
import PbxTemplates.Proofs.Catalog.Declaration
import PbxTemplates.Proofs.Dump.EndpointOrder
import PbxTemplates.Proofs.Dump.UserKeys
import PbxTemplates.Proofs.FunctionKey.Decoding
import PbxTemplates.Proofs.Section.Agreement
import PbxTemplates.Proofs.Endpoint.Agreement
import PbxTemplates.Proofs.Resolution.ExtraKeys
import PbxTemplates.Proofs.Owner.PickupGroups
import PbxTemplates.Proofs.FunctionKey.Listing
import PbxTemplates.Proofs.Toml.Reader
import PbxTemplates.Proofs.Settings.RoundTrip
import PbxTemplates.Proofs.Command.SavedSettings
import PbxTemplates.Proofs.Resolution.Run
import PbxTemplates.Proofs.Resolution.InStep
import PbxTemplates.Proofs.Resolution.VisitCount
