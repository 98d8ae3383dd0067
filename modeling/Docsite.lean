import Docsite.Check.Checker
import Docsite.Check.Report
import Docsite.CommandLine.Arguments
import Docsite.CommandLine.Failure
import Docsite.CommandLine.Help
import Docsite.CommandLine.Run
import Docsite.CommandLine.Scaffold
import Docsite.Config.Basic
import Docsite.Config.Error
import Docsite.Config.Export
import Docsite.Config.Format
import Docsite.Config.Links
import Docsite.Config.Policy
import Docsite.Config.Source
import Docsite.Config.Target
import Docsite.Config.Validate
import Docsite.Content.File
import Docsite.Content.Index
import Docsite.Content.Kind
import Docsite.Content.Tree
import Docsite.Declaration.Basic
import Docsite.Declaration.Dialect
import Docsite.Declaration.Reader
import Docsite.Frontmatter.Basic
import Docsite.Frontmatter.Reader
import Docsite.Json.Dialect
import Docsite.Json.Printer
import Docsite.Json.Reader
import Docsite.Json.Value
import Docsite.Main
import Docsite.Markdown.Block
import Docsite.Markdown.Container
import Docsite.Markdown.Definition
import Docsite.Markdown.Destination
import Docsite.Markdown.Entity
import Docsite.Markdown.Html
import Docsite.Markdown.Inline
import Docsite.Markdown.Label
import Docsite.Markdown.Line
import Docsite.Markdown.Link
import Docsite.Markdown.Table
import Docsite.Notice
import Docsite.Path
import Docsite.Proofs.Check.Enforcement
import Docsite.Proofs.Check.Growth
import Docsite.Proofs.Check.Reference
import Docsite.Proofs.Check.ServedRoutes
import Docsite.Proofs.Check.Verdict
import Docsite.Proofs.Config.Acceptance
import Docsite.Proofs.Config.Address
import Docsite.Proofs.Config.Export
import Docsite.Proofs.Config.Gives
import Docsite.Proofs.Config.Meaning
import Docsite.Proofs.Config.Navigation
import Docsite.Proofs.Config.Notices
import Docsite.Proofs.Config.Reload
import Docsite.Proofs.Config.Text
import Docsite.Proofs.Content.Discovery
import Docsite.Proofs.Content.Kind
import Docsite.Proofs.Content.Lookup
import Docsite.Proofs.Content.Routes
import Docsite.Proofs.Content.Sources
import Docsite.Proofs.Declaration.Attributes
import Docsite.Proofs.Declaration.Fields
import Docsite.Proofs.Frontmatter.Framing
import Docsite.Proofs.Json.RoundTrip
import Docsite.Proofs.List.Correspondence
import Docsite.Proofs.Path.Collapse
import Docsite.Proofs.Path.Names
import Docsite.Proofs.Route.Membership
import Docsite.Proofs.Route.Normal
import Docsite.Proofs.Storage.Disk
import Docsite.Proofs.Storage.Listing
import Docsite.Proofs.Text.ByteOrder
import Docsite.Proofs.Text.Cut
import Docsite.Proofs.Text.Percent
import Docsite.Proofs.Text.Trim
import Docsite.Proofs.Url.Authority
import Docsite.Proofs.Url.Host
import Docsite.Proofs.Url.Padding
import Docsite.Proofs.Url.Rooted
import Docsite.Proofs.Url.Segments
import Docsite.Route.Basic
import Docsite.Route.Content
import Docsite.Route.NumberPrefix
import Docsite.Route.Table
import Docsite.Storage.Basic
import Docsite.Storage.Disk
import Docsite.Text.Blank
import Docsite.Text.Compose
import Docsite.Text.Cut
import Docsite.Text.Digit
import Docsite.Text.Fold
import Docsite.Text.Hex
import Docsite.Text.Numeral
import Docsite.Text.Percent
import Docsite.Text.Ranges
import Docsite.Toml.Dialect
import Docsite.Toml.Number
import Docsite.Toml.Reader
import Docsite.Toml.Table
import Docsite.Toml.Text
import Docsite.Toml.Value
import Docsite.Url.Basic
import Docsite.Url.Domain
import Docsite.Url.Domain.Direction
import Docsite.Url.Domain.Joining
import Docsite.Url.Domain.Mapping
import Docsite.Url.Host
import Docsite.Url.Ipv4
import Docsite.Url.Ipv6
import Docsite.Url.Punycode
import Docsite.Url.Reader
import Docsite.Url.Segments
import Docsite.Yaml.Dialect
import Docsite.Yaml.Node
import Docsite.Yaml.Place
import Docsite.Yaml.Scalar
import Docsite.Yaml.Token
import Docsite.Proofs.Check.RootedLinks
import Docsite.Proofs.Config.Fails
import Docsite.Proofs.Config.Faults
import Docsite.Proofs.Markdown.Positions
import Docsite.Proofs.Markdown.Blank
import Docsite.Proofs.Frontmatter.Framed
import Docsite.Proofs.Content.FramedPages
import Docsite.Proofs.Content.Accounting
import Docsite.Proofs.Path.Relative
import Docsite.Proofs.Text.Encoded
import Docsite.Proofs.Check.RelativeReferences
import Docsite.Proofs.CommandLine.Task
import Docsite.Proofs.CommandLine.Export
import Docsite.Proofs.Storage.Writing
import Docsite.Proofs.Declaration.Sections
import Docsite.Proofs.Declaration.Found
import Docsite.Proofs.Declaration.Unknown
import Docsite.Proofs.Declaration.Extension
import Docsite.Proofs.Declaration.Overlooked
import Docsite.Proofs.Config.UnknownKeys
import Docsite.Proofs.Route.Through
import Docsite.Proofs.Route.Beside
import Docsite.Proofs.Route.Canonical
import Docsite.Proofs.Route.Plain
import Docsite.Proofs.Check.RelativeLinks
import Docsite.Proofs.Content.LinkLines
import Docsite.Proofs.Route.BaseUrl
import Docsite.Proofs.Path.Parent
import Docsite.Proofs.Config.StoredAddress
import Docsite.Proofs.Route.OrderingNumbers
import Docsite.Proofs.Text.Literal
import Docsite.Proofs.Route.StaticFiles
import Docsite.Proofs.Url.References
import Docsite.Proofs.Check.ExternalLinks
import Docsite.Proofs.Frontmatter.Recovery
import Docsite.Proofs.Storage.Following
import Docsite.Proofs.CommandLine.Init
import Docsite.Proofs.Storage.Ascending
import Docsite.Proofs.CommandLine.Scaffold
import Docsite.Proofs.CommandLine.FirstCheck
import Docsite.Proofs.Yaml.Gap
import Docsite.Proofs.Yaml.Scalar
import Docsite.Proofs.Yaml.Token
import Docsite.Proofs.Yaml.Step
import Docsite.Proofs.Yaml.Mapping
import Docsite.Proofs.Frontmatter.Indentation
import Docsite.Proofs.Route.NumberPrefix
import Docsite.Proofs.Route.Operations
import Docsite.Proofs.Path.Composition
import Docsite.Proofs.Route.Prefixing
