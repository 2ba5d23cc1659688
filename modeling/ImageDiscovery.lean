import ImageDiscovery.Command.Arguments
import ImageDiscovery.Command.Basic
import ImageDiscovery.Command.Run
import ImageDiscovery.Command.Shell
import ImageDiscovery.Command.Status
import ImageDiscovery.Credentials.Basic
import ImageDiscovery.Credentials.Store
import ImageDiscovery.Digest.Sha256
import ImageDiscovery.Discovery.Error
import ImageDiscovery.Discovery.Options
import ImageDiscovery.Discovery.Pass
import ImageDiscovery.Discovery.Registry
import ImageDiscovery.Document.Decimal
import ImageDiscovery.Document.Dictionary
import ImageDiscovery.Document.Json.Reader
import ImageDiscovery.Document.Json.Writer
import ImageDiscovery.Document.Node
import ImageDiscovery.Document.Reading
import ImageDiscovery.Document.Yaml.Mark
import ImageDiscovery.Document.Yaml.Reader
import ImageDiscovery.Document.Yaml.Scalar
import ImageDiscovery.Document.Yaml.ScalarText
import ImageDiscovery.Document.Yaml.Writer
import ImageDiscovery.Freight.Basic
import ImageDiscovery.Freight.Index
import ImageDiscovery.Http.Message
import ImageDiscovery.Http.Redirect
import ImageDiscovery.Http.Script
import ImageDiscovery.Main
import ImageDiscovery.Net.DomainName
import ImageDiscovery.Net.Host
import ImageDiscovery.Net.Percent
import ImageDiscovery.Net.Url
import ImageDiscovery.Net.Url.Reader
import ImageDiscovery.Pattern.Basic
import ImageDiscovery.Pattern.CharSet
import ImageDiscovery.Pattern.Engine
import ImageDiscovery.Pattern.Reader
import ImageDiscovery.Proofs.Credentials.Search
import ImageDiscovery.Proofs.Discovery.Calls
import ImageDiscovery.Proofs.Discovery.Finding
import ImageDiscovery.Proofs.Discovery.History
import ImageDiscovery.Proofs.Discovery.Live
import ImageDiscovery.Proofs.Discovery.Repeat
import ImageDiscovery.Proofs.Discovery.Sight
import ImageDiscovery.Proofs.Discovery.Yard
import ImageDiscovery.Proofs.Document.Form
import ImageDiscovery.Proofs.Document.Lookup
import ImageDiscovery.Proofs.Document.Record
import ImageDiscovery.Proofs.Document.Stored
import ImageDiscovery.Proofs.Freight.Apart
import ImageDiscovery.Proofs.Freight.Index
import ImageDiscovery.Proofs.Freight.Map
import ImageDiscovery.Proofs.Journal
import ImageDiscovery.Proofs.Net.Origin
import ImageDiscovery.Proofs.Outcome
import ImageDiscovery.Proofs.Registry.Address
import ImageDiscovery.Proofs.Registry.Confined
import ImageDiscovery.Proofs.Registry.Contents
import ImageDiscovery.Proofs.Registry.Forms
import ImageDiscovery.Proofs.Registry.Kinds
import ImageDiscovery.Proofs.Registry.LinkHeader
import ImageDiscovery.Proofs.Registry.NextLink
import ImageDiscovery.Proofs.Registry.Pages
import ImageDiscovery.Proofs.Registry.Parameters
import ImageDiscovery.Proofs.Registry.PlatformText
import ImageDiscovery.Proofs.Registry.Platforms
import ImageDiscovery.Proofs.Registry.Proving
import ImageDiscovery.Proofs.Registry.Reading
import ImageDiscovery.Proofs.Registry.Record
import ImageDiscovery.Proofs.Registry.Resolution
import ImageDiscovery.Proofs.Registry.Responses
import ImageDiscovery.Proofs.Registry.Route
import ImageDiscovery.Proofs.Registry.Session
import ImageDiscovery.Proofs.Registry.Visit
import ImageDiscovery.Proofs.Retention.Kept
import ImageDiscovery.Proofs.Retention.Merge
import ImageDiscovery.Proofs.Retention.Replay
import ImageDiscovery.Proofs.Selection.Asked
import ImageDiscovery.Proofs.Selection.Best
import ImageDiscovery.Proofs.Selection.Distinct
import ImageDiscovery.Proofs.Selection.Prerelease
import ImageDiscovery.Proofs.Selection.Ranked
import ImageDiscovery.Proofs.Selection.Requests
import ImageDiscovery.Proofs.Selection.Sorted
import ImageDiscovery.Proofs.Selection.Subscribed
import ImageDiscovery.Proofs.Selection.Unflagged
import ImageDiscovery.Proofs.Selection.Unordered
import ImageDiscovery.Proofs.Text.Base64
import ImageDiscovery.Proofs.Text.Bytes
import ImageDiscovery.Proofs.Text.Digits
import ImageDiscovery.Proofs.Text.Edges
import ImageDiscovery.Proofs.Text.Parts
import ImageDiscovery.Proofs.Time.Calendar
import ImageDiscovery.Proofs.Time.Written
import ImageDiscovery.Proofs.Unicode.Uppercase
import ImageDiscovery.Proofs.Version.Alternatives
import ImageDiscovery.Proofs.Version.Clause
import ImageDiscovery.Proofs.Version.Digits
import ImageDiscovery.Proofs.Version.Exclusion
import ImageDiscovery.Proofs.Version.Full
import ImageDiscovery.Proofs.Version.Operator
import ImageDiscovery.Proofs.Version.Order
import ImageDiscovery.Proofs.Version.Pinned
import ImageDiscovery.Proofs.Version.Precedence
import ImageDiscovery.Proofs.Version.Release
import ImageDiscovery.Proofs.Version.Tag
import ImageDiscovery.Proofs.Version.Term
import ImageDiscovery.Proofs.Version.Versionless
import ImageDiscovery.Proofs.Version.Written
import ImageDiscovery.Proofs.Warehouse.Stored
import ImageDiscovery.Registry.Challenge
import ImageDiscovery.Registry.Client
import ImageDiscovery.Registry.Error
import ImageDiscovery.Registry.Link
import ImageDiscovery.Registry.Manifest
import ImageDiscovery.Registry.Options
import ImageDiscovery.Registry.Platform
import ImageDiscovery.Registry.Repository
import ImageDiscovery.Retention
import ImageDiscovery.Selection.Selector
import ImageDiscovery.Selection.Source
import ImageDiscovery.Selection.TagFilter
import ImageDiscovery.Text.Base64
import ImageDiscovery.Text.Blank
import ImageDiscovery.Text.Decimal
import ImageDiscovery.Text.Quoted
import ImageDiscovery.Text.Split
import ImageDiscovery.Text.Utf8
import ImageDiscovery.Time.Calendar
import ImageDiscovery.Time.Timestamp
import ImageDiscovery.Time.Timestamp.Reader
import ImageDiscovery.Unicode.CaseFold
import ImageDiscovery.Unicode.Letters
import ImageDiscovery.Unicode.Marks
import ImageDiscovery.Unicode.Printable
import ImageDiscovery.Unicode.RangeTable
import ImageDiscovery.Unicode.Scripts
import ImageDiscovery.Version.Basic
import ImageDiscovery.Version.Constraint
import ImageDiscovery.Warehouse.Basic
import ImageDiscovery.Warehouse.Result
import ImageDiscovery.Warehouse.Subscription
