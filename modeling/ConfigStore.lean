import ConfigStore.NameMap
import ConfigStore.Path
import ConfigStore.Error
import ConfigStore.Change
import ConfigStore.Tree.Node
import ConfigStore.Tree.Basic
import ConfigStore.Tree.Walk
import ConfigStore.Decimal.Integer
import ConfigStore.Decimal.Double
import ConfigStore.Decimal.Shortest
import ConfigStore.Decimal.Layout
import ConfigStore.Text.Blank
import ConfigStore.Text.Utf8
import ConfigStore.Text.Percent
import ConfigStore.Text.Base64
import ConfigStore.Json.Value
import ConfigStore.Json.Printer
import ConfigStore.Json.Scanner
import ConfigStore.Json.Parser
import ConfigStore.Json.Raw
import ConfigStore.Json.Place
import ConfigStore.Url.Parser
import ConfigStore.Location
import ConfigStore.Tree.Document
import ConfigStore.Text.Cut
import ConfigStore.Tree.Scoped
import ConfigStore.Disk
import ConfigStore.Ini.File
import ConfigStore.Json.File
import ConfigStore.Consul.Client
import ConfigStore.Store.Operation
import ConfigStore.Command.Run
import ConfigStore.Main
import ConfigStore.Proofs.Entries
import ConfigStore.Proofs.Tree.Values
import ConfigStore.Proofs.Tree.Insertion
import ConfigStore.Proofs.Tree.Leaves
import ConfigStore.Proofs.Path
import ConfigStore.Proofs.Json.Assignment
import ConfigStore.Proofs.Store.Staging
import ConfigStore.Proofs.Text.Base64
import ConfigStore.Proofs.Text.Blank
import ConfigStore.Proofs.Disk
import ConfigStore.Proofs.Ini.Lines
import ConfigStore.Proofs.Ini.Document
import ConfigStore.Proofs.Ini.Rewriting
import ConfigStore.Proofs.Ini.Criterion
import ConfigStore.Proofs.Ini.Check
import ConfigStore.Proofs.Store.Session
import ConfigStore.Proofs.Ini.Reopening
import ConfigStore.Proofs.Store.FlatMap
import ConfigStore.Proofs.Json.Mirror
import ConfigStore.Proofs.Store.Interchange
import ConfigStore.Proofs.NameMap
import ConfigStore.Proofs.Tree.Flattening
import ConfigStore.Proofs.Consul.Records
import ConfigStore.Proofs.Consul.Listing
import ConfigStore.Proofs.Json.Reading
import ConfigStore.Proofs.Decimal
import ConfigStore.Proofs.Json.Collecting
import ConfigStore.Proofs.Store.Agreement
import ConfigStore.Proofs.Json.Numbers
import ConfigStore.Proofs.Json.Strings
import ConfigStore.Proofs.Json.Numerals
import ConfigStore.Proofs.Json.Rereading
import ConfigStore.Proofs.Json.Reopening
import ConfigStore.Proofs.Store.Durability
import ConfigStore.Proofs.Text.Percent
import ConfigStore.Proofs.Consul.Addressing
import ConfigStore.Proofs.Consul.Selection
import ConfigStore.Proofs.Consul.Decoding
import ConfigStore.Proofs.Consul.Finding
import ConfigStore.Proofs.Tree.Rebuilding
import ConfigStore.Proofs.Command.Copying
import ConfigStore.Proofs.Store.Sharing
import ConfigStore.Proofs.Json.Locality
import ConfigStore.Proofs.Tree.Locality
import ConfigStore.Proofs.Json.Enumeration
import ConfigStore.Proofs.Url.Reading
import ConfigStore.Proofs.Location
import ConfigStore.Proofs.Tree.Rerooting
import ConfigStore.Proofs.Tree.Commutation
import ConfigStore.Proofs.Json.Spelling
import ConfigStore.Proofs.Ini.Kinds
import ConfigStore.Proofs.Ini.Exactness
import ConfigStore.Proofs.Tree.Visiting
import ConfigStore.Proofs.Store.Integers
import ConfigStore.Proofs.Text.Composition
import ConfigStore.Proofs.Url.Domain
import ConfigStore.Proofs.Url.Host
import ConfigStore.Proofs.Url.Authority
import ConfigStore.Proofs.Location.Hosts
import ConfigStore.Proofs.Consul.Hosts
import ConfigStore.Proofs.Consul.Requests
import ConfigStore.Proofs.Json.Raw
import ConfigStore.Proofs.Consul.Writing
