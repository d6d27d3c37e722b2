import AssetSeed.Address.HostAddress
import AssetSeed.Address.IPv4
import AssetSeed.Address.IPv6
import AssetSeed.Address.IpAddress
import AssetSeed.Address.Mac
import AssetSeed.Address.Network
import AssetSeed.Archive.Bits
import AssetSeed.Archive.Extract
import AssetSeed.Archive.Gzip
import AssetSeed.Archive.Inflate
import AssetSeed.Archive.PrefixCode
import AssetSeed.Archive.Tar
import AssetSeed.Catalog
import AssetSeed.CommandLine.Call
import AssetSeed.CommandLine.Error
import AssetSeed.CommandLine.Grammars
import AssetSeed.CommandLine.Parameter
import AssetSeed.CommandLine.Reading
import AssetSeed.CommandLine.Values
import AssetSeed.Dialogue
import AssetSeed.Environment.Basic
import AssetSeed.Environment.File
import AssetSeed.Failure
import AssetSeed.Files.Copy
import AssetSeed.Files.Disk
import AssetSeed.Files.Error
import AssetSeed.Files.Path
import AssetSeed.Files.Prune
import AssetSeed.Files.Tree
import AssetSeed.Host.Command
import AssetSeed.Host.Install
import AssetSeed.Host.Protocol
import AssetSeed.Host.Rehearsal
import AssetSeed.HostName.Direction
import AssetSeed.HostName.Joining
import AssetSeed.HostName.Label
import AssetSeed.HostName.Letters
import AssetSeed.HostName.Punycode
import AssetSeed.HostName.Spelling
import AssetSeed.Http.Client
import AssetSeed.Http.Message
import AssetSeed.Http.Url
import AssetSeed.Index
import AssetSeed.Json.Basic
import AssetSeed.Json.Fields
import AssetSeed.Json.Reader
import AssetSeed.Main
import AssetSeed.NetworkMap
import AssetSeed.NetworkMap.Load
import AssetSeed.Palette
import AssetSeed.Palette.Keystream
import AssetSeed.Preload.Fixtures
import AssetSeed.Preload.Load
import AssetSeed.Program
import AssetSeed.Recipe.Commands
import AssetSeed.Recipe.Generate
import AssetSeed.Recipe.Stamp
import AssetSeed.Recipe.Template
import AssetSeed.Recipe.Variant
import AssetSeed.Reconcile.Backfill
import AssetSeed.Reconcile.Catalog
import AssetSeed.Reconcile.Network
import AssetSeed.Reconcile.Permission
import AssetSeed.Reconcile.Report
import AssetSeed.Reconcile.Run
import AssetSeed.Reconcile.Stage
import AssetSeed.Record.Basic
import AssetSeed.Record.Codec
import AssetSeed.Record.Draft
import AssetSeed.Record.Kind
import AssetSeed.Restore.Run
import AssetSeed.Restore.Snapshot
import AssetSeed.Restore.Step
import AssetSeed.Seed.Config
import AssetSeed.Seed.Run
import AssetSeed.Shell.Arithmetic
import AssetSeed.Shell.Batching
import AssetSeed.Shell.Brace
import AssetSeed.Shell.Commands
import AssetSeed.Shell.Condition
import AssetSeed.Shell.Field
import AssetSeed.Shell.Filing
import AssetSeed.Shell.Filter
import AssetSeed.Shell.Format
import AssetSeed.Shell.Host
import AssetSeed.Shell.Pattern
import AssetSeed.Shell.Reading
import AssetSeed.Shell.Redirection
import AssetSeed.Shell.Run
import AssetSeed.Shell.Script
import AssetSeed.Shell.Session
import AssetSeed.Shell.Signal
import AssetSeed.Shell.Special
import AssetSeed.Shell.Target
import AssetSeed.Shell.Token
import AssetSeed.Shell.Utility
import AssetSeed.Shell.Word
import AssetSeed.Store.Error
import AssetSeed.Store.Memory
import AssetSeed.Store.Protocol
import AssetSeed.Store.Rehearsal
import AssetSeed.Text.Alphanumeric
import AssetSeed.Text.CharClass
import AssetSeed.Text.Lowercase
import AssetSeed.Text.Lowercase.Table
import AssetSeed.Text.Numeral
import AssetSeed.Text.Pieces
import AssetSeed.Text.Quoted
import AssetSeed.Text.Quoted.Table
import AssetSeed.Text.Slug
import AssetSeed.Text.Truth
import AssetSeed.Text.Utf8
import AssetSeed.Proofs.Dialogue.Ensures
import AssetSeed.Proofs.Index
import AssetSeed.Proofs.Reconcile.Addresses
import AssetSeed.Proofs.Reconcile.CatalogSettling
import AssetSeed.Proofs.Reconcile.Describing
import AssetSeed.Proofs.Reconcile.Idempotence
import AssetSeed.Proofs.Reconcile.MapIdempotence
import AssetSeed.Proofs.Reconcile.Preservation
import AssetSeed.Proofs.Reconcile.Provenance
import AssetSeed.Proofs.Stage.Accounts
import AssetSeed.Proofs.Reconcile.Chronicle
import AssetSeed.Proofs.Reconcile.Accounting
import AssetSeed.Proofs.Store.Faithful
import AssetSeed.Proofs.Reconcile.Frames
import AssetSeed.Proofs.Reconcile.Distinct
import AssetSeed.Proofs.Reconcile.Granting
import AssetSeed.Proofs.Reconcile.Binding
import AssetSeed.Proofs.Stage.Missing
import AssetSeed.Proofs.Reconcile.Permissions
import AssetSeed.Proofs.Reconcile.Fillers
import AssetSeed.Proofs.Store.Permissions
import AssetSeed.Proofs.Reconcile.Groups
import AssetSeed.Proofs.Reconcile.Attempts
import AssetSeed.Proofs.Restore.Transcript
import AssetSeed.Proofs.Restore.Steps
import AssetSeed.Proofs.Restore.Course
import AssetSeed.Proofs.Restore.Planned
import AssetSeed.Proofs.Dialogue.Overheard
import AssetSeed.Proofs.Stage.Standing
import AssetSeed.Proofs.Reconcile.Completeness
import AssetSeed.Proofs.Store.Likeness
import AssetSeed.Proofs.Reconcile.Isolation
import AssetSeed.Proofs.Dialogue.Parties
import AssetSeed.Proofs.Restore.Secrecy
import AssetSeed.Proofs.Reconcile.Readiness
import AssetSeed.Proofs.Seed.Gate
import AssetSeed.Proofs.Seed.Exclusion
import AssetSeed.Proofs.Text.Lines
import AssetSeed.Proofs.Recipe.Blocks
import AssetSeed.Proofs.Recipe.Rendering
import AssetSeed.Proofs.Text.Occurrences
import AssetSeed.Proofs.Recipe.Layouts
import AssetSeed.Proofs.Recipe.Filling
import AssetSeed.Proofs.NetworkMap.Grammar
import AssetSeed.Proofs.Http.Listing
import AssetSeed.Proofs.Json.Recast
import AssetSeed.Proofs.Json.Schema
import AssetSeed.Proofs.Record.WireFormat
import AssetSeed.Proofs.Store.Integrity
import AssetSeed.Proofs.Store.Atomicity
import AssetSeed.Proofs.Text.Pieces
import AssetSeed.Proofs.Text.Numerals
import AssetSeed.Proofs.Address.IPv4
import AssetSeed.Proofs.Address.IPv6
import AssetSeed.Proofs.Address.IpAddress
import AssetSeed.Proofs.Address.Network
import AssetSeed.Proofs.Reconcile.Prefixes
import AssetSeed.Proofs.Text.Lowercase
import AssetSeed.Proofs.Address.Mac
import AssetSeed.Proofs.Files.Tree
import AssetSeed.Proofs.Files.Path
import AssetSeed.Proofs.Files.Disk
import AssetSeed.Proofs.Files.Overlay
import AssetSeed.Proofs.Files.Copy
import AssetSeed.Proofs.Files.Prune
import AssetSeed.Proofs.Files.Inside
import AssetSeed.Proofs.Text.Utf8
import AssetSeed.Proofs.Preload.Fixtures
import AssetSeed.Proofs.Files.Follow
import AssetSeed.Proofs.Restore.Selection
import AssetSeed.Proofs.Reconcile.Attachment
import AssetSeed.Proofs.Text.Slug
import AssetSeed.Proofs.Recipe.Passes
