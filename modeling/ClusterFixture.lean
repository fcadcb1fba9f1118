import ClusterFixture.Cluster.Layout
import ClusterFixture.Cluster.Segment
import ClusterFixture.Cluster.Transition
import ClusterFixture.Command
import ClusterFixture.CommandLine.Arguments
import ClusterFixture.CommandLine.Help
import ClusterFixture.CommandLine.Program
import ClusterFixture.Fault
import ClusterFixture.FileTree
import ClusterFixture.Json.Basic
import ClusterFixture.Json.Print
import ClusterFixture.Json.Read
import ClusterFixture.Main
import ClusterFixture.Number.Binary64
import ClusterFixture.Number.Decimal
import ClusterFixture.Number.Integer
import ClusterFixture.Number.Shortest
import ClusterFixture.Operation.Basic
import ClusterFixture.Operation.Catalog
import ClusterFixture.Operation.Checks
import ClusterFixture.Operation.Databases
import ClusterFixture.Operation.Dumps
import ClusterFixture.Operation.Files
import ClusterFixture.Operation.Filespace
import ClusterFixture.Operation.Hosts
import ClusterFixture.Operation.Mail
import ClusterFixture.Operation.Packages
import ClusterFixture.Operation.Segments
import ClusterFixture.Operation.Server
import ClusterFixture.Operation.Tables
import ClusterFixture.Operation.Waiting
import ClusterFixture.Path
import ClusterFixture.Pattern.Basic
import ClusterFixture.Pattern.Bracket
import ClusterFixture.Pattern.Escape
import ClusterFixture.Pattern.Read
import ClusterFixture.Poll
import ClusterFixture.Proofs.Comparison
import ClusterFixture.Proofs.Counting
import ClusterFixture.Proofs.DumpPlaces
import ClusterFixture.Proofs.Dumping
import ClusterFixture.Proofs.Files
import ClusterFixture.Proofs.Paths
import ClusterFixture.Proofs.Polling
import ClusterFixture.Proofs.Resync
import ClusterFixture.Proofs.RoundTrip
import ClusterFixture.Proofs.Running
import ClusterFixture.Proofs.Waiting
import ClusterFixture.Script
import ClusterFixture.Session.Fault
import ClusterFixture.Session.Json
import ClusterFixture.Session.Network
import ClusterFixture.Settings.Basic
import ClusterFixture.Settings.Document
import ClusterFixture.Settings.Environment
import ClusterFixture.Settings.Json
import ClusterFixture.Settings.Loading
import ClusterFixture.Settings.Reading
import ClusterFixture.Settings.Selection
import ClusterFixture.Settings.Value
import ClusterFixture.Shell.Builtin
import ClusterFixture.Shell.Line
import ClusterFixture.Shell.Run
import ClusterFixture.Sql.Quote
import ClusterFixture.Sql.Row
import ClusterFixture.Sql.Statement
import ClusterFixture.Sql.Storage
import ClusterFixture.Sql.TableName
import ClusterFixture.Sql.Target
import ClusterFixture.StepContext
import ClusterFixture.SystemError
import ClusterFixture.Telemetry.Filter
import ClusterFixture.Telemetry.Record
import ClusterFixture.Telemetry.Scenario
import ClusterFixture.Text.Address
import ClusterFixture.Text.Blank
import ClusterFixture.Text.Case
import ClusterFixture.Text.Digit
import ClusterFixture.Text.Quoted
import ClusterFixture.Text.Search
import ClusterFixture.Text.Utf8
import ClusterFixture.Unicode.Age
import ClusterFixture.Unicode.CaseTable
import ClusterFixture.Unicode.Category
import ClusterFixture.Unicode.Named
import ClusterFixture.Unicode.Property
import ClusterFixture.Unicode.RangeSet
import ClusterFixture.Unicode.Script
import ClusterFixture.Unicode.Segmentation
import ClusterFixture.Unicode.Table
import ClusterFixture.Yaml.Block
import ClusterFixture.Yaml.Cursor
import ClusterFixture.Yaml.Layout
import ClusterFixture.Yaml.Node
import ClusterFixture.Yaml.Plain
import ClusterFixture.Yaml.Quoted
import ClusterFixture.Yaml.Tag
import ClusterFixture.Yaml.Token
import ClusterFixture.Yaml.Tree
import ClusterFixture.Proofs.Configuration
import ClusterFixture.Proofs.Rounds
import ClusterFixture.Proofs.Placement
import ClusterFixture.Sql.Relation
import ClusterFixture.Proofs.Calls
import ClusterFixture.Proofs.Spelling
import ClusterFixture.Proofs.TableCalls
import ClusterFixture.Proofs.DumpNames
import ClusterFixture.Proofs.Retrying
import ClusterFixture.Proofs.Visibility
import ClusterFixture.Proofs.Turns
import ClusterFixture.Sql.Token
import ClusterFixture.Proofs.Literals
import ClusterFixture.Proofs.Tagging
import ClusterFixture.Proofs.JsonText
import ClusterFixture.Proofs.SettingsText
import ClusterFixture.Settings.Draft
import ClusterFixture.Proofs.Places
import ClusterFixture.Proofs.Layering
import ClusterFixture.Proofs.Records
import ClusterFixture.Proofs.LayeredRecords
import ClusterFixture.Proofs.Drafts
import ClusterFixture.Proofs.LayeredLoading
import ClusterFixture.Proofs.SettingsFiles
import ClusterFixture.Proofs.Lookups
import ClusterFixture.Proofs.Dropping
import ClusterFixture.Proofs.Steps
import ClusterFixture.Proofs.Policies
import ClusterFixture.Proofs.Rounding
import ClusterFixture.Proofs.Numerals
import ClusterFixture.Proofs.IntegerColumns
import ClusterFixture.Proofs.Transfers
import ClusterFixture.Proofs.Fields
import ClusterFixture.Proofs.Variables
import ClusterFixture.Proofs.Scaling
import ClusterFixture.Proofs.JsonNumbers
import ClusterFixture.Proofs.JsonMembers
import ClusterFixture.Proofs.JsonReading
import ClusterFixture.Proofs.LogLines
import ClusterFixture.Proofs.SessionVariables
import ClusterFixture.Proofs.FilespaceLayout
import ClusterFixture.Proofs.PartitionOrder
import ClusterFixture.Shell.Quoting
import ClusterFixture.Proofs.PlainWords
import ClusterFixture.Proofs.RemoteCommands
import ClusterFixture.Proofs.DefinedNames
import ClusterFixture.Proofs.MixedStorage
import ClusterFixture.Proofs.SchemaNames
import ClusterFixture.Proofs.Addresses
import ClusterFixture.Proofs.Lines
import ClusterFixture.Proofs.ManyPartitions
import ClusterFixture.Proofs.Readdressing
import ClusterFixture.Proofs.SegmentRows
import ClusterFixture.Proofs.PrimaryStatements
import ClusterFixture.Proofs.HostLists
import ClusterFixture.Proofs.FilledTables
import ClusterFixture.Proofs.ProcessListings
import ClusterFixture.Proofs.WaitFaults
import ClusterFixture.Proofs.MailEntries
import ClusterFixture.Proofs.TupleCounts
import ClusterFixture.Proofs.Estimates
import ClusterFixture.Proofs.SegmentKinds
import ClusterFixture.Proofs.LooseRuns
import ClusterFixture.Proofs.BackupDirectories
import ClusterFixture.Proofs.ReportCleanup
import ClusterFixture.Proofs.FaultMembers
import ClusterFixture.Proofs.FaultLikeness
import ClusterFixture.Proofs.FaultReports
