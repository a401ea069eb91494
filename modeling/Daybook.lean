import Daybook.Backup.Document
import Daybook.Backup.Format
import Daybook.Backup.Legacy
import Daybook.Bytes.Base64
import Daybook.Bytes.Basic
import Daybook.Bytes.Checksum
import Daybook.Bytes.Gzip
import Daybook.Bytes.Inflate
import Daybook.Calendar.Date
import Daybook.Calendar.Instant
import Daybook.Calendar.Normalize
import Daybook.Calendar.Reader
import Daybook.CommandLine.Arguments
import Daybook.CommandLine.Form
import Daybook.CommandLine.Help
import Daybook.CommandLine.Invocation
import Daybook.CommandLine.Run
import Daybook.Config
import Daybook.Engine.Program
import Daybook.Engine.Storage
import Daybook.Failure
import Daybook.Files
import Daybook.Filter.Basic
import Daybook.Filter.Reader
import Daybook.History
import Daybook.Json.Basic
import Daybook.Json.Fields
import Daybook.Json.Printer
import Daybook.Json.Reader
import Daybook.KeyMap
import Daybook.Main
import Daybook.Migration.Apply
import Daybook.Migration.Plan
import Daybook.Moment
import Daybook.Number.Binary64
import Daybook.Number.Decimal
import Daybook.Proofs.Backup.Document
import Daybook.Proofs.Backup.Layout
import Daybook.Proofs.Backup.Legacy
import Daybook.Proofs.Bytes.Base64
import Daybook.Proofs.Bytes.Gzip
import Daybook.Proofs.Calendar.Date
import Daybook.Proofs.Calendar.Format
import Daybook.Proofs.Calendar.Forms
import Daybook.Proofs.Calendar.Layout
import Daybook.Proofs.Calendar.Order
import Daybook.Proofs.Calendar.Stable
import Daybook.Proofs.Engine.Program
import Daybook.Proofs.Engine.Sent
import Daybook.Proofs.Engine.Storage
import Daybook.Proofs.Filter.Grammar
import Daybook.Proofs.Filter.Reading
import Daybook.Proofs.Filter.Shape
import Daybook.Proofs.Json.Sorted
import Daybook.Proofs.KeyMap
import Daybook.Proofs.Migration.Create
import Daybook.Proofs.Migration.Plan
import Daybook.Proofs.Migration.Preserve
import Daybook.Proofs.Migration.Run
import Daybook.Proofs.Migration.Settle
import Daybook.Proofs.Migration.Turn
import Daybook.Proofs.Migration.Unique
import Daybook.Proofs.Migration.Writable
import Daybook.Proofs.Number.Binary64
import Daybook.Proofs.Remote.Files
import Daybook.Proofs.Remote.Log
import Daybook.Proofs.Remote.Memory
import Daybook.Proofs.Result
import Daybook.Proofs.Schema.Cell
import Daybook.Proofs.Schema.Database
import Daybook.Proofs.Schema.Reading
import Daybook.Proofs.Schema.Registry
import Daybook.Proofs.Schema.Rules
import Daybook.Proofs.Schema.Table
import Daybook.Proofs.Settings.Defaults
import Daybook.Proofs.Settings.File
import Daybook.Proofs.Settings.Path
import Daybook.Proofs.Settings.Reopen
import Daybook.Proofs.Sql.Alter
import Daybook.Proofs.Sql.Batch
import Daybook.Proofs.Sql.Cell
import Daybook.Proofs.Sql.Database
import Daybook.Proofs.Sql.Definition
import Daybook.Proofs.Sql.Insert
import Daybook.Proofs.Sql.Like
import Daybook.Proofs.Sql.Marks
import Daybook.Proofs.Sql.Order
import Daybook.Proofs.Sql.Plain
import Daybook.Proofs.Sql.Regular
import Daybook.Proofs.Sql.Rows
import Daybook.Proofs.Sql.Scan
import Daybook.Proofs.Sql.Sought
import Daybook.Proofs.Sql.Table
import Daybook.Proofs.Sql.Token
import Daybook.Proofs.Sql.Update
import Daybook.Proofs.Sql.Word
import Daybook.Proofs.Store.Assignments
import Daybook.Proofs.Store.Batch
import Daybook.Proofs.Store.Bulk
import Daybook.Proofs.Store.ById
import Daybook.Proofs.Store.Edit
import Daybook.Proofs.Store.InsertOne
import Daybook.Proofs.Store.Key
import Daybook.Proofs.Store.Paging
import Daybook.Proofs.Store.Patch
import Daybook.Proofs.Store.Pattern
import Daybook.Proofs.Store.Required
import Daybook.Proofs.Store.Run
import Daybook.Proofs.Store.Search
import Daybook.Proofs.Store.Shape
import Daybook.Proofs.Store.Single
import Daybook.Proofs.Store.Texts
import Daybook.Proofs.Store.Upsert
import Daybook.Proofs.Store.Write
import Daybook.Proofs.Sync.Action
import Daybook.Proofs.Sync.Backup
import Daybook.Proofs.Sync.Cursor
import Daybook.Proofs.Sync.Dates
import Daybook.Proofs.Sync.Export
import Daybook.Proofs.Sync.Faithful
import Daybook.Proofs.Sync.Halted
import Daybook.Proofs.Sync.Import
import Daybook.Proofs.Sync.Incremental
import Daybook.Proofs.Sync.Legacy
import Daybook.Proofs.Sync.Merge
import Daybook.Proofs.Sync.Newer
import Daybook.Proofs.Sync.Normalization
import Daybook.Proofs.Sync.Portable
import Daybook.Proofs.Sync.Record
import Daybook.Proofs.Sync.Recovery
import Daybook.Proofs.Sync.Refusal
import Daybook.Proofs.Sync.Restore
import Daybook.Proofs.Sync.Sharing
import Daybook.Proofs.Sync.Sole
import Daybook.Proofs.Sync.TakeOver
import Daybook.Proofs.Sync.World
import Daybook.Proofs.Sync.Write
import Daybook.Remote
import Daybook.Remote.Memory
import Daybook.Schema.Basic
import Daybook.Schema.Column
import Daybook.Schema.Definition
import Daybook.Schema.Format
import Daybook.Schema.IndexedRegistry
import Daybook.Schema.Models
import Daybook.Schema.Registry
import Daybook.Settings
import Daybook.Sql.Affinity
import Daybook.Sql.Cell
import Daybook.Sql.Change
import Daybook.Sql.Database
import Daybook.Sql.Fault
import Daybook.Sql.Like
import Daybook.Sql.LiveColumn
import Daybook.Sql.Reader
import Daybook.Sql.Script
import Daybook.Sql.Statement
import Daybook.Sql.Table
import Daybook.Sql.Word
import Daybook.Store.Change
import Daybook.Store.Find
import Daybook.Store.Insert
import Daybook.Sync.Dates
import Daybook.Sync.Device
import Daybook.Sync.Transfer
import Daybook.Text.Blank
import Daybook.Text.Printable
import Daybook.Text.Quoted
