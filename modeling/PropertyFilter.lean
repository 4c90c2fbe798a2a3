import PropertyFilter.Command.Options
import PropertyFilter.Command.Overrides
import PropertyFilter.Command.Run
import PropertyFilter.Command.Usage
import PropertyFilter.Command.Verdict
import PropertyFilter.Fault
import PropertyFilter.File.Path
import PropertyFilter.File.Tree
import PropertyFilter.Filter.NameFilter
import PropertyFilter.Filter.Notice
import PropertyFilter.Filter.OutputFilters
import PropertyFilter.Filter.Shape
import PropertyFilter.Format.ConfigurationFile
import PropertyFilter.Format.Json
import PropertyFilter.Format.Toml.Document
import PropertyFilter.Format.Toml.Scalars
import PropertyFilter.Format.Toml.Strings
import PropertyFilter.Format.Toml.Tables
import PropertyFilter.Format.Yaml.Cursor
import PropertyFilter.Format.Yaml.Document
import PropertyFilter.Format.Yaml.Node
import PropertyFilter.Format.Yaml.Pen
import PropertyFilter.Format.Yaml.ScalarStyle
import PropertyFilter.Format.Yaml.ScalarText
import PropertyFilter.Format.Yaml.ScalarValue
import PropertyFilter.Format.Yaml.Sheet
import PropertyFilter.Format.Yaml.Tag
import PropertyFilter.Format.Yaml.Token
import PropertyFilter.Format.Yaml.TokenStream
import PropertyFilter.Log.Record
import PropertyFilter.Log.Rotation
import PropertyFilter.Log.Stamp
import PropertyFilter.Log.Template
import PropertyFilter.Log.World
import PropertyFilter.Main
import PropertyFilter.Number.Binary64
import PropertyFilter.Number.Decimal
import PropertyFilter.Session.Step
import PropertyFilter.Session.Store
import PropertyFilter.Session.Term
import PropertyFilter.Terminal.Color
import PropertyFilter.Terminal.Escape
import PropertyFilter.Text.Base64
import PropertyFilter.Text.CharacterClass
import PropertyFilter.Text.Fields
import PropertyFilter.Text.Lowercase
import PropertyFilter.Text.Printable
import PropertyFilter.Text.Quoted
import PropertyFilter.Text.Utf8
import PropertyFilter.Time.Calendar
import PropertyFilter.Validation.Document
import PropertyFilter.Validation.Issue
import PropertyFilter.Validation.Schema
import PropertyFilter.Value.Basic
import PropertyFilter.Value.Digest
import PropertyFilter.Value.Display
import PropertyFilter.Value.Entries
import PropertyFilter.Value.Order
import PropertyFilter.Value.Same
import PropertyFilter.Proofs.Filter.Construction
import PropertyFilter.Proofs.Validation.Lookup
import PropertyFilter.Proofs.Validation.Places
import PropertyFilter.Proofs.Validation.Report
import PropertyFilter.Proofs.Validation.Rearrangement
import PropertyFilter.Proofs.Validation.Coverage
import PropertyFilter.Proofs.Command.Arguments
import PropertyFilter.Proofs.File.BadPath
import PropertyFilter.Proofs.Log.Silence
import PropertyFilter.Proofs.Log.Stages
import PropertyFilter.Proofs.Terminal.Deletion
import PropertyFilter.Proofs.Log.Setup
import PropertyFilter.Proofs.Command.Overrides
import PropertyFilter.Proofs.Command.Verdicts
import PropertyFilter.Proofs.Session.Labels
import PropertyFilter.Proofs.Session.Copies
import PropertyFilter.Proofs.Session.Effects
import PropertyFilter.Proofs.Session.Resemblance
import PropertyFilter.Proofs.Session.Immutability
import PropertyFilter.Proofs.Log.Console
import PropertyFilter.Proofs.Command.Loading
import PropertyFilter.Proofs.Format.Yaml.Pen
import PropertyFilter.Proofs.Format.Yaml.Writing
import PropertyFilter.Proofs.Format.Json
import PropertyFilter.Proofs.Format.Toml
import PropertyFilter.Proofs.Format.Yaml.Values
import PropertyFilter.Proofs.Filter.Snapshot
import PropertyFilter.Proofs.Command.Completion
import PropertyFilter.Proofs.Terminal.Tinting
import PropertyFilter.Proofs.Value.Display
import PropertyFilter.Proofs.Validation.Messages
import PropertyFilter.Proofs.Command.Messages
import PropertyFilter.Proofs.Log.Twins
import PropertyFilter.Proofs.Command.Colors
import PropertyFilter.Proofs.Validation.Agreement
import PropertyFilter.Log.History
import PropertyFilter.Proofs.Log.Files
import PropertyFilter.Proofs.Log.Repetition
import PropertyFilter.Proofs.Terminal.Arrival
import PropertyFilter.Proofs.Command.Owners
import PropertyFilter.Proofs.Value.Equality
import PropertyFilter.Proofs.Filter.Sameness
import PropertyFilter.Proofs.Filter.Leniency
import PropertyFilter.Proofs.Log.Pairs
import PropertyFilter.Proofs.Log.Details
import PropertyFilter.Proofs.Command.Runs
import PropertyFilter.Proofs.Command.Logging
import PropertyFilter.Proofs.Value.Sorting
import PropertyFilter.Proofs.Format.Acceptance
import PropertyFilter.Proofs.Filter.RoundTrip
import PropertyFilter.Proofs.Filter.Emptiness
import PropertyFilter.Proofs.Text.NameList
import PropertyFilter.Proofs.Filter.Spelling
import PropertyFilter.Proofs.Value.Digest
import PropertyFilter.Proofs.Filter.Congruence
import PropertyFilter.Proofs.Filter.Order
import PropertyFilter.Proofs.Log.Filling
import PropertyFilter.Proofs.Log.Painting
import PropertyFilter.Proofs.File.Moves
import PropertyFilter.Proofs.File.Directories
import PropertyFilter.Proofs.Log.Keeping
import PropertyFilter.Proofs.Log.Reopening
import PropertyFilter.Proofs.Log.Reset
import PropertyFilter.Proofs.Filter.Conservation
import PropertyFilter.Proofs.Validation.ValueKinds
import PropertyFilter.Proofs.Command.Groups
import PropertyFilter.Proofs.Validation.PlainKeys
import PropertyFilter.Proofs.Command.Merging
import PropertyFilter.Proofs.Text.NameGrammar
import PropertyFilter.Proofs.Terminal.Detection
import PropertyFilter.Proofs.Command.SharedOwners
