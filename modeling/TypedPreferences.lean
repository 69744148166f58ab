import TypedPreferences.Accessor.Accessor
import TypedPreferences.Accessor.Desk
import TypedPreferences.Accessor.Session
import TypedPreferences.Calendar.Date
import TypedPreferences.Calendar.DateText
import TypedPreferences.Conversion.Registry
import TypedPreferences.Declared.Declaration
import TypedPreferences.Declared.Event
import TypedPreferences.Declared.Fault
import TypedPreferences.Declared.ModulePath
import TypedPreferences.Declared.Primitive
import TypedPreferences.Declared.TypeRef
import TypedPreferences.Derive.Expand
import TypedPreferences.Derive.Ordinals
import TypedPreferences.Emission.Accessor
import TypedPreferences.Emission.Cut
import TypedPreferences.Emission.Steps
import TypedPreferences.Emission.Template
import TypedPreferences.Fields.Datum
import TypedPreferences.Fields.Layout
import TypedPreferences.Fields.Meaning
import TypedPreferences.Flow.Channel
import TypedPreferences.Flow.Hub
import TypedPreferences.Generation.Config
import TypedPreferences.Generation.FilePath
import TypedPreferences.Generation.FileTree
import TypedPreferences.Generation.Generate
import TypedPreferences.Generation.Run
import TypedPreferences.Generation.Summary
import TypedPreferences.Packed.Rounded
import TypedPreferences.Packed.Structured
import TypedPreferences.Packed.Tree
import TypedPreferences.Packed.Wire
import TypedPreferences.Plan.Build
import TypedPreferences.Plan.Context
import TypedPreferences.Plan.Step
import TypedPreferences.Plan.Wording
import TypedPreferences.Proofs.Accessor.Coherence
import TypedPreferences.Proofs.Accessor.Editing
import TypedPreferences.Proofs.Accessor.FirstRead
import TypedPreferences.Proofs.Accessor.Histories
import TypedPreferences.Proofs.Accessor.Hosting
import TypedPreferences.Proofs.Accessor.Publishing
import TypedPreferences.Proofs.Accessor.Register
import TypedPreferences.Proofs.Accessor.Rereading
import TypedPreferences.Proofs.Accessor.Runs
import TypedPreferences.Proofs.Accessor.Unseen
import TypedPreferences.Proofs.Calendar.DateTexts
import TypedPreferences.Proofs.Calendar.DayNumbers
import TypedPreferences.Proofs.Derive.Numbering
import TypedPreferences.Proofs.Emission.Members
import TypedPreferences.Proofs.Fields.AllFields
import TypedPreferences.Proofs.Fields.Confined
import TypedPreferences.Proofs.Fields.Reading
import TypedPreferences.Proofs.Fields.RoundTrip
import TypedPreferences.Proofs.Fields.Settling
import TypedPreferences.Proofs.Fields.Snapshots
import TypedPreferences.Proofs.Fields.Written
import TypedPreferences.Proofs.Flow.Handles
import TypedPreferences.Proofs.Generation.Files
import TypedPreferences.Proofs.Generation.Generated
import TypedPreferences.Proofs.Generation.Paths
import TypedPreferences.Proofs.Generation.Writing
import TypedPreferences.Proofs.Packed.Packing
import TypedPreferences.Proofs.Packed.Records
import TypedPreferences.Proofs.Plan.Accepted
import TypedPreferences.Proofs.Plan.Lenient
import TypedPreferences.Proofs.Samples.Converters
import TypedPreferences.Proofs.Samples.CustomData
import TypedPreferences.Proofs.Samples.Edited
import TypedPreferences.Proofs.Samples.Planned
import TypedPreferences.Proofs.Samples.Settled
import TypedPreferences.Proofs.Store.Carriers
import TypedPreferences.Proofs.Text.Bytes
import TypedPreferences.Proofs.Text.Parts
import TypedPreferences.Published.Slot
import TypedPreferences.Samples.Converters
import TypedPreferences.Samples.Declarations
import TypedPreferences.Samples.Functions
import TypedPreferences.Samples.Level
import TypedPreferences.Samples.Structures
import TypedPreferences.Samples.Value
import TypedPreferences.Scan.Findings
import TypedPreferences.Source.Grammar.Attribute
import TypedPreferences.Source.Grammar.Declaration
import TypedPreferences.Source.Grammar.Expression
import TypedPreferences.Source.Grammar.Generics
import TypedPreferences.Source.Grammar.Path
import TypedPreferences.Source.Grammar.Pattern
import TypedPreferences.Source.Grammar.Phrase
import TypedPreferences.Source.Grammar.Statement
import TypedPreferences.Source.Grammar.Type
import TypedPreferences.Source.Item
import TypedPreferences.Source.Lexeme
import TypedPreferences.Source.Lexer
import TypedPreferences.Source.Literal
import TypedPreferences.Source.Options
import TypedPreferences.Source.Parse
import TypedPreferences.Source.Reader
import TypedPreferences.Source.Token
import TypedPreferences.Source.Ty
import TypedPreferences.Store.Engine
import TypedPreferences.Store.Nullable
import TypedPreferences.Store.Sentinel
import TypedPreferences.Store.Stored
import TypedPreferences.Text.Blank
import TypedPreferences.Text.Case
import TypedPreferences.Text.Hex
import TypedPreferences.Text.Integer
import TypedPreferences.Text.Letter
import TypedPreferences.Text.Printable
import TypedPreferences.Text.Quoted
import TypedPreferences.Text.Range
import TypedPreferences.Text.Replace
import TypedPreferences.Text.Snake
import TypedPreferences.Text.SortedMap
import TypedPreferences.Proofs.Generation.Failing
import TypedPreferences.Proofs.Derive.Agreement
import TypedPreferences.Proofs.Text.Bracketing
import TypedPreferences.Proofs.Source.Lexemes
import TypedPreferences.Proofs.Source.Phrases
import TypedPreferences.Proofs.Declared.Keys
import TypedPreferences.Proofs.Source.ProperTypes
import TypedPreferences.Proofs.Declared.Identity
import TypedPreferences.Proofs.Source.Displayed
import TypedPreferences.Proofs.Declared.Storable
import TypedPreferences.Proofs.Source.Reading
import TypedPreferences.Proofs.Source.Grammar.Declarations
import TypedPreferences.Flow.Log
import TypedPreferences.Accessor.Office
import TypedPreferences.Proofs.Accessor.Apart
import TypedPreferences.Proofs.Accessor.SharedStore
import TypedPreferences.Proofs.Flow.Delivery
import TypedPreferences.Proofs.Generation.Reordered
import TypedPreferences.Proofs.Samples.Apart
import TypedPreferences.Proofs.Declared.Amounts
import TypedPreferences.Proofs.Declared.Nesting
import TypedPreferences.Proofs.Conversion.Lookup
import TypedPreferences.Proofs.Conversion.Enlarged
import TypedPreferences.Proofs.Plan.Shape
import TypedPreferences.Proofs.Declared.Held
import TypedPreferences.Proofs.Emission.Passed
import TypedPreferences.Proofs.Emission.Passing
import TypedPreferences.Proofs.Plan.FirstFault
import TypedPreferences.Proofs.Scan.Standing
import TypedPreferences.Proofs.Scan.Found
import TypedPreferences.Proofs.Derive.ConverterItems
import TypedPreferences.Proofs.Source.NamedItems
import TypedPreferences.Proofs.Source.NamePaths
import TypedPreferences.Proofs.Scan.CallPaths
import TypedPreferences.Proofs.Derive.EmittedMembers
import TypedPreferences.Proofs.Derive.EmittedOrdinals
import TypedPreferences.Proofs.Store.PartialInverses
import TypedPreferences.Store.Storehouse
import TypedPreferences.Proofs.Store.SharedStores
import TypedPreferences.Proofs.Store.LastWrites
import TypedPreferences.Proofs.Samples.Payloads
import TypedPreferences.Proofs.Calendar.NumberedDates
import TypedPreferences.Proofs.Samples.StoredDates
import TypedPreferences.Proofs.Text.Numerals
import TypedPreferences.Proofs.Samples.StoredLists
import TypedPreferences.Proofs.Source.Parentheses
import TypedPreferences.Proofs.Declared.Regrouped
import TypedPreferences.Proofs.Declared.GrowingKeys
import TypedPreferences.Proofs.Declared.Parenthesised
import TypedPreferences.Proofs.Text.SnakeCase
import TypedPreferences.Proofs.Declared.ModulePaths
