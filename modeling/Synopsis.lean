import Synopsis.Collect
import Synopsis.Disk
import Synopsis.Fault
import Synopsis.Json
import Synopsis.Kind
import Synopsis.Path
import Synopsis.Proofs.Bodies
import Synopsis.Proofs.Collection
import Synopsis.Proofs.Comments
import Synopsis.Proofs.Correspondence
import Synopsis.Proofs.CorrespondingCollections
import Synopsis.Proofs.CorrespondingReadings
import Synopsis.Proofs.EnumerationCases
import Synopsis.Proofs.FirstFault
import Synopsis.Proofs.MissingParts
import Synopsis.Proofs.Positions
import Synopsis.Proofs.Preorder
import Synopsis.Proofs.Revisions
import Synopsis.Proofs.RoundTrips
import Synopsis.Reading
import Synopsis.Reading.Callables
import Synopsis.Reading.Decorators
import Synopsis.Reading.Elements
import Synopsis.Reading.Generics
import Synopsis.Reading.Operators
import Synopsis.Reading.Parameters
import Synopsis.Reading.Types
import Synopsis.Record.Codec
import Synopsis.Record.Declaration
import Synopsis.Record.Part
import Synopsis.Record.Render
import Synopsis.Settings
import Synopsis.Text.Blank
import Synopsis.Text.Cut
import Synopsis.Text.Letter
import Synopsis.Text.Pieces
import Synopsis.Toml.Document
import Synopsis.Toml.Number
import Synopsis.Toml.Quote
import Synopsis.Toml.Text
import Synopsis.Toml.Value
import Synopsis.Tree.Basic
import Synopsis.Tree.Cursor
import Synopsis.Tree.Query
import Synopsis.Tree.Text
import Synopsis.Proofs.Headings
import Synopsis.Proofs.Decoration
import Synopsis.Proofs.Locality
import Synopsis.Proofs.Naming
import Synopsis.Proofs.Keywords
import Synopsis.Proofs.Payloads
import Synopsis.Proofs.Segments
import Synopsis.Proofs.FieldlessElements
import Synopsis.Proofs.Bindings
import Synopsis.Proofs.Trimming
import Synopsis.Proofs.DefaultArguments
import Synopsis.Proofs.Separation
import Synopsis.Proofs.AttributeTexts
import Synopsis.Proofs.Nesting
import Synopsis.Proofs.AttributeNames
import Synopsis.Proofs.AssociatedValues
import Synopsis.Proofs.ParameterTypes
import Synopsis.Proofs.Cutting
import Synopsis.Proofs.ModifierTexts
import Synopsis.Proofs.Selection
import Synopsis.Proofs.RequirementTexts
import Synopsis.Proofs.ReturnTypes
import Synopsis.Proofs.TopLevelCommas
import Synopsis.Proofs.PrecedenceEntries
import Synopsis.Proofs.FileWrites
import Synopsis.Proofs.NearestSettings
import Synopsis.Proofs.QuotedStrings
import Synopsis.Proofs.SettingsDocuments
import Synopsis.Proofs.SavedSettings
import Synopsis.Proofs.CharacterBoundaries
