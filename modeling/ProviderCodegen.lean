import ProviderCodegen.CommandLine.Arguments
import ProviderCodegen.CommandLine.Failure
import ProviderCodegen.CommandLine.Run
import ProviderCodegen.Config
import ProviderCodegen.Conversion.Code
import ProviderCodegen.Conversion.Methods
import ProviderCodegen.Conversion.Node
import ProviderCodegen.Conversion.Plan
import ProviderCodegen.Datum.Basic
import ProviderCodegen.Datum.Plain
import ProviderCodegen.Datum.Reading
import ProviderCodegen.Decimal.Layout
import ProviderCodegen.Decimal.Shortest
import ProviderCodegen.Files.Path
import ProviderCodegen.Files.Store
import ProviderCodegen.Files.Tree
import ProviderCodegen.Generate
import ProviderCodegen.Json.Number
import ProviderCodegen.Json.Printer
import ProviderCodegen.Json.Reader
import ProviderCodegen.Json.Token
import ProviderCodegen.Main
import ProviderCodegen.NameMap
import ProviderCodegen.Schema.Declaration
import ProviderCodegen.Schema.ElementType
import ProviderCodegen.Schema.Equality
import ProviderCodegen.Schema.Error
import ProviderCodegen.Schema.Facets
import ProviderCodegen.Schema.Imports
import ProviderCodegen.Schema.Kind
import ProviderCodegen.Schema.Node
import ProviderCodegen.Schema.Resource
import ProviderCodegen.Schema.Text
import ProviderCodegen.Schema.Types
import ProviderCodegen.Schema.ValueType
import ProviderCodegen.Source.Framework
import ProviderCodegen.Source.Import
import ProviderCodegen.Source.ImportSet
import ProviderCodegen.Source.Line
import ProviderCodegen.Source.Naming
import ProviderCodegen.Spec.Basic
import ProviderCodegen.Spec.Check
import ProviderCodegen.Spec.Equality
import ProviderCodegen.Spec.Parse
import ProviderCodegen.Spec.Reading
import ProviderCodegen.Spec.Writing
import ProviderCodegen.Summary
import ProviderCodegen.Text.Digits
import ProviderCodegen.Text.Hidden
import ProviderCodegen.Text.Letters
import ProviderCodegen.Text.Quoted
import ProviderCodegen.Text.Run
import ProviderCodegen.Text.Words
import ProviderCodegen.Yaml.Glyph
import ProviderCodegen.Yaml.Lexer
import ProviderCodegen.Yaml.Node
import ProviderCodegen.Yaml.Printer
import ProviderCodegen.Yaml.Reader
import ProviderCodegen.Yaml.Scalar
import ProviderCodegen.Yaml.Tag
import ProviderCodegen.Yaml.Token
import ProviderCodegen.Proofs.DeclarationOrder
import ProviderCodegen.Proofs.FrameworkImports
import ProviderCodegen.Proofs.ImportBlock
import ProviderCodegen.Proofs.NameMap
import ProviderCodegen.Proofs.Schema.Build
import ProviderCodegen.Proofs.Schema.Conversions
import ProviderCodegen.Proofs.Schema.GeneratedTypes
import ProviderCodegen.Proofs.Schema.Imports
import ProviderCodegen.Proofs.Schema.NeededImports
import ProviderCodegen.Proofs.Schema.Places
import ProviderCodegen.Proofs.Schema.SuppliedImports
import ProviderCodegen.Proofs.Schema.Tree
import ProviderCodegen.Proofs.Source.ImportSet
import ProviderCodegen.Proofs.Source.Mention
import ProviderCodegen.Proofs.Source.Use
import ProviderCodegen.Proofs.Spec.Supplied
import ProviderCodegen.Proofs.UsedPackages
import ProviderCodegen.Proofs.Schema.ConvertingPlaces
import ProviderCodegen.Proofs.Schema.Directions
import ProviderCodegen.Proofs.Schema.MethodCalls
import ProviderCodegen.Proofs.Acceptance
import ProviderCodegen.Proofs.Json.Scalar
import ProviderCodegen.Proofs.Json.RoundTrip
import ProviderCodegen.Proofs.Datum.Record
import ProviderCodegen.Proofs.Spec.JsonForm
import ProviderCodegen.Proofs.Spec.ReadBack
import ProviderCodegen.Proofs.Spec.RoundTrip
import ProviderCodegen.Proofs.Schema.Outline
import ProviderCodegen.Proofs.Schema.Outcome
import ProviderCodegen.Proofs.Schema.Bindings
import ProviderCodegen.Proofs.Source.Declared
import ProviderCodegen.Proofs.Text.Pascal
import ProviderCodegen.Proofs.SourceLines
import ProviderCodegen.Proofs.TypeNames
import ProviderCodegen.Proofs.StructFields
import ProviderCodegen.Proofs.KeptImports
import ProviderCodegen.Proofs.Schema.Prose
import ProviderCodegen.Proofs.Source.Quotation
import ProviderCodegen.Proofs.Schema.ProseText
import ProviderCodegen.Proofs.ProseImports
import ProviderCodegen.Proofs.CommandLine.Writing
import ProviderCodegen.Proofs.WrittenFiles
import ProviderCodegen.Proofs.CommandLine.Refusals
import ProviderCodegen.Proofs.Source.Brackets
import ProviderCodegen.Proofs.Schema.Brackets
import ProviderCodegen.Proofs.NameOrder
import ProviderCodegen.Proofs.Schema.Change
import ProviderCodegen.Proofs.IgnoredInput
import ProviderCodegen.Proofs.Schema.FieldsByName
import ProviderCodegen.Proofs.FieldOrder
import ProviderCodegen.Proofs.Schema.DeclarationLines
import ProviderCodegen.Proofs.Schema.TypeOrigins
import ProviderCodegen.Proofs.Schema.ObjectPlans
import ProviderCodegen.Proofs.Schema.ObjectTexts
import ProviderCodegen.Proofs.Schema.FieldNames
import ProviderCodegen.Proofs.Schema.ConversionLocals
import ProviderCodegen.Proofs.Source.Literal
import ProviderCodegen.Proofs.Source.Search
import ProviderCodegen.Proofs.Source.ImportRuns
import ProviderCodegen.Proofs.Traversal
import ProviderCodegen.Proofs.Schema.VisibleTypes
import ProviderCodegen.Proofs.Schema.PlannedTypes
import ProviderCodegen.Proofs.RepeatedNames
import ProviderCodegen.Proofs.Source.Variables
import ProviderCodegen.Proofs.Schema.ConversionScope
import ProviderCodegen.Proofs.Schema.ConversionTexts
import ProviderCodegen.Proofs.Schema.ReferredTypes
