import QueryBindings.CommandLine.Arguments
import QueryBindings.CommandLine.Run
import QueryBindings.Declaration
import QueryBindings.Declaration.OfOperation
import QueryBindings.Declaration.OfType
import QueryBindings.Definition
import QueryBindings.Disk
import QueryBindings.Disk.FileTree
import QueryBindings.Document
import QueryBindings.Document.Fragments
import QueryBindings.Document.Validation
import QueryBindings.Endpoint.Answer
import QueryBindings.Endpoint.Domain.Canonical
import QueryBindings.Endpoint.Domain.CharacterTable
import QueryBindings.Endpoint.Domain.MappingTable
import QueryBindings.Endpoint.Domain.Name
import QueryBindings.Endpoint.Domain.Punycode
import QueryBindings.Endpoint.Settings
import QueryBindings.Endpoint.Url
import QueryBindings.Error
import QueryBindings.Generation
import QueryBindings.Glob
import QueryBindings.Grammar.Executable
import QueryBindings.Grammar.Rule
import QueryBindings.Grammar.Token
import QueryBindings.Grammar.TypeSystem
import QueryBindings.Grammar.Value
import QueryBindings.Introspection
import QueryBindings.Json.Reading
import QueryBindings.Json.Record
import QueryBindings.Json.Value
import QueryBindings.Layout
import QueryBindings.Literal
import QueryBindings.Main
import QueryBindings.Number.Binary64
import QueryBindings.Options
import QueryBindings.Proofs.AbsentKeys
import QueryBindings.Proofs.Bodies
import QueryBindings.Proofs.Collected
import QueryBindings.Proofs.CyclicWalks
import QueryBindings.Proofs.DanglingReferences
import QueryBindings.Proofs.Declaration.Bundles
import QueryBindings.Proofs.Declaration.Failures
import QueryBindings.Proofs.Declaration.Identifiers
import QueryBindings.Proofs.Declaration.Items
import QueryBindings.Proofs.Declaration.Merging
import QueryBindings.Proofs.Declaration.OperationNames
import QueryBindings.Proofs.Declaration.Paths
import QueryBindings.Proofs.Declaration.Pruning
import QueryBindings.Proofs.Declaration.RawStrings
import QueryBindings.Proofs.Declaration.Records
import QueryBindings.Proofs.Declaration.Tree
import QueryBindings.Proofs.Declaration.WireForms
import QueryBindings.Proofs.DefinitionSlots
import QueryBindings.Proofs.Deliveries
import QueryBindings.Proofs.DepthFirst
import QueryBindings.Proofs.Disk.Slots
import QueryBindings.Proofs.DocumentOrder
import QueryBindings.Proofs.DocumentRoundTrip
import QueryBindings.Proofs.EndpointAnswers
import QueryBindings.Proofs.ExpansionOrder
import QueryBindings.Proofs.Extensions
import QueryBindings.Proofs.FieldLookup
import QueryBindings.Proofs.FragmentCycles
import QueryBindings.Proofs.FragmentGraph
import QueryBindings.Proofs.FragmentResolution
import QueryBindings.Proofs.FragmentTables
import QueryBindings.Proofs.FragmentUse
import QueryBindings.Proofs.Grammar.Definitions
import QueryBindings.Proofs.Grammar.Documents
import QueryBindings.Proofs.Grammar.Lexing
import QueryBindings.Proofs.Grammar.LiteralLexing
import QueryBindings.Proofs.Grammar.Members
import QueryBindings.Proofs.Grammar.Parts
import QueryBindings.Proofs.Grammar.RuleLaws
import QueryBindings.Proofs.Grammar.Selections
import QueryBindings.Proofs.Grammar.TypeTrees
import QueryBindings.Proofs.Grammar.ValueText
import QueryBindings.Proofs.HeaderSecrecy
import QueryBindings.Proofs.HiddenBuiltins
import QueryBindings.Proofs.InlinerReuse
import QueryBindings.Proofs.Inlining
import QueryBindings.Proofs.Layout.Blocks
import QueryBindings.Proofs.Layout.Definitions
import QueryBindings.Proofs.Layout.Deprecations
import QueryBindings.Proofs.Layout.DescriptionValues
import QueryBindings.Proofs.Layout.Descriptions
import QueryBindings.Proofs.Layout.Emission
import QueryBindings.Proofs.Layout.Parts
import QueryBindings.Proofs.Layout.TopLevel
import QueryBindings.Proofs.Literal.BlockText
import QueryBindings.Proofs.MemberNames
import QueryBindings.Proofs.NameClosure
import QueryBindings.Proofs.Occurrences
import QueryBindings.Proofs.Outcome
import QueryBindings.Proofs.Outputs
import QueryBindings.Proofs.PayloadOrder
import QueryBindings.Proofs.PossibleTypes
import QueryBindings.Proofs.Requests
import QueryBindings.Proofs.ResponseTrees
import QueryBindings.Proofs.ResponseTypes
import QueryBindings.Proofs.RootTypes
import QueryBindings.Proofs.SchemaAssembly
import QueryBindings.Proofs.SchemaKeys
import QueryBindings.Proofs.SchemaRoundTrip
import QueryBindings.Proofs.Tables
import QueryBindings.Proofs.TypeChains
import QueryBindings.Proofs.TypeClosure
import QueryBindings.Proofs.TypeTexts
import QueryBindings.Proofs.TypesInUse
import QueryBindings.Proofs.UnknownFields
import QueryBindings.Proofs.ValidFields
import QueryBindings.Proofs.Validation
import QueryBindings.Response
import QueryBindings.Schema
import QueryBindings.Schema.Assembly
import QueryBindings.Table
import QueryBindings.Text
import QueryBindings.Text.CodeTable
import QueryBindings.Text.Letter
import QueryBindings.Text.Shown
