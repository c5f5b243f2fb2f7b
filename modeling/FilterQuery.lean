import FilterQuery.Main
import FilterQuery.Plan
import FilterQuery.Proofs.Ancestors
import FilterQuery.Proofs.ArgumentTexts
import FilterQuery.Proofs.BuiltFields
import FilterQuery.Proofs.Comparisons
import FilterQuery.Proofs.Dictionaries
import FilterQuery.Proofs.Erasure
import FilterQuery.Proofs.Meaning
import FilterQuery.Proofs.Predicates
import FilterQuery.Proofs.Sql.Binding
import FilterQuery.Proofs.Sql.Erasure
import FilterQuery.Proofs.Sql.Evaluation
import FilterQuery.Proofs.Sql.Grammar
import FilterQuery.Proofs.Sql.Occurrences
import FilterQuery.Proofs.Sql.Parser
import FilterQuery.Proofs.Sql.ReadBack
import FilterQuery.Proofs.Sql.Selection
import FilterQuery.Proofs.Sql.Spelling
import FilterQuery.Proofs.Sql.Symbols
import FilterQuery.Proofs.Sql.Tokens
import FilterQuery.Proofs.Translation
import FilterQuery.Proofs.Traversals
import FilterQuery.Proofs.Trees
import FilterQuery.Proofs.Values
import FilterQuery.Proofs.Visibility
import FilterQuery.Proofs.NarrowerGroups
import FilterQuery.Proofs.Registrations
import FilterQuery.Proofs.Numerals
import FilterQuery.Proofs.Timestamps
import FilterQuery.Proofs.Documents.Store
import FilterQuery.Proofs.Documents.Selection
import FilterQuery.Proofs.Refusals
import FilterQuery.Proofs.Labels
import FilterQuery.Proofs.Stages
import FilterQuery.Proofs.LeafOperands
import FilterQuery.Proofs.Spellings
import FilterQuery.Proofs.Summaries
import FilterQuery.Proofs.GroupSearch
import FilterQuery.Proofs.Rearrangements
import FilterQuery.Proofs.Decimals.Grammar
import FilterQuery.Proofs.Decimals.Exactness
import FilterQuery.Proofs.Json.ReadBack
import FilterQuery.Proofs.Encodings
import FilterQuery.Proofs.Decimals.Canonical
import FilterQuery.Proofs.Documents.Patterns
import FilterQuery.Proofs.Sql.Placeholders
import FilterQuery.Proofs.TimestampLiterals
import FilterQuery.Proofs.Sql.Parameters
import FilterQuery.Proofs.Repetitions
import FilterQuery.Proofs.UnresolvedLiterals
import FilterQuery.Proofs.EnumerationLabels
import FilterQuery.Proofs.DeclarationChecks
import FilterQuery.Proofs.Declarations
import FilterQuery.Proofs.Configurations
import FilterQuery.Proofs.FieldNames
import FilterQuery.Proofs.Documents.Operands
import FilterQuery.Proofs.Decimals.Errors
import FilterQuery.Proofs.Documents.Grammar
import FilterQuery.Proofs.SnakeCase
import FilterQuery.Proofs.Sql.Assemblies
import FilterQuery.Proofs.Sql.Escapes
import FilterQuery.Proofs.Sql.QuotedNames
