import CrateGraph.Main
import CrateGraph.Rdf.Graph
import CrateGraph.Proofs.Extraction.Declarations
import CrateGraph.Proofs.Extraction.ModuleWalk
import CrateGraph.Proofs.Extraction.ReachableDeclarations
import CrateGraph.Proofs.Extraction.Lexicon
import CrateGraph.Proofs.Extraction.CoveredDescriptions
import CrateGraph.Proofs.DistinctValues
import CrateGraph.Proofs.Rdf.DigestTables
import CrateGraph.Proofs.Rdf.CollectedTriples
import CrateGraph.Proofs.Rdf.Call
import CrateGraph.Proofs.Rdf.StatementLine
import CrateGraph.Proofs.Rdf.NTriplesReading
import CrateGraph.Proofs.Rdf.Compaction
import CrateGraph.Proofs.Rdf.TurtleReading
import CrateGraph.Proofs.Iri.EntityAddress
import CrateGraph.Proofs.Extraction.CarriedOut
import CrateGraph.Proofs.Extraction.Descriptions
import CrateGraph.Proofs.Ontology.DistinctTerms
import CrateGraph.Proofs.Extraction.Marks
import CrateGraph.Proofs.Extraction.Instances
import CrateGraph.Proofs.Extraction.ImplementationFates
import CrateGraph.Proofs.Extraction.ImplementedTraits
import CrateGraph.Proofs.Extraction.Tallies
import CrateGraph.Proofs.Extraction.Counters
import CrateGraph.Proofs.Extraction.MemberEdges
import CrateGraph.Proofs.Extraction.Members
import CrateGraph.Proofs.Extraction.MethodKinds
import CrateGraph.Proofs.Extraction.SharedNodes
import CrateGraph.Proofs.Extraction.Origins
import CrateGraph.Proofs.Extraction.ReferentialClosure
import CrateGraph.Proofs.Extraction.EntryOrder
import CrateGraph.Proofs.Extraction.Readings
import CrateGraph.Proofs.Extraction.Reordering
import CrateGraph.Proofs.Extraction.AddressedDescriptions
import CrateGraph.Proofs.Extraction.LegalIris
import CrateGraph.Proofs.Extraction.PrunedRuns
import CrateGraph.Proofs.Extraction.OptionalTriples
import CrateGraph.Proofs.Crate.ReadingEquations
import CrateGraph.Proofs.Text.Characters
import CrateGraph.Proofs.Json.Texts
import CrateGraph.Proofs.Crate.ReadableTypes
import CrateGraph.Proofs.Crate.ReadableCrates
import CrateGraph.Proofs.Crate.Writing
import CrateGraph.Proofs.Crate.ReadingBack
import CrateGraph.Proofs.Crate.NormalForms
import CrateGraph.Proofs.Crate.Shapes
import CrateGraph.Proofs.Crate.UnreadFields
import CrateGraph.Proofs.Document.Reports
import CrateGraph.Proofs.Document.Acceptance
import CrateGraph.Proofs.Text.Utf8Writing
import CrateGraph.Proofs.Rdf.WrittenCharacters
import CrateGraph.Proofs.Extraction.WordedDescriptions
import CrateGraph.Proofs.Extraction.AcceptedDocuments
import CrateGraph.Proofs.Extraction.Parts
import CrateGraph.Proofs.Extraction.ArrangedDescriptions
import CrateGraph.Proofs.Extraction.ContainmentForest
import CrateGraph.Proofs.Extraction.InverseEdges
import CrateGraph.Proofs.Extraction.TypePlaces
import CrateGraph.Proofs.Extraction.LocalReferences
import CrateGraph.Proofs.Extraction.CommutingEntries
import CrateGraph.Proofs.Extraction.IndexOrder
import CrateGraph.Proofs.Extraction.RebasedDescriptions
import CrateGraph.Proofs.Extraction.Rebasing
import CrateGraph.Proofs.Extraction.EnteredModules
import CrateGraph.Proofs.Extraction.WalkSteps
import CrateGraph.Proofs.Extraction.NamespaceSteps
import CrateGraph.Proofs.Extraction.ParentNamespaces
import CrateGraph.Proofs.Extraction.RepeatedListings
import CrateGraph.Proofs.Extraction.RepeatedRuns
import CrateGraph.Proofs.Iri.BuiltInTypes
import CrateGraph.Proofs.Iri.EscapedText
import CrateGraph.Proofs.Rdf.DeclaredNames
import CrateGraph.Proofs.Rdf.LongestNamespace
import CrateGraph.Proofs.Rdf.NamingOrder
import CrateGraph.Proofs.Rdf.LegalNames
import CrateGraph.Proofs.Rdf.CountedLines
import CrateGraph.Proofs.Extraction.StatementLines
import CrateGraph.Proofs.Decimal.WholeNumbers
import CrateGraph.Proofs.Calendar.WrittenDates
import CrateGraph.Proofs.Calendar.WrittenTimes
import CrateGraph.Proofs.Text.Base64Reading
import CrateGraph.Proofs.Rdf.CanonicalTexts
import CrateGraph.Proofs.Extraction.CollectedRuns
import CrateGraph.Proofs.Files.Places
import CrateGraph.Proofs.CommandLine.Stages
import CrateGraph.Proofs.CommandLine.Loading
import CrateGraph.Proofs.CommandLine.CombinedOptions
import CrateGraph.Proofs.CommandLine.Endings
import CrateGraph.Proofs.CommandLine.Logging
import CrateGraph.Proofs.CommandLine.Outputs
import CrateGraph.Proofs.Extraction.NumberedParameters
import CrateGraph.Proofs.Manifest.VersionLookup
import CrateGraph.Proofs.Extraction.DerivedTraits
import CrateGraph.Proofs.Extraction.StatedBounds
import CrateGraph.Proofs.Crate.TypeForms
import CrateGraph.Proofs.Extraction.CompositeTypes
