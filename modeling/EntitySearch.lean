import EntitySearch.Main
import EntitySearch.Proofs.Compilation
import EntitySearch.Proofs.QueryMeaning
import EntitySearch.Proofs.ConfigValidity
import EntitySearch.Proofs.RegistryRun
import EntitySearch.Proofs.RequestAcceptance
import EntitySearch.Proofs.RecordReading
import EntitySearch.Proofs.SourceReading
import EntitySearch.Proofs.DeclarationReading
import EntitySearch.Proofs.LoadedDeclarations
import EntitySearch.Proofs.CharacterProperties
import EntitySearch.Proofs.TermFolding
import EntitySearch.Proofs.AccentInsensitivity
import EntitySearch.Proofs.SourceAgreement
import EntitySearch.Proofs.LoaderAgreement
import EntitySearch.Proofs.WrittenText
import EntitySearch.Proofs.DeclarationRoundTrip
import EntitySearch.Proofs.RegistryHistory
import EntitySearch.Proofs.SpelledRequest
import EntitySearch.Proofs.OperatorSafety
import EntitySearch.Proofs.PagingIndependence
import EntitySearch.Proofs.OptionMembers
import EntitySearch.Proofs.SpelledOptions
import EntitySearch.Proofs.FilterComposition
import EntitySearch.Proofs.QueryReading
import EntitySearch.Proofs.DeclarationAcceptance
import EntitySearch.Proofs.BatchRegistration
import EntitySearch.Proofs.ByteOrder
import EntitySearch.Proofs.TextCoverage
import EntitySearch.Proofs.RegistrationOrder
import EntitySearch.Proofs.LayoutAgreement
import EntitySearch.Proofs.EastAsianText
import EntitySearch.Proofs.ShapeComplaints
import EntitySearch.Proofs.PageNumbers
import EntitySearch.Proofs.TermConcatenation
import EntitySearch.Proofs.IndexedDocuments
import EntitySearch.Proofs.FoldingOrder
import EntitySearch.Proofs.ConfigLines
