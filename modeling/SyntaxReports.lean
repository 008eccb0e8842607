import SyntaxReports.Failure.Classification
import SyntaxReports.Main
import SyntaxReports.Proofs.Composition
import SyntaxReports.Proofs.ConstructorLines
import SyntaxReports.Proofs.DeclarationAlignment
import SyntaxReports.Proofs.DeclarationInk
import SyntaxReports.Proofs.DeclarationRefusal
import SyntaxReports.Proofs.DeclarationRows
import SyntaxReports.Proofs.DeclarationUnambiguous
import SyntaxReports.Proofs.EmptyApplication
import SyntaxReports.Proofs.HintsUnambiguous
import SyntaxReports.Proofs.Indentation
import SyntaxReports.Proofs.ReportWellFormed
import SyntaxReports.Proofs.SampleTotal
import SyntaxReports.Proofs.Snippet
import SyntaxReports.Proofs.TrailingBlanks
import SyntaxReports.Proofs.TypeBrackets
import SyntaxReports.Proofs.TypeNames
import SyntaxReports.Proofs.TypeRefusal
import SyntaxReports.Proofs.TypeUnambiguous
