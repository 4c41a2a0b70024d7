import ManifestLint.Main
import ManifestLint.Token.Lexer
import ManifestLint.Proofs.Layout.Findings
import ManifestLint.Proofs.Linter.Convergence
import ManifestLint.Proofs.Json.Lexeme
import ManifestLint.Proofs.Json.RoundTrip
import ManifestLint.Proofs.Json.Canonical
import ManifestLint.Proofs.Token.RoundTrip
import ManifestLint.Proofs.Linter.WriteBack
import ManifestLint.Proofs.Cut.Statement
import ManifestLint.Proofs.Cut.View
import ManifestLint.Proofs.Cut.Findings
import ManifestLint.Proofs.Layering.Conformance
import ManifestLint.Proofs.Linter.Outcome
import ManifestLint.Proofs.Spelling.Absolute
import ManifestLint.Proofs.Spelling.Conventions
import ManifestLint.Proofs.Linter.FileOrder
import ManifestLint.Proofs.Linter.Normalization
import ManifestLint.Proofs.Report.Order
import ManifestLint.Proofs.NodePattern.Idempotence
import ManifestLint.Proofs.NodePattern.Stripping
import ManifestLint.Proofs.Layering.DomainSearch
import ManifestLint.Proofs.Parameter.Reading
import ManifestLint.Proofs.Layering.Header
import ManifestLint.Proofs.Layering.Titles
import ManifestLint.Proofs.Lexer.Lossless
import ManifestLint.Proofs.Linter.Discovery
import ManifestLint.Proofs.Linter.Exclusion
import ManifestLint.Proofs.Token.Neighbours
import ManifestLint.Proofs.Report.RoundTrip
