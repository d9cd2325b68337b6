import TracingLexer.Automaton.Window
import TracingLexer.Main
import TracingLexer.Proofs.Agreement
import TracingLexer.Proofs.Canonical
import TracingLexer.Proofs.Concatenation
import TracingLexer.Proofs.Depiction
import TracingLexer.Proofs.Exploration
import TracingLexer.Proofs.Export
import TracingLexer.Proofs.Folding
import TracingLexer.Proofs.Grammar
import TracingLexer.Proofs.HalfUp
import TracingLexer.Proofs.Insertion
import TracingLexer.Proofs.Listings
import TracingLexer.Proofs.Localisation
import TracingLexer.Proofs.Numbering
import TracingLexer.Proofs.Progression
import TracingLexer.Proofs.Reporting
import TracingLexer.Proofs.Rescanning
import TracingLexer.Proofs.Rewriting
import TracingLexer.Proofs.Scopes
import TracingLexer.Proofs.Straying
import TracingLexer.Proofs.Tracing
import TracingLexer.Proofs.Unfolding
import TracingLexer.Proofs.Views
import TracingLexer.Proofs.Warnings
import TracingLexer.Proofs.Tabulation
import TracingLexer.Proofs.TokenFile
import TracingLexer.Scanner.ByCharacter
import TracingLexer.Proofs.Scanner.Walks
import TracingLexer.Proofs.Scanner.Matching
import TracingLexer.Proofs.Advancing
