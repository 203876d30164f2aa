import TreeMatch.Text.Lines
import TreeMatch.Text.Padding
import TreeMatch.Text.Quoted
import TreeMatch.Text.Literal
import TreeMatch.Number.Shortest
import TreeMatch.Number.Numeral
import TreeMatch.Value.Equality
import TreeMatch.Value.Printer
import TreeMatch.Document
import TreeMatch.Diagnostic
import TreeMatch.Grammar.Rule
import TreeMatch.Grammar.Lexeme
import TreeMatch.Pattern.Reader
import TreeMatch.Term.Equality
import TreeMatch.Term.Printer
import TreeMatch.Sexp.Reader
import TreeMatch.Program.Reader
import TreeMatch.Test.Run
import TreeMatch.Test.Severed
import TreeMatch.Compile
import TreeMatch.Script.Writer
import TreeMatch.Painting.Display
import TreeMatch.Command.Run
import TreeMatch.Main
import TreeMatch.Proofs.Compiled
import TreeMatch.Proofs.WellFormed
import TreeMatch.Proofs.Calling
import TreeMatch.Proofs.Transparency
import TreeMatch.Proofs.Truth
import TreeMatch.Proofs.Replies
import TreeMatch.Proofs.Numbering
import TreeMatch.Proofs.Positions
import TreeMatch.Proofs.Explanation
import TreeMatch.Proofs.Recordings
import TreeMatch.Proofs.Retention
import TreeMatch.Proofs.Verdict
import TreeMatch.Proofs.Lexemes
import TreeMatch.Proofs.Scanning
import TreeMatch.Proofs.Tokens
import TreeMatch.Proofs.Spelling
import TreeMatch.Proofs.Boundaries
import TreeMatch.Proofs.Derivation
import TreeMatch.Proofs.Completeness
import TreeMatch.Proofs.Relocation
import TreeMatch.Proofs.Grafting
import TreeMatch.Proofs.Slicing
import TreeMatch.Proofs.Readability
import TreeMatch.Proofs.Printing
import TreeMatch.Proofs.Portrait
import TreeMatch.Proofs.Expressions
import TreeMatch.Proofs.Reprinting
import TreeMatch.Proofs.Excerpts
import TreeMatch.Proofs.Viability
import TreeMatch.Proofs.Treatments
import TreeMatch.Proofs.Dependence
import TreeMatch.Proofs.Reporting
import TreeMatch.Proofs.Scoping
import TreeMatch.Proofs.Inline
import TreeMatch.Proofs.Naming
import TreeMatch.Proofs.Listing
import TreeMatch.Proofs.Hygiene
import TreeMatch.Proofs.Calls
import TreeMatch.Proofs.Nesting
import TreeMatch.Proofs.Legibility
import TreeMatch.Proofs.Trees
import TreeMatch.Proofs.Supply
import TreeMatch.Proofs.Columns
import TreeMatch.Proofs.Enclosure
import TreeMatch.Proofs.Preorder
import TreeMatch.Proofs.Coloring
import TreeMatch.Proofs.Contract
import TreeMatch.Proofs.Serving
import TreeMatch.Proofs.Rendering
import TreeMatch.Proofs.Conduct
import TreeMatch.Proofs.Context
import TreeMatch.Proofs.Lockstep
import TreeMatch.Proofs.Likeness
import TreeMatch.Proofs.Occupancy
import TreeMatch.Proofs.Parentheses
import TreeMatch.Proofs.Excision
import TreeMatch.Proofs.Recounting
import TreeMatch.Proofs.Partition
import TreeMatch.Proofs.Decimals
import TreeMatch.Proofs.Unambiguity
import TreeMatch.Proofs.Visits
import TreeMatch.Proofs.Storage
import TreeMatch.Proofs.Choices
import TreeMatch.Proofs.Allotment
import TreeMatch.Proofs.Offsets
