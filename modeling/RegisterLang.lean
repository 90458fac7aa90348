import RegisterLang.Main
import RegisterLang.Proofs.Build.CleanUp
import RegisterLang.Proofs.Bytecode.Assembly
import RegisterLang.Proofs.Bytecode.Constants
import RegisterLang.Proofs.Bytecode.Heights
import RegisterLang.Proofs.Bytecode.Layout
import RegisterLang.Proofs.Bytecode.Listing
import RegisterLang.Proofs.Bytecode.Offences
import RegisterLang.Proofs.Bytecode.Patches
import RegisterLang.Proofs.Bytecode.Relocation
import RegisterLang.Proofs.CommandLine.Interpretation
import RegisterLang.Proofs.Dialect.Agreement
import RegisterLang.Proofs.Dialect.Block
import RegisterLang.Proofs.Dialect.Indentation
import RegisterLang.Proofs.Dialect.Jumps
import RegisterLang.Proofs.Dialect.Pieces
import RegisterLang.Proofs.Dialect.Recovery
import RegisterLang.Proofs.Dialect.Rust
import RegisterLang.Proofs.Dialect.Statements
import RegisterLang.Proofs.Dialect.Swift
import RegisterLang.Proofs.Grammar.Acceptance
import RegisterLang.Proofs.Grammar.Blame
import RegisterLang.Proofs.Grammar.Completeness
import RegisterLang.Proofs.Grammar.Completion
import RegisterLang.Proofs.Grammar.Discipline
import RegisterLang.Proofs.Grammar.Factors
import RegisterLang.Proofs.Grammar.Headway
import RegisterLang.Proofs.Grammar.Levels
import RegisterLang.Proofs.Grammar.Lookahead
import RegisterLang.Proofs.Grammar.Remainder
import RegisterLang.Proofs.Grammar.Report
import RegisterLang.Proofs.Grammar.Runs
import RegisterLang.Proofs.Grammar.Soundness
import RegisterLang.Proofs.Grammar.Stages
import RegisterLang.Proofs.Grammar.Tree
import RegisterLang.Proofs.Grammar.Trivia
import RegisterLang.Proofs.Grammar.Words
import RegisterLang.Proofs.Input.Portions
import RegisterLang.Proofs.Machine.Echo
import RegisterLang.Proofs.Machine.Expressions
import RegisterLang.Proofs.Machine.Input
import RegisterLang.Proofs.Machine.Limits
import RegisterLang.Proofs.Machine.Run
import RegisterLang.Proofs.Machine.Safety
import RegisterLang.Proofs.Machine.Simulation
import RegisterLang.Proofs.Semantics.Formula
import RegisterLang.Proofs.Semantics.Meaning
import RegisterLang.Proofs.Shell.PlainWords
import RegisterLang.Proofs.Source.Walk
import RegisterLang.Proofs.Text.Encoding
import RegisterLang.Proofs.Text.Numerals
import RegisterLang.Proofs.Text.Places
import RegisterLang.Proofs.Token.Coverage
import RegisterLang.Proofs.Token.Scan
import RegisterLang.Proofs.Token.Segment
import RegisterLang.Proofs.Token.Stepping
import RegisterLang.Proofs.Token.Writing
