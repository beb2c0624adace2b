import RegexCompiler.Alphabet
import RegexCompiler.Automaton.Listing
import RegexCompiler.Automaton.Machine
import RegexCompiler.Automaton.Path
import RegexCompiler.CommandLine
import RegexCompiler.Compile
import RegexCompiler.Expr.Assembly
import RegexCompiler.Expr.Context
import RegexCompiler.Expr.Grammar
import RegexCompiler.Expr.Language
import RegexCompiler.Expr.Postfix
import RegexCompiler.Expr.Regroup
import RegexCompiler.Expr.Scan
import RegexCompiler.Json.Reader
import RegexCompiler.Json.Writer
import RegexCompiler.Log
import RegexCompiler.Main
import RegexCompiler.Service.Routes
import RegexCompiler.Workspace.Step
import RegexCompiler.Proofs.Agreement
import RegexCompiler.Proofs.Automaton.Description
import RegexCompiler.Proofs.Automaton.Listing
import RegexCompiler.Proofs.Automaton.Names
import RegexCompiler.Proofs.Compile.Listing
import RegexCompiler.Proofs.Compile.Verdict
import RegexCompiler.Proofs.Expr.Decode
import RegexCompiler.Proofs.Expr.Order
import RegexCompiler.Proofs.Expr.Size
import RegexCompiler.Proofs.Expr.Turns
import RegexCompiler.Proofs.Log
import RegexCompiler.Proofs.Scan.Balance
import RegexCompiler.Proofs.Scan.Completion
import RegexCompiler.Proofs.Scan.Foreign
import RegexCompiler.Proofs.Scan.Group
import RegexCompiler.Proofs.Session.Decode
import RegexCompiler.Proofs.Session.Stream
import RegexCompiler.Proofs.Store.Grouping
import RegexCompiler.Proofs.Store.Language
import RegexCompiler.Proofs.Workspace.Effect
import RegexCompiler.Proofs.Workspace.Lineage
import RegexCompiler.Proofs.Workspace.Validity
