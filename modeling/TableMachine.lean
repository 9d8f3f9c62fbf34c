import TableMachine.Unicode.Table
import TableMachine.Unicode.Category
import TableMachine.Unicode.Property
import TableMachine.Unicode.CaseMap
import TableMachine.Regex.Ucd.Category
import TableMachine.Regex.Ucd.Script
import TableMachine.Regex.Ucd.Property
import TableMachine.Regex.Ucd.Age
import TableMachine.Regex.Ucd.Break
import TableMachine.Regex.Ucd.CaseFold
import TableMachine.Text.Case
import TableMachine.Text.Quoted
import TableMachine.Text.Utf8
import TableMachine.Json.Value
import TableMachine.Json.Write
import TableMachine.Json.Read
import TableMachine.Regex.CharSet
import TableMachine.Naming.Label
import TableMachine.Naming.Notification
import TableMachine.Table.Basic
import TableMachine.Table.OfJson
import TableMachine.Table.Format
import TableMachine.Regex.Syntax
import TableMachine.Regex.Nesting
import TableMachine.Regex.Parse
import TableMachine.Regex.Expr
import TableMachine.Regex.Resolve
import TableMachine.Regex.Utf8
import TableMachine.Regex.Size
import TableMachine.Regex.Program
import TableMachine.Regex.Report
import TableMachine.Regex.Pattern
import TableMachine.Matcher
import TableMachine.Yaml.Error
import TableMachine.Table.Error
import TableMachine.Checksum
import TableMachine.Compiled.Basic
import TableMachine.Compiled.Render
import TableMachine.Dispatch
import TableMachine.Listeners
import TableMachine.Machine
import TableMachine.Runner
import TableMachine.Table.Text
import TableMachine.Yaml.Token
import TableMachine.Yaml.Scanner
import TableMachine.Yaml.Event
import TableMachine.Yaml.Document
import TableMachine.Yaml.Scalar
import TableMachine.Yaml.Decode
import TableMachine.Yaml.Value
import TableMachine.Text.Style
import TableMachine.Files
import TableMachine.Log
import TableMachine.Log.Filter
import TableMachine.Config.Basic
import TableMachine.Config.Yaml
import TableMachine.Config.Load
import TableMachine.Diagnostics
import TableMachine.Console
import TableMachine.Service
import TableMachine.Tool.Spec
import TableMachine.Tool.Styled
import TableMachine.Tool.Usage
import TableMachine.Tool.Similar
import TableMachine.Tool.Failure
import TableMachine.Tool.Parse
import TableMachine.Tool.Commands
import TableMachine.Tool.Repl
import TableMachine.Tool.Program
import TableMachine.Main
import TableMachine.Proofs.Builder
import TableMachine.Proofs.Compile
import TableMachine.Proofs.Interpreter
import TableMachine.Proofs.Registry
import TableMachine.Proofs.UpdateChain
import TableMachine.Proofs.Reading
import TableMachine.Proofs.RoundTrip
import TableMachine.Proofs.Utf8
import TableMachine.Proofs.Runner
import TableMachine.Proofs.ToolRun
import TableMachine.Proofs.Names
import TableMachine.Proofs.Layout
import TableMachine.Proofs.Terminal
import TableMachine.Proofs.CompileErrors
import TableMachine.Proofs.Session
import TableMachine.Proofs.ConfigLayers
import TableMachine.Proofs.StreamRun
import TableMachine.Proofs.Listing
import TableMachine.Proofs.KeyGrammar
