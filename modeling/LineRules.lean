import LineRules.Text.Case
import LineRules.Text.Word
import LineRules.Text.Digit
import LineRules.Text.Printable
import LineRules.Text.Identifier
import LineRules.Text.Blank
import LineRules.Text.Quoted
import LineRules.Text.Line
import LineRules.Text.Utf8
import LineRules.Keyed
import LineRules.Value
import LineRules.Pattern.Results
import LineRules.Pattern.Basic
import LineRules.Rule.Draft
import LineRules.Rule.Message
import LineRules.RuleSet.Run
import LineRules.Builtin.Store
import LineRules.Format.Plan
import LineRules.Token.Plugin
import LineRules.Config.Load
import LineRules.Files.Source
import LineRules.Files.Glob
import LineRules.Format.File
import LineRules.Toml.Document
import LineRules.Token.Parsers
import LineRules.Cli.Run
import LineRules.Report.Json
import LineRules.Report.Terminal
import LineRules.Main
import LineRules.Proofs.Script.Lines
import LineRules.Proofs.Script.Settled
import LineRules.Proofs.Script.Tokens
import LineRules.Proofs.Builtin.Whitespace
import LineRules.Proofs.RuleSet.Settling
import LineRules.Proofs.Text.Openings
import LineRules.Proofs.Builtin.Settling
import LineRules.Proofs.Text.Lines
import LineRules.Proofs.Format.FixedPoint
import LineRules.Proofs.Format.Parts
import LineRules.Proofs.StyleSheet.Values
import LineRules.Proofs.StyleSheet.Colours
import LineRules.Proofs.StyleSheet.Declarations
import LineRules.Proofs.StyleSheet.Hex
import LineRules.Proofs.StyleSheet.Colons
import LineRules.Proofs.StyleSheet.Calls
import LineRules.Proofs.StyleSheet.Lengths
import LineRules.Proofs.StyleSheet.Lines
import LineRules.Proofs.StyleSheet.Selectors
import LineRules.Proofs.StyleSheet.CallLengths
import LineRules.Proofs.StyleSheet.Brackets
import LineRules.Proofs.Checker.Recheck
import LineRules.Proofs.Checker.Order
import LineRules.Proofs.Config.Accepted
import LineRules.Proofs.Config.Faults
import LineRules.Proofs.RuleSet.Paths
import LineRules.Proofs.Report.Marks
import LineRules.Proofs.Page.Blocks
import LineRules.Proofs.Page.VoidTags
import LineRules.Proofs.Page.Touched
import LineRules.Proofs.Page.Scans
import LineRules.Proofs.Config.KeptRules
import LineRules.Proofs.RuleSet.Every
import LineRules.Proofs.RuleSet.Stops
import LineRules.Proofs.Format.Stops
import LineRules.Proofs.Builtin.Stops
import LineRules.Proofs.Config.Usable
import LineRules.Proofs.RuleSet.Layers
import LineRules.Proofs.Format.Changes
import LineRules.Proofs.Page.Again
import LineRules.Proofs.RuleSet.Aliases
import LineRules.Proofs.Builtin.Embedded
import LineRules.Proofs.RuleSet.Tracking
import LineRules.Proofs.Format.Attribution
import LineRules.Proofs.Token.Ids
import LineRules.Proofs.Token.Reports
import LineRules.Proofs.RuleSet.Failures
import LineRules.Proofs.RuleSet.Sequence
import LineRules.Proofs.Builtin.Executable
import LineRules.Proofs.Page.ClassOrder
import LineRules.Proofs.StyleSheet.Recolouring
import LineRules.Proofs.Report.Difference
import LineRules.Proofs.Rule.Messages
import LineRules.Proofs.RuleSet.Names
import LineRules.Proofs.Token.Loading
import LineRules.Proofs.Files.Spelled
import LineRules.Proofs.Config.Dotted
import LineRules.Proofs.Token.Positions
