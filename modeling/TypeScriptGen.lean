import TypeScriptGen.Annotation.Reader
import TypeScriptGen.Artifact
import TypeScriptGen.Expression.Library
import TypeScriptGen.Main
import TypeScriptGen.Proofs.Balance.Output
import TypeScriptGen.Proofs.BodyPrinting
import TypeScriptGen.Proofs.CallOrder
import TypeScriptGen.Proofs.ConfigRoundTrip
import TypeScriptGen.Proofs.Gate
import TypeScriptGen.Proofs.Indentation
import TypeScriptGen.Proofs.LineBreaks
import TypeScriptGen.Proofs.Pruning
import TypeScriptGen.Signature
import TypeScriptGen.Proofs.LocatorRuns
import TypeScriptGen.Proofs.Interleaving
import TypeScriptGen.Proofs.Verdict
import TypeScriptGen.Proofs.ValidationOrder
import TypeScriptGen.Proofs.TypeGrammar
import TypeScriptGen.Proofs.TypeStructure
import TypeScriptGen.Proofs.CompilerLines
import TypeScriptGen.Proofs.Categories
import TypeScriptGen.Proofs.MemberAddition
import TypeScriptGen.Proofs.Spacing
import TypeScriptGen.Proofs.LineRoles
import TypeScriptGen.Proofs.ParameterModifiers
import TypeScriptGen.Proofs.SuperCalls
import TypeScriptGen.Proofs.Naming
import TypeScriptGen.Proofs.FormattingFallback
import TypeScriptGen.Proofs.FormatterChains
import TypeScriptGen.Proofs.ConfigLoading
import TypeScriptGen.Proofs.LevelReadings
import TypeScriptGen.Proofs.Json.Extent
import TypeScriptGen.Proofs.ConfigSaving
import TypeScriptGen.Proofs.LiteralLayout
import TypeScriptGen.Proofs.ExpressionBodies
import TypeScriptGen.Proofs.DocComments
import TypeScriptGen.Proofs.BodyCallbacks
import TypeScriptGen.Proofs.DiagnosticTexts
import TypeScriptGen.Proofs.MissingArguments
import TypeScriptGen.Proofs.LiteralTypes
import TypeScriptGen.Proofs.LegibleMembers
import TypeScriptGen.Proofs.BodyReplay
import TypeScriptGen.Proofs.LogSetups
