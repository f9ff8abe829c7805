import FxmlCodegen.Compile
import FxmlCodegen.Discovery.FileTree
import FxmlCodegen.Discovery.Volume
import FxmlCodegen.Document.Basic
import FxmlCodegen.Document.Codec
import FxmlCodegen.Document.Element
import FxmlCodegen.Document.Instruction
import FxmlCodegen.Document.Reader
import FxmlCodegen.Document.Tag
import FxmlCodegen.Emit.Attribute
import FxmlCodegen.Emit.Element
import FxmlCodegen.Emit.Resource
import FxmlCodegen.Emit.Value
import FxmlCodegen.Failure
import FxmlCodegen.Java.Codec
import FxmlCodegen.Java.Expr
import FxmlCodegen.Java.Literal
import FxmlCodegen.Java.Printer
import FxmlCodegen.Java.SourceFile
import FxmlCodegen.Java.Sources
import FxmlCodegen.Json.Double
import FxmlCodegen.Json.Fields
import FxmlCodegen.Json.Reader
import FxmlCodegen.Json.Writer
import FxmlCodegen.Markup.Attributes
import FxmlCodegen.Markup.Entity
import FxmlCodegen.Markup.Event
import FxmlCodegen.Markup.Fault
import FxmlCodegen.Naming.Fresh
import FxmlCodegen.Naming.Identify
import FxmlCodegen.Naming.Scope
import FxmlCodegen.Options
import FxmlCodegen.Proofs.Attempts
import FxmlCodegen.Proofs.BatchFailure
import FxmlCodegen.Proofs.CapturedVariables
import FxmlCodegen.Proofs.ClosedBatch
import FxmlCodegen.Proofs.CodeCodec
import FxmlCodegen.Proofs.CompileOutcome
import FxmlCodegen.Proofs.DeclaredBeforeUse
import FxmlCodegen.Proofs.DiscoveryOrder
import FxmlCodegen.Proofs.DocumentCodec
import FxmlCodegen.Proofs.EditedDocument
import FxmlCodegen.Proofs.EmittedLines
import FxmlCodegen.Proofs.EmptyNames
import FxmlCodegen.Proofs.EventTrees
import FxmlCodegen.Proofs.ExpressionText
import FxmlCodegen.Proofs.ExtendedFiles
import FxmlCodegen.Proofs.FactoryMethods
import FxmlCodegen.Proofs.FirstFault
import FxmlCodegen.Proofs.FlatNaming
import FxmlCodegen.Proofs.GraphBuilt
import FxmlCodegen.Proofs.IncludeStatements
import FxmlCodegen.Proofs.InstructionGrammar
import FxmlCodegen.Proofs.InstructionText
import FxmlCodegen.Proofs.LossyText
import FxmlCodegen.Proofs.MarkupRoundTrip
import FxmlCodegen.Proofs.MemberLines
import FxmlCodegen.Proofs.ObjectGraph
import FxmlCodegen.Proofs.ProperExpressions
import FxmlCodegen.Proofs.QualifiedNames
import FxmlCodegen.Proofs.QualifiedTypes
import FxmlCodegen.Proofs.ReadHeads
import FxmlCodegen.Proofs.Recompile
import FxmlCodegen.Proofs.RepeatedNaming
import FxmlCodegen.Proofs.ResourcePaths
import FxmlCodegen.Proofs.Respelling
import FxmlCodegen.Proofs.Schedule
import FxmlCodegen.Proofs.ScopeRuns
import FxmlCodegen.Proofs.SingleReturn
import FxmlCodegen.Proofs.SourceKeys
import FxmlCodegen.Proofs.StandaloneDocument
import FxmlCodegen.Proofs.StringLiterals
import FxmlCodegen.Proofs.TagText
import FxmlCodegen.Proofs.UniqueNames
import FxmlCodegen.Table
import FxmlCodegen.Text.Blank
import FxmlCodegen.Text.Bytes
import FxmlCodegen.Text.Find
import FxmlCodegen.Text.LetterCase
import FxmlCodegen.Text.Lossy
import FxmlCodegen.Text.Lowercase
import FxmlCodegen.Text.Quoted
import FxmlCodegen.Text.Split
import FxmlCodegen.Text.WordChar
