import ConceptScript.FileTree
import ConceptScript.Main
import ConceptScript.Proofs.Catalog.Distinct
import ConceptScript.Proofs.Script.Machine
import ConceptScript.Proofs.Script.Grammar
import ConceptScript.Proofs.Script.Reading
import ConceptScript.Proofs.Script.Acceptance
import ConceptScript.Proofs.Script.Locality
import ConceptScript.Proofs.Script.CutShort
import ConceptScript.Proofs.Script.Occurrence
import ConceptScript.Proofs.Script.Trace
import ConceptScript.Proofs.Script.Boundary
import ConceptScript.Proofs.Script.Continuation
import ConceptScript.Proofs.Script.FaultPlace
import ConceptScript.Proofs.Script.Reporting
import ConceptScript.Proofs.Text.Cut
import ConceptScript.Proofs.Text.Line
import ConceptScript.Proofs.Text.Position
import ConceptScript.Proofs.Token.Extension
import ConceptScript.Proofs.Token.Spelling
import ConceptScript.Proofs.Token.Tiling
import ConceptScript.Proofs.Token.Writing
import ConceptScript.Proofs.Token.Continuation
import ConceptScript.Proofs.Analysis.Construct
import ConceptScript.Proofs.Analysis.CursorLine
import ConceptScript.Proofs.Analysis.ValidText
import ConceptScript.Proofs.Analysis.OpenLiteral
import ConceptScript.Proofs.Analysis.SharedOffset
import ConceptScript.Proofs.Analysis.Progress
import ConceptScript.Proofs.Analysis.ActiveKeyword
import ConceptScript.Proofs.Analysis.EnclosingBlocks
import ConceptScript.Proofs.Analysis.OwnConcept
import ConceptScript.Proofs.Analysis.InFront
import ConceptScript.Proofs.Document.Cache
import ConceptScript.Proofs.Editor.QueryHistory
import ConceptScript.Proofs.Editor.FreshAnswers
import ConceptScript.Proofs.Editor.ActiveMember
import ConceptScript.Proofs.Editor.FirstSignature
import ConceptScript.Proofs.Editor.OfferedKeywords
import ConceptScript.Proofs.Workspace.Interleaving
import ConceptScript.Proofs.Workspace.Lifecycle
import ConceptScript.Proofs.Workspace.Delivery
import ConceptScript.Proofs.Script.Agreement
import ConceptScript.Proofs.Script.TypeOrder
import ConceptScript.Proofs.Editor.TypeOrder
import ConceptScript.Proofs.Script.Layout
import ConceptScript.Proofs.Workspace.CompletePass
import ConceptScript.Proofs.Workspace.PassHistory
import ConceptScript.Proofs.Server.TextMap
import ConceptScript.Proofs.Editor.ExactDiagnostics
import ConceptScript.Proofs.Editor.KnownConcept
import ConceptScript.Proofs.Analysis.NextBoundary
import ConceptScript.Proofs.Editor.SignatureOrder
import ConceptScript.Proofs.Text.Clamp
import ConceptScript.Proofs.Editor.HoverRange
import ConceptScript.Proofs.Editor.MemberList
import ConceptScript.Proofs.Token.Idle
import ConceptScript.Proofs.Analysis.CommentLine
import ConceptScript.Proofs.Text.PositionIndex
import ConceptScript.Proofs.Text.Utf16
import ConceptScript.Proofs.Analysis.LaterLines
import ConceptScript.Proofs.Editor.MemberLabels
import ConceptScript.Proofs.Analysis.CursorInvariant
import ConceptScript.Proofs.Catalog.Validation
import ConceptScript.Proofs.Catalog.Directory
import ConceptScript.Proofs.Text.ByteOrder
