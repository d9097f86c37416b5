import CodeFolding.Main
import CodeFolding.Proofs.Block.Blank
import CodeFolding.Proofs.Block.Indent
import CodeFolding.Proofs.Block.Nesting
import CodeFolding.Proofs.Command.Agreement
import CodeFolding.Proofs.FoldedFile
import CodeFolding.Proofs.Line.Tiling
import CodeFolding.Proofs.Survey.CommentLines
import CodeFolding.Proofs.Survey.Opaque
import CodeFolding.Proofs.Text.Bytes
import CodeFolding.Proofs.FoldedProject
import CodeFolding.Proofs.FoldCount
import CodeFolding.Proofs.Header.Introduction
import CodeFolding.Proofs.Header.Qualified
import CodeFolding.Proofs.Header.Statement
import CodeFolding.Proofs.FoldedProject.Order
import CodeFolding.Proofs.FoldedProject.Scanned
import CodeFolding.Proofs.Settings.KeyDistance
import CodeFolding.Proofs.Settings.Merge
import CodeFolding.Proofs.Settings.UnknownKeys
import CodeFolding.Proofs.Settings.Validity
import CodeFolding.Proofs.Activation
import CodeFolding.Proofs.Scanner.Run
import CodeFolding.Proofs.Survey.Front
import CodeFolding.Proofs.Survey.Narrowed
import CodeFolding.Proofs.Header.Annotation
import CodeFolding.Proofs.Survey.CommentText
import CodeFolding.Proofs.Survey.Quoted
import CodeFolding.Proofs.Tree.Enclosing
import CodeFolding.Proofs.Scanner.Literal
import CodeFolding.Proofs.Header.Name
import CodeFolding.Proofs.Survey.HeaderLine
