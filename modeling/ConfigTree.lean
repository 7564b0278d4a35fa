import ConfigTree.Main
import ConfigTree.Tree.Change
import ConfigTree.Value.Path
import ConfigTree.Proofs.Command.Check
import ConfigTree.Proofs.Config.Extension
import ConfigTree.Proofs.Config.Fallback
import ConfigTree.Proofs.Config.Inference
import ConfigTree.Proofs.Config.Path
import ConfigTree.Proofs.Config.Place
import ConfigTree.Proofs.Config.Plain
import ConfigTree.Proofs.Config.Reading
import ConfigTree.Proofs.Config.Rebuild
import ConfigTree.Proofs.Config.ReferenceList
import ConfigTree.Proofs.Config.TypedReference
import ConfigTree.Proofs.Decimal.Nearest
import ConfigTree.Proofs.Decimal.Written
import ConfigTree.Proofs.Ini.Concat
import ConfigTree.Proofs.Ini.Significant
import ConfigTree.Proofs.Ini.Written
import ConfigTree.Proofs.Reference.Append
import ConfigTree.Proofs.Reference.Bound
import ConfigTree.Proofs.Reference.Escape
import ConfigTree.Proofs.Reference.Expand
import ConfigTree.Proofs.Reference.Stack
import ConfigTree.Proofs.Text.Lowercase
import ConfigTree.Proofs.Text.Pieces
import ConfigTree.Proofs.Text.Trim
import ConfigTree.Proofs.Tree.Change
import ConfigTree.Proofs.Tree.Content
import ConfigTree.Proofs.Tree.Descent
import ConfigTree.Proofs.Tree.Fault
import ConfigTree.Proofs.Tree.Keys
import ConfigTree.Proofs.Tree.Links
import ConfigTree.Proofs.Tree.Read
import ConfigTree.Proofs.Tree.Storage
import ConfigTree.Proofs.Value.Cut
import ConfigTree.Proofs.Value.Grammar
import ConfigTree.Proofs.Value.Integer
import ConfigTree.Proofs.Value.Literal
import ConfigTree.Proofs.Value.NumberGrammar
import ConfigTree.Proofs.Value.Quoted
