import PhpDecl.Command.World
import PhpDecl.Main
import PhpDecl.Session
import PhpDecl.Proofs.Layouts
import PhpDecl.Proofs.Likeness
import PhpDecl.Proofs.StyleLikeness
import PhpDecl.Proofs.Essence
import PhpDecl.Proofs.Verdict
import PhpDecl.Proofs.Callable
import PhpDecl.Proofs.LineWidth
import PhpDecl.Proofs.Marks
import PhpDecl.Proofs.Quiet
import PhpDecl.Proofs.Survival
import PhpDecl.Proofs.Indentation
import PhpDecl.Proofs.Building
import PhpDecl.Proofs.Unprintable
import PhpDecl.Proofs.Consultation
import PhpDecl.Proofs.EmptyLines
import PhpDecl.Proofs.Margin
import PhpDecl.Proofs.BlankLines
import PhpDecl.Proofs.Acceptance
import PhpDecl.Proofs.Describable
import PhpDecl.Proofs.Sessions
import PhpDecl.Proofs.Sequencing
import PhpDecl.Proofs.Wrapping
import PhpDecl.Proofs.Pruning
import PhpDecl.Proofs.Places
import PhpDecl.Proofs.Tokens
import PhpDecl.Proofs.Phrases
import PhpDecl.Proofs.Confinement
import PhpDecl.Proofs.Readings
import PhpDecl.Proofs.Regrouping
import PhpDecl.Proofs.Blocks
import PhpDecl.Proofs.Literals
import PhpDecl.Proofs.TypeForm
import PhpDecl.Proofs.Realignment
