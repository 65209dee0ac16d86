import ContingentClaims.Main
import ContingentClaims.Menu.Layout
import ContingentClaims.Tree.Shape
import ContingentClaims.Proofs.Command.Counting
import ContingentClaims.Proofs.Command.Outline
import ContingentClaims.Proofs.Command.Validation
import ContingentClaims.Proofs.Decoding.Access
import ContingentClaims.Proofs.Decoding.FirstFault
import ContingentClaims.Proofs.Decoding.Likeness
import ContingentClaims.Proofs.Decoding.NormalForm
import ContingentClaims.Proofs.Ids.Numbering
import ContingentClaims.Proofs.Ids.Resumption
import ContingentClaims.Proofs.Menu.Completeness
import ContingentClaims.Proofs.Menu.Construction
import ContingentClaims.Proofs.Menu.Meaning
import ContingentClaims.Proofs.Menu.SelfCheck
import ContingentClaims.Proofs.Script.Choice
import ContingentClaims.Proofs.Script.Completion
import ContingentClaims.Proofs.Session.Display
import ContingentClaims.Proofs.Session.Hovering
import ContingentClaims.Proofs.Session.Independence
import ContingentClaims.Proofs.Session.Labels
import ContingentClaims.Proofs.Session.ReadOnly
import ContingentClaims.Proofs.Session.Replacement
import ContingentClaims.Proofs.Session.Substitution
import ContingentClaims.Proofs.Tree.Equality
import ContingentClaims.Proofs.Tree.Transport
