import Tabular.Main
import Tabular.Model.Workbench
import Tabular.Storage.Disk
import Tabular.Proofs.Definition.Agreement
import Tabular.Proofs.Definition.Unambiguous
import Tabular.Proofs.Storage.Failure
import Tabular.Proofs.Storage.Neighbours
import Tabular.Proofs.Storage.Reading
import Tabular.Proofs.Storage.Stem
import Tabular.Proofs.Validation.Verdict
import Tabular.Proofs.Definition.Determined
import Tabular.Proofs.Model.Ownership
import Tabular.Proofs.Name.Exact
import Tabular.Proofs.Definition.Joined
import Tabular.Proofs.Definition.Kept
import Tabular.Proofs.Definition.RelationshipName
import Tabular.Proofs.Definition.Blame
import Tabular.Proofs.Definition.Source
import Tabular.Proofs.Expression.Layout
import Tabular.Proofs.Definition.Layout
import Tabular.Proofs.Definition.Summary
import Tabular.Proofs.Definition.CarriageReturn
