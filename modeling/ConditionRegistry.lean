import ConditionRegistry.Http.Endpoint
import ConditionRegistry.Language.Engine
import ConditionRegistry.Proofs.Bindings.Decoders
import ConditionRegistry.Proofs.BreakingOff
import ConditionRegistry.Proofs.Formula.Answers
import ConditionRegistry.Proofs.Grammar.Bare
import ConditionRegistry.Proofs.Interchange
import ConditionRegistry.Proofs.Keyed.Listing
import ConditionRegistry.Proofs.Keyed.ReadBack
import ConditionRegistry.Proofs.Keyed.SideBySide
import ConditionRegistry.Proofs.Keyed.UnknownIds
import ConditionRegistry.Proofs.Ledger.SideBySide
import ConditionRegistry.Proofs.Meaning
import ConditionRegistry.Proofs.NormalForm.Pieces
import ConditionRegistry.Proofs.Refusals
import ConditionRegistry.Proofs.Reinsertions
import ConditionRegistry.Proofs.Reinsertions.Listing
import ConditionRegistry.Proofs.Requests.DryRun
import ConditionRegistry.Proofs.Requests.Evaluation
import ConditionRegistry.Proofs.Resaving
import ConditionRegistry.Proofs.ScalarText
import ConditionRegistry.Proofs.Scopes.Identifiers
import ConditionRegistry.Proofs.Settings
import ConditionRegistry.Proofs.StoredRecords
