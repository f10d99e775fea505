import MessageContract.Main
import MessageContract.Proofs.FilePath
import MessageContract.Proofs.Remote
import MessageContract.Proofs.Reference.Leftover
import MessageContract.Proofs.Reference.BackEdge
import MessageContract.Proofs.OpenApiPayload
import MessageContract.Proofs.PayloadCircle
import MessageContract.Proofs.Validation
import MessageContract.Proofs.Outcome
import MessageContract.Proofs.MessageReference
import MessageContract.Proofs.Reference.Reach
import MessageContract.Proofs.Reference.Machine
import MessageContract.Proofs.DeclaredVersion
import MessageContract.Proofs.Strictness
import MessageContract.Proofs.Reference.Circular
import MessageContract.Proofs.SelfContained
import MessageContract.Proofs.WellFormed
import MessageContract.Proofs.ExitCode
import MessageContract.Proofs.Reference.Substitution
import MessageContract.Proofs.RootFragment
import MessageContract.Proofs.Schema.Validity
import MessageContract.Proofs.DeclaredFormat
import MessageContract.Proofs.FindingPath
import MessageContract.Proofs.Yaml.Entries
import MessageContract.Proofs.Reference.Address
import MessageContract.Proofs.Schema.NormalForm
import MessageContract.Proofs.Schema.KeywordOrder
import MessageContract.Proofs.Schema.Rebase.Compilation
import MessageContract.Proofs.FormatIdentifier
import MessageContract.Proofs.RequiredName
import MessageContract.Proofs.RecordType
import MessageContract.Proofs.RepeatedId
import MessageContract.Proofs.NormalLocation
