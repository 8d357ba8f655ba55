import BoundQuery.Builder.Call
import BoundQuery.Executor
import BoundQuery.Value.Tagged
import BoundQuery.Config.FileMap
import BoundQuery.Config.Load
import BoundQuery.Proofs.Merging
import BoundQuery.Proofs.Noninterference
import BoundQuery.Proofs.Parts
import BoundQuery.Proofs.WhereBody
import BoundQuery.Proofs.Delivery
import BoundQuery.Proofs.Collections
import BoundQuery.Proofs.Calendar
import BoundQuery.Proofs.TimeText
import BoundQuery.Proofs.Normalisation
import BoundQuery.Proofs.Disclosure
import BoundQuery.Proofs.Validity
import BoundQuery.Proofs.Rounding
import BoundQuery.Proofs.NumberText
import BoundQuery.Proofs.Scaling
import BoundQuery.Proofs.JsonText
import BoundQuery.Proofs.RelaxedTime
import BoundQuery.Proofs.EmbeddedTexts
import BoundQuery.Proofs.TaggedForm
import BoundQuery.Proofs.ClauseGrammar
import BoundQuery.Proofs.TokenRenaming
import BoundQuery.Proofs.LastMention
import BoundQuery.Proofs.StampGrammar
import BoundQuery.Proofs.StringForms
import BoundQuery.Proofs.Growth
import BoundQuery.Proofs.NormalForm
import BoundQuery.Proofs.LogLines
import BoundQuery.Proofs.Loading
import BoundQuery.Proofs.TokenNames
import BoundQuery.Proofs.ConnectionString
