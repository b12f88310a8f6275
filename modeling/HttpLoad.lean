import HttpLoad.Main
import HttpLoad.Proofs.Bill.Amounts
import HttpLoad.Proofs.Bill.AnswerMembers
import HttpLoad.Proofs.Bill.Reproduction
import HttpLoad.Proofs.Bill.RoundTrip
import HttpLoad.Proofs.Program.Contract
import HttpLoad.Proofs.Program.Deadline
import HttpLoad.Proofs.Report.Telling
import HttpLoad.Proofs.Request.Fields
import HttpLoad.Proofs.Request.Wire
import HttpLoad.Proofs.Run.Payload
import HttpLoad.Proofs.Run.Phases
import HttpLoad.Proofs.Stats.Indexing
import HttpLoad.Proofs.Stats.Interpolation
import HttpLoad.Proofs.Stats.Sizes
import HttpLoad.Request.Script
