import Leadership.Json.Printer
import Leadership.Json.Reader
import Leadership.Json.Records
import Leadership.Proofs.Accord
import Leadership.Proofs.Aftermath
import Leadership.Proofs.Causes
import Leadership.Proofs.Farewell
import Leadership.Proofs.Handover
import Leadership.Proofs.Hearing
import Leadership.Proofs.Independence
import Leadership.Proofs.Loading
import Leadership.Proofs.Phase
import Leadership.Proofs.Resolution
import Leadership.Proofs.Serial
import Leadership.Proofs.Spelling
import Leadership.Proofs.Vacancy
import Leadership.Scenario.Run
import Leadership.Proofs.Document
import Leadership.Proofs.Membership
import Leadership.Proofs.Records
