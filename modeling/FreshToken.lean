import FreshToken.Observation
import FreshToken.Pool.Borrowing
import FreshToken.Proofs.Client.Gate
import FreshToken.Proofs.Client.Redaction
import FreshToken.Proofs.Executor.Agreement
import FreshToken.Proofs.Executor.Pooling
import FreshToken.Proofs.Pool.Custody
import FreshToken.Proofs.Refresher.Age
import FreshToken.Proofs.Refresher.Handoff
import FreshToken.Proofs.Refresher.Redaction
import FreshToken.Proofs.Refresher.Reports
import FreshToken.Proofs.Refresher.TimeLimit
import FreshToken.Proofs.TokenEndpoint.Answers
import FreshToken.Proofs.Url.Attachment
import FreshToken.Rehearsal.Play
import FreshToken.Shape
import FreshToken.TokenEndpoint
import FreshToken.Url.Parser
import FreshToken.Proofs.Pool.Accounts
import FreshToken.Proofs.Executor.Balance
import FreshToken.Proofs.Pool.Economy
import FreshToken.Proofs.Refresher.Lifecycle
import FreshToken.Proofs.Client.Parts
import FreshToken.Proofs.Refresher.Instants
import FreshToken.Proofs.Client.Audience
import FreshToken.Proofs.Pool.Counters
import FreshToken.Proofs.Executor.Echo
import FreshToken.Proofs.Executor.Bodies
import FreshToken.Proofs.Client.Construction
import FreshToken.Proofs.Pool.Capacity
import FreshToken.Proofs.Refresher.Expiry
import FreshToken.Proofs.Policy.RefreshPoint
import FreshToken.Proofs.Policy.Overrides
import FreshToken.Proofs.Json.Records
import FreshToken.Proofs.Credentials.Stored
import FreshToken.Proofs.Text.Quoted
import FreshToken.Proofs.Credentials.Identifier
import FreshToken.Proofs.Credentials.Storage
import FreshToken.Proofs.Credentials.Origins
