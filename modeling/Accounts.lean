import Accounts.Email
import Accounts.Failure
import Accounts.Hash.Argon2
import Accounts.Hash.Blake2b
import Accounts.Hash.Sha256
import Accounts.Http.Api
import Accounts.Http.Server
import Accounts.Http.Framing
import Accounts.Http.MediaType
import Accounts.Http.Message
import Accounts.Json.Attempts
import Accounts.Json.Collections
import Accounts.Json.Ignored
import Accounts.Json.Scalars
import Accounts.Json.Records
import Accounts.Json.Value
import Accounts.Main
import Accounts.Net.Address
import Accounts.Net.DomainCharacter
import Accounts.Net.DomainName
import Accounts.Net.Host
import Accounts.Net.Url
import Accounts.Password
import Accounts.Password.Hasher
import Accounts.Problem
import Accounts.Program
import Accounts.Proofs.Program
import Accounts.Proofs.Store.Shared
import Accounts.Proofs.Store.Transaction
import Accounts.Service.UseCases
import Accounts.Service.Backend
import Accounts.Settings.Config
import Accounts.Settings.EnvFile
import Accounts.Settings.Environment
import Accounts.Startup
import Accounts.Store.Memory
import Accounts.Store.Operation
import Accounts.Store.Sql
import Accounts.Store.StorageError
import Accounts.Store.Target
import Accounts.Text.Alphanumeric
import Accounts.Text.Base64
import Accounts.Text.Scanner
import Accounts.Text.Numerals
import Accounts.Text.LetterCase
import Accounts.Text.Utf8
import Accounts.Text.Quoted
import Accounts.Text.Shortest
import Accounts.Time
import Accounts.Token.Claims
import Accounts.Token.Error
import Accounts.Token.Header
import Accounts.Token.Signer
import Accounts.User
import Accounts.UserName
import Accounts.Uuid
import Accounts.Wire
import Accounts.Proofs.Store.Serializability
import Accounts.Proofs.Store.Representation
import Accounts.Proofs.Email
import Accounts.Proofs.Email.Grammar
import Accounts.Proofs.Pool
import Accounts.Proofs.Service.Register
import Accounts.Proofs.Service.Race
import Accounts.Proofs.Json.Strings
import Accounts.Proofs.Text.Base64
import Accounts.Proofs.Json.Numerals
import Accounts.Proofs.Json.Records
import Accounts.Proofs.Token.RoundTrip
import Accounts.Proofs.Service.Login
import Accounts.Proofs.Service.Traffic
import Accounts.Proofs.Http.Api
import Accounts.Proofs.Deletion
import Accounts.Proofs.Http.Privilege
import Accounts.Proofs.Password.Phc
import Accounts.Proofs.Password.Verification
import Accounts.Proofs.Http.Guard
import Accounts.Proofs.Uuid
import Accounts.Proofs.Enrolment
import Accounts.Proofs.Json.Grammar
import Accounts.Proofs.Json.Scalars
import Accounts.Proofs.Json.Passing
import Accounts.Proofs.Json.Meaning
import Accounts.Proofs.Json.Shapes
import Accounts.Proofs.Json.Attempts
import Accounts.Proofs.Json.Sync
import Accounts.Proofs.Token.Audience
import Accounts.Proofs.Token.Documents
import Accounts.Proofs.Token.Acceptance
import Accounts.Proofs.Store.Finish
import Accounts.Proofs.Service.FailClosed
import Accounts.Proofs.Disclosure
import Accounts.Proofs.Failure
import Accounts.Proofs.Http.Decision
import Accounts.Proofs.Roles
import Accounts.Proofs.Store.Unhashed
import Accounts.Proofs.Secrecy
import Accounts.Proofs.Clients
import Accounts.Proofs.Http.Registration
import Accounts.Proofs.Store.Frame
import Accounts.Proofs.Store.Order
import Accounts.Proofs.Email.Lookup
import Accounts.Proofs.Token.Stages
import Accounts.Proofs.Classification
import Accounts.Proofs.Store.Answers
import Accounts.Proofs.Store.WriteBack
import Accounts.Proofs.Time.Instant
import Accounts.Proofs.Token.Expiry
import Accounts.Proofs.Time.Calendar
import Accounts.Proofs.Text.Numerals
import Accounts.Proofs.Text.Scanner
import Accounts.Proofs.Time.Rfc3339
import Accounts.Proofs.Wire
import Accounts.Proofs.UserName
import Accounts.Proofs.Except
import Accounts.Proofs.Settings.Environment
import Accounts.Proofs.Settings.Config
import Accounts.Proofs.Service.Instruments
import Accounts.Proofs.Startup
