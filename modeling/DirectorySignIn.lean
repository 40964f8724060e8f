import DirectorySignIn.Text.Blank
import DirectorySignIn.Text.Ascii
import DirectorySignIn.Text.Lowercase
import DirectorySignIn.Text.Quoted
import DirectorySignIn.Text.Hex
import DirectorySignIn.Text.Percent
import DirectorySignIn.Error
import DirectorySignIn.Json.Reader
import DirectorySignIn.Identifier
import DirectorySignIn.Json.Record
import DirectorySignIn.Account.Store
import DirectorySignIn.Provider.Store
import DirectorySignIn.Settings
import DirectorySignIn.Url.Basic
import DirectorySignIn.Directory.Filter
import DirectorySignIn.Directory.Profile
import DirectorySignIn.Directory.Target
import DirectorySignIn.ErrorResponse
import DirectorySignIn.Log
import DirectorySignIn.Program.Run
import DirectorySignIn.Program.Script
import DirectorySignIn.SignIn.Service
import DirectorySignIn.Proofs.Filter.Injection
import DirectorySignIn.Proofs.SignIn.AllOrNothing
import DirectorySignIn.Proofs.SignIn.Attempts
import DirectorySignIn.Proofs.SignIn.Verification
import DirectorySignIn.Proofs.Program.Failure
import DirectorySignIn.Proofs.Program.Timing
import DirectorySignIn.Proofs.Program.Comparison
import DirectorySignIn.Proofs.SignIn.Coupling
import DirectorySignIn.Proofs.Account.Tenancy
import DirectorySignIn.Proofs.SignIn.Bracketing
import DirectorySignIn.Proofs.SignIn.Closing
import DirectorySignIn.Proofs.SignIn.Confidence
import DirectorySignIn.Proofs.SignIn.Identity
import DirectorySignIn.Proofs.SignIn.Isolation
import DirectorySignIn.Proofs.Account.Update
import DirectorySignIn.Proofs.SignIn.Faultless
import DirectorySignIn.Proofs.SignIn.Repetition
import DirectorySignIn.Proofs.Text.LetterCase
import DirectorySignIn.Proofs.SignIn.Recognition
import DirectorySignIn.Proofs.Account.Links
import DirectorySignIn.Proofs.Program.Interleaving
import DirectorySignIn.Proofs.SignIn.Concurrency
import DirectorySignIn.Proofs.Account.Descent
import DirectorySignIn.Proofs.SignIn.Succession
import DirectorySignIn.Proofs.SignIn.TimeBudget
import DirectorySignIn.Proofs.SignIn.Hurdles
import DirectorySignIn.Proofs.SignIn.PublicErrors
import DirectorySignIn.Proofs.SignIn.Checks
import DirectorySignIn.Proofs.Provider.Reached
import DirectorySignIn.Proofs.SignIn.Statuses
import DirectorySignIn.Proofs.Provider.History
import DirectorySignIn.Proofs.SignIn.Discretion
import DirectorySignIn.Proofs.Url.Address
import DirectorySignIn.Proofs.Url.Endpoint
import DirectorySignIn.Proofs.Directory.Target
import DirectorySignIn.Proofs.Json.Reader
import DirectorySignIn.Proofs.Json.Record
import DirectorySignIn.Proofs.Provider.Encoding
import DirectorySignIn.Proofs.Account.Lookup
import DirectorySignIn.Proofs.SignIn.Independence
import DirectorySignIn.Proofs.SignIn.Precedence
import DirectorySignIn.Proofs.Text.Lowercase
import DirectorySignIn.Proofs.SignIn.Normalization
import DirectorySignIn.Proofs.SignIn.Reports
import DirectorySignIn.Proofs.Account.History
import DirectorySignIn.Proofs.Provider.Port
import DirectorySignIn.Proofs.Directory.Entry
import DirectorySignIn.Proofs.Text.Hex
import DirectorySignIn.Proofs.Identifier
import DirectorySignIn.Proofs.Account.Linking
