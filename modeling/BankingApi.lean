import BankingApi.Bank.Conservation
import BankingApi.Bank.Overdraft
import BankingApi.Bank.Closing
import BankingApi.Bank.Correspondence
import BankingApi.Bank.Deadlock
import BankingApi.Payment.Windows
import BankingApi.Payment.Ownership
import BankingApi.Payment.Verdicts
import BankingApi.Auth.Sessions
import BankingApi.Http.Validation
import BankingApi.Http.Ownership
import BankingApi.Http.Errors
import BankingApi.Http.Secrecy
import BankingApi.Http.Authorization
import BankingApi.Payment.Currency
import BankingApi.Store.Atomicity
import BankingApi.Bank.Rollback
import BankingApi.Payment.Failures
import BankingApi.Payment.Events
import BankingApi.Payment.Locks
import BankingApi.Payment.Responses
import BankingApi.Http.Clients
import BankingApi.Bank.Equivalence
import BankingApi.Http.Wallets
import BankingApi.Auth.Passwords
import BankingApi.Http.Profiles
import BankingApi.Http.Queues
import BankingApi.Auth.Revocation
import BankingApi.Http.Reconciliation
import BankingApi.Http.Inert
import BankingApi.Http.Genuine
import BankingApi.Http.Realization
import BankingApi.Auth.Suspension
import BankingApi.Http.Release
import BankingApi.Http.Parsed
import BankingApi.Http.Linearization
import BankingApi.Http.Progress
