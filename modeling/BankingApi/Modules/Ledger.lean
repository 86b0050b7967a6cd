import BankingApi.Modules.Wallet

/-!
This module contains `ledger.repository.js` and `ledger.service.js`.
-/

namespace Banking

namespace LedgerRepository

def createLedgerEntry (data : LedgerEntryData) (tx : Client) : Tx LedgerEntry :=
  .call ⟨tx, .createLedgerEntry data⟩ .ret

def entries (s : Store) (walletId : WalletId) : List LedgerEntry :=
  s.ledgerEntries.rows.filter (·.walletId = walletId)

/--
The answers that the database may give to `findMany` ordered by `createdAt`: the order of entries
with equal `createdAt` is open.
-/
structure GetBalanceHistory (s : Store) (walletId : WalletId) (history : List LedgerEntry) : Prop where
  perm : history.Perm (entries s walletId)
  sorted : history.Pairwise (·.createdAt ≤ ·.createdAt)

end LedgerRepository

namespace LedgerService

structure PostTransaction where
  transactionId : TransactionId
  walletId : WalletId
  entryType : LedgerEntryType
  amount : Amount
  currentBalance : ℚ
  entryId : String
  createdAt : ℕ

def balanceAfter (entryType : LedgerEntryType) (currentBalance amount : ℚ) : ℚ :=
  match entryType with
  | .CREDIT => Decimal.plus currentBalance amount
  | .DEBIT => Decimal.minus currentBalance amount

def postTransaction (params : PostTransaction) (tx : Client) : Tx LedgerEntry := do
  let decimalAmount := params.amount.toDecimal
  let decimalCurrentBalance := params.currentBalance
  let balanceAfter := balanceAfter params.entryType decimalCurrentBalance decimalAmount
  let ledgerEntry ← LedgerRepository.createLedgerEntry
    {
      id := params.entryId
      transactionId := params.transactionId
      walletId := params.walletId
      entryType := params.entryType
      amount := decimalAmount
      balanceAfter := balanceAfter
      createdAt := params.createdAt
    }
    tx
  let _ ← WalletRepository.updateWalletBalance params.walletId balanceAfter tx
  return ledgerEntry

def calculateRunningBalance (history : List LedgerEntry) : ℚ :=
  history.foldl
    (fun runningBalance entry => balanceAfter entry.entryType runningBalance entry.amount.toRat)
    0

end LedgerService

end Banking
