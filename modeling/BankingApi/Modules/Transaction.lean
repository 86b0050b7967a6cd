import BankingApi.Modules.Ledger

/-!
This module contains `transaction.repository.js` and the money operations of
`transaction.service.js`.
-/

namespace Banking

/--
The values that one call draws: `cuid()` ids, random references and clock readings.
-/
structure Generated where
  transactionId : TransactionId
  transactionRef : String
  transactionCreatedAt : ℕ
  debitEntryId : String
  debitCreatedAt : ℕ
  creditEntryId : String
  creditCreatedAt : ℕ
  paymentId : String
  paymentRef : String
  paymentCreatedAt : ℕ

def selectWalletsForUpdate (ids : List WalletId) (tx : Client) : Tx (List Wallet) :=
  .call ⟨tx, .selectWalletsForUpdate ids⟩ .ret

namespace TransactionRepository

def createTransaction (data : TransactionData) (tx : Client) : Tx Transaction :=
  .call ⟨tx, .createTransaction data⟩ .ret

def updateTransactionStatus (id : TransactionId) (status : TransactionStatus) (tx : Client)
    : Tx Transaction :=
  .call ⟨tx, .updateTransactionStatus id status⟩ .ret

end TransactionRepository

namespace TransactionService

open LedgerService TransactionRepository

def validateConstraints (wallet : Option Wallet) (amount : Amount) : Tx Wallet :=
  if amount.notPositive then
    .throw (.app (BadRequestError "Transaction amount must be strictly greater than zero"))
  else
    match wallet with
    | none => .throw (.app (NotFoundError "Wallet not found"))
    | some wallet =>
      if wallet.status ≠ .ACTIVE then
        .throw (.app (BadRequestError
          ("Wallet is " ++ wallet.status.toString ++ ". Active status required.")))
      else
        .ret wallet

-- Number(wallet.balance) - amount < 0
def insufficientFunds (wallet : Wallet) (amount : Amount) : Bool :=
  amount.toNumber.any
    (fun amount => binary64.round (binary64.round wallet.balance.toRat - amount) < 0)

def deposit (receiverWalletId : WalletId) (amount : Amount) (createdBy : UserId)
    (description : Option String) (gen : Generated)
    : Tx Transaction := do
  let wallets ← selectWalletsForUpdate [receiverWalletId] .transaction
  let wallet ← validateConstraints wallets[0]? amount
  let transaction ← createTransaction
    {
      id := gen.transactionId
      transactionRef := gen.transactionRef
      type := .DEPOSIT
      status := .PENDING
      amount := amount
      description := description
      senderWalletId := none
      receiverWalletId := some receiverWalletId
      createdBy := createdBy
      createdAt := gen.transactionCreatedAt
    }
    .transaction
  let _ ← postTransaction
    {
      transactionId := transaction.id
      walletId := receiverWalletId
      entryType := .CREDIT
      amount := amount
      currentBalance := wallet.balance.toRat
      entryId := gen.creditEntryId
      createdAt := gen.creditCreatedAt
    }
    .transaction
  updateTransactionStatus transaction.id .SUCCESS .transaction

def withdraw (senderWalletId : WalletId) (amount : Amount) (createdBy : UserId)
    (description : Option String) (gen : Generated)
    : Tx Transaction := do
  let wallets ← selectWalletsForUpdate [senderWalletId] .transaction
  let wallet ← validateConstraints wallets[0]? amount
  Prog.require (¬insufficientFunds wallet amount)
    (.app (BadRequestError "Insufficient funds for withdrawal"))
  let transaction ← createTransaction
    {
      id := gen.transactionId
      transactionRef := gen.transactionRef
      type := .WITHDRAW
      status := .PENDING
      amount := amount
      description := description
      senderWalletId := some senderWalletId
      receiverWalletId := none
      createdBy := createdBy
      createdAt := gen.transactionCreatedAt
    }
    .transaction
  let _ ← postTransaction
    {
      transactionId := transaction.id
      walletId := senderWalletId
      entryType := .DEBIT
      amount := amount
      currentBalance := wallet.balance.toRat
      entryId := gen.debitEntryId
      createdAt := gen.debitCreatedAt
    }
    .transaction
  updateTransactionStatus transaction.id .SUCCESS .transaction

def transfer (senderWalletId receiverWalletId : WalletId) (amount : Amount) (createdBy : UserId)
    (description : Option String) (gen : Generated)
    : Tx Transaction := do
  Prog.require (senderWalletId ≠ receiverWalletId)
    (.app (BadRequestError "Cannot transfer funds to the same wallet"))
  let lockQuery ← selectWalletsForUpdate [senderWalletId, receiverWalletId] .transaction
  Prog.require (lockQuery.length = 2) (.app (NotFoundError "One or both wallets not found"))
  let senderWallet ← validateConstraints (lockQuery.find? (·.id = senderWalletId)) amount
  let receiverWallet ← validateConstraints (lockQuery.find? (·.id = receiverWalletId)) amount
  Prog.require (¬insufficientFunds senderWallet amount)
    (.app (BadRequestError "Insufficient funds for transfer"))
  let transaction ← createTransaction
    {
      id := gen.transactionId
      transactionRef := gen.transactionRef
      type := .TRANSFER
      status := .PENDING
      amount := amount
      description := description
      senderWalletId := some senderWalletId
      receiverWalletId := some receiverWalletId
      createdBy := createdBy
      createdAt := gen.transactionCreatedAt
    }
    .transaction
  let _ ← postTransaction
    {
      transactionId := transaction.id
      walletId := senderWalletId
      entryType := .DEBIT
      amount := amount
      currentBalance := senderWallet.balance.toRat
      entryId := gen.debitEntryId
      createdAt := gen.debitCreatedAt
    }
    .transaction
  let _ ← postTransaction
    {
      transactionId := transaction.id
      walletId := receiverWalletId
      entryType := .CREDIT
      amount := amount
      currentBalance := receiverWallet.balance.toRat
      entryId := gen.creditEntryId
      createdAt := gen.creditCreatedAt
    }
    .transaction
  updateTransactionStatus transaction.id .SUCCESS .transaction

end TransactionService

end Banking
