import BankingApi.Errors
import BankingApi.Prisma.Schema
import BankingApi.Store.Program
import Mathlib.Data.List.Sort

/-!
This module contains the statements that the repositories send to the database, and what the
database does with one statement. The values that Prisma generates for a new row (`cuid()` ids and
`now()`) come in with the data of the row.
-/

namespace Banking

structure TransactionData where
  id : TransactionId
  transactionRef : String
  type : TransactionType
  status : TransactionStatus
  amount : Amount
  description : Option String
  senderWalletId : Option WalletId
  receiverWalletId : Option WalletId
  createdBy : UserId
  createdAt : ℕ

def TransactionData.row (data : TransactionData) (amount : Money) : Transaction :=
  { data with amount := amount }

structure LedgerEntryData where
  id : String
  transactionId : TransactionId
  walletId : WalletId
  entryType : LedgerEntryType
  amount : ℚ
  balanceAfter : ℚ
  createdAt : ℕ

def LedgerEntryData.row (data : LedgerEntryData) (amount balanceAfter : Money) : LedgerEntry :=
  { data with amount := amount, balanceAfter := balanceAfter }

structure PaymentData where
  id : String
  paymentRef : String
  transactionId : TransactionId
  amount : Amount
  method : PaymentMethod
  status : PaymentStatus
  idempotencyKey : IdempotencyKey
  createdAt : ℕ

def PaymentData.row (data : PaymentData) (amount : Money) : Payment :=
  { data with amount := amount, gatewayResponse := none }

inductive Stmt where
  -- SELECT * FROM "Wallet" WHERE id IN (ids) ORDER BY id FOR UPDATE
  | selectWalletsForUpdate (ids : List WalletId)
  | createTransaction (data : TransactionData)
  | updateTransactionStatus (id : TransactionId) (status : TransactionStatus)
  | createLedgerEntry (data : LedgerEntryData)
  | createPayment (data : PaymentData)
  | updateWalletBalance (id : WalletId) (balance : ℚ)
  | updateWalletStatus (id : WalletId) (status : WalletStatus)

/--
The client a statement is sent through: the one that `prisma.$transaction` hands to its callback, or
the global one.
-/
inductive Client where
  | transaction
  | global
  deriving DecidableEq

structure Query where
  client : Client
  stmt : Stmt

@[reducible]
def Query.Result (q : Query) : Type :=
  match q.stmt with
  | .selectWalletsForUpdate _ => List Wallet
  | .createTransaction _ => Transaction
  | .updateTransactionStatus _ _ => Transaction
  | .createLedgerEntry _ => LedgerEntry
  | .createPayment _ => Payment
  | .updateWalletBalance _ _ => Wallet
  | .updateWalletStatus _ _ => Wallet

inductive Write where
  | insertTransaction (row : Transaction)
  | setTransactionStatus (id : TransactionId) (status : TransactionStatus)
  | insertLedgerEntry (row : LedgerEntry)
  | insertPayment (row : Payment)
  | setBalance (id : WalletId) (balance : Money)
  | setWalletStatus (id : WalletId) (status : WalletStatus)

namespace Store

def apply (s : Store) (w : Write) : Store :=
  match w with
  | .insertTransaction row => { s with transactions := s.transactions.insert row }
  | .setTransactionStatus id status =>
    { s with transactions := s.transactions.update id ({ · with status := status }) (fun _ => rfl) }
  | .insertLedgerEntry row => { s with ledgerEntries := s.ledgerEntries.insert row }
  | .insertPayment row => { s with payments := s.payments.insert row }
  | .setBalance id balance =>
    { s with wallets := s.wallets.update id ({ · with balance := balance }) (fun _ => rfl) }
  | .setWalletStatus id status =>
    { s with wallets := s.wallets.update id ({ · with status := status }) (fun _ => rfl) }

def selectWallets (s : Store) (ids : List WalletId) : List Wallet :=
  (ids.dedup.insertionSort (· ≤ ·)).filterMap s.wallets.find?

def hasWallet (s : Store) (id : Option WalletId) : Bool :=
  id.all (fun id => (s.wallets.find? id).isSome)

def insertTransaction (s : Store) (data : TransactionData)
    : Except Failure (Transaction × List Write) :=
  match FixedPoint.ofRat? 18 2 data.amount.toDecimal with
  | none => .error (.prisma .P2020)
  | some amount =>
    if (s.transactions.find? data.id).isSome
        ∨ s.transactions.has Transaction.transactionRef data.transactionRef then
      .error (.prisma .P2002)
    else if ¬(s.hasWallet data.senderWalletId ∧ s.hasWallet data.receiverWalletId) then
      .error (.prisma .P2003)
    else
      .ok (data.row amount, [.insertTransaction (data.row amount)])

def setTransactionStatus (s : Store) (id : TransactionId) (status : TransactionStatus)
    : Except Failure (Transaction × List Write) :=
  match s.transactions.find? id with
  | none => .error (.prisma .P2025)
  | some row => .ok ({ row with status := status }, [.setTransactionStatus id status])

def insertLedgerEntry (s : Store) (data : LedgerEntryData)
    : Except Failure (LedgerEntry × List Write) :=
  match FixedPoint.ofRat? 18 2 data.amount, FixedPoint.ofRat? 18 2 data.balanceAfter with
  | some amount, some balanceAfter =>
    if (s.ledgerEntries.find? data.id).isSome then
      .error (.prisma .P2002)
    else if ¬(s.hasWallet data.walletId ∧ (s.transactions.find? data.transactionId).isSome) then
      .error (.prisma .P2003)
    else
      .ok (data.row amount balanceAfter, [.insertLedgerEntry (data.row amount balanceAfter)])
  | _, _ => .error (.prisma .P2020)

def insertPayment (s : Store) (data : PaymentData) : Except Failure (Payment × List Write) :=
  match FixedPoint.ofRat? 18 2 data.amount.toDecimal with
  | none => .error (.prisma .P2020)
  | some amount =>
    if (s.payments.find? data.id).isSome ∨ s.payments.has Payment.paymentRef data.paymentRef
        ∨ s.payments.has Payment.idempotencyKey data.idempotencyKey then
      .error (.prisma .P2002)
    else if ¬(s.transactions.find? data.transactionId).isSome then
      .error (.prisma .P2003)
    else
      .ok (data.row amount, [.insertPayment (data.row amount)])

def setBalance (s : Store) (id : WalletId) (balance : ℚ) : Except Failure (Wallet × List Write) :=
  match s.wallets.find? id with
  | none => .error (.prisma .P2025)
  | some row =>
    match FixedPoint.ofRat? 18 2 balance with
    | none => .error (.prisma .P2020)
    | some balance => .ok ({ row with balance := balance }, [.setBalance id balance])

def setWalletStatus (s : Store) (id : WalletId) (status : WalletStatus)
    : Except Failure (Wallet × List Write) :=
  match s.wallets.find? id with
  | none => .error (.prisma .P2025)
  | some row => .ok ({ row with status := status }, [.setWalletStatus id status])

def exec (q : Query) (s : Store) : Except Failure (q.Result × List Write) :=
  match q with
  | ⟨_, .selectWalletsForUpdate ids⟩ => .ok (s.selectWallets ids, [])
  | ⟨_, .createTransaction data⟩ => s.insertTransaction data
  | ⟨_, .updateTransactionStatus id status⟩ => s.setTransactionStatus id status
  | ⟨_, .createLedgerEntry data⟩ => s.insertLedgerEntry data
  | ⟨_, .createPayment data⟩ => s.insertPayment data
  | ⟨_, .updateWalletBalance id balance⟩ => s.setBalance id balance
  | ⟨_, .updateWalletStatus id status⟩ => s.setWalletStatus id status

end Store

def database : Engine Query Query.Result Failure Store Write where
  exec := Store.exec
  apply := Store.apply

abbrev Tx (α : Type) := Prog Query Query.Result Failure α

end Banking
