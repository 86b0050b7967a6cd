import BankingApi.Json
import BankingApi.Numeric.FixedPoint
import BankingApi.Store.Table
import Mathlib.Data.List.Sort

/-!
This module contains the part of `schema.prisma` that users, wallets and money live in. Columns that no
service computes with, such as `updatedAt` and `lastLogin`, are left out.
-/

namespace Banking

open Rounding

abbrev UserId := String
abbrev WalletId := String
abbrev TransactionId := String
abbrev IdempotencyKey := String

-- A text column takes no U+0000.
def isText (s : String) : Bool :=
  s.toList.all (·.toNat ≠ 0)

/--
Where the database finds a row, by its id. Rows that no `orderBy` tells apart come in this order.
-/
abbrev Scan := String → ℕ

namespace Scan

def list {α : Type} (scan : Scan) (id : α → String) (rows : List α) : List α :=
  rows.insertionSort (fun row row' => scan (id row) ≤ scan (id row'))

-- orderBy: { createdAt: "desc" }
def latestFirst {α : Type} (scan : Scan) (id : α → String) (createdAt : α → ℕ) (rows : List α)
    : List α :=
  (scan.list id rows).insertionSort (fun row row' => createdAt row' ≤ createdAt row)

theorem map_list {α : Type} (scan : Scan) {id : α → String} {f : α → α} (hf : ∀ a, id (f a) = id a)
    (rows : List α)
    : (scan.list id rows).map f = scan.list id (rows.map f) := by
  apply List.map_insertionSort
  intro a _ b _
  rw [hf, hf]

theorem perm_latestFirst {α : Type} (scan : Scan) (id : α → String) (createdAt : α → ℕ)
    (rows : List α)
    : (scan.latestFirst id createdAt rows).Perm rows :=
  (List.perm_insertionSort _ _).trans (List.perm_insertionSort _ _)

theorem sorted_latestFirst {α : Type} (scan : Scan) (id : α → String) (createdAt : α → ℕ)
    (rows : List α)
    : (scan.latestFirst id createdAt rows).Pairwise (fun row row' => createdAt row' ≤ createdAt row) := by
  have htotal : Std.Total (fun row row' : α => createdAt row' ≤ createdAt row) :=
    ⟨fun row row' => Nat.le_total _ _⟩
  have htrans : IsTrans α (fun row row' : α => createdAt row' ≤ createdAt row) :=
    ⟨fun _ _ _ h h' => Nat.le_trans h' h⟩
  exact List.pairwise_insertionSort _ _

end Scan

-- `Decimal @db.Decimal(18, 2)`
abbrev Money := FixedPoint 18 2

/--
`Prisma.Decimal` keeps 20 significant digits of a sum, the last one rounded half away from zero.
-/
def decimal20 : Format where
  radix := 10
  precision := 20
  emin := -9000000000000000
  rnd := halfAway
  hradix := by decide
  hprecision := by decide
  hrnd := halfAway_lawful

namespace Decimal

def plus (x y : ℚ) : ℚ :=
  decimal20.round (x + y)

def minus (x y : ℚ) : ℚ :=
  decimal20.round (x - y)

end Decimal

/--
The amounts that the services pass on: a finite JS number, an exact decimal, or a numeral such as `1_0`,
which `Prisma.Decimal` reads and `Number` does not.
-/
inductive Amount where
  | number (n : Binary64)
  | decimal (q : ℚ)
  | separated (q : ℚ)
  deriving DecidableEq

namespace Amount

-- `new Prisma.Decimal(amount)`
def toDecimal (a : Amount) : ℚ :=
  match a with
  | .number n => n.toDecimal
  | .decimal q => q
  | .separated q => q

-- `Number(amount)`, where `none` is `NaN`
def toNumber (a : Amount) : Option ℚ :=
  match a with
  | .number n => some n.val
  | .decimal q => some (binary64.round q)
  | .separated _ => none

-- amount <= 0
def notPositive (a : Amount) : Bool :=
  a.toNumber.any (· ≤ 0)

@[simp]
theorem notPositive_number_eq_false_iff (n : Binary64)
    : (Amount.number n).notPositive = false ↔ 0 < n.val := by
  simp [notPositive, toNumber]

end Amount

inductive UserRole where
  | ADMIN
  | CUSTOMER
  | BANK
  | SUPPORT
  | AUDITOR
  deriving DecidableEq, Repr

inductive UserStatus where
  | ACTIVE
  | INACTIVE
  | BLOCKED
  | LOCKED
  deriving DecidableEq, Repr

inductive WalletStatus where
  | ACTIVE
  | FROZEN
  | CLOSED
  deriving DecidableEq, Repr

inductive TransactionStatus where
  | PENDING
  | SUCCESS
  | FAILED
  | REVERSED
  deriving DecidableEq, Repr

inductive PaymentStatus where
  | INITIATED
  | PROCESSING
  | SUCCESS
  | FAILED
  | REVERSED
  deriving DecidableEq, Repr

inductive PaymentMethod where
  | UPI
  | BANK_TRANSFER
  | CARD
  | WALLET
  deriving DecidableEq, Repr

inductive TransactionType where
  | DEPOSIT
  | WITHDRAW
  | TRANSFER
  deriving DecidableEq, Repr

inductive LedgerEntryType where
  | DEBIT
  | CREDIT
  deriving DecidableEq, Repr

structure User where
  id : UserId
  customerId : String
  fullName : String
  email : String
  phone : Option String
  password : String
  role : UserRole
  status : UserStatus
  isVerified : Bool
  refreshToken : Option String
  deriving DecidableEq

structure Wallet where
  id : WalletId
  walletNumber : String
  balance : Money
  currency : String
  status : WalletStatus
  userId : UserId
  deriving DecidableEq

structure Transaction where
  id : TransactionId
  transactionRef : String
  type : TransactionType
  status : TransactionStatus
  amount : Money
  description : Option String
  senderWalletId : Option WalletId
  receiverWalletId : Option WalletId
  createdBy : UserId
  createdAt : ℕ
  deriving DecidableEq

structure LedgerEntry where
  id : String
  transactionId : TransactionId
  walletId : WalletId
  entryType : LedgerEntryType
  amount : Money
  balanceAfter : Money
  createdAt : ℕ
  deriving DecidableEq

structure Payment where
  id : String
  paymentRef : String
  transactionId : TransactionId
  amount : Money
  method : PaymentMethod
  status : PaymentStatus
  idempotencyKey : IdempotencyKey
  gatewayResponse : Option Json
  createdAt : ℕ
  deriving DecidableEq

structure Store where
  users : Table User.id
  wallets : Table Wallet.id
  transactions : Table Transaction.id
  ledgerEntries : Table LedgerEntry.id
  payments : Table Payment.id

def Store.initial (users : Table User.id) : Store where
  users := users
  wallets := .empty
  transactions := .empty
  ledgerEntries := .empty
  payments := .empty

end Banking
