import BankingApi.Bank.Concurrency
import BankingApi.Store.Atomicity

/-!
This module contains the calls of `transaction.service.js` on a database that may fail at any statement.
-/

namespace Banking

open TransactionService

inductive TransactionCall where
  | deposit (receiverWalletId : WalletId) (amount : Amount) (createdBy : UserId)
      (description : Option String) (gen : Generated)
  | withdraw (senderWalletId : WalletId) (amount : Amount) (createdBy : UserId)
      (description : Option String) (gen : Generated)
  | transfer (senderWalletId receiverWalletId : WalletId) (amount : Amount) (createdBy : UserId)
      (description : Option String) (gen : Generated)
  -- A check, a conversion or Prisma does not accept an argument, and throws after some statements.
  | refused (call : TransactionCall) (sent : ℕ) (e : Failure)

def TransactionCall.program (c : TransactionCall) : Tx Transaction :=
  match c with
  | .deposit receiverWalletId amount createdBy description gen =>
    TransactionService.deposit receiverWalletId amount createdBy description gen
  | .withdraw senderWalletId amount createdBy description gen =>
    TransactionService.withdraw senderWalletId amount createdBy description gen
  | .transfer senderWalletId receiverWalletId amount createdBy description gen =>
    TransactionService.transfer senderWalletId receiverWalletId amount createdBy description gen
  | .refused call sent e => call.program.cut sent e

theorem transactional_transactionCall (c : TransactionCall) : Transactional c.program := by
  induction c with
  | deposit => apply transactional_deposit
  | withdraw => apply transactional_withdraw
  | transfer => apply transactional_transfer
  | refused call sent e ih => exact Prog.all_cut ih sent e

/--
`prisma.$transaction`: when its callback throws, what went through its own client is undone, and nothing
else is. The connection is lost after `answered` statements.
-/
def transaction {α : Type} (callback : Tx α) (answered : ℕ) (s : Store)
    : Except Failure α × Store :=
  callback.transact database (·.client = .transaction) .connection answered s []

theorem transaction_eq_replay (c : TransactionCall) (s : Store)
    : ∃ n, ∀ answered, n ≤ answered →
        transaction c.program answered s = Locking.replay database c.program s :=
  Prog.transact_eq_replay (E := database) .connection c.program (transactional_transactionCall c) s

theorem failed_call_leaves_no_trace (c : TransactionCall) (answered : ℕ) (s s' : Store)
    (e : Failure) (h : transaction c.program answered s = (.error e, s'))
    : s'.wallets = s.wallets ∧ s'.transactions = s.transactions
        ∧ s'.ledgerEntries = s.ledgerEntries := by
  have heq : s' = s := Prog.transact_of_error (transactional_transactionCall c) h
  rw [heq]
  exact ⟨rfl, rfl, rfl⟩

-- A write through the global client would survive.
def freezeAndThrow : Tx Unit := do
  let _ ← WalletRepository.updateWalletStatus "a" .FROZEN .global
  .throw .typeError

example :
    ((transaction freezeAndThrow 5 (Run.run step (.initial sampleUsers) sampleDeposit)).2.wallets.find?
      "a").map Wallet.status = some .FROZEN := by
  decide +kernel

def sampleWithdrawal : TransactionCall :=
  .withdraw "a" (.decimal 1) "alice" none (sampleGenerated "2")

-- The connection is lost before the third statement, the ledger entry. The transaction is in by then.
theorem lost_connection_leaves_no_trace
    : ∃ s s' e, transaction sampleWithdrawal.program 2 s = (.error e, s')
      ∧ s'.wallets = s.wallets ∧ s'.transactions = s.transactions
      ∧ s'.ledgerEntries = s.ledgerEntries := by
  cases h : transaction sampleWithdrawal.program 2
      (Run.run step (.initial sampleUsers) sampleDeposit) with
  | mk outcome s' =>
    cases outcome with
    | ok t =>
      have hfails : (transaction sampleWithdrawal.program 2
          (Run.run step (.initial sampleUsers) sampleDeposit)).1.toBool = false := by
        decide +kernel
      rw [h] at hfails
      cases hfails
    | error e => exact ⟨_, s', e, h, failed_call_leaves_no_trace sampleWithdrawal 2 _ s' e h⟩

end Banking
