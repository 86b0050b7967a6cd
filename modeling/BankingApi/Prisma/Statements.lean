import BankingApi.Modules.Payment

/-!
This module contains what each statement does when it succeeds, and the same for `postTransaction`.
-/

namespace Banking

namespace Store

def addTransaction (s : Store) (t : Transaction) : Store :=
  { s with transactions := s.transactions.insert t }

def addPayment (s : Store) (p : Payment) : Store :=
  { s with payments := s.payments.insert p }

def post (s : Store) (e : LedgerEntry) : Store :=
  {
    s with
    ledgerEntries := s.ledgerEntries.insert e
    wallets := s.wallets.update e.walletId ({ · with balance := e.balanceAfter }) (fun _ => rfl)
  }

theorem id_withStatus (status : WalletStatus) (w : Wallet)
    : { w with status := status }.id = w.id := rfl

def setStatus (s : Store) (id : WalletId) (status : WalletStatus) : Store :=
  { s with wallets := s.wallets.update id ({ · with status := status }) (id_withStatus status) }

def addWallet (s : Store) (w : Wallet) : Store :=
  { s with wallets := s.wallets.insert w }

end Store

theorem applyAll_singleton (s : Store) (w : Write) : database.applyAll s [w] = s.apply w := rfl

theorem run_query_eq_ok_iff (q : Query) (s s' : Store) (r : q.Result) {P : List Write → Prop}
    (h : ∀ ws, s.exec q = .ok (r, ws) ↔ P ws)
    : (.call q .ret : Tx q.Result).run database s = .ok (r, s') ↔
      ∃ ws, P ws ∧ s' = database.applyAll s ws := by
  simp only [← h]
  rw [Prog.run_call]
  have : database.exec q s = s.exec q := rfl
  rw [this]
  cases h : s.exec q with
  | error e => simp
  | ok res =>
    rcases res with ⟨r', ws⟩
    simp only [Prog.run, Except.ok.injEq, Prod.mk.injEq]
    grind

namespace Store

theorem insertTransaction_eq_ok_iff {s : Store} {data : TransactionData} {t : Transaction}
    {ws : List Write}
    : s.insertTransaction data = .ok (t, ws) ↔
      s.transactions.find? data.id = none
        ∧ s.transactions.has Transaction.transactionRef data.transactionRef = false
        ∧ s.hasWallet data.senderWalletId
        ∧ s.hasWallet data.receiverWalletId
        ∧ ∃ amount, FixedPoint.ofRat? 18 2 data.amount.toDecimal = some amount
          ∧ t = data.row amount
          ∧ ws = [.insertTransaction t] := by
  unfold insertTransaction
  grind [Option.isSome_iff_ne_none]

theorem insertLedgerEntry_eq_ok_iff {s : Store} {data : LedgerEntryData} {e : LedgerEntry}
    {ws : List Write}
    : s.insertLedgerEntry data = .ok (e, ws) ↔
      s.ledgerEntries.find? data.id = none
        ∧ s.hasWallet data.walletId
        ∧ (s.transactions.find? data.transactionId).isSome
        ∧ ∃ amount, FixedPoint.ofRat? 18 2 data.amount = some amount
          ∧ ∃ balanceAfter, FixedPoint.ofRat? 18 2 data.balanceAfter = some balanceAfter
            ∧ e = data.row amount balanceAfter
            ∧ ws = [.insertLedgerEntry e] := by
  unfold insertLedgerEntry
  grind [Option.isSome_iff_ne_none]

theorem insertPayment_eq_ok_iff {s : Store} {data : PaymentData} {p : Payment} {ws : List Write}
    : s.insertPayment data = .ok (p, ws) ↔
      s.payments.find? data.id = none
        ∧ s.payments.has Payment.paymentRef data.paymentRef = false
        ∧ s.payments.has Payment.idempotencyKey data.idempotencyKey = false
        ∧ (s.transactions.find? data.transactionId).isSome
        ∧ ∃ amount, FixedPoint.ofRat? 18 2 data.amount.toDecimal = some amount
          ∧ p = data.row amount
          ∧ ws = [.insertPayment p] := by
  unfold insertPayment
  grind [Option.isSome_iff_ne_none]

theorem setTransactionStatus_eq_ok_iff {s : Store} {id : TransactionId}
    {status : TransactionStatus} {t : Transaction} {ws : List Write}
    : s.setTransactionStatus id status = .ok (t, ws) ↔
      ∃ row, s.transactions.find? id = some row
        ∧ t = { row with status := status }
        ∧ ws = [.setTransactionStatus id status] := by
  unfold setTransactionStatus
  grind [Option.isSome_iff_ne_none]

theorem setBalance_eq_ok_iff {s : Store} {id : WalletId} {balance : ℚ} {w : Wallet}
    {ws : List Write}
    : s.setBalance id balance = .ok (w, ws) ↔
      ∃ b, FixedPoint.ofRat? 18 2 balance = some b
        ∧ ∃ row, s.wallets.find? id = some row
          ∧ w = { row with balance := b }
          ∧ ws = [.setBalance id b] := by
  unfold setBalance
  grind [Option.isSome_iff_ne_none]

theorem setWalletStatus_eq_ok_iff {s : Store} {id : WalletId} {status : WalletStatus} {w : Wallet}
    {ws : List Write}
    : s.setWalletStatus id status = .ok (w, ws) ↔
      ∃ row, s.wallets.find? id = some row
        ∧ w = { row with status := status }
        ∧ ws = [.setWalletStatus id status] := by
  unfold setWalletStatus
  grind [Option.isSome_iff_ne_none]

end Store

open WalletRepository TransactionRepository LedgerRepository PaymentRepository LedgerService

theorem run_selectWalletsForUpdate (ids : List WalletId) (tx : Client) (s : Store)
    : (selectWalletsForUpdate ids tx).run database s = .ok (s.selectWallets ids, s) := by
  rfl

theorem run_createTransaction_eq_ok_iff {data : TransactionData} {tx : Client} {s s' : Store}
    {t : Transaction}
    : (createTransaction data tx).run database s = .ok (t, s') ↔
      s.transactions.find? data.id = none
        ∧ s.transactions.has Transaction.transactionRef data.transactionRef = false
        ∧ s.hasWallet data.senderWalletId
        ∧ s.hasWallet data.receiverWalletId
        ∧ ∃ amount, FixedPoint.ofRat? 18 2 data.amount.toDecimal = some amount
          ∧ t = data.row amount
          ∧ s' = s.addTransaction t := by
  apply (run_query_eq_ok_iff ⟨tx, .createTransaction data⟩ s s' t
    (fun _ => Store.insertTransaction_eq_ok_iff)).trans
  grind [applyAll_singleton, Store.apply, Store.addTransaction]

theorem run_updateTransactionStatus_eq_ok_iff {id : TransactionId} {status : TransactionStatus}
    {tx : Client} {s s' : Store} {t : Transaction}
    : (updateTransactionStatus id status tx).run database s = .ok (t, s') ↔
      ∃ row, s.transactions.find? id = some row
        ∧ t = { row with status := status }
        ∧ s' = s.apply (.setTransactionStatus id status) := by
  apply (run_query_eq_ok_iff ⟨tx, .updateTransactionStatus id status⟩ s s' t
    (fun _ => Store.setTransactionStatus_eq_ok_iff)).trans
  grind [applyAll_singleton]

theorem run_createPayment_eq_ok_iff {data : PaymentData} {tx : Client} {s s' : Store} {p : Payment}
    : (createPayment data tx).run database s = .ok (p, s') ↔
      s.payments.find? data.id = none
        ∧ s.payments.has Payment.paymentRef data.paymentRef = false
        ∧ s.payments.has Payment.idempotencyKey data.idempotencyKey = false
        ∧ (s.transactions.find? data.transactionId).isSome
        ∧ ∃ amount, FixedPoint.ofRat? 18 2 data.amount.toDecimal = some amount
          ∧ p = data.row amount
          ∧ s' = s.addPayment p := by
  apply (run_query_eq_ok_iff ⟨tx, .createPayment data⟩ s s' p
    (fun _ => Store.insertPayment_eq_ok_iff)).trans
  grind [applyAll_singleton, Store.apply, Store.addPayment]

theorem run_updateWalletStatus_eq_ok_iff {id : WalletId} {status : WalletStatus} {tx : Client}
    {s s' : Store} {w : Wallet}
    : (updateWalletStatus id status tx).run database s = .ok (w, s') ↔
      ∃ row, s.wallets.find? id = some row
        ∧ w = { row with status := status }
        ∧ s' = s.setStatus id status := by
  apply (run_query_eq_ok_iff ⟨tx, .updateWalletStatus id status⟩ s s' w
    (fun _ => Store.setWalletStatus_eq_ok_iff)).trans
  grind [applyAll_singleton, Store.apply, Store.setStatus]

theorem run_createLedgerEntry_eq_ok_iff {data : LedgerEntryData} {tx : Client} {s s' : Store}
    {e : LedgerEntry}
    : (createLedgerEntry data tx).run database s = .ok (e, s') ↔
      s.ledgerEntries.find? data.id = none
        ∧ s.hasWallet data.walletId
        ∧ (s.transactions.find? data.transactionId).isSome
        ∧ ∃ amount, FixedPoint.ofRat? 18 2 data.amount = some amount
          ∧ ∃ balanceAfter, FixedPoint.ofRat? 18 2 data.balanceAfter = some balanceAfter
            ∧ e = data.row amount balanceAfter
            ∧ s' = s.apply (.insertLedgerEntry e) := by
  apply (run_query_eq_ok_iff ⟨tx, .createLedgerEntry data⟩ s s' e
    (fun _ => Store.insertLedgerEntry_eq_ok_iff)).trans
  grind [applyAll_singleton]

theorem run_updateWalletBalance_eq_ok_iff {id : WalletId} {balance : ℚ} {tx : Client}
    {s s' : Store} {w : Wallet}
    : (updateWalletBalance id balance tx).run database s = .ok (w, s') ↔
      ∃ b, FixedPoint.ofRat? 18 2 balance = some b
        ∧ ∃ row, s.wallets.find? id = some row
          ∧ w = { row with balance := b }
          ∧ s' = s.apply (.setBalance id b) := by
  apply (run_query_eq_ok_iff ⟨tx, .updateWalletBalance id balance⟩ s s' w
    (fun _ => Store.setBalance_eq_ok_iff)).trans
  grind [applyAll_singleton]

end Banking
