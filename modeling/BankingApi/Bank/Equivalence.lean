import BankingApi.Bank.System

/-!
This module contains exactly when each way of posting money succeeds and what it leaves, and that the
ways agree.
-/

namespace Banking

open LedgerService TransactionService TransactionRepository

/--
An amount may be posted to the wallet, and will be stored as `amount` with the balance `balanceAfter`.
-/
structure Admits (s : Store) (walletId : WalletId) (entryType : LedgerEntryType) (a : Amount)
    (amount balance : Money) : Prop where
  pos : a.notPositive = false
  amount : FixedPoint.ofRat? 18 2 a.toDecimal = some amount
  wallet : ∃ w, s.wallets.find? walletId = some w ∧ w.status = .ACTIVE
    ∧ (entryType = .DEBIT → insufficientFunds w a = false)
    ∧ FixedPoint.ofRat? 18 2 (balanceAfter entryType w.balance.toRat a.toDecimal) = some balance

namespace Generated

/--
None of the values is in use.
-/
structure Fresh (g : Generated) (s : Store) : Prop where
  transactionId : s.transactions.find? g.transactionId = none
  transactionRef : s.transactions.has Transaction.transactionRef g.transactionRef = false
  debitEntryId : s.ledgerEntries.find? g.debitEntryId = none
  creditEntryId : s.ledgerEntries.find? g.creditEntryId = none
  entryIds : g.debitEntryId ≠ g.creditEntryId
  paymentId : s.payments.find? g.paymentId = none
  paymentRef : s.payments.has Payment.paymentRef g.paymentRef = false

structure Apart (g g' : Generated) : Prop where
  transactionId : g.transactionId ≠ g'.transactionId
  transactionRef : g.transactionRef ≠ g'.transactionRef
  debitEntryId : g.debitEntryId ≠ g'.debitEntryId
  creditEntryId : g.debitEntryId ≠ g'.creditEntryId

def transaction (g : Generated) (type : TransactionType) (sender receiver : Option WalletId)
    (amount : Money) (createdBy : UserId) (description : Option String)
    : Transaction where
  id := g.transactionId
  transactionRef := g.transactionRef
  type := type
  status := .SUCCESS
  amount := amount
  description := description
  senderWalletId := sender
  receiverWalletId := receiver
  createdBy := createdBy
  createdAt := g.transactionCreatedAt

def debit (g : Generated) (walletId : WalletId) (amount balance : Money) : LedgerEntry where
  id := g.debitEntryId
  transactionId := g.transactionId
  walletId := walletId
  entryType := .DEBIT
  amount := amount
  balanceAfter := balance
  createdAt := g.debitCreatedAt

def credit (g : Generated) (walletId : WalletId) (amount balance : Money) : LedgerEntry where
  id := g.creditEntryId
  transactionId := g.transactionId
  walletId := walletId
  entryType := .CREDIT
  amount := amount
  balanceAfter := balance
  createdAt := g.creditCreatedAt

end Generated

section Succeeds

variable {s s' : Store} {g : Generated} {a : Amount} {u : UserId} {d : Option String}
  {walletId sender receiver : WalletId} {entryType : LedgerEntryType} {t : Transaction}
  {amount amount' balance balance' : Money}

theorem Admits.unique (h : Admits s walletId entryType a amount balance)
    (h' : Admits s walletId entryType a amount' balance')
    : amount = amount' ∧ balance = balance' := by
  rcases h.wallet with ⟨w, hw, _, _, hb⟩
  rcases h'.wallet with ⟨w', hw', _, _, hb'⟩
  cases hw.symm.trans hw'
  cases h.amount.symm.trans h'.amount
  cases hb.symm.trans hb'
  exact ⟨rfl, rfl⟩

theorem admits_congr (h : s'.wallets.find? walletId = s.wallets.find? walletId)
    : Admits s' walletId entryType a amount balance ↔
      Admits s walletId entryType a amount balance := by
  constructor
  . rintro ⟨hpos, hamount, hw⟩
    exact ⟨hpos, hamount, by rwa [h] at hw⟩
  . rintro ⟨hpos, hamount, hw⟩
    exact ⟨hpos, hamount, by rwa [h]⟩

theorem run_deposit_eq_ok_iff (hg : g.Fresh s)
    : (TransactionService.deposit walletId a u d g).run database s = .ok (t, s') ↔
      ∃ amount balance, Admits s walletId .CREDIT a amount balance
        ∧ t = g.transaction .DEPOSIT none (some walletId) amount u d
        ∧ s' = (s.addTransaction t).post (g.credit walletId amount balance) := by
  unfold TransactionService.deposit
  rw [Prog.run_bind, run_selectWalletsForUpdate]
  dsimp only
  rw [Prog.run_bind_eq_ok_iff, head_selectWallets]
  simp only [run_validateConstraints_eq_ok_iff]
  constructor
  . rintro ⟨w, s₁, ⟨hpos, hw, hactive, rfl⟩, hrun⟩
    rcases run_recorded_eq_ok_iff.mp hrun
      with ⟨_, _, _, _, _, _, amount, hamount, balance, hbalance, rfl, rfl⟩
    exact ⟨amount, balance, ⟨hpos, hamount, w, hw, hactive, by simp, hbalance⟩, rfl, rfl⟩
  . rintro ⟨amount, balance, ⟨hpos, hamount, w, hw, hactive, _, hbalance⟩, rfl, rfl⟩
    refine ⟨w, s, ⟨hpos, hw, hactive, rfl⟩, run_recorded_eq_ok_iff.mpr ?_⟩
    exact ⟨hg.transactionId, hg.transactionRef, rfl, by simp [Store.hasWallet, hw], hg.creditEntryId,
      by simp [hw], amount, hamount, balance, hbalance, rfl, rfl⟩

theorem run_withdraw_eq_ok_iff (hg : g.Fresh s)
    : (TransactionService.withdraw walletId a u d g).run database s = .ok (t, s') ↔
      ∃ amount balance, Admits s walletId .DEBIT a amount balance
        ∧ t = g.transaction .WITHDRAW (some walletId) none amount u d
        ∧ s' = (s.addTransaction t).post (g.debit walletId amount balance) := by
  unfold TransactionService.withdraw
  rw [Prog.run_bind, run_selectWalletsForUpdate]
  dsimp only
  rw [Prog.run_bind_eq_ok_iff, head_selectWallets]
  simp only [run_validateConstraints_eq_ok_iff, Prog.run_require_bind_eq_ok_iff]
  constructor
  . rintro ⟨w, s₁, ⟨hpos, hw, hactive, rfl⟩, hfunds, hrun⟩
    rcases run_recorded_eq_ok_iff.mp hrun
      with ⟨_, _, _, _, _, _, amount, hamount, balance, hbalance, rfl, rfl⟩
    exact ⟨amount, balance, ⟨hpos, hamount, w, hw, hactive, fun _ => by simpa using hfunds, hbalance⟩,
      rfl, rfl⟩
  . rintro ⟨amount, balance, ⟨hpos, hamount, w, hw, hactive, hfunds, hbalance⟩, rfl, rfl⟩
    refine ⟨w, s, ⟨hpos, hw, hactive, rfl⟩, by simp [hfunds rfl], run_recorded_eq_ok_iff.mpr ?_⟩
    exact ⟨hg.transactionId, hg.transactionRef, by simp [Store.hasWallet, hw], rfl, hg.debitEntryId,
      by simp [hw], amount, hamount, balance, hbalance, rfl, rfl⟩

theorem run_processPaymentBlock_eq_ok_iff {key : IdempotencyKey} {method : PaymentMethod} {p : Payment}
    (hg : g.Fresh s) (hkey : s.payments.has Payment.idempotencyKey key = false)
    : (PaymentService.processPaymentBlock key a method walletId u d g).run database s =
        .ok (p, s') ↔
      ∃ amount balance, Admits s walletId .CREDIT a amount balance
        ∧ p = ⟨g.paymentId, g.paymentRef, g.transactionId, amount, method, .INITIATED, key, none,
          g.paymentCreatedAt⟩
        ∧ s' = ((s.addTransaction (g.transaction .DEPOSIT none (some walletId) amount u d)).post
          (g.credit walletId amount balance)).addPayment p := by
  unfold PaymentService.processPaymentBlock
  rw [Prog.run_bind, run_selectWalletsForUpdate]
  dsimp only
  rw [Prog.run_bind_eq_ok_iff, head_selectWallets]
  simp only [run_receiverWallet_eq_ok_iff, Prog.run_require_bind_eq_ok_iff]
  simp only [Prog.run_bind_eq_ok_iff, run_createTransaction_eq_ok_iff, run_postTransaction_eq_ok_iff,
    run_createPayment_eq_ok_iff]
  constructor
  . rintro ⟨w, s₁, ⟨hw, rfl⟩, hactive, hpos, t, s₂, ⟨_, _, _, _, amount, hamount, rfl, rfl⟩, e, s₃,
      ⟨_, _, _, amount', hamount', balance, hbalance, rfl, rfl⟩,
      _, _, _, _, amount'', hamount'', rfl, rfl⟩
    cases hamount.symm.trans hamount'
    cases hamount.symm.trans hamount''
    exact ⟨amount, balance, ⟨by simpa using hpos, hamount, w, hw, hactive, by simp, hbalance⟩, rfl, rfl⟩
  . rintro ⟨amount, balance, ⟨hpos, hamount, w, hw, hactive, _, hbalance⟩, rfl, rfl⟩
    have hrow : (s.addTransaction (g.transaction .DEPOSIT none (some walletId) amount u
        d)).transactions.find? g.transactionId = some _ :=
      Table.find?_insert_self hg.transactionId
    have hsome := Option.isSome_iff_exists.mpr ⟨_, hrow⟩
    exact ⟨w, s, ⟨hw, rfl⟩, hactive, by simp [hpos], _, _,
      ⟨hg.transactionId, hg.transactionRef, rfl, by simp [Store.hasWallet, hw], amount, hamount, rfl,
        rfl⟩, _, _,
      ⟨hg.creditEntryId, by simp [Store.addTransaction, hw], hsome, amount, hamount, balance, hbalance,
        rfl, rfl⟩,
      hg.paymentId, hg.paymentRef, hkey, hsome, amount, hamount, rfl, rfl⟩

theorem selectWallets_pair {w w' : Wallet} (hne : sender ≠ receiver)
    (hw : s.wallets.find? sender = some w) (hw' : s.wallets.find? receiver = some w')
    : (s.selectWallets [sender, receiver]).length = 2
        ∧ (s.selectWallets [sender, receiver]).find? (·.id = sender) = some w
        ∧ (s.selectWallets [sender, receiver]).find? (·.id = receiver) = some w' := by
  have hid := Table.key_of_find? hw
  have hid' := Table.key_of_find? hw'
  have hdedup : [sender, receiver].dedup = [sender, receiver] := by simp [hne]
  unfold Store.selectWallets
  rw [hdedup]
  simp only [List.insertionSort, List.foldr_cons, List.foldr_nil, List.orderedInsert]
  split <;> simp [hw, hw', hid, hid', hne, hne.symm]

theorem run_transfer_eq_ok_iff (hg : g.Fresh s)
    : (TransactionService.transfer sender receiver a u d g).run database s = .ok (t, s') ↔
      sender ≠ receiver ∧ ∃ amount balance balance', Admits s sender .DEBIT a amount balance
        ∧ Admits s receiver .CREDIT a amount balance'
        ∧ t = g.transaction .TRANSFER (some sender) (some receiver) amount u d
        ∧ s' = ((s.addTransaction t).post (g.debit sender amount balance)).post
          (g.credit receiver amount balance') := by
  unfold TransactionService.transfer
  rw [Prog.run_require_bind_eq_ok_iff, Prog.run_bind, run_selectWalletsForUpdate]
  dsimp only
  rw [Prog.run_require_bind_eq_ok_iff, Prog.run_bind_eq_ok_iff]
  simp only [run_validateConstraints_eq_ok_iff, Prog.run_bind_eq_ok_iff, Prog.run_require_eq_ok_iff,
    run_createTransaction_eq_ok_iff, run_postTransaction_eq_ok_iff,
    run_updateTransactionStatus_eq_ok_iff]
  constructor
  . rintro ⟨hne, _, w, s₁, ⟨hpos, hw, hactive, rfl⟩, w', s₂, ⟨_, hw', hactive', rfl⟩, _, _,
      ⟨hfunds, rfl⟩, t₀, s₃, ⟨hfresh, href, _, _, amount, hamount, rfl, rfl⟩, e, s₄,
      ⟨hentry, _, _, amount', hamount', balance, hbalance, rfl, rfl⟩, e', s₅,
      ⟨hentry', _, _, amount'', hamount'', balance', hbalance', rfl, rfl⟩, row, hrow, rfl, rfl⟩
    cases hamount.symm.trans hamount'
    cases hamount.symm.trans hamount''
    rcases setTransactionStatus_after_posts (t := TransactionData.row _ amount) hfresh [_, _]
      .SUCCESS hrow with ⟨rfl, hset⟩
    exact ⟨hne, amount, balance, balance',
      ⟨hpos, hamount, w, find?_selectWallets hw, hactive, fun _ => by simpa using hfunds, hbalance⟩,
      ⟨hpos, hamount, w', find?_selectWallets hw', hactive', by simp, hbalance'⟩, rfl, hset⟩
  . rintro ⟨hne, amount, balance, balance', ⟨hpos, hamount, w, hw, hactive, hfunds, hbalance⟩,
      ⟨_, _, w', hw', hactive', _, hbalance'⟩, rfl, rfl⟩
    rcases selectWallets_pair hne hw hw' with ⟨hlength, hfind, hfind'⟩
    have hrow : (s.addTransaction { g.transaction .TRANSFER (some sender) (some receiver) amount u d with
        status := .PENDING }).transactions.find? g.transactionId = some _ :=
      Table.find?_insert_self hg.transactionId
    have hsome := Option.isSome_iff_exists.mpr ⟨_, hrow⟩
    have hentry : (s.ledgerEntries.insert (g.debit sender amount balance)).find? g.creditEntryId =
        none :=
      (Table.find?_insert_of_ne (r := g.debit sender amount balance) hg.entryIds).trans
        hg.creditEntryId
    have hwallet : ((s.wallets.update sender ({ · with balance := balance }) (fun _ => rfl)).find?
        receiver).isSome := by
      rw [Table.find?_update_of_ne hne, hw']
      rfl
    rcases setTransactionStatus_after_posts hg.transactionId
      [g.debit sender amount balance, g.credit receiver amount balance'] .SUCCESS hrow
      with ⟨_, hset⟩
    exact ⟨hne, hlength, w, s, ⟨hpos, hfind, hactive, rfl⟩, w', s, ⟨hpos, hfind', hactive', rfl⟩, (), s,
      ⟨by simp [hfunds rfl], rfl⟩, _, _,
      ⟨hg.transactionId, hg.transactionRef, by simp [Store.hasWallet, hw],
        by simp [Store.hasWallet, hw'], amount, hamount, rfl, rfl⟩, _, _,
      ⟨hg.debitEntryId, by simp [Store.addTransaction, hw], hsome, amount, hamount, balance, hbalance,
        rfl, rfl⟩, _, _,
      ⟨hentry, hwallet, hsome, amount, hamount, balance', hbalance', rfl, rfl⟩, _, hrow, rfl,
      hset.symm⟩

end Succeeds

def LedgerEntry.line (e : LedgerEntry) : WalletId × LedgerEntryType × Money × Money :=
  (e.walletId, e.entryType, e.amount, e.balanceAfter)

/--
Two ways on from `s` have the same effect on the wallets and append the same lines to the ledger.
-/
structure SamePostings (s s' s'' : Store) : Prop where
  wallets : s'.wallets = s''.wallets
  entries : ∃ es es', s'.ledgerEntries.rows = s.ledgerEntries.rows ++ es
    ∧ s''.ledgerEntries.rows = s.ledgerEntries.rows ++ es'
    ∧ es.map LedgerEntry.line = es'.map LedgerEntry.line

structure SameTransaction (s s' s'' : Store) : Prop where
  transactions : ∃ t t', s'.transactions.rows = s.transactions.rows ++ [t]
    ∧ s''.transactions.rows = s.transactions.rows ++ [t']
    ∧ t' = { t with
      id := t'.id, transactionRef := t'.transactionRef, createdAt := t'.createdAt }

section Agreement

variable {s s' : Store} {g g' : Generated} {a : Amount} {u : UserId} {d : Option String}
  {sender receiver : WalletId} {t : Transaction} {amount balance balance' : Money}

theorem Generated.Fresh.post (h : g'.Fresh s) (hapart : g.Apart g') (ht : t.id = g.transactionId)
    (href : t.transactionRef = g.transactionRef)
    : g'.Fresh ((s.addTransaction t).post (g.debit sender amount balance)) where
  transactionId := by
    refine (Table.find?_insert_of_ne (r := t) ?_).trans h.transactionId
    rw [ht]
    exact hapart.transactionId
  transactionRef := by
    have hne : t.transactionRef ≠ g'.transactionRef := by
      rw [href]
      exact hapart.transactionRef
    change (s.transactions.insert t).has Transaction.transactionRef g'.transactionRef = false
    rw [Table.has_insert, h.transactionRef]
    simp [hne]
  debitEntryId :=
    (Table.find?_insert_of_ne (r := g.debit sender amount balance) hapart.debitEntryId).trans
      h.debitEntryId
  creditEntryId :=
    (Table.find?_insert_of_ne (r := g.debit sender amount balance) hapart.creditEntryId).trans
      h.creditEntryId
  entryIds := h.entryIds
  paymentId := h.paymentId
  paymentRef := h.paymentRef

theorem find?_wallets_post_of_ne {e : LedgerEntry} {id : WalletId} (hne : e.walletId ≠ id)
    : ((s.addTransaction t).post e).wallets.find? id = s.wallets.find? id := by
  unfold Store.post
  rw [Table.find?_update_of_ne hne]
  rfl

theorem transfer_succeeds_iff (hne : sender ≠ receiver) (hg : g.Fresh s)
    : (∃ t s', (transfer sender receiver a u d g).run database s = .ok (t, s')) ↔
      (∃ amount balance, Admits s sender .DEBIT a amount balance)
        ∧ ∃ amount balance, Admits s receiver .CREDIT a amount balance := by
  simp only [run_transfer_eq_ok_iff hg]
  constructor
  . rintro ⟨t, s', _, amount, balance, balance', hdebit, hcredit, _⟩
    exact ⟨⟨amount, balance, hdebit⟩, ⟨amount, balance', hcredit⟩⟩
  . rintro ⟨⟨amount, balance, hdebit⟩, ⟨amount', balance', hcredit⟩⟩
    cases hdebit.amount.symm.trans hcredit.amount
    exact ⟨_, _, hne, amount, balance, balance', hdebit, hcredit, rfl, rfl⟩

variable {g₁ g₂ : Generated}

theorem run_deposit_after_withdraw_iff {s₁ : Store} {t₁ t₂ : Transaction} (hne : sender ≠ receiver)
    (hg₁ : g₁.Fresh s) (hg₂ : g₂.Fresh s) (hapart : g₁.Apart g₂)
    (h₁ : (withdraw sender a u d g₁).run database s = .ok (t₁, s₁))
    : (deposit receiver a u d g₂).run database s₁ = .ok (t₂, s') ↔
      ∃ amount balance, Admits s receiver .CREDIT a amount balance
        ∧ t₂ = g₂.transaction .DEPOSIT none (some receiver) amount u d
        ∧ s' = (s₁.addTransaction t₂).post (g₂.credit receiver amount balance) := by
  rcases (run_withdraw_eq_ok_iff hg₁).mp h₁ with ⟨amount, balance, _, rfl, rfl⟩
  rw [run_deposit_eq_ok_iff (hg₂.post hapart rfl rfl)]
  simp only [admits_congr (find?_wallets_post_of_ne (e := g₁.debit sender amount balance) hne)]

theorem withdraw_then_deposit_succeeds_iff (hne : sender ≠ receiver) (hg₁ : g₁.Fresh s)
    (hg₂ : g₂.Fresh s) (hapart : g₁.Apart g₂)
    : (∃ t₁ s₁ t₂ s₂, (withdraw sender a u d g₁).run database s = .ok (t₁, s₁)
          ∧ (deposit receiver a u d g₂).run database s₁ = .ok (t₂, s₂)) ↔
      (∃ amount balance, Admits s sender .DEBIT a amount balance)
        ∧ ∃ amount balance, Admits s receiver .CREDIT a amount balance := by
  constructor
  . rintro ⟨t₁, s₁, t₂, s₂, h₁, h₂⟩
    rcases (run_deposit_after_withdraw_iff hne hg₁ hg₂ hapart h₁).mp h₂
      with ⟨amount', balance', hcredit, _⟩
    rcases (run_withdraw_eq_ok_iff hg₁).mp h₁ with ⟨amount, balance, hdebit, _⟩
    exact ⟨⟨amount, balance, hdebit⟩, ⟨amount', balance', hcredit⟩⟩
  . rintro ⟨⟨amount, balance, hdebit⟩, ⟨amount', balance', hcredit⟩⟩
    have h₁ := (run_withdraw_eq_ok_iff (u := u) (d := d) hg₁).mpr ⟨amount, balance, hdebit, rfl, rfl⟩
    have h₂ := (run_deposit_after_withdraw_iff hne hg₁ hg₂ hapart h₁).mpr
      ⟨amount', balance', hcredit, rfl, rfl⟩
    exact ⟨_, _, _, _, h₁, h₂⟩

theorem transfer_same {s₁ s₂ : Store} {t₁ t₂ : Transaction} (hne : sender ≠ receiver)
    (hg : g.Fresh s) (hg₁ : g₁.Fresh s) (hg₂ : g₂.Fresh s) (hapart : g₁.Apart g₂)
    (h : (transfer sender receiver a u d g).run database s = .ok (t, s'))
    (h₁ : (withdraw sender a u d g₁).run database s = .ok (t₁, s₁))
    (h₂ : (deposit receiver a u d g₂).run database s₁ = .ok (t₂, s₂))
    : SamePostings s s' s₂ := by
  rcases (run_transfer_eq_ok_iff hg).mp h
    with ⟨_, amount, balance, balance', hdebit, hcredit, rfl, rfl⟩
  rcases (run_deposit_after_withdraw_iff hne hg₁ hg₂ hapart h₁).mp h₂
    with ⟨amount₂, balance₂, hcredit₂, rfl, rfl⟩
  rcases (run_withdraw_eq_ok_iff hg₁).mp h₁ with ⟨amount₁, balance₁, hdebit₁, rfl, rfl⟩
  rcases hdebit.unique hdebit₁ with ⟨rfl, rfl⟩
  rcases hcredit.unique hcredit₂ with ⟨rfl, rfl⟩
  constructor
  . rfl
  . exact ⟨[g.debit sender amount balance, g.credit receiver amount balance'],
      [g₁.debit sender amount balance, g₂.credit receiver amount balance'],
      Table.rows_insert_insert hg.debitEntryId hg.creditEntryId hg.entryIds,
      Table.rows_insert_insert hg₁.debitEntryId hg₂.creditEntryId hapart.creditEntryId, rfl⟩

theorem processPayment_same {s'' : Store} {key : IdempotencyKey} {method : PaymentMethod} {p : Payment}
    (hg : g.Fresh s) (hg' : g'.Fresh s) (hkey : s.payments.has Payment.idempotencyKey key = false)
    (h : (PaymentService.processPaymentBlock key a method receiver u d g).run database s =
      .ok (p, s'))
    (h' : (deposit receiver a u d g').run database s = .ok (t, s''))
    : SamePostings s s' s'' ∧ SameTransaction s s' s''
        ∧ s'.payments.rows = s.payments.rows ++ [p] ∧ s''.payments = s.payments := by
  rcases (run_processPaymentBlock_eq_ok_iff hg hkey).mp h with ⟨amount, balance, hcredit, rfl, rfl⟩
  rcases (run_deposit_eq_ok_iff hg').mp h' with ⟨amount', balance', hcredit', rfl, rfl⟩
  rcases hcredit.unique hcredit' with ⟨rfl, rfl⟩
  refine ⟨⟨rfl, ?_⟩, ⟨?_⟩, Table.rows_insert hg.paymentId, rfl⟩
  . exact ⟨[g.credit receiver amount balance], [g'.credit receiver amount balance],
      Table.rows_insert hg.creditEntryId, Table.rows_insert hg'.creditEntryId, rfl⟩
  . exact ⟨g.transaction .DEPOSIT none (some receiver) amount u d,
      g'.transaction .DEPOSIT none (some receiver) amount u d,
      Table.rows_insert hg.transactionId, Table.rows_insert hg'.transactionId, rfl⟩

/--
The three ways of posting money agree. None of the generated values is in use, and no two calls draw the
same.
-/
theorem postings_agree (s : Store) {sender receiver : WalletId} (hne : sender ≠ receiver)
    (a : Amount) (u : UserId) (d : Option String) {key : IdempotencyKey} (method : PaymentMethod)
    (hkey : s.payments.has Payment.idempotencyKey key = false) {g g₁ g₂ : Generated}
    (hg : g.Fresh s) (hg₁ : g₁.Fresh s) (hg₂ : g₂.Fresh s) (hapart : g₁.Apart g₂)
    : ((∃ t s', (transfer sender receiver a u d g).run database s = .ok (t, s')) ↔
          ∃ t₁ s₁ t₂ s₂, (withdraw sender a u d g₁).run database s = .ok (t₁, s₁)
            ∧ (deposit receiver a u d g₂).run database s₁ = .ok (t₂, s₂))
        ∧ (∀ t s' t₁ s₁ t₂ s₂,
          (transfer sender receiver a u d g).run database s = .ok (t, s') →
          (withdraw sender a u d g₁).run database s = .ok (t₁, s₁) →
          (deposit receiver a u d g₂).run database s₁ = .ok (t₂, s₂) →
          SamePostings s s' s₂)
        ∧ ((∃ p s', (PaymentService.processPaymentBlock key a method receiver u d g).run
            database s = .ok (p, s')) ↔
          ∃ t s'', (deposit receiver a u d g₂).run database s = .ok (t, s''))
        ∧ ∀ p s' t s'',
          (PaymentService.processPaymentBlock key a method receiver u d g).run database s =
            .ok (p, s') →
          (deposit receiver a u d g₂).run database s = .ok (t, s'') →
          SamePostings s s' s'' ∧ SameTransaction s s' s''
            ∧ s'.payments.rows = s.payments.rows ++ [p] ∧ s''.payments = s.payments := by
  refine ⟨?_, ?_, ?_, ?_⟩
  . rw [transfer_succeeds_iff hne hg, withdraw_then_deposit_succeeds_iff hne hg₁ hg₂ hapart]
  . intro t s' t₁ s₁ t₂ s₂
    exact transfer_same hne hg hg₁ hg₂ hapart
  . simp only [run_processPaymentBlock_eq_ok_iff hg hkey, run_deposit_eq_ok_iff hg₂]
    constructor
    . rintro ⟨_, _, amount, balance, hcredit, _⟩
      exact ⟨_, _, amount, balance, hcredit, rfl, rfl⟩
    . rintro ⟨_, _, amount, balance, hcredit, _⟩
      exact ⟨_, _, amount, balance, hcredit, rfl, rfl⟩
  . intro p s' t s''
    exact processPayment_same hg hg₂ hkey

end Agreement

def twoWallets : Store :=
  Run.run step (.initial sampleUsers) (sampleDeposit ++ [⟨.createWallet "bob" none "b" "2", true⟩])

def sampleAmount : Amount :=
  .number (.ofRat 1 Binary64.abs_round_one_lt)

theorem fresh_sampleGenerated {n : String} (h : n = "2" ∨ n = "3" ∨ n = "4")
    : (sampleGenerated n).Fresh twoWallets := by
  rcases h with rfl | rfl | rfl <;> constructor <;> decide +kernel

theorem postings_of_one_agree
    : ((∃ t s', (transfer "a" "b" sampleAmount "alice" none (sampleGenerated "2")).run database
            twoWallets = .ok (t, s')) ↔
          ∃ t₁ s₁ t₂ s₂,
            (withdraw "a" sampleAmount "alice" none (sampleGenerated "3")).run database twoWallets =
                .ok (t₁, s₁)
              ∧ (deposit "b" sampleAmount "alice" none (sampleGenerated "4")).run database s₁ =
                .ok (t₂, s₂))
        ∧ ((∃ p s', (PaymentService.processPaymentBlock "XYZ" sampleAmount .UPI "b" "alice" none
              (sampleGenerated "2")).run database twoWallets = .ok (p, s')) ↔
          ∃ t s'', (deposit "b" sampleAmount "alice" none (sampleGenerated "4")).run database
            twoWallets = .ok (t, s'')) := by
  have hapart : (sampleGenerated "3").Apart (sampleGenerated "4") := by
    constructor <;> decide
  have hkey : twoWallets.payments.has Payment.idempotencyKey "XYZ" = false := by decide +kernel
  have hagree := postings_agree twoWallets (show ("a" : WalletId) ≠ "b" by decide) sampleAmount "alice"
    none .UPI hkey (fresh_sampleGenerated (n := "2") (by simp))
    (fresh_sampleGenerated (n := "3") (by simp)) (fresh_sampleGenerated (n := "4") (by simp)) hapart
  exact ⟨hagree.1, hagree.2.2.1⟩

end Banking
