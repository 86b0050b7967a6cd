import BankingApi.Prisma.Statements

/-!
This module contains the calls that change money or wallets, and says once what a call that commits
has done to the store. Everything that holds along runs is derived from `effect_of_run`.
-/

namespace Banking

open LedgerService TransactionService TransactionRepository

inductive Call where
  | deposit (receiverWalletId : WalletId) (amount : Binary64) (createdBy : UserId)
      (description : Option String) (gen : Generated)
  | withdraw (senderWalletId : WalletId) (amount : Binary64) (createdBy : UserId)
      (description : Option String) (gen : Generated)
  | transfer (senderWalletId receiverWalletId : WalletId) (amount : Binary64) (createdBy : UserId)
      (description : Option String) (gen : Generated)
  | processPayment (idempotencyKey : IdempotencyKey) (amount : Amount) (method : PaymentMethod)
      (receiverWalletId : WalletId) (createdBy : UserId) (description : Option String)
      (gen : Generated)
  | freezeWallet (walletId : WalletId)
  | unfreezeWallet (walletId : WalletId)
  | closeWallet (walletId : WalletId)

inductive Reply where
  | transaction (t : Transaction)
  | payment (p : Payment)
  | wallet (w : Wallet)

/--
What a call sends to the database after it has read `snapshot`; the money operations read nothing
before their block.
-/
def Call.program (c : Call) (snapshot : Store) : Tx Reply :=
  match c with
  | .deposit receiverWalletId amount createdBy description gen =>
    .transaction <$> TransactionService.deposit receiverWalletId (.number amount) createdBy description gen
  | .withdraw senderWalletId amount createdBy description gen =>
    .transaction <$> TransactionService.withdraw senderWalletId (.number amount) createdBy description gen
  | .transfer senderWalletId receiverWalletId amount createdBy description gen =>
    .transaction <$> TransactionService.transfer senderWalletId receiverWalletId (.number amount) createdBy
      description gen
  | .processPayment idempotencyKey amount method receiverWalletId createdBy description gen =>
    .payment <$> PaymentService.processPaymentBlock idempotencyKey amount method receiverWalletId
      createdBy description gen
  | .freezeWallet walletId => .wallet <$> WalletService.freezeWallet walletId snapshot
  | .unfreezeWallet walletId => .wallet <$> WalletService.unfreezeWallet walletId snapshot
  | .closeWallet walletId => .wallet <$> WalletService.closeWallet walletId snapshot

def Call.statusUpdate? (c : Call) : Option (WalletId × WalletStatus) :=
  match c with
  | .freezeWallet walletId => some (walletId, .FROZEN)
  | .unfreezeWallet walletId => some (walletId, .ACTIVE)
  | .closeWallet walletId => some (walletId, .CLOSED)
  | _ => none

structure Recorded (s : Store) (type : TransactionType) (sender receiver : Option WalletId)
    (createdBy : UserId) (amount : ℚ) (t : Transaction) : Prop where
  fresh : s.transactions.find? t.id = none
  freshRef : s.transactions.has Transaction.transactionRef t.transactionRef = false
  type_eq : t.type = type
  status_eq : t.status = .SUCCESS
  sender_eq : t.senderWalletId = sender
  receiver_eq : t.receiverWalletId = receiver
  createdBy_eq : t.createdBy = createdBy
  amount_eq : FixedPoint.ofRat? 18 2 amount = some t.amount

structure Posted (s : Store) (t : Transaction) (entryType : LedgerEntryType) (w : Wallet)
    (amount : ℚ) (e : LedgerEntry) : Prop where
  fresh : s.ledgerEntries.find? e.id = none
  transactionId_eq : e.transactionId = t.id
  entryType_eq : e.entryType = entryType
  wallet_eq : s.wallets.find? e.walletId = some w
  active : w.status = .ACTIVE
  amount_eq : e.amount = t.amount
  balanceAfter_eq : FixedPoint.ofRat? 18 2 (balanceAfter entryType w.balance.toRat amount) =
    some e.balanceAfter

structure Paid (s : Store) (t : Transaction) (method : PaymentMethod)
    (idempotencyKey : IdempotencyKey) (p : Payment) : Prop where
  fresh : s.payments.find? p.id = none
  freshKey : s.payments.has Payment.idempotencyKey idempotencyKey = false
  transactionId_eq : p.transactionId = t.id
  amount_eq : p.amount = t.amount
  method_eq : p.method = method
  status_eq : p.status = .INITIATED
  idempotencyKey_eq : p.idempotencyKey = idempotencyKey

inductive Effect (s : Store) : Call → Reply → Store → Prop where
  | deposit {r a u d g t e w}
      (hpos : 0 < a.val)
      (ht : Recorded s .DEPOSIT none (some r) u a.toDecimal t)
      (hw : e.walletId = r)
      (he : Posted s t .CREDIT w a.toDecimal e)
    : Effect s (.deposit r a u d g) (.transaction t) ((s.addTransaction t).post e)
  | withdraw {r a u d g t e w}
      (hpos : 0 < a.val)
      (hfunds : insufficientFunds w (.number a) = false)
      (ht : Recorded s .WITHDRAW (some r) none u a.toDecimal t)
      (hw : e.walletId = r)
      (he : Posted s t .DEBIT w a.toDecimal e)
    : Effect s (.withdraw r a u d g) (.transaction t) ((s.addTransaction t).post e)
  | transfer {r r' a u d g t e e' w w'}
      (hne : r ≠ r')
      (hpos : 0 < a.val)
      (hfunds : insufficientFunds w (.number a) = false)
      (ht : Recorded s .TRANSFER (some r) (some r') u a.toDecimal t)
      (hw : e.walletId = r)
      (hw' : e'.walletId = r')
      (he : Posted s t .DEBIT w a.toDecimal e)
      (he' : Posted s t .CREDIT w' a.toDecimal e')
      (hid : e.id ≠ e'.id)
    : Effect s (.transfer r r' a u d g) (.transaction t) (((s.addTransaction t).post e).post e')
  | processPayment {k a m r u d g t e p w}
      (hpos : a.notPositive = false)
      (ht : Recorded s .DEPOSIT none (some r) u a.toDecimal t)
      (hw : e.walletId = r)
      (he : Posted s t .CREDIT w a.toDecimal e)
      (hp : Paid s t m k p)
    : Effect s (.processPayment k a m r u d g) (.payment p)
        (((s.addTransaction t).post e).addPayment p)
  | status {c id st w}
      (hc : c.statusUpdate? = some (id, st))
      (hw : s.wallets.find? id = some w)
    : Effect s c (.wallet { w with status := st }) (s.setStatus id st)

theorem run_map_eq_ok_iff {p : Tx α} {f : α → β} {s s' : Store} {b : β}
    : (f <$> p).run database s = .ok (b, s') ↔ ∃ a, p.run database s = .ok (a, s') ∧ f a = b := by
  change (p >>= fun a => pure (f a)).run database s = _ ↔ _
  rw [Prog.run_bind_eq_ok_iff]
  grind [Prog.run_pure]

theorem find?_selectWallets {s : Store} {ids : List WalletId} {id : WalletId} {w : Wallet}
    (h : (s.selectWallets ids).find? (·.id = id) = some w)
    : s.wallets.find? id = some w := by
  have hmem := List.mem_of_find?_eq_some h
  have hid : w.id = id := by simpa using List.find?_some h
  unfold Store.selectWallets at hmem
  rcases List.mem_filterMap.mp hmem with ⟨k, _, hk⟩
  have := Table.key_of_find? hk
  rwa [← hid, this]

theorem selectWallets_singleton (s : Store) (id : WalletId)
    : s.selectWallets [id] = (s.wallets.find? id).toList := by
  cases h : s.wallets.find? id with
  | none => simp [Store.selectWallets, h]
  | some w => simp [Store.selectWallets, h]

theorem run_validateConstraints_eq_ok_iff {wallet : Option Wallet} {amount : Amount}
    {s s' : Store} {w : Wallet}
    : (validateConstraints wallet amount).run database s = .ok (w, s') ↔
      amount.notPositive = false ∧ wallet = some w ∧ w.status = .ACTIVE ∧ s' = s := by
  unfold validateConstraints
  grind [Prog.run]

theorem run_receiverWallet_eq_ok_iff {wallet : Option Wallet} {s s' : Store} {w : Wallet}
    : (PaymentService.receiverWallet wallet).run database s = .ok (w, s') ↔
      wallet = some w ∧ s' = s := by
  unfold PaymentService.receiverWallet
  grind [Prog.run]

theorem run_postTransaction_eq_ok_iff {params : PostTransaction} {tx : Client} {s s' : Store}
    {e : LedgerEntry}
    : (postTransaction params tx).run database s = .ok (e, s') ↔
      s.ledgerEntries.find? params.entryId = none
        ∧ (s.wallets.find? params.walletId).isSome
        ∧ (s.transactions.find? params.transactionId).isSome
        ∧ ∃ amount, FixedPoint.ofRat? 18 2 params.amount.toDecimal = some amount
          ∧ ∃ balance, FixedPoint.ofRat? 18 2
              (balanceAfter params.entryType params.currentBalance params.amount.toDecimal) =
            some balance
            ∧ e = ⟨params.entryId, params.transactionId, params.walletId, params.entryType, amount,
              balance, params.createdAt⟩
            ∧ s' = s.post e := by
  unfold postTransaction
  simp only [Prog.run_bind_eq_ok_iff, run_createLedgerEntry_eq_ok_iff,
    run_updateWalletBalance_eq_ok_iff, Store.hasWallet]
  constructor
  . rintro ⟨e', s₁, ⟨hfresh, hw, ht, amount, hamount, b, hb, rfl, rfl⟩, w', s₂,
      ⟨b', hb', row, _, _, rfl⟩, hret⟩
    cases hb.symm.trans hb'
    cases hret
    exact ⟨hfresh, hw, ht, amount, hamount, b, hb, rfl, rfl⟩
  . rintro ⟨hfresh, hw, ht, amount, hamount, b, hb, rfl, rfl⟩
    rcases Option.isSome_iff_exists.mp hw with ⟨row, hrow⟩
    exact ⟨_, _, ⟨hfresh, hw, ht, amount, hamount, b, hb, rfl, rfl⟩, _, _,
      ⟨b, hb, row, hrow, rfl, rfl⟩, rfl⟩

theorem transactions_foldl_post (es : List LedgerEntry) (s : Store)
    : (es.foldl Store.post s).transactions = s.transactions := by
  induction es generalizing s with
  | nil => rfl
  | cons e es ih => exact ih (s.post e)

/--
A block updates the status of the row that it inserted, after it has posted entries. In the end the
row might as well have been inserted with that status.
-/
theorem setTransactionStatus_after_posts {s : Store} {t row : Transaction}
    (hfresh : s.transactions.find? t.id = none) (es : List LedgerEntry) (status : TransactionStatus)
    (hrow : (es.foldl Store.post (s.addTransaction t)).transactions.find? t.id = some row)
    : row = t ∧ (es.foldl Store.post (s.addTransaction t)).apply (.setTransactionStatus t.id status) =
        es.foldl Store.post (s.addTransaction { t with status := status }) := by
  constructor
  . rw [transactions_foldl_post] at hrow
    unfold Store.addTransaction at hrow
    rw [Table.find?_insert_self hfresh] at hrow
    cases hrow
    rfl
  . have hcomm : ∀ (es : List LedgerEntry) (s : Store),
        (es.foldl Store.post s).apply (.setTransactionStatus t.id status) =
          es.foldl Store.post (s.apply (.setTransactionStatus t.id status)) := by
      intro es
      induction es with
      | nil => intro s; rfl
      | cons e es ih => intro s; exact ih (s.post e)
    rw [hcomm]
    simp only [Store.apply, Store.addTransaction, Table.insert_update_self hfresh]

/--
The transaction is PENDING while its entry is posted. In the end it might as well have been SUCCESS.
-/
theorem run_recorded_eq_ok_iff {data : TransactionData} {walletId : WalletId}
    {entryType : LedgerEntryType} {entryId : String} {currentBalance : ℚ} {createdAt : ℕ}
    {s s' : Store} {t : Transaction}
    : (createTransaction data .transaction >>= fun transaction =>
          postTransaction ⟨transaction.id, walletId, entryType, data.amount, currentBalance, entryId,
            createdAt⟩ .transaction >>= fun _ =>
          updateTransactionStatus transaction.id .SUCCESS .transaction).run database s =
        .ok (t, s') ↔
      s.transactions.find? data.id = none
        ∧ s.transactions.has Transaction.transactionRef data.transactionRef = false
        ∧ s.hasWallet data.senderWalletId ∧ s.hasWallet data.receiverWalletId
        ∧ s.ledgerEntries.find? entryId = none ∧ (s.wallets.find? walletId).isSome
        ∧ ∃ amount, FixedPoint.ofRat? 18 2 data.amount.toDecimal = some amount
          ∧ ∃ balance, FixedPoint.ofRat? 18 2
              (balanceAfter entryType currentBalance data.amount.toDecimal) = some balance
            ∧ t = { data.row amount with status := .SUCCESS }
            ∧ s' = (s.addTransaction t).post
              ⟨entryId, data.id, walletId, entryType, amount, balance, createdAt⟩ := by
  simp only [Prog.run_bind_eq_ok_iff, run_createTransaction_eq_ok_iff,
    run_updateTransactionStatus_eq_ok_iff, run_postTransaction_eq_ok_iff]
  constructor
  . rintro ⟨t₀, s₂, ⟨hfresh, href, hsender, hreceiver, amount, hamount, rfl, rfl⟩, e, s₃,
      ⟨hentry, hwallet, _, amount', hamount', balance, hbalance, rfl, rfl⟩, row, hrow, rfl, rfl⟩
    cases hamount.symm.trans hamount'
    rcases setTransactionStatus_after_posts (t := data.row amount) hfresh [_] .SUCCESS hrow
      with ⟨rfl, hset⟩
    exact ⟨hfresh, href, hsender, hreceiver, hentry, hwallet, amount, hamount, balance, hbalance, rfl,
      hset⟩
  . rintro ⟨hfresh, href, hsender, hreceiver, hentry, hwallet, amount, hamount, balance, hbalance,
      rfl, rfl⟩
    have hrow : (s.addTransaction (data.row amount)).transactions.find? data.id =
        some (data.row amount) :=
      Table.find?_insert_self hfresh
    rcases setTransactionStatus_after_posts (t := data.row amount) hfresh
      [⟨entryId, data.id, walletId, entryType, amount, balance, createdAt⟩] .SUCCESS hrow
      with ⟨_, hset⟩
    exact ⟨_, _, ⟨hfresh, href, hsender, hreceiver, amount, hamount, rfl, rfl⟩, _, _,
      ⟨hentry, hwallet, Option.isSome_iff_exists.mpr ⟨_, hrow⟩, amount, hamount, balance, hbalance, rfl,
        rfl⟩, _, hrow, rfl, hset.symm⟩

theorem head_selectWallets (s : Store) (walletId : WalletId)
    : (s.selectWallets [walletId])[0]? = s.wallets.find? walletId := by
  rw [selectWallets_singleton]
  cases s.wallets.find? walletId <;> rfl

theorem run_deposit {r : WalletId} {a : Binary64} {u : UserId} {d : Option String} {g : Generated}
    {s s' : Store} {t : Transaction}
    (h : (TransactionService.deposit r (.number a) u d g).run database s = .ok (t, s'))
    : Effect s (.deposit r a u d g) (.transaction t) s' := by
  unfold TransactionService.deposit at h
  rw [Prog.run_bind, run_selectWalletsForUpdate] at h
  dsimp only at h
  rw [Prog.run_bind_eq_ok_iff, head_selectWallets] at h
  simp only [run_validateConstraints_eq_ok_iff, Amount.notPositive_number_eq_false_iff] at h
  rcases h with ⟨w, s₁, ⟨hpos, hw, hactive, rfl⟩, hrun⟩
  rcases run_recorded_eq_ok_iff.mp hrun
    with ⟨hfresh, href, _, _, hentry, _, amount, hamount, balance, hbalance, rfl, rfl⟩
  apply Effect.deposit hpos
  . exact ⟨hfresh, href, rfl, rfl, rfl, rfl, rfl, hamount⟩
  . rfl
  . exact ⟨hentry, rfl, rfl, hw, hactive, rfl, hbalance⟩

theorem run_withdraw {r : WalletId} {a : Binary64} {u : UserId} {d : Option String} {g : Generated}
    {s s' : Store} {t : Transaction}
    (h : (TransactionService.withdraw r (.number a) u d g).run database s = .ok (t, s'))
    : Effect s (.withdraw r a u d g) (.transaction t) s' := by
  unfold TransactionService.withdraw at h
  rw [Prog.run_bind, run_selectWalletsForUpdate] at h
  dsimp only at h
  rw [Prog.run_bind_eq_ok_iff, head_selectWallets] at h
  simp only [run_validateConstraints_eq_ok_iff, Amount.notPositive_number_eq_false_iff,
    Prog.run_require_bind_eq_ok_iff] at h
  rcases h with ⟨w, s₁, ⟨hpos, hw, hactive, rfl⟩, hfunds, hrun⟩
  rcases run_recorded_eq_ok_iff.mp hrun
    with ⟨hfresh, href, _, _, hentry, _, amount, hamount, balance, hbalance, rfl, rfl⟩
  apply Effect.withdraw hpos (by simpa using hfunds)
  . exact ⟨hfresh, href, rfl, rfl, rfl, rfl, rfl, hamount⟩
  . rfl
  . exact ⟨hentry, rfl, rfl, hw, hactive, rfl, hbalance⟩

theorem run_transfer {r r' : WalletId} {a : Binary64} {u : UserId} {d : Option String}
    {g : Generated} {s s' : Store} {t : Transaction}
    (h : (TransactionService.transfer r r' (.number a) u d g).run database s = .ok (t, s'))
    : Effect s (.transfer r r' a u d g) (.transaction t) s' := by
  unfold TransactionService.transfer at h
  rw [Prog.run_require_bind_eq_ok_iff, Prog.run_bind, run_selectWalletsForUpdate] at h
  dsimp only at h
  rw [Prog.run_require_bind_eq_ok_iff, Prog.run_bind_eq_ok_iff] at h
  simp only [run_validateConstraints_eq_ok_iff, Amount.notPositive_number_eq_false_iff,
    Prog.run_bind_eq_ok_iff, Prog.run_require_eq_ok_iff, run_createTransaction_eq_ok_iff,
    run_postTransaction_eq_ok_iff, run_updateTransactionStatus_eq_ok_iff] at h
  rcases h with ⟨hne, _, w, s₁, ⟨hpos, hw, hactive, rfl⟩, w', s₂, ⟨_, hw', hactive', rfl⟩, _, _,
    ⟨hfunds, rfl⟩, t₀, s₃, ⟨hfresh, href, _, _, amount, hamount, rfl, rfl⟩, e, s₄,
    ⟨hentry, _, _, amount', hamount', balance, hbalance, rfl, rfl⟩, e', s₅,
    ⟨hentry', _, _, amount'', hamount'', balance', hbalance', rfl, rfl⟩, row, hrow, rfl, rfl⟩
  cases hamount.symm.trans hamount'
  cases hamount.symm.trans hamount''
  rcases setTransactionStatus_after_posts (t := TransactionData.row _ amount) hfresh [_, _]
    .SUCCESS hrow with ⟨rfl, hset⟩
  dsimp only [List.foldl_cons, List.foldl_nil] at hset
  -- The second entry is fresh once the first one is in.
  change (Table.insert _ _).find? g.creditEntryId = none at hentry'
  rw [Table.find?_insert, Option.or_eq_none_iff] at hentry'
  have hne' : g.debitEntryId ≠ g.creditEntryId := by
    intro heq
    simp [heq] at hentry'
  rw [hset]
  apply Effect.transfer hne hpos (by simpa using hfunds)
  . exact ⟨hfresh, href, rfl, rfl, rfl, rfl, rfl, hamount⟩
  . rfl
  . rfl
  . exact ⟨hentry, rfl, rfl, find?_selectWallets hw, hactive, rfl, hbalance⟩
  . exact ⟨hentry'.1, rfl, rfl, find?_selectWallets hw', hactive', rfl, hbalance'⟩
  . exact hne'

theorem run_processPaymentBlock {k : IdempotencyKey} {a : Amount} {m : PaymentMethod} {r : WalletId}
    {u : UserId} {d : Option String} {g : Generated} {s s' : Store} {p : Payment}
    (h : (PaymentService.processPaymentBlock k a m r u d g).run database s = .ok (p, s'))
    : Effect s (.processPayment k a m r u d g) (.payment p) s' := by
  unfold PaymentService.processPaymentBlock at h
  rw [Prog.run_bind, run_selectWalletsForUpdate] at h
  dsimp only at h
  rw [Prog.run_bind_eq_ok_iff, head_selectWallets] at h
  simp only [run_receiverWallet_eq_ok_iff, Prog.run_require_bind_eq_ok_iff] at h
  simp only [Prog.run_bind_eq_ok_iff, run_createTransaction_eq_ok_iff,
    run_postTransaction_eq_ok_iff, run_createPayment_eq_ok_iff] at h
  rcases h with ⟨w, s₁, ⟨hw, rfl⟩, hactive, hpos, t, s₂,
    ⟨hfresh, href, _, _, amount, hamount, rfl, rfl⟩, e, s₃,
    ⟨hentry, _, _, amount', hamount', balance, hbalance, rfl, rfl⟩,
    hid, _, hkey, _, amount'', hamount'', rfl, rfl⟩
  cases hamount.symm.trans hamount'
  cases hamount.symm.trans hamount''
  apply Effect.processPayment (by simpa using hpos)
  . exact ⟨hfresh, href, rfl, rfl, rfl, rfl, rfl, hamount⟩
  . rfl
  . exact ⟨hentry, rfl, rfl, hw, hactive, rfl, hbalance⟩
  . exact ⟨hid, hkey, rfl, rfl, rfl, rfl, rfl⟩

theorem run_freezeWallet {id : WalletId} {snapshot s s' : Store} {w : Wallet}
    (h : (WalletService.freezeWallet id snapshot).run database s = .ok (w, s'))
    : Effect s (.freezeWallet id) (.wallet w) s' := by
  unfold WalletService.freezeWallet at h
  split at h
  . cases h
  . split at h
    . cases h
    . rcases run_updateWalletStatus_eq_ok_iff.mp h with ⟨row, hrow, rfl, rfl⟩
      exact Effect.status rfl hrow

theorem run_unfreezeWallet {id : WalletId} {snapshot s s' : Store} {w : Wallet}
    (h : (WalletService.unfreezeWallet id snapshot).run database s = .ok (w, s'))
    : Effect s (.unfreezeWallet id) (.wallet w) s' := by
  unfold WalletService.unfreezeWallet at h
  split at h
  . cases h
  . split at h
    . cases h
    . rcases run_updateWalletStatus_eq_ok_iff.mp h with ⟨row, hrow, rfl, rfl⟩
      exact Effect.status rfl hrow

theorem run_closeWallet {id : WalletId} {snapshot s s' : Store} {w : Wallet}
    (h : (WalletService.closeWallet id snapshot).run database s = .ok (w, s'))
    : Effect s (.closeWallet id) (.wallet w) s' := by
  unfold WalletService.closeWallet at h
  split at h
  . cases h
  . split at h
    . cases h
    . rcases run_updateWalletStatus_eq_ok_iff.mp h with ⟨row, hrow, rfl, rfl⟩
      exact Effect.status rfl hrow

theorem effect_of_run {c : Call} {snapshot s s' : Store} {reply : Reply}
    (h : (c.program snapshot).run database s = .ok (reply, s'))
    : Effect s c reply s' := by
  cases c
  all_goals
    rcases run_map_eq_ok_iff.mp h with ⟨_, hrun, rfl⟩
  case deposit => exact run_deposit hrun
  case withdraw => exact run_withdraw hrun
  case transfer => exact run_transfer hrun
  case processPayment => exact run_processPaymentBlock hrun
  case freezeWallet => exact run_freezeWallet hrun
  case unfreezeWallet => exact run_unfreezeWallet hrun
  case closeWallet => exact run_closeWallet hrun

end Banking
