import BankingApi.Prisma.Statements
import BankingApi.Store.Serializability

/-!
This module contains the locks that the statements take: the row locks of PostgreSQL, and the unique
keys of a new row, which other transactions cannot insert until the first one has ended.
-/

namespace Banking

-- FOR UPDATE locks the key and the columns of a row, UPDATE shares the key, a foreign key only shares
-- the key.
inductive Resource where
  | walletKey (id : WalletId)
  | wallet (id : WalletId)
  | transaction (id : TransactionId)
  | transactionRef (ref : String)
  | ledgerEntry (id : String)
  | payment (id : String)
  | paymentRef (ref : String)
  | idempotencyKey (key : IdempotencyKey)
  deriving DecidableEq

@[reducible]
def Resource.View (x : Resource) : Type :=
  match x with
  | .walletKey _ => Bool
  | .wallet _ => Option Wallet
  | .transaction _ => Option Transaction
  | .transactionRef _ => Bool
  | .ledgerEntry _ => Option LedgerEntry
  | .payment _ => Option Payment
  | .paymentRef _ => Bool
  | .idempotencyKey _ => Bool

namespace Store

def catalog (s : Store) : WalletId → Bool :=
  fun id => (s.wallets.find? id).isSome

def view (x : Resource) (s : Store) : x.View :=
  match x with
  | .walletKey id => s.catalog id
  | .wallet id => s.wallets.find? id
  | .transaction id => s.transactions.find? id
  | .transactionRef ref => s.transactions.has Transaction.transactionRef ref
  | .ledgerEntry id => s.ledgerEntries.find? id
  | .payment id => s.payments.find? id
  | .paymentRef ref => s.payments.has Payment.paymentRef ref
  | .idempotencyKey key => s.payments.has Payment.idempotencyKey key

def foreignKey (s : Store) (id : WalletId) : List (Resource × Mode) :=
  if s.catalog id then [(.walletKey id, .shared)] else []

def rowUpdate (s : Store) (id : WalletId) : List (Resource × Mode) :=
  if s.catalog id then [(.walletKey id, .shared), (.wallet id, .exclusive)] else []

def locks (q : Query) (s : Store) : List (Resource × Mode) :=
  match q.stmt with
  | .selectWalletsForUpdate ids =>
    (ids.filter s.catalog).flatMap
      (fun id => [(.walletKey id, .exclusive), (.wallet id, .exclusive)])
  | .createTransaction data =>
    [(.transaction data.id, .exclusive), (.transactionRef data.transactionRef, .exclusive)]
      ++ data.senderWalletId.toList.flatMap s.foreignKey
      ++ data.receiverWalletId.toList.flatMap s.foreignKey
  | .updateTransactionStatus id _ => [(.transaction id, .exclusive)]
  | .createLedgerEntry data =>
    [(.ledgerEntry data.id, .exclusive), (.transaction data.transactionId, .shared)]
      ++ s.foreignKey data.walletId
  | .createPayment data =>
    [
      (.payment data.id, .exclusive),
      (.paymentRef data.paymentRef, .exclusive),
      (.idempotencyKey data.idempotencyKey, .exclusive),
      (.transaction data.transactionId, .shared)
    ]
  | .updateWalletBalance id _ => s.rowUpdate id
  | .updateWalletStatus id _ => s.rowUpdate id

end Store

def Write.touches (w : Write) : List Resource :=
  match w with
  | .insertTransaction row => [.transaction row.id, .transactionRef row.transactionRef]
  | .setTransactionStatus id _ => [.transaction id]
  | .insertLedgerEntry row => [.ledgerEntry row.id]
  | .insertPayment row =>
    [.payment row.id, .paymentRef row.paymentRef, .idempotencyKey row.idempotencyKey]
  | .setBalance id _ => [.wallet id]
  | .setWalletStatus id _ => [.wallet id]

theorem catalog_apply (s : Store) (w : Write) : (s.apply w).catalog = s.catalog := by
  funext id
  cases w with
  | setBalance id' balance =>
    simp only [Store.catalog, Store.apply, Table.find?_update]
    split <;> simp
  | setWalletStatus id' status =>
    simp only [Store.catalog, Store.apply, Table.find?_update]
    split <;> simp
  | _ => rfl

section Congr

variable {s s' : Store}

theorem foreignKey_congr (h : s.catalog = s'.catalog) : s.foreignKey = s'.foreignKey := by
  funext id
  simp [Store.foreignKey, h]

theorem locks_congr {q : Query} (h : s.catalog = s'.catalog)
    : Store.locks q s = Store.locks q s' := by
  rcases q with ⟨_, stmt⟩
  cases stmt <;> simp [Store.locks, Store.rowUpdate, h, foreignKey_congr h]

theorem hasWallet_congr (h : s.catalog = s'.catalog) (id : Option WalletId)
    : s.hasWallet id = s'.hasWallet id := by
  cases id with
  | none => rfl
  | some id => exact congrFun h id

/--
A wallet that does not exist needs no lock to be the same.
-/
theorem find?_congr (h : s.catalog = s'.catalog) {id : WalletId}
    (hfind : s.catalog id → s.wallets.find? id = s'.wallets.find? id)
    : s.wallets.find? id = s'.wallets.find? id := by
  by_cases hid : s.catalog id
  . exact hfind hid
  . have hid' : ¬s'.catalog id := by rwa [← h]
    unfold Store.catalog at hid hid'
    rw [Option.not_isSome_iff_eq_none] at hid hid'
    rw [hid, hid']

theorem exec_congr {q : Query} (hcatalog : s.catalog = s'.catalog)
    (h : ∀ l ∈ Store.locks q s, Store.view l.1 s = Store.view l.1 s')
    : s.exec q = s'.exec q := by
  rcases q with ⟨_, stmt⟩
  cases stmt with
  | selectWalletsForUpdate ids =>
    have hselect : s.selectWallets ids = s'.selectWallets ids := by
      unfold Store.selectWallets
      apply List.filterMap_congr
      intro id hid
      apply find?_congr hcatalog
      intro hexists
      have hmem : id ∈ ids := by simpa using hid
      apply h (.wallet id, .exclusive)
      simp only [Store.locks, List.mem_flatMap, List.mem_filter]
      exact ⟨id, ⟨hmem, hexists⟩, by simp⟩
    simp only [Store.exec, hselect]
  | createTransaction data =>
    have hid := h (.transaction data.id, .exclusive) (by simp [Store.locks])
    have href := h (.transactionRef data.transactionRef, .exclusive) (by simp [Store.locks])
    simp only [Store.view] at hid href
    simp only [Store.exec, Store.insertTransaction, hid, href, hasWallet_congr hcatalog]
  | updateTransactionStatus id status =>
    have hid := h (.transaction id, .exclusive) (by simp [Store.locks])
    simp only [Store.view] at hid
    simp only [Store.exec, Store.setTransactionStatus, hid]
  | createLedgerEntry data =>
    have hid := h (.ledgerEntry data.id, .exclusive) (by simp [Store.locks])
    have htransaction := h (.transaction data.transactionId, .shared) (by simp [Store.locks])
    simp only [Store.view] at hid htransaction
    simp only [Store.exec, Store.insertLedgerEntry, hid, htransaction, hasWallet_congr hcatalog]
  | createPayment data =>
    have hid := h (.payment data.id, .exclusive) (by simp [Store.locks])
    have href := h (.paymentRef data.paymentRef, .exclusive) (by simp [Store.locks])
    have hkey := h (.idempotencyKey data.idempotencyKey, .exclusive) (by simp [Store.locks])
    have htransaction := h (.transaction data.transactionId, .shared) (by simp [Store.locks])
    simp only [Store.view] at hid href hkey htransaction
    simp only [Store.exec, Store.insertPayment, hid, href, hkey, htransaction]
  | updateWalletBalance id balance =>
    have hid : s.wallets.find? id = s'.wallets.find? id := by
      apply find?_congr hcatalog
      intro hexists
      apply h (.wallet id, .exclusive)
      simp [Store.locks, Store.rowUpdate, hexists]
    simp only [Store.exec, Store.setBalance, hid]
  | updateWalletStatus id status =>
    have hid : s.wallets.find? id = s'.wallets.find? id := by
      apply find?_congr hcatalog
      intro hexists
      apply h (.wallet id, .exclusive)
      simp [Store.locks, Store.rowUpdate, hexists]
    simp only [Store.exec, Store.setWalletStatus, hid]

end Congr

theorem touches_locked {q : Query} {s : Store} {r : q.Result} {ws : List Write}
    (h : s.exec q = .ok (r, ws))
    : ∀ w ∈ ws, ∀ x ∈ w.touches, (x, .exclusive) ∈ Store.locks q s := by
  rcases q with ⟨_, stmt⟩
  cases stmt with
  | selectWalletsForUpdate ids =>
    cases h
    simp
  | createTransaction data =>
    rcases Store.insertTransaction_eq_ok_iff.mp h with ⟨_, _, _, _, _, _, rfl, rfl⟩
    simp [Store.locks, Write.touches, TransactionData.row]
  | updateTransactionStatus id status =>
    rcases Store.setTransactionStatus_eq_ok_iff.mp h with ⟨_, _, _, rfl⟩
    simp [Store.locks, Write.touches]
  | createLedgerEntry data =>
    rcases Store.insertLedgerEntry_eq_ok_iff.mp h with ⟨_, _, _, _, _, _, _, rfl, rfl⟩
    simp [Store.locks, Write.touches, LedgerEntryData.row]
  | createPayment data =>
    rcases Store.insertPayment_eq_ok_iff.mp h with ⟨_, _, _, _, _, _, rfl, rfl⟩
    simp [Store.locks, Write.touches, PaymentData.row]
  | updateWalletBalance id balance =>
    rcases Store.setBalance_eq_ok_iff.mp h with ⟨_, _, row, hrow, _, rfl⟩
    simp [Store.locks, Store.rowUpdate, Store.catalog, Write.touches, hrow]
  | updateWalletStatus id status =>
    rcases Store.setWalletStatus_eq_ok_iff.mp h with ⟨row, hrow, _, rfl⟩
    simp [Store.locks, Store.rowUpdate, Store.catalog, Write.touches, hrow]

theorem view_apply_frame {s : Store} {w : Write} {x : Resource} (h : x ∉ w.touches)
    : Store.view x (s.apply w) = Store.view x s := by
  cases w with
  | insertTransaction row =>
    simp only [Write.touches, List.mem_cons, List.not_mem_nil, or_false, not_or] at h
    cases x with
    | transaction id =>
      have : row.id ≠ id := by grind
      simp only [Store.view, Store.apply, Table.find?_insert_of_ne this]
    | transactionRef ref =>
      have : row.transactionRef ≠ ref := by grind
      simp [Store.view, Store.apply, Table.has_insert, this]
    | _ => rfl
  | setTransactionStatus id status =>
    simp only [Write.touches, List.mem_singleton] at h
    cases x with
    | transaction id' =>
      have : id ≠ id' := by grind
      simp only [Store.view, Store.apply, Table.find?_update_of_ne this]
    | transactionRef ref =>
      simp only [Store.view, Store.apply]
      rw [Table.has_update]
      intro r
      rfl
    | _ => rfl
  | insertLedgerEntry row =>
    simp only [Write.touches, List.mem_singleton] at h
    cases x with
    | ledgerEntry id =>
      have : row.id ≠ id := by grind
      simp only [Store.view, Store.apply, Table.find?_insert_of_ne this]
    | _ => rfl
  | insertPayment row =>
    simp only [Write.touches, List.mem_cons, List.not_mem_nil, or_false, not_or] at h
    cases x with
    | payment id =>
      have : row.id ≠ id := by grind
      simp only [Store.view, Store.apply, Table.find?_insert_of_ne this]
    | paymentRef ref =>
      have : row.paymentRef ≠ ref := by grind
      simp [Store.view, Store.apply, Table.has_insert, this]
    | idempotencyKey key =>
      have : row.idempotencyKey ≠ key := by grind
      simp [Store.view, Store.apply, Table.has_insert, this]
    | _ => rfl
  | setBalance id balance =>
    simp only [Write.touches, List.mem_singleton] at h
    cases x with
    | walletKey id' => exact congrFun (catalog_apply s (.setBalance id balance)) id'
    | wallet id' =>
      have : id ≠ id' := by grind
      simp only [Store.view, Store.apply, Table.find?_update_of_ne this]
    | _ => rfl
  | setWalletStatus id status =>
    simp only [Write.touches, List.mem_singleton] at h
    cases x with
    | walletKey id' => exact congrFun (catalog_apply s (.setWalletStatus id status)) id'
    | wallet id' =>
      have : id ≠ id' := by grind
      simp only [Store.view, Store.apply, Table.find?_update_of_ne this]
    | _ => rfl

theorem view_apply_congr {s s' : Store} {w : Write}
    (h : ∀ x ∈ w.touches, Store.view x s = Store.view x s')
    : ∀ x ∈ w.touches, Store.view x (s.apply w) = Store.view x (s'.apply w) := by
  intro x hx
  cases w with
  | insertTransaction row =>
    have hid := h (.transaction row.id) (by simp [Write.touches])
    have href := h (.transactionRef row.transactionRef) (by simp [Write.touches])
    simp only [Store.view] at hid href
    simp only [Write.touches, List.mem_cons, List.not_mem_nil, or_false] at hx
    rcases hx with rfl | rfl
    . simp only [Store.view, Store.apply, Table.find?_insert, hid]
    . simp only [Store.view, Store.apply, Table.has_insert, hid, href]
  | insertPayment row =>
    have hid := h (.payment row.id) (by simp [Write.touches])
    have href := h (.paymentRef row.paymentRef) (by simp [Write.touches])
    have hkey := h (.idempotencyKey row.idempotencyKey) (by simp [Write.touches])
    simp only [Store.view] at hid href hkey
    simp only [Write.touches, List.mem_cons, List.not_mem_nil, or_false] at hx
    rcases hx with rfl | rfl | rfl
    . simp only [Store.view, Store.apply, Table.find?_insert, hid]
    . simp only [Store.view, Store.apply, Table.has_insert, hid, href]
    . simp only [Store.view, Store.apply, Table.has_insert, hid, hkey]
  | insertLedgerEntry row =>
    have hid := h x hx
    cases List.mem_singleton.mp hx
    simp only [Store.view] at hid
    simp only [Store.view, Store.apply, Table.find?_insert, hid]
  | setTransactionStatus id status =>
    have hid := h x hx
    cases List.mem_singleton.mp hx
    simp only [Store.view] at hid
    simp only [Store.view, Store.apply, Table.find?_update_self, hid]
  | setBalance id balance =>
    have hid := h x hx
    cases List.mem_singleton.mp hx
    simp only [Store.view] at hid
    simp only [Store.view, Store.apply, Table.find?_update_self, hid]
  | setWalletStatus id status =>
    have hid := h x hx
    cases List.mem_singleton.mp hx
    simp only [Store.view] at hid
    simp only [Store.view, Store.apply, Table.find?_update_self, hid]

def rowLocks : Locking Query Query.Result Failure Store Write Resource Resource.View (WalletId → Bool)
    where
  toEngine := database
  view := Store.view
  catalog := Store.catalog
  locks := Store.locks
  touches := Write.touches
  hlocks := locks_congr
  hexec := exec_congr
  htouches := touches_locked
  hframe := view_apply_frame
  happly := view_apply_congr
  hcatalog := catalog_apply _ _

end Banking
