import BankingApi.Bank.Concurrency
import BankingApi.Store.Deadlock
import Mathlib.Data.Prod.Lex
import Mathlib.Data.String.Basic

/-!
This module contains the order in which the calls ask for their locks, and that they do not deadlock.
-/

namespace Banking

open LedgerService TransactionService TransactionRepository

-- FOR UPDATE locks the rows as ORDER BY puts them.
def Store.lockSequence (q : Query) (s : Store) : List (Resource × Mode) :=
  match q.stmt with
  | .selectWalletsForUpdate ids =>
    ((ids.dedup.insertionSort (· ≤ ·)).filter s.catalog).flatMap
      (fun id => [(.walletKey id, .exclusive), (.wallet id, .exclusive)])
  | _ => Store.locks q s

theorem mem_lockSequence_iff {q : Query} {s : Store} {l : Resource × Mode}
    : l ∈ Store.lockSequence q s ↔ l ∈ Store.locks q s := by
  rcases q with ⟨_, stmt⟩
  cases stmt with
  | selectWalletsForUpdate ids => simp [Store.lockSequence, Store.locks]
  | _ => rfl

theorem lockSequence_congr {q : Query} {s s' : Store} (h : s.catalog = s'.catalog)
    : Store.lockSequence q s = Store.lockSequence q s' := by
  rcases q with ⟨_, stmt⟩
  cases stmt with
  | selectWalletsForUpdate ids => simp only [Store.lockSequence, h]
  | _ =>
    unfold Store.lockSequence
    exact locks_congr h

def orderedRowLocks
    : OrderedLocking Query Query.Result Failure Store Write Resource Resource.View (WalletId → Bool)
    where
  toLocking := rowLocks
  sequence := Store.lockSequence
  hsequence := mem_lockSequence_iff
  hcongr := lockSequence_congr

section Rank

variable (credit : String → Bool)

def Resource.stage (x : Resource) : ℕ :=
  match x with
  | .walletKey _ => 0
  | .wallet _ => 0
  | .transaction _ => 1
  | .transactionRef _ => 2
  | .ledgerEntry id => if credit id then 4 else 3
  | .payment _ => 5
  | .paymentRef _ => 6
  | .idempotencyKey _ => 7

def Resource.place (x : Resource) : String ×ₗ ℕ :=
  match x with
  | .walletKey id => toLex (id, 0)
  | .wallet id => toLex (id, 1)
  | _ => toLex ("", 0)

/--
Wallets come first, in the order of their ids; the debit of a transfer comes before its credit.
-/
def Resource.rank (x : Resource) : ℕ ×ₗ (String ×ₗ ℕ) :=
  toLex (x.stage credit, x.place)

variable {credit}

theorem rank_lt_of_stage_lt {x y : Resource} (h : x.stage credit < y.stage credit)
    : x.rank credit < y.rank credit := by
  unfold Resource.rank
  rw [Prod.Lex.toLex_lt_toLex]
  exact .inl h

theorem rank_wallets_lt {x y : Resource} (hx : x.stage credit = 0) (hy : y.stage credit = 0)
    (h : x.place < y.place)
    : x.rank credit < y.rank credit := by
  unfold Resource.rank
  rw [Prod.Lex.toLex_lt_toLex]
  exact .inr ⟨hx.trans hy.symm, h⟩

end Rank

section Climbs

variable {credit : String → Bool} {s : Store} {held : Set (Resource × Mode)}

def Below (credit : String → Bool) (n : ℕ) (held : Set (Resource × Mode)) : Prop :=
  ∀ h ∈ held, h.1.stage credit ≤ n

-- A wallet that does not exist has no row to own.
def Owns (s : Store) (held : Set (Resource × Mode)) (id : WalletId) : Prop :=
  s.catalog id = true → (.walletKey id, .exclusive) ∈ held ∧ (.wallet id, .exclusive) ∈ held

abbrev Climbs {α : Type} (credit : String → Bool) (s : Store) (p : Tx α)
    (held : Set (Resource × Mode)) (Q : α → Set (Resource × Mode) → Prop)
    : Prop :=
  orderedRowLocks.Climbs (Resource.rank credit) s p held Q

theorem Owns.mono {held' : Set (Resource × Mode)} {id : WalletId} (h : Owns s held id)
    (hsub : held ⊆ held')
    : Owns s held' id :=
  fun hid => ⟨hsub (h hid).1, hsub (h hid).2⟩

theorem covered_foreignKey {id : WalletId} (h : Owns s held id)
    : ∀ l ∈ s.foreignKey id, (l.1, Mode.exclusive) ∈ held := by
  intro l hl
  unfold Store.foreignKey at hl
  split at hl
  . next hid =>
    cases List.mem_singleton.mp hl
    exact (h hid).1
  . cases hl

theorem covered_rowUpdate {id : WalletId} (h : Owns s held id)
    : ∀ l ∈ s.rowUpdate id, (l.1, Mode.exclusive) ∈ held := by
  intro l hl
  unfold Store.rowUpdate at hl
  split at hl
  . next hid =>
    rcases List.mem_cons.mp hl with rfl | hl
    . exact (h hid).1
    . cases List.mem_singleton.mp hl
      exact (h hid).2
  . cases hl

theorem below_union {n : ℕ} {ls : List (Resource × Mode)} (h : Below credit n held)
    (hls : ∀ l ∈ ls, l.1.stage credit ≤ n)
    : Below credit n (held ∪ {l | l ∈ ls}) := by
  rintro l (hl | hl)
  . exact h l hl
  . exact hls l hl

-- A statement that takes some new locks, each at a later stage than the one before, and otherwise locks
-- what the program owns.
theorem climbs_statement {q : Query} (news olds : List (Resource × Mode)) (n n' : ℕ)
    {Q : q.Result → Set (Resource × Mode) → Prop}
    (hsequence : Store.lockSequence q s = news ++ olds)
    (hnews : news.Pairwise (fun l l' => l.1.stage credit < l'.1.stage credit))
    (holds : ∀ l ∈ olds, (l.1, Mode.exclusive) ∈ held) (hbelow : Below credit n held)
    (hlow : ∀ l ∈ news, n < l.1.stage credit) (hhigh : ∀ l ∈ news, l.1.stage credit ≤ n')
    (hn : n ≤ n')
    (hQ : ∀ r held', orderedRowLocks.Answers s q r → held ⊆ held' → (∀ l ∈ news, l ∈ held') →
      Below credit n' held' → Q r held')
    : Climbs credit s (.call q .ret) held Q := by
  have hsequence' : orderedRowLocks.sequence q s = news ++ olds := hsequence
  constructor
  . rw [hsequence']
    apply OrderedLocking.ascending_append
    . apply OrderedLocking.ascending_of_pairwise
      . intro h hh l hl
        exact rank_lt_of_stage_lt (lt_of_le_of_lt (hbelow h hh) (hlow l hl))
      . exact hnews.imp rank_lt_of_stage_lt
    . apply OrderedLocking.ascending_of_covered
      intro l hl
      exact .inl (holds l hl)
  . intro r hr
    rw [hsequence']
    refine hQ r _ hr Set.subset_union_left ?_ (below_union ?_ ?_)
    . intro l hl
      exact .inr (List.mem_append_left _ hl)
    . intro h hh
      exact (hbelow h hh).trans hn
    . intro l hl
      rcases List.mem_append.mp hl with hl | hl
      . exact hhigh l hl
      . exact (hbelow _ (holds l hl)).trans hn

theorem climbs_covered {q : Query} {n : ℕ} {Q : q.Result → Set (Resource × Mode) → Prop}
    (hcovered : ∀ l ∈ Store.lockSequence q s, (l.1, Mode.exclusive) ∈ held)
    (hbelow : Below credit n held)
    (hQ : ∀ r held', held ⊆ held' → Below credit n held' → Q r held')
    : Climbs credit s (.call q .ret) held Q := by
  refine climbs_statement [] _ n n rfl .nil hcovered hbelow (by simp) (by simp) le_rfl ?_
  intro r held' _ hsub _ hbelow'
  exact hQ r held' hsub hbelow'

theorem mem_rows_iff {ids : List WalletId} {l : Resource × Mode}
    : l ∈ ids.flatMap (fun id =>
          [(Resource.walletKey id, Mode.exclusive), (Resource.wallet id, Mode.exclusive)]) ↔
      ∃ id ∈ ids, l = (.walletKey id, .exclusive) ∨ l = (.wallet id, .exclusive) := by
  simp

theorem rank_walletKey_lt (id : WalletId)
    : (Resource.walletKey id).rank credit < (Resource.wallet id).rank credit := by
  apply rank_wallets_lt rfl rfl
  rw [Resource.place, Resource.place, Prod.Lex.toLex_lt_toLex]
  exact .inr ⟨rfl, Nat.zero_lt_one⟩

theorem climbs_selectWalletsForUpdate {ids : List WalletId} {tx : Client}
    {Q : List Wallet → Set (Resource × Mode) → Prop}
    (hQ : ∀ ws held', (∀ id ∈ ids, Owns s held' id) → Below credit 0 held' → Q ws held')
    : Climbs credit s (selectWalletsForUpdate ids tx) ∅ Q := by
  have hsorted : ((ids.dedup.insertionSort (· ≤ ·)).filter s.catalog).Pairwise (· < ·) := by
    apply List.Pairwise.filter
    have hle := List.pairwise_insertionSort (fun id id' : WalletId => id ≤ id') ids.dedup
    have hne : (ids.dedup.insertionSort (· ≤ ·)).Pairwise (· ≠ ·) :=
      (List.perm_insertionSort _ _).nodup_iff.mpr ids.nodup_dedup
    exact (hle.and hne).imp (fun h => lt_of_le_of_ne h.1 h.2)
  refine ⟨OrderedLocking.ascending_of_pairwise (by simp) ?_, ?_⟩
  . change List.Pairwise _ (List.flatMap _ _)
    rw [List.pairwise_flatMap]
    constructor
    . intro id _
      rw [List.pairwise_pair]
      exact rank_walletKey_lt id
    . refine hsorted.imp ?_
      intro id id' hlt l hl l' hl'
      have hplace : l.1.place < l'.1.place := by
        simp only [List.mem_cons, List.not_mem_nil, or_false] at hl hl'
        rcases hl with rfl | rfl <;> rcases hl' with rfl | rfl <;>
          exact Prod.Lex.toLex_lt_toLex.mpr (.inl hlt)
      simp only [List.mem_cons, List.not_mem_nil, or_false] at hl hl'
      rcases hl with rfl | rfl <;> rcases hl' with rfl | rfl <;>
        exact rank_wallets_lt rfl rfl hplace
  . intro ws _
    apply hQ
    . intro id hid hcatalog
      have hmem : id ∈ (ids.dedup.insertionSort (· ≤ ·)).filter s.catalog := by
        simp [hid, hcatalog]
      exact ⟨.inr (mem_rows_iff.mpr ⟨id, hmem, .inl rfl⟩), .inr (mem_rows_iff.mpr ⟨id, hmem, .inr rfl⟩)⟩
    . apply below_union
      . intro h hh
        cases hh
      . intro l hl
        rcases mem_rows_iff.mp hl with ⟨id, _, rfl | rfl⟩
        . exact le_rfl
        . exact le_rfl

theorem covered_walletId {id : Option WalletId} (h : ∀ id' ∈ id, Owns s held id')
    : ∀ l ∈ id.toList.flatMap s.foreignKey, (l.1, Mode.exclusive) ∈ held := by
  intro l hl
  rcases List.mem_flatMap.mp hl with ⟨id', hid', hl⟩
  exact covered_foreignKey (h id' (by simpa using hid')) l hl

theorem climbs_createTransaction {data : TransactionData} {tx : Client}
    {Q : Transaction → Set (Resource × Mode) → Prop} (hbelow : Below credit 0 held)
    (hsender : ∀ id ∈ data.senderWalletId, Owns s held id)
    (hreceiver : ∀ id ∈ data.receiverWalletId, Owns s held id)
    (hQ : ∀ t held', t.id = data.id → held ⊆ held' →
      (.transaction data.id, .exclusive) ∈ held' → Below credit 2 held' → Q t held')
    : Climbs credit s (createTransaction data tx) held Q := by
  apply climbs_statement
    [(.transaction data.id, .exclusive), (.transactionRef data.transactionRef, .exclusive)]
    (data.senderWalletId.toList.flatMap s.foreignKey
      ++ data.receiverWalletId.toList.flatMap s.foreignKey)
    0 2
  . simp [Store.lockSequence, Store.locks]
  . rw [List.pairwise_pair]
    exact Nat.lt_succ_self 1
  . intro l hl
    rcases List.mem_append.mp hl with hl | hl
    . exact covered_walletId hsender l hl
    . exact covered_walletId hreceiver l hl
  . exact hbelow
  . simp [Resource.stage]
  . simp [Resource.stage]
  . omega
  . rintro t held' ⟨s', ws, _, hexec⟩ hsub hnews hbelow'
    rcases Store.insertTransaction_eq_ok_iff.mp hexec with ⟨_, _, _, _, amount, _, rfl, _⟩
    exact hQ _ _ rfl hsub (hnews _ (by simp)) hbelow'

theorem climbs_createLedgerEntry {data : LedgerEntryData} {tx : Client} {n : ℕ}
    {Q : LedgerEntry → Set (Resource × Mode) → Prop} (hwallet : Owns s held data.walletId)
    (htransaction : (.transaction data.transactionId, .exclusive) ∈ held)
    (hbelow : Below credit n held) (hn : n < (Resource.ledgerEntry data.id).stage credit)
    (hQ : ∀ e held', held ⊆ held' → Below credit ((Resource.ledgerEntry data.id).stage credit) held' →
      Q e held')
    : Climbs credit s (LedgerRepository.createLedgerEntry data tx) held Q := by
  apply climbs_statement
    [(.ledgerEntry data.id, .exclusive)]
    ((.transaction data.transactionId, .shared) :: s.foreignKey data.walletId)
    n ((Resource.ledgerEntry data.id).stage credit)
  . simp [Store.lockSequence, Store.locks]
  . apply List.pairwise_singleton
  . intro l hl
    rcases List.mem_cons.mp hl with rfl | hl
    . exact htransaction
    . exact covered_foreignKey hwallet l hl
  . exact hbelow
  . simpa using hn
  . simp
  . exact hn.le
  . intro e held' _ hsub _ hbelow'
    exact hQ e held' hsub hbelow'

theorem climbs_updateWallet {q : Query} {id : WalletId} {n : ℕ}
    {Q : q.Result → Set (Resource × Mode) → Prop} (hq : Store.lockSequence q s = s.rowUpdate id)
    (hwallet : Owns s held id) (hbelow : Below credit n held)
    (hQ : ∀ r held', held ⊆ held' → Below credit n held' → Q r held')
    : Climbs credit s (.call q .ret) held Q := by
  apply climbs_covered _ hbelow hQ
  rw [hq]
  exact covered_rowUpdate hwallet

theorem climbs_postTransaction {params : PostTransaction} {tx : Client} {n : ℕ}
    {Q : LedgerEntry → Set (Resource × Mode) → Prop} (hwallet : Owns s held params.walletId)
    (htransaction : (.transaction params.transactionId, .exclusive) ∈ held)
    (hbelow : Below credit n held) (hn : n < (Resource.ledgerEntry params.entryId).stage credit)
    (hQ : ∀ e held', held ⊆ held' →
      Below credit ((Resource.ledgerEntry params.entryId).stage credit) held' → Q e held')
    : Climbs credit s (postTransaction params tx) held Q := by
  unfold postTransaction
  apply OrderedLocking.climbs_bind
  apply climbs_createLedgerEntry hwallet htransaction hbelow hn
  intro e held' hsub hbelow'
  apply OrderedLocking.climbs_bind
  refine climbs_updateWallet rfl (hwallet.mono hsub) hbelow' ?_
  intro _ held'' hsub' hbelow''
  exact hQ e held'' (hsub.trans hsub') hbelow''

theorem climbs_validateConstraints {wallet : Option Wallet} {amount : Amount}
    {Q : Wallet → Set (Resource × Mode) → Prop} (hQ : ∀ w, Q w held)
    : Climbs credit s (validateConstraints wallet amount) held Q := by
  unfold validateConstraints
  repeat' split
  . trivial
  . trivial
  . trivial
  . apply hQ

theorem climbs_receiverWallet {wallet : Option Wallet} {Q : Wallet → Set (Resource × Mode) → Prop}
    (hQ : ∀ w, Q w held)
    : Climbs credit s (PaymentService.receiverWallet wallet) held Q := by
  unfold PaymentService.receiverWallet
  split
  . trivial
  . apply hQ

theorem climbs_updateTransactionStatus {id : TransactionId} {status : TransactionStatus}
    {tx : Client} {n : ℕ} {Q : Transaction → Set (Resource × Mode) → Prop}
    (htransaction : (.transaction id, .exclusive) ∈ held) (hbelow : Below credit n held)
    (hQ : ∀ t held', Q t held')
    : Climbs credit s (updateTransactionStatus id status tx) held Q := by
  refine climbs_covered (q := ⟨tx, .updateTransactionStatus id status⟩) ?_ hbelow
    (fun t held' _ _ => hQ t held')
  intro l hl
  cases List.mem_singleton.mp hl
  exact htransaction

theorem climbs_createPayment {data : PaymentData} {tx : Client}
    {Q : Payment → Set (Resource × Mode) → Prop}
    (htransaction : (.transaction data.transactionId, .exclusive) ∈ held)
    (hbelow : Below credit 4 held) (hQ : ∀ p held', Q p held')
    : Climbs credit s (PaymentRepository.createPayment data tx) held Q := by
  apply climbs_statement
    [(.payment data.id, .exclusive), (.paymentRef data.paymentRef, .exclusive),
      (.idempotencyKey data.idempotencyKey, .exclusive)]
    [(.transaction data.transactionId, .shared)] 4 7
  . rfl
  . simp [Resource.stage]
  . simpa using htransaction
  . exact hbelow
  . simp [Resource.stage]
  . simp [Resource.stage]
  . omega
  . intro p held' _ _ _ _
    exact hQ p held'

theorem stage_ledgerEntry (id : String)
    : 2 < (Resource.ledgerEntry id).stage credit ∧ (Resource.ledgerEntry id).stage credit ≤ 4 := by
  unfold Resource.stage
  dsimp only
  split <;> decide

theorem climbs_recorded {data : TransactionData} {walletId : WalletId}
    {entryType : LedgerEntryType} {entryId : String} {currentBalance : ℚ} {createdAt : ℕ}
    (hbelow : Below credit 0 held) (hsender : ∀ id ∈ data.senderWalletId, Owns s held id)
    (hreceiver : ∀ id ∈ data.receiverWalletId, Owns s held id) (hwallet : Owns s held walletId)
    : Climbs credit s
        (createTransaction data .transaction >>= fun transaction =>
          postTransaction ⟨transaction.id, walletId, entryType, data.amount, currentBalance, entryId,
            createdAt⟩ .transaction >>= fun _ =>
          updateTransactionStatus transaction.id .SUCCESS .transaction)
        held (fun _ _ => True) := by
  apply OrderedLocking.climbs_bind
  apply climbs_createTransaction hbelow hsender hreceiver
  intro transaction held₁ hid hsub₁ htransaction hbelow₁
  rw [← hid] at htransaction
  apply OrderedLocking.climbs_bind
  apply climbs_postTransaction (hwallet.mono hsub₁) htransaction hbelow₁ (stage_ledgerEntry _).1
  intro entry held₂ hsub₂ hbelow₂
  exact climbs_updateTransactionStatus (hsub₂ htransaction) hbelow₂ (fun _ _ => trivial)

theorem climbs_deposit (r : WalletId) (a : Amount) (u : UserId) (d : Option String) (g : Generated)
    : Climbs credit s (TransactionService.deposit r a u d g) ∅ (fun _ _ => True) := by
  unfold TransactionService.deposit
  apply OrderedLocking.climbs_bind
  apply climbs_selectWalletsForUpdate
  intro wallets held howns hbelow
  have hr : Owns s held r := howns r (by simp)
  apply OrderedLocking.climbs_bind
  apply climbs_validateConstraints
  intro wallet
  exact climbs_recorded hbelow (by simp) (by simpa using hr) hr

theorem climbs_withdraw (r : WalletId) (a : Amount) (u : UserId) (d : Option String)
    (g : Generated)
    : Climbs credit s (TransactionService.withdraw r a u d g) ∅ (fun _ _ => True) := by
  unfold TransactionService.withdraw
  apply OrderedLocking.climbs_bind
  apply climbs_selectWalletsForUpdate
  intro wallets held howns hbelow
  have hr : Owns s held r := howns r (by simp)
  apply OrderedLocking.climbs_bind
  apply climbs_validateConstraints
  intro wallet
  apply OrderedLocking.climbs_bind
  apply OrderedLocking.climbs_require
  intro _
  exact climbs_recorded hbelow (by simpa using hr) (by simp) hr

theorem climbs_transfer (r r' : WalletId) (a : Amount) (u : UserId) (d : Option String)
    {g : Generated} (hdebit : credit g.debitEntryId = false)
    (hcredit : credit g.creditEntryId = true)
    : Climbs credit s (TransactionService.transfer r r' a u d g) ∅ (fun _ _ => True) := by
  unfold TransactionService.transfer
  apply OrderedLocking.climbs_bind
  apply OrderedLocking.climbs_require
  intro _
  apply OrderedLocking.climbs_bind
  apply climbs_selectWalletsForUpdate
  intro wallets held howns hbelow
  have hr : Owns s held r := howns r (by simp)
  have hr' : Owns s held r' := howns r' (by simp)
  apply OrderedLocking.climbs_bind
  apply OrderedLocking.climbs_require
  intro _
  apply OrderedLocking.climbs_bind
  apply climbs_validateConstraints
  intro senderWallet
  apply OrderedLocking.climbs_bind
  apply climbs_validateConstraints
  intro receiverWallet
  apply OrderedLocking.climbs_bind
  apply OrderedLocking.climbs_require
  intro _
  apply OrderedLocking.climbs_bind
  apply climbs_createTransaction hbelow (by simpa using hr) (by simpa using hr')
  intro transaction held₁ hid hsub₁ htransaction hbelow₁
  rw [← hid] at htransaction
  apply OrderedLocking.climbs_bind
  apply climbs_postTransaction (hr.mono hsub₁) htransaction hbelow₁ (stage_ledgerEntry _).1
  intro debit held₂ hsub₂ hbelow₂
  apply OrderedLocking.climbs_bind
  apply climbs_postTransaction (hr'.mono (hsub₁.trans hsub₂)) (hsub₂ htransaction) hbelow₂
    (by simp [Resource.stage, hdebit, hcredit])
  intro entry held₃ hsub₃ hbelow₃
  exact climbs_updateTransactionStatus (hsub₃ (hsub₂ htransaction)) hbelow₃ (fun _ _ => trivial)

theorem climbs_processPaymentBlock (k : IdempotencyKey) (a : Amount) (m : PaymentMethod)
    (r : WalletId) (u : UserId) (d : Option String) (g : Generated)
    : Climbs credit s (PaymentService.processPaymentBlock k a m r u d g) ∅ (fun _ _ => True) := by
  unfold PaymentService.processPaymentBlock
  apply OrderedLocking.climbs_bind
  apply climbs_selectWalletsForUpdate
  intro wallets held howns hbelow
  have hr : Owns s held r := howns r (by simp)
  apply OrderedLocking.climbs_bind
  apply climbs_receiverWallet
  intro wallet
  apply OrderedLocking.climbs_bind
  apply OrderedLocking.climbs_require
  intro _
  apply OrderedLocking.climbs_bind
  apply OrderedLocking.climbs_require
  intro _
  apply OrderedLocking.climbs_bind
  apply climbs_createTransaction hbelow (by simp) (by simpa using hr)
  intro transaction held₁ hid hsub₁ htransaction hbelow₁
  rw [← hid] at htransaction
  apply OrderedLocking.climbs_bind
  apply climbs_postTransaction (hr.mono hsub₁) htransaction hbelow₁ (stage_ledgerEntry _).1
  intro entry held₂ hsub₂ hbelow₂
  refine climbs_createPayment (hsub₂ htransaction) ?_ (fun _ _ => trivial)
  intro h hh
  exact (hbelow₂ h hh).trans (stage_ledgerEntry _).2

theorem climbs_status {q : Query} {id : WalletId} (hq : Store.lockSequence q s = s.rowUpdate id)
    : Climbs credit s (.call q .ret) ∅ (fun _ _ => True) := by
  refine ⟨?_, fun _ _ => trivial⟩
  change OrderedLocking.Ascending _ _ (Store.lockSequence q s)
  rw [hq]
  apply OrderedLocking.ascending_of_pairwise (by simp)
  unfold Store.rowUpdate
  split
  . rw [List.pairwise_pair]
    apply rank_walletKey_lt
  . exact .nil

theorem climbs_map {α : Type} {p : Tx α} {f : α → Reply}
    (h : Climbs credit s p ∅ (fun _ _ => True))
    : Climbs credit s (f <$> p) ∅ (fun _ _ => True) :=
  OrderedLocking.climbs_bind (h.mono (fun _ _ _ => trivial))

end Climbs

def Call.generated? (c : Call) : Option Generated :=
  match c with
  | .deposit _ _ _ _ gen => some gen
  | .withdraw _ _ _ _ gen => some gen
  | .transfer _ _ _ _ _ gen => some gen
  | .processPayment _ _ _ _ _ _ gen => some gen
  | _ => none

theorem climbs_program {credit : String → Bool} {c : Call} (s snapshot : Store)
    (hentries : ∀ g ∈ c.generated?, credit g.debitEntryId = false ∧ credit g.creditEntryId = true)
    : Climbs credit s (c.program snapshot) ∅ (fun _ _ => True) := by
  cases c with
  | deposit => exact climbs_map (climbs_deposit _ _ _ _ _)
  | withdraw => exact climbs_map (climbs_withdraw _ _ _ _ _)
  | transfer =>
    have hgen := hentries _ rfl
    exact climbs_map (climbs_transfer _ _ _ _ _ hgen.1 hgen.2)
  | processPayment => exact climbs_map (climbs_processPaymentBlock _ _ _ _ _ _ _)
  | freezeWallet =>
    apply climbs_map
    unfold WalletService.freezeWallet
    repeat' split
    . trivial
    . trivial
    . exact climbs_status rfl
  | unfreezeWallet =>
    apply climbs_map
    unfold WalletService.unfreezeWallet
    repeat' split
    . trivial
    . trivial
    . exact climbs_status rfl
  | closeWallet =>
    apply climbs_map
    unfold WalletService.closeWallet
    repeat' split
    . trivial
    . trivial
    . exact climbs_status rfl

section Interleaving

variable {ι : Type}

-- `cuid()` never draws for a credit what it draws for a debit.
def DistinctEntries (calls : ι → Call) : Prop :=
  ∀ i j, ∀ g ∈ (calls i).generated?, ∀ g' ∈ (calls j).generated?, g.debitEntryId ≠ g'.creditEntryId

variable [DecidableEq ι]

def interleaveInOrder (calls : ι → Call) (m : Interleaving ι) (ev : Locking.Event Resource ι)
    : Interleaving ι :=
  orderedRowLocks.stepInOrder (fun i snapshot => (calls i).program snapshot) m ev

open Classical in
theorem calls_never_deadlock (calls : ι → Call) (hentries : DistinctEntries calls) (s : Store)
    (es : List (Locking.Event Resource ι))
    : (∀ i, ¬Relation.TransGen
          (orderedRowLocks.WaitsFor (Run.run (interleaveInOrder calls) (.init s) es)) i i)
        ∧ ∀ i, orderedRowLocks.Waits (Run.run (interleaveInOrder calls) (.init s) es) i →
          ∃ j, j ≠ i ∧ orderedRowLocks.CanProceed (fun i snapshot => (calls i).program snapshot)
            (Run.run (interleaveInOrder calls) (.init s) es) j := by
  let credit : String → Bool := fun id => ∃ i, ∃ g ∈ (calls i).generated?, g.creditEntryId = id
  have hinv : OrderedLocking.Inv orderedRowLocks (Resource.rank credit)
      (fun i snapshot => (calls i).program snapshot) s
      (Run.run (interleaveInOrder calls) (.init s) es) := by
    refine OrderedLocking.inv_run ?_ es
    intro i snapshot _
    apply climbs_program
    intro g hg
    constructor
    . simp only [credit, decide_eq_false_iff_not]
      rintro ⟨j, g', hg', heq⟩
      exact hentries i j g hg g' hg' heq.symm
    . simp only [credit, decide_eq_true_eq]
      exact ⟨i, g, hg, rfl⟩
  exact ⟨hinv.acyclic, fun i hi => hinv.exists_canProceed hi⟩

def crossingTransfers (i : Bool) : Call :=
  match i with
  | false => .transfer "a" "b" (.ofRat 1 Binary64.abs_round_one_lt) "alice" none (sampleGenerated "1")
  | true => .transfer "b" "a" (.ofRat 1 Binary64.abs_round_one_lt) "bob" none (sampleGenerated "2")

def crossingWallets : Store :=
  Run.run step (.initial sampleUsers)
    [⟨.createWallet "alice" none "a" "1", true⟩, ⟨.createWallet "bob" none "b" "2", true⟩]

def crossingRun : List (Locking.Event Resource Bool) :=
  [.start true, .start false, .acquire true (.walletKey "a", .exclusive)]

theorem crossing_transfers_never_deadlock
    : orderedRowLocks.next? (Run.run (interleaveInOrder crossingTransfers) (.init crossingWallets)
          crossingRun) false = some (.walletKey "a", .exclusive)
        ∧ (∀ i, ¬Relation.TransGen (orderedRowLocks.WaitsFor
          (Run.run (interleaveInOrder crossingTransfers) (.init crossingWallets) crossingRun)) i i)
        ∧ ∀ i, orderedRowLocks.Waits
            (Run.run (interleaveInOrder crossingTransfers) (.init crossingWallets) crossingRun) i →
          ∃ j, j ≠ i ∧ orderedRowLocks.CanProceed
            (fun i snapshot => (crossingTransfers i).program snapshot)
            (Run.run (interleaveInOrder crossingTransfers) (.init crossingWallets) crossingRun) j := by
  refine ⟨by decide +kernel, calls_never_deadlock crossingTransfers ?_ crossingWallets crossingRun⟩
  intro i j g hg g' hg'
  cases i <;> cases j <;> cases hg <;> cases hg' <;> decide

end Interleaving

end Banking
