import BankingApi.Bank.Effect

/-!
This module contains what a call that commits has done to one wallet: it has posted one entry there,
or it has left the balance and the entries of the wallet alone.
-/

namespace Banking

open LedgerService LedgerRepository

structure Movement where
  walletId : WalletId
  entryType : LedgerEntryType
  amount : ℚ

def LedgerEntryType.signed (entryType : LedgerEntryType) (amount : ℚ) : ℚ :=
  match entryType with
  | .CREDIT => amount
  | .DEBIT => -amount

def Movement.signed (m : Movement) : ℚ :=
  m.entryType.signed m.amount

def LedgerEntry.signed (e : LedgerEntry) : ℚ :=
  e.entryType.signed e.amount.toRat

theorem balanceAfter_eq_round (entryType : LedgerEntryType) (currentBalance amount : ℚ)
    : balanceAfter entryType currentBalance amount =
      decimal20.round (currentBalance + entryType.signed amount) := by
  cases entryType with
  | CREDIT => rfl
  | DEBIT => rw [balanceAfter, Decimal.minus, LedgerEntryType.signed, sub_eq_add_neg]

def Call.movements (c : Call) : List Movement :=
  match c with
  | .deposit receiverWalletId amount _ _ _ => [⟨receiverWalletId, .CREDIT, amount.toDecimal⟩]
  | .withdraw senderWalletId amount _ _ _ => [⟨senderWalletId, .DEBIT, amount.toDecimal⟩]
  | .transfer senderWalletId receiverWalletId amount _ _ _ =>
    [⟨senderWalletId, .DEBIT, amount.toDecimal⟩, ⟨receiverWalletId, .CREDIT, amount.toDecimal⟩]
  | .processPayment _ amount _ receiverWalletId _ _ _ =>
    [⟨receiverWalletId, .CREDIT, amount.toDecimal⟩]
  | .freezeWallet _ => []
  | .unfreezeWallet _ => []
  | .closeWallet _ => []

theorem movements_of_statusUpdate {c : Call} {u : WalletId × WalletStatus}
    (h : c.statusUpdate? = some u)
    : c.movements = [] := by
  cases c <;> first | rfl | cases h

section Frame

variable (s : Store) (t : Transaction) (p : Payment) (id : WalletId) (status : WalletStatus)

@[simp]
theorem wallets_addTransaction : (s.addTransaction t).wallets = s.wallets := rfl

@[simp]
theorem wallets_addPayment : (s.addPayment p).wallets = s.wallets := rfl

@[simp]
theorem entries_addTransaction : entries (s.addTransaction t) = entries s := rfl

@[simp]
theorem entries_setStatus : entries (s.setStatus id status) = entries s := rfl

theorem find?_setStatus (id' : WalletId)
    : (s.setStatus id status).wallets.find? id' =
      if id = id' then (s.wallets.find? id').map ({ · with status := status })
      else s.wallets.find? id' := by
  rw [Store.setStatus, Table.find?_update]

theorem find?_post (e : LedgerEntry)
    : (s.post e).wallets.find? id =
      if e.walletId = id then (s.wallets.find? id).map ({ · with balance := e.balanceAfter })
      else s.wallets.find? id := by
  rw [Store.post, Table.find?_update]

end Frame

theorem rows_post {s : Store} {e : LedgerEntry} (h : s.ledgerEntries.find? e.id = none)
    : (s.post e).ledgerEntries.rows = s.ledgerEntries.rows ++ [e] := by
  apply Table.rows_insert h

theorem entries_post {s : Store} {e : LedgerEntry} (h : s.ledgerEntries.find? e.id = none)
    (id : WalletId)
    : entries (s.post e) id = entries s id ++ if e.walletId = id then [e] else [] := by
  unfold entries
  rw [rows_post h, List.filter_append]
  congr 1
  split <;> simp [*]

structure Moved (s : Store) (m : Movement) (w : Wallet) (e : LedgerEntry) (s' : Store) : Prop where
  wallet_eq : s.wallets.find? m.walletId = some w
  active : w.status = .ACTIVE
  walletId_eq : e.walletId = m.walletId
  entryType_eq : e.entryType = m.entryType
  amount_eq : FixedPoint.ofRat? 18 2 m.amount = some e.amount
  balanceAfter_eq : FixedPoint.ofRat? 18 2 (balanceAfter m.entryType w.balance.toRat m.amount) =
    some e.balanceAfter
  find?_eq : s'.wallets.find? m.walletId = some { w with balance := e.balanceAfter }
  entries_eq : entries s' m.walletId = entries s m.walletId ++ [e]

theorem Moved.of_posted {s s' : Store} {t : Transaction} {entryType : LedgerEntryType} {w : Wallet}
    {amount : ℚ} {e : LedgerEntry} (ht : FixedPoint.ofRat? 18 2 amount = some t.amount)
    (he : Posted s t entryType w amount e)
    (hfind : s'.wallets.find? e.walletId = some { w with balance := e.balanceAfter })
    (hentries : entries s' e.walletId = entries s e.walletId ++ [e])
    : Moved s ⟨e.walletId, entryType, amount⟩ w e s' where
  wallet_eq := he.wallet_eq
  active := he.active
  walletId_eq := rfl
  entryType_eq := he.entryType_eq
  amount_eq := by rw [he.amount_eq]; exact ht
  balanceAfter_eq := he.balanceAfter_eq
  find?_eq := hfind
  entries_eq := hentries

theorem Posted.moved {s : Store} {t : Transaction} {entryType : LedgerEntryType} {w : Wallet}
    {amount : ℚ} {e : LedgerEntry} (ht : FixedPoint.ofRat? 18 2 amount = some t.amount)
    (he : Posted s t entryType w amount e)
    : Moved s ⟨e.walletId, entryType, amount⟩ w e ((s.addTransaction t).post e) := by
  apply Moved.of_posted ht he
  . simp [find?_post, he.wallet_eq]
  . rw [entries_post (by exact he.fresh)]
    simp

theorem Moved.addPayment {s s' : Store} {m : Movement} {w : Wallet} {e : LedgerEntry}
    (h : Moved s m w e s') (p : Payment)
    : Moved s m w e (s'.addPayment p) :=
  { h with }

theorem Posted.fresh_post {s : Store} {t : Transaction} {entryType : LedgerEntryType} {w : Wallet}
    {amount : ℚ} {e e' : LedgerEntry} (he' : Posted s t entryType w amount e') (hid : e.id ≠ e'.id)
    : ((s.addTransaction t).post e).ledgerEntries.find? e'.id = none := by
  change (Table.insert _ e).find? e'.id = none
  rw [Table.find?_insert_of_ne hid]
  exact he'.fresh

theorem Posted.moved_pair {s : Store} {t : Transaction} {entryType entryType' : LedgerEntryType}
    {w w' : Wallet} {amount : ℚ} {e e' : LedgerEntry}
    (ht : FixedPoint.ofRat? 18 2 amount = some t.amount)
    (he : Posted s t entryType w amount e) (he' : Posted s t entryType' w' amount e')
    (hne : e.walletId ≠ e'.walletId) (hid : e.id ≠ e'.id)
    : Moved s ⟨e.walletId, entryType, amount⟩ w e (((s.addTransaction t).post e).post e')
        ∧ Moved s ⟨e'.walletId, entryType', amount⟩ w' e'
          (((s.addTransaction t).post e).post e') := by
  have hfresh := he'.fresh_post hid
  constructor
  . apply Moved.of_posted ht he
    . simp [find?_post, he.wallet_eq, hne.symm]
    . rw [entries_post hfresh, entries_post (by exact he.fresh)]
      simp [hne.symm]
  . apply Moved.of_posted ht he'
    . simp [find?_post, he'.wallet_eq, hne]
    . rw [entries_post hfresh, entries_post (by exact he.fresh)]
      simp [hne]

theorem Effect.moved {s s' : Store} {c : Call} {reply : Reply} {m : Movement}
    (h : Effect s c reply s') (hm : m ∈ c.movements)
    : ∃ w e, Moved s m w e s' := by
  cases h with
  | deposit hpos ht hw he =>
    subst hw
    cases List.mem_singleton.mp hm
    exact ⟨_, _, he.moved ht.amount_eq⟩
  | withdraw hpos hfunds ht hw he =>
    subst hw
    cases List.mem_singleton.mp hm
    exact ⟨_, _, he.moved ht.amount_eq⟩
  | transfer hne hpos hfunds ht hw hw' he he' hid =>
    subst hw hw'
    have hmoved := Posted.moved_pair ht.amount_eq he he' hne hid
    rcases List.mem_pair.mp hm with rfl | rfl
    . exact ⟨_, _, hmoved.1⟩
    . exact ⟨_, _, hmoved.2⟩
  | processPayment hpos ht hw he hp =>
    subst hw
    cases List.mem_singleton.mp hm
    exact ⟨_, _, (he.moved ht.amount_eq).addPayment _⟩
  | status hc hw =>
    rw [movements_of_statusUpdate hc] at hm
    cases hm

def Unmoved (s : Store) (id : WalletId) (s' : Store) : Prop :=
  entries s' id = entries s id
    ∧ (s'.wallets.find? id).map Wallet.balance = (s.wallets.find? id).map Wallet.balance

theorem unmoved_post {s : Store} {e : LedgerEntry} {id : WalletId}
    (h : s.ledgerEntries.find? e.id = none) (hne : e.walletId ≠ id)
    : Unmoved s id (s.post e) := by
  constructor
  . rw [entries_post h]
    simp [hne]
  . simp [find?_post, hne]

theorem Unmoved.trans {s s' s'' : Store} {id : WalletId} (h : Unmoved s id s')
    (h' : Unmoved s' id s'')
    : Unmoved s id s'' :=
  ⟨h'.1.trans h.1, h'.2.trans h.2⟩

theorem Effect.unmoved {s s' : Store} {c : Call} {reply : Reply} {id : WalletId}
    (h : Effect s c reply s') (hid : ∀ m ∈ c.movements, m.walletId ≠ id)
    : Unmoved s id s' := by
  cases h with
  | @deposit _ _ _ _ _ t _ _ hpos ht hw he =>
    subst hw
    exact unmoved_post (s := s.addTransaction t) he.fresh (hid _ (List.mem_singleton_self _))
  | @withdraw _ _ _ _ _ t _ _ hpos hfunds ht hw he =>
    subst hw
    exact unmoved_post (s := s.addTransaction t) he.fresh (hid _ (List.mem_singleton_self _))
  | @transfer _ _ a _ _ _ t e e' _ _ hne hpos hfunds ht hw hw' he he' hne' =>
    subst hw hw'
    have hfresh := he'.fresh_post hne'
    have hid₁ := hid ⟨e.walletId, .DEBIT, a.toDecimal⟩ (by simp [Call.movements])
    have hid₂ := hid ⟨e'.walletId, .CREDIT, a.toDecimal⟩ (by simp [Call.movements])
    exact Unmoved.trans (unmoved_post (s := s.addTransaction t) he.fresh hid₁)
      (unmoved_post hfresh hid₂)
  | @processPayment _ _ _ _ _ _ _ t _ _ _ hpos ht hw he hp =>
    subst hw
    exact unmoved_post (s := s.addTransaction t) he.fresh (hid _ (List.mem_singleton_self _))
  | status hc hw =>
    constructor
    . rw [entries_setStatus]
    . rw [find?_setStatus]
      split
      . rw [Option.map_map]
        rfl
      . rfl

theorem mem_entries_iff {s : Store} {id : WalletId} {e : LedgerEntry}
    : e ∈ entries s id ↔ e ∈ s.ledgerEntries.rows ∧ e.walletId = id := by
  simp [entries]

theorem Effect.active_of_moved {s s' : Store} {c : Call} {reply : Reply} {id : WalletId}
    (h : Effect s c reply s') (hid : ¬Unmoved s id s')
    : ∃ w, s.wallets.find? id = some w ∧ w.status = .ACTIVE := by
  by_cases hm : ∃ m ∈ c.movements, m.walletId = id
  . rcases hm with ⟨m, hm, rfl⟩
    rcases h.moved hm with ⟨w, e, hmoved⟩
    exact ⟨w, hmoved.wallet_eq, hmoved.active⟩
  . exact absurd (h.unmoved (fun m hm' heq => hm ⟨m, hm', heq⟩)) hid

theorem map_find?_post {β : Type} (s : Store) (e : LedgerEntry) (id : WalletId) {col : Wallet → β}
    (hcol : ∀ w b, col { w with balance := b } = col w)
    : ((s.post e).wallets.find? id).map col = (s.wallets.find? id).map col := by
  rw [find?_post]
  split
  . rw [Option.map_map]
    congr 1
    funext w
    exact hcol w e.balanceAfter
  . rfl

theorem Effect.column_eq {β : Type} {s s' : Store} {c : Call} {reply : Reply} {col : Wallet → β}
    (h : Effect s c reply s') (hbalance : ∀ w b, col { w with balance := b } = col w)
    (hstatus : c.statusUpdate? = none ∨ ∀ w st, col { w with status := st } = col w) (id : WalletId)
    : (s'.wallets.find? id).map col = (s.wallets.find? id).map col := by
  cases h with
  | deposit => rw [map_find?_post _ _ _ hbalance, wallets_addTransaction]
  | withdraw => rw [map_find?_post _ _ _ hbalance, wallets_addTransaction]
  | transfer =>
    rw [map_find?_post _ _ _ hbalance, map_find?_post _ _ _ hbalance, wallets_addTransaction]
  | processPayment => rw [wallets_addPayment, map_find?_post _ _ _ hbalance, wallets_addTransaction]
  | @status _ _ st _ hc =>
    rcases hstatus with hnone | hstatus
    . cases hnone.symm.trans hc
    . rw [find?_setStatus]
      split
      . rw [Option.map_map]
        congr 1
        funext w
        exact hstatus w st
      . rfl

theorem Effect.status_eq {s s' : Store} {c : Call} {reply : Reply} (h : Effect s c reply s')
    (hc : c.statusUpdate? = none) (id : WalletId)
    : (s'.wallets.find? id).map Wallet.status = (s.wallets.find? id).map Wallet.status :=
  h.column_eq (fun _ _ => rfl) (.inl hc) id

theorem Effect.userId_eq {s s' : Store} {c : Call} {reply : Reply} (h : Effect s c reply s')
    (id : WalletId)
    : (s'.wallets.find? id).map Wallet.userId = (s.wallets.find? id).map Wallet.userId :=
  h.column_eq (fun _ _ => rfl) (.inr (fun _ _ => rfl)) id

end Banking
