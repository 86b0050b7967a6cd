import BankingApi.Bank.Books
import BankingApi.Http.Preservation

/-!
This module contains how far balances may be from the ledger and from the transactions, whatever the
amounts are.
-/

namespace Banking

open Http LedgerRepository

theorem Evolved.posts {s s' : Store} (h : Evolved s s') : s.book.Posts (1 / 100) s'.book := by
  cases h with
  | nothing => exact .refl
  | createUser => exact .refl
  | updateUser => exact .refl
  | createWallet hfresh _ _ _ hbalance =>
    rw [book_addWallet hfresh hbalance]
    exact .refl
  | walletStatus =>
    rw [book_setStatus]
    exact .refl
  | payment => exact .refl
  | call h => exact h.posts

theorem Evolves.posts {s s' : Store} (h : Evolves s s') : s.book.Posts (1 / 100) s'.book :=
  h.preserves (fun _ => .refl) (fun _ _ _ h h' => h.trans h') Evolved.posts

/--
A wallet has the balance that its latest entry states, and the sum of its entries up to a cent for each of
them.
-/
structure Reconciled (s : Store) (w : Wallet) : Prop where
  last : w.balance = ((entries s w.id).getLast?.map LedgerEntry.balanceAfter).getD 0
  drift : |w.balance.toRat - ((entries s w.id).map LedgerEntry.signed).sum| ≤
    (entries s w.id).length / 100

theorem toRat_injective {x y : Money} (h : x.toRat = y.toRat) : x = y := by
  apply FixedPoint.ext
  have hx := x.toRat_mul_pow
  rw [h, y.toRat_mul_pow] at hx
  exact_mod_cast hx.symm

theorem toRat_getD (balance : Option Money)
    : (balance.getD 0).toRat = (balance.map FixedPoint.toRat).getD 0 := by
  cases balance with
  | none => exact FixedPoint.toRat_zero
  | some balance => rfl

theorem map_amount_posting (es : List LedgerEntry)
    : (es.map LedgerEntry.posting).map Posting.amount = es.map LedgerEntry.signed := by
  rw [List.map_map]
  rfl

theorem reconciled_of_posts {s : Store} (h : Book.initial.Posts (1 / 100) s.book) {w : Wallet}
    (hw : w ∈ s.wallets.rows)
    : Reconciled s w := by
  have hbalance := balance_book (Table.find?_of_mem hw)
  constructor
  . apply toRat_injective
    rw [toRat_getD, Option.map_map, ← hbalance, h.balance_eq_last, of_book, List.getLast?_map,
      Option.map_map]
    rfl
  . have hdrift := h.abs_balance_sub_sum_le w.id
    rw [hbalance, of_book, map_amount_posting, List.length_map, nsmul_eq_mul] at hdrift
    rwa [mul_one_div] at hdrift

theorem totalBalance_eq_sum_book (s : Store)
    : totalBalance s = ∑ id ∈ (s.wallets.rows.map Wallet.id).toFinset, s.book.balance id := by
  rw [List.sum_toFinset _ s.wallets.hrows, List.map_map]
  unfold totalBalance
  congr 1
  apply List.map_congr_left
  intro w hw
  exact (balance_book (Table.find?_of_mem hw)).symm

-- What the bank has taken in and not paid out, as the ledger and as the transactions have it.
def Netted (s : Store) : Prop :=
  (s.ledgerEntries.rows.map LedgerEntry.signed).sum = volume s .DEPOSIT - volume s .WITHDRAW

theorem Booked.netted {s s' : Store} {t : Transaction} {es : List LedgerEntry} {ps : List Payment}
    (h : Booked s t es ps s') (hs : Netted s)
    : Netted s' := by
  have hvolume : ∀ type,
      volume s' type = volume s type + if t.type = type then t.amount.toRat else 0 := by
    intro type
    unfold volume
    rw [h.transactions, List.filter_append]
    split <;> simp [*]
  have hsum : (es.map LedgerEntry.signed).sum =
      (if t.type = .DEPOSIT then t.amount.toRat else 0)
        - if t.type = .WITHDRAW then t.amount.toRat else 0 := by
    have hentries := h.entries
    have hamount := fun e he => (h.ofTransaction e he).2
    unfold HasEntries at hentries
    cases htype : t.type with
    | DEPOSIT =>
      rw [htype] at hentries
      rcases hentries with ⟨e, rfl, hcredit, _⟩
      simp [LedgerEntry.signed, LedgerEntryType.signed, hcredit, hamount]
    | WITHDRAW =>
      rw [htype] at hentries
      rcases hentries with ⟨e, rfl, hdebit, _⟩
      simp [LedgerEntry.signed, LedgerEntryType.signed, hdebit, hamount]
    | TRANSFER =>
      rw [htype] at hentries
      rcases hentries with ⟨e, e', rfl, hdebit, _, hcredit, _⟩
      simp [LedgerEntry.signed, LedgerEntryType.signed, hdebit, hcredit, hamount]
  unfold Netted at *
  rw [h.ledgerEntries, List.map_append, List.sum_append, hs, hsum, hvolume, hvolume]
  ring

theorem Evolved.netted {s s' : Store} (h : Evolved s s') (hs : Netted s) : Netted s' := by
  cases h with
  | call h =>
    rcases h.booked with ⟨t, es, ps, hbooked⟩ | ⟨ht, he, _⟩
    . exact hbooked.netted hs
    . unfold Netted volume at *
      rw [ht, he]
      exact hs
  | _ => exact hs

def EntriesPlaced (s : Store) : Prop :=
  ∀ e ∈ s.ledgerEntries.rows, (s.wallets.find? e.walletId).isSome

theorem Evolved.entriesPlaced {s s' : Store} (h : Evolved s s') (hs : EntriesPlaced s)
    : EntriesPlaced s' := by
  intro e he
  apply h.preserved.hasWallet
  cases h with
  | call h =>
    rcases h.wallet_of_entry he with hold | hnew
    . exact hs e hold
    . exact hnew
  | _ => exact hs e he

theorem EntriesPlaced.mem_ids {s : Store} (h : EntriesPlaced s)
    : ∀ p ∈ s.book.postings, p.account ∈ (s.wallets.rows.map Wallet.id).toFinset := by
  intro p hp
  rcases List.mem_map.mp hp with ⟨e, he, rfl⟩
  rw [List.mem_toFinset]
  exact isSome_find?_iff.mp (h e he)

theorem abs_totalBalance_sub_le {s : Store} (h : Book.initial.Posts (1 / 100) s.book)
    (hnetted : Netted s) (hplaced : EntriesPlaced s)
    : |totalBalance s - (volume s .DEPOSIT - volume s .WITHDRAW)| ≤
      s.ledgerEntries.rows.length / 100 := by
  have hdrift := h.abs_total_sub_sum_le hplaced.mem_ids
  have hpostings : s.book.postings = s.ledgerEntries.rows.map LedgerEntry.posting := rfl
  rw [← totalBalance_eq_sum_book, hpostings, map_amount_posting, hnetted, List.length_map,
    nsmul_eq_mul] at hdrift
  rwa [mul_one_div] at hdrift

/--
However the bank is used and whatever the amounts are, each balance is what its latest entry states, and
no sum is off by more than a cent for each entry.
-/
theorem balances_reconciled {users : Table User.id} {s : Store} (h : Reached users s)
    : (∀ w ∈ s.wallets.rows, Reconciled s w)
        ∧ |totalBalance s - (volume s .DEPOSIT - volume s .WITHDRAW)| ≤
          s.ledgerEntries.rows.length / 100 := by
  have hposts : Book.initial.Posts (1 / 100) s.book := by
    rw [← book_initial users]
    exact h.evolves.posts
  have hnetted : Netted s := by
    apply h.evolves.invariant Evolved.netted
    simp [Netted, volume, Store.initial]
  have hplaced : EntriesPlaced s := by
    apply h.evolves.invariant Evolved.entriesPlaced
    intro e he
    cases he
  constructor
  . intro w hw
    exact reconciled_of_posts hposts hw
  . exact abs_totalBalance_sub_le hposts hnetted hplaced

theorem balances_reconciled_after_half_cent
    : (∀ w ∈ (Run.run step (.initial sampleUsers) halfCentWithdrawal).wallets.rows,
          Reconciled (Run.run step (.initial sampleUsers) halfCentWithdrawal) w)
        ∧ |totalBalance (Run.run step (.initial sampleUsers) halfCentWithdrawal)
            - (volume (Run.run step (.initial sampleUsers) halfCentWithdrawal) .DEPOSIT
              - volume (Run.run step (.initial sampleUsers) halfCentWithdrawal) .WITHDRAW)| ≤
          (Run.run step (.initial sampleUsers) halfCentWithdrawal).ledgerEntries.rows.length / 100 :=
  balances_reconciled (.bank (later_run _ _))

section History

-- How a transaction shows in the ledger of a wallet.
def Transaction.entryType? (t : Transaction) (id : WalletId) : Option LedgerEntryType :=
  if t.senderWalletId = some id then some .DEBIT
  else if t.receiverWalletId = some id then some .CREDIT
  else none

def Transaction.statement (id : WalletId) (t : Transaction)
    : TransactionId × Option LedgerEntryType × Money :=
  (t.id, t.entryType? id, t.amount)

def LedgerEntry.statement (e : LedgerEntry) : TransactionId × Option LedgerEntryType × Money :=
  (e.transactionId, some e.entryType, e.amount)

def transactionsOf (s : Store) (id : WalletId) : List Transaction :=
  s.transactions.rows.filter (fun t => t.senderWalletId = some id ∨ t.receiverWalletId = some id)

def HistoryMatches (s : Store) : Prop :=
  ∀ id, (transactionsOf s id).map (Transaction.statement id) =
    (entries s id).map LedgerEntry.statement

-- A deposit has no sender, a withdrawal no receiver.
def OneSided (t : Transaction) : Prop :=
  match t.type with
  | .DEPOSIT => t.senderWalletId = none
  | .WITHDRAW => t.receiverWalletId = none
  | .TRANSFER => True

theorem Effect.oneSided {s s' : Store} {c : Call} {reply : Reply} {t : Transaction}
    (h : Effect s c reply s') (ht : t ∈ s'.transactions.rows)
    : t ∈ s.transactions.rows ∨ OneSided t := by
  have hnew : ∀ {t' : Transaction}, s.transactions.find? t'.id = none → OneSided t' →
      t ∈ (s.transactions.insert t').rows → t ∈ s.transactions.rows ∨ OneSided t := by
    intro t' hfresh hsided hmem
    rw [Table.rows_insert hfresh, List.mem_append, List.mem_singleton] at hmem
    rcases hmem with hmem | rfl
    . exact .inl hmem
    . exact .inr hsided
  cases h with
  | deposit _ hrecorded =>
    apply hnew hrecorded.fresh _ ht
    simp [OneSided, hrecorded.type_eq, hrecorded.sender_eq]
  | withdraw _ _ hrecorded =>
    apply hnew hrecorded.fresh _ ht
    simp [OneSided, hrecorded.type_eq, hrecorded.receiver_eq]
  | transfer _ _ _ hrecorded =>
    apply hnew hrecorded.fresh _ ht
    simp [OneSided, hrecorded.type_eq]
  | processPayment _ hrecorded =>
    apply hnew hrecorded.fresh _ ht
    simp [OneSided, hrecorded.type_eq, hrecorded.sender_eq]
  | status => exact .inl ht

theorem statement_of_hasEntries {t : Transaction} {es : List LedgerEntry} (h : HasEntries t es)
    (hes : ∀ e ∈ es, e.transactionId = t.id ∧ e.amount = t.amount) (hsided : OneSided t)
    (id : WalletId)
    : ([t].filter (fun t => t.senderWalletId = some id ∨ t.receiverWalletId = some id)).map
        (Transaction.statement id) =
      (es.filter (·.walletId = id)).map LedgerEntry.statement := by
  unfold HasEntries at h
  unfold OneSided at hsided
  cases htype : t.type with
  | DEPOSIT =>
    rw [htype] at h hsided
    rcases h with ⟨e, rfl, hcredit, hreceiver⟩
    by_cases hid : e.walletId = id <;>
      simp_all [Transaction.statement, Transaction.entryType?, LedgerEntry.statement]
  | WITHDRAW =>
    rw [htype] at h hsided
    rcases h with ⟨e, rfl, hdebit, hsender⟩
    by_cases hid : e.walletId = id <;>
      simp_all [Transaction.statement, Transaction.entryType?, LedgerEntry.statement]
  | TRANSFER =>
    rw [htype] at h
    rcases h with ⟨e, e', rfl, hdebit, hsender, hcredit, hreceiver, hne⟩
    by_cases hid : e.walletId = id <;> by_cases hid' : e'.walletId = id <;>
      simp_all [Transaction.statement, Transaction.entryType?, LedgerEntry.statement]

theorem Effect.historyMatches {s s' : Store} {c : Call} {reply : Reply} (h : Effect s c reply s')
    (hs : HistoryMatches s)
    : HistoryMatches s' := by
  rcases h.booked with ⟨t, es, ps, hbooked⟩ | ⟨ht, he, _⟩
  . have hmem : t ∈ s'.transactions.rows := by
      rw [hbooked.transactions]
      simp
    have hsided : OneSided t := by
      rcases h.oneSided hmem with hold | hsided
      . exact absurd rfl (hbooked.ne_of_mem hold)
      . exact hsided
    intro id
    unfold transactionsOf entries
    rw [hbooked.transactions, hbooked.ledgerEntries, List.filter_append, List.filter_append,
      List.map_append, List.map_append,
      statement_of_hasEntries hbooked.entries hbooked.ofTransaction hsided id]
    congr 1
    exact hs id
  . intro id
    unfold transactionsOf entries
    rw [ht, he]
    exact hs id

theorem Evolved.historyMatches {s s' : Store} (h : Evolved s s') (hs : HistoryMatches s)
    : HistoryMatches s' := by
  cases h with
  | call h => exact h.historyMatches hs
  | _ => exact hs

/--
What a user is shown as the history of a wallet and what an auditor is shown as its ledger are the same
movements, each list latest first by the times of its own rows.
-/
theorem history_matches_ledger {users : Table User.id} {s : Store} (h : Reached users s)
    (id : WalletId) (scan scan' : Scan)
    : ((Server.findUserTransactions s id scan).map (Transaction.statement id)).Perm
          ((Server.findLedgerByWallet s id scan').map LedgerEntry.statement)
        ∧ (Server.findUserTransactions s id scan).Pairwise (fun t t' => t'.createdAt ≤ t.createdAt)
        ∧ (Server.findLedgerByWallet s id scan').Pairwise (fun e e' => e'.createdAt ≤ e.createdAt) := by
  have hmatches : HistoryMatches s := by
    apply h.evolves.invariant Evolved.historyMatches
    intro id
    rfl
  have htransactions : (Server.findUserTransactions s id scan).Perm (transactionsOf s id) :=
    scan.perm_latestFirst _ _ _
  have hentries : (Server.findLedgerByWallet s id scan').Perm (entries s id) :=
    scan'.perm_latestFirst _ _ _
  refine ⟨?_, scan.sorted_latestFirst _ _ _, scan'.sorted_latestFirst _ _ _⟩
  calc
    ((Server.findUserTransactions s id scan).map (Transaction.statement id)).Perm
        ((transactionsOf s id).map (Transaction.statement id)) := htransactions.map _
    _ = (entries s id).map LedgerEntry.statement := hmatches id
    List.Perm _ ((Server.findLedgerByWallet s id scan').map LedgerEntry.statement) :=
      (hentries.map _).symm

theorem history_matches_ledger_after_deposit
    : ((Server.findUserTransactions (Run.run step (.initial sampleUsers) sampleDeposit) "a"
            (fun _ => 0)).map (Transaction.statement "a")).Perm
          ((Server.findLedgerByWallet (Run.run step (.initial sampleUsers) sampleDeposit) "a"
            (fun _ => 0)).map LedgerEntry.statement)
        ∧ (Server.findUserTransactions (Run.run step (.initial sampleUsers) sampleDeposit) "a"
            (fun _ => 0)).Pairwise (fun t t' => t'.createdAt ≤ t.createdAt)
        ∧ (Server.findLedgerByWallet (Run.run step (.initial sampleUsers) sampleDeposit) "a"
            (fun _ => 0)).Pairwise (fun e e' => e'.createdAt ≤ e.createdAt) :=
  history_matches_ledger (.bank (later_run _ _)) "a" _ _

end History

end Banking
