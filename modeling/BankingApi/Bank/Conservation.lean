import BankingApi.Bank.Consistency

/-!
This module contains what is conserved: the money of the two wallets of a transfer, and the sum of
all balances up to deposits and withdrawals.
-/

namespace Banking

open Rounding LedgerService LedgerRepository

def totalBalance (s : Store) : ℚ :=
  (s.wallets.rows.map (·.balance.toRat)).sum

def volume (s : Store) (type : TransactionType) : ℚ :=
  ((s.transactions.rows.filter (·.type = type)).map (·.amount.toRat)).sum

def Balanced (s : Store) : Prop :=
  totalBalance s = volume s .DEPOSIT - volume s .WITHDRAW

structure Transferred (s : Store) (r r' : WalletId) (t : Transaction) (s' : Store) : Prop where
  recorded : s'.transactions.rows = s.transactions.rows ++ [t]
  sender : ∃ w b, s.wallets.find? r = some w
    ∧ s'.wallets.find? r = some { w with balance := b }
    ∧ w.balance.toRat - b.toRat = t.amount.toRat
  receiver : ∃ w b, s.wallets.find? r' = some w
    ∧ s'.wallets.find? r' = some { w with balance := b }
    ∧ b.toRat - w.balance.toRat = t.amount.toRat
  positive : 0 < t.amount.toRat
  others : ∀ id, id ≠ r → id ≠ r' →
    (s'.wallets.find? id).map Wallet.balance = (s.wallets.find? id).map Wallet.balance

def TransfersConserve (s : Store) (ev : Event) : Prop :=
  ev.Commits s → ∀ r r' a u d g, ev.op = .call (.transfer r r' a u d g) →
    ∃ t, Transferred s r r' t (step s ev)

def TransfersMoveCents (s : Store) (ev : Event) : Prop :=
  ev.Commits s → ∀ r r' a u d g, ev.op = .call (.transfer r r' a u d g) → 1 / 200 ≤ a.toDecimal

theorem totalBalance_post {s : Store} {e : LedgerEntry} {w : Wallet}
    (h : s.wallets.find? e.walletId = some w)
    : totalBalance (s.post e) = totalBalance s + (e.balanceAfter.toRat - w.balance.toRat) := by
  unfold totalBalance Store.post
  rw [Table.sum_update _ h]

theorem totalBalance_setStatus {s : Store} {id : WalletId} {status : WalletStatus} {w : Wallet}
    (h : s.wallets.find? id = some w)
    : totalBalance (s.setStatus id status) = totalBalance s := by
  unfold totalBalance Store.setStatus
  rw [Table.sum_update _ h, sub_self, add_zero]

theorem totalBalance_addWallet {s : Store} {w : Wallet} (h : s.wallets.find? w.id = none)
    (hbalance : w.balance = 0)
    : totalBalance (s.addWallet w) = totalBalance s := by
  unfold totalBalance Store.addWallet
  rw [Table.rows_insert h]
  simp [hbalance]

@[simp]
theorem volume_setStatus (s : Store) (id : WalletId) (status : WalletStatus)
    : volume (s.setStatus id status) = volume s := rfl

@[simp]
theorem volume_post (s : Store) (e : LedgerEntry) : volume (s.post e) = volume s := rfl

@[simp]
theorem totalBalance_addTransaction (s : Store) (t : Transaction)
    : totalBalance (s.addTransaction t) = totalBalance s := rfl

theorem volume_addTransaction {s : Store} {t : Transaction} (h : s.transactions.find? t.id = none)
    (type : TransactionType)
    : volume (s.addTransaction t) type =
      volume s type + if t.type = type then t.amount.toRat else 0 := by
  unfold volume Store.addTransaction
  rw [Table.rows_insert h, List.filter_append]
  split <;> simp [*]

theorem balanced_post_iff {s : Store} {t : Transaction} {entryType : LedgerEntryType} {w : Wallet}
    {amount : ℚ} {e : LedgerEntry} (hs : Balanced s) (hfresh : s.transactions.find? t.id = none)
    (ht : FixedPoint.ofRat? 18 2 amount = some t.amount)
    (he : Posted s t entryType w amount e)
    (htype : t.type = .DEPOSIT ∧ entryType = .CREDIT ∨ t.type = .WITHDRAW ∧ entryType = .DEBIT)
    : Balanced ((s.addTransaction t).post e) ↔
      RoundsWithAmount w.balance.toRat (entryType.signed amount) := by
  have hvolume := volume_addTransaction hfresh
  have htotal := totalBalance_post (s := s.addTransaction t) he.wallet_eq
  have hchain := (he.moved ht).chain_iff
  unfold Movement.signed LedgerEntry.signed at hchain
  rw [he.entryType_eq, he.amount_eq] at hchain
  unfold Balanced at hs ⊢
  rw [← hchain, htotal, totalBalance_addTransaction, volume_post, hvolume, hvolume]
  rcases htype with ⟨htype, rfl⟩ | ⟨htype, rfl⟩
  all_goals
    simp only [htype, LedgerEntryType.signed, ↓reduceIte, reduceCtorEq]
    constructor <;> intro h <;> linarith

theorem unscaled_pos_iff {amount : ℚ} {x : Money} (h : FixedPoint.ofRat? 18 2 amount = some x)
    : 0 < x.toRat ↔ 1 / 200 ≤ amount := by
  have hround := FixedPoint.ofRat?_eq_some_iff.mp h
  norm_num at hround
  have hneg := halfAway_neg_iff (q := -(amount * 100))
  rw [halfAway_neg, hround] at hneg
  rw [FixedPoint.toRat_pos_iff]
  constructor
  . intro hpos
    have := hneg.mp (by omega)
    linarith
  . intro hle
    have := hneg.mpr (by linarith)
    omega

theorem transfer_conserves_iff {s : Store} {r r' : WalletId} {a : Binary64} {u : UserId}
    {d : Option String} {g : Generated} {reply : Reply} {s' : Store} (hs : Balanced s)
    (h : Effect s (.transfer r r' a u d g) reply s')
    : Balanced s' ∧ (∃ t, Transferred s r r' t s') ↔
      (∀ m ∈ (Call.transfer r r' a u d g).movements, ∀ w, s.wallets.find? m.walletId = some w →
          RoundsWithAmount w.balance.toRat m.signed)
        ∧ 1 / 200 ≤ a.toDecimal := by
  have hunmoved : ∀ id, (∀ m ∈ (Call.transfer r r' a u d g).movements, m.walletId ≠ id) →
      Unmoved s id s' := fun _ => h.unmoved
  cases h with
  | status hc _ => cases hc
  | @transfer _ _ _ _ _ _ t e e' w w' hne hpos hfunds ht hw hw' he he' hid =>
    subst hw hw'
    have hmoved := Posted.moved_pair ht.amount_eq he he' hne hid
    have hchain := hmoved.1.chain_iff
    have hchain' := hmoved.2.chain_iff
    unfold LedgerEntry.signed at hchain hchain'
    rw [he.entryType_eq, he.amount_eq] at hchain
    rw [he'.entryType_eq, he'.amount_eq] at hchain'
    simp only [LedgerEntryType.signed] at hchain hchain'
    have hrows : (((s.addTransaction t).post e).post e').transactions.rows =
        s.transactions.rows ++ [t] :=
      Table.rows_insert ht.fresh
    simp only [Call.movements, List.forall_mem_cons, List.not_mem_nil, false_implies,
      implies_true, and_true, he.wallet_eq, he'.wallet_eq, Option.some.injEq, forall_eq']
    rw [← hchain, ← hchain', ← unscaled_pos_iff ht.amount_eq]
    constructor
    . rintro ⟨_, t', hrecorded, ⟨v, b, hv, hb, hsender⟩, ⟨v', b', hv', hb', hreceiver⟩, hpositive, _⟩
      have : t' = t := by
        rw [hrows] at hrecorded
        simpa [eq_comm] using hrecorded
      subst this
      cases hv.symm.trans he.wallet_eq
      cases hv'.symm.trans he'.wallet_eq
      have heq := hb.symm.trans hmoved.1.find?_eq
      have heq' := hb'.symm.trans hmoved.2.find?_eq
      simp only [Option.some.injEq, Wallet.mk.injEq, true_and, and_true] at heq heq'
      rw [← heq, ← heq']
      exact ⟨⟨by linarith, by linarith⟩, hpositive⟩
    . rintro ⟨⟨hsender, hreceiver⟩, hpositive⟩
      constructor
      . have hfind : ((s.addTransaction t).post e).wallets.find? e'.walletId = some w' := by
          rw [find?_post]
          simp [hne, he'.wallet_eq]
        have htotal := totalBalance_post (s := s.addTransaction t) he.wallet_eq
        have htotal' := totalBalance_post hfind
        have hvolume := volume_addTransaction ht.fresh
        unfold Balanced at hs ⊢
        rw [htotal', htotal, totalBalance_addTransaction, volume_post, volume_post, hvolume, hvolume]
        simp only [ht.type_eq, ↓reduceIte, reduceCtorEq, add_zero]
        linarith
      . refine ⟨t, hrows, ⟨w, e.balanceAfter, he.wallet_eq, hmoved.1.find?_eq, by linarith⟩,
          ⟨w', e'.balanceAfter, he'.wallet_eq, hmoved.2.find?_eq, by linarith⟩, hpositive, ?_⟩
        intro id hid hid'
        apply (hunmoved id _).2
        intro m hm
        rcases List.mem_pair.mp hm with rfl | rfl
        . exact Ne.symm hid
        . exact Ne.symm hid'

theorem Effect.balanced_iff {s s' : Store} {c : Call} {reply : Reply} (hs : Balanced s)
    (h : Effect s c reply s') (hc : ∀ r r' a u d g, c ≠ .transfer r r' a u d g)
    : Balanced s' ↔
      ∀ m ∈ c.movements, ∀ w, s.wallets.find? m.walletId = some w →
        RoundsWithAmount w.balance.toRat m.signed := by
  cases h with
  | deposit hpos ht hw he =>
    subst hw
    rw [balanced_post_iff hs ht.fresh ht.amount_eq he (.inl ⟨ht.type_eq, rfl⟩)]
    simp [Call.movements, he.wallet_eq, Movement.signed]
  | withdraw hpos hfunds ht hw he =>
    subst hw
    rw [balanced_post_iff hs ht.fresh ht.amount_eq he (.inr ⟨ht.type_eq, rfl⟩)]
    simp [Call.movements, he.wallet_eq, Movement.signed]
  | transfer => exact absurd rfl (hc _ _ _ _ _ _)
  | processPayment hpos ht hw he hp =>
    subst hw
    apply (balanced_post_iff hs ht.fresh ht.amount_eq he (.inl ⟨ht.type_eq, rfl⟩)).trans
    simp [Call.movements, he.wallet_eq, Movement.signed]
  | status hc' hw =>
    unfold Balanced at hs ⊢
    rw [totalBalance_setStatus hw, movements_of_statusUpdate hc']
    simpa using hs

theorem conserves_step_iff (s : Store) (ev : Event) (hs : Balanced s)
    : Balanced (step s ev) ∧ TransfersConserve s ev ↔
      PostingsRound s ev ∧ TransfersMoveCents s ev := by
  have hstep := step_cases s ev
  unfold TransfersConserve TransfersMoveCents PostingsRound
  generalize step s ev = s' at *
  cases hstep with
  | rollback h => simp [h, hs]
  | wallet hop hcommits hfresh hbalance =>
    have hbalanced : Balanced (s.addWallet _) := (totalBalance_addWallet hfresh hbalance).trans hs
    simp [hop, Op.movements, hbalanced]
  | @call c _ _ hop hcommits h =>
    simp only [hop, hcommits, true_implies, Op.movements, Op.call.injEq]
    by_cases hc : ∃ r r' a u d g, c = .transfer r r' a u d g
    . rcases hc with ⟨r, r', a, u, d, g, rfl⟩
      have := transfer_conserves_iff hs h
      grind
    . have hc' : ∀ r r' a u d g, c ≠ .transfer r r' a u d g := by
        intro r r' a u d g heq
        exact hc ⟨r, r', a, u, d, g, heq⟩
      rw [h.balanced_iff hs hc']
      grind

theorem balanced_initial (users : Table User.id) : Balanced (.initial users) := by
  unfold Balanced totalBalance volume Store.initial
  simp

theorem money_conserved_iff (users : Table User.id) (es : List Event)
    : (∀ pre, pre <+: es → Balanced (Run.run step (.initial users) pre))
        ∧ (∀ pre ev, pre ++ [ev] <+: es → TransfersConserve (Run.run step (.initial users) pre) ev) ↔
      Run.Along step (fun s ev => PostingsRound s ev ∧ TransfersMoveCents s ev) (.initial users)
        es := by
  apply Run.forall_prefix_and_iff_along (I := fun _ => True)
  . intro s ev _
    trivial
  . intro s ev _ hs
    exact conserves_step_iff s ev hs
  . trivial
  . exact balanced_initial users

def halfCentTransfer : List Event :=
  sampleDeposit ++ [
    ⟨.createWallet "bob" none "b" "2", true⟩,
    ⟨.call (.transfer "a" "b" (.ofRat (1 / 200) Binary64.abs_round_half_cent_lt) "alice" none
      (sampleGenerated "2")), true⟩
  ]

theorem half_cent_transfer_creates_money
    : ¬Balanced (Run.run step (.initial sampleUsers) halfCentTransfer) := by
  unfold Balanced
  decide +kernel

end Banking
