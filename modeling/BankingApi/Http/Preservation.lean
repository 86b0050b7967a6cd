import BankingApi.Http.Evolution

/-!
This module contains what is never lost or rewritten.
-/

namespace Banking

open Http LedgerRepository

-- The columns that nothing writes after the row is there.
def User.fixed (u : User)
    : UserId × String × String × String × Option String × Bool :=
  (u.id, u.customerId, u.fullName, u.email, u.phone, u.isVerified)

def Wallet.fixed (w : Wallet) : WalletId × String × String × UserId :=
  (w.id, w.walletNumber, w.currency, w.userId)

def Payment.fixed (p : Payment)
    : String × String × TransactionId × Money × PaymentMethod × IdempotencyKey × ℕ :=
  (p.id, p.paymentRef, p.transactionId, p.amount, p.method, p.idempotencyKey, p.createdAt)

/--
Rows are added at the end, none is deleted, and of those that are there only the columns that are not
fixed change.
-/
structure Preserved (s s' : Store) : Prop where
  users : s.users.rows.map User.fixed <+: s'.users.rows.map User.fixed
  wallets : s.wallets.rows.map Wallet.fixed <+: s'.wallets.rows.map Wallet.fixed
  transactions : s.transactions.rows <+: s'.transactions.rows
  ledgerEntries : s.ledgerEntries.rows <+: s'.ledgerEntries.rows
  payments : s.payments.rows.map Payment.fixed <+: s'.payments.rows.map Payment.fixed

theorem Preserved.refl (s : Store) : Preserved s s :=
  ⟨List.prefix_rfl, List.prefix_rfl, List.prefix_rfl, List.prefix_rfl, List.prefix_rfl⟩

theorem Preserved.trans {s s' s'' : Store} (h : Preserved s s') (h' : Preserved s' s'')
    : Preserved s s'' where
  users := h.users.trans h'.users
  wallets := h.wallets.trans h'.wallets
  transactions := h.transactions.trans h'.transactions
  ledgerEntries := h.ledgerEntries.trans h'.ledgerEntries
  payments := h.payments.trans h'.payments

theorem Http.UserChange.fixed_apply (change : UserChange) (u : User)
    : (change.apply u).fixed = u.fixed := by
  cases change <;> rfl

theorem map_fixed_post (s : Store) (e : LedgerEntry)
    : (s.post e).wallets.rows.map Wallet.fixed = s.wallets.rows.map Wallet.fixed := by
  rw [Store.post, Table.map_update]
  intro w
  rfl

theorem map_fixed_setStatus (s : Store) (id : WalletId) (status : WalletStatus)
    : (s.setStatus id status).wallets.rows.map Wallet.fixed = s.wallets.rows.map Wallet.fixed := by
  rw [Store.setStatus, Table.map_update]
  intro w
  rfl

theorem Effect.map_fixed {s s' : Store} {c : Call} {reply : Reply} (h : Effect s c reply s')
    : s'.wallets.rows.map Wallet.fixed = s.wallets.rows.map Wallet.fixed := by
  cases h with
  | deposit => apply map_fixed_post
  | withdraw => apply map_fixed_post
  | transfer =>
    rw [map_fixed_post, map_fixed_post]
    rfl
  | processPayment => apply map_fixed_post
  | status => apply map_fixed_setStatus

theorem Effect.preserved {s s' : Store} {c : Call} {reply : Reply} (h : Effect s c reply s')
    : Preserved s s' where
  users := by rw [h.users_eq]
  wallets := by rw [h.map_fixed]
  transactions := h.grows.transactions
  ledgerEntries := h.grows.ledgerEntries
  payments := h.grows.payments.map Payment.fixed

theorem Evolved.preserved {s s' : Store} (h : Evolved s s') : Preserved s s' := by
  have hsame := Preserved.refl s
  cases h with
  | nothing => exact hsame
  | createUser hfresh =>
    refine { hsame with users := ?_ }
    change _ <+: (s.users.insert _).rows.map _
    rw [Table.rows_insert hfresh, List.map_append]
    apply List.prefix_append
  | @updateUser id change =>
    refine { hsame with users := ?_ }
    change _ <+: (s.users.update id change.apply change.id_apply).rows.map _
    rw [Table.map_update _ _ change.fixed_apply]
  | createWallet hfresh =>
    refine { hsame with wallets := ?_ }
    change _ <+: (s.wallets.insert _).rows.map _
    rw [Table.rows_insert hfresh, List.map_append]
    apply List.prefix_append
  | walletStatus =>
    refine { hsame with wallets := ?_ }
    rw [map_fixed_setStatus]
  | @payment id f hf hverdict =>
    refine { hsame with payments := ?_ }
    change _ <+: (s.payments.update id f hf).rows.map _
    rw [Table.map_update]
    intro p
    rw [hverdict p]
    rfl
  | call h => exact h.preserved

theorem Evolves.preserved {s s' : Store} (h : Evolves s s') : Preserved s s' :=
  h.preserves .refl (fun _ _ _ h h' => h.trans h') Evolved.preserved

/--
Nothing is ever deleted and no fixed column rewritten, by operations one after another, by calls that run
side by side nor by requests that are served side by side.
-/
theorem rows_preserved
    : (∀ s s', Later s s' → Preserved s s')
        ∧ (∀ {ι : Type} [DecidableEq ι] (calls : ι → Call) (s : Store)
          (pre es : List (Locking.Event Resource ι)), pre <+: es →
          Preserved (Run.run (interleave calls) (.init s) pre).store
            (Run.run (interleave calls) (.init s) es).store)
        ∧ ∀ {ι : Type} [DecidableEq ι] (P : Platform) (requests : ι → Request) (server : Server)
          (pre es : List (SessionEvent ι)), pre <+: es →
          Preserved (serveAll P requests server pre).store.store
            (serveAll P requests server es).store.store := by
  refine ⟨?_, ?_, ?_⟩
  . intro s s' h
    exact h.evolves.preserved
  . intro ι _ calls s pre es hle
    exact (evolves_interleave calls s hle).preserved
  . intro ι _ P requests server pre es hle
    exact (evolves_serveAll hle).preserved

def storeAfterDeposit : Store :=
  Run.run step (.initial sampleUsers) sampleDeposit

def sampleWithdrawals : List Event :=
  [⟨.call (.withdraw "a" (.ofRat 1 Binary64.abs_round_one_lt) "alice" none (sampleGenerated "2")), true⟩]

def sampleFreeze : List (Locking.Event Resource Unit) :=
  [
    .start (),
    .acquire () (.walletKey "a", .shared),
    .acquire () (.wallet "a", .exclusive),
    .exec (),
    .finish ()
  ]

def serverAfterDeposit : Server :=
  (sampleServer ["alice"] (List.nodup_singleton _)).setStore storeAfterDeposit

theorem rows_preserved_after_deposit
    : Preserved storeAfterDeposit (Run.run step storeAfterDeposit sampleWithdrawals)
        ∧ Preserved
          (Run.run (interleave (fun _ => .freezeWallet "a")) (.init storeAfterDeposit)
            (sampleFreeze.take 2)).store
          (Run.run (interleave (fun _ => .freezeWallet "a")) (.init storeAfterDeposit)
            sampleFreeze).store
        ∧ Preserved
          (serveAll samplePlatform (fun _ : Unit => sampleRequest .closeWallet "alice" none)
            serverAfterDeposit [.exec ()]).store.store
          (serveAll samplePlatform (fun _ : Unit => sampleRequest .closeWallet "alice" none)
            serverAfterDeposit (List.replicate 4 (.exec ()))).store.store := by
  refine ⟨?_, ?_, ?_⟩
  . exact rows_preserved.1 _ _ (later_run _ _)
  . exact rows_preserved.2.1 _ _ _ _ (List.take_prefix _ _)
  . exact rows_preserved.2.2 _ _ _ _ _ ⟨List.replicate 3 (.exec ()), rfl⟩

theorem isSome_find?_iff {α κ : Type} {key : α → κ} [DecidableEq κ] {t : Table key} {k : κ}
    : (t.find? k).isSome ↔ k ∈ t.rows.map key := by
  rw [← not_iff_not, Option.not_isSome_iff_eq_none]
  exact Table.find?_eq_none_iff

theorem Preserved.hasWallet {s s' : Store} (h : Preserved s s') {id : WalletId}
    (hid : (s.wallets.find? id).isSome)
    : (s'.wallets.find? id).isSome := by
  rw [isSome_find?_iff] at *
  have hids := h.wallets.map Prod.fst
  rw [List.map_map, List.map_map] at hids
  exact hids.subset hid

section Calls

variable {s s' : Store} {c : Call} {reply : Reply}

theorem Effect.idempotencyKeys (h : Effect s c reply s')
    (hs : (s.payments.rows.map Payment.idempotencyKey).Nodup)
    : (s'.payments.rows.map Payment.idempotencyKey).Nodup := by
  cases h with
  | processPayment _ _ _ _ hp =>
    apply Table.nodup_map_insert hp.fresh _ hs
    rw [hp.idempotencyKey_eq]
    exact hp.freshKey
  | _ => exact hs

theorem Effect.wallet_of_entry (h : Effect s c reply s') {e : LedgerEntry}
    (he : e ∈ s'.ledgerEntries.rows)
    : e ∈ s.ledgerEntries.rows ∨ (s.wallets.find? e.walletId).isSome := by
  by_cases hold : e ∈ s.ledgerEntries.rows
  . exact .inl hold
  . by_cases hid : ∃ m ∈ c.movements, m.walletId = e.walletId
    . rcases hid with ⟨m, hm, hid⟩
      rcases h.moved hm with ⟨w, _, hmoved⟩
      right
      rw [← hid, hmoved.wallet_eq]
      rfl
    . have hsame := h.unmoved (fun m hm heq => hid ⟨m, hm, heq⟩)
      have hmem : e ∈ entries s' e.walletId := mem_entries_iff.mpr ⟨he, rfl⟩
      rw [hsame.1] at hmem
      exact .inl (mem_entries_iff.mp hmem).1

end Calls

theorem Evolved.idempotencyKeys {s s' : Store} (h : Evolved s s')
    (hs : (s.payments.rows.map Payment.idempotencyKey).Nodup)
    : (s'.payments.rows.map Payment.idempotencyKey).Nodup := by
  cases h with
  | @payment id f hf hverdict =>
    have hkey : ∀ p, (f p).idempotencyKey = p.idempotencyKey := fun p => by rw [hverdict p]
    change ((s.payments.update id f hf).rows.map Payment.idempotencyKey).Nodup
    rw [Table.map_update _ _ hkey]
    exact hs
  | call h => exact h.idempotencyKeys hs
  | _ => exact hs

end Banking
