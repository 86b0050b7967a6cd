import BankingApi.Payment.Verdicts

/-!
This module contains the currencies of wallets, and the transfers that leave one for another.
-/

namespace Banking

def currency? (s : Store) (id : WalletId) : Option String :=
  (s.wallets.find? id).map Wallet.currency

-- what a transaction posts to wallets held in `c`
def amountsIn (s : Store) (t : Transaction) (entryType : LedgerEntryType) (c : String)
    : List Money :=
  ((entriesOf s t).filter
    (fun e => e.entryType = entryType ∧ currency? s e.walletId = some c)).map LedgerEntry.amount

def KeepsCurrencies (s : Store) : Prop :=
  ∀ t ∈ s.transactions.rows, t.type = .TRANSFER →
    ∀ c, amountsIn s t .CREDIT c = amountsIn s t .DEBIT c

def SameCurrency (s : Store) (t : Transaction) : Prop :=
  t.type = .TRANSFER → ∀ r r', t.senderWalletId = some r → t.receiverWalletId = some r' →
    currency? s r = currency? s r'

theorem keepsCurrencies_iff {s : Store} (h : Corresponds s)
    : KeepsCurrencies s ↔ ∀ t ∈ s.transactions.rows, SameCurrency s t := by
  unfold KeepsCurrencies SameCurrency
  apply forall₃_congr
  intro t ht htype
  rcases h.entries t ht with ⟨hentries, hamounts⟩
  rw [HasEntries, htype] at hentries
  rcases hentries with ⟨e, e', hes, hdebit, hsender, hcredit, hreceiver, _⟩
  have hamount := hamounts e (by simp [hes])
  have hamount' := hamounts e' (by simp [hes])
  have hcredits : ∀ c, amountsIn s t .CREDIT c =
      if currency? s e'.walletId = some c then [t.amount] else [] := by
    intro c
    unfold amountsIn
    rw [hes]
    split <;> simp [*]
  have hdebits : ∀ c, amountsIn s t .DEBIT c =
      if currency? s e.walletId = some c then [t.amount] else [] := by
    intro c
    unfold amountsIn
    rw [hes]
    split <;> simp [*]
  have hif : ∀ (P Q : Prop) [Decidable P] [Decidable Q],
      (if P then [t.amount] else []) = (if Q then [t.amount] else []) ↔ (P ↔ Q) := by
    intro P Q _ _
    by_cases hP : P <;> by_cases hQ : Q <;> simp [hP, hQ]
  simp only [hcredits, hdebits, hif, hsender, hreceiver, Option.some.injEq]
  constructor
  . rintro h r r' rfl rfl
    apply Option.ext
    intro c
    exact (h c).symm
  . intro h c
    rw [h _ _ rfl rfl]

theorem sameCurrency_append {s s' : Store} {t : Transaction}
    (hrows : s'.transactions.rows = s.transactions.rows ++ [t])
    (hcurrency : ∀ id, currency? s' id = currency? s id)
    (hs : ∀ t ∈ s.transactions.rows, SameCurrency s t)
    : (∀ t ∈ s'.transactions.rows, SameCurrency s' t) ↔ SameCurrency s t := by
  have hsame : ∀ t, SameCurrency s' t ↔ SameCurrency s t := by
    intro t
    unfold SameCurrency
    simp only [hcurrency]
  simp only [hsame, hrows, List.mem_append, List.mem_singleton]
  constructor
  . intro h
    exact h t (.inr rfl)
  . rintro h t' (ht' | rfl)
    . exact hs t' ht'
    . exact h

theorem Effect.currency?_eq {s s' : Store} {c : Call} {reply : Reply} (h : Effect s c reply s')
    (id : WalletId)
    : currency? s' id = currency? s id :=
  h.column_eq (fun _ _ => rfl) (.inr (fun _ _ => rfl)) id

theorem Effect.sameCurrency_iff {s s' : Store} {c : Call} {reply : Reply}
    (h : Effect s c reply s') (hs : ∀ t ∈ s.transactions.rows, SameCurrency s t)
    : (∀ t ∈ s'.transactions.rows, SameCurrency s' t) ↔
      ∀ r r' a u d g, c = .transfer r r' a u d g → currency? s r = currency? s r' := by
  have hcurrency := h.currency?_eq
  cases h with
  | deposit hpos ht hw he =>
    rw [sameCurrency_append (Table.rows_insert ht.fresh) hcurrency hs]
    simp [SameCurrency, ht.type_eq]
  | withdraw hpos hfunds ht hw he =>
    rw [sameCurrency_append (Table.rows_insert ht.fresh) hcurrency hs]
    simp [SameCurrency, ht.type_eq]
  | transfer hne hpos hfunds ht =>
    rw [sameCurrency_append (Table.rows_insert ht.fresh) hcurrency hs]
    unfold SameCurrency
    rw [ht.sender_eq, ht.receiver_eq]
    constructor
    . rintro h r r' _ _ _ _ ⟨⟩
      exact h ht.type_eq _ _ rfl rfl
    . rintro h _ _ _ ⟨⟩ ⟨⟩
      exact h _ _ _ _ _ _ rfl
  | processPayment hpos ht hw he hp =>
    rw [sameCurrency_append (Table.rows_insert ht.fresh) hcurrency hs]
    simp [SameCurrency, ht.type_eq]
  | @status _ _ _ _ hc =>
    constructor
    . rintro _ _ _ _ _ _ _ rfl
      cases hc
    . intro _ t ht htype r r' hr hr'
      rw [hcurrency, hcurrency]
      exact hs t ht htype r r' hr hr'

theorem step_createWallet {s : Store} {ev : Event} {userId : UserId} {currency : Option String}
    {id : WalletId} {walletNumber : String}
    (hop : ev.op = .createWallet userId currency id walletNumber)
    : step s ev = s
        ∨ ∃ w, s.wallets.find? id = none ∧ w.id = id ∧ w.currency = currency.getD "INR"
          ∧ step s ev = s.addWallet w := by
  unfold step
  rw [hop, Op.exec]
  cases hcreate : WalletService.createWallet userId currency id walletNumber s with
  | error e => exact .inl rfl
  | ok res =>
    rcases createWallet_eq_ok hcreate with ⟨hfresh, hw, heq⟩
    dsimp only [Except.map]
    split
    . exact .inr ⟨res.1, hfresh, by rw [hw], by rw [hw], heq⟩
    . exact .inl rfl

theorem currency?_addWallet {s : Store} {w : Wallet} (h : s.wallets.find? w.id = none)
    (id : WalletId)
    : currency? (s.addWallet w) id = if w.id = id then some w.currency else currency? s id := by
  unfold currency? Store.addWallet
  split
  . next heq =>
    subst heq
    rw [Table.find?_insert_self h, Option.map_some]
  . next hne => rw [Table.find?_insert_of_ne hne]

theorem currency?_step (s : Store) (ev : Event) (id : WalletId)
    : currency? (step s ev) id = currency? s id
        ∨ currency? s id = none
          ∧ ∃ userId currency walletNumber, ev.op = .createWallet userId currency id walletNumber
            ∧ currency? (step s ev) id = some (currency.getD "INR") := by
  cases hop : ev.op with
  | createWallet userId currency id' walletNumber =>
    rcases step_createWallet hop with hsame | ⟨w, hfresh, rfl, hcurrency, heq⟩
    . exact .inl (by rw [hsame])
    . rw [heq, currency?_addWallet hfresh]
      by_cases hid : w.id = id
      . subst hid
        right
        exact ⟨by simp [currency?, hfresh], userId, currency, walletNumber, rfl, by simp [hcurrency]⟩
      . exact .inl (if_neg hid)
  | call c =>
    left
    have hstep := step_cases s ev
    generalize step s ev = s' at *
    cases hstep with
    | rollback => rfl
    | wallet hop' => cases hop.symm.trans hop'
    | call _ _ h => exact h.currency?_eq id

def Placed (s : Store) : Prop :=
  ∀ t ∈ s.transactions.rows, ∀ r, t.senderWalletId = some r ∨ t.receiverWalletId = some r →
    (currency? s r).isSome

theorem placed_append {s s' : Store} {t : Transaction}
    (hrows : s'.transactions.rows = s.transactions.rows ++ [t])
    (hcurrency : ∀ id, currency? s' id = currency? s id) (hs : Placed s)
    (ht : ∀ r, t.senderWalletId = some r ∨ t.receiverWalletId = some r →
      ∃ w, s.wallets.find? r = some w)
    : Placed s' := by
  intro t' ht' r hr
  rw [hcurrency]
  rw [hrows, List.mem_append, List.mem_singleton] at ht'
  rcases ht' with ht' | rfl
  . exact hs t' ht' r hr
  . rcases ht r hr with ⟨w, hw⟩
    simp [currency?, hw]

theorem Effect.placed {s s' : Store} {c : Call} {reply : Reply} (h : Effect s c reply s')
    (hs : Placed s)
    : Placed s' := by
  have hcurrency := h.currency?_eq
  cases h with
  | deposit hpos ht hw he =>
    subst hw
    apply placed_append (Table.rows_insert ht.fresh) hcurrency hs
    rw [ht.sender_eq, ht.receiver_eq]
    rintro r (hr | hr) <;> cases hr
    exact ⟨_, he.wallet_eq⟩
  | withdraw hpos hfunds ht hw he =>
    subst hw
    apply placed_append (Table.rows_insert ht.fresh) hcurrency hs
    rw [ht.sender_eq, ht.receiver_eq]
    rintro r (hr | hr) <;> cases hr
    exact ⟨_, he.wallet_eq⟩
  | transfer hne hpos hfunds ht hw hw' he he' =>
    subst hw hw'
    apply placed_append (Table.rows_insert ht.fresh) hcurrency hs
    rw [ht.sender_eq, ht.receiver_eq]
    rintro r (hr | hr) <;> cases hr
    . exact ⟨_, he.wallet_eq⟩
    . exact ⟨_, he'.wallet_eq⟩
  | processPayment hpos ht hw he hp =>
    subst hw
    apply placed_append (Table.rows_insert ht.fresh) hcurrency hs
    rw [ht.sender_eq, ht.receiver_eq]
    rintro r (hr | hr) <;> cases hr
    exact ⟨_, he.wallet_eq⟩
  | status =>
    intro t ht r hr
    rw [hcurrency]
    exact hs t ht r hr

theorem Placed.currency?_addWallet {s : Store} (hs : Placed s) {w : Wallet}
    (h : s.wallets.find? w.id = none) {t : Transaction} (ht : t ∈ s.transactions.rows)
    {r : WalletId} (hr : t.senderWalletId = some r ∨ t.receiverWalletId = some r)
    : currency? (s.addWallet w) r = currency? s r := by
  rw [Banking.currency?_addWallet h, if_neg]
  rintro rfl
  simpa [currency?, h] using hs t ht w.id hr

theorem placed_addWallet {s : Store} {w : Wallet} (h : s.wallets.find? w.id = none)
    (hs : Placed s)
    : Placed (s.addWallet w) := by
  intro t ht r hr
  rw [hs.currency?_addWallet h ht hr]
  exact hs t ht r hr

theorem sameCurrency_step_iff (s : Store) (ev : Event) (hplaced : Placed s)
    (hs : ∀ t ∈ s.transactions.rows, SameCurrency s t)
    : (∀ t ∈ (step s ev).transactions.rows, SameCurrency (step s ev) t) ↔
      (ev.Commits s → ∀ r r' a u d g, ev.op = .call (.transfer r r' a u d g) →
        currency? s r = currency? s r') := by
  have hstep := step_cases s ev
  generalize step s ev = s' at *
  cases hstep with
  | rollback h => exact iff_of_true hs (fun hc => absurd hc h)
  | wallet hop _ hfresh =>
    apply iff_of_true
    . intro t ht htype r r' hr hr'
      rw [hplaced.currency?_addWallet hfresh ht (.inl hr),
        hplaced.currency?_addWallet hfresh ht (.inr hr')]
      exact hs t ht htype r r' hr hr'
    . rintro _ _ _ _ _ _ _ hop'
      cases hop.symm.trans hop'
  | call hop hcommits h =>
    rw [h.sameCurrency_iff hs]
    simp [hop, hcommits]

namespace Settlement

variable {ι κ : Type} [DecidableEq ι] [DecidableEq κ] {requests : ι → PaymentRequest}
  {verifies : κ → VerifyRequest} {users : Table User.id}

-- In the run the wallet has been created, and with the currency that is asked for.
def CreatedIn (requests : ι → PaymentRequest) (verifies : κ → VerifyRequest)
    (users : Table User.id) (es : List (SettlementEvent ι κ)) (id : WalletId) (c : String)
    : Prop :=
  ∃ pre userId currency walletNumber commits,
    pre ++ [.payment (.database ⟨.createWallet userId currency id walletNumber, commits⟩)] <+: es
      ∧ currency? (Run.run (step requests verifies) (initial users) pre).store id = none
      ∧ c = currency.getD "INR"

/--
Both wallets of a transfer that commits are held in the same currency.
-/
def NoExchange (m : Settlement ι κ) (ev : SettlementEvent ι κ) : Prop :=
  ∀ e r r' a u d g, ev = .payment (.database e) → e.Commits m.store →
    e.op = .call (.transfer r r' a u d g) → currency? m.store r = currency? m.store r'

theorem currency?_step (m : Settlement ι κ) (ev : SettlementEvent ι κ) (id : WalletId)
    : currency? (m.step requests verifies ev).store id = currency? m.store id
        ∨ currency? m.store id = none
          ∧ ∃ userId currency walletNumber commits,
            ev = .payment (.database ⟨.createWallet userId currency id walletNumber, commits⟩)
              ∧ currency? (m.step requests verifies ev).store id = some (currency.getD "INR") := by
  have hstep : Changed requests verifies m ev (m.step requests verifies ev).store := step_cases ev
  generalize (m.step requests verifies ev).store = s' at *
  cases hstep with
  | kept => exact .inl rfl
  | status => exact .inl rfl
  | response => exact .inl rfl
  | @payment ev' hev =>
    subst hev
    have hpayment := PaymentSystem.step_cases requests m.payments ev'
    generalize m.payments.step requests ev' = m' at *
    cases hpayment with
    | kept h =>
      left
      rw [h.store]
      rfl
    | commit _ h =>
      rcases effect_of_block h.run with ⟨_, _, _, _, _, _, heff⟩
      exact .inl (heff.currency?_eq id)
    | @database e hev =>
      subst hev
      rcases e with ⟨op, commits⟩
      rcases Banking.currency?_step m.store ⟨op, commits⟩ id
        with hsame | ⟨hnone, userId, currency, walletNumber, hop, hsome⟩
      . exact .inl hsame
      . dsimp only at hop
        subst hop
        exact .inr ⟨hnone, userId, currency, walletNumber, commits, rfl, hsome⟩

structure Inv (m : Settlement ι κ) : Prop where
  credited : Credited m.store
  placed : Placed m.store

theorem inv_step (m : Settlement ι κ) (ev : SettlementEvent ι κ) (h : Inv m)
    : Inv (m.step requests verifies ev) where
  credited := credited_step ev h.credited
  placed := by
    have hstep : Changed requests verifies m ev (m.step requests verifies ev).store := step_cases ev
    generalize (m.step requests verifies ev).store = s' at *
    cases hstep with
    | kept => exact h.placed
    | status => exact h.placed
    | response => exact h.placed
    | payment =>
      apply PaymentSystem.step_relates (R := fun s s' => Placed s → Placed s')
      . exact fun _ h => h
      . exact fun _ _ hfresh h => placed_addWallet hfresh h
      . exact fun _ _ _ _ heff h => heff.placed h
      . exact h.placed

theorem keepsCurrencies_step_iff (m : Settlement ι κ) (ev : SettlementEvent ι κ) (h : Inv m)
    (hm : KeepsCurrencies m.store)
    : KeepsCurrencies (m.step requests verifies ev).store ↔ NoExchange m ev := by
  rw [keepsCurrencies_iff h.credited.corresponds] at hm
  rw [keepsCurrencies_iff (inv_step m ev h).credited.corresponds]
  by_cases hdatabase : ∃ e, ev = .payment (.database e)
  . rcases hdatabase with ⟨e, rfl⟩
    apply (sameCurrency_step_iff m.store e h.placed hm).trans
    constructor
    . rintro h _ r r' a u d g ⟨⟩ hc hop
      exact h hc r r' a u d g hop
    . intro h hc r r' a u d g hop
      exact h e r r' a u d g rfl hc hop
  . apply iff_of_true _ (fun e _ _ _ _ _ _ hev => absurd ⟨e, hev⟩ hdatabase)
    have hstep : Changed requests verifies m ev (m.step requests verifies ev).store := step_cases ev
    generalize (m.step requests verifies ev).store = s' at *
    cases hstep with
    | kept => exact hm
    | status => exact hm
    | response => exact hm
    | @payment ev' hev =>
      have hpayment := PaymentSystem.step_cases requests m.payments ev'
      generalize m.payments.step requests ev' = m' at *
      cases hpayment with
      | kept h' =>
        rw [h'.store]
        exact hm
      | commit _ h' =>
        rcases effect_of_block h'.run with ⟨_, _, _, _, _, _, heff⟩
        rw [heff.sameCurrency_iff hm]
        simp
      | database hev' => exact absurd ⟨_, hev.trans (congrArg _ hev')⟩ hdatabase

theorem createdIn_of_currency? {es : List (SettlementEvent ι κ)} {id : WalletId} {c : String}
    (h : currency? (Run.run (step requests verifies) (initial users) es).store id = some c)
    : CreatedIn requests verifies users es id c := by
  induction es using List.reverseRecOn with
  | nil => cases h
  | append_singleton es ev ih =>
    rw [Run.run_append_singleton] at h
    rcases @currency?_step ι κ _ _ requests verifies _ ev id
      with hsame | ⟨hnone, userId, currency, walletNumber, commits, rfl, hsome⟩
    . rw [hsame] at h
      rcases ih h with ⟨pre, userId, currency, walletNumber, commits, hpre, hrest⟩
      exact ⟨pre, userId, currency, walletNumber, commits, hpre.trans (List.prefix_append _ _), hrest⟩
    . rw [hsome, Option.some.injEq] at h
      exact ⟨es, userId, currency, walletNumber, commits, List.prefix_rfl, hnone, h.symm⟩

theorem currency?_run {m : Settlement ι κ} {id : WalletId} {c : String}
    (es : List (SettlementEvent ι κ)) (h : currency? m.store id = some c)
    : currency? (Run.run (step requests verifies) m es).store id = some c := by
  refine Run.run_invariant (I := fun m : Settlement ι κ => currency? m.store id = some c) ?_ es h
  intro m ev h
  rcases @currency?_step ι κ _ _ requests verifies m ev id with hsame | ⟨hnone, _⟩
  . exact hsame.trans h
  . cases hnone.symm.trans h

omit [DecidableEq ι] [DecidableEq κ] in
theorem inv_initial (users : Table User.id) : Inv (initial users : Settlement ι κ) where
  credited := credited_initial users
  placed := by
    intro t ht
    cases ht

/--
In every run a wallet has the currency that it was created with, for good; and what transfers credit in
a currency is what they debit in it exactly as long as no transfer between two currencies commits.
-/
theorem currencies_kept_iff (requests : ι → PaymentRequest) (verifies : κ → VerifyRequest)
    (users : Table User.id) (es : List (SettlementEvent ι κ))
    : (∀ pre id c, pre <+: es →
          currency? (Run.run (step requests verifies) (initial users) pre).store id = some c →
          CreatedIn requests verifies users pre id c
            ∧ ∀ pre', pre <+: pre' →
              currency? (Run.run (step requests verifies) (initial users) pre').store id = some c)
        ∧ ((∀ pre, pre <+: es →
            KeepsCurrencies (Run.run (step requests verifies) (initial users) pre).store) ↔
          Run.Along (step requests verifies) NoExchange (initial users) es) := by
  constructor
  . rintro pre id c _ h
    refine ⟨createdIn_of_currency? h, ?_⟩
    rintro _ ⟨mid, rfl⟩
    rw [Run.run_append]
    exact currency?_run mid h
  . apply Run.forall_prefix_iff_along inv_step keepsCurrencies_step_iff es (inv_initial users)
    intro t ht
    cases ht

-- One rupee leaves as one dollar.
def exchange : List Event :=
  sampleDeposit ++ [
    ⟨.createWallet "bob" (some "USD") "b" "2", true⟩,
    ⟨.call (.transfer "a" "b" (.ofRat 1 Binary64.abs_round_one_lt) "alice" none
      (sampleGenerated "2")), true⟩
  ]

def exchanged : Settlement Unit Unit :=
  Run.run (step (fun _ => samplePayment "alice" "3") (fun _ => ⟨none, none⟩)) (initial sampleUsers)
    (exchange.map (.payment ∘ .database))

theorem transfer_exchanges_currency : ¬KeepsCurrencies exchanged.store := by
  have hcredit : ∃ t ∈ exchanged.store.transactions.rows, t.type = .TRANSFER
      ∧ amountsIn exchanged.store t .CREDIT "USD" ≠ amountsIn exchanged.store t .DEBIT "USD" := by
    decide +kernel
  rcases hcredit with ⟨t, ht, htype, hne⟩
  intro h
  exact hne (h t ht htype "USD")

end Settlement

end Banking
