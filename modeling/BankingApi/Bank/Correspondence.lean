import BankingApi.Bank.Concurrency

/-!
This module contains the correspondence between transactions, ledger entries and payments.
-/

namespace Banking

def entriesOf (s : Store) (t : Transaction) : List LedgerEntry :=
  s.ledgerEntries.rows.filter (·.transactionId = t.id)

def HasEntries (t : Transaction) (es : List LedgerEntry) : Prop :=
  match t.type with
  | .DEPOSIT => ∃ e, es = [e] ∧ e.entryType = .CREDIT ∧ t.receiverWalletId = some e.walletId
  | .WITHDRAW => ∃ e, es = [e] ∧ e.entryType = .DEBIT ∧ t.senderWalletId = some e.walletId
  | .TRANSFER => ∃ e e', es = [e, e']
    ∧ e.entryType = .DEBIT ∧ t.senderWalletId = some e.walletId
    ∧ e'.entryType = .CREDIT ∧ t.receiverWalletId = some e'.walletId
    ∧ e.walletId ≠ e'.walletId

structure Corresponds (s : Store) : Prop where
  entries : ∀ t ∈ s.transactions.rows,
    HasEntries t (entriesOf s t) ∧ ∀ e ∈ entriesOf s t, e.amount = t.amount
  transaction : ∀ e ∈ s.ledgerEntries.rows, ∃! t, t ∈ s.transactions.rows ∧ t.id = e.transactionId
  settled : ∀ t ∈ s.transactions.rows, t.status ≠ .PENDING
  payment : ∀ p ∈ s.payments.rows, ∃! t, t ∈ s.transactions.rows
    ∧ t.id = p.transactionId ∧ t.type = .DEPOSIT ∧ t.amount = p.amount
  unshared : ∀ p ∈ s.payments.rows, ∀ p' ∈ s.payments.rows, p.transactionId = p'.transactionId →
    p = p'

structure Booked (s : Store) (t : Transaction) (es : List LedgerEntry) (ps : List Payment)
    (s' : Store)
    : Prop where
  transactions : s'.transactions.rows = s.transactions.rows ++ [t]
  ledgerEntries : s'.ledgerEntries.rows = s.ledgerEntries.rows ++ es
  payments : s'.payments.rows = s.payments.rows ++ ps
  fresh : s.transactions.find? t.id = none
  settled : t.status ≠ .PENDING
  entries : HasEntries t es
  ofTransaction : ∀ e ∈ es, e.transactionId = t.id ∧ e.amount = t.amount
  payment : ps = [] ∨ ∃ p, ps = [p] ∧ t.id = p.transactionId ∧ t.type = .DEPOSIT ∧ t.amount = p.amount

theorem Effect.booked {s s' : Store} {c : Call} {reply : Reply} (h : Effect s c reply s')
    : (∃ t es ps, Booked s t es ps s')
        ∨ s'.transactions = s.transactions ∧ s'.ledgerEntries = s.ledgerEntries
          ∧ s'.payments = s.payments := by
  cases h with
  | @deposit _ _ _ _ _ t e _ hpos ht hw he =>
    subst hw
    left
    refine ⟨t, [e], [], Table.rows_insert ht.fresh, Table.rows_insert he.fresh,
      (List.append_nil _).symm, ht.fresh, by simp [ht.status_eq], ?_, ?_, .inl rfl⟩
    . simp [HasEntries, ht.type_eq, he.entryType_eq, ht.receiver_eq]
    . simp [he.transactionId_eq, he.amount_eq]
  | @withdraw _ _ _ _ _ t e _ hpos hfunds ht hw he =>
    subst hw
    left
    refine ⟨t, [e], [], Table.rows_insert ht.fresh, Table.rows_insert he.fresh,
      (List.append_nil _).symm, ht.fresh, by simp [ht.status_eq], ?_, ?_, .inl rfl⟩
    . simp [HasEntries, ht.type_eq, he.entryType_eq, ht.sender_eq]
    . simp [he.transactionId_eq, he.amount_eq]
  | @transfer _ _ _ _ _ _ t e e' _ _ hne hpos hfunds ht hw hw' he he' hid =>
    subst hw hw'
    left
    refine ⟨t, [e, e'], [], Table.rows_insert ht.fresh, ?_, (List.append_nil _).symm, ht.fresh,
      by simp [ht.status_eq], ?_, ?_, .inl rfl⟩
    . rw [rows_post (he'.fresh_post hid), rows_post (by exact he.fresh), List.append_assoc]
      rfl
    . simp [HasEntries, ht.type_eq, he.entryType_eq, he'.entryType_eq, ht.sender_eq, ht.receiver_eq,
        hne]
    . simp [he.transactionId_eq, he.amount_eq, he'.transactionId_eq, he'.amount_eq]
  | @processPayment _ _ _ _ _ _ _ t e p _ hpos ht hw he hp =>
    subst hw
    left
    refine ⟨t, [e], [p], Table.rows_insert ht.fresh, Table.rows_insert he.fresh,
      Table.rows_insert hp.fresh, ht.fresh, by simp [ht.status_eq], ?_, ?_, .inr ⟨p, rfl, ?_⟩⟩
    . simp [HasEntries, ht.type_eq, he.entryType_eq, ht.receiver_eq]
    . simp [he.transactionId_eq, he.amount_eq]
    . exact ⟨hp.transactionId_eq.symm, ht.type_eq, hp.amount_eq.symm⟩
  | status => exact .inr ⟨rfl, rfl, rfl⟩

section Booked

variable {s s' : Store} {t : Transaction} {es : List LedgerEntry} {ps : List Payment}

theorem Booked.ne_of_mem (h : Booked s t es ps s') {t' : Transaction}
    (ht' : t' ∈ s.transactions.rows)
    : t'.id ≠ t.id := by
  intro heq
  have := Table.find?_of_mem ht'
  rw [heq, h.fresh] at this
  cases this

theorem Booked.entriesOf_old (h : Booked s t es ps s') {t' : Transaction}
    (ht' : t' ∈ s.transactions.rows)
    : entriesOf s' t' = entriesOf s t' := by
  unfold entriesOf
  rw [h.ledgerEntries, List.filter_append]
  have : es.filter (·.transactionId = t'.id) = [] := by
    rw [List.filter_eq_nil_iff]
    intro e he
    simpa [(h.ofTransaction e he).1] using (h.ne_of_mem ht').symm
  rw [this, List.append_nil]

theorem Booked.entriesOf_new (h : Booked s t es ps s') (hs : Corresponds s)
    : entriesOf s' t = es := by
  unfold entriesOf
  rw [h.ledgerEntries, List.filter_append]
  have hold : s.ledgerEntries.rows.filter (·.transactionId = t.id) = [] := by
    rw [List.filter_eq_nil_iff]
    intro e he
    rcases hs.transaction e he with ⟨t', ⟨ht', heq⟩, _⟩
    simpa [← heq] using h.ne_of_mem ht'
  have hnew : es.filter (·.transactionId = t.id) = es := by
    rw [List.filter_eq_self]
    intro e he
    simp [(h.ofTransaction e he).1]
  rw [hold, hnew, List.nil_append]

theorem existsUnique_transaction {P : Transaction → Prop} {id : TransactionId} {t : Transaction}
    (ht : t ∈ s.transactions.rows) (hid : t.id = id) (hP : P t)
    : ∃! t, t ∈ s.transactions.rows ∧ t.id = id ∧ P t := by
  refine ⟨t, ⟨ht, hid, hP⟩, ?_⟩
  rintro t' ⟨ht', hid', _⟩
  exact Table.eq_of_mem_of_key_eq ht' ht (hid'.trans hid.symm)

theorem Booked.corresponds (h : Booked s t es ps s') (hs : Corresponds s) : Corresponds s' where
  entries := by
    intro t' ht'
    rw [h.transactions, List.mem_append, List.mem_singleton] at ht'
    rcases ht' with ht' | rfl
    . rw [h.entriesOf_old ht']
      exact hs.entries t' ht'
    . rw [h.entriesOf_new hs]
      exact ⟨h.entries, fun e he => (h.ofTransaction e he).2⟩
  transaction := by
    intro e he
    rw [h.ledgerEntries, List.mem_append] at he
    have hmem : ∃ t', t' ∈ s'.transactions.rows ∧ t'.id = e.transactionId := by
      rw [h.transactions]
      rcases he with he | he
      . rcases hs.transaction e he with ⟨t', ⟨ht', heq⟩, _⟩
        exact ⟨t', by simp [ht'], heq⟩
      . exact ⟨t, by simp, (h.ofTransaction e he).1.symm⟩
    rcases hmem with ⟨t', ht', heq⟩
    simpa using existsUnique_transaction (P := fun _ => True) ht' heq trivial
  settled := by
    intro t' ht'
    rw [h.transactions, List.mem_append, List.mem_singleton] at ht'
    rcases ht' with ht' | rfl
    . exact hs.settled t' ht'
    . exact h.settled
  payment := by
    intro p hp
    rw [h.payments, List.mem_append] at hp
    have hmem : ∃ t', t' ∈ s'.transactions.rows
        ∧ t'.id = p.transactionId ∧ t'.type = .DEPOSIT ∧ t'.amount = p.amount := by
      rw [h.transactions]
      rcases hp with hp | hp
      . rcases hs.payment p hp with ⟨t', ⟨ht', heq⟩, _⟩
        exact ⟨t', by simp [ht'], heq⟩
      . rcases h.payment with rfl | ⟨p', rfl, heq⟩
        . cases hp
        . cases List.mem_singleton.mp hp
          exact ⟨t, by simp, heq⟩
    rcases hmem with ⟨t', ht', heq, hP⟩
    exact existsUnique_transaction ht' heq hP
  unshared := by
    intro p hp p' hp' heq
    have hold : ∀ p ∈ s.payments.rows, p.transactionId ≠ t.id := by
      intro p hp hid
      rcases hs.payment p hp with ⟨t', ⟨ht', hid', _⟩, _⟩
      exact h.ne_of_mem ht' (hid'.trans hid)
    rw [h.payments, List.mem_append] at hp hp'
    rcases h.payment with rfl | ⟨p₀, rfl, hid, _⟩
    . simp only [List.not_mem_nil, or_false] at hp hp'
      exact hs.unshared p hp p' hp' heq
    . rw [List.mem_singleton] at hp hp'
      rcases hp with hp | rfl
      . rcases hp' with hp' | rfl
        . exact hs.unshared p hp p' hp' heq
        . exact absurd (heq.trans hid.symm) (hold p hp)
      . rcases hp' with hp' | rfl
        . exact absurd (heq.symm.trans hid.symm) (hold p' hp')
        . rfl

end Booked

/--
`s'` is reached from `s` by operations one after another, and by calls that run side by side.
-/
inductive Later (s : Store) : Store → Prop where
  | refl : Later s s
  | step {s'} (h : Later s s') (ev : Event) : Later s (step s' ev)
  | interleaving {s'} (h : Later s s') {ι : Type} [DecidableEq ι] (calls : ι → Call)
      (es : List (Locking.Event Resource ι))
    : Later s (Run.run (interleave calls) (.init s') es).store

theorem later_run (s : Store) (es : List Event) : Later s (Run.run step s es) := by
  induction es using List.reverseRecOn with
  | nil => exact .refl
  | append_singleton es ev ih =>
    rw [Run.run_append_singleton]
    exact .step ih ev

-- From one moment of an interleaving to a later one.
theorem interleaving_preserves {ι : Type} [DecidableEq ι] {R : Store → Store → Prop}
    (hrefl : ∀ s, R s s) (htrans : ∀ s s' s'', R s s' → R s' s'' → R s s'')
    (heffect : ∀ s c reply s', Effect s c reply s' → R s s') (calls : ι → Call) (s : Store)
    {pre es : List (Locking.Event Resource ι)} (hle : pre <+: es)
    : R (Run.run (interleave calls) (.init s) pre).store
        (Run.run (interleave calls) (.init s) es).store := by
  refine @Run.later_induction _ (fun mid => R (Run.run (interleave calls) (.init s) pre).store
    (Run.run (interleave calls) (.init s) mid).store) _ _ hle (hrefl _) ?_
  intro mid ev _ _ ih
  apply htrans _ _ _ ih
  rw [Run.run_append_singleton]
  rcases interleave_cases (interleave_inv calls s mid) ev with hsame | ⟨_, _, _, heff⟩
  . rw [hsame]
    apply hrefl
  . exact heffect _ _ _ _ heff

theorem Later.preserves {R : Store → Store → Prop} (hrefl : ∀ s, R s s)
    (htrans : ∀ s s' s'', R s s' → R s' s'' → R s s'')
    (hwallet : ∀ s w, s.wallets.find? w.id = none → R s (s.addWallet w))
    (heffect : ∀ s c reply s', Effect s c reply s' → R s s') {s s' : Store} (h : Later s s')
    : R s s' := by
  induction h with
  | refl => apply hrefl
  | @step s' _ ev ih =>
    apply htrans _ _ _ ih
    have hstep := step_cases s' ev
    generalize Banking.step s' ev = s'' at *
    cases hstep with
    | rollback => apply hrefl
    | wallet _ _ hfresh => exact hwallet _ _ hfresh
    | call _ _ heff => exact heffect _ _ _ _ heff
  | @interleaving s' _ _ _ calls es ih =>
    apply htrans _ _ _ ih
    exact interleaving_preserves hrefl htrans heffect calls s' List.nil_prefix

structure Grows (s s' : Store) : Prop where
  transactions : s.transactions.rows <+: s'.transactions.rows
  ledgerEntries : s.ledgerEntries.rows <+: s'.ledgerEntries.rows
  payments : s.payments.rows <+: s'.payments.rows

theorem Grows.refl (s : Store) : Grows s s :=
  ⟨List.prefix_rfl, List.prefix_rfl, List.prefix_rfl⟩

theorem Grows.trans {s s' s'' : Store} (h : Grows s s') (h' : Grows s' s'') : Grows s s'' where
  transactions := h.transactions.trans h'.transactions
  ledgerEntries := h.ledgerEntries.trans h'.ledgerEntries
  payments := h.payments.trans h'.payments

theorem grows_addWallet (s : Store) (w : Wallet) : Grows s (s.addWallet w) :=
  ⟨List.prefix_rfl, List.prefix_rfl, List.prefix_rfl⟩

theorem Effect.grows {s s' : Store} {c : Call} {reply : Reply} (h : Effect s c reply s')
    : Grows s s' := by
  rcases h.booked with ⟨t, es, ps, hbooked⟩ | ⟨ht, he, hp⟩
  . constructor
    . rw [hbooked.transactions]
      apply List.prefix_append
    . rw [hbooked.ledgerEntries]
      apply List.prefix_append
    . rw [hbooked.payments]
      apply List.prefix_append
  . constructor
    . rw [ht]
    . rw [he]
    . rw [hp]

theorem step_grows (s : Store) (ev : Event) : Grows s (step s ev) := by
  have hstep := step_cases s ev
  generalize step s ev = s' at *
  cases hstep with
  | rollback => exact .refl s
  | wallet => apply grows_addWallet
  | call _ _ h => exact h.grows

theorem Effect.corresponds {s s' : Store} {c : Call} {reply : Reply} (h : Effect s c reply s')
    (hs : Corresponds s)
    : Corresponds s' := by
  rcases h.booked with ⟨t, es, ps, hbooked⟩ | ⟨ht, he, hp⟩
  . exact hbooked.corresponds hs
  . rcases hs with ⟨h₁, h₂, h₃, h₄, h₅⟩
    constructor
    . rw [ht]
      unfold entriesOf
      rw [he]
      exact h₁
    . rw [ht, he]
      exact h₂
    . rw [ht]
      exact h₃
    . rw [ht, hp]
      exact h₄
    . rw [hp]
      exact h₅

theorem corresponds_initial (users : Table User.id) : Corresponds (.initial users) := by
  constructor <;> intro x hx <;> cases hx

/--
The ledger grows from one state to any later one, within an interleaving too.
-/
theorem ledger_corresponds_and_grows {users : Table User.id} {s : Store}
    (h : Later (.initial users) s)
    : Corresponds s
        ∧ (∀ s', Later s s' → s.ledgerEntries.rows <+: s'.ledgerEntries.rows)
        ∧ ∀ {ι : Type} [DecidableEq ι] (calls : ι → Call)
          (pre es : List (Locking.Event Resource ι)), pre <+: es →
          (Run.run (interleave calls) (.init s) pre).store.ledgerEntries.rows <+:
            (Run.run (interleave calls) (.init s) es).store.ledgerEntries.rows := by
  refine ⟨?_, ?_, ?_⟩
  . apply h.preserves (R := fun s s' => Corresponds s → Corresponds s')
    . exact fun _ hs => hs
    . exact fun _ _ _ h h' hs => h' (h hs)
    . exact fun _ _ _ hs => ⟨hs.1, hs.2, hs.3, hs.4, hs.5⟩
    . exact fun _ _ _ _ heff hs => heff.corresponds hs
    . exact corresponds_initial users
  . intro s' h'
    have hgrows : Grows s s' := by
      apply h'.preserves
      . exact Grows.refl
      . exact fun _ _ _ h h' => h.trans h'
      . exact fun s w _ => grows_addWallet s w
      . exact fun _ _ _ _ heff => heff.grows
    exact hgrows.ledgerEntries
  . intro ι _ calls pre es hle
    have hgrows : Grows (Run.run (interleave calls) (.init s) pre).store
        (Run.run (interleave calls) (.init s) es).store := by
      apply interleaving_preserves _ _ _ calls s hle
      . exact Grows.refl
      . exact fun _ _ _ h h' => h.trans h'
      . exact fun _ _ _ _ heff => heff.grows
    exact hgrows.ledgerEntries

theorem ledger_corresponds_and_grows_after_deposit
    : Corresponds (Run.run step (.initial sampleUsers) sampleDeposit)
        ∧ (∀ s', Later (Run.run step (.initial sampleUsers) sampleDeposit) s' →
          (Run.run step (.initial sampleUsers) sampleDeposit).ledgerEntries.rows <+:
            s'.ledgerEntries.rows)
        ∧ ∀ {ι : Type} [DecidableEq ι] (calls : ι → Call)
          (pre es : List (Locking.Event Resource ι)), pre <+: es →
          (Run.run (interleave calls) (.init (Run.run step (.initial sampleUsers) sampleDeposit))
              pre).store.ledgerEntries.rows <+:
            (Run.run (interleave calls) (.init (Run.run step (.initial sampleUsers) sampleDeposit))
              es).store.ledgerEntries.rows :=
  ledger_corresponds_and_grows (later_run _ _)

end Banking
