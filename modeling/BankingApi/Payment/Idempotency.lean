import BankingApi.Bank.Correspondence
import BankingApi.Payment.Protocol

/-!
This module contains what holds along all runs of payment calls: where the payments in the cache and
in the answers come from, and that no key is paid for twice.
-/

namespace Banking

def PaymentRequest.storedAmount (request : PaymentRequest) : Option Money :=
  request.amount.bind (fun amount => FixedPoint.ofRat? 18 2 amount.toDecimal)

def Matches (request : PaymentRequest) (p : Payment) (s : Store) : Prop :=
  request.storedAmount = some p.amount
    ∧ request.method = some p.method
    ∧ ∃ t, s.transactions.find? p.transactionId = some t
      ∧ t.createdBy = request.createdBy
      ∧ t.receiverWalletId = request.receiverWalletId
      ∧ t.amount = p.amount
      ∧ t.type = .DEPOSIT

theorem Matches.grows {request : PaymentRequest} {p : Payment} {s s' : Store}
    (h : Matches request p s) (hgrows : Grows s s')
    : Matches request p s' := by
  rcases h with ⟨hamount, hmethod, t, ht, hrest⟩
  rw [Table.find?_eq_some_iff] at ht
  refine ⟨hamount, hmethod, t, ?_, hrest⟩
  rw [Table.find?_eq_some_iff]
  exact ⟨hgrows.transactions.subset ht.1, ht.2⟩

theorem effect_of_block {request : PaymentRequest} {key : IdempotencyKey} {p : Payment}
    {s s' : Store} (h : (request.block key).run database s = .ok (p, s'))
    : ∃ amount method receiverWalletId,
      request.amount = some amount ∧ request.method = some method
        ∧ request.receiverWalletId = some receiverWalletId
        ∧ Effect s (.processPayment key amount method receiverWalletId request.createdBy
          request.description request.gen) (.payment p) s' := by
  unfold PaymentRequest.block at h
  split at h
  . next amount method receiverWalletId hamount hmethod hreceiver =>
    exact ⟨amount, method, receiverWalletId, hamount, hmethod, hreceiver, run_processPaymentBlock h⟩
  . cases h

structure Made (request : PaymentRequest) (p : Payment) (s : Store) : Prop where
  stored : p ∈ s.payments.rows
  key?_eq : request.key? = some p.idempotencyKey
  matches_request : Matches request p s

theorem Made.grows {request : PaymentRequest} {p : Payment} {s s' : Store} (h : Made request p s)
    (hgrows : Grows s s')
    : Made request p s' where
  stored := hgrows.payments.subset h.stored
  key?_eq := h.key?_eq
  matches_request := h.matches_request.grows hgrows

def UniqueKeys (s : Store) : Prop :=
  (s.payments.rows.map Payment.idempotencyKey).Nodup

theorem UniqueKeys.length_le_one {s : Store} (h : UniqueKeys s) (key : IdempotencyKey)
    : (s.payments.rows.filter (·.idempotencyKey = key)).length ≤ 1 := by
  unfold UniqueKeys at h
  have := List.nodup_iff_count_le_one.mp h key
  rw [List.count_eq_length_filter, List.filter_map, List.length_map] at this
  refine le_trans (le_of_eq ?_) this
  congr

theorem Effect.uniqueKeys {s s' : Store} {c : Call} {reply : Reply} (h : Effect s c reply s')
    (hs : UniqueKeys s)
    : UniqueKeys s' := by
  cases h with
  | @processPayment _ _ _ _ _ _ _ t e p _ hpos ht hw he hp =>
    apply Table.nodup_map_insert hp.fresh ?_ hs
    rw [hp.idempotencyKey_eq]
    exact hp.freshKey
  | _ => exact hs

theorem step_uniqueKeys {s : Store} (ev : Event) (hs : UniqueKeys s) : UniqueKeys (step s ev) := by
  have hstep := step_cases s ev
  generalize step s ev = s' at *
  cases hstep with
  | rollback => exact hs
  | wallet => exact hs
  | call _ _ h => exact h.uniqueKeys hs

theorem made_of_block {request : PaymentRequest} {key : IdempotencyKey} {p : Payment}
    {s s' : Store} (hkey : request.key? = some key)
    (h : (request.block key).run database s = .ok (p, s'))
    : Made request p s' := by
  rcases effect_of_block h with ⟨amount, method, receiverWalletId, hamount, hmethod, hreceiver, heff⟩
  cases heff with
  | @processPayment _ _ _ _ _ _ _ t e _ _ hpos ht hw he hp =>
    constructor
    . change p ∈ (s.payments.insert p).rows
      rw [Table.rows_insert hp.fresh]
      simp
    . rw [hp.idempotencyKey_eq]
      exact hkey
    . refine ⟨?_, ?_, t, ?_, ht.createdBy_eq, ?_, hp.amount_eq.symm, ht.type_eq⟩
      . rw [PaymentRequest.storedAmount, hamount, hp.amount_eq]
        exact ht.amount_eq
      . rw [hp.method_eq]
        exact hmethod
      . rw [hp.transactionId_eq]
        exact Table.find?_insert_self ht.fresh
      . rw [ht.receiver_eq, hreceiver]

namespace PaymentSystem

variable {ι : Type} {requests : ι → PaymentRequest} {m m' : PaymentSystem ι}

structure Inv (requests : ι → PaymentRequest) (m : PaymentSystem ι) : Prop where
  unique : UniqueKeys m.store
  made : ∀ i p, (i, p) ∈ m.committed → Made (requests i) p m.store
  carried : ∀ i p, (m.stages i).carried? = some p → (i, p) ∈ m.committed
  cached : ∀ key p expires, m.cache key = some (p, expires) →
    p.idempotencyKey = key ∧ ∃ j, (j, p) ∈ m.committed
  finished : ∀ i p, m.stages i = .finished (.ok p) →
    (requests i).key? = some p.idempotencyKey ∧ ∃ j, (j, p) ∈ m.committed

theorem inv_initial (requests : ι → PaymentRequest) (users : Table User.id)
    : Inv requests (initial users) where
  unique := List.nodup_nil
  made := by simp [initial]
  carried := by simp [initial, Stage.carried?]
  cached := by simp [initial]
  finished := by simp [initial]

theorem Inv.key?_of_carried (h : Inv requests m) {i : ι} {p : Payment}
    (hi : (m.stages i).carried? = some p)
    : (requests i).key? = some p.idempotencyKey :=
  (h.made i p (h.carried i p hi)).key?_eq

theorem inv_of_kept {ev : PaymentEvent ι} (h : Inv requests m) (hkept : Kept requests m ev m')
    : Inv requests m' where
  unique := by
    rw [hkept.store]
    exact h.unique
  made := by
    rw [hkept.store, hkept.committed]
    exact h.made
  carried := by
    intro i p hi
    rw [hkept.committed]
    exact h.carried i p (hkept.carried i p hi)
  cached := by
    intro key p expires hcache
    rw [hkept.committed]
    rcases hkept.cache key p expires hcache with hcache | ⟨i, hkey, hi⟩
    . exact h.cached key p expires hcache
    . have := h.key?_of_carried hi
      rw [hkey, Option.some.injEq] at this
      exact ⟨this.symm, i, h.carried i p hi⟩
  finished := by
    intro i p hi
    rw [hkept.committed]
    rcases hkept.finished i p hi with hi | hi | ⟨_, _, key, expires, hkey, hcache⟩
    . exact h.finished i p hi
    . exact ⟨h.key?_of_carried hi, i, h.carried i p hi⟩
    . rcases h.cached key p expires hcache with ⟨rfl, hj⟩
      exact ⟨hkey, hj⟩

theorem inv_of_committed {i : ι} {key : IdempotencyKey} {p : Payment} (h : Inv requests m)
    (hgrows : Grows m.store m'.store) (hcommit : Committed requests m i key p m')
    : Inv requests m' where
  unique := by
    rcases effect_of_block hcommit.run with ⟨_, _, _, _, _, _, heff⟩
    exact heff.uniqueKeys h.unique
  made := by
    intro j q hj
    rw [hcommit.committed, List.mem_append, List.mem_singleton] at hj
    rcases hj with hj | hj
    . exact (h.made j q hj).grows hgrows
    . cases hj
      exact made_of_block hcommit.key?_eq hcommit.run
  carried := by
    intro j q hj
    rw [hcommit.committed, List.mem_append, List.mem_singleton]
    rcases hcommit.carried j q hj with ⟨rfl, rfl⟩ | hj
    . exact .inr rfl
    . exact .inl (h.carried j q hj)
  cached := by
    intro key' q expires hcache
    rw [hcommit.cache] at hcache
    rcases h.cached key' q expires hcache with ⟨hkey, j, hj⟩
    rw [hcommit.committed]
    exact ⟨hkey, j, List.mem_append_left _ hj⟩
  finished := by
    intro j q hj
    rcases h.finished j q (hcommit.finished j q hj) with ⟨hkey, j', hj'⟩
    rw [hcommit.committed]
    exact ⟨hkey, j', List.mem_append_left _ hj'⟩

variable [DecidableEq ι]

theorem step_grows (requests : ι → PaymentRequest) (m : PaymentSystem ι) (ev : PaymentEvent ι)
    : Grows m.store (step requests m ev).store := by
  have hstep := step_cases requests m ev
  generalize step requests m ev = m' at *
  cases hstep with
  | kept h =>
    rw [h.store]
    exact .refl _
  | commit _ h =>
    rcases effect_of_block h.run with ⟨_, _, _, _, _, _, heff⟩
    exact heff.grows
  | database => apply Banking.step_grows

theorem inv_step (m : PaymentSystem ι) (ev : PaymentEvent ι) (h : Inv requests m)
    : Inv requests (step requests m ev) := by
  have hgrows := step_grows requests m ev
  have hstep := step_cases requests m ev
  generalize step requests m ev = m' at *
  cases hstep with
  | kept hkept => exact inv_of_kept h hkept
  | commit _ hcommit => exact inv_of_committed h hgrows hcommit
  | database =>
    exact
      {
        unique := step_uniqueKeys _ h.unique
        made := fun i p hi => (h.made i p hi).grows hgrows
        carried := h.carried
        cached := h.cached
        finished := h.finished
      }

theorem inv_run (requests : ι → PaymentRequest) (users : Table User.id)
    (es : List (PaymentEvent ι))
    : Inv requests (Run.run (step requests) (initial users) es) :=
  Run.run_invariant inv_step es (inv_initial requests users)

def Pays (requests : ι → PaymentRequest) (key : IdempotencyKey) (m : PaymentSystem ι)
    (ev : PaymentEvent ι)
    : Prop :=
  ∃ i fate, ev = .advance i fate ∧ (requests i).key? = some key
    ∧ (step requests m ev).store ≠ m.store

def PaysOnce (request : PaymentRequest) (key : IdempotencyKey) (s s' : Store) : Prop :=
  ∃ amount method receiverWalletId p,
    request.amount = some amount ∧ request.method = some method
      ∧ request.receiverWalletId = some receiverWalletId
      ∧ Effect s (.processPayment key amount method receiverWalletId request.createdBy
        request.description request.gen) (.payment p) s'

theorem paysOnce_of_ne {i : ι} {fate : Fate} (hne : (step requests m (.advance i fate)).store ≠ m.store)
    : ∃ key, (requests i).key? = some key
      ∧ PaysOnce (requests i) key m.store (step requests m (.advance i fate)).store := by
  have hstep := step_cases requests m (.advance i fate)
  generalize step requests m (.advance i fate) = m' at *
  cases hstep with
  | kept h => exact absurd h.store hne
  | commit hev h =>
    cases hev
    rcases effect_of_block h.run with ⟨amount, method, receiverWalletId, h₁, h₂, h₃, heff⟩
    exact ⟨_, h.key?_eq, amount, method, receiverWalletId, _, h₁, h₂, h₃, heff⟩
  | database hev => cases hev

theorem PaysOnce.stored {request : PaymentRequest} {key : IdempotencyKey} {s s' : Store}
    (h : PaysOnce request key s s')
    : (∀ p ∈ s.payments.rows, p.idempotencyKey ≠ key)
        ∧ ∃ p ∈ s'.payments.rows, p.idempotencyKey = key := by
  rcases h with ⟨_, _, _, p, _, _, _, heff⟩
  cases heff with
  | @processPayment _ _ _ _ _ _ _ t e _ _ hpos ht hw he hp =>
    refine ⟨Table.has_eq_false_iff.mp hp.freshKey, p, ?_, hp.idempotencyKey_eq⟩
    change p ∈ (s.payments.insert p).rows
    rw [Table.rows_insert hp.fresh]
    simp

theorem Pays.stored {key : IdempotencyKey} {ev : PaymentEvent ι} (h : Pays requests key m ev)
    : (∀ p ∈ m.store.payments.rows, p.idempotencyKey ≠ key)
        ∧ ∃ p ∈ (step requests m ev).store.payments.rows, p.idempotencyKey = key := by
  rcases h with ⟨i, fate, rfl, hkey, hne⟩
  rcases paysOnce_of_ne hne with ⟨key', hkey', hpays⟩
  rw [hkey, Option.some.injEq] at hkey'
  subst hkey'
  exact hpays.stored

def HasKey (key : IdempotencyKey) (m : PaymentSystem ι) : Prop :=
  ∃ p ∈ m.store.payments.rows, p.idempotencyKey = key

theorem hasKey_step {key : IdempotencyKey} (m : PaymentSystem ι) (ev : PaymentEvent ι)
    (h : HasKey key m)
    : HasKey key (step requests m ev) := by
  rcases h with ⟨p, hp, hkey⟩
  exact ⟨p, (step_grows requests m ev).payments.subset hp, hkey⟩

/--
Whatever calls there are, and whatever expires, fails or crashes when: there is one payment with a key
at most; what a call commits is one payment, one deposit and one credit, and only one of the calls with
a key does so, once; a call that returns a payment returns the one that is stored with its key.
-/
theorem payments_applied_once (requests : ι → PaymentRequest) (users : Table User.id)
    (es : List (PaymentEvent ι))
    : (∀ key, ((Run.run (step requests) (initial users) es).store.payments.rows.filter
          (·.idempotencyKey = key)).length ≤ 1)
        ∧ (∀ i fate,
          (step requests (Run.run (step requests) (initial users) es) (.advance i fate)).store =
              (Run.run (step requests) (initial users) es).store
            ∨ ∃ key, (requests i).key? = some key
              ∧ PaysOnce (requests i) key (Run.run (step requests) (initial users) es).store
                (step requests (Run.run (step requests) (initial users) es) (.advance i fate)).store)
        ∧ (∀ key pre pre' ev ev', pre ++ [ev] <+: es → pre' ++ [ev'] <+: es →
          Pays requests key (Run.run (step requests) (initial users) pre) ev →
          Pays requests key (Run.run (step requests) (initial users) pre') ev' → pre = pre')
        ∧ (∀ i p, (Run.run (step requests) (initial users) es).stages i = .finished (.ok p) →
          ∃ row ∈ (Run.run (step requests) (initial users) es).store.payments.rows,
            (requests i).key? = some row.idempotencyKey ∧ row.id = p.id) := by
  have hinv := inv_run requests users es
  refine ⟨hinv.unique.length_le_one, ?_, ?_, ?_⟩
  . intro i fate
    by_cases hsame : (step requests (Run.run (step requests) (initial users) es)
        (.advance i fate)).store = (Run.run (step requests) (initial users) es).store
    . exact .inl hsame
    . exact .inr (paysOnce_of_ne hsame)
  . intro key pre pre' ev ev' hpre hpre' h h'
    refine Run.eq_of_excluded (D := HasKey key) hasKey_step ?_ ?_ hpre hpre' h h'
    . intro m ev h
      exact h.stored.2
    . rintro m ev h ⟨p, hp, hkey⟩
      exact h.stored.1 p hp hkey
  . intro i p hi
    rcases hinv.finished i p hi with ⟨hkey, j, hj⟩
    exact ⟨p, (hinv.made j p hj).stored, hkey, rfl⟩

end PaymentSystem

end Banking
