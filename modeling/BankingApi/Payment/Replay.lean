import BankingApi.Payment.Idempotency

/-!
This module contains what stays for the calls with a key once a payment with the key is committed: the
payment, the response in Redis until it expires, and the outcomes of calls that have ended.
-/

namespace Banking

namespace PaymentSystem

variable {ι : Type} {requests : ι → PaymentRequest} {m : PaymentSystem ι}

theorem Inv.eq_of_key (h : Inv requests m) {p q : Payment} (hp : p ∈ m.store.payments.rows)
    (hq : q ∈ m.store.payments.rows) (hkey : q.idempotencyKey = p.idempotencyKey)
    : q = p :=
  List.inj_on_of_nodup_map h.unique hq hp hkey

theorem Inv.returned_eq {i : ι} {p : Payment} (h : Inv requests m)
    (hp : p ∈ m.store.payments.rows) (hkey : (requests i).key? = some p.idempotencyKey) {q : Payment}
    (hi : m.stages i = .finished (.ok q))
    : q = p := by
  rcases h.finished i q hi with ⟨hq, j, hj⟩
  apply h.eq_of_key hp (h.made j q hj).stored
  rw [hkey, Option.some.injEq] at hq
  exact hq.symm

variable [DecidableEq ι]

theorem advance_shape (requests : ι → PaymentRequest) (m : PaymentSystem ι) (i : ι) (fate : Fate)
    : (∃ stage, (step requests m (.advance i fate)).stages = Function.update m.stages i stage)
        ∧ ((step requests m (.advance i fate)).cache = m.cache
          ∨ ∃ key payment expires, (step requests m (.advance i fate)).cache =
            Function.update m.cache key (some (payment, expires))) := by
  have hproceeds := advance_proceeds requests m i fate
  generalize step requests m (.advance i fate) = m' at *
  cases hproceeds with
  | idle => exact ⟨⟨m.stages i, (Function.update_eq_self i m.stages).symm⟩, .inl rfl⟩
  | refuse => exact ⟨⟨_, rfl⟩, .inl rfl⟩
  | lookup =>
    unfold lookup
    repeat' split
    all_goals exact ⟨⟨_, rfl⟩, .inl rfl⟩
  | acquire =>
    unfold acquire
    split <;> exact ⟨⟨_, rfl⟩, .inl rfl⟩
  | transact =>
    unfold transact
    split <;> exact ⟨⟨_, rfl⟩, .inl rfl⟩
  | cacheResponse =>
    unfold cacheResponse
    split
    . exact ⟨⟨_, rfl⟩, .inr ⟨_, _, _, rfl⟩⟩
    . exact ⟨⟨_, rfl⟩, .inr ⟨_, _, _, rfl⟩⟩
    . exact ⟨⟨_, rfl⟩, .inl rfl⟩
  | publish =>
    unfold publish
    dsimp only
    split <;> exact ⟨⟨_, rfl⟩, .inl rfl⟩
  | release =>
    unfold release
    split <;> exact ⟨⟨_, rfl⟩, .inl rfl⟩

theorem stages_advance_of_ne {i j : ι} (hne : i ≠ j) (requests : ι → PaymentRequest)
    (m : PaymentSystem ι) (fate : Fate)
    : (step requests m (.advance j fate)).stages i = m.stages i := by
  rcases (advance_shape requests m j fate).1 with ⟨stage, hstages⟩
  rw [hstages, Function.update_of_ne hne]

theorem finished_step {i : ι} {outcome : Except Failure Payment} (m : PaymentSystem ι)
    (ev : PaymentEvent ι) (h : m.stages i = .finished outcome)
    : (step requests m ev).stages i = .finished outcome := by
  cases ev with
  | advance j fate =>
    by_cases hj : i = j
    . subst hj
      rw [advance_finished h]
      exact h
    . rw [stages_advance_of_ne hj]
      exact h
  | crash j =>
    unfold step
    dsimp only
    split
    . exact h
    . next hne =>
      by_cases hj : i = j
      . subst hj
        exact absurd h (hne _)
      . exact (Function.update_of_ne hj _ _).trans h
  | _ => exact h

theorem finished_run {i : ι} {outcome : Except Failure Payment} (es : List (PaymentEvent ι))
    (h : m.stages i = .finished outcome)
    : (Run.run (step requests) m es).stages i = .finished outcome :=
  Run.run_invariant (I := fun m : PaymentSystem ι => m.stages i = .finished outcome) finished_step es h

theorem cache_run {key : IdempotencyKey} {es : List (PaymentEvent ι)}
    (hes : .expireCache key ∉ es) (h : (m.cache key).isSome)
    : ((Run.run (step requests) m es).cache key).isSome := by
  induction es generalizing m with
  | nil => exact h
  | cons ev es ih =>
    rw [List.mem_cons, not_or] at hes
    apply ih hes.2
    cases ev with
    | advance i fate =>
      rcases (advance_shape requests m i fate).2 with hcache | ⟨key', _, _, hcache⟩
      . rwa [hcache]
      . rw [hcache]
        by_cases heq : key = key'
        . simp [heq]
        . rwa [Function.update_of_ne heq]
    | crash i =>
      unfold step
      dsimp only
      split <;> exact h
    | expireCache key' =>
      have hne : key ≠ key' := fun heq => hes.1 (by rw [heq])
      change (Function.update m.cache key' none key).isSome
      rwa [Function.update_of_ne hne]
    | _ => exact h

theorem stored_run {p : Payment} {es : List (PaymentEvent ι)} (hp : p ∈ m.store.payments.rows)
    : p ∈ (Run.run (step requests) m es).store.payments.rows :=
  Run.run_invariant (I := fun m : PaymentSystem ι => p ∈ m.store.payments.rows)
    (fun m ev h => (step_grows requests m ev).payments.subset h) es hp

theorem Inv.hit_step {i : ι} {p : Payment} (h : Inv requests m) (hp : p ∈ m.store.payments.rows)
    (hkey : (requests i).key? = some p.idempotencyKey) (hi : m.stages i = .ready)
    (hcache : (m.cache p.idempotencyKey).isSome)
    : (step requests m (.advance i .done)).stages i = .finished (.ok p) := by
  rcases Option.isSome_iff_exists.mp hcache with ⟨⟨q, expires⟩, hq⟩
  rcases h.cached _ q expires hq with ⟨hqkey, j, hj⟩
  have heq := h.eq_of_key hp (h.made j q hj).stored hqkey
  subst heq
  simp [step, processPayment, lookup, hkey, hi, hq, move]

theorem cached_step {i : ι} {p : Payment} {since : ℕ} {fate : Fate}
    (hkey : (requests i).key? = some p.idempotencyKey)
    (hi : m.stages i = .holding since (.committed p)) (hfate : fate ≠ .failed)
    : ((step requests m (.advance i fate)).cache p.idempotencyKey).isSome := by
  rw [advance_committed hkey hi]
  cases fate with
  | failed => exact absurd rfl hfate
  | _ => simp [cacheResponse, setCache, move]

/--
From the write of the response until it expires, a call that asks for it returns the payment.
-/
theorem cached_response_returned {users : Table User.id} {pre suf more : List (PaymentEvent ι)}
    {i j : ι} {p : Payment} {since : ℕ} {fate : Fate}
    (hi : (Run.run (step requests) (initial users) pre).stages i = .holding since (.committed p))
    (hfate : fate ≠ .failed) (hsuf : .expireCache p.idempotencyKey ∉ suf)
    (hkey : (requests j).key? = some p.idempotencyKey)
    (hj : (Run.run (step requests) (initial users) (pre ++ .advance i fate :: suf)).stages j = .ready)
    : (Run.run (step requests) (initial users)
        (pre ++ .advance i fate :: suf ++ .advance j .done :: more)).stages j = .finished (.ok p) := by
  have hinv := inv_run requests users pre
  have hinv' := inv_run requests users (pre ++ .advance i fate :: suf)
  have hmade := hinv.made i p (hinv.carried i p (by rw [hi]; rfl))
  rw [Run.run_append, Run.run_cons]
  apply finished_run
  apply hinv'.hit_step ?_ hkey hj
  . rw [Run.run_append, Run.run_cons]
    exact cache_run hsuf (cached_step hmade.key?_eq hi hfate)
  . rw [Run.run_append]
    exact stored_run hmade.stored

end PaymentSystem

end Banking
