import BankingApi.Payment.Failures

/-!
This module contains the windows of `processPayment` in which a call is neither refused by the lock nor
given the payment that is stored under its key.
-/

namespace Banking

open LedgerService TransactionRepository PaymentRepository

def alreadyProcessing : Except Failure Payment :=
  .error (.app (ConflictError "Request with this idempotency key is already processing"))

/--
The call has set the lock, and all that it can come to is an error of its own.
-/
def Stage.Contends (stage : Stage) : Prop :=
  (∃ since, stage = .holding since .locked)
    ∨ ∃ since e, stage = .holding since (.releasing (.error e)) ∧ .error e ≠ alreadyProcessing

def Stage.Over (stage : Stage) : Prop :=
  (∃ outcome, stage = .finished outcome) ∨ stage = .crashed

/--
No error of the database block is the one of a held lock.
-/
def NoConflict (e : Failure) : Prop :=
  ∀ message, e ≠ .app (ConflictError message)

theorem noConflict_exec (q : Query) (s : Store) (e : Failure) (h : database.exec q s = .error e)
    : NoConflict e := by
  intro message
  rintro rfl
  change s.exec q = _ at h
  rcases q with ⟨client, stmt⟩
  cases stmt with
  | selectWalletsForUpdate => cases h
  | createTransaction data =>
    change s.insertTransaction data = _ at h
    unfold Store.insertTransaction at h
    grind
  | updateTransactionStatus id status =>
    change s.setTransactionStatus id status = _ at h
    unfold Store.setTransactionStatus at h
    grind
  | createLedgerEntry data =>
    change s.insertLedgerEntry data = _ at h
    unfold Store.insertLedgerEntry at h
    grind
  | createPayment data =>
    change s.insertPayment data = _ at h
    unfold Store.insertPayment at h
    grind
  | updateWalletBalance id balance =>
    change s.setBalance id balance = _ at h
    unfold Store.setBalance at h
    grind
  | updateWalletStatus id status =>
    change s.setWalletStatus id status = _ at h
    unfold Store.setWalletStatus at h
    grind

theorem throws_query (q : Query) : (.call q .ret : Tx q.Result).Throws NoConflict :=
  fun _ => trivial

theorem throws_block (request : PaymentRequest) (key : IdempotencyKey)
    : (request.block key).Throws NoConflict := by
  unfold PaymentRequest.block
  split
  . unfold PaymentService.processPaymentBlock
    refine Prog.throws_bind (throws_query _) ?_
    intro wallets
    refine Prog.throws_bind ?_ ?_
    . unfold PaymentService.receiverWallet
      split
      . simp [Prog.Throws, NoConflict, NotFoundError, ConflictError]
      . trivial
    . intro wallet
      refine Prog.throws_bind (Prog.throws_require ?_) ?_
      . simp [NoConflict, BadRequestError, ConflictError]
      . intro _
        refine Prog.throws_bind (Prog.throws_require ?_) ?_
        . simp [NoConflict, BadRequestError, ConflictError]
        . intro _
          refine Prog.throws_bind (throws_query _) ?_
          intro transaction
          refine Prog.throws_bind ?_ (fun _ => throws_query _)
          exact Prog.throws_bind (throws_query _)
            (fun _ => Prog.throws_bind (throws_query _) (fun _ => trivial))
  . simp [Prog.Throws, NoConflict]

theorem NoConflict.ne {e : Failure} (h : NoConflict e) : .error e ≠ alreadyProcessing := by
  intro heq
  cases heq
  exact h _ rfl

namespace PaymentSystem

variable {ι : Type} [DecidableEq ι]

/--
A call that ends after a payment with its key is committed returns the payment, or it is refused by the
lock.
-/
def RetriesReplayed (requests : ι → PaymentRequest) (users : Table User.id)
    (es : List (PaymentEvent ι))
    : Prop :=
  ∀ pre i p outcome, pre <+: es →
    p ∈ (Run.run (step requests) (initial users) pre).store.payments.rows →
    (requests i).key? = some p.idempotencyKey →
    (∀ outcome', (Run.run (step requests) (initial users) pre).stages i ≠ .finished outcome') →
    (Run.run (step requests) (initial users) es).stages i = .finished outcome →
    outcome = .ok p ∨ outcome = alreadyProcessing

inductive Window (requests : ι → PaymentRequest) (m : PaymentSystem ι) : PaymentEvent ι → Prop where
  -- The call has not found a response, the payment is stored by now, and nobody has the lock.
  | late {i key} (hkey : (requests i).key? = some key) (hi : m.stages i = .missed)
      (hlock : m.locks key = none) (hp : HasKey key m)
    : Window requests m (.advance i .done)
  -- The payment is committed while another call with the key has set the lock.
  | overtaken {j key ev} (hkey : (requests j).key? = some key) (hj : (m.stages j).Contends)
      (hev : ∀ fate, ev ≠ .advance j fate) (hnew : ¬HasKey key m) (hp : HasKey key (step requests m ev))
    : Window requests m ev
  -- A command of the call fails or its answer is lost, and the payment is stored.
  | unanswered {i key fate} (hkey : (requests i).key? = some key) (hi : ¬(m.stages i).Over)
      (hfate : fate ≠ .done) (hp : HasKey key (step requests m (.advance i fate)))
    : Window requests m (.advance i fate)

def NoWindow (requests : ι → PaymentRequest) (m : PaymentSystem ι) (ev : PaymentEvent ι) : Prop :=
  ¬Window requests m ev

/--
No call with the key of a stored payment is on its way to an error of its own.
-/
def Settled (requests : ι → PaymentRequest) (m : PaymentSystem ι) : Prop :=
  ∀ i key, (requests i).key? = some key → HasKey key m → ¬(m.stages i).Contends

variable {requests : ι → PaymentRequest} {m : PaymentSystem ι} {ev : PaymentEvent ι} {i : ι}
  {key : IdempotencyKey} {fate : Fate} {outcome : Except Failure Payment} {p : Payment}

theorem advance_over (hi : (m.stages i).Over) : step requests m (.advance i fate) = m := by
  rcases hi with ⟨outcome, hi⟩ | hi
  . exact advance_finished hi
  . exact advance_crashed hi

theorem store_step_of_run (hkey : (requests i).key? = some key) {since : ℕ} {s : Store}
    (hi : m.stages i = .holding since .locked)
    (hrun : ((requests i).block key).run database m.store = .ok (p, s))
    : (step requests m (.advance i .done)).stages i = .holding since (.committed p) := by
  rw [advance_locked hkey hi]
  simp [transact, hrun, move]

-- The step that stores the payment is the commit of its own block.
theorem not_contends_of_commit (hnew : ¬HasKey key m)
    (hp : HasKey key (step requests m (.advance i .done)))
    : ¬((step requests m (.advance i .done)).stages i).Contends := by
  have hne : (step requests m (.advance i .done)).store ≠ m.store := by
    intro hsame
    unfold HasKey at hp
    rw [hsame] at hp
    exact hnew hp
  have hlocked : ∃ since, m.stages i = .holding since .locked := by
    by_contra hno
    exact hne (store_eq_of_ne_locked (fun since hi => hno ⟨since, hi⟩))
  rcases hlocked with ⟨since, hi⟩
  cases hkey : (requests i).key? with
  | none =>
    rw [advance_no_key hkey (by simp [hi])] at hne
    exact absurd rfl hne
  | some key' =>
    cases hrun : ((requests i).block key').run database m.store with
    | error e =>
      rw [advance_locked hkey hi] at hne
      simp [transact, hrun, move] at hne
    | ok res =>
      rw [store_step_of_run hkey hi hrun]
      simp [Stage.Contends]

theorem settled_step (h : Settled requests m) (hno : NoWindow requests m ev)
    : Settled requests (step requests m ev) := by
  intro i key hkey hp hcontends
  by_cases hold : HasKey key m
  . rcases stage_step_cases requests m ev i with ⟨fate, rfl, hstep⟩ | hsame | hcrashed
    . generalize hstage : (step requests m (.advance i fate)).stages i = stage at *
      cases hstep with
      | stay => exact h i key hkey hold hcontends
      | @acquire key' hkey' hi hfate hlock =>
        cases hkey.symm.trans hkey'
        subst hfate
        exact hno (.late hkey hi hlock hold)
      | fail hi hfate =>
        rcases hfate with hfate | rfl
        . exact hno (.unanswered hkey (by simp [Stage.Over, hi]) hfate hp)
        . exact h i key hkey hold (.inl ⟨_, hi⟩)
      | _ => simp [Stage.Contends] at hcontends
    . rw [hsame] at hcontends
      exact h i key hkey hold hcontends
    . simp [hcrashed, Stage.Contends] at hcontends
  . by_cases hown : ∃ fate, ev = .advance i fate
    . rcases hown with ⟨fate, rfl⟩
      by_cases hfate : fate = .done
      . subst hfate
        exact not_contends_of_commit hold hp hcontends
      . by_cases hover : (m.stages i).Over
        . rw [advance_over hover] at hp
          exact hold hp
        . exact hno (.unanswered hkey hover hfate hp)
    . have hev : ∀ fate, ev ≠ .advance i fate := fun fate heq => hown ⟨fate, heq⟩
      rcases stages_step_of_ne requests m hev with hsame | hcrashed
      . rw [hsame] at hcontends
        exact hno (.overtaken hkey hcontends hev hold hp)
      . simp [hcrashed, Stage.Contends] at hcontends

/--
How a command that is answered ends a call.
-/
theorem finished_of_done (hkey : (requests i).key? = some key)
    (h : (step requests m (.advance i .done)).stages i = .finished outcome)
    : m.stages i = .finished outcome ∨ (∃ q, outcome = .ok q) ∨ outcome = alreadyProcessing
        ∨ ∃ since, m.stages i = .holding since (.releasing outcome) := by
  have hproceeds := advance_proceeds requests m i .done
  generalize step requests m (.advance i .done) = m' at *
  cases hproceeds with
  | idle => exact .inl h
  | refuse hnone => cases hkey.symm.trans hnone
  | @lookup key =>
    cases hcache : m.cache key with
    | none => simp [lookup, hcache, move] at h
    | some entry =>
      simp only [lookup, hcache, move, Function.update_self, Stage.finished.injEq] at h
      exact .inr (.inl ⟨_, h.symm⟩)
  | @acquire key =>
    cases hlock : m.locks key with
    | none => simp [acquire, hlock, move] at h
    | some expires =>
      simp only [acquire, hlock, move, Function.update_self, Stage.finished.injEq] at h
      exact .inr (.inr (.inl h.symm))
  | @transact key =>
    cases hrun : ((requests i).block key).run database m.store with
    | error e => simp [transact, hrun, move] at h
    | ok res => simp [transact, hrun, move] at h
  | cacheResponse => simp [cacheResponse, move] at h
  | publish => simp [publish, move] at h
  | @release _ since outcome' hkey' hi =>
    simp only [release, move, Function.update_self, Stage.finished.injEq] at h
    subst h
    exact .inr (.inr (.inr ⟨since, hi⟩))

/--
If call `i` has ended, then with `p` or refused by the lock.
-/
def EndsWell (m : PaymentSystem ι) (i : ι) (p : Payment) : Prop :=
  ∀ outcome, m.stages i = .finished outcome → outcome = .ok p ∨ outcome = alreadyProcessing

theorem endsWell_step (hinv : Inv requests (step requests m ev)) (h : Settled requests m)
    (hno : NoWindow requests m ev) (hp : p ∈ m.store.payments.rows)
    (hkey : (requests i).key? = some p.idempotencyKey) (hi : EndsWell m i p)
    : EndsWell (step requests m ev) i p := by
  intro outcome hend
  have hp' := (step_grows requests m ev).payments.subset hp
  by_cases hown : ∃ fate, ev = .advance i fate
  . rcases hown with ⟨fate, rfl⟩
    by_cases hover : (m.stages i).Over
    . rw [advance_over hover] at hend
      exact hi outcome hend
    . have hfate : fate = .done := by
        by_contra hfate
        exact hno (.unanswered hkey hover hfate ⟨p, hp', rfl⟩)
      subst hfate
      have hreturned : ∀ q, outcome = .ok q → outcome = .ok p := by
        rintro q rfl
        rw [hinv.returned_eq hp' hkey hend]
      rcases finished_of_done hkey hend with hsame | ⟨q, hq⟩ | hrefused | ⟨since, hreleasing⟩
      . exact hi outcome hsame
      . exact .inl (hreturned q hq)
      . exact .inr hrefused
      . cases houtcome : outcome with
        | ok q => exact .inl (houtcome ▸ hreturned q houtcome)
        | error e =>
          right
          by_contra hne
          rw [houtcome] at hreleasing
          exact h i _ hkey ⟨p, hp, rfl⟩ (.inr ⟨since, e, hreleasing, hne⟩)
  . rcases stages_step_of_ne requests m (fun fate heq => hown ⟨fate, heq⟩) with hsame | hcrashed
    . rw [hsame] at hend
      exact hi outcome hend
    . cases hcrashed.symm.trans hend

theorem endsWell_run {es : List (PaymentEvent ι)} (hinv : Inv requests m) (h : Settled requests m)
    (hno : Run.Along (step requests) (NoWindow requests) m es) (hp : p ∈ m.store.payments.rows)
    (hkey : (requests i).key? = some p.idempotencyKey) (hi : EndsWell m i p)
    : EndsWell (Run.run (step requests) m es) i p := by
  induction es generalizing m with
  | nil => exact hi
  | cons ev es ih =>
    have hinv' := inv_step m ev hinv
    exact ih hinv' (settled_step h hno.1) hno.2 ((step_grows requests m ev).payments.subset hp)
      (endsWell_step hinv' h hno.1 hp hkey hi)

theorem settled_run {es : List (PaymentEvent ι)} (h : Settled requests m)
    (hno : Run.Along (step requests) (NoWindow requests) m es)
    : Settled requests (Run.run (step requests) m es) := by
  induction es generalizing m with
  | nil => exact h
  | cons ev es ih => exact ih (settled_step h hno.1) hno.2

omit [DecidableEq ι] in
theorem settled_initial (requests : ι → PaymentRequest) (users : Table User.id)
    : Settled requests (initial users) := by
  rintro i key _ ⟨p, hp, _⟩
  cases hp

theorem retriesReplayed_of_noWindow {users : Table User.id} {es : List (PaymentEvent ι)}
    (hno : Run.Along (step requests) (NoWindow requests) (initial users) es)
    : RetriesReplayed requests users es := by
  rintro pre i p outcome ⟨suf, rfl⟩ hp hkey hunfinished hend
  rw [Run.along_append_iff] at hno
  rw [Run.run_append] at hend
  exact endsWell_run (inv_run requests users pre) (settled_run (settled_initial requests users) hno.1)
    hno.2 hp hkey (fun outcome' h => absurd h (hunfinished outcome')) outcome hend

section Converse

variable {users : Table User.id} {pre es : List (PaymentEvent ι)} {e : Failure}

theorem store_of_stored (hp : HasKey key m) (hkey : (requests i).key? = some key) (fate : Fate)
    : (step requests m (.advance i fate)).store = m.store := by
  by_contra hne
  have hpays : Pays requests key m (.advance i fate) := ⟨i, fate, rfl, hkey, hne⟩
  rcases hp with ⟨p, hp, hpkey⟩
  exact hpays.stored.1 p hp hpkey

theorem locked_fails (hp : HasKey key m) (hkey : (requests i).key? = some key) {since : ℕ}
    (hi : m.stages i = .holding since .locked)
    : ∃ e, (step requests m (.advance i .done)).stages i = .holding since (.releasing (.error e))
      ∧ .error e ≠ alreadyProcessing := by
  have hsame := store_of_stored hp hkey .done
  rw [advance_locked hkey hi] at hsame ⊢
  cases hrun : ((requests i).block key).run database m.store with
  | error e =>
    refine ⟨e, by simp [transact, hrun, move], ?_⟩
    exact ((throws_block (requests i) key).of_run noConflict_exec hrun).ne
  | ok res =>
    simp only [transact, hrun] at hsame
    exact absurd hsame (store_ne_of_run hrun)

/--
If it goes on, a call that contends for a key that is paid for ends with an error of its own.
-/
theorem contends_fails (hp : HasKey key m) (hkey : (requests i).key? = some key)
    (hi : (m.stages i).Contends)
    : ∃ n e, (Run.run (step requests) m (List.replicate n (.advance i .done))).stages i =
        .finished (.error e)
      ∧ .error e ≠ alreadyProcessing := by
  have hrelease : ∀ {m' : PaymentSystem ι} {since e},
      m'.stages i = .holding since (.releasing (.error e)) →
      (step requests m' (.advance i .done)).stages i = .finished (.error e) := by
    intro m' since e hi
    rw [advance_releasing hkey hi]
    simp [release, move]
  rcases hi with ⟨since, hi⟩ | ⟨since, e, hi, hne⟩
  . rcases locked_fails hp hkey hi with ⟨e, hi, hne⟩
    exact ⟨2, e, hrelease hi, hne⟩
  . exact ⟨1, e, hrelease hi, hne⟩

theorem unanswered_cases (hkey : (requests i).key? = some key) (hi : ¬(m.stages i).Over)
    (hfate : fate ≠ .done)
    : (step requests m (.advance i fate)).store = m.store
          ∧ (step requests m (.advance i fate)).stages i = .finished (.error .connection)
        ∨ ∃ since, (step requests m (.advance i fate)).stages i =
          .holding since (.releasing (.error .connection)) := by
  have hproceeds := advance_proceeds requests m i fate
  generalize step requests m (.advance i fate) = m' at *
  cases hproceeds with
  | idle hidle =>
    rcases hidle with hnone | hover
    . cases hkey.symm.trans hnone
    . exact absurd hover hi
  | refuse hnone => cases hkey.symm.trans hnone
  | lookup => cases fate <;> simp_all [lookup, move]
  | @acquire key =>
    cases fate with
    | done => exact absurd rfl hfate
    | lost => cases hlock : m.locks key <;> simp [acquire, hlock, move, setLock]
    | failed => simp [acquire, move]
  | @transact key =>
    right
    cases fate with
    | done => exact absurd rfl hfate
    | lost =>
      cases hrun : ((requests i).block key).run database m.store <;> simp [transact, hrun, move]
    | failed => simp [transact, move]
  | cacheResponse => cases fate <;> simp_all [cacheResponse, move]
  | publish => cases fate <;> simp_all [publish, move]
  | release => cases fate <;> simp_all [release, move, setLock]

theorem not_retriesReplayed (hpre : pre <+: es)
    (hp : HasKey key (Run.run (step requests) (initial users) pre))
    (hkey : (requests i).key? = some key)
    (hi : ¬((Run.run (step requests) (initial users) pre).stages i).Over)
    (hend : (Run.run (step requests) (initial users) es).stages i = .finished (.error e))
    (hne : .error e ≠ alreadyProcessing)
    : ¬RetriesReplayed requests users es := by
  rcases hp with ⟨p, hp, rfl⟩
  intro h
  rcases h pre i p (.error e) hpre hp hkey (fun outcome ho => hi (.inl ⟨outcome, ho⟩)) hend
    with houtcome | houtcome
  . cases houtcome
  . exact hne houtcome

theorem not_retriesReplayed_of_contends
    (hp : HasKey key (Run.run (step requests) (initial users) (pre ++ [ev])))
    (hkey : (requests i).key? = some key)
    (hi : ((Run.run (step requests) (initial users) (pre ++ [ev])).stages i).Contends)
    : ∃ n, ¬RetriesReplayed requests users (pre ++ ev :: List.replicate n (.advance i .done)) := by
  rcases contends_fails hp hkey hi with ⟨n, e, hend, hne⟩
  rw [← Run.run_append, List.append_assoc, List.singleton_append] at hend
  have hpre : pre ++ [ev] <+: pre ++ ev :: List.replicate n (.advance i .done) := by simp
  refine ⟨n, not_retriesReplayed hpre hp hkey ?_ hend hne⟩
  rcases hi with ⟨since, hi⟩ | ⟨since, e, hi, _⟩ <;> simp [Stage.Over, hi]

theorem stages_of_stored {j : ι} (hnew : ¬HasKey key m) (hp : HasKey key (step requests m ev))
    (hev : ∀ fate, ev ≠ .advance j fate)
    : (step requests m ev).stages j = m.stages j := by
  cases ev with
  | advance i fate =>
    have hne : j ≠ i := by
      rintro rfl
      exact hev fate rfl
    exact stages_advance_of_ne hne requests m fate
  | crash i =>
    have hsame : (step requests m (.crash i)).store = m.store := by
      unfold step
      dsimp only
      split <;> rfl
    unfold HasKey at hp
    rw [hsame] at hp
    exact absurd hp hnew
  | _ => rfl

theorem not_retriesReplayed_of_window
    (h : Window requests (Run.run (step requests) (initial users) pre) ev)
    : ∃ j n, ¬RetriesReplayed requests users (pre ++ ev :: List.replicate n (.advance j .done)) := by
  cases h with
  | @late i key hkey hi hlock hp =>
    refine ⟨i, not_retriesReplayed_of_contends ?_ hkey ?_⟩
    . rw [Run.run_append_singleton]
      exact hasKey_step _ _ hp
    . rw [Run.run_append_singleton, advance_missed hkey hi]
      refine .inl ⟨(Run.run (step requests) (initial users) pre).now, ?_⟩
      simp [acquire, hlock, move]
  | @overtaken j key _ hkey hj hev hnew hp =>
    refine ⟨j, not_retriesReplayed_of_contends ?_ hkey ?_⟩
    . rw [Run.run_append_singleton]
      exact hp
    . rw [Run.run_append_singleton, stages_of_stored hnew hp hev]
      exact hj
  | @unanswered i key fate hkey hi hfate hp =>
    rcases unanswered_cases hkey hi hfate with ⟨hstore, hend⟩ | ⟨since, hend⟩
    . rw [← Run.run_append_singleton (step requests)] at hend
      refine ⟨i, 0, not_retriesReplayed (List.prefix_append _ _) ?_ hkey hi hend (by decide)⟩
      unfold HasKey at hp ⊢
      rwa [hstore] at hp
    . refine ⟨i, not_retriesReplayed_of_contends ?_ hkey ?_⟩
      . rw [Run.run_append_singleton]
        exact hp
      . rw [Run.run_append_singleton]
        exact .inr ⟨since, _, hend, by decide⟩

end Converse

/--
Outside the windows every retried payment is replayed, and after a step in a window the call concerned
ends with an error of its own if it goes on. From the write of the response until it expires, a call that
asks for it returns the payment.
-/
theorem retries_replayed_outside_windows (requests : ι → PaymentRequest) (users : Table User.id)
    (es : List (PaymentEvent ι))
    : (Run.Along (step requests) (NoWindow requests) (initial users) es →
          RetriesReplayed requests users es)
        ∧ (∀ pre ev, pre ++ [ev] <+: es →
          Window requests (Run.run (step requests) (initial users) pre) ev →
          ∃ j n, ¬RetriesReplayed requests users
            (pre ++ ev :: List.replicate n (.advance j .done)))
        ∧ ∀ pre i since p fate suf j more,
          (Run.run (step requests) (initial users) pre).stages i = .holding since (.committed p) →
          fate ≠ .failed → .expireCache p.idempotencyKey ∉ suf →
          (requests j).key? = some p.idempotencyKey →
          (Run.run (step requests) (initial users) (pre ++ .advance i fate :: suf)).stages j =
            .ready →
          (Run.run (step requests) (initial users)
              (pre ++ .advance i fate :: suf ++ .advance j .done :: more)).stages j =
            .finished (.ok p) := by
  refine ⟨retriesReplayed_of_noWindow, ?_, ?_⟩
  . intro pre ev _ hwindow
    exact not_retriesReplayed_of_window hwindow
  . intro pre i since p fate suf j more hi hfate hsuf hkey hj
    exact cached_response_returned hi hfate hsuf hkey hj

-- The second call has looked for the response before the first one has written it, and locks after.
theorem overtaken_lookup_not_replayed
    : ¬RetriesReplayed retries sampleUsers
        (.advance true .done :: sampleRun false ++ List.replicate 3 (.advance true .done)) := by
  intro h
  have houtcome := h (.advance true .done :: sampleRun false) true samplePaid
    (.error (.prisma .P2002)) (List.prefix_append _ _) (by decide +kernel) rfl
  have hmissed : (Run.run (step retries) (initial sampleUsers)
      (.advance true .done :: sampleRun false)).stages true = .missed := by
    decide +kernel
  rw [hmissed] at houtcome
  have := houtcome (by simp) (by decide +kernel)
  revert this
  decide

end PaymentSystem

end Banking
