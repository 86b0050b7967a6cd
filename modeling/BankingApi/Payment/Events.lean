import BankingApi.Payment.Failures
import BankingApi.Payment.Ownership

/-!
This module contains the events of payments: where the jobs in the queue come from, and the calls that
return a payment before there is one.
-/

namespace Banking

-- The call has got past the publishing of its event, or it has never come to it and never will.
def Stage.Past (stage : Stage) : Prop :=
  match stage with
  | .holding _ (.releasing _) => True
  | .finished _ => True
  | .crashed => True
  | _ => False

namespace PaymentSystem

variable {ι : Type} [DecidableEq ι] {requests : ι → PaymentRequest} {m : PaymentSystem ι}
  {ev : PaymentEvent ι} {i : ι} {fate : Fate} {p : Payment}

def HasJob (m : PaymentSystem ι) (p : Payment) : Prop :=
  ∃ job ∈ m.queue, job.paymentId = p.id

def ReturnsPublished (m : PaymentSystem ι) : Prop :=
  ∀ i p, m.stages i = .finished (.ok p) → HasJob m p

def Publishes (requests : ι → PaymentRequest) (m : PaymentSystem ι) (ev : PaymentEvent ι)
    (i : ι) (p : Payment)
    : Prop :=
  ∃ fate since, ev = .advance i fate ∧ fate ≠ .failed ∧ (requests i).key?.isSome
    ∧ m.stages i = .holding since (.cached p)

-- In the run the call that has made the payment has published its event.
def PublishedIn (requests : ι → PaymentRequest) (users : Table User.id)
    (es : List (PaymentEvent ι)) (p : Payment)
    : Prop :=
  ∃ pre ev i, pre ++ [ev] <+: es
    ∧ Publishes requests (Run.run (step requests) (initial users) pre) ev i p

section Inversion

theorem queue_publish (since : ℕ) (payment : Payment)
    : (m.publish i since payment fate).queue =
      if fate = .failed then m.queue
      else m.queue ++ [⟨payment.id, payment.paymentRef, payment.amount, payment.method⟩] := by
  cases fate <;> rfl

theorem queue_step (requests : ι → PaymentRequest) (m : PaymentSystem ι) (ev : PaymentEvent ι)
    : (step requests m ev).queue = m.queue ∧ (∀ i p, ¬Publishes requests m ev i p)
        ∨ ∃ i p job, Publishes requests m ev i p ∧ job.paymentId = p.id
          ∧ (step requests m ev).queue = m.queue ++ [job]
          ∧ ((step requests m ev).stages i).Past := by
  by_cases hpublishes : ∃ i p, Publishes requests m ev i p
  . right
    rcases hpublishes with ⟨i, p, fate, since, rfl, hfate, hsome, hi⟩
    rcases Option.isSome_iff_exists.mp hsome with ⟨key, hkey⟩
    refine ⟨i, p, ⟨p.id, p.paymentRef, p.amount, p.method⟩, ⟨fate, since, rfl, hfate, hsome, hi⟩, rfl,
      ?_, ?_⟩
    . rw [advance_cached hkey hi, queue_publish, if_neg hfate]
    . rw [advance_cached hkey hi]
      cases fate <;> simp [publish, move, Stage.Past]
  . left
    refine ⟨?_, fun i p h => hpublishes ⟨i, p, h⟩⟩
    cases ev with
    | advance i fate =>
      have hproceeds := advance_proceeds requests m i fate
      generalize step requests m (.advance i fate) = m' at *
      cases hproceeds with
      | idle => rfl
      | refuse => rfl
      | lookup =>
        unfold lookup
        repeat' split
        all_goals rfl
      | acquire =>
        unfold acquire
        split <;> rfl
      | transact =>
        unfold transact
        split <;> rfl
      | cacheResponse => cases fate <;> rfl
      | publish hkey hi =>
        rw [queue_publish, if_pos]
        by_contra hfate
        exact hpublishes ⟨i, _, fate, _, rfl, hfate, by simp [hkey], hi⟩
      | release => cases fate <;> rfl
    | crash i =>
      unfold step
      dsimp only
      split <;> rfl
    | _ => rfl

theorem past_step (m : PaymentSystem ι) (ev : PaymentEvent ι) (h : (m.stages i).Past)
    : ((step requests m ev).stages i).Past := by
  rcases stage_step_cases requests m ev i with ⟨fate, rfl, hstep⟩ | hsame | hcrashed
  . generalize (step requests m (.advance i fate)).stages i = stage at *
    cases hstep with
    | stay => exact h
    | refused => trivial
    | hit => trivial
    | miss hi => simp [hi, Stage.Past] at h
    | acquire _ hi => simp [hi, Stage.Past] at h
    | commit hi => simp [hi, Stage.Past] at h
    | cache hi => simp [hi, Stage.Past] at h
    | publish => trivial
    | fail => trivial
    | release => trivial
    | unreleased => trivial
  . rw [hsame]
    exact h
  . rw [hcrashed]
    trivial

theorem releasing_ok_cases {since : ℕ}
    (h : (step requests m ev).stages i = .holding since (.releasing (.ok p)))
    : m.stages i = .holding since (.releasing (.ok p)) ∨ Publishes requests m ev i p := by
  rcases stage_step_cases requests m ev i with ⟨fate, rfl, hstep⟩ | hsame | hcrashed
  . generalize (step requests m (.advance i fate)).stages i = stage at *
    cases hstep with
    | stay => exact .inl h
    | publish hkey hi hfate =>
      cases h
      exact .inr ⟨fate, since, rfl, by simp [hfate], hkey, hi⟩
    | _ => cases h
  . exact .inl (hsame.symm.trans h)
  . cases hcrashed.symm.trans h

theorem finished_ok_cases (h : (step requests m ev).stages i = .finished (.ok p))
    : m.stages i = .finished (.ok p) ∨ (∃ since, m.stages i = .holding since (.releasing (.ok p)))
        ∨ Hits requests m ev i p := by
  rcases stage_step_cases requests m ev i with ⟨fate, rfl, hstep⟩ | hsame | hcrashed
  . generalize (step requests m (.advance i fate)).stages i = stage at *
    cases hstep with
    | stay => exact .inl h
    | hit hkey hi hfate hcache =>
      cases h
      exact .inr (.inr ⟨by rw [hfate], hi, _, _, hkey, hcache⟩)
    | release hi =>
      cases h
      exact .inr (.inl ⟨_, hi⟩)
    | _ => cases h
  . exact .inl (hsame.symm.trans h)
  . cases hcrashed.symm.trans h

end Inversion

theorem committed_step (requests : ι → PaymentRequest) (m : PaymentSystem ι) (ev : PaymentEvent ι)
    : (step requests m ev).committed = m.committed
        ∨ ∃ i p, (step requests m ev).committed = m.committed ++ [(i, p)]
          ∧ m.store.payments.find? p.id = none := by
  have hstep := step_cases requests m ev
  generalize step requests m ev = m' at *
  cases hstep with
  | kept h => exact .inl h.committed
  | commit _ h =>
    right
    exact ⟨_, _, h.committed, (fresh_of_run h.run).1⟩
  | database => exact .inl rfl

theorem mem_committed_step {x : ι × Payment} (h : x ∈ m.committed)
    : x ∈ (step requests m ev).committed := by
  rcases committed_step requests m ev with hsame | ⟨i, p, happend, _⟩
  . rwa [hsame]
  . rw [happend]
    exact List.mem_append_left _ h

structure EventInv (requests : ι → PaymentRequest) (m : PaymentSystem ι) : Prop where
  inv : Inv requests m
  ids : (m.committed.map (·.2.id)).Nodup
  queued : ∀ job ∈ m.queue, ∃ j q, (j, q) ∈ m.committed ∧ job.paymentId = q.id ∧ (m.stages j).Past
  nodup : (m.queue.map PaymentSuccess.paymentId).Nodup
  published : ∀ i since p, m.stages i = .holding since (.releasing (.ok p)) → HasJob m p

namespace EventInv

omit [DecidableEq ι] in
theorem eq_of_id (h : EventInv requests m) {x y : ι × Payment} (hx : x ∈ m.committed)
    (hy : y ∈ m.committed) (hid : x.2.id = y.2.id)
    : x = y :=
  List.inj_on_of_nodup_map h.ids hx hy hid

omit [DecidableEq ι] in
theorem mem_committed (h : EventInv requests m) (hp : Publishes requests m ev i p)
    : (i, p) ∈ m.committed := by
  rcases hp with ⟨fate, since, _, _, _, hi⟩
  apply h.inv.carried
  rw [hi]
  rfl

theorem ids_step (h : EventInv requests m)
    : ((step requests m ev).committed.map (·.2.id)).Nodup := by
  rcases committed_step requests m ev with hsame | ⟨i, p, happend, hfresh⟩
  . rw [hsame]
    exact h.ids
  . rw [happend, List.map_append, List.nodup_append]
    refine ⟨h.ids, by simp, ?_⟩
    intro id hid id' hid' heq
    rw [List.map_singleton, List.mem_singleton] at hid'
    rcases List.mem_map.mp hid with ⟨x, hx, rfl⟩
    have := Table.find?_of_mem (h.inv.made x.1 x.2 hx).stored
    rw [heq, hid', hfresh] at this
    cases this

theorem queued_step (h : EventInv requests m) (job : PaymentSuccess)
    (hjob : job ∈ (step requests m ev).queue)
    : ∃ j q, (j, q) ∈ (step requests m ev).committed ∧ job.paymentId = q.id
        ∧ ((step requests m ev).stages j).Past := by
  have hold : job ∈ m.queue → ∃ j q, (j, q) ∈ (step requests m ev).committed
      ∧ job.paymentId = q.id ∧ ((step requests m ev).stages j).Past := by
    intro hmem
    rcases h.queued job hmem with ⟨j, q, hq, hid, hpast⟩
    exact ⟨j, q, mem_committed_step hq, hid, past_step m ev hpast⟩
  rcases queue_step requests m ev with ⟨hsame, _⟩ | ⟨i, p, job', hp, hid, happend, hpast⟩
  . rw [hsame] at hjob
    exact hold hjob
  . rw [happend, List.mem_append, List.mem_singleton] at hjob
    rcases hjob with hjob | rfl
    . exact hold hjob
    . exact ⟨i, p, mem_committed_step (h.mem_committed hp), hid, hpast⟩

-- The call is still at its publishing, so no job of the queue is for its payment.
theorem nodup_step (h : EventInv requests m)
    : ((step requests m ev).queue.map PaymentSuccess.paymentId).Nodup := by
  rcases queue_step requests m ev with ⟨hsame, _⟩ | ⟨i, p, job, hp, hid, happend, _⟩
  . rw [hsame]
    exact h.nodup
  . rw [happend, List.map_append, List.nodup_append]
    refine ⟨h.nodup, by simp, ?_⟩
    intro id hmem id' hid' heq
    rw [List.map_singleton, List.mem_singleton] at hid'
    rcases List.mem_map.mp hmem with ⟨job', hjob', rfl⟩
    rcases h.queued job' hjob' with ⟨j, q, hq, hid'', hpast⟩
    have hx := h.eq_of_id hq (h.mem_committed hp) (hid''.symm.trans (heq.trans (hid'.trans hid)))
    cases hx
    rcases hp with ⟨_, _, _, _, _, hi⟩
    simp [hi, Stage.Past] at hpast

end EventInv

theorem HasJob.step (h : HasJob m p) : HasJob (step requests m ev) p := by
  rcases h with ⟨job, hjob, hid⟩
  refine ⟨job, ?_, hid⟩
  rcases queue_step requests m ev with ⟨hsame, _⟩ | ⟨_, _, _, _, _, happend, _⟩
  . rwa [hsame]
  . rw [happend]
    exact List.mem_append_left _ hjob

omit [DecidableEq ι] in
theorem Publishes.eq {j : ι} {q : Payment} (h : Publishes requests m ev i p)
    (h' : Publishes requests m ev j q)
    : i = j ∧ p = q := by
  rcases h with ⟨_, _, rfl, _, _, hi⟩
  rcases h' with ⟨_, _, heq, _, _, hj⟩
  cases heq
  cases hi.symm.trans hj
  exact ⟨rfl, rfl⟩

theorem Publishes.hasJob (h : Publishes requests m ev i p) : HasJob (step requests m ev) p := by
  rcases queue_step requests m ev with ⟨_, hnot⟩ | ⟨_, _, job, h', hid, happend, _⟩
  . exact absurd h (hnot i p)
  . rcases h.eq h' with ⟨rfl, rfl⟩
    refine ⟨job, ?_, hid⟩
    rw [happend]
    simp

theorem eventInv_step (m : PaymentSystem ι) (ev : PaymentEvent ι) (h : EventInv requests m)
    : EventInv requests (step requests m ev) where
  inv := inv_step m ev h.inv
  ids := h.ids_step
  queued := h.queued_step
  nodup := h.nodup_step
  published := by
    intro i since p hi
    rcases releasing_ok_cases hi with hold | hp
    . exact (h.published i since p hold).step
    . exact hp.hasJob

omit [DecidableEq ι] in
theorem eventInv_initial (requests : ι → PaymentRequest) (users : Table User.id)
    : EventInv requests (initial users) where
  inv := inv_initial requests users
  ids := List.nodup_nil
  queued := by simp [initial]
  nodup := List.nodup_nil
  published := by simp [initial]

theorem returnsPublished_step_iff (m : PaymentSystem ι) (ev : PaymentEvent ι)
    (h : EventInv requests m) (hm : ReturnsPublished m)
    : ReturnsPublished (step requests m ev) ↔ ∀ i p, Hits requests m ev i p → HasJob m p := by
  constructor
  . intro hreturns i p hhits
    rcases hreturns i p hhits.finished with ⟨job, hjob, hid⟩
    rcases queue_step requests m ev with ⟨hsame, _⟩ | ⟨j, q, _, hp, _⟩
    . exact ⟨job, by rwa [hsame] at hjob, hid⟩
    . -- A call that looks up a response publishes nothing.
      rcases hp with ⟨_, _, rfl, _, _, hj⟩
      rcases hhits with ⟨heq, hi, _⟩
      cases heq
      cases hi.symm.trans hj
  . intro hhits i p hi
    rcases finished_ok_cases hi with hold | ⟨since, hold⟩ | hhit
    . exact (hm i p hold).step
    . exact (h.published i since p hold).step
    . exact (hhits i p hhit).step

section Runs

variable {users : Table User.id} {es : List (PaymentEvent ι)}

theorem eventInv_run (requests : ι → PaymentRequest) (users : Table User.id)
    (es : List (PaymentEvent ι))
    : EventInv requests (Run.run (step requests) (initial users) es) :=
  Run.run_invariant eventInv_step es (eventInv_initial requests users)

theorem publishedIn_append_singleton_iff
    : PublishedIn requests users (es ++ [ev]) p ↔
      PublishedIn requests users es p
        ∨ ∃ i, Publishes requests (Run.run (step requests) (initial users) es) ev i p := by
  constructor
  . rintro ⟨pre, ev', i, hpre, hp⟩
    rcases List.prefix_concat_iff.mp hpre with heq | hpre
    . rcases List.append_inj' heq rfl with ⟨hsame, hlast⟩
      rw [List.singleton_inj] at hlast
      subst hsame hlast
      exact .inr ⟨i, hp⟩
    . exact .inl ⟨pre, ev', i, hpre, hp⟩
  . rintro (⟨pre, ev', i, hpre, hp⟩ | ⟨i, hp⟩)
    . exact ⟨pre, ev', i, hpre.trans (List.prefix_append _ _), hp⟩
    . exact ⟨es, ev, i, List.prefix_rfl, hp⟩

theorem publishedIn_of_job {job : PaymentSuccess}
    (h : job ∈ (Run.run (step requests) (initial users) es).queue)
    : ∃ p, job.paymentId = p.id ∧ PublishedIn requests users es p := by
  induction es using List.reverseRecOn with
  | nil => cases h
  | append_singleton es ev ih =>
    rw [Run.run_append_singleton] at h
    simp only [publishedIn_append_singleton_iff]
    rcases queue_step requests (Run.run (step requests) (initial users) es) ev
      with ⟨hsame, _⟩ | ⟨i, p, job', hp, hid, happend, _⟩
    . rw [hsame] at h
      rcases ih h with ⟨p, hid, hp⟩
      exact ⟨p, hid, .inl hp⟩
    . rw [happend, List.mem_append, List.mem_singleton] at h
      rcases h with h | rfl
      . rcases ih h with ⟨p, hid, hp⟩
        exact ⟨p, hid, .inl hp⟩
      . exact ⟨p, hid, .inr ⟨i, hp⟩⟩

theorem PublishedIn.spec (h : PublishedIn requests users es p)
    : HasJob (Run.run (step requests) (initial users) es) p
        ∧ ∃ i, (i, p) ∈ (Run.run (step requests) (initial users) es).committed := by
  induction es using List.reverseRecOn with
  | nil =>
    rcases h with ⟨pre, ev, i, hpre, _⟩
    simp at hpre
  | append_singleton es ev ih =>
    rw [Run.run_append_singleton]
    rcases publishedIn_append_singleton_iff.mp h with h | ⟨i, hp⟩
    . rcases ih h with ⟨hjob, i, hi⟩
      exact ⟨hjob.step, i, mem_committed_step hi⟩
    . exact ⟨hp.hasJob, i, mem_committed_step ((eventInv_run requests users es).mem_committed hp)⟩

theorem hasJob_iff (h : (i, p) ∈ (Run.run (step requests) (initial users) es).committed)
    : HasJob (Run.run (step requests) (initial users) es) p ↔ PublishedIn requests users es p := by
  constructor
  . rintro ⟨job, hjob, hid⟩
    rcases publishedIn_of_job hjob with ⟨q, hid', hq⟩
    rcases hq.spec.2 with ⟨j, hj⟩
    have := (eventInv_run requests users es).eq_of_id h hj (hid.symm.trans hid')
    cases this
    exact hq
  . exact fun h => h.spec.1

/--
No payment gets two jobs. In a run every payment that a call returns has its job exactly if every call
that finds a response in the cache finds it after the call that has made the payment has published the
event.
-/
theorem returns_published_iff (requests : ι → PaymentRequest) (users : Table User.id)
    (es : List (PaymentEvent ι))
    : (∀ id, ((Run.run (step requests) (initial users) es).queue.filter
          (·.paymentId = id)).length ≤ 1)
        ∧ ((∀ pre, pre <+: es →
            ReturnsPublished (Run.run (step requests) (initial users) pre)) ↔
          ∀ pre ev, pre ++ [ev] <+: es → ∀ i p,
            Hits requests (Run.run (step requests) (initial users) pre) ev i p →
            PublishedIn requests users pre p) := by
  constructor
  . intro id
    have := List.nodup_iff_count_le_one.mp (eventInv_run requests users es).nodup id
    rw [List.count_eq_length_filter, List.filter_map, List.length_map] at this
    refine le_trans (le_of_eq ?_) this
    congr
  . rw [Run.forall_prefix_iff_along eventInv_step returnsPublished_step_iff es
      (eventInv_initial requests users) (by simp [ReturnsPublished, initial])]
    rw [← Run.forall_step_iff_along (I := fun _ => True) (fun _ _ _ _ => trivial)
      (fun _ _ _ => Iff.rfl) es trivial]
    apply forall₃_congr
    intro pre ev _
    apply forall₃_congr
    intro i p hhits
    rcases hhits with ⟨_, _, key, expires, _, hcache⟩
    rcases ((eventInv_run requests users pre).inv.cached key p expires hcache).2 with ⟨j, hj⟩
    exact hasJob_iff hj

end Runs

-- The call crashes when it has cached its response.
def unpublishedRun : List (PaymentEvent Bool) :=
  sampleDeposit.map .database ++ List.replicate 4 (.advance false .done)
    ++ [.crash false, .advance true .done]

theorem retry_returns_unpublished_payment
    : ¬ReturnsPublished (Run.run (step retries) (initial sampleUsers) unpublishedRun) := by
  intro h
  rcases h true samplePaid (by decide +kernel) with ⟨job, hjob, _⟩
  have hqueue : (Run.run (step retries) (initial sampleUsers) unpublishedRun).queue = [] := by
    decide +kernel
  rw [hqueue] at hjob
  cases hjob

end PaymentSystem

end Banking
