import BankingApi.Payment.Failures

/-!
This module contains the lock of a key: which calls hold it, and whose lock a call deletes.
-/

namespace Banking

namespace PaymentSystem

variable {ι : Type}

/--
The call has acquired the lock of the key at the time `since` and has not come to releasing it.
-/
def Holds (requests : ι → PaymentRequest) (m : PaymentSystem ι) (i : ι) (key : IdempotencyKey)
    (since : ℕ)
    : Prop :=
  (requests i).key? = some key ∧ ∃ phase, m.stages i = .holding since phase

def Excludes (requests : ι → PaymentRequest) (m : PaymentSystem ι) : Prop :=
  ∀ i j key since since', i ≠ j → Holds requests m i key since → Holds requests m j key since' →
    since + 10 ≤ m.now ∨ since' + 10 ≤ m.now

-- Redis lets no key expire before its time.
def Timely (m : PaymentSystem ι) (ev : PaymentEvent ι) : Prop :=
  ∀ key expires, ev = .expireLock key → m.locks key = some expires → expires ≤ m.now

instance (m : PaymentSystem ι) (ev : PaymentEvent ι) : Decidable (Timely m ev) :=
  match ev with
  | .expireLock key =>
    decidable_of_iff (∀ expires ∈ m.locks key, expires ≤ m.now) <| by
      constructor
      . rintro h _ expires ⟨⟩
        exact h expires
      . exact fun h expires => h key expires rfl
  | .advance _ _ | .crash _ | .expireCache _ | .tick | .database _ =>
    .isTrue (by simp [Timely])

/--
A call deletes the lock of its key when its own has expired and call `j` has acquired the next.
-/
def LateRelease (requests : ι → PaymentRequest) (m : PaymentSystem ι) (ev : PaymentEvent ι)
    (j : ι) (key : IdempotencyKey)
    : Prop :=
  ∃ i fate since outcome since', i ≠ j ∧ ev = .advance i fate ∧ fate ≠ .failed
    ∧ (requests i).key? = some key ∧ m.stages i = .holding since (.releasing outcome)
    ∧ since + 10 ≤ m.now ∧ Holds requests m j key since' ∧ m.now < since' + 10

def NoLateRelease (requests : ι → PaymentRequest) (m : PaymentSystem ι) (ev : PaymentEvent ι)
    : Prop :=
  ∀ j key, ¬LateRelease requests m ev j key

structure LockInv (requests : ι → PaymentRequest) (m : PaymentSystem ι) : Prop where
  locked : ∀ i key since, Holds requests m i key since → m.now < since + 10 →
    m.locks key = some (since + 10)
  excludes : Excludes requests m

/--
What a step does to the locks. If the answer to SET is lost, then nobody holds the lock that is set.
-/
inductive LockStep (requests : ι → PaymentRequest) (m : PaymentSystem ι) (ev : PaymentEvent ι)
    : (IdempotencyKey → Option ℕ) → Prop where
  | same : LockStep requests m ev m.locks
  | set {key} (hlock : m.locks key = none)
    : LockStep requests m ev (Function.update m.locks key (some (m.now + 10)))
  | del {i fate key since outcome} (hev : ev = .advance i fate) (hfate : fate ≠ .failed)
      (hkey : (requests i).key? = some key) (hi : m.stages i = .holding since (.releasing outcome))
    : LockStep requests m ev (Function.update m.locks key none)
  | expire {key} (hev : ev = .expireLock key)
    : LockStep requests m ev (Function.update m.locks key none)

variable [DecidableEq ι] {requests : ι → PaymentRequest} {m : PaymentSystem ι} {ev : PaymentEvent ι}
  {i j k : ι} {key : IdempotencyKey} {since since' : ℕ} {fate : Fate}

section Inversion

theorem lockStep_acquire
    : LockStep requests m (.advance i fate) (m.acquire i key fate).locks := by
  unfold acquire
  split
  . next hlock => exact .set hlock
  . exact .same
  . next hlock => exact .set hlock
  . exact .same

theorem lockStep_release {outcome : Except Failure Payment} (hkey : (requests i).key? = some key)
    (hi : m.stages i = .holding since (.releasing outcome))
    : LockStep requests m (.advance i fate) (m.release i key outcome fate).locks := by
  cases fate with
  | done => exact .del rfl (by simp) hkey hi
  | lost => exact .del rfl (by simp) hkey hi
  | failed => exact .same

theorem lock_cases (requests : ι → PaymentRequest) (m : PaymentSystem ι) (ev : PaymentEvent ι)
    : LockStep requests m ev (step requests m ev).locks := by
  cases ev with
  | advance i fate =>
    have hproceeds := advance_proceeds requests m i fate
    generalize step requests m (.advance i fate) = m' at *
    cases hproceeds with
    | idle => exact .same
    | refuse => exact .same
    | lookup =>
      unfold lookup
      repeat' split
      all_goals exact .same
    | acquire => exact lockStep_acquire
    | transact =>
      unfold transact
      split <;> exact .same
    | cacheResponse =>
      unfold cacheResponse
      split <;> exact .same
    | publish =>
      unfold publish
      dsimp only
      split <;> exact .same
    | release hkey hi => exact lockStep_release hkey hi
  | crash i =>
    unfold step
    dsimp only
    split <;> exact .same
  | expireLock key => exact .expire rfl
  | _ => exact .same

theorem now_advance : (step requests m (.advance i fate)).now = m.now := by
  have hproceeds := advance_proceeds requests m i fate
  generalize step requests m (.advance i fate) = m' at *
  cases hproceeds with
  | idle => rfl
  | refuse => rfl
  | lookup =>
    unfold lookup
    repeat' split
    all_goals rfl
  | acquire =>
    unfold acquire
    split <;> rfl
  | transact =>
    unfold transact
    split <;> rfl
  | cacheResponse => cases fate <;> rfl
  | publish => cases fate <;> rfl
  | release => cases fate <;> rfl

theorem now_le_step (requests : ι → PaymentRequest) (m : PaymentSystem ι) (ev : PaymentEvent ι)
    : m.now ≤ (step requests m ev).now := by
  cases ev with
  | advance i fate => exact le_of_eq now_advance.symm
  | crash i =>
    unfold step
    dsimp only
    split <;> exact le_rfl
  | tick => exact Nat.le_succ m.now
  | _ => exact le_rfl

theorem holds_cases (h : Holds requests (step requests m ev) i key since)
    : Holds requests m i key since
        ∨ ev = .advance i .done ∧ m.locks key = none ∧ since = m.now
          ∧ (step requests m ev).locks key = some (m.now + 10) := by
  rcases h with ⟨hkey, phase, hi⟩
  rcases stage_step_cases requests m ev i with ⟨fate, rfl, hstep⟩ | hsame | hcrashed
  . generalize hstage : (step requests m (.advance i fate)).stages i = stage at *
    cases hstep with
    | stay => exact .inl ⟨hkey, phase, hi⟩
    | refused => cases hi
    | hit => cases hi
    | miss => cases hi
    | @acquire key' hkey' hi' hfate hlock =>
      cases hi
      cases hkey.symm.trans hkey'
      subst hfate
      right
      refine ⟨rfl, hlock, rfl, ?_⟩
      rw [advance_missed hkey hi']
      simp [acquire, hlock, setLock, move]
    | commit hi' =>
      cases hi
      exact .inl ⟨hkey, _, hi'⟩
    | cache hi' =>
      cases hi
      exact .inl ⟨hkey, _, hi'⟩
    | publish _ hi' =>
      cases hi
      exact .inl ⟨hkey, _, hi'⟩
    | fail hi' =>
      cases hi
      exact .inl ⟨hkey, _, hi'⟩
    | release => cases hi
    | unreleased => cases hi
  . exact .inl ⟨hkey, phase, hsame.symm.trans hi⟩
  . cases hcrashed.symm.trans hi

end Inversion

theorem not_holds_release {outcome : Except Failure Payment} (hkey : (requests i).key? = some key)
    (hi : m.stages i = .holding since (.releasing outcome))
    : ¬Holds requests (step requests m (.advance i fate)) i key since' := by
  rintro ⟨_, phase, h⟩
  rw [advance_releasing hkey hi] at h
  cases fate <;> simp [release, move] at h

/--
The lock of a call that has not had it for ten seconds stays, unless another call deletes it late.
-/
theorem LockInv.locked_step (h : LockInv requests m) (htimely : Timely m ev)
    (hlate : NoLateRelease requests m ev) (hi : Holds requests m i key since)
    (hi' : Holds requests (step requests m ev) i key since) (hyoung : m.now < since + 10)
    : (step requests m ev).locks key = some (since + 10) := by
  have hlock := h.locked i key since hi hyoung
  have hstep := lock_cases requests m ev
  generalize (step requests m ev).locks = locks at *
  cases hstep with
  | same => exact hlock
  | @set key' hnone =>
    have hne : key ≠ key' := by
      rintro rfl
      cases hnone.symm.trans hlock
    rwa [Function.update_of_ne hne]
  | @del j fate key' since' outcome hev hfate hkey hj =>
    have hne : key ≠ key' := by
      rintro rfl
      by_cases hij : j = i
      . subst hij hev
        exact not_holds_release hkey hj hi'
      . have hold : since' + 10 ≤ m.now := by
          have := h.excludes j i key since' since hij ⟨hkey, _, hj⟩ hi
          omega
        exact hlate i key ⟨j, fate, since', outcome, since, hij, hev, hfate, hkey, hj, hold, hi, hyoung⟩
    rwa [Function.update_of_ne hne]
  | @expire key' hev =>
    have hne : key ≠ key' := by
      rintro rfl
      have := htimely key _ hev hlock
      omega
    rwa [Function.update_of_ne hne]

omit [DecidableEq ι] in
theorem LockInv.excludes_of_acquired (h : LockInv requests m) (hj : Holds requests m j key since')
    (hlock : m.locks key = none)
    : since' + 10 ≤ m.now := by
  by_contra hyoung
  cases hlock.symm.trans (h.locked j key since' hj (by omega))

theorem LockInv.step (h : LockInv requests m) (htimely : Timely m ev)
    (hlate : NoLateRelease requests m ev)
    : LockInv requests (step requests m ev) where
  locked := by
    intro i key since hi hyoung
    have hnow := now_le_step requests m ev
    rcases holds_cases hi with hold | ⟨_, _, rfl, hlock⟩
    . exact h.locked_step htimely hlate hold hi (by omega)
    . exact hlock
  excludes := by
    intro i j key since since' hij hi hj
    have hnow := now_le_step requests m ev
    rcases holds_cases hi with hi | ⟨hev, hnone, _, _⟩
    . rcases holds_cases hj with hj | ⟨_, hnone, _, _⟩
      . rcases h.excludes i j key since since' hij hi hj with hold | hold
        . left
          omega
        . right
          omega
      . left
        have := h.excludes_of_acquired hi hnone
        omega
    . rcases holds_cases hj with hj | ⟨hev', _⟩
      . right
        have := h.excludes_of_acquired hj hnone
        omega
      . cases hev.symm.trans hev'
        exact absurd rfl hij

omit [DecidableEq ι] in
theorem lockInv_initial (requests : ι → PaymentRequest) (users : Table User.id)
    : LockInv requests (initial users) where
  locked := by simp [Holds, initial]
  excludes := by simp [Excludes, Holds, initial]

theorem LockInv.run {es : List (PaymentEvent ι)} (h : LockInv requests m)
    (htimely : Run.Along (PaymentSystem.step requests) Timely m es)
    (hlate : Run.Along (PaymentSystem.step requests) (NoLateRelease requests) m es)
    : LockInv requests (Run.run (PaymentSystem.step requests) m es) := by
  induction es generalizing m with
  | nil => exact h
  | cons ev es ih => exact ih (h.step htimely.1 hlate.1) htimely.2 hlate.2

theorem Holds.advance (h : Holds requests m j key since) (hne : j ≠ i) (fate : Fate)
    : Holds requests (step requests m (.advance i fate)) j key since := by
  unfold Holds
  rw [stages_advance_of_ne hne]
  exact h

theorem holds_acquire (hkey : (requests k).key? = some key) (hk : m.stages k = .missed)
    (hlock : m.locks key = none)
    : Holds requests (step requests m (.advance k .done)) k key m.now := by
  refine ⟨hkey, .locked, ?_⟩
  rw [advance_missed hkey hk]
  simp [acquire, hlock, move]

theorem locks_release {outcome : Except Failure Payment} (hkey : (requests i).key? = some key)
    (hi : m.stages i = .holding since (.releasing outcome)) (hfate : fate ≠ .failed)
    : (step requests m (.advance i fate)).locks key = none := by
  rw [advance_releasing hkey hi]
  cases fate with
  | failed => exact absurd rfl hfate
  | _ => simp [release, setLock, move]

theorem LateRelease.admits (h : LateRelease requests m ev j key)
    (hkey : (requests k).key? = some key) (hk : m.stages k = .missed)
    : ¬Excludes requests (step requests (step requests m ev) (.advance k .done)) := by
  rcases h with ⟨i, fate, since, outcome, since', hij, rfl, hfate, hkey', hi, hold, hj, hyoung⟩
  have hki : k ≠ i := by
    rintro rfl
    cases hk.symm.trans hi
  have hkj : k ≠ j := by
    rintro rfl
    rcases hj with ⟨_, _, hj⟩
    cases hk.symm.trans hj
  have hacquired := holds_acquire hkey ((stages_advance_of_ne hki requests m fate).trans hk)
    (locks_release hkey' hi hfate)
  have hheld := (hj.advance hij.symm fate).advance hkj.symm .done
  intro hexcludes
  have := hexcludes j k key since' _ hkj.symm hheld hacquired
  rw [now_advance, now_advance] at this
  omega

section Runs

variable {users : Table User.id}

/--
In a run in which no call deletes the lock of another, of two calls with the same key that are both
between acquiring the lock and releasing it one has acquired it ten seconds ago. If a call does, then the
next one that asks for the lock has it beside a call that still counts on it.
-/
theorem lock_excludes_without_late_release (requests : ι → PaymentRequest) (users : Table User.id)
    (es : List (PaymentEvent ι)) (htimely : Run.Along (step requests) Timely (initial users) es)
    : (Run.Along (step requests) (NoLateRelease requests) (initial users) es →
          ∀ pre, pre <+: es → Excludes requests (Run.run (step requests) (initial users) pre))
        ∧ ∀ pre ev, pre ++ [ev] <+: es → ∀ j key,
          LateRelease requests (Run.run (step requests) (initial users) pre) ev j key →
          ∀ k, (requests k).key? = some key →
            (Run.run (step requests) (initial users) pre).stages k = .missed →
            ¬Excludes requests
              (Run.run (step requests) (initial users) (pre ++ [ev, .advance k .done])) := by
  constructor
  . rintro hlate pre ⟨suf, rfl⟩
    have htimely' := (Run.along_append_iff.mp htimely).1
    have hlate' := (Run.along_append_iff.mp hlate).1
    exact ((lockInv_initial requests users).run htimely' hlate').excludes
  . intro pre ev _ j key hlate k hkey hk
    rw [Run.run_append]
    exact hlate.admits hkey hk

end Runs

def rivals (i : Fin 3) : PaymentRequest :=
  samplePayment "bob" (match i with | 0 => "2" | 1 => "3" | 2 => "4")

-- The second call acquires the lock when that of the first has expired, and the first one finishes.
def lateRun : List (PaymentEvent (Fin 3)) :=
  sampleDeposit.map .database ++ List.replicate 2 (.advance 0 .done) ++ List.replicate 10 .tick
    ++ [.expireLock "XYZ", .advance 1 .done, .advance 1 .done, .advance 2 .done]
    ++ List.replicate 3 (.advance 0 .done)

theorem late_release_admits_third
    : ¬Excludes rivals
        (Run.run (step rivals) (initial sampleUsers)
          (lateRun ++ [.advance 0 .done, .advance 2 .done])) := by
  have htimely : Run.Along (step rivals) Timely (initial sampleUsers)
      (lateRun ++ [.advance 0 .done, .advance 2 .done]) := by
    decide +kernel
  apply (lock_excludes_without_late_release rivals sampleUsers _ htimely).2 lateRun (.advance 0 .done)
    ?_ 1 "XYZ" ?_ 2 rfl
  . decide +kernel
  . exact List.prefix_append_right_inj _ |>.mpr (by simp)
  . refine ⟨0, .done, 0, .ok samplePaid, 10, by decide, rfl, by decide, rfl, ?_, ?_, ?_, ?_⟩
    . decide +kernel
    . decide +kernel
    . exact ⟨rfl, .locked, by decide +kernel⟩
    . decide +kernel

theorem lock_held_twice
    : Run.Along (step rivals) Timely (initial sampleUsers)
          (lateRun ++ [.advance 0 .done, .advance 2 .done])
        ∧ ¬Excludes rivals (Run.run (step rivals) (initial sampleUsers)
          (lateRun ++ [.advance 0 .done, .advance 2 .done])) := by
  refine ⟨by decide +kernel, ?_⟩
  intro h
  have := h 1 2 "XYZ" 10 10 (by decide) ⟨rfl, .locked, by decide +kernel⟩
    ⟨rfl, .locked, by decide +kernel⟩
  revert this
  decide +kernel

end PaymentSystem

end Banking
