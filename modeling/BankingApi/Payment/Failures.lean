import BankingApi.Payment.Replay

/-!
This module contains the calls that fail, and whether they have moved money by then.
-/

namespace Banking

namespace Stage

def OnTrack (stage : Stage) : Prop :=
  stage.carried?.isSome ∨ (∃ p, stage = .finished (.ok p)) ∨ stage = .crashed

def Doomed (stage : Stage) : Prop :=
  (∃ since e, stage = .holding since (.releasing (.error e))) ∨ (∃ e, stage = .finished (.error e))
    ∨ stage = .crashed

end Stage

namespace PaymentSystem

variable {ι : Type} [DecidableEq ι] {requests : ι → PaymentRequest} {m : PaymentSystem ι} {i : ι}
  {fate : Fate}

def KeepsStore (requests : ι → PaymentRequest) (i : ι) (m : PaymentSystem ι) (ev : PaymentEvent ι)
    : Prop :=
  ∀ fate, ev = .advance i fate → (step requests m ev).store = m.store

/--
If call `i` throws in the run, then none of its steps has changed a table.
-/
def FailureMovesNothing (requests : ι → PaymentRequest) (m : PaymentSystem ι)
    (es : List (PaymentEvent ι)) (i : ι)
    : Prop :=
  ∀ e, (Run.run (step requests) m es).stages i = .finished (.error e) →
    Run.Along (step requests) (KeepsStore requests i) m es

/--
A command of call `i` fails after its database block has committed. The answer to COMMIT itself may be
lost.
-/
def LateFailure (requests : ι → PaymentRequest) (m : PaymentSystem ι) (i : ι) (fate : Fate) : Prop :=
  ∃ key, (requests i).key? = some key
    ∧ (fate ≠ .done ∧ (m.stages i).carried?.isSome
      ∨ fate = .lost ∧ ∃ since p s, m.stages i = .holding since .locked
        ∧ ((requests i).block key).run database m.store = .ok (p, s))

def NoLateFailure (requests : ι → PaymentRequest) (i : ι) (m : PaymentSystem ι)
    (ev : PaymentEvent ι)
    : Prop :=
  ∀ fate, ev = .advance i fate → ¬LateFailure requests m i fate

theorem fresh_of_run {request : PaymentRequest} {key : IdempotencyKey} {p : Payment}
    {s s' : Store} (h : (request.block key).run database s = .ok (p, s'))
    : s.payments.find? p.id = none ∧ s'.payments.find? p.id = some p := by
  rcases effect_of_block h with ⟨_, _, _, _, _, _, heff⟩
  cases heff with
  | processPayment hpos ht hw he hp => exact ⟨hp.fresh, Table.find?_insert_self hp.fresh⟩

theorem store_ne_of_run {request : PaymentRequest} {key : IdempotencyKey} {p : Payment}
    {s s' : Store} (h : (request.block key).run database s = .ok (p, s'))
    : s' ≠ s := by
  rintro rfl
  rcases fresh_of_run h with ⟨hnone, hsome⟩
  cases hnone.symm.trans hsome

/--
A step of a call that has not committed leaves the tables alone, or it is the commit.
-/
inductive Advanced (requests : ι → PaymentRequest) (m : PaymentSystem ι) (i : ι) (fate : Fate)
    (m' : PaymentSystem ι)
    : Prop where
  | clear (hstore : m'.store = m.store) (hcarried : (m'.stages i).carried? = none)
      (hlate : ¬LateFailure requests m i fate)
  | commit (hstore : m'.store ≠ m.store) (htrack : (m'.stages i).OnTrack)
      (hlate : ¬LateFailure requests m i fate)
  | doom (hstore : m'.store ≠ m.store) (hdoomed : (m'.stages i).Doomed)
      (hlate : LateFailure requests m i fate)

theorem advanced_locked {since : ℕ} (hi : m.stages i = .holding since .locked)
    : Advanced requests m i fate (step requests m (.advance i fate)) := by
  cases hkey : (requests i).key? with
  | none =>
    rw [advance_no_key hkey (by simp [hi])]
    exact .clear rfl (by simp [hi, Stage.carried?]) (by simp [LateFailure, hkey])
  | some key =>
    rw [advance_locked hkey hi]
    have hlate : LateFailure requests m i fate ↔
        fate = .lost ∧ ∃ p s, ((requests i).block key).run database m.store = .ok (p, s) := by
      simp [LateFailure, hkey, hi, Stage.carried?]
    unfold transact
    cases hrun : ((requests i).block key).run database m.store with
    | error e =>
      have hnot : ¬LateFailure requests m i fate := by simp [hlate, hrun]
      cases fate <;> exact .clear rfl (by simp [move, Stage.carried?]) hnot
    | ok res =>
      have hne := store_ne_of_run hrun
      cases fate with
      | done => exact .commit hne (.inl (by simp [move, Stage.carried?])) (by simp [hlate])
      | lost =>
        apply Advanced.doom hne
        . exact .inl ⟨since, .connection, by simp [move]⟩
        . exact hlate.mpr ⟨rfl, res.1, res.2, hrun⟩
      | failed => exact .clear rfl (by simp [move, Stage.carried?]) (by simp [hlate])

theorem advanced_of_carried_eq_none (h : (m.stages i).carried? = none)
    : Advanced requests m i fate (step requests m (.advance i fate)) := by
  by_cases hlocked : ∃ since, m.stages i = .holding since .locked
  . rcases hlocked with ⟨since, hi⟩
    exact advanced_locked hi
  . have hkept : Kept requests m (.advance i fate) (step requests m (.advance i fate)) :=
      kept_of_ne_locked (fun since hi => hlocked ⟨since, hi⟩)
    apply Advanced.clear hkept.store
    . cases hcarried : ((step requests m (.advance i fate)).stages i).carried? with
      | none => rfl
      | some p => cases h.symm.trans (hkept.carried i p hcarried)
    . rintro ⟨_, _, ⟨_, hsome⟩ | ⟨_, since, _, _, hi, _⟩⟩
      . simp [h] at hsome
      . exact hlocked ⟨since, hi⟩

theorem store_eq_of_ne_locked (hi : ∀ since, m.stages i ≠ .holding since .locked)
    : (step requests m (.advance i fate)).store = m.store := by
  have hkept : Kept requests m (.advance i fate) (step requests m (.advance i fate)) :=
    kept_of_ne_locked hi
  exact hkept.store

omit [DecidableEq ι] in
theorem lateFailure_iff_of_carried {key : IdempotencyKey} {p : Payment}
    (hkey : (requests i).key? = some key) (h : (m.stages i).carried? = some p)
    : LateFailure requests m i fate ↔ fate ≠ .done := by
  unfold LateFailure
  constructor
  . rintro ⟨_, _, ⟨hne, _⟩ | ⟨_, since, _, _, hi, _⟩⟩
    . exact hne
    . simp [hi, Stage.carried?] at h
  . intro hne
    exact ⟨key, hkey, .inl ⟨hne, by simp [h]⟩⟩

omit [DecidableEq ι] in
theorem not_lateFailure_of_carried_eq_none (h : (m.stages i).carried? = none)
    (hi : ∀ since, m.stages i ≠ .holding since .locked)
    : ¬LateFailure requests m i fate := by
  rintro ⟨_, _, ⟨_, hsome⟩ | ⟨_, since, _, _, hlocked, _⟩⟩
  . simp [h] at hsome
  . exact hi since hlocked

theorem advanced_of_carried {p : Payment} (h : (m.stages i).carried? = some p)
    : ((step requests m (.advance i fate)).stages i).OnTrack ∧ ¬LateFailure requests m i fate
        ∨ ((step requests m (.advance i fate)).stages i).Doomed
          ∧ LateFailure requests m i fate := by
  cases hkey : (requests i).key? with
  | none =>
    left
    rw [advance_no_key hkey (by intro hi; simp [hi, Stage.carried?] at h)]
    exact ⟨.inl (by simp [h]), by simp [LateFailure, hkey]⟩
  | some key =>
    rw [lateFailure_iff_of_carried hkey h]
    have hstep := stage_cases requests m i fate
    generalize (step requests m (.advance i fate)).stages i = stage at *
    cases hstep with
    | cache _ hfate => exact .inl ⟨.inl rfl, by simp [hfate]⟩
    | publish _ _ hfate => exact .inl ⟨.inl rfl, by simp [hfate]⟩
    | @release _ outcome hi hfate =>
      cases outcome with
      | error e => simp [hi, Stage.carried?] at h
      | ok payment => exact .inl ⟨.inr (.inl ⟨payment, rfl⟩), by simp [hfate]⟩
    | @fail since _ e hi hfate =>
      rcases hfate with hfate | rfl
      . exact .inr ⟨.inl ⟨since, e, rfl⟩, hfate⟩
      . simp [hi, Stage.carried?] at h
    | unreleased _ hfate => exact .inr ⟨.inr (.inl ⟨_, rfl⟩), hfate⟩
    | stay hi =>
      rcases hi with hnone | ⟨outcome, hi⟩ | hi
      . cases hkey.symm.trans hnone
      . simp [hi, Stage.carried?] at h
      . simp [hi, Stage.carried?] at h
    | refused hi => rcases hi with hi | hi <;> simp [hi, Stage.carried?] at h
    | hit _ hi => simp [hi, Stage.carried?] at h
    | miss hi => simp [hi, Stage.carried?] at h
    | acquire _ hi => simp [hi, Stage.carried?] at h
    | commit hi => simp [hi, Stage.carried?] at h

theorem advanced_onTrack (h : (m.stages i).OnTrack) (fate : Fate)
    : (step requests m (.advance i fate)).store = m.store
        ∧ (((step requests m (.advance i fate)).stages i).OnTrack ∧ ¬LateFailure requests m i fate
          ∨ ((step requests m (.advance i fate)).stages i).Doomed
            ∧ LateFailure requests m i fate) := by
  rcases h with hcarried | ⟨p, hi⟩ | hi
  . rcases Option.isSome_iff_exists.mp hcarried with ⟨p, hp⟩
    refine ⟨?_, advanced_of_carried hp⟩
    apply store_eq_of_ne_locked
    intro since hi
    simp [hi, Stage.carried?] at hp
  . rw [advance_finished hi]
    refine ⟨rfl, .inl ⟨.inr (.inl ⟨p, hi⟩), ?_⟩⟩
    apply not_lateFailure_of_carried_eq_none <;> simp [hi, Stage.carried?]
  . rw [advance_crashed hi]
    refine ⟨rfl, .inl ⟨.inr (.inr hi), ?_⟩⟩
    apply not_lateFailure_of_carried_eq_none <;> simp [hi, Stage.carried?]

theorem advanced_doomed (h : (m.stages i).Doomed)
    : (step requests m (.advance i fate)).store = m.store
        ∧ ((step requests m (.advance i fate)).stages i).Doomed
        ∧ ¬LateFailure requests m i fate := by
  have hstage : (m.stages i).carried? = none ∧ ∀ since, m.stages i ≠ .holding since .locked := by
    rcases h with ⟨since, e, hi⟩ | ⟨e, hi⟩ | hi <;> simp [hi, Stage.carried?]
  refine ⟨store_eq_of_ne_locked hstage.2, ?_,
    not_lateFailure_of_carried_eq_none hstage.1 hstage.2⟩
  rcases h with ⟨since, e, hi⟩ | ⟨e, hi⟩ | hi
  . cases hkey : (requests i).key? with
    | none =>
      rw [advance_no_key hkey (by simp [hi])]
      exact .inl ⟨since, e, hi⟩
    | some key =>
      rw [advance_releasing hkey hi]
      cases fate <;> simp [release, move, Stage.Doomed]
  . rw [advance_finished hi]
    exact .inr (.inl ⟨e, hi⟩)
  . rw [advance_crashed hi]
    exact .inr (.inr hi)

/--
How far call `i` has got by the end of a run, what it has done to the tables and what has failed.
-/
inductive Course (requests : ι → PaymentRequest) (i : ι) (m : PaymentSystem ι)
    (es : List (PaymentEvent ι))
    : Prop where
  | clear (hkept : Run.Along (step requests) (KeepsStore requests i) m es)
      (hlate : Run.Along (step requests) (NoLateFailure requests i) m es)
      (hstage : ((Run.run (step requests) m es).stages i).carried? = none)
  | onTrack (hmoved : ¬Run.Along (step requests) (KeepsStore requests i) m es)
      (hlate : Run.Along (step requests) (NoLateFailure requests i) m es)
      (hstage : ((Run.run (step requests) m es).stages i).OnTrack)
  | doomed (hmoved : ¬Run.Along (step requests) (KeepsStore requests i) m es)
      (hlate : ¬Run.Along (step requests) (NoLateFailure requests i) m es)
      (hstage : ((Run.run (step requests) m es).stages i).Doomed)

theorem stages_step_of_ne (requests : ι → PaymentRequest) (m : PaymentSystem ι)
    {ev : PaymentEvent ι} (hev : ∀ fate, ev ≠ .advance i fate)
    : (step requests m ev).stages i = m.stages i ∨ (step requests m ev).stages i = .crashed := by
  cases ev with
  | advance j fate =>
    have hne : i ≠ j := by
      rintro rfl
      exact hev fate rfl
    exact .inl (stages_advance_of_ne hne requests m fate)
  | crash j =>
    unfold step
    dsimp only
    split
    . exact .inl rfl
    . by_cases hne : i = j
      . subst hne
        exact .inr (Function.update_self ..)
      . exact .inl (Function.update_of_ne hne _ _)
  | _ => exact .inl rfl

theorem stage_step_cases (requests : ι → PaymentRequest) (m : PaymentSystem ι) (ev : PaymentEvent ι)
    (i : ι)
    : (∃ fate, ev = .advance i fate ∧ StageStep requests m i fate ((step requests m ev).stages i))
        ∨ (step requests m ev).stages i = m.stages i ∨ (step requests m ev).stages i = .crashed := by
  by_cases hown : ∃ fate, ev = .advance i fate
  . rcases hown with ⟨fate, rfl⟩
    exact .inl ⟨fate, rfl, stage_cases requests m i fate⟩
  . exact .inr (stages_step_of_ne requests m (fun fate heq => hown ⟨fate, heq⟩))

theorem Course.advance {es : List (PaymentEvent ι)} (h : Course requests i m es) (fate : Fate)
    : Course requests i m (es ++ [.advance i fate]) := by
  have hlast : ∀ m' : PaymentSystem ι, KeepsStore requests i m' (.advance i fate) ↔
      (step requests m' (.advance i fate)).store = m'.store := by
    intro m'
    simp [KeepsStore]
  have hlast' : ∀ m' : PaymentSystem ι, NoLateFailure requests i m' (.advance i fate) ↔
      ¬LateFailure requests m' i fate := by
    intro m'
    simp [NoLateFailure]
  cases h with
  | clear hkept hlate hstage =>
    have hadvanced : Advanced requests _ i fate _ := advanced_of_carried_eq_none hstage
    cases hadvanced with
    | clear hstore hcarried hnot =>
      apply Course.clear
      . exact Run.along_append_singleton_iff.mpr ⟨hkept, (hlast _).mpr hstore⟩
      . exact Run.along_append_singleton_iff.mpr ⟨hlate, (hlast' _).mpr hnot⟩
      . rwa [Run.run_append_singleton]
    | commit hstore htrack hnot =>
      apply Course.onTrack
      . exact fun h => hstore ((hlast _).mp (Run.along_append_singleton_iff.mp h).2)
      . exact Run.along_append_singleton_iff.mpr ⟨hlate, (hlast' _).mpr hnot⟩
      . rwa [Run.run_append_singleton]
    | doom hstore hdoomed hlate' =>
      apply Course.doomed
      . exact fun h => hstore ((hlast _).mp (Run.along_append_singleton_iff.mp h).2)
      . exact fun h => (hlast' _).mp (Run.along_append_singleton_iff.mp h).2 hlate'
      . rwa [Run.run_append_singleton]
  | onTrack hmoved hlate hstage =>
    have hmoved' : ¬Run.Along (step requests) (KeepsStore requests i) m (es ++ [.advance i fate]) :=
      fun h => hmoved (Run.along_append_singleton_iff.mp h).1
    rcases (advanced_onTrack hstage fate).2 with ⟨htrack, hnot⟩ | ⟨hdoomed, hlate'⟩
    . apply Course.onTrack hmoved' (Run.along_append_singleton_iff.mpr ⟨hlate, (hlast' _).mpr hnot⟩)
      rwa [Run.run_append_singleton]
    . apply Course.doomed hmoved'
      . intro h
        exact (hlast' _).mp (Run.along_append_singleton_iff.mp h).2 hlate'
      . rwa [Run.run_append_singleton]
  | doomed hmoved hlate hstage =>
    apply Course.doomed
    . exact fun h => hmoved (Run.along_append_singleton_iff.mp h).1
    . exact fun h => hlate (Run.along_append_singleton_iff.mp h).1
    . rw [Run.run_append_singleton]
      exact (advanced_doomed hstage).2.1

theorem Course.wait {es : List (PaymentEvent ι)} (h : Course requests i m es)
    {ev : PaymentEvent ι} (hev : ∀ fate, ev ≠ .advance i fate)
    : Course requests i m (es ++ [ev]) := by
  have hstages := stages_step_of_ne requests (Run.run (step requests) m es) hev
  have hkept : ∀ m', KeepsStore requests i m' ev := fun m' fate heq => absurd heq (hev fate)
  have hlate : ∀ m', NoLateFailure requests i m' ev := fun m' fate heq => absurd heq (hev fate)
  cases h with
  | clear hkept' hlate' hstage =>
    apply Course.clear
    . exact Run.along_append_singleton_iff.mpr ⟨hkept', hkept _⟩
    . exact Run.along_append_singleton_iff.mpr ⟨hlate', hlate _⟩
    . rw [Run.run_append_singleton]
      rcases hstages with hsame | hcrashed
      . rw [hsame]
        exact hstage
      . rw [hcrashed]
        rfl
  | onTrack hmoved hlate' hstage =>
    apply Course.onTrack
    . exact fun h => hmoved (Run.along_append_singleton_iff.mp h).1
    . exact Run.along_append_singleton_iff.mpr ⟨hlate', hlate _⟩
    . rw [Run.run_append_singleton]
      rcases hstages with hsame | hcrashed
      . rw [hsame]
        exact hstage
      . exact .inr (.inr hcrashed)
  | doomed hmoved hlate' hstage =>
    apply Course.doomed
    . exact fun h => hmoved (Run.along_append_singleton_iff.mp h).1
    . exact fun h => hlate' (Run.along_append_singleton_iff.mp h).1
    . rw [Run.run_append_singleton]
      rcases hstages with hsame | hcrashed
      . rw [hsame]
        exact hstage
      . exact .inr (.inr hcrashed)

theorem course_run (requests : ι → PaymentRequest) (es : List (PaymentEvent ι))
    (hi : m.stages i = .ready)
    : Course requests i m es := by
  induction es using List.reverseRecOn with
  | nil => exact .clear trivial trivial (by simp [hi, Stage.carried?])
  | append_singleton es ev ih =>
    by_cases hown : ∃ fate, ev = .advance i fate
    . rcases hown with ⟨fate, rfl⟩
      exact ih.advance fate
    . exact ih.wait (fun fate heq => hown ⟨fate, heq⟩)

/--
A call that has ended has moved no money if it throws, exactly if no command of it has failed after its
database block has committed.
-/
theorem failure_moves_nothing_iff (requests : ι → PaymentRequest) (m : PaymentSystem ι)
    (es : List (PaymentEvent ι)) (i : ι) (outcome : Except Failure Payment)
    (hi : m.stages i = .ready)
    (hend : (Run.run (step requests) m es).stages i = .finished outcome)
    : FailureMovesNothing requests m es i ↔
      Run.Along (step requests) (NoLateFailure requests i) m es := by
  unfold FailureMovesNothing
  cases course_run requests es hi with
  | clear hkept hlate => exact iff_of_true (fun _ _ => hkept) hlate
  | onTrack hmoved hlate hstage =>
    apply iff_of_true _ hlate
    intro e he
    rcases hstage with hcarried | ⟨p, hp⟩ | hcrashed
    . simp [he, Stage.carried?] at hcarried
    . cases he.symm.trans hp
    . cases he.symm.trans hcrashed
  | doomed hmoved hlate hstage =>
    apply iff_of_false _ hlate
    intro h
    rcases hstage with ⟨since, e, he⟩ | ⟨e, he⟩ | hcrashed
    . cases hend.symm.trans he
    . exact hmoved (h e he)
    . cases hend.symm.trans hcrashed

theorem store_run_of_along (fates : List Fate)
    (h : Run.Along (step requests) (KeepsStore requests i) m (fates.map (.advance i)))
    : (Run.run (step requests) m (fates.map (.advance i))).store = m.store := by
  induction fates generalizing m with
  | nil => rfl
  | cons fate fates ih => exact (ih h.2).trans (h.1 fate rfl)

def funded : PaymentSystem Unit :=
  Run.run (step (fun _ => samplePayment "alice" "2")) (initial sampleUsers)
    (sampleDeposit.map .database)

-- The event cannot be published.
def unpublished : List Fate :=
  [.done, .done, .done, .done, .failed, .done]

theorem failure_moves_nothing_iff_unpublished
    : FailureMovesNothing (fun _ => samplePayment "alice" "2") funded
          (unpublished.map (.advance ())) () ↔
        Run.Along (step (fun _ => samplePayment "alice" "2"))
          (NoLateFailure (fun _ => samplePayment "alice" "2") ()) funded
          (unpublished.map (.advance ())) :=
  failure_moves_nothing_iff _ _ _ _ (.error .connection) (by decide +kernel) (by decide +kernel)

theorem unpublished_payment_moves_money
    : ¬FailureMovesNothing (fun _ => samplePayment "alice" "2") funded
        (unpublished.map (.advance ())) () := by
  intro h
  have hstore := store_run_of_along unpublished (h .connection (by decide +kernel))
  have hlength := congrArg (·.payments.rows.length) hstore
  revert hlength
  decide +kernel

end PaymentSystem

end Banking
