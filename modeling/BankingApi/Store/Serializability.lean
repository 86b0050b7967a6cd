import BankingApi.Store.Locking

/-!
This module contains the proof that transactions that run side by side and keep their locks leave
what they leave one after another, in the order in which they end.
-/

namespace Locking

variable {Cmd : Type} {Res : Cmd → Type} {ε σ ω ρ : Type} {View : ρ → Type} {κ ι α : Type}

def replay (E : Engine Cmd Res ε σ ω) (p : Prog Cmd Res ε α) (s : σ) : Except ε α × σ :=
  match p.run E s with
  | .ok (a, s') => (.ok a, s')
  | .error e => (.error e, s)

def Serial (E : Engine Cmd Res ε σ ω) (s : σ) (log : List (Ended Cmd Res ε ι α)) (s' : σ) : Prop :=
  match log with
  | [] => s' = s
  | e :: log => ∃ s₁, replay E e.program s = (e.outcome, s₁) ∧ Serial E s₁ log s'

theorem serial_append_iff {E : Engine Cmd Res ε σ ω} {s s'' : σ}
    {log log' : List (Ended Cmd Res ε ι α)}
    : Serial E s (log ++ log') s'' ↔ ∃ s', Serial E s log s' ∧ Serial E s' log' s'' := by
  induction log generalizing s with
  | nil => simp [Serial]
  | cons e log ih =>
    simp only [List.cons_append, Serial, ih]
    constructor
    . rintro ⟨s₁, he, s', hlog, hlog'⟩
      exact ⟨s', ⟨s₁, he, hlog⟩, hlog'⟩
    . rintro ⟨s', ⟨s₁, he, hlog⟩, hlog'⟩
      exact ⟨s₁, he, s', hlog, hlog'⟩

theorem serial_unique {E : Engine Cmd Res ε σ ω} {s s₁ s₂ : σ} {log : List (Ended Cmd Res ε ι α)}
    (h₁ : Serial E s log s₁) (h₂ : Serial E s log s₂)
    : s₁ = s₂ := by
  induction log generalizing s with
  | nil => exact h₁.trans h₂.symm
  | cons e log ih =>
    rcases h₁ with ⟨s', he, hlog⟩
    rcases h₂ with ⟨s'', he', hlog'⟩
    cases he.symm.trans he'
    exact ih hlog hlog'

theorem serial_singleton_iff {E : Engine Cmd Res ε σ ω} {s s' : σ} {e : Ended Cmd Res ε ι α}
    : Serial E s [e] s' ↔ replay E e.program s = (e.outcome, s') := by
  simp [Serial]

variable (L : Locking Cmd Res ε σ ω ρ View κ)
variable (entry : ι → σ → Prog Cmd Res ε α) (s₀ : σ)

/--
What holds of a running transaction. On every store that agrees with the committed one on what the
thread has locked, the rest of the program does what the whole program does.
-/
structure Running (m : Machine Cmd Res ε σ ω ρ ι α) (i : ι) (since : ℕ)
    (origin rest : Prog Cmd Res ε α) (pending : List ω)
    : Prop where
  since_le : since ≤ m.log.length
  snapshot : ∃ s, Serial L.toEngine s₀ (m.log.take since) s ∧ origin = entry i s
  owned : ∀ w ∈ pending, ∀ x ∈ L.touches w, (i, x, .exclusive) ∈ m.locks
  replay : ∀ s, L.catalog s = L.catalog m.store →
    (∀ l, (i, l) ∈ m.locks → L.view l.1 s = L.view l.1 m.store) →
    origin.run L.toEngine s = rest.run L.toEngine (L.applyAll s pending)

structure Inv (m : Machine Cmd Res ε σ ω ρ ι α) : Prop where
  compatible : ∀ h ∈ m.locks, ∀ h' ∈ m.locks, h.1 ≠ h'.1 → h.2.1 = h'.2.1 →
    h.2.2 = .shared ∧ h'.2.2 = .shared
  running : ∀ i since origin rest pending, m.threads i = .running since origin rest pending →
    Running L entry s₀ m i since origin rest pending
  serial : Serial L.toEngine s₀ m.log m.store
  finished : ∀ i r, m.threads i = .finished r ↔ ∃ e ∈ m.log, e.thread = i ∧ e.outcome = r
  nodup : (m.log.map Ended.thread).Nodup
  origins : ∀ e ∈ m.log, ∃ s, e.program = entry e.thread s

variable {L entry s₀} {m : Machine Cmd Res ε σ ω ρ ι α} {i : ι} {since : ℕ}
  {origin rest : Prog Cmd Res ε α} {pending : List ω}

theorem inv_init : Inv L entry s₀ (.init s₀ : Machine Cmd Res ε σ ω ρ ι α) where
  compatible := by
    intro h hh
    cases hh
  running := by
    intro i since origin rest pending hi
    cases hi
  serial := rfl
  finished := by
    intro i r
    simp [Machine.init]
  nodup := by
    simp [Machine.init]
  origins := by
    simp [Machine.init]

theorem Running.replay_store (h : Running L entry s₀ m i since origin rest pending)
    : origin.run L.toEngine m.store = rest.run L.toEngine (L.applyAll m.store pending) :=
  h.replay m.store rfl (fun _ _ => rfl)

theorem Running.mono {m' : Machine Cmd Res ε σ ω ρ ι α}
    (h : Running L entry s₀ m i since origin rest pending) (hstore : m'.store = m.store)
    (hlog : m'.log = m.log) (hlocks : ∀ l, (i, l) ∈ m.locks → (i, l) ∈ m'.locks)
    : Running L entry s₀ m' i since origin rest pending where
  since_le := by
    rw [hlog]
    exact h.since_le
  snapshot := by
    rw [hlog]
    exact h.snapshot
  owned := by
    intro w hw x hx
    apply hlocks
    exact h.owned w hw x hx
  replay := by
    intro s hcatalog hagree
    rw [hstore] at hcatalog hagree
    apply h.replay s hcatalog
    intro l hl
    exact hagree l (hlocks l hl)

section

variable [DecidableEq ι]

theorem Running.of_finish {j : ι} {p : Prog Cmd Res ε α} {r : Except ε α} {s : σ}
    (h : Running L entry s₀ m i since origin rest pending) (hij : i ≠ j)
    (hcatalog : L.catalog s = L.catalog m.store)
    (hview : ∀ l, (i, l) ∈ m.locks → L.view l.1 s = L.view l.1 m.store)
    : Running L entry s₀ (m.finish j p r s) i since origin rest pending where
  since_le := by
    have := h.since_le
    simp only [Machine.finish, List.length_append]
    omega
  snapshot := by
    simp only [Machine.finish]
    rw [List.take_append_of_le_length h.since_le]
    exact h.snapshot
  owned := by
    intro w hw x hx
    have := h.owned w hw x hx
    simpa [Machine.finish, Machine.release, Machine.set, hij] using this
  replay := by
    intro s' hcatalog' hagree
    apply h.replay s' (hcatalog'.trans hcatalog)
    intro l hl
    have hkept : (i, l) ∈ (m.finish j p r s).locks := by
      simpa [Machine.finish, Machine.release, Machine.set, hij] using hl
    exact (hagree l hkept).trans (hview l hl)

end

theorem Inv.view_commit (hinv : Inv L entry s₀ m)
    (hi : m.threads i = .running since origin rest pending) {j : ι} (hij : j ≠ i) {l : ρ × Mode}
    (hl : (j, l) ∈ m.locks)
    : L.view l.1 (L.applyAll m.store pending) = L.view l.1 m.store := by
  apply L.view_applyAll
  intro w hw hmem
  have howned := (hinv.running i _ _ _ _ hi).owned w hw l.1 hmem
  have := hinv.compatible _ hl _ howned hij rfl
  cases this.2

theorem not_mem_log_of_running (hinv : Inv L entry s₀ m)
    (hi : m.threads i = .running since origin rest pending)
    : i ∉ m.log.map Ended.thread := by
  intro hmem
  rcases List.mem_map.mp hmem with ⟨e, he, rfl⟩
  have := (hinv.finished e.thread e.outcome).mpr ⟨e, he, rfl, rfl⟩
  rw [hi] at this
  cases this

theorem Running.exec_eq {c : Cmd} {next : Res c → Prog Cmd Res ε α} {s : σ}
    (h : Running L entry s₀ m i since origin (.call c next) pending)
    (hlocks : ∀ l ∈ L.locks c (L.applyAll m.store pending), (i, l) ∈ m.locks)
    (hcatalog : L.catalog s = L.catalog m.store)
    (hagree : ∀ l, (i, l) ∈ m.locks → L.view l.1 s = L.view l.1 m.store)
    : L.exec c (L.applyAll s pending) = L.exec c (L.applyAll m.store pending) := by
  symm
  apply L.hexec
  . rw [L.catalog_applyAll, L.catalog_applyAll, hcatalog]
  . intro l hl
    apply L.view_applyAll_congr (R := fun x => ∃ md, (i, x, md) ∈ m.locks)
    . exact fun w hw x hx => ⟨_, h.owned w hw x hx⟩
    . exact fun x ⟨md, hx⟩ => (hagree (x, md) hx).symm
    . exact ⟨l.2, hlocks l hl⟩

theorem Inv.acquire {l : ρ × Mode} (hinv : Inv L entry s₀ m) (hfree : m.Free i l)
    : Inv L entry s₀ { m with locks := (i, l) :: m.locks } where
  compatible := by
    intro h hh h' hh' hne heq
    rcases List.mem_cons.mp hh with rfl | hh
    . rcases List.mem_cons.mp hh' with rfl | hh'
      . exact absurd rfl hne
      . exact (hfree h' hh' hne.symm heq.symm).symm
    . rcases List.mem_cons.mp hh' with rfl | hh'
      . exact hfree h hh hne heq
      . exact hinv.compatible h hh h' hh' hne heq
  running := by
    intro j since origin rest pending hj
    apply Running.mono (hinv.running j _ _ _ _ hj)
    . rfl
    . rfl
    . intro l' hl'
      exact List.mem_cons_of_mem _ hl'
  serial := hinv.serial
  finished := hinv.finished
  nodup := hinv.nodup
  origins := hinv.origins

variable [DecidableEq ι]

theorem running_set {t : Thread Cmd Res ε ω α} {j : ι}
    (hinv : Inv L entry s₀ m)
    (ht : ∀ since origin rest pending, t = .running since origin rest pending →
      Running L entry s₀ m i since origin rest pending)
    (hj : (m.set i t).threads j = .running since origin rest pending)
    : Running L entry s₀ (m.set i t) j since origin rest pending := by
  by_cases heq : j = i
  . subst heq
    simp only [Machine.set, Function.update_self] at hj
    exact (ht _ _ _ _ hj).mono rfl rfl (fun _ h => h)
  . simp only [Machine.set, Function.update_of_ne heq] at hj
    exact (hinv.running j _ _ _ _ hj).mono rfl rfl (fun _ h => h)

theorem Inv.set {t : Thread Cmd Res ε ω α} (hinv : Inv L entry s₀ m)
    (hold : ∀ r, m.threads i ≠ .finished r) (hnew : ∀ r, t ≠ .finished r)
    (ht : ∀ since origin rest pending, t = .running since origin rest pending →
      Running L entry s₀ m i since origin rest pending)
    : Inv L entry s₀ (m.set i t) where
  compatible := hinv.compatible
  running := fun _ _ _ _ _ hj => running_set hinv ht hj
  serial := hinv.serial
  finished := by
    intro j r
    refine Iff.trans ?_ (hinv.finished j r)
    by_cases heq : j = i
    . subst heq
      simp [Machine.set, hold, hnew]
    . simp [Machine.set, Function.update_of_ne heq]
  nodup := hinv.nodup
  origins := hinv.origins

theorem Inv.release_set {t : Thread Cmd Res ε ω α} (hinv : Inv L entry s₀ (m.set i t))
    (ht : ∀ since origin rest pending, t ≠ .running since origin rest pending)
    : Inv L entry s₀ ((m.set i t).release i) where
  compatible := by
    intro h hh h' hh'
    exact hinv.compatible h (List.mem_of_mem_filter hh) h' (List.mem_of_mem_filter hh')
  running := by
    intro j since origin rest pending hj
    have hne : j ≠ i := by
      rintro rfl
      simp only [Machine.release, Machine.set, Function.update_self] at hj
      exact ht _ _ _ _ hj
    apply Running.mono (hinv.running j _ _ _ _ hj)
    . rfl
    . rfl
    . intro l hl
      simpa [Machine.release, hne] using hl
  serial := hinv.serial
  finished := hinv.finished
  nodup := hinv.nodup
  origins := hinv.origins

theorem Inv.finish {r : Except ε α} {s : σ} (hinv : Inv L entry s₀ m)
    (hi : m.threads i = .running since origin rest pending)
    (hreplay : Locking.replay L.toEngine origin m.store = (r, s))
    (hcatalog : L.catalog s = L.catalog m.store)
    (hview : ∀ j l, j ≠ i → (j, l) ∈ m.locks → L.view l.1 s = L.view l.1 m.store)
    : Inv L entry s₀ (m.finish i origin r s) where
  compatible := by
    intro h hh h' hh'
    exact hinv.compatible h (List.mem_of_mem_filter hh) h' (List.mem_of_mem_filter hh')
  running := by
    intro j since' origin' rest' pending' hj
    have hne : j ≠ i := by
      rintro rfl
      simp [Machine.finish, Machine.release, Machine.set] at hj
    have hj' : m.threads j = .running since' origin' rest' pending' := by
      simpa [Machine.finish, Machine.release, Machine.set, Function.update_of_ne hne] using hj
    exact (hinv.running j _ _ _ _ hj').of_finish hne hcatalog (fun l hl => hview j l hne hl)
  serial := by
    simp only [Machine.finish]
    rw [serial_append_iff]
    exact ⟨m.store, hinv.serial, serial_singleton_iff.mpr hreplay⟩
  finished := by
    intro j r'
    have hlog := not_mem_log_of_running hinv hi
    by_cases heq : j = i
    . subst heq
      simp only [Machine.finish, Machine.release, Machine.set, Function.update_self,
        Thread.finished.injEq, List.mem_append, List.mem_singleton]
      constructor
      . rintro rfl
        exact ⟨_, .inr rfl, rfl, rfl⟩
      . rintro ⟨e, he | rfl, hthread, houtcome⟩
        . exact absurd (List.mem_map.mpr ⟨e, he, hthread⟩) hlog
        . exact houtcome
    . simp only [Machine.finish, Machine.release, Machine.set, Function.update_of_ne heq,
        List.mem_append, List.mem_singleton]
      rw [hinv.finished]
      constructor
      . rintro ⟨e, he, h⟩
        exact ⟨e, .inl he, h⟩
      . rintro ⟨e, he | rfl, h⟩
        . exact ⟨e, he, h⟩
        . exact absurd h.1.symm heq
  nodup := by
    have hlog := not_mem_log_of_running hinv hi
    simp only [Machine.finish, List.map_append, List.map_singleton]
    rw [List.nodup_append]
    refine ⟨hinv.nodup, by simp, ?_⟩
    intro j hj j' hj' heq
    rw [List.mem_singleton.mp hj'] at heq
    rw [heq] at hj
    exact hlog hj
  origins := by
    intro e he
    simp only [Machine.finish, List.mem_append, List.mem_singleton] at he
    rcases he with he | rfl
    . exact hinv.origins e he
    . rcases (hinv.running i _ _ _ _ hi).snapshot with ⟨s', _, horigin⟩
      exact ⟨s', horigin⟩

variable [DecidableEq ρ]

theorem inv_step (ev : Event ρ ι) (hinv : Inv L entry s₀ m)
    : Inv L entry s₀ (L.step entry m ev) := by
  have hstep := L.step_cases entry m ev
  generalize L.step entry m ev = m' at *
  cases hstep with
  | stutter => exact hinv
  | start hi =>
    apply hinv.set (by simp [hi]) (by simp)
    intro since origin rest pending heq
    cases heq
    refine ⟨le_rfl, ⟨m.store, ?_, rfl⟩, by simp, fun s _ _ => rfl⟩
    rw [List.take_length]
    exact hinv.serial
  | acquire hfree => exact hinv.acquire hfree
  | refused hi hlocks hexec =>
    have h := hinv.running _ _ _ _ _ hi
    apply hinv.set (by simp [hi]) (by simp)
    intro since origin rest pending heq
    cases heq
    refine ⟨h.since_le, h.snapshot, h.owned, ?_⟩
    intro s hcatalog hagree
    rw [h.replay s hcatalog hagree, Prog.run_call, h.exec_eq hlocks hcatalog hagree, hexec]
    rfl
  | @done i _ _ _ _ _ r ws hi hlocks hexec =>
    have h := hinv.running _ _ _ _ _ hi
    apply hinv.set (by simp [hi]) (by simp)
    intro since origin rest pending heq
    cases heq
    refine ⟨h.since_le, h.snapshot, ?_, ?_⟩
    . intro w hw x hx
      rcases List.mem_append.mp hw with hw | hw
      . exact h.owned w hw x hx
      . exact hlocks _ (L.htouches hexec w hw x hx)
    . intro s hcatalog hagree
      rw [h.replay s hcatalog hagree, Prog.run_call, h.exec_eq hlocks hcatalog hagree, hexec,
        Engine.applyAll_append]
  | @commit i _ _ _ _ hi =>
    have h := hinv.running _ _ _ _ _ hi
    apply hinv.finish hi
    . unfold Locking.replay
      rw [h.replay_store]
      rfl
    . apply L.catalog_applyAll
    . intro j l hne hl
      exact hinv.view_commit hi hne hl
  | rollback hi =>
    have h := hinv.running _ _ _ _ _ hi
    apply hinv.finish hi
    . unfold Locking.replay
      rw [h.replay_store]
      rfl
    . rfl
    . intro j l _ _
      rfl
  | abort hi =>
    apply Inv.release_set
    . apply hinv.set (by simp [hi]) (by simp)
      intro since origin rest pending heq
      cases heq
    . simp

variable (L entry s₀) in
theorem inv_run (es : List (Event ρ ι)) : Inv L entry s₀ (Run.run (L.step entry) (.init s₀) es) := by
  apply Run.run_invariant
  . intro m ev hinv
    exact inv_step ev hinv
  . exact inv_init

def serial (E : Engine Cmd Res ε σ ω) (program : ι → Prog Cmd Res ε α) (s : σ) (order : List ι)
    : List (ι × Except ε α) × σ :=
  match order with
  | [] => ([], s)
  | i :: order =>
    let ended := Locking.replay E (program i) s
    let rest := serial E program ended.2 order
    ((i, ended.1) :: rest.1, rest.2)

omit [DecidableEq ι] in
theorem serial_of_log {E : Engine Cmd Res ε σ ω} {program : ι → Prog Cmd Res ε α} {s s' : σ}
    {log : List (Ended Cmd Res ε ι α)} (h : Serial E s log s')
    (hprogram : ∀ e ∈ log, e.program = program e.thread)
    : serial E program s (log.map Ended.thread) = (log.map (fun e => (e.thread, e.outcome)), s') := by
  induction log generalizing s with
  | nil =>
    rw [show s' = s from h]
    rfl
  | cons e log ih =>
    rcases h with ⟨s₁, he, hlog⟩
    rw [hprogram e (by simp)] at he
    simp only [List.map_cons, serial, he]
    rw [ih hlog (fun e' he' => hprogram e' (by simp [he']))]

theorem serializable (L : Locking Cmd Res ε σ ω ρ View κ) (program : ι → Prog Cmd Res ε α) (s : σ)
    (es : List (Event ρ ι)) {m : Machine Cmd Res ε σ ω ρ ι α}
    (hm : m = Run.run (L.step (fun i _ => program i)) (.init s) es)
    : ∃ order : List ι, order.Nodup
        ∧ (∀ i r, m.threads i = .finished r ↔ (i, r) ∈ (serial L.toEngine program s order).1)
        ∧ m.store = (serial L.toEngine program s order).2 := by
  subst hm
  have hinv := inv_run L (fun i _ => program i) s es
  generalize Run.run _ _ es = m at *
  refine ⟨m.log.map Ended.thread, hinv.nodup, ?_⟩
  rw [serial_of_log hinv.serial]
  . constructor
    . intro i r
      rw [hinv.finished, List.mem_map]
      simp
    . rfl
  . intro e he
    rcases hinv.origins e he with ⟨_, h⟩
    exact h

theorem Inv.run_of_commit {a : α} (hinv : Inv L entry s₀ m)
    (hi : m.threads i = .running since origin (.ret a) pending)
    : origin.run L.toEngine m.store = .ok (a, (L.step entry m (.finish i)).store) := by
  rw [(hinv.running i _ _ _ _ hi).replay_store]
  simp [step, hi, Machine.finish, Prog.run]

omit [DecidableEq ι] [DecidableEq ρ] in
theorem Inv.serial_since (hinv : Inv L entry s₀ m)
    (hi : m.threads i = .running since origin rest pending)
    : ∃ s, origin = entry i s ∧ Serial L.toEngine s (m.log.drop since) m.store := by
  rcases (hinv.running i _ _ _ _ hi).snapshot with ⟨s, hs, horigin⟩
  have hserial := hinv.serial
  rw [← List.take_append_drop since m.log, serial_append_iff] at hserial
  rcases hserial with ⟨s', hs', hrest⟩
  rw [serial_unique hs hs'] at horigin
  exact ⟨s', horigin, hrest⟩

variable (L entry m) in
theorem store_step (ev : Event ρ ι)
    : (L.step entry m ev).store = m.store
        ∨ ∃ i since origin a pending, ev = .finish i
          ∧ m.threads i = .running since origin (.ret a) pending := by
  have hstep := L.step_cases entry m ev
  generalize L.step entry m ev = m' at *
  cases hstep with
  | commit hi => exact .inr ⟨_, _, _, _, _, rfl, hi⟩
  | _ => exact .inl rfl

theorem Inv.log_step (hinv : Inv L entry s₀ m) (ev : Event ρ ι)
    : ((L.step entry m ev).log = m.log ∧ (L.step entry m ev).store = m.store)
        ∨ ∃ i s r, (L.step entry m ev).log = m.log ++ [⟨i, entry i s, r⟩]
          ∧ Locking.replay L.toEngine (entry i s) m.store = (r, (L.step entry m ev).store) := by
  have hstep := L.step_cases entry m ev
  generalize L.step entry m ev = m' at *
  cases hstep with
  | commit hi =>
    have h := hinv.running _ _ _ _ _ hi
    rcases h.snapshot with ⟨s, _, rfl⟩
    refine .inr ⟨_, s, _, rfl, ?_⟩
    unfold Locking.replay
    rw [h.replay_store]
    rfl
  | rollback hi =>
    have h := hinv.running _ _ _ _ _ hi
    rcases h.snapshot with ⟨s, _, rfl⟩
    refine .inr ⟨_, s, _, rfl, ?_⟩
    unfold Locking.replay
    rw [h.replay_store]
    rfl
  | _ => exact .inl ⟨rfl, rfl⟩

end Locking
