import BankingApi.Store.Sessions

/-!
This module contains programs that look around, act once, and then only say what has come of it.
-/

namespace Prog

variable {Cmd : Type} {Res : Cmd → Type} {ε α β : Type} {Looks Acts : Cmd → Prop}
  {Ends : (c : Cmd) → Res c → Prog Cmd Res ε α → Prop}

/--
The program returns nothing before it acts. Once it has acted, what is left of it is as `Ends` has it.
-/
def ActsOnce (Looks Acts : Cmd → Prop) (Ends : (c : Cmd) → Res c → Prog Cmd Res ε α → Prop)
    (p : Prog Cmd Res ε α)
    : Prop :=
  match p with
  | .ret _ => False
  | .throw _ => True
  | .call c next =>
    Looks c ∧ (∀ r, (next r).ActsOnce Looks Acts Ends) ∨ Acts c ∧ ∀ r, Ends c r (next r)

theorem actsOnce_bind_of_obeys {p : Prog Cmd Res ε β} {f : β → Prog Cmd Res ε α}
    (hp : p.Obeys Looks (fun _ => True) (fun _ => True))
    (hf : ∀ b, (f b).ActsOnce Looks Acts Ends)
    : (p >>= f).ActsOnce Looks Acts Ends := by
  induction p with
  | ret b => exact hf b
  | throw e => trivial
  | call c next ih => exact .inl ⟨hp.1, fun r => ih r (hp.2 r)⟩

theorem actsOnce_bind {Ends' : (c : Cmd) → Res c → Prog Cmd Res ε β → Prop}
    {p : Prog Cmd Res ε β} {f : β → Prog Cmd Res ε α} (hp : p.ActsOnce Looks Acts Ends')
    (hf : ∀ c r q, Ends' c r q → Ends c r (q >>= f))
    : (p >>= f).ActsOnce Looks Acts Ends := by
  induction p with
  | ret b => exact hp.elim
  | throw e => trivial
  | call c next ih =>
    rcases hp with ⟨hc, hnext⟩ | ⟨hc, hends⟩
    . exact .inl ⟨hc, fun r => ih r (hnext r)⟩
    . exact .inr ⟨hc, fun r => hf c r _ (hends r)⟩

theorem actsOnce_mono {Acts' : Cmd → Prop} {p : Prog Cmd Res ε α}
    (hp : p.ActsOnce Looks Acts Ends) (hacts : ∀ c, Acts c → Acts' c)
    : p.ActsOnce Looks Acts' Ends := by
  induction p with
  | ret a => exact hp
  | throw e => trivial
  | call c next ih =>
    rcases hp with ⟨hc, hnext⟩ | ⟨hc, hends⟩
    . exact .inl ⟨hc, fun r => ih r (hnext r)⟩
    . exact .inr ⟨hacts c hc, hends⟩

theorem obeys_of_actsOnce {C : Cmd → Prop} {p : Prog Cmd Res ε α}
    (hp : p.ActsOnce Looks Acts Ends) (hlooks : ∀ c, Looks c → C c) (hacts : ∀ c, Acts c → C c)
    (hends : ∀ c r q, Ends c r q → ∃ outcome, q = ofExcept outcome)
    : p.Obeys C (fun _ => True) (fun _ => True) := by
  induction p with
  | ret a => trivial
  | throw e => trivial
  | call c next ih =>
    rcases hp with ⟨hc, hnext⟩ | ⟨hc, hnext⟩
    . exact ⟨hlooks c hc, fun r => ih r (hnext r)⟩
    . refine ⟨hacts c hc, ?_⟩
      intro r
      rcases hends c r _ (hnext r) with ⟨outcome, heq⟩
      rw [heq]
      cases outcome <;> trivial

theorem ofExcept_ne_call {outcome : Except ε α} {c : Cmd} {next : Res c → Prog Cmd Res ε α}
    : ofExcept outcome ≠ .call c next := by
  cases outcome <;> simp [ofExcept]

end Prog

namespace Sessions

variable {Cmd : Type} {Res : Cmd → Type} {ε σ ι α : Type} [DecidableEq ι]
  (exec : (c : Cmd) → σ → Res c × σ) (failed : (c : Cmd) → Res c)

-- The session leaves the store alone whenever it gets its turn, except after the run `except`.
def IdleBut (except : Option (List (SessionEvent ι))) (m : Sessions Cmd Res ε σ ι α) (i : ι)
    (es : List (SessionEvent ι))
    : Prop :=
  ∀ pre ev, pre ++ [ev] <+: es → ev.session = i → except ≠ some pre →
    (Run.run (step exec failed) m (pre ++ [ev])).store = (Run.run (step exec failed) m pre).store

/--
How far a session has got whose program acts once: it has not acted yet, its act has failed before it got
to the store, or it has acted, at one moment of the run, and has got the answer or lost it.
-/
inductive Acted (Looks Acts : Cmd → Prop)
    (Ends : (c : Cmd) → Res c → Prog Cmd Res ε α → Prop) (m : Sessions Cmd Res ε σ ι α) (i : ι)
    (es : List (SessionEvent ι))
    : Prop where
  | looking
      (hrest : ((Run.run (step exec failed) m es).sessions i).rest.ActsOnce Looks Acts Ends)
      (hidle : IdleBut exec failed none m i es)
  | failed {c} (hc : Acts c)
      (hends : Ends c (failed c) ((Run.run (step exec failed) m es).sessions i).rest)
      (hidle : IdleBut exec failed none m i es)
  | acted {pre c next} (hle : pre ++ [.exec i] <+: es)
      (hnext : ((Run.run (step exec failed) m pre).sessions i).rest = .call c next) (hc : Acts c)
      (hends : Ends c (exec c (Run.run (step exec failed) m pre).store).1
        ((Run.run (step exec failed) m es).sessions i).rest)
      (hidle : IdleBut exec failed (some pre) m i es)
  | lost {pre c next} (hle : pre ++ [.lose i] <+: es)
      (hnext : ((Run.run (step exec failed) m pre).sessions i).rest = .call c next) (hc : Acts c)
      (hends : Ends c (failed c) ((Run.run (step exec failed) m es).sessions i).rest)
      (hidle : IdleBut exec failed (some pre) m i es)

variable {exec failed} {Looks Acts : Cmd → Prop}
  {Ends : (c : Cmd) → Res c → Prog Cmd Res ε α → Prop} {m : Sessions Cmd Res ε σ ι α} {i : ι}
  {es : List (SessionEvent ι)}

theorem IdleBut.mono {pre : List (SessionEvent ι)} (h : IdleBut exec failed none m i es)
    : IdleBut exec failed (some pre) m i es := by
  intro pre' ev hle hev _
  apply h pre' ev hle hev
  simp

theorem IdleBut.append {except : Option (List (SessionEvent ι))}
    (h : IdleBut exec failed except m i es) {ev : SessionEvent ι}
    (hev : ev.session = i → except ≠ some es →
      (step exec failed (Run.run (step exec failed) m es) ev).store =
        (Run.run (step exec failed) m es).store)
    : IdleBut exec failed except m i (es ++ [ev]) := by
  intro pre ev' hle hev' hne
  rcases List.prefix_concat_iff.mp hle with heq | hle
  . rcases List.append_inj' heq rfl with ⟨rfl, hlast⟩
    cases List.singleton_inj.mp hlast
    rw [Run.run_append_singleton]
    exact hev hev' hne
  . exact h pre ev' hle hev' hne

/--
What does not touch the session, or leaves the store alone, leaves it where it is.
-/
theorem Acted.append (h : Acted exec failed Looks Acts Ends m i es) {ev : SessionEvent ι}
    (hrest : ((step exec failed (Run.run (step exec failed) m es) ev).sessions i).rest =
      ((Run.run (step exec failed) m es).sessions i).rest)
    (hev : ev.session = i → (step exec failed (Run.run (step exec failed) m es) ev).store =
      (Run.run (step exec failed) m es).store)
    : Acted exec failed Looks Acts Ends m i (es ++ [ev]) := by
  have hrest' : ((Run.run (step exec failed) m (es ++ [ev])).sessions i).rest =
      ((Run.run (step exec failed) m es).sessions i).rest := by
    rw [Run.run_append_singleton, hrest]
  have hidle : ∀ {except}, IdleBut exec failed except m i es →
      IdleBut exec failed except m i (es ++ [ev]) := by
    intro except h
    apply h.append
    intro heq _
    exact hev heq
  cases h with
  | looking hlooking hidle' => exact .looking (by rwa [hrest']) (hidle hidle')
  | failed hc hends hidle' => exact .failed hc (by rwa [hrest']) (hidle hidle')
  | acted hle hnext hc hends hidle' =>
    exact .acted (hle.trans (List.prefix_append _ _)) hnext hc (by rwa [hrest']) (hidle hidle')
  | lost hle hnext hc hends hidle' =>
    exact .lost (hle.trans (List.prefix_append _ _)) hnext hc (by rwa [hrest']) (hidle hidle')

theorem rest_answer_self (m : Sessions Cmd Res ε σ ι α) (i : ι) (c : Cmd)
    (next : Res c → Prog Cmd Res ε α) (r : Res c)
    : ((m.answer i c next r).sessions i).rest = next r := by
  unfold answer
  dsimp only
  rw [Function.update_self]

theorem sessions_answer_of_ne (m : Sessions Cmd Res ε σ ι α) {i j : ι} (hij : i ≠ j) (c : Cmd)
    (next : Res c → Prog Cmd Res ε α) (r : Res c)
    : (m.answer j c next r).sessions i = m.sessions i := by
  unfold answer
  dsimp only
  rw [Function.update_of_ne hij]

variable (exec failed) in
/--
A step leaves a session where it is, or answers its command.
-/
theorem session_step_cases (m : Sessions Cmd Res ε σ ι α) (i : ι) (ev : SessionEvent ι)
    : (step exec failed m ev).sessions i = m.sessions i
        ∨ ∃ c next r, (m.sessions i).rest = .call c next
          ∧ (ev = .exec i ∧ r = (exec c m.store).1 ∨ (ev = .lose i ∨ ev = .fail i) ∧ r = failed c)
          ∧ (step exec failed m ev).sessions i = ⟨(m.sessions i).history ++ [⟨c, r⟩], next r⟩ := by
  have hstep := step_cases exec failed m ev
  generalize step exec failed m ev = m' at *
  have hself : ∀ {j c next} (r : Res c), (m.answer j c next r).sessions j =
      ⟨(m.sessions j).history ++ [⟨c, r⟩], next r⟩ := by
    intro j c next r
    unfold answer
    dsimp only
    rw [Function.update_self]
  cases hstep with
  | stutter => exact .inl rfl
  | @done _ j c next r hj hev hr =>
    by_cases hij : i = j
    . subst hij
      exact .inr ⟨c, next, r, hj, hr.imp id (And.imp_left .inl), hself _⟩
    . exact .inl (sessions_answer_of_ne _ hij _ _ _)
  | @fail j c next hj =>
    by_cases hij : i = j
    . subst hij
      exact .inr ⟨c, next, _, hj, .inr ⟨.inr rfl, rfl⟩, hself _⟩
    . exact .inl (sessions_answer_of_ne _ hij _ _ _)

-- A session that is done stays as it is.
theorem session_run_of_ended (hended : ∀ c next, (m.sessions i).rest ≠ .call c next)
    (es : List (SessionEvent ι))
    : (Run.run (step exec failed) m es).sessions i = m.sessions i := by
  induction es using List.reverseRecOn with
  | nil => rfl
  | append_singleton es ev ih =>
    rw [Run.run_append_singleton]
    rcases session_step_cases exec failed (Run.run (step exec failed) m es) i ev
      with hsame | ⟨c, next, r, hcall, _⟩
    . exact hsame.trans ih
    . rw [ih] at hcall
      exact absurd hcall (hended c next)

-- A session that has a command left has not acted.
theorem Acted.actsOnce_of_call (h : Acted exec failed Looks Acts Ends m i es)
    (hends : ∀ c r q, Ends c r q → ∃ outcome, q = Prog.ofExcept outcome) {c : Cmd}
    {next : Res c → Prog Cmd Res ε α}
    (hi : ((Run.run (step exec failed) m es).sessions i).rest = .call c next)
    : (Looks c ∧ (∀ r, (next r).ActsOnce Looks Acts Ends) ∨ Acts c ∧ ∀ r, Ends c r (next r))
        ∧ IdleBut exec failed none m i es := by
  have hdone : ∀ {c r}, ¬Ends c r ((Run.run (step exec failed) m es).sessions i).rest := by
    intro c r h
    rcases hends c r _ h with ⟨outcome, heq⟩
    exact Prog.ofExcept_ne_call (heq.symm.trans hi)
  cases h with
  | looking hrest hidle =>
    rw [hi] at hrest
    exact ⟨hrest, hidle⟩
  | failed _ h => exact absurd h hdone
  | acted _ _ _ h => exact absurd h hdone
  | lost _ _ _ h => exact absurd h hdone

/--
One turn, of the session or of another one.
-/
theorem acted_step (hlooks : ∀ c s, Looks c → (exec c s).2 = s)
    (hends : ∀ c r q, Ends c r q → ∃ outcome, q = Prog.ofExcept outcome)
    (h : Acted exec failed Looks Acts Ends m i es) (ev : SessionEvent ι)
    : Acted exec failed Looks Acts Ends m i (es ++ [ev]) := by
  have hstep := step_cases exec failed (Run.run (step exec failed) m es) ev
  generalize hm : step exec failed (Run.run (step exec failed) m es) ev = m' at hstep
  cases hstep with
  | stutter => exact h.append (by rw [hm]) (fun _ => by rw [hm])
  | @done _ j c next r hj hev hr =>
    by_cases hij : i = j
    . subst hij
      have hrest : ((Run.run (step exec failed) m (es ++ [ev])).sessions i).rest = next r := by
        rw [Run.run_append_singleton, hm]
        exact rest_answer_self _ _ _ _ _
      rcases h.actsOnce_of_call hends hj with ⟨⟨hc, hnext⟩ | ⟨hc, hnext⟩, hidle⟩
      . apply Acted.looking
        . rw [hrest]
          exact hnext _
        . apply hidle.append
          intro _ _
          rw [hm]
          exact hlooks c _ hc
      . have hidle' : IdleBut exec failed (some es) m i (es ++ [ev]) :=
          hidle.mono.append (fun _ hne => absurd rfl hne)
        have hends' := hnext r
        rw [← hrest] at hends'
        rcases hr with ⟨rfl, rfl⟩ | ⟨rfl, rfl⟩
        . exact .acted List.prefix_rfl hj hc hends' hidle'
        . exact .lost List.prefix_rfl hj hc hends' hidle'
    . apply h.append
      . rw [hm]
        dsimp only
        rw [sessions_answer_of_ne _ hij]
      . intro heq
        exact absurd (heq.symm.trans (SessionEvent.session_of_done? hev)) hij
  | @fail j c next hj =>
    by_cases hij : i = j
    . subst hij
      have hrest : ((Run.run (step exec failed) m (es ++ [.fail i])).sessions i).rest =
          next (failed c) := by
        rw [Run.run_append_singleton, hm]
        exact rest_answer_self _ _ _ _ _
      have hstore : (step exec failed (Run.run (step exec failed) m es) (.fail i)).store =
          (Run.run (step exec failed) m es).store := by
        rw [hm]
        rfl
      rcases h.actsOnce_of_call hends hj with ⟨⟨hc, hnext⟩ | ⟨hc, hnext⟩, hidle⟩
      . apply Acted.looking
        . rw [hrest]
          exact hnext _
        . exact hidle.append (fun _ _ => hstore)
      . apply Acted.failed hc
        . rw [hrest]
          exact hnext _
        . exact hidle.append (fun _ _ => hstore)
    . apply h.append
      . rw [hm, sessions_answer_of_ne _ hij]
      . intro heq
        exact absurd heq.symm hij

variable (exec failed) in
-- In the run the session has sent the command and has got the answer to it.
def Asked (m : Sessions Cmd Res ε σ ι α) (i : ι) (es : List (SessionEvent ι)) (c : Cmd) (r : Res c)
    : Prop :=
  ∃ pre next, ((Run.run (step exec failed) m pre).sessions i).rest = .call c next
    ∧ (pre ++ [.exec i] <+: es ∧ r = (exec c (Run.run (step exec failed) m pre).store).1
      ∨ (pre ++ [.lose i] <+: es ∨ pre ++ [.fail i] <+: es) ∧ r = failed c)

theorem Asked.append {c : Cmd} {r : Res c} (h : Asked exec failed m i es c r)
    (ev : SessionEvent ι)
    : Asked exec failed m i (es ++ [ev]) c r := by
  have hle : es <+: es ++ [ev] := List.prefix_append _ _
  rcases h with ⟨pre, next, hnext, hpre⟩
  exact ⟨pre, next, hnext, hpre.imp (And.imp_left (·.trans hle))
    (And.imp_left (Or.imp (·.trans hle) (·.trans hle)))⟩

theorem asked_of_mem {c : Cmd} {r : Res c} (hi : (m.sessions i).history = [])
    (h : ⟨c, r⟩ ∈ ((Run.run (step exec failed) m es).sessions i).history)
    : Asked exec failed m i es c r := by
  induction es using List.reverseRecOn with
  | nil =>
    rw [Run.run_nil, hi] at h
    cases h
  | append_singleton es ev ih =>
    rw [Run.run_append_singleton] at h
    rcases session_step_cases exec failed (Run.run (step exec failed) m es) i ev
      with hsame | ⟨c', next, r', hnext, hanswer, hnew⟩
    . rw [hsame] at h
      exact (ih h).append ev
    . rw [hnew] at h
      rcases List.mem_append.mp h with hold | hlast
      . exact (ih hold).append ev
      . cases List.mem_singleton.mp hlast
        rcases hanswer with ⟨rfl, hr⟩ | ⟨rfl | rfl, hr⟩
        . exact ⟨es, next, hnext, .inl ⟨List.prefix_rfl, hr⟩⟩
        . exact ⟨es, next, hnext, .inr ⟨.inl List.prefix_rfl, hr⟩⟩
        . exact ⟨es, next, hnext, .inr ⟨.inr List.prefix_rfl, hr⟩⟩

theorem obeys_step {C : Cmd → Prop} {F : ε → Prop} {Q : α → Prop}
    (h : (m.sessions i).rest.Obeys C F Q) (ev : SessionEvent ι)
    : ((step exec failed m ev).sessions i).rest.Obeys C F Q := by
  rcases session_step_cases exec failed m i ev with hsame | ⟨c, next, r, hi, _, hnew⟩
  . rwa [hsame]
  . rw [hi] at h
    rw [hnew]
    exact h.2 r

theorem obeys_run {C : Cmd → Prop} {F : ε → Prop} {Q : α → Prop}
    (h : (m.sessions i).rest.Obeys C F Q) (es : List (SessionEvent ι))
    : ((Run.run (step exec failed) m es).sessions i).rest.Obeys C F Q :=
  Run.run_invariant (I := fun m : Sessions Cmd Res ε σ ι α => (m.sessions i).rest.Obeys C F Q)
    (fun _ ev h => obeys_step h ev) es h

/--
In every run a session whose program acts once acts at most once, and it ends as the answer has it.
-/
theorem acted_run (hlooks : ∀ c s, Looks c → (exec c s).2 = s)
    (hends : ∀ c r q, Ends c r q → ∃ outcome, q = Prog.ofExcept outcome)
    (hi : (m.sessions i).rest.ActsOnce Looks Acts Ends) (es : List (SessionEvent ι))
    : Acted exec failed Looks Acts Ends m i es := by
  induction es using List.reverseRecOn with
  | nil =>
    apply Acted.looking hi
    intro pre ev hle
    simp at hle
  | append_singleton es ev ih => exact acted_step hlooks hends ih ev

/--
The same store, and the same sessions but for one.
-/
structure SameWithout (i : ι) (m m' : Sessions Cmd Res ε σ ι α) : Prop where
  store : m'.store = m.store
  sessions : ∀ j, j ≠ i → m'.sessions j = m.sessions j

theorem sameWithout_answer {m m' : Sessions Cmd Res ε σ ι α} (h : SameWithout i m m') {j : ι} {c : Cmd}
    {next : Res c → Prog Cmd Res ε α} {r : Res c} {s s' : σ} (hj : j ≠ i) (hs : s' = s)
    : SameWithout i { m.answer j c next r with store := s }
        { m'.answer j c next r with store := s' } := by
  refine ⟨hs, ?_⟩
  intro k hk
  change (m'.answer j c next r).sessions k = (m.answer j c next r).sessions k
  unfold Sessions.answer
  dsimp only
  by_cases hkj : k = j
  . subst hkj
    rw [Function.update_self, Function.update_self, h.sessions k hk]
  . rw [Function.update_of_ne hkj, Function.update_of_ne hkj, h.sessions k hk]

theorem sameWithout_step {m m' : Sessions Cmd Res ε σ ι α} (h : SameWithout i m m')
    {ev : SessionEvent ι} (hev : ev.session ≠ i)
    : SameWithout i (step exec failed m ev) (step exec failed m' ev) := by
  have hsession := h.sessions ev.session hev
  cases ev with
  | exec j =>
    change m'.sessions j = m.sessions j at hsession
    unfold Sessions.step
    dsimp only
    rw [hsession, h.store]
    cases (m.sessions j).rest with
    | call c next => exact sameWithout_answer h hev rfl
    | _ => exact h
  | lose j =>
    change m'.sessions j = m.sessions j at hsession
    unfold Sessions.step
    dsimp only
    rw [hsession, h.store]
    cases (m.sessions j).rest with
    | call c next => exact sameWithout_answer h hev rfl
    | _ => exact h
  | fail j =>
    change m'.sessions j = m.sessions j at hsession
    unfold Sessions.step
    dsimp only
    rw [hsession]
    cases (m.sessions j).rest with
    | call c next => exact sameWithout_answer h hev h.store
    | _ => exact h

-- A turn of the session itself.
theorem sameWithout_step_self {m m' : Sessions Cmd Res ε σ ι α} (h : SameWithout i m m')
    {ev : SessionEvent ι} (hev : ev.session = i)
    (hstore : (step exec failed m ev).store = m.store)
    : SameWithout i (step exec failed m ev) m' := by
  have hstep := step_cases exec failed m ev
  generalize step exec failed m ev = next' at *
  cases hstep with
  | stutter => exact h
  | @done _ k _ _ _ hi hdone =>
    rw [SessionEvent.session_of_done? hdone] at hev
    subst hev
    refine ⟨h.store.trans hstore.symm, ?_⟩
    intro j hj
    rw [h.sessions j hj]
    exact (sessions_answer_of_ne _ hj _ _ _).symm
  | fail hi =>
    cases hev
    refine ⟨h.store, ?_⟩
    intro j hj
    rw [h.sessions j hj]
    exact (sessions_answer_of_ne _ hj _ _ _).symm

/--
A session that never does anything to the store may as well not be there.
-/
theorem sameWithout_purge (h : IdleBut exec failed none m i es)
    : SameWithout i (Run.run (step exec failed) m es)
        (Run.run (step exec failed) m (purge i es)) := by
  induction es using List.reverseRecOn with
  | nil => exact ⟨rfl, fun _ _ => rfl⟩
  | append_singleton es ev ih =>
    have hle : es <+: es ++ [ev] := List.prefix_append _ _
    have hsame := ih (fun pre ev hpre => h pre ev (hpre.trans hle))
    rw [Run.run_append_singleton]
    by_cases hev : ev.session = i
    . have hpurge : purge i (es ++ [ev]) = purge i es := by simp [purge, hev]
      rw [hpurge]
      apply sameWithout_step_self hsame hev
      have hidle := h es ev List.prefix_rfl hev (by simp)
      rwa [Run.run_append_singleton] at hidle
    . have hpurge : purge i (es ++ [ev]) = purge i es ++ [ev] := by simp [purge, hev]
      rw [hpurge, Run.run_append_singleton]
      exact sameWithout_step hsame hev

theorem history_mono (m : Sessions Cmd Res ε σ ι α) (i : ι) (es : List (SessionEvent ι))
    : (m.sessions i).history <+: ((Run.run (step exec failed) m es).sessions i).history := by
  induction es using List.reverseRecOn with
  | nil => exact List.prefix_rfl
  | append_singleton es ev ih =>
    rw [Run.run_append_singleton]
    rcases session_step_cases exec failed (Run.run (step exec failed) m es) i ev
      with hsame | ⟨_, _, _, _, _, hnew⟩
    . rwa [hsame]
    . rw [hnew]
      exact ih.trans (List.prefix_append _ _)

-- A session that has got no answer yet is where it began.
theorem sessions_of_history_nil (h : ((Run.run (step exec failed) m es).sessions i).history = [])
    : (Run.run (step exec failed) m es).sessions i = m.sessions i := by
  induction es using List.reverseRecOn with
  | nil => rfl
  | append_singleton es ev ih =>
    rw [Run.run_append_singleton] at *
    rcases session_step_cases exec failed (Run.run (step exec failed) m es) i ev
      with hsame | ⟨_, _, _, _, _, hnew⟩
    . rw [hsame] at h ⊢
      exact ih h
    . rw [hnew] at h
      simp at h

end Sessions
