import BankingApi.Store.Run
import BankingApi.Store.Service
import Mathlib.Logic.Function.Basic

/-!
This module contains any number of programs side by side. Their commands run one at a time, in any order,
and any of them may fail: it is not done, or it is done and its answer is lost.
-/

structure Session (Cmd : Type) (Res : Cmd → Type) (ε α : Type) where
  history : List ((c : Cmd) × Res c)
  rest : Prog Cmd Res ε α

structure Sessions (Cmd : Type) (Res : Cmd → Type) (ε σ ι α : Type) where
  store : σ
  sessions : ι → Session Cmd Res ε α

inductive SessionEvent (ι : Type) where
  | exec (i : ι)
  -- The command is done, and the session is told that it has failed.
  | lose (i : ι)
  | fail (i : ι)

namespace SessionEvent

def session (ev : SessionEvent ι) : ι :=
  match ev with
  | .exec i => i
  | .lose i => i
  | .fail i => i

-- The session whose command is done.
def done? (ev : SessionEvent ι) : Option ι :=
  match ev with
  | .exec i => some i
  | .lose i => some i
  | .fail _ => none

theorem session_of_done? {ev : SessionEvent ι} {i : ι} (h : ev.done? = some i) : ev.session = i := by
  cases ev <;> simp_all [done?, session]

end SessionEvent

namespace Sessions

variable {Cmd : Type} {Res : Cmd → Type} {ε σ ι α : Type}

def init (programs : ι → Prog Cmd Res ε α) (s : σ) : Sessions Cmd Res ε σ ι α where
  store := s
  sessions := fun i => ⟨[], programs i⟩

variable [DecidableEq ι]

def answer (m : Sessions Cmd Res ε σ ι α) (i : ι) (c : Cmd) (next : Res c → Prog Cmd Res ε α)
    (r : Res c)
    : Sessions Cmd Res ε σ ι α :=
  { m with sessions := Function.update m.sessions i ⟨(m.sessions i).history ++ [⟨c, r⟩], next r⟩ }

variable (exec : (c : Cmd) → σ → Res c × σ) (failed : (c : Cmd) → Res c)

def step (m : Sessions Cmd Res ε σ ι α) (ev : SessionEvent ι) : Sessions Cmd Res ε σ ι α :=
  match ev with
  | .exec i =>
    match (m.sessions i).rest with
    | .call c next => { m.answer i c next (exec c m.store).1 with store := (exec c m.store).2 }
    | _ => m
  | .lose i =>
    match (m.sessions i).rest with
    | .call c next => { m.answer i c next (failed c) with store := (exec c m.store).2 }
    | _ => m
  | .fail i =>
    match (m.sessions i).rest with
    | .call c next => m.answer i c next (failed c)
    | _ => m

inductive Stepped (m : Sessions Cmd Res ε σ ι α)
    : SessionEvent ι → Sessions Cmd Res ε σ ι α → Prop where
  | stutter {ev} : Stepped m ev m
  | done {ev i c next r} (hi : (m.sessions i).rest = .call c next) (hev : ev.done? = some i)
      (hr : ev = .exec i ∧ r = (exec c m.store).1 ∨ ev = .lose i ∧ r = failed c)
    : Stepped m ev { m.answer i c next r with store := (exec c m.store).2 }
  | fail {i c next} (hi : (m.sessions i).rest = .call c next)
    : Stepped m (.fail i) (m.answer i c next (failed c))

theorem step_cases (m : Sessions Cmd Res ε σ ι α) (ev : SessionEvent ι)
    : Stepped exec failed m ev (step exec failed m ev) := by
  unfold step
  cases ev with
  | exec i =>
    dsimp only
    split
    . next hi => exact .done hi rfl (.inl ⟨rfl, rfl⟩)
    . exact .stutter
  | lose i =>
    dsimp only
    split
    . next hi => exact .done hi rfl (.inr ⟨rfl, rfl⟩)
    . exact .stutter
  | fail i =>
    dsimp only
    split
    . next hi => exact .fail hi
    . exact .stutter

variable {exec failed}

def AllGuarded (G : ι → List ((c : Cmd) × Res c) → Cmd → Prop) (m : Sessions Cmd Res ε σ ι α)
    : Prop :=
  ∀ i, (m.sessions i).rest.Guarded (G i) (fun _ _ => True) (m.sessions i).history

/--
Every session goes on as `G` has it, and returns nothing but what `Post` allows after its answers.
-/
def AllGuardedTo (G : ι → List ((c : Cmd) × Res c) → Cmd → Prop)
    (Post : ι → List ((c : Cmd) × Res c) → α → Prop) (m : Sessions Cmd Res ε σ ι α)
    : Prop :=
  ∀ i, (m.sessions i).rest.Guarded (G i) (Post i) (m.sessions i).history

section AllGuarded

variable {G : ι → List ((c : Cmd) × Res c) → Cmd → Prop}
  {Post : ι → List ((c : Cmd) × Res c) → α → Prop} {programs : ι → Prog Cmd Res ε α} {s : σ}

omit [DecidableEq ι] in
theorem allGuarded_init (h : ∀ i, (programs i).Guarded (G i) (fun _ _ => True) [])
    : AllGuarded G (init programs s) := h

theorem allGuardedTo_answer {m : Sessions Cmd Res ε σ ι α} {i : ι} {c : Cmd}
    {next : Res c → Prog Cmd Res ε α} (hi : (m.sessions i).rest = .call c next)
    (h : AllGuardedTo G Post m) (r : Res c)
    : AllGuardedTo G Post (m.answer i c next r) := by
  intro j
  unfold answer
  dsimp only
  by_cases hj : j = i
  . subst hj
    rw [Function.update_self]
    have := h j
    rw [hi] at this
    exact this.2 r
  . rw [Function.update_of_ne hj]
    exact h j

theorem allGuardedTo_step (m : Sessions Cmd Res ε σ ι α) (ev : SessionEvent ι)
    (h : AllGuardedTo G Post m)
    : AllGuardedTo G Post (step exec failed m ev) := by
  have hstep := step_cases exec failed m ev
  generalize step exec failed m ev = m' at *
  cases hstep with
  | stutter => exact h
  | done hi => exact allGuardedTo_answer hi h _
  | fail hi => exact allGuardedTo_answer hi h _

theorem allGuardedTo_run (es : List (SessionEvent ι))
    (h : ∀ i, (programs i).Guarded (G i) (Post i) [])
    : AllGuardedTo G Post (Run.run (step exec failed) (init programs s) es) :=
  Run.run_invariant allGuardedTo_step es h

theorem allGuarded_step (m : Sessions Cmd Res ε σ ι α) (ev : SessionEvent ι) (h : AllGuarded G m)
    : AllGuarded G (step exec failed m ev) :=
  allGuardedTo_step m ev h

theorem allGuarded_run (es : List (SessionEvent ι))
    (h : ∀ i, (programs i).Guarded (G i) (fun _ _ => True) [])
    : AllGuarded G (Run.run (step exec failed) (init programs s) es) :=
  allGuardedTo_run es h

end AllGuarded

/--
What every allowed command keeps holds in all states of a run, if the programs send no others.
-/
theorem store_run_of_obeys {C : Cmd → Prop} {I : σ → Prop} {programs : ι → Prog Cmd Res ε α}
    (hprograms : ∀ i, (programs i).Obeys C (fun _ => True) (fun _ => True))
    (hexec : ∀ c s, C c → I s → I (exec c s).2) {s : σ} (es : List (SessionEvent ι)) (hs : I s)
    : I (Run.run (step exec failed) (init programs s) es).store := by
  have hguarded : ∀ i, (programs i).Guarded (fun _ c => C c) (fun _ _ => True) [] := by
    intro i
    apply Prog.guarded_mono (Prog.guarded_of_obeys (fun _ _ _ h => h) (hprograms i))
    intro _ _ _
    trivial
  have hinv : AllGuarded (fun _ _ c => C c) (Run.run (step exec failed) (init programs s) es)
      ∧ I (Run.run (step exec failed) (init programs s) es).store := by
    apply Run.run_invariant
      (I := fun m : Sessions Cmd Res ε σ ι α => AllGuarded (fun _ _ c => C c) m ∧ I m.store)
    . rintro m ev ⟨h, hm⟩
      refine ⟨allGuarded_step m ev h, ?_⟩
      have hstep := step_cases exec failed m ev
      generalize step exec failed m ev = m' at *
      cases hstep with
      | stutter => exact hm
      | @done _ i c next _ hi =>
        have hc := h i
        rw [hi] at hc
        exact hexec c m.store hc.1 hm
      | fail => exact hm
    . exact ⟨allGuarded_init hguarded, hs⟩
  exact hinv.2

theorem history_answer (m : Sessions Cmd Res ε σ ι α) (i j : ι) (c : Cmd)
    (next : Res c → Prog Cmd Res ε α) (r : Res c)
    : ((m.answer j c next r).sessions i).history = (m.sessions i).history
        ∨ i = j ∧ ((m.answer j c next r).sessions i).history = (m.sessions i).history ++ [⟨c, r⟩] := by
  unfold answer
  dsimp only
  by_cases hi : i = j
  . subst hi
    right
    rw [Function.update_self]
    exact ⟨rfl, rfl⟩
  . left
    rw [Function.update_of_ne hi]

variable (exec failed) in
-- In the run a session has got an answer at a moment at which it had got those of the history.
def Answered (m : Sessions Cmd Res ε σ ι α) (es : List (SessionEvent ι)) (i : ι)
    (history : List ((c : Cmd) × Res c)) (c : Cmd) (r : Res c)
    : Prop :=
  ∃ pre, ((Run.run (step exec failed) m pre).sessions i).history = history
    ∧ (pre ++ [.exec i] <+: es ∧ r = (exec c (Run.run (step exec failed) m pre).store).1
      ∨ (pre ++ [.lose i] <+: es ∨ pre ++ [.fail i] <+: es) ∧ r = failed c)

theorem Answered.mono {m : Sessions Cmd Res ε σ ι α} {es es' : List (SessionEvent ι)} {i : ι}
    {history : List ((c : Cmd) × Res c)} {c : Cmd} {r : Res c}
    (h : Answered exec failed m es i history c r) (hle : es <+: es')
    : Answered exec failed m es' i history c r := by
  rcases h with ⟨pre, hpre, ⟨hexec, heq⟩ | ⟨hfail, heq⟩⟩
  . exact ⟨pre, hpre, .inl ⟨hexec.trans hle, heq⟩⟩
  . exact ⟨pre, hpre, .inr ⟨hfail.imp (·.trans hle) (·.trans hle), heq⟩⟩

theorem append_singleton_eq_append_cons {history later later' : List ((c : Cmd) × Res c)}
    {entry entry' : (c : Cmd) × Res c} (h : later ++ [entry] = history ++ entry' :: later')
    : later = history ∧ entry = entry' ∨ ∃ later', later = history ++ entry' :: later' := by
  rcases List.eq_nil_or_concat later' with rfl | ⟨later', last, rfl⟩
  . left
    simpa using List.append_inj' h rfl
  . right
    rw [List.concat_eq_append, ← List.cons_append, ← List.append_assoc] at h
    exact ⟨later', (List.append_inj' h rfl).1⟩

theorem answered_of_history_eq {programs : ι → Prog Cmd Res ε α} {s : σ}
    {es : List (SessionEvent ι)} {i : ι} {history later : List ((c : Cmd) × Res c)} {c : Cmd}
    {r : Res c}
    (h : ((Run.run (step exec failed) (init programs s) es).sessions i).history =
      history ++ ⟨c, r⟩ :: later)
    : Answered exec failed (init programs s) es i history c r := by
  induction es using List.reverseRecOn generalizing later with
  | nil =>
    change [] = _ at h
    simp at h
  | append_singleton es ev ih =>
    have hle : es <+: es ++ [ev] := List.prefix_append _ _
    rw [Run.run_append_singleton] at h
    have hstep := step_cases exec failed (Run.run (step exec failed) (init programs s) es) ev
    generalize step exec failed (Run.run (step exec failed) (init programs s) es) ev = m' at *
    cases hstep with
    | stutter => exact (ih h).mono hle
    | @done _ j c' next r' hi _ hr =>
      rcases history_answer _ i j c' next _ with heq | ⟨rfl, heq⟩
      . exact (ih (heq.symm.trans h)).mono hle
      . rcases append_singleton_eq_append_cons (heq.symm.trans h) with ⟨hhistory, hentry⟩ | ⟨_, hold⟩
        . cases hentry
          rcases hr with ⟨rfl, rfl⟩ | ⟨rfl, rfl⟩
          . exact ⟨es, hhistory, .inl ⟨List.prefix_rfl, rfl⟩⟩
          . exact ⟨es, hhistory, .inr ⟨.inl List.prefix_rfl, rfl⟩⟩
        . exact (ih hold).mono hle
    | @fail j c' next hi =>
      rcases history_answer _ i j c' next _ with heq | ⟨rfl, heq⟩
      . exact (ih (heq.symm.trans h)).mono hle
      . rcases append_singleton_eq_append_cons (heq.symm.trans h) with ⟨hhistory, hentry⟩ | ⟨_, hold⟩
        . cases hentry
          exact ⟨es, hhistory, .inr ⟨.inr List.prefix_rfl, rfl⟩⟩
        . exact (ih hold).mono hle

theorem exists_run_eq_serve {p : Prog Cmd Res ε α} {m : Sessions Cmd Res ε σ ι α} {i : ι}
    (hi : (m.sessions i).rest = p)
    : ∃ n, let m' := Run.run (step exec failed) m (List.replicate n (.exec i))
      m'.store = (p.serve exec m.store).2
        ∧ (m'.sessions i).rest = Prog.ofExcept (p.serve exec m.store).1
        ∧ ∀ j, j ≠ i → m'.sessions j = m.sessions j := by
  induction p generalizing m with
  | ret a => exact ⟨0, rfl, hi, fun _ _ => rfl⟩
  | throw e => exact ⟨0, rfl, hi, fun _ _ => rfl⟩
  | call c next ih =>
    have hstep : step exec failed m (.exec i) =
        { m.answer i c next (exec c m.store).1 with store := (exec c m.store).2 } := by
      unfold step
      dsimp only
      rw [hi]
    have hrest : ((step exec failed m (.exec i)).sessions i).rest = next (exec c m.store).1 := by
      rw [hstep]
      unfold answer
      dsimp only
      rw [Function.update_self]
    have hstore : (step exec failed m (.exec i)).store = (exec c m.store).2 := by
      rw [hstep]
    rcases ih _ hrest with ⟨n, hserve, hend, hothers⟩
    rw [hstore] at hserve hend
    refine ⟨n + 1, hserve, hend, ?_⟩
    intro j hj
    rw [List.replicate_succ, Run.run_cons, hothers j hj, hstep]
    unfold answer
    dsimp only
    rw [Function.update_of_ne hj]

section Purge

variable {Allowed Hidden : Cmd → Prop} {scrub : (c : Cmd) → Res c → Res c} {R : σ → σ → Prop}

-- The run as it is without one of the sessions.
def purge (j : ι) (es : List (SessionEvent ι)) : List (SessionEvent ι) :=
  es.filter (fun ev => ev.session ≠ j)

/--
The stores differ in the hidden part only. The session `j` does nothing but to the hidden part, and none of
the others looks at it.
-/
structure Purged (Allowed Hidden : Cmd → Prop) (scrub : (c : Cmd) → Res c → Res c)
    (R : σ → σ → Prop) (j : ι) (m m' : Sessions Cmd Res ε σ ι α)
    : Prop where
  store : R m.store m'.store
  hidden : (m.sessions j).rest.Obeys Hidden (fun _ => True) (fun _ => True)
  blind : ∀ i, i ≠ j → (m.sessions i).rest.Blind Allowed scrub
  rest : ∀ i, i ≠ j → (m'.sessions i).rest = (m.sessions i).rest

theorem purged_step_session {j : ι} {m m' : Sessions Cmd Res ε σ ι α}
    (hhidden : ∀ c s s', Hidden c → R s s' → R (exec c s).2 s')
    (h : Purged Allowed Hidden scrub R j m m') (ev : SessionEvent ι) (hev : ev.session = j)
    : Purged Allowed Hidden scrub R j (step exec failed m ev) m' := by
  have hanswer : ∀ c next r, (m.sessions j).rest = .call c next →
      Hidden c ∧ Purged Allowed Hidden scrub R j (m.answer j c next r) m' := by
    intro c next r hj
    have hobeys := h.hidden
    rw [hj] at hobeys
    refine ⟨hobeys.1, h.store, ?_, ?_, ?_⟩
    . unfold answer
      dsimp only
      rw [Function.update_self]
      exact hobeys.2 r
    . intro i hi
      unfold answer
      dsimp only
      rw [Function.update_of_ne hi]
      exact h.blind i hi
    . intro i hi
      unfold answer
      dsimp only
      rw [Function.update_of_ne hi]
      exact h.rest i hi
  have hstep := step_cases exec failed m ev
  generalize step exec failed m ev = m'' at *
  cases hstep with
  | stutter => exact h
  | @done _ i c next r hi hdone =>
    rw [SessionEvent.session_of_done? hdone] at hev
    subst hev
    rcases hanswer c next r hi with ⟨hc, hpurged⟩
    exact ⟨hhidden c _ _ hc h.store, hpurged.hidden, hpurged.blind, hpurged.rest⟩
  | @fail i c next hi =>
    cases hev
    exact (hanswer c next _ hi).2

theorem purged_answer {i j : ι} {m m' : Sessions Cmd Res ε σ ι α} {c : Cmd}
    {next : Res c → Prog Cmd Res ε α} {r r' : Res c} {s s' : σ}
    (h : Purged Allowed Hidden scrub R j m m') (hij : i ≠ j)
    (hi : (m.sessions i).rest = .call c next) (hr : scrub c r = scrub c r') (hs : R s s')
    : Purged Allowed Hidden scrub R j { m.answer i c next r with store := s }
        { m'.answer i c next r' with store := s' } := by
  have hblind := h.blind i hij
  rw [hi] at hblind
  have hnext : next r' = next r := by
    rw [(hblind.2 r').1, ← hr, ← (hblind.2 r).1]
  unfold answer
  refine ⟨hs, ?_, ?_, ?_⟩
  . dsimp only
    rw [Function.update_of_ne hij.symm]
    exact h.hidden
  . intro k hk
    dsimp only
    by_cases hki : k = i
    . subst hki
      rw [Function.update_self]
      exact (hblind.2 r).2
    . rw [Function.update_of_ne hki]
      exact h.blind k hk
  . intro k hk
    dsimp only
    by_cases hki : k = i
    . subst hki
      rw [Function.update_self, Function.update_self]
      exact hnext
    . rw [Function.update_of_ne hki, Function.update_of_ne hki]
      exact h.rest k hk

theorem purged_step {j : ι} {m m' : Sessions Cmd Res ε σ ι α}
    (hexec : ∀ c s s', Allowed c → R s s' →
      scrub c (exec c s).1 = scrub c (exec c s').1 ∧ R (exec c s).2 (exec c s').2)
    (h : Purged Allowed Hidden scrub R j m m') (ev : SessionEvent ι) (hev : ev.session ≠ j)
    : Purged Allowed Hidden scrub R j (step exec failed m ev) (step exec failed m' ev) := by
  have hrest := h.rest ev.session hev
  have hblind := h.blind ev.session hev
  cases ev with
  | exec i =>
    change (m'.sessions i).rest = (m.sessions i).rest at hrest
    unfold step
    dsimp only
    rw [hrest]
    cases hi : (m.sessions i).rest with
    | ret a => exact h
    | throw e => exact h
    | call c next =>
      change (m.sessions i).rest.Blind Allowed scrub at hblind
      rw [hi] at hblind
      rcases hexec c m.store m'.store hblind.1 h.store with ⟨hscrub, hstore⟩
      exact purged_answer h hev hi hscrub hstore
  | lose i =>
    change (m'.sessions i).rest = (m.sessions i).rest at hrest
    unfold step
    dsimp only
    rw [hrest]
    cases hi : (m.sessions i).rest with
    | ret a => exact h
    | throw e => exact h
    | call c next =>
      change (m.sessions i).rest.Blind Allowed scrub at hblind
      rw [hi] at hblind
      exact purged_answer h hev hi rfl (hexec c m.store m'.store hblind.1 h.store).2
  | fail i =>
    change (m'.sessions i).rest = (m.sessions i).rest at hrest
    unfold step
    dsimp only
    rw [hrest]
    cases hi : (m.sessions i).rest with
    | ret a => exact h
    | throw e => exact h
    | call c next => exact purged_answer h hev hi rfl h.store

/--
A session whose commands keep to the hidden part leaves no trace: without it all others go on in the same
way.
-/
theorem purged_run {j : ι} {programs : ι → Prog Cmd Res ε α}
    (hhidden : ∀ c s s', Hidden c → R s s' → R (exec c s).2 s')
    (hexec : ∀ c s s', Allowed c → R s s' →
      scrub c (exec c s).1 = scrub c (exec c s').1 ∧ R (exec c s).2 (exec c s').2)
    (hj : (programs j).Obeys Hidden (fun _ => True) (fun _ => True))
    (hblind : ∀ i, i ≠ j → (programs i).Blind Allowed scrub) {s : σ} (hs : R s s)
    (es : List (SessionEvent ι))
    : Purged Allowed Hidden scrub R j (Run.run (step exec failed) (init programs s) es)
        (Run.run (step exec failed) (init programs s) (purge j es)) := by
  induction es using List.reverseRecOn with
  | nil => exact ⟨hs, hj, hblind, fun _ _ => rfl⟩
  | append_singleton es ev ih =>
    rw [Run.run_append_singleton]
    by_cases hev : ev.session = j
    . have hpurge : purge j (es ++ [ev]) = purge j es := by simp [purge, hev]
      rw [hpurge]
      exact purged_step_session hhidden ih ev hev
    . have hpurge : purge j (es ++ [ev]) = purge j es ++ [ev] := by simp [purge, hev]
      rw [hpurge, Run.run_append_singleton]
      exact purged_step hexec ih ev hev

end Purge

end Sessions
