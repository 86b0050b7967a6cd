import BankingApi.Store.Acting

/-!
This module contains programs whose answers stay true until they are done. Side by side, these do what
they do one after another, in the order in which they come to an end.
-/

namespace Prog

variable {Cmd : Type} {Res : Cmd → Type} {ε σ α β : Type}

-- There is nothing left to do, if a return is the last thing to be done.
def ends (last : Bool) (p : Prog Cmd Res ε α) : Bool :=
  match p with
  | .ret _ => last
  | .throw _ => true
  | .call _ _ => false

/--
Each command takes the store on as `R` has it. Its answer either ends the program or leaves the store
alone, and sends the program on as in any later state. A command that fails ends the program.
-/
def Steady (exec : (c : Cmd) → σ → Res c × σ) (failed : (c : Cmd) → Res c) (R : σ → σ → Prop)
    (last : Bool) (p : Prog Cmd Res ε α)
    : Prop :=
  match p with
  | .call c next =>
    (next (failed c)).ends last ∧ ∀ s, R s (exec c s).2
      ∧ ((next (exec c s).1).ends last
        ∨ (next (exec c s).1).Steady exec failed R last
          ∧ ∀ s', R s s' → (exec c s').2 = s' ∧ next (exec c s').1 = next (exec c s).1)
  | _ => True

section Steady

variable {exec : (c : Cmd) → σ → Res c × σ} {failed : (c : Cmd) → Res c} {R : σ → σ → Prop}
  {last last' : Bool}

theorem steady_of_ends {p : Prog Cmd Res ε α} (h : p.ends last)
    : p.Steady exec failed R last' := by
  cases p with
  | call => cases h
  | _ => trivial

theorem steady_bind_of_ends {p : Prog Cmd Res ε β} {f : β → Prog Cmd Res ε α}
    (hp : p.Steady exec failed R last')
    (hends : ∀ q : Prog Cmd Res ε β, q.ends last' → (q >>= f).ends last)
    (hf : ∀ b, (f b).Steady exec failed R last)
    : (p >>= f).Steady exec failed R last := by
  induction p with
  | ret b => exact hf b
  | throw e => trivial
  | call c next ih =>
    refine ⟨hends _ hp.1, ?_⟩
    intro s
    rcases hp.2 s with ⟨hR, hend | ⟨hsteady, hstays⟩⟩
    . exact ⟨hR, .inl (hends _ hend)⟩
    . refine ⟨hR, .inr ⟨ih _ hsteady, ?_⟩⟩
      intro s' hs'
      rcases hstays s' hs' with ⟨hsame, hnext⟩
      exact ⟨hsame, congrArg (· >>= f) hnext⟩

theorem steady_bind {p : Prog Cmd Res ε β} {f : β → Prog Cmd Res ε α}
    (hp : p.Steady exec failed R false) (hf : ∀ b, (f b).Steady exec failed R last)
    : (p >>= f).Steady exec failed R last := by
  apply steady_bind_of_ends hp _ hf
  intro q hq
  cases q with
  | throw e => rfl
  | _ => cases hq

-- What comes after the last command of `p` sends none.
theorem steady_bind_last {p : Prog Cmd Res ε β} {f : β → Prog Cmd Res ε α}
    (hp : p.Steady exec failed R true) (hf : ∀ b, (f b).ends true)
    : (p >>= f).Steady exec failed R true := by
  apply steady_bind_of_ends hp _ (fun b => steady_of_ends (hf b))
  intro q hq
  cases q with
  | ret b => exact hf b
  | throw e => rfl
  | call => cases hq

end Steady

theorem ne_call_of_ends {last : Bool} {p : Prog Cmd Res ε α} (h : p.ends last) (c : Cmd)
    (next : Res c → Prog Cmd Res ε α)
    : p ≠ .call c next := by
  rintro rfl
  cases h

theorem eq_ofExcept_of_ends (exec : (c : Cmd) → σ → Res c × σ) {p : Prog Cmd Res ε α}
    (h : p.ends true) (s : σ)
    : p = .ofExcept (p.serve exec s).1 ∧ (p.serve exec s).2 = s := by
  cases p with
  | call => cases h
  | _ => exact ⟨rfl, rfl⟩

end Prog

namespace Sessions

variable {Cmd : Type} {Res : Cmd → Type} {ε σ ι α : Type}
  (exec : (c : Cmd) → σ → Res c × σ) (failed : (c : Cmd) → Res c)

/--
The programs `js`, one after another.
-/
def inTurn (programs : ι → Prog Cmd Res ε α) (s : σ) (js : List ι) : σ :=
  js.foldl (fun s j => ((programs j).serve exec s).2) s

theorem inTurn_append_singleton (programs : ι → Prog Cmd Res ε α) (s : σ) (js : List ι) (j : ι)
    : inTurn exec programs s (js ++ [j]) =
      ((programs j).serve exec (inTurn exec programs s js)).2 := by
  unfold inTurn
  rw [List.foldl_append]
  rfl

variable [DecidableEq ι]

-- The session that comes to an end with its turn.
def ending (m : Sessions Cmd Res ε σ ι α) (ev : SessionEvent ι) : List ι :=
  match ev.done? with
  | some i =>
    if (m.sessions i).rest.ends true = false
        ∧ ((step exec failed m (.exec i)).sessions i).rest.ends true then
      [i]
    else
      []
  | none => []

/--
The sessions in the order in which their last commands are done, whether the answers to these arrive or are
lost.
-/
def completed (m : Sessions Cmd Res ε σ ι α) (es : List (SessionEvent ι)) : List ι :=
  match es with
  | [] => []
  | ev :: es => ending exec failed m ev ++ completed (step exec failed m ev) es

theorem completed_append (m : Sessions Cmd Res ε σ ι α) (es es' : List (SessionEvent ι))
    : completed exec failed m (es ++ es') =
      completed exec failed m es ++ completed exec failed (Run.run (step exec failed) m es) es' := by
  induction es generalizing m with
  | nil => rfl
  | cons ev es ih =>
    rw [List.cons_append, completed, completed, ih, List.append_assoc, Run.run_cons]

variable {exec failed} {R : σ → σ → Prop} {programs : ι → Prog Cmd Res ε α} {s : σ}
  {m : Sessions Cmd Res ε σ ι α} {js : List ι} {i : ι} {lost lost' : ι → Prop}

/--
What has been done has been done by the programs `js` one after another, and each of these has come to
the end to which it comes in its turn, unless an answer to it has been lost. What is left of the others
does what these would do from the start.
-/
structure Linearized (exec : (c : Cmd) → σ → Res c × σ) (failed : (c : Cmd) → Res c)
    (R : σ → σ → Prop) (programs : ι → Prog Cmd Res ε α) (s : σ) (lost : ι → Prop)
    (m : Sessions Cmd Res ε σ ι α) (js : List ι)
    : Prop where
  nodup : js.Nodup
  store : m.store = inTurn exec programs s js
  ended : ∀ i ∈ js, (m.sessions i).rest.ends true
  outcomes : ∀ pre i, pre ++ [i] <+: js → ¬lost i →
    (m.sessions i).rest = .ofExcept ((programs i).serve exec (inTurn exec programs s pre)).1
  steady : ∀ i, (m.sessions i).rest.Steady exec failed R true
  pending : ∀ i, (m.sessions i).rest.ends true = false →
    ∀ s', R m.store s' → (m.sessions i).rest.serve exec s' = (programs i).serve exec s'

namespace Linearized

omit [DecidableEq ι] in
theorem init (hsteady : ∀ i, (programs i).Steady exec failed R true)
    : Linearized exec failed R programs s lost (.init programs s) [] where
  nodup := List.nodup_nil
  store := rfl
  ended := by simp
  outcomes := by
    intro pre i h
    simp at h
  steady := hsteady
  pending := fun _ _ _ _ => rfl

omit [DecidableEq ι] in
theorem mono (h : Linearized exec failed R programs s lost m js) (hlost : ∀ i, lost i → lost' i)
    : Linearized exec failed R programs s lost' m js :=
  { h with outcomes := fun pre i hle hi => h.outcomes pre i hle (fun hl => hi (hlost i hl)) }

omit [DecidableEq ι] in
-- A program that has come to an end has no turn any more.
theorem ne_of_call (h : Linearized exec failed R programs s lost m js) {c : Cmd}
    {next : Res c → Prog Cmd Res ε α} (hi : (m.sessions i).rest = .call c next) {k : ι} (hk : k ∈ js)
    : k ≠ i := by
  rintro rfl
  have hend := h.ended k hk
  rw [hi] at hend
  cases hend

omit [DecidableEq ι] in
theorem mem_of_turn {pre : List ι} {k : ι} (hk : pre ++ [k] <+: js) : k ∈ js :=
  hk.subset (by simp)

-- An answer that ends the program, while the store stays as it is.
theorem ended_by (h : Linearized exec failed R programs s lost m js) {c : Cmd}
    {next : Res c → Prog Cmd Res ε α} (hi : (m.sessions i).rest = .call c next) {r : Res c}
    (hend : (next r).ends true)
    : Linearized exec failed R programs s lost (m.answer i c next r) js := by
  refine ⟨h.nodup, h.store, ?_, ?_, ?_, ?_⟩
  . intro k hk
    rw [sessions_answer_of_ne _ (h.ne_of_call hi hk)]
    exact h.ended k hk
  . intro pre k hk
    rw [sessions_answer_of_ne _ (h.ne_of_call hi (mem_of_turn hk))]
    exact h.outcomes pre k hk
  . intro k
    by_cases hk : k = i
    . subst hk
      rw [rest_answer_self]
      exact Prog.steady_of_ends hend
    . rw [sessions_answer_of_ne _ hk]
      exact h.steady k
  . intro k hpending
    by_cases hk : k = i
    . subst hk
      rw [rest_answer_self, hend] at hpending
      cases hpending
    . rw [sessions_answer_of_ne _ hk] at hpending ⊢
      exact h.pending k hpending

section Turn

variable (h : Linearized exec failed R programs s lost m js) {c : Cmd}
  {next : Res c → Prog Cmd Res ε α} (hi : (m.sessions i).rest = .call c next)

include h hi

omit [DecidableEq ι] in
theorem later : R m.store (exec c m.store).2 := by
  have hsteady := h.steady i
  rw [hi] at hsteady
  exact (hsteady.2 m.store).1

omit [DecidableEq ι] in
theorem ends_failed : (next (failed c)).ends true := by
  have hsteady := h.steady i
  rw [hi] at hsteady
  exact hsteady.1

omit [DecidableEq ι] in
theorem serve_eq (hrefl : ∀ s, R s s)
    : (programs i).serve exec m.store =
      (next (exec c m.store).1).serve exec (exec c m.store).2 := by
  have hpending := h.pending i (by rw [hi]; rfl) m.store (hrefl _)
  rw [← hpending, hi, Prog.serve_call]

omit [DecidableEq ι] in
-- An answer that does not end the program leaves the store alone, now and later.
theorem stays_of_not_ends (hend : (next (exec c m.store).1).ends true = false)
    : (next (exec c m.store).1).Steady exec failed R true
        ∧ ∀ s', R m.store s' → (exec c s').2 = s' ∧ next (exec c s').1 = next (exec c m.store).1 := by
  have hsteady := h.steady i
  rw [hi] at hsteady
  rcases (hsteady.2 m.store).2 with hends | hstays
  . rw [hend] at hends
    cases hends
  . exact hstays

variable (htrans : ∀ {s s' s''}, R s s' → R s' s'' → R s s'') {r : Res c}

include htrans

theorem pending_of_ne {k : ι} (hk : k ≠ i)
    (hpending : ((m.answer i c next r).sessions k).rest.ends true = false) {s' : σ}
    (hs' : R (exec c m.store).2 s')
    : ((m.answer i c next r).sessions k).rest.serve exec s' = (programs k).serve exec s' := by
  rw [sessions_answer_of_ne _ hk] at hpending ⊢
  exact h.pending k hpending s' (htrans (h.later hi) hs')

variable (hrefl : ∀ s, R s s)

include hrefl

/--
The last command: the program might as well have begun only now. Its answer is the one the program gets in
its turn, or is lost.
-/
theorem turn_of_ends (hend : (next (exec c m.store).1).ends true) (hr : (next r).ends true)
    (hlost : ¬lost i → r = (exec c m.store).1)
    : Linearized exec failed R programs s lost
        { m.answer i c next r with store := (exec c m.store).2 } (js ++ [i]) := by
  have hserve := h.serve_eq hi hrefl
  rcases Prog.eq_ofExcept_of_ends exec hend (exec c m.store).2 with ⟨houtcome, hstore⟩
  refine ⟨?_, ?_, ?_, ?_, ?_, ?_⟩
  . rw [List.nodup_append_comm, List.singleton_append, List.nodup_cons]
    exact ⟨fun hmem => h.ne_of_call hi hmem rfl, h.nodup⟩
  . change (exec c m.store).2 = _
    rw [inTurn_append_singleton, ← h.store, hserve, hstore]
  . intro k hk
    change ((m.answer i c next r).sessions k).rest.ends true = true
    rcases List.mem_append.mp hk with hk | hk
    . rw [sessions_answer_of_ne _ (h.ne_of_call hi hk)]
      exact h.ended k hk
    . rw [List.mem_singleton.mp hk, rest_answer_self]
      exact hr
  . intro pre k hk hkept
    change ((m.answer i c next r).sessions k).rest = _
    rcases List.prefix_concat_iff.mp hk with heq | hk
    . rcases List.append_inj' heq rfl with ⟨rfl, hki⟩
      cases hki
      rw [rest_answer_self, ← h.store, hserve, hlost hkept]
      exact houtcome
    . rw [sessions_answer_of_ne _ (h.ne_of_call hi (mem_of_turn hk))]
      exact h.outcomes pre k hk hkept
  . intro k
    change ((m.answer i c next r).sessions k).rest.Steady _ _ _ _
    by_cases hk : k = i
    . subst hk
      rw [rest_answer_self]
      exact Prog.steady_of_ends hr
    . rw [sessions_answer_of_ne _ hk]
      exact h.steady k
  . intro k hpending s' hs'
    by_cases hk : k = i
    . subst hk
      change ((m.answer k c next r).sessions k).rest.ends true = false at hpending
      rw [rest_answer_self, hr] at hpending
      cases hpending
    . exact h.pending_of_ne hi htrans hk hpending hs'

theorem turn_of_not_ends (hend : (next (exec c m.store).1).ends true = false)
    : Linearized exec failed R programs s lost
        { m.answer i c next (exec c m.store).1 with store := (exec c m.store).2 } js := by
  rcases h.stays_of_not_ends hi hend with ⟨hsteady, hstays⟩
  have hsame : (exec c m.store).2 = m.store := (hstays m.store (hrefl _)).1
  refine ⟨h.nodup, hsame.trans h.store, ?_, ?_, ?_, ?_⟩
  . intro k hk
    change ((m.answer i c next (exec c m.store).1).sessions k).rest.ends true = true
    rw [sessions_answer_of_ne _ (h.ne_of_call hi hk)]
    exact h.ended k hk
  . intro pre k hk
    change _ → ((m.answer i c next (exec c m.store).1).sessions k).rest = _
    rw [sessions_answer_of_ne _ (h.ne_of_call hi (mem_of_turn hk))]
    exact h.outcomes pre k hk
  . intro k
    change ((m.answer i c next (exec c m.store).1).sessions k).rest.Steady _ _ _ _
    by_cases hk : k = i
    . subst hk
      rw [rest_answer_self]
      exact hsteady
    . rw [sessions_answer_of_ne _ hk]
      exact h.steady k
  . intro k hpending s' hs'
    by_cases hk : k = i
    . subst hk
      change ((m.answer k c next (exec c m.store).1).sessions k).rest.serve exec s' = _
      rcases hstays s' (htrans (h.later hi) hs') with ⟨hsame', hnext⟩
      have hpending' := h.pending k (by rw [hi]; rfl) s' (htrans (h.later hi) hs')
      rw [rest_answer_self, ← hpending', hi, Prog.serve_call, hsame', hnext]
    . exact h.pending_of_ne hi htrans hk hpending hs'

end Turn

end Linearized

section Runs

variable (hrefl : ∀ s, R s s) (htrans : ∀ {s s' s''}, R s s' → R s' s'' → R s s'')

omit [DecidableEq ι] in
theorem rest_step_exec [DecidableEq ι] {c : Cmd} {next : Res c → Prog Cmd Res ε α}
    (hi : (m.sessions i).rest = .call c next)
    : ((step exec failed m (.exec i)).sessions i).rest = next (exec c m.store).1 := by
  unfold step
  dsimp only
  rw [hi]
  exact rest_answer_self _ _ _ _ _

theorem ending_of_call {ev : SessionEvent ι} {c : Cmd} {next : Res c → Prog Cmd Res ε α}
    (hev : ev.done? = some i) (hi : (m.sessions i).rest = .call c next)
    : ending exec failed m ev = if (next (exec c m.store).1).ends true then [i] else [] := by
  have hcall : (Prog.call c next).ends true = false := rfl
  unfold ending
  rw [hev]
  dsimp only
  rw [rest_step_exec hi, hi, hcall]
  simp

-- A session that has a command left does not stutter.
theorem step_ne_of_call {ev : SessionEvent ι} {c : Cmd} {next : Res c → Prog Cmd Res ε α}
    (hev : ev.done? = some i) (hi : (m.sessions i).rest = .call c next)
    : step exec failed m ev ≠ m := by
  intro hsame
  have hhistory := congrArg (fun m => (m.sessions i).history) hsame
  cases ev with
  | fail => cases hev
  | _ =>
    cases hev
    simp [step, hi, answer] at hhistory

theorem ending_of_ends {ev : SessionEvent ι} (h : ∀ i, ev.done? = some i → (m.sessions i).rest.ends true)
    : ending exec failed m ev = [] := by
  unfold ending
  split
  . next i hev => simp [h i hev]
  . rfl

include hrefl htrans

theorem linearized_step (h : Linearized exec failed R programs s lost m js) (ev : SessionEvent ι)
    : Linearized exec failed R programs s (fun i => lost i ∨ ev = .lose i) (step exec failed m ev)
        (js ++ ending exec failed m ev) := by
  have h : Linearized exec failed R programs s (fun i => lost i ∨ ev = .lose i) m js :=
    h.mono (fun i => .inl)
  have hstep := step_cases exec failed m ev
  generalize hm : step exec failed m ev = m' at *
  cases hstep with
  | stutter =>
    suffices hnone : ending exec failed m ev = [] by simpa [hnone] using h
    apply ending_of_ends
    intro i hev
    cases hi : (m.sessions i).rest with
    | call c next => exact absurd hm (step_ne_of_call hev hi)
    | _ => rfl
  | @done _ i c next r hi hev hr =>
    rw [ending_of_call hev hi]
    cases hend : (next (exec c m.store).1).ends true with
    | true =>
      rw [if_pos rfl]
      rcases hr with ⟨rfl, rfl⟩ | ⟨rfl, rfl⟩
      . exact h.turn_of_ends hi htrans hrefl hend hend (fun _ => rfl)
      . exact h.turn_of_ends hi htrans hrefl hend (h.ends_failed hi) (fun hno => absurd (.inr rfl) hno)
    | false =>
      rw [if_neg (by simp), List.append_nil]
      rcases hr with ⟨rfl, rfl⟩ | ⟨rfl, rfl⟩
      . exact h.turn_of_not_ends hi htrans hrefl hend
      . have hsame : (exec c m.store).2 = m.store :=
          ((h.stays_of_not_ends hi hend).2 m.store (hrefl _)).1
        rw [hsame]
        exact h.ended_by hi (h.ends_failed hi)
  | @fail i c next hi =>
    have hnone : ending exec failed m (.fail i) = [] := rfl
    rw [hnone, List.append_nil]
    exact h.ended_by hi (h.ends_failed hi)

/--
Programs whose answers stay true are done side by side as they are done one after another, in the order
in which they come to an end.
-/
theorem linearized_run (hsteady : ∀ i, (programs i).Steady exec failed R true)
    (es : List (SessionEvent ι))
    : Linearized exec failed R programs s (fun i => .lose i ∈ es)
        (Run.run (step exec failed) (init programs s) es)
        (completed exec failed (init programs s) es) := by
  induction es using List.reverseRecOn with
  | nil => exact .init hsteady
  | append_singleton es ev ih =>
    rw [Run.run_append_singleton, completed_append, completed, completed, List.append_nil]
    apply (linearized_step hrefl htrans ih ev).mono
    rintro i (hi | rfl) <;> simp_all

omit hrefl htrans in
/--
A session that has come to an end is among those, unless it never had a command or one of its commands
has failed.
-/
theorem mem_completed (es : List (SessionEvent ι))
    (hend : ((Run.run (step exec failed) (init programs s) es).sessions i).rest.ends true)
    : (programs i).ends true ∨ (.lose i ∈ es ∨ .fail i ∈ es)
        ∨ i ∈ completed exec failed (init programs s) es := by
  induction es using List.reverseRecOn with
  | nil => exact .inl hend
  | append_singleton es ev ih =>
    rw [Run.run_append_singleton] at hend
    rw [completed_append, completed, completed, List.append_nil, List.mem_append, List.mem_append,
      List.mem_append]
    rcases session_step_cases exec failed (Run.run (step exec failed) (init programs s) es) i ev
      with hsame | ⟨c, next, r, hcall, hr, hnew⟩
    . rw [hsame] at hend
      rcases ih hend with hnone | (hlost | hfail) | hmem
      . exact .inl hnone
      . exact .inr (.inl (.inl (.inl hlost)))
      . exact .inr (.inl (.inr (.inl hfail)))
      . exact .inr (.inr (.inl hmem))
    . right
      rcases hr with ⟨rfl, rfl⟩ | ⟨rfl | rfl, rfl⟩
      . right
        right
        rw [hnew] at hend
        rw [ending_of_call rfl hcall, if_pos hend]
        exact List.mem_singleton_self _
      . exact .inl (.inl (.inr (List.mem_singleton_self _)))
      . exact .inl (.inr (.inr (List.mem_singleton_self _)))

end Runs

end Sessions
