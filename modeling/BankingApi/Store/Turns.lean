import BankingApi.Store.Acting

/-!
This module contains programs that send a bounded number of commands: each is done once it has got as many
answers, however many the others have got by then.
-/

namespace Prog

variable {Cmd : Type} {Res : Cmd → Type} {ε α β : Type}

/--
The program sends `n` commands at most, whatever it is answered.
-/
def Within (n : ℕ) (p : Prog Cmd Res ε α) : Prop :=
  match p with
  | .call _ next => 0 < n ∧ ∀ r, (next r).Within (n - 1)
  | _ => True

variable {m n : ℕ}

theorem within_mono {p : Prog Cmd Res ε α} (h : p.Within m) (hmn : m ≤ n) : p.Within n := by
  induction p generalizing m n with
  | call c next ih => exact ⟨by have := h.1; omega, fun r => ih r (h.2 r) (by omega)⟩
  | _ => trivial

theorem within_bind {p : Prog Cmd Res ε β} {f : β → Prog Cmd Res ε α} (hp : p.Within m)
    (hf : ∀ b, (f b).Within n)
    : (p >>= f).Within (n + m) := by
  induction p generalizing m with
  | ret b => exact within_mono (hf b) (by omega)
  | throw e => trivial
  | call c next ih =>
    rcases hp with ⟨hm, hnext⟩
    refine ⟨by omega, ?_⟩
    intro r
    have hrest := ih r (hnext r)
    rwa [← Nat.add_sub_assoc hm] at hrest

theorem within_attempt {p : Prog Cmd Res ε α} (hp : p.Within n) : p.attempt.Within n := by
  induction p generalizing n with
  | call c next ih => exact ⟨hp.1, fun r => ih r (hp.2 r)⟩
  | _ => trivial

-- `finally` comes on top, however the program ends.
theorem within_ensure {p : Prog Cmd Res ε α} {after : Prog Cmd Res ε Unit} (hp : p.Within m)
    (hafter : after.Within n)
    : (p.ensure after).Within (n + m) := by
  apply within_bind (within_attempt hp)
  intro outcome
  rw [← Nat.zero_add n]
  apply within_bind hafter
  intro _
  cases outcome <;> trivial

end Prog

namespace Sessions

variable {Cmd : Type} {Res : Cmd → Type} {ε σ ι α : Type} [DecidableEq ι]
  {exec : (c : Cmd) → σ → Res c × σ} {failed : (c : Cmd) → Res c} {m : Sessions Cmd Res ε σ ι α}
  {i : ι} {n : ℕ}

-- How often it has been the session's turn.
def turns (i : ι) (es : List (SessionEvent ι)) : ℕ :=
  es.countP (·.session = i)

theorem within_step (ev : SessionEvent ι) (h : (m.sessions ev.session).rest.Within (n + 1))
    : ((step exec failed m ev).sessions ev.session).rest.Within n := by
  cases hi : (m.sessions ev.session).rest with
  | call c next =>
    rw [hi] at h
    unfold step
    cases ev with
    | exec i =>
      dsimp only [SessionEvent.session] at *
      rw [hi]
      exact (rest_answer_self m i c next _).symm ▸ h.2 _
    | lose i =>
      dsimp only [SessionEvent.session] at *
      rw [hi]
      exact (rest_answer_self m i c next _).symm ▸ h.2 _
    | fail i =>
      dsimp only [SessionEvent.session] at *
      rw [hi]
      exact (rest_answer_self m i c next _).symm ▸ h.2 _
  | _ =>
    rcases session_step_cases exec failed m ev.session ev with hsame | ⟨c, next, r, hcall, _⟩
    . rw [hsame, hi]
      trivial
    . rw [hcall] at hi
      cases hi

theorem session_step_of_ne {ev : SessionEvent ι} (h : ev.session ≠ i)
    : (step exec failed m ev).sessions i = m.sessions i := by
  rcases session_step_cases exec failed m i ev with hsame | ⟨c, next, r, _, hev, _⟩
  . exact hsame
  . rcases hev with ⟨rfl, _⟩ | ⟨rfl | rfl, _⟩ <;> exact absurd rfl h

/--
Each turn of a session takes one of its commands, those of the others take none.
-/
theorem within_run (es : List (SessionEvent ι)) (h : (m.sessions i).rest.Within (n + turns i es))
    : ((Run.run (step exec failed) m es).sessions i).rest.Within n := by
  induction es generalizing m with
  | nil => exact h
  | cons ev es ih =>
    rw [Run.run_cons]
    apply ih
    by_cases hev : ev.session = i
    . subst hev
      apply within_step
      simpa [turns, ← Nat.add_assoc] using h
    . rw [session_step_of_ne hev]
      simpa [turns, hev] using h

theorem ended_of_turns (es : List (SessionEvent ι)) (h : (m.sessions i).rest.Within n)
    (hturns : n ≤ turns i es) (c : Cmd) (next : Res c → Prog Cmd Res ε α)
    : ((Run.run (step exec failed) m es).sessions i).rest ≠ .call c next := by
  intro hcall
  have hwithin : (m.sessions i).rest.Within (0 + turns i es) := Prog.within_mono h (by omega)
  have hdone : ((Run.run (step exec failed) m es).sessions i).rest.Within 0 := within_run es hwithin
  rw [hcall] at hdone
  exact Nat.lt_irrefl 0 hdone.1

end Sessions
