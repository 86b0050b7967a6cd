import BankingApi.Store.Serializability

/-!
This module contains programs that run as one transaction. Writes of commands `inside` the transaction
are kept back until it commits, those of other commands are in the store at once.
-/

namespace Prog

variable {Cmd : Type} {Res : Cmd → Type} {ε σ ω α : Type}

/--
Runs a program as a transaction of which the store answers the first `answered` commands only, COMMIT
included.
-/
def transact (E : Engine Cmd Res ε σ ω) (inside : Cmd → Prop) [DecidablePred inside] (lost : ε)
    (p : Prog Cmd Res ε α) (answered : ℕ) (s : σ) (pending : List ω)
    : Except ε α × σ :=
  match p, answered with
  | .throw e, _ => (.error e, s)
  | .ret _, 0 => (.error lost, s)
  | .ret a, _ + 1 => (.ok a, E.applyAll s pending)
  | .call _ _, 0 => (.error lost, s)
  | .call c next, answered + 1 =>
    if inside c then
      match E.exec c (E.applyAll s pending) with
      | .error e => (.error e, s)
      | .ok (r, ws) => (next r).transact E inside lost answered s (pending ++ ws)
    else
      match E.exec c s with
      | .error e => (.error e, s)
      | .ok (r, ws) => (next r).transact E inside lost answered (E.applyAll s ws) pending

/--
Throws once the first `sent` commands are answered.
-/
def cut (p : Prog Cmd Res ε α) (sent : ℕ) (e : ε) : Prog Cmd Res ε α :=
  match p, sent with
  | .call c next, sent + 1 => .call c (fun r => (next r).cut sent e)
  | .throw e', _ + 1 => .throw e'
  | _, _ => .throw e

theorem all_cut {P : Cmd → Prop} {p : Prog Cmd Res ε α} (hp : p.All P) (sent : ℕ) (e : ε)
    : (p.cut sent e).All P := by
  induction p generalizing sent with
  | ret a => cases sent <;> trivial
  | throw e' => cases sent <;> trivial
  | call c next ih =>
    cases sent with
    | zero => trivial
    | succ sent => exact ⟨hp.1, fun r => ih r (hp.2 r) sent⟩

variable {E : Engine Cmd Res ε σ ω} {inside : Cmd → Prop} [DecidablePred inside] {lost : ε}

theorem transact_of_error {p : Prog Cmd Res ε α} (hp : p.All inside) {answered : ℕ}
    {s s' : σ} {pending : List ω} {e : ε}
    (h : p.transact E inside lost answered s pending = (.error e, s'))
    : s' = s := by
  induction p generalizing answered pending with
  | ret a =>
    cases answered with
    | zero => exact (Prod.mk.inj h).2.symm
    | succ answered => cases (Prod.mk.inj h).1
  | throw e' =>
    cases answered <;> exact (Prod.mk.inj h).2.symm
  | call c next ih =>
    cases answered with
    | zero => exact (Prod.mk.inj h).2.symm
    | succ answered =>
      rw [transact, if_pos hp.1] at h
      split at h
      . exact (Prod.mk.inj h).2.symm
      . exact ih _ (hp.2 _) h

variable (lost) in
theorem transact_eq_run (p : Prog Cmd Res ε α) (hp : p.All inside) (s : σ)
    (pending : List ω)
    : ∃ n, ∀ answered, n ≤ answered → p.transact E inside lost answered s pending =
        match p.run E (E.applyAll s pending) with
        | .ok (a, s') => (.ok a, s')
        | .error e => (.error e, s) := by
  induction p generalizing pending with
  | ret a =>
    refine ⟨1, ?_⟩
    intro answered hle
    cases answered with
    | zero => omega
    | succ answered => rfl
  | throw e =>
    refine ⟨0, ?_⟩
    intro answered _
    cases answered <;> rfl
  | call c next ih =>
    cases hexec : E.exec c (E.applyAll s pending) with
    | error e =>
      refine ⟨1, ?_⟩
      intro answered hle
      cases answered with
      | zero => omega
      | succ answered => rw [transact, if_pos hp.1, run_call, hexec]
    | ok res =>
      rcases ih res.1 (hp.2 _) (pending ++ res.2) with ⟨n, hn⟩
      refine ⟨n + 1, ?_⟩
      intro answered hle
      cases answered with
      | zero => omega
      | succ answered =>
        rw [transact, if_pos hp.1, run_call, hexec]
        dsimp only
        rw [hn answered (by omega), Engine.applyAll_append]

variable (lost) in
/--
A transaction that the store answers to its end does what the program does when it has the store for
itself, and nothing where that fails.
-/
theorem transact_eq_replay (p : Prog Cmd Res ε α) (hp : p.All inside) (s : σ)
    : ∃ n, ∀ answered, n ≤ answered →
        p.transact E inside lost answered s [] = Locking.replay E p s :=
  transact_eq_run lost p hp s []

end Prog
