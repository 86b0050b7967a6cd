/-!
This module contains programs that reach a store only through commands, and what a program does
when it has the store for itself.
-/

inductive Prog (Cmd : Type) (Res : Cmd → Type) (ε α : Type) where
  | ret (a : α)
  | throw (e : ε)
  | call (c : Cmd) (next : Res c → Prog Cmd Res ε α)

/--
The commands of a store. A command looks at the store and answers, or fails; what it changes is a
list of writes.
-/
structure Engine (Cmd : Type) (Res : Cmd → Type) (ε σ ω : Type) where
  exec : (c : Cmd) → σ → Except ε (Res c × List ω)
  apply : σ → ω → σ

namespace Engine

variable {Cmd : Type} {Res : Cmd → Type} {ε σ ω : Type} (E : Engine Cmd Res ε σ ω)

def applyAll (s : σ) (ws : List ω) : σ :=
  ws.foldl E.apply s

@[simp]
theorem applyAll_nil (s : σ) : E.applyAll s [] = s := rfl

@[simp]
theorem applyAll_cons (s : σ) (w : ω) (ws : List ω)
    : E.applyAll s (w :: ws) = E.applyAll (E.apply s w) ws := rfl

theorem applyAll_append (s : σ) (ws ws' : List ω)
    : E.applyAll s (ws ++ ws') = E.applyAll (E.applyAll s ws) ws' := by
  apply List.foldl_append

end Engine

namespace Prog

variable {Cmd : Type} {Res : Cmd → Type} {ε σ ω α β : Type}

def bind (p : Prog Cmd Res ε α) (f : α → Prog Cmd Res ε β) : Prog Cmd Res ε β :=
  match p with
  | .ret a => f a
  | .throw e => .throw e
  | .call c next => .call c (fun r => (next r).bind f)

instance : Monad (Prog Cmd Res ε) where
  pure := .ret
  bind := .bind

def run (E : Engine Cmd Res ε σ ω) (p : Prog Cmd Res ε α) (s : σ) : Except ε (α × σ) :=
  match p with
  | .ret a => .ok (a, s)
  | .throw e => .error e
  | .call c next =>
    match E.exec c s with
    | .error e => .error e
    | .ok (r, ws) => (next r).run E (E.applyAll s ws)

variable (E : Engine Cmd Res ε σ ω)

@[simp]
theorem run_pure (a : α) (s : σ) : (pure a : Prog Cmd Res ε α).run E s = .ok (a, s) := rfl

@[simp]
theorem run_throw (e : ε) (s : σ) : (.throw e : Prog Cmd Res ε α).run E s = .error e := rfl

theorem run_call (c : Cmd) (next : Res c → Prog Cmd Res ε α) (s : σ)
    : (.call c next : Prog Cmd Res ε α).run E s =
      match E.exec c s with
      | .error e => .error e
      | .ok (r, ws) => (next r).run E (E.applyAll s ws) := by
  rw [run]

theorem ne_call {c : Cmd} {next : Res c → Prog Cmd Res ε α} {r : Res c}
    : next r ≠ .call c next := by
  have : ∀ p : Prog Cmd Res ε α, ∀ (c : Cmd) (next : Res c → Prog Cmd Res ε α) (r : Res c),
      p = .call c next → next r ≠ p := by
    intro p
    induction p with
    | ret a => simp
    | throw e => simp
    | call c next ih =>
      rintro _ _ r ⟨⟩ heq
      exact ih r _ _ r heq rfl
  exact this _ c next r rfl

theorem call_bind (c : Cmd) (next : Res c → Prog Cmd Res ε α) (f : α → Prog Cmd Res ε β)
    : .call c next >>= f = .call c (fun r => next r >>= f) := rfl

theorem run_bind (p : Prog Cmd Res ε α) (f : α → Prog Cmd Res ε β) (s : σ)
    : (p >>= f).run E s =
      match p.run E s with
      | .error e => .error e
      | .ok (a, s') => (f a).run E s' := by
  induction p generalizing s with
  | ret a => rfl
  | throw e => rfl
  | call c next ih =>
    rw [call_bind, run_call, run_call]
    cases h : E.exec c s with
    | error e => rfl
    | ok res => apply ih

theorem run_bind_eq_ok_iff {p : Prog Cmd Res ε α} {f : α → Prog Cmd Res ε β} {s s'' : σ} {b : β}
    : (p >>= f).run E s = .ok (b, s'') ↔
      ∃ a s', p.run E s = .ok (a, s') ∧ (f a).run E s' = .ok (b, s'') := by
  rw [run_bind]
  cases h : p.run E s with
  | error e => simp
  | ok res =>
    constructor
    . intro hf
      exact ⟨_, _, rfl, hf⟩
    . rintro ⟨a, s', heq, hf⟩
      cases heq
      exact hf

def require (c : Prop) [Decidable c] (e : ε) : Prog Cmd Res ε Unit :=
  if c then .ret () else .throw e

theorem run_require_eq_ok_iff {c : Prop} [Decidable c] {e : ε} {s s' : σ} {u : Unit}
    : (require c e : Prog Cmd Res ε Unit).run E s = .ok (u, s') ↔ c ∧ s' = s := by
  unfold require
  split
  . next h => simp [run, h, eq_comm]
  . next h => simp [h]

theorem run_require_bind_eq_ok_iff {c : Prop} [Decidable c] {e : ε} {f : Unit → Prog Cmd Res ε α}
    {s : σ} {r : α × σ}
    : (require c e >>= f).run E s = .ok r ↔ c ∧ (f ()).run E s = .ok r := by
  unfold require
  by_cases h : c
  . rw [if_pos h, run_bind]
    simp [run, h]
  . rw [if_neg h, run_bind]
    simp [h]

def All (P : Cmd → Prop) (p : Prog Cmd Res ε α) : Prop :=
  match p with
  | .ret _ => True
  | .throw _ => True
  | .call c next => P c ∧ ∀ r, (next r).All P

variable {P : Cmd → Prop}

@[simp]
theorem all_ret (a : α) : (.ret a : Prog Cmd Res ε α).All P := trivial

theorem all_bind {p : Prog Cmd Res ε α} {f : α → Prog Cmd Res ε β} (hp : p.All P)
    (hf : ∀ a, (f a).All P)
    : (p >>= f).All P := by
  induction p with
  | ret a => exact hf a
  | throw e => trivial
  | call c next ih => exact ⟨hp.1, fun r => ih r (hp.2 r)⟩

theorem all_require (c : Prop) [Decidable c] (e : ε)
    : (require c e : Prog Cmd Res ε Unit).All P := by
  unfold require
  split <;> trivial

/--
What the program throws by itself meets `F`, whatever it is answered.
-/
def Throws (F : ε → Prop) (p : Prog Cmd Res ε α) : Prop :=
  match p with
  | .ret _ => True
  | .throw e => F e
  | .call _ next => ∀ r, (next r).Throws F

variable {E} {F : ε → Prop}

theorem throws_bind {p : Prog Cmd Res ε α} {f : α → Prog Cmd Res ε β} (hp : p.Throws F)
    (hf : ∀ a, (f a).Throws F)
    : (p >>= f).Throws F := by
  induction p with
  | ret a => exact hf a
  | throw e => exact hp
  | call c next ih => exact fun r => ih r (hp r)

theorem throws_require {c : Prop} [Decidable c] {e : ε} (he : F e)
    : (require c e : Prog Cmd Res ε Unit).Throws F := by
  unfold require
  split
  . trivial
  . exact he

theorem Throws.of_run {p : Prog Cmd Res ε α} (hp : p.Throws F)
    (hE : ∀ c s e, E.exec c s = .error e → F e) {s : σ} {e : ε} (h : p.run E s = .error e)
    : F e := by
  induction p generalizing s with
  | ret a => cases h
  | throw e' =>
    cases h
    exact hp
  | call c next ih =>
    rw [run_call] at h
    split at h
    . next hexec =>
      cases h
      exact hE _ _ _ hexec
    . exact ih _ (hp _) h

end Prog
