import BankingApi.Store.Program

/-!
This module contains programs that answer requests. What a program has done stays done when it throws,
and the failure of a command is an answer that the program may look at.
-/

namespace Prog

variable {Cmd : Type} {Res : Cmd → Type} {ε σ α β : Type}

def serve (exec : (c : Cmd) → σ → Res c × σ) (p : Prog Cmd Res ε α) (s : σ) : Except ε α × σ :=
  match p with
  | .ret a => (.ok a, s)
  | .throw e => (.error e, s)
  | .call c next => (next (exec c s).1).serve exec (exec c s).2

-- `try { .. }`: the error is the answer.
def attempt (p : Prog Cmd Res ε α) : Prog Cmd Res ε (Except ε α) :=
  match p with
  | .ret a => .ret (.ok a)
  | .throw e => .ret (.error e)
  | .call c next => .call c (fun r => (next r).attempt)

def ofExcept (r : Except ε α) : Prog Cmd Res ε α :=
  match r with
  | .ok a => .ret a
  | .error e => .throw e

-- `try { p } finally { after }`
def ensure (p : Prog Cmd Res ε α) (after : Prog Cmd Res ε Unit) : Prog Cmd Res ε α := do
  let r ← p.attempt
  let _ ← after
  ofExcept r

section Serve

variable (exec : (c : Cmd) → σ → Res c × σ)

@[simp]
theorem serve_ret (a : α) (s : σ) : (.ret a : Prog Cmd Res ε α).serve exec s = (.ok a, s) := rfl

@[simp]
theorem serve_throw (e : ε) (s : σ)
    : (.throw e : Prog Cmd Res ε α).serve exec s = (.error e, s) := rfl

theorem serve_call (c : Cmd) (next : Res c → Prog Cmd Res ε α) (s : σ)
    : (.call c next : Prog Cmd Res ε α).serve exec s =
      (next (exec c s).1).serve exec (exec c s).2 := rfl

theorem serve_bind (p : Prog Cmd Res ε α) (f : α → Prog Cmd Res ε β) (s : σ)
    : (p >>= f).serve exec s =
      match p.serve exec s with
      | (.ok a, s') => (f a).serve exec s'
      | (.error e, s') => (.error e, s') := by
  induction p generalizing s with
  | ret a => rfl
  | throw e => rfl
  | call c next ih => exact ih _ _

theorem serve_bind_ret_eq_error_iff {p : Prog Cmd Res ε α} {g : α → β} {s : σ} {e : ε}
    : ((p >>= fun a => .ret (g a)).serve exec s).1 = .error e ↔ (p.serve exec s).1 = .error e := by
  rw [serve_bind]
  split
  . next heq => simp [heq]
  . next heq => simp [heq]

end Serve

section Monad

@[simp]
theorem ret_bind (a : α) (f : α → Prog Cmd Res ε β) : .ret a >>= f = f a := rfl

@[simp]
theorem throw_bind (e : ε) (f : α → Prog Cmd Res ε β) : .throw e >>= f = .throw e := rfl

@[simp]
theorem bind_bind {γ : Type} (p : Prog Cmd Res ε α) (f : α → Prog Cmd Res ε β)
    (g : β → Prog Cmd Res ε γ)
    : p >>= f >>= g = p >>= (fun a => f a >>= g) := by
  induction p with
  | ret a => rfl
  | throw e => rfl
  | call c next ih => exact congrArg (Prog.call c) (funext (fun r => ih r))

end Monad

section Obeys

variable {C : Cmd → Prop} {F : ε → Prop} {Q : α → Prop}

/--
Whatever its commands answer, the program sends, throws and returns nothing but what `C`, `F` and `Q`
allow.
-/
def Obeys (C : Cmd → Prop) (F : ε → Prop) (Q : α → Prop) (p : Prog Cmd Res ε α) : Prop :=
  match p with
  | .ret a => Q a
  | .throw e => F e
  | .call c next => C c ∧ ∀ r, (next r).Obeys C F Q

theorem obeys_bind_post {p : Prog Cmd Res ε β} {f : β → Prog Cmd Res ε α} {R : β → Prop}
    (hp : p.Obeys C F R) (hf : ∀ b, R b → (f b).Obeys C F Q)
    : (p >>= f).Obeys C F Q := by
  induction p with
  | ret b => exact hf b hp
  | throw e => exact hp
  | call c next ih => exact ⟨hp.1, fun r => ih r (hp.2 r)⟩

theorem obeys_bind {p : Prog Cmd Res ε β} {f : β → Prog Cmd Res ε α}
    (hp : p.Obeys C F (fun _ => True)) (hf : ∀ b, (f b).Obeys C F Q)
    : (p >>= f).Obeys C F Q := by
  apply obeys_bind_post hp
  intro b _
  exact hf b

theorem obeys_mono {C' : Cmd → Prop} {F' : ε → Prop} {Q' : α → Prop} {p : Prog Cmd Res ε α}
    (hp : p.Obeys C F Q) (hC : ∀ c, C c → C' c) (hF : ∀ e, F e → F' e) (hQ : ∀ a, Q a → Q' a)
    : p.Obeys C' F' Q' := by
  induction p with
  | ret a => exact hQ a hp
  | throw e => exact hF e hp
  | call c next ih => exact ⟨hC c hp.1, fun r => ih r (hp.2 r)⟩

theorem obeys_ensure {p : Prog Cmd Res ε α} {after : Prog Cmd Res ε Unit} (hp : p.Obeys C F Q)
    (hafter : after.Obeys C F (fun _ => True))
    : (p.ensure after).Obeys C F Q := by
  have hattempt : ∀ (p : Prog Cmd Res ε α), p.Obeys C F Q →
      (p.attempt >>= fun r => after >>= fun _ => ofExcept r).Obeys C F Q := by
    intro p hp
    induction p with
    | ret a =>
      change (after >>= fun _ => ofExcept (.ok a)).Obeys C F Q
      exact obeys_bind hafter (fun _ => hp)
    | throw e =>
      change (after >>= fun _ => ofExcept (.error e)).Obeys C F Q
      exact obeys_bind hafter (fun _ => hp)
    | call c next ih => exact ⟨hp.1, fun r => ih r (hp.2 r)⟩
  exact hattempt p hp

theorem of_serve_eq_error {exec : (c : Cmd) → σ → Res c × σ} {p : Prog Cmd Res ε α} {s : σ}
    {e : ε} (hp : p.Obeys C F Q) (h : (p.serve exec s).1 = .error e)
    : F e := by
  induction p generalizing s with
  | ret a => cases h
  | throw e' =>
    cases h
    exact hp
  | call c next ih => exact ih _ (hp.2 _) h

theorem of_serve_eq_ok {exec : (c : Cmd) → σ → Res c × σ} {p : Prog Cmd Res ε α} {s : σ}
    {a : α} (hp : p.Obeys C F Q) (h : (p.serve exec s).1 = .ok a)
    : Q a := by
  induction p generalizing s with
  | ret a' =>
    cases h
    exact hp
  | throw e => cases h
  | call c next ih => exact ih _ (hp.2 _) h

end Obeys

section Blind

variable {Allowed : Cmd → Prop} {scrub : (c : Cmd) → Res c → Res c}

/--
A part of the store is hidden: `scrub` takes it out of an answer. The program sends allowed commands only,
and goes on in the same way whether or not the hidden part is taken out.
-/
def Blind (Allowed : Cmd → Prop) (scrub : (c : Cmd) → Res c → Res c) (p : Prog Cmd Res ε α)
    : Prop :=
  match p with
  | .ret _ => True
  | .throw _ => True
  | .call c next => Allowed c ∧ ∀ r, next r = next (scrub c r) ∧ (next r).Blind Allowed scrub

theorem blind_bind {p : Prog Cmd Res ε α} {f : α → Prog Cmd Res ε β}
    (hp : p.Blind Allowed scrub) (hf : ∀ a, (f a).Blind Allowed scrub)
    : (p >>= f).Blind Allowed scrub := by
  induction p with
  | ret a => exact hf a
  | throw e => trivial
  | call c next ih =>
    refine ⟨hp.1, ?_⟩
    intro r
    exact ⟨congrArg (· >>= f) (hp.2 r).1, ih r (hp.2 r).2⟩

theorem blind_of_obeys {C : Cmd → Prop} {F : ε → Prop} {Q : α → Prop}
    (hC : ∀ c, C c → Allowed c ∧ ∀ r, scrub c r = r) {p : Prog Cmd Res ε α} (hp : p.Obeys C F Q)
    : p.Blind Allowed scrub := by
  induction p with
  | ret a => trivial
  | throw e => trivial
  | call c next ih =>
    rcases hC c hp.1 with ⟨hallowed, hscrub⟩
    refine ⟨hallowed, ?_⟩
    intro r
    exact ⟨by rw [hscrub], ih r (hp.2 r)⟩

-- A program that does not see the one part does not see a part of it.
theorem blind_mono {Allowed' : Cmd → Prop} {scrub' : (c : Cmd) → Res c → Res c}
    {p : Prog Cmd Res ε α} (hp : p.Blind Allowed scrub) (hallowed : ∀ c, Allowed c → Allowed' c)
    (hscrub : ∀ c r, scrub c (scrub' c r) = scrub c r)
    : p.Blind Allowed' scrub' := by
  induction p with
  | ret a => trivial
  | throw e => trivial
  | call c next ih =>
    refine ⟨hallowed c hp.1, ?_⟩
    intro r
    refine ⟨?_, ih r (hp.2 r).2⟩
    rw [(hp.2 r).1, (hp.2 (scrub' c r)).1, hscrub]

theorem serve_of_blind {exec : (c : Cmd) → σ → Res c × σ} {R : σ → σ → Prop}
    (hexec : ∀ c s s', Allowed c → R s s' →
      scrub c (exec c s).1 = scrub c (exec c s').1 ∧ R (exec c s).2 (exec c s').2)
    {p : Prog Cmd Res ε α} (hp : p.Blind Allowed scrub) {s s' : σ} (h : R s s')
    : (p.serve exec s).1 = (p.serve exec s').1 ∧ R (p.serve exec s).2 (p.serve exec s').2 := by
  induction p generalizing s s' with
  | ret a => exact ⟨rfl, h⟩
  | throw e => exact ⟨rfl, h⟩
  | call c next ih =>
    rcases hexec c s s' hp.1 h with ⟨hscrub, hR⟩
    have hnext : next (exec c s).1 = next (exec c s').1 := by
      rw [(hp.2 _).1, hscrub, ← (hp.2 _).1]
    rw [serve_call, serve_call, hnext]
    exact ih _ (hp.2 _).2 hR

end Blind

section Guarded

variable {G : List ((c : Cmd) × Res c) → Cmd → Prop} {Post : List ((c : Cmd) × Res c) → α → Prop}

/--
`G` holds of every command of the program and of what the program has been answered before.
-/
def Guarded (G : List ((c : Cmd) × Res c) → Cmd → Prop)
    (Post : List ((c : Cmd) × Res c) → α → Prop) (p : Prog Cmd Res ε α)
    (history : List ((c : Cmd) × Res c))
    : Prop :=
  match p with
  | .ret a => Post history a
  | .throw _ => True
  | .call c next => G history c ∧ ∀ r, (next r).Guarded G Post (history ++ [⟨c, r⟩])

theorem guarded_bind {p : Prog Cmd Res ε β} {f : β → Prog Cmd Res ε α}
    {history : List ((c : Cmd) × Res c)}
    (h : p.Guarded G (fun history b => (f b).Guarded G Post history) history)
    : (p >>= f).Guarded G Post history := by
  induction p generalizing history with
  | ret b => exact h
  | throw e => trivial
  | call c next ih => exact ⟨h.1, fun r => ih r (h.2 r)⟩

theorem guarded_mono {Post' : List ((c : Cmd) × Res c) → α → Prop} {p : Prog Cmd Res ε α}
    {history : List ((c : Cmd) × Res c)} (h : p.Guarded G Post history)
    (hpost : ∀ history' a, Post history' a → Post' history' a)
    : p.Guarded G Post' history := by
  induction p generalizing history with
  | ret a => exact hpost _ _ h
  | throw e => trivial
  | call c next ih => exact ⟨h.1, fun r => ih r (h.2 r)⟩

theorem guarded_of_obeys {C : Cmd → Prop} {F : ε → Prop} {Q : α → Prop}
    {history : List ((c : Cmd) × Res c)}
    (hG : ∀ history' c, history <+: history' → C c → G history' c)
    {p : Prog Cmd Res ε α} (hp : p.Obeys C F Q)
    : p.Guarded G (fun history' a => history <+: history' ∧ Q a) history := by
  induction p generalizing history with
  | ret a => exact ⟨List.prefix_rfl, hp⟩
  | throw e => trivial
  | call c next ih =>
    refine ⟨hG history c List.prefix_rfl hp.1, ?_⟩
    intro r
    have hle : history <+: history ++ [⟨c, r⟩] := List.prefix_append _ _
    have hnext := ih r (fun history' c h => hG history' c (hle.trans h)) (hp.2 r)
    apply guarded_mono hnext
    intro history' a h
    exact ⟨hle.trans h.1, h.2⟩

end Guarded

end Prog
