import BankingApi.Store.Acting

/-!
This module contains programs that take something and give it back: what is so of the answers when a
program ends, whether it returns or throws.
-/

namespace Prog

variable {Cmd : Type} {Res : Cmd → Type} {ε α β : Type}

/--
From the history on the program returns with `Q` and throws with `E`, whatever its commands answer.
-/
def Leaves (Q : List ((c : Cmd) × Res c) → α → Prop) (E : List ((c : Cmd) × Res c) → ε → Prop)
    (p : Prog Cmd Res ε α) (history : List ((c : Cmd) × Res c))
    : Prop :=
  match p with
  | .ret a => Q history a
  | .throw e => E history e
  | .call c next => ∀ r, (next r).Leaves Q E (history ++ [⟨c, r⟩])

section Leaves

variable {Q : List ((c : Cmd) × Res c) → α → Prop} {E : List ((c : Cmd) × Res c) → ε → Prop}
  {history : List ((c : Cmd) × Res c)}

theorem leaves_bind {p : Prog Cmd Res ε β} {f : β → Prog Cmd Res ε α}
    (h : p.Leaves (fun history b => (f b).Leaves Q E history) E history)
    : (p >>= f).Leaves Q E history := by
  induction p generalizing history with
  | ret b => exact h
  | throw e => exact h
  | call c next ih => exact fun r => ih r (h r)

theorem leaves_mono {Q' : List ((c : Cmd) × Res c) → α → Prop}
    {E' : List ((c : Cmd) × Res c) → ε → Prop} {p : Prog Cmd Res ε α} (h : p.Leaves Q E history)
    (hQ : ∀ history a, Q history a → Q' history a) (hE : ∀ history e, E history e → E' history e)
    : p.Leaves Q' E' history := by
  induction p generalizing history with
  | ret a => exact hQ _ _ h
  | throw e => exact hE _ _ h
  | call c next ih => exact fun r => ih r (h r)

-- What each command keeps is so at the end.
theorem leaves_of_obeys {C : Cmd → Prop} {F : ε → Prop} {R : α → Prop}
    {I : List ((c : Cmd) × Res c) → Prop} (hI : ∀ history c r, C c → I history → I (history ++ [⟨c, r⟩]))
    {p : Prog Cmd Res ε α} (hp : p.Obeys C F R) (h : I history)
    : p.Leaves (fun history a => I history ∧ R a) (fun history e => I history ∧ F e) history := by
  induction p generalizing history with
  | ret a => exact ⟨h, hp⟩
  | throw e => exact ⟨h, hp⟩
  | call c next ih => exact fun r => ih r (hp.2 r) (hI history c r hp.1 h)

/--
`finally`: however the program ends, what comes after it has the last word.
-/
theorem leaves_ensure {p : Prog Cmd Res ε α} {after : Prog Cmd Res ε Unit}
    (h : p.Leaves (fun history a => after.Leaves (fun history _ => Q history a) E history)
      (fun history e => after.Leaves (fun history _ => E history e) E history) history)
    : (p.ensure after).Leaves Q E history := by
  unfold ensure
  apply leaves_bind
  induction p generalizing history with
  | ret a => exact leaves_bind h
  | throw e => exact leaves_bind h
  | call c next ih => exact fun r => ih r (h r)

end Leaves

section Held

variable {takes gives : (c : Cmd) × Res c → Prop}

/--
The last thing to be taken has not been given back.
-/
def Held (takes gives : (c : Cmd) × Res c → Prop) (history : List ((c : Cmd) × Res c)) : Prop :=
  ∃ before entry after, history = before ++ entry :: after ∧ takes entry ∧ ∀ e ∈ after, ¬gives e

theorem not_held_nil : ¬Held takes gives [] := by
  rintro ⟨before, entry, after, h, _⟩
  simp at h

theorem held_append_singleton_iff {history : List ((c : Cmd) × Res c)} {entry : (c : Cmd) × Res c}
    : Held takes gives (history ++ [entry]) ↔
      takes entry ∨ Held takes gives history ∧ ¬gives entry := by
  constructor
  . rintro ⟨before, taken, after, h, htakes, hafter⟩
    rcases List.eq_nil_or_concat after with rfl | ⟨after, last, rfl⟩
    . cases (List.append_inj' h rfl).2
      exact .inl htakes
    . right
      rw [List.concat_eq_append] at h hafter
      rw [← List.cons_append, ← List.append_assoc] at h
      rcases List.append_inj' h rfl with ⟨rfl, hlast⟩
      cases hlast
      refine ⟨⟨before, taken, after, rfl, htakes, ?_⟩, hafter _ (by simp)⟩
      exact fun e he => hafter e (by simp [he])
  . rintro (htakes | ⟨⟨before, taken, after, rfl, htakes, hafter⟩, hentry⟩)
    . exact ⟨history, entry, [], rfl, htakes, by simp⟩
    . refine ⟨before, taken, after ++ [entry], by simp, htakes, ?_⟩
      intro e he
      rcases List.mem_append.mp he with he | he
      . exact hafter e he
      . rwa [List.mem_singleton.mp he]

end Held

end Prog

namespace Sessions

variable {Cmd : Type} {Res : Cmd → Type} {ε σ ι α : Type} [DecidableEq ι]
  {exec : (c : Cmd) → σ → Res c × σ} {failed : (c : Cmd) → Res c} {m : Sessions Cmd Res ε σ ι α}
  {i : ι}

theorem leaves_run {Q : List ((c : Cmd) × Res c) → α → Prop}
    {E : List ((c : Cmd) × Res c) → ε → Prop}
    (h : (m.sessions i).rest.Leaves Q E (m.sessions i).history) (es : List (SessionEvent ι))
    : ((Run.run (step exec failed) m es).sessions i).rest.Leaves Q E
        ((Run.run (step exec failed) m es).sessions i).history := by
  induction es using List.reverseRecOn with
  | nil => exact h
  | append_singleton es ev ih =>
    rw [Run.run_append_singleton]
    rcases session_step_cases exec failed (Run.run (step exec failed) m es) i ev
      with hsame | ⟨c, next, r, hi, _, hnew⟩
    . rwa [hsame]
    . rw [hi] at ih
      rw [hnew]
      exact ih r

end Sessions
