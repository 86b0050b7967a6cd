import Mathlib.Data.List.Infix
import Mathlib.Tactic

/-!
This module contains runs of a system that takes one step per event.
-/

namespace Run

variable {σ ι : Type} (step : σ → ι → σ)

def run (s : σ) (es : List ι) : σ :=
  es.foldl step s

/--
Every event of the run meets `C` in the state it finds.
-/
def Along (C : σ → ι → Prop) (s : σ) (es : List ι) : Prop :=
  match es with
  | [] => True
  | e :: es => C s e ∧ Along C (step s e) es

instance decidableAlong {C : σ → ι → Prop} [∀ s e, Decidable (C s e)] (s : σ) (es : List ι)
    : Decidable (Along step C s es) :=
  match es with
  | [] => .isTrue trivial
  | e :: es =>
    have := decidableAlong (C := C) (step s e) es
    inferInstanceAs (Decidable (C s e ∧ Along step C (step s e) es))

/--
What `f` finds at the last event of the run at which it finds anything.
-/
def last (f : σ → ι → Option α) (s : σ) (es : List ι) : Option α :=
  match es with
  | [] => none
  | e :: es => (last f (step s e) es).or (f s e)

@[simp]
theorem run_nil (s : σ) : run step s [] = s := rfl

@[simp]
theorem run_cons (s : σ) (e : ι) (es : List ι) : run step s (e :: es) = run step (step s e) es := rfl

theorem run_append (s : σ) (es es' : List ι)
    : run step s (es ++ es') = run step (run step s es) es' := by
  apply List.foldl_append

theorem run_append_singleton (s : σ) (es : List ι) (e : ι)
    : run step s (es ++ [e]) = step (run step s es) e := by
  apply List.foldl_concat

variable {step}

theorem along_append_iff {C : σ → ι → Prop} {s : σ} {es es' : List ι}
    : Along step C s (es ++ es') ↔ Along step C s es ∧ Along step C (run step s es) es' := by
  induction es generalizing s with
  | nil => simp [Along]
  | cons e es ih =>
    rw [List.cons_append, Along, Along, ih, and_assoc]
    rfl

theorem along_append_singleton_iff {C : σ → ι → Prop} {s : σ} {es : List ι} {e : ι}
    : Along step C s (es ++ [e]) ↔ Along step C s es ∧ C (run step s es) e := by
  rw [along_append_iff]
  simp [Along]

theorem run_invariant {I : σ → Prop} (hstep : ∀ s e, I s → I (step s e)) {s : σ} (es : List ι)
    (hs : I s)
    : I (run step s es) := by
  induction es generalizing s with
  | nil => exact hs
  | cons e es ih => exact ih (hstep s e hs)

/--
What holds at one moment of a run and is kept by every event after it holds at any later one.
-/
theorem later_induction {Q : List ι → Prop} {pre es : List ι} (hle : pre <+: es) (h : Q pre)
    (hstep : ∀ mid e, pre <+: mid → mid ++ [e] <+: es → Q mid → Q (mid ++ [e]))
    : Q es := by
  rcases hle with ⟨later, rfl⟩
  induction later using List.reverseRecOn with
  | nil => rwa [List.append_nil]
  | append_singleton later e ih =>
    rw [← List.append_assoc] at *
    apply hstep (pre ++ later) e (List.prefix_append _ _) List.prefix_rfl
    apply ih
    intro mid e' hpre hmid
    exact hstep mid e' hpre (hmid.trans (List.prefix_append _ _))

theorem last_append_singleton {f : σ → ι → Option α} {s : σ} {es : List ι} {e : ι}
    : last step f s (es ++ [e]) = (f (run step s es) e).or (last step f s es) := by
  induction es generalizing s with
  | nil => simp [last]
  | cons e' es ih => rw [List.cons_append, last, last, ih, Option.or_assoc, run_cons]

theorem last_isSome {f : σ → ι → Option α} {s : σ} {es pre : List ι} {e : ι}
    (hpre : pre ++ [e] <+: es) (h : (f (run step s pre) e).isSome)
    : (last step f s es).isSome := by
  rcases hpre with ⟨suf, rfl⟩
  induction suf using List.reverseRecOn with
  | nil => simp [last_append_singleton, h]
  | append_singleton suf e' ih => simp [← List.append_assoc, last_append_singleton, ih]

/--
What every step overwrites or keeps is what the last step to overwrite it has left.
-/
theorem get_run_eq_last {I : σ → Prop} (get : σ → β) (f : σ → ι → Option α) (val : α → β)
    (hinv : ∀ s e, I s → I (step s e))
    (hstep : ∀ s e, I s → get (step s e) = (f s e).elim (get s) val) {s : σ} (es : List ι) (hs : I s)
    : get (run step s es) = (last step f s es).elim (get s) val := by
  induction es using List.reverseRecOn with
  | nil => rfl
  | append_singleton es e ih =>
    rw [run_append_singleton, hstep _ e (run_invariant hinv es hs), ih, last_append_singleton]
    cases f (run step s es) e with
    | none => rfl
    | some a => rfl

theorem eq_of_excluded {D : σ → Prop} {Q : σ → ι → Prop} (hkeep : ∀ s e, D s → D (step s e))
    (hset : ∀ s e, Q s e → D (step s e)) (hexcl : ∀ s e, Q s e → ¬D s) {s : σ}
    {es pre pre' : List ι} {e e' : ι} (hpre : pre ++ [e] <+: es) (hpre' : pre' ++ [e'] <+: es)
    (h : Q (run step s pre) e) (h' : Q (run step s pre') e')
    : pre = pre' := by
  have hle : ∀ {pre pre' : List ι} {e e' : ι}, pre ++ [e] <+: es → pre' ++ [e'] <+: es →
      Q (run step s pre) e → Q (run step s pre') e' → pre'.length ≤ pre.length := by
    intro pre pre' e e' hpre hpre' h h'
    by_contra hlt
    have hlen : (pre ++ [e]).length ≤ pre'.length := by
      rw [List.length_append, List.length_singleton]
      omega
    rcases List.prefix_of_prefix_length_le hpre ((List.prefix_append _ _).trans hpre') hlen
      with ⟨mid, rfl⟩
    have hD : D (run step (run step s (pre ++ [e])) mid) := by
      apply run_invariant hkeep
      rw [run_append_singleton]
      exact hset _ _ h
    rw [← run_append] at hD
    exact hexcl _ _ h' hD
  apply List.IsPrefix.eq_of_length
  . apply List.prefix_of_prefix_length_le ((List.prefix_append _ _).trans hpre)
      ((List.prefix_append _ _).trans hpre') (hle hpre' hpre h' h)
  . exact le_antisymm (hle hpre' hpre h' h) (hle hpre hpre' h h')

theorem forall_prefix_step_cons_iff {Q : σ → ι → Prop} {s : σ} {e : ι} {es : List ι}
    : (∀ pre e', pre ++ [e'] <+: e :: es → Q (run step s pre) e') ↔
      Q s e ∧ ∀ pre e', pre ++ [e'] <+: es → Q (run step (step s e) pre) e' := by
  constructor
  . intro h
    refine ⟨h [] e (by simp), ?_⟩
    intro pre e' hpre
    exact h (e :: pre) e' ((List.prefix_cons_inj e).mpr hpre)
  . rintro ⟨hs, h⟩ pre e' hpre
    cases pre with
    | nil =>
      rw [List.nil_append, List.cons_prefix_cons] at hpre
      rw [hpre.1]
      exact hs
    | cons e₀ pre =>
      rw [List.cons_append, List.cons_prefix_cons] at hpre
      rcases hpre with ⟨rfl, hpre⟩
      exact h pre e' hpre

/--
If under an invariant, that events with `Q` keep, an event has `Q` exactly when it meets `C`, then a
run has `Q` at every step exactly when each of its events meets `C`.
-/
theorem forall_step_iff_along {I : σ → Prop} {Q C : σ → ι → Prop}
    (hinv : ∀ s e, I s → Q s e → I (step s e)) (hstep : ∀ s e, I s → (Q s e ↔ C s e)) {s : σ}
    (es : List ι) (hI : I s)
    : (∀ pre e, pre ++ [e] <+: es → Q (run step s pre) e) ↔ Along step C s es := by
  induction es generalizing s with
  | nil =>
    constructor
    . intro _
      trivial
    . intro _ pre e hpre
      simp at hpre
  | cons e es ih =>
    rw [forall_prefix_step_cons_iff, Along, ← hstep s e hI]
    constructor
    . rintro ⟨hQ, hpre⟩
      exact ⟨hQ, (ih (hinv s e hI hQ)).mp hpre⟩
    . rintro ⟨hQ, halong⟩
      exact ⟨hQ, (ih (hinv s e hI hQ)).mpr halong⟩

theorem forall_prefix_iff {P : σ → Prop} {s : σ} {es : List ι}
    : (∀ pre, pre <+: es → P (run step s pre)) ↔
      P s ∧ ∀ pre e, pre ++ [e] <+: es → P (step (run step s pre) e) := by
  constructor
  . intro h
    refine ⟨h [] List.nil_prefix, ?_⟩
    intro pre e hpre
    have := h (pre ++ [e]) hpre
    rwa [run_append_singleton] at this
  . rintro ⟨hs, h⟩ pre hpre
    rcases List.eq_nil_or_concat pre with rfl | ⟨pre, e, rfl⟩
    . exact hs
    . rw [List.concat_eq_append] at hpre ⊢
      rw [run_append_singleton]
      exact h pre e hpre

theorem forall_prefix_and_iff_along {I P : σ → Prop} {Q C : σ → ι → Prop}
    (hinv : ∀ s e, I s → I (step s e))
    (hstep : ∀ s e, I s → P s → (P (step s e) ∧ Q s e ↔ C s e)) {s : σ} (es : List ι)
    (hI : I s) (hP : P s)
    : (∀ pre, pre <+: es → P (run step s pre))
        ∧ (∀ pre e, pre ++ [e] <+: es → Q (run step s pre) e) ↔
      Along step C s es := by
  have := forall_step_iff_along (I := fun s => I s ∧ P s) (Q := fun s e => P (step s e) ∧ Q s e)
    (fun s e h hQ => ⟨hinv s e h.1, hQ.1⟩) (fun s e h => hstep s e h.1 h.2) es ⟨hI, hP⟩
  rw [← this, forall_prefix_iff]
  constructor
  . rintro ⟨⟨_, h⟩, hQ⟩ pre e hpre
    exact ⟨h pre e hpre, hQ pre e hpre⟩
  . intro h
    exact ⟨⟨hP, fun pre e hpre => (h pre e hpre).1⟩, fun pre e hpre => (h pre e hpre).2⟩

theorem forall_prefix_iff_along {I P : σ → Prop} {C : σ → ι → Prop}
    (hinv : ∀ s e, I s → I (step s e))
    (hstep : ∀ s e, I s → P s → (P (step s e) ↔ C s e)) {s : σ} (es : List ι)
    (hI : I s) (hP : P s)
    : (∀ pre, pre <+: es → P (run step s pre)) ↔ Along step C s es := by
  have := forall_prefix_and_iff_along (Q := fun _ _ => True) hinv
    (by simpa using hstep) es hI hP
  simpa using this

theorem forall_later_iff {R : σ → σ → Prop} (hrefl : ∀ s, R s s)
    (htrans : ∀ s s' s'', R s s' → R s' s'' → R s s'') {s : σ} {es : List ι}
    : (∀ pre pre', pre <+: pre' → pre' <+: es → R (run step s pre) (run step s pre')) ↔
      ∀ pre e, pre ++ [e] <+: es → R (run step s pre) (step (run step s pre) e) := by
  constructor
  . intro h pre e hpre
    have := h pre (pre ++ [e]) (List.prefix_append _ _) hpre
    rwa [run_append_singleton] at this
  . intro h pre pre' hle hpre'
    refine @later_induction _ (fun mid => R (run step s pre) (run step s mid)) _ _ hle (hrefl _) ?_
    intro mid e _ hmid ih
    rw [run_append_singleton]
    exact htrans _ _ _ ih (h mid e (hmid.trans hpre'))

end Run
