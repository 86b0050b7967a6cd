import BankingApi.Store.Program
import BankingApi.Store.Run
import Mathlib.Logic.Function.Basic

/-!
This module contains transactions that run side by side on one store. A command takes its locks
before it runs, a transaction keeps them until it ends, and its writes show when it commits.
-/

inductive Mode where
  | shared
  | exclusive
  deriving DecidableEq

instance lawfulBEq_lock {ι ρ : Type} [DecidableEq ι] [DecidableEq ρ] : LawfulBEq (ι × ρ × Mode) :=
  inferInstance

/--
An engine whose commands say what they lock. What a command does depends on the resources that it
locks and on the `catalog`, the part of a store that no command changes.
-/
structure Locking (Cmd : Type) (Res : Cmd → Type) (ε σ ω ρ : Type) (View : ρ → Type) (κ : Type)
    extends Engine Cmd Res ε σ ω where
  view : (r : ρ) → σ → View r
  catalog : σ → κ
  locks : Cmd → σ → List (ρ × Mode)
  touches : ω → List ρ
  hlocks : ∀ {c s s'}, catalog s = catalog s' → locks c s = locks c s'
  hexec : ∀ {c s s'}, catalog s = catalog s' →
    (∀ l ∈ locks c s, view l.1 s = view l.1 s') → exec c s = exec c s'
  htouches : ∀ {c s r ws}, exec c s = .ok (r, ws) →
    ∀ w ∈ ws, ∀ x ∈ touches w, (x, .exclusive) ∈ locks c s
  hframe : ∀ {s w x}, x ∉ touches w → view x (apply s w) = view x s
  happly : ∀ {s s' w}, (∀ x ∈ touches w, view x s = view x s') →
    ∀ x ∈ touches w, view x (apply s w) = view x (apply s' w)
  hcatalog : ∀ {s w}, catalog (apply s w) = catalog s

namespace Locking

variable {Cmd : Type} {Res : Cmd → Type} {ε σ ω ρ : Type} {View : ρ → Type} {κ ι α : Type}

section Views

variable (L : Locking Cmd Res ε σ ω ρ View κ)

theorem catalog_applyAll (s : σ) (ws : List ω) : L.catalog (L.applyAll s ws) = L.catalog s := by
  induction ws generalizing s with
  | nil => rfl
  | cons w ws ih =>
    rw [Engine.applyAll_cons, ih]
    apply L.hcatalog

theorem view_applyAll {s : σ} {ws : List ω} {x : ρ} (h : ∀ w ∈ ws, x ∉ L.touches w)
    : L.view x (L.applyAll s ws) = L.view x s := by
  induction ws generalizing s with
  | nil => rfl
  | cons w ws ih =>
    rw [Engine.applyAll_cons, ih (fun w' hw' => h w' (by simp [hw']))]
    apply L.hframe
    apply h
    simp

theorem view_applyAll_congr {R : ρ → Prop} {s s' : σ} {ws : List ω}
    (htouches : ∀ w ∈ ws, ∀ x ∈ L.touches w, R x) (hagree : ∀ x, R x → L.view x s = L.view x s')
    : ∀ x, R x → L.view x (L.applyAll s ws) = L.view x (L.applyAll s' ws) := by
  induction ws generalizing s s' with
  | nil => exact hagree
  | cons w ws ih =>
    rw [Engine.applyAll_cons, Engine.applyAll_cons]
    apply ih (fun w' hw' => htouches w' (by simp [hw']))
    intro x hx
    by_cases hmem : x ∈ L.touches w
    . apply L.happly _ x hmem
      intro y hy
      exact hagree y (htouches w (by simp) y hy)
    . rw [L.hframe hmem, L.hframe hmem]
      exact hagree x hx

end Views

inductive Thread (Cmd : Type) (Res : Cmd → Type) (ε ω α : Type) where
  | idle
  -- `since` is how many transactions had ended when this one started as `origin`.
  | running (since : ℕ) (origin rest : Prog Cmd Res ε α) (pending : List ω)
  | finished (outcome : Except ε α)
  | aborted

structure Ended (Cmd : Type) (Res : Cmd → Type) (ε ι α : Type) where
  thread : ι
  program : Prog Cmd Res ε α
  outcome : Except ε α

structure Machine (Cmd : Type) (Res : Cmd → Type) (ε σ ω ρ ι α : Type) where
  store : σ
  locks : List (ι × ρ × Mode)
  threads : ι → Thread Cmd Res ε ω α
  log : List (Ended Cmd Res ε ι α)

inductive Event (ρ ι : Type) where
  | start (i : ι)
  | acquire (i : ι) (l : ρ × Mode)
  | exec (i : ι)
  | finish (i : ι)
  | abort (i : ι)

namespace Machine

def init (s : σ) : Machine Cmd Res ε σ ω ρ ι α where
  store := s
  locks := []
  threads := fun _ => .idle
  log := []

def Free (m : Machine Cmd Res ε σ ω ρ ι α) (i : ι) (l : ρ × Mode) : Prop :=
  ∀ h ∈ m.locks, h.1 ≠ i → h.2.1 = l.1 → h.2.2 = .shared ∧ l.2 = .shared

variable [DecidableEq ι] [DecidableEq ρ]

instance (m : Machine Cmd Res ε σ ω ρ ι α) (i : ι) (l : ρ × Mode) : Decidable (m.Free i l) := by
  unfold Free
  infer_instance

def set (m : Machine Cmd Res ε σ ω ρ ι α) (i : ι) (t : Thread Cmd Res ε ω α)
    : Machine Cmd Res ε σ ω ρ ι α :=
  { m with threads := Function.update m.threads i t }

def release (m : Machine Cmd Res ε σ ω ρ ι α) (i : ι) : Machine Cmd Res ε σ ω ρ ι α :=
  { m with locks := m.locks.filter (·.1 ≠ i) }

def finish (m : Machine Cmd Res ε σ ω ρ ι α) (i : ι) (program : Prog Cmd Res ε α)
    (outcome : Except ε α) (s : σ)
    : Machine Cmd Res ε σ ω ρ ι α :=
  { (m.set i (.finished outcome)).release i with
    store := s
    log := m.log ++ [⟨i, program, outcome⟩]
  }

end Machine

variable [DecidableEq ι] [DecidableEq ρ] (L : Locking Cmd Res ε σ ω ρ View κ)

/--
One step. An event that is not enabled changes nothing. Thread `i` first reads the store without a
lock and then runs the program `entry i` of what it has read.
-/
def step (entry : ι → σ → Prog Cmd Res ε α) (m : Machine Cmd Res ε σ ω ρ ι α) (ev : Event ρ ι)
    : Machine Cmd Res ε σ ω ρ ι α :=
  match ev with
  | .start i =>
    match m.threads i with
    | .idle => m.set i (.running m.log.length (entry i m.store) (entry i m.store) [])
    | _ => m
  | .acquire i l =>
    match m.threads i with
    | .running _ _ (.call c _) pending =>
      if l ∈ L.locks c (L.applyAll m.store pending) ∧ m.Free i l then
        { m with locks := (i, l) :: m.locks }
      else
        m
    | _ => m
  | .exec i =>
    match m.threads i with
    | .running since origin (.call c next) pending =>
      if ∀ l ∈ L.locks c (L.applyAll m.store pending), (i, l) ∈ m.locks then
        match L.exec c (L.applyAll m.store pending) with
        | .error e => m.set i (.running since origin (.throw e) pending)
        | .ok (r, ws) => m.set i (.running since origin (next r) (pending ++ ws))
      else
        m
    | _ => m
  | .finish i =>
    match m.threads i with
    | .running _ origin (.ret a) pending => m.finish i origin (.ok a) (L.applyAll m.store pending)
    | .running _ origin (.throw e) _ => m.finish i origin (.error e) m.store
    | _ => m
  | .abort i =>
    match m.threads i with
    | .running _ _ _ _ => (m.set i .aborted).release i
    | _ => m

inductive Stepped (entry : ι → σ → Prog Cmd Res ε α) (m : Machine Cmd Res ε σ ω ρ ι α)
    : Event ρ ι → Machine Cmd Res ε σ ω ρ ι α → Prop where
  | stutter {ev} : Stepped entry m ev m
  | start {i} (hi : m.threads i = .idle)
    : Stepped entry m (.start i)
        (m.set i (.running m.log.length (entry i m.store) (entry i m.store) []))
  | acquire {i l} (hfree : m.Free i l)
    : Stepped entry m (.acquire i l) { m with locks := (i, l) :: m.locks }
  | refused {i since origin c next pending e}
      (hi : m.threads i = .running since origin (.call c next) pending)
      (hlocks : ∀ l ∈ L.locks c (L.applyAll m.store pending), (i, l) ∈ m.locks)
      (hexec : L.exec c (L.applyAll m.store pending) = .error e)
    : Stepped entry m (.exec i) (m.set i (.running since origin (.throw e) pending))
  | done {i since origin c next pending r ws}
      (hi : m.threads i = .running since origin (.call c next) pending)
      (hlocks : ∀ l ∈ L.locks c (L.applyAll m.store pending), (i, l) ∈ m.locks)
      (hexec : L.exec c (L.applyAll m.store pending) = .ok (r, ws))
    : Stepped entry m (.exec i) (m.set i (.running since origin (next r) (pending ++ ws)))
  | commit {i since origin a pending} (hi : m.threads i = .running since origin (.ret a) pending)
    : Stepped entry m (.finish i) (m.finish i origin (.ok a) (L.applyAll m.store pending))
  | rollback {i since origin e pending}
      (hi : m.threads i = .running since origin (.throw e) pending)
    : Stepped entry m (.finish i) (m.finish i origin (.error e) m.store)
  | abort {i since origin rest pending} (hi : m.threads i = .running since origin rest pending)
    : Stepped entry m (.abort i) ((m.set i .aborted).release i)

theorem step_cases (entry : ι → σ → Prog Cmd Res ε α) (m : Machine Cmd Res ε σ ω ρ ι α)
    (ev : Event ρ ι)
    : Stepped L entry m ev (L.step entry m ev) := by
  unfold step
  cases ev with
  | start i =>
    dsimp only
    split
    . next hi => exact .start hi
    . exact .stutter
  | acquire i l =>
    dsimp only
    split
    . split
      . next hl => exact .acquire hl.2
      . exact .stutter
    . exact .stutter
  | exec i =>
    dsimp only
    split
    . next hi =>
      split
      . next hlocks =>
        split
        . next hexec => exact .refused hi hlocks hexec
        . next hexec => exact .done hi hlocks hexec
      . exact .stutter
    . exact .stutter
  | finish i =>
    dsimp only
    split
    . next hi => exact .commit hi
    . next hi => exact .rollback hi
    . exact .stutter
  | abort i =>
    dsimp only
    split
    . next hi => exact .abort hi
    . exact .stutter

end Locking
