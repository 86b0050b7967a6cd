import BankingApi.Store.Serializability
import Mathlib.Order.WellFoundedSet

/-!
This module contains transactions that ask for the locks of a command one after another, and the
proof that they never wait in a circle if there is an order of the resources that each program
follows.
-/

theorem exists_end_of_acyclic {ι : Type} {r : ι → ι → Prop}
    (hacyclic : ∀ i, ¬Relation.TransGen r i i) (hfinite : {j | ∃ i, r i j}.Finite) {i j : ι}
    (h : r i j)
    : ∃ k, Relation.TransGen r i k ∧ ∀ k', ¬r k k' := by
  let after : ι → ι → Prop := fun k' k => Relation.TransGen r k k'
  have : IsStrictOrder ι after :=
    { irrefl := hacyclic, trans := fun _ _ _ h h' => h'.trans h }
  have hwf : {j | ∃ i, r i j}.WellFoundedOn after := hfinite.wellFoundedOn
  have hlast : ∀ k, (∃ i, r i k) → Relation.TransGen r i k →
      ∃ k, Relation.TransGen r i k ∧ ∀ k', ¬r k k' := by
    intro k hk
    refine hwf.induction hk (P := fun k => Relation.TransGen r i k → _) ?_
    intro k _ ih hik
    by_cases hend : ∃ k', r k k'
    . rcases hend with ⟨k', hk'⟩
      exact ih k' ⟨k, hk'⟩ (.single hk') (hik.tail hk')
    . exact ⟨k, hik, not_exists.mp hend⟩
  exact hlast j ⟨i, h⟩ (.single h)

-- A command's locks in the order in which the store asks for them.
structure OrderedLocking (Cmd : Type) (Res : Cmd → Type) (ε σ ω ρ : Type) (View : ρ → Type)
    (κ : Type)
    extends Locking Cmd Res ε σ ω ρ View κ where
  sequence : Cmd → σ → List (ρ × Mode)
  hsequence : ∀ {c s l}, l ∈ sequence c s ↔ l ∈ locks c s
  hcongr : ∀ {c s s'}, catalog s = catalog s' → sequence c s = sequence c s'

namespace OrderedLocking

open Locking (Machine Thread Event)

variable {Cmd : Type} {Res : Cmd → Type} {ε σ ω ρ : Type} {View : ρ → Type} {κ ι α β : Type}
  (O : OrderedLocking Cmd Res ε σ ω ρ View κ)

section Programs

variable [LinearOrder β] (rank : ρ → β) (s₀ : σ)

/--
Each lock is held already, or is on a resource that is held exclusively, or comes after all that is
held.
-/
def Ascending (held : Set (ρ × Mode)) (ls : List (ρ × Mode)) : Prop :=
  match ls with
  | [] => True
  | l :: ls =>
    (l ∈ held ∨ (l.1, .exclusive) ∈ held ∨ ∀ h ∈ held, rank h.1 < rank l.1)
      ∧ Ascending (insert l held) ls

def Answers (c : Cmd) (r : Res c) : Prop :=
  ∃ s ws, O.catalog s = O.catalog s₀ ∧ O.exec c s = .ok (r, ws)

/--
The program asks for its locks in ascending order whatever the store answers, and if it returns then
it returns with `Q`.
-/
def Climbs (p : Prog Cmd Res ε α) (held : Set (ρ × Mode)) (Q : α → Set (ρ × Mode) → Prop) : Prop :=
  match p with
  | .ret a => Q a held
  | .throw _ => True
  | .call c next =>
    Ascending rank held (O.sequence c s₀)
      ∧ ∀ r, O.Answers s₀ c r → Climbs (next r) (held ∪ {l | l ∈ O.sequence c s₀}) Q

variable {O rank s₀}

theorem climbs_bind {α' : Type} {p : Prog Cmd Res ε α} {f : α → Prog Cmd Res ε α'}
    {held : Set (ρ × Mode)} {Q : α' → Set (ρ × Mode) → Prop}
    (h : O.Climbs rank s₀ p held (fun a held' => O.Climbs rank s₀ (f a) held' Q))
    : O.Climbs rank s₀ (p >>= f) held Q := by
  induction p generalizing held with
  | ret a => exact h
  | throw e => trivial
  | call c next ih => exact ⟨h.1, fun r hr => ih r (h.2 r hr)⟩

theorem Climbs.mono {p : Prog Cmd Res ε α} {held : Set (ρ × Mode)}
    {Q Q' : α → Set (ρ × Mode) → Prop} (h : O.Climbs rank s₀ p held Q)
    (hQ : ∀ a held', Q a held' → Q' a held')
    : O.Climbs rank s₀ p held Q' := by
  induction p generalizing held with
  | ret a => exact hQ a held h
  | throw e => trivial
  | call c next ih => exact ⟨h.1, fun r hr => ih r (h.2 r hr)⟩

theorem climbs_require {c : Prop} [Decidable c] {e : ε} {held : Set (ρ × Mode)}
    {Q : Unit → Set (ρ × Mode) → Prop} (h : c → Q () held)
    : O.Climbs rank s₀ (Prog.require c e) held Q := by
  unfold Prog.require
  split
  . next hc => exact h hc
  . trivial

theorem ascending_of_covered {held : Set (ρ × Mode)} {ls : List (ρ × Mode)}
    (h : ∀ l ∈ ls, (l.1, .exclusive) ∈ held)
    : Ascending rank held ls := by
  induction ls generalizing held with
  | nil => trivial
  | cons l ls ih =>
    refine ⟨.inr (.inl (h l (by simp))), ih ?_⟩
    intro l' hl'
    exact Set.mem_insert_of_mem _ (h l' (by simp [hl']))

theorem ascending_append {held : Set (ρ × Mode)} {ls ls' : List (ρ × Mode)}
    (h : Ascending rank held ls) (h' : Ascending rank (held ∪ {l | l ∈ ls}) ls')
    : Ascending rank held (ls ++ ls') := by
  induction ls generalizing held with
  | nil => simpa using h'
  | cons l ls ih =>
    refine ⟨h.1, ih h.2 ?_⟩
    convert h' using 1
    ext x
    simp only [Set.mem_union, Set.mem_insert_iff, Set.mem_ofPred_eq, List.mem_cons]
    tauto

theorem ascending_of_pairwise {held : Set (ρ × Mode)} {ls : List (ρ × Mode)}
    (h : ∀ h ∈ held, ∀ l ∈ ls, rank h.1 < rank l.1)
    (hls : ls.Pairwise (fun l l' => rank l.1 < rank l'.1))
    : Ascending rank held ls := by
  induction ls generalizing held with
  | nil => trivial
  | cons l ls ih =>
    rw [List.pairwise_cons] at hls
    refine ⟨.inr (.inr (fun h' hh' => h h' hh' l (by simp))), ih ?_ hls.2⟩
    intro h' hh' l' hl'
    rcases hh' with rfl | hh'
    . exact hls.1 l' hl'
    . exact h h' hh' l' (by simp [hl'])

theorem Ascending.next {held : Set (ρ × Mode)} {pre post : List (ρ × Mode)} {l : ρ × Mode}
    (h : Ascending rank held (pre ++ l :: post)) (hpre : ∀ x ∈ pre, x ∈ held) (hl : l ∉ held)
    : ((l.1, .exclusive) ∈ held ∨ ∀ h ∈ held, rank h.1 < rank l.1)
        ∧ Ascending rank (insert l held) (pre ++ l :: post) := by
  induction pre with
  | nil =>
    refine ⟨h.1.resolve_left hl, .inl (Set.mem_insert _ _), ?_⟩
    rw [Set.insert_eq_of_mem (Set.mem_insert _ _)]
    exact h.2
  | cons x pre ih =>
    have hx : x ∈ held := hpre x (by simp)
    have hrest := h.2
    rw [Set.insert_eq_of_mem hx] at hrest
    rcases ih hrest (fun y hy => hpre y (by simp [hy])) with ⟨hcovered, hascending⟩
    refine ⟨hcovered, .inl (Set.mem_insert_of_mem _ hx), ?_⟩
    rw [Set.insert_eq_of_mem (Set.mem_insert_of_mem _ hx)]
    exact hascending

end Programs

section Machine

variable [DecidableEq ι] [DecidableEq ρ]

def next? (m : Machine Cmd Res ε σ ω ρ ι α) (i : ι) : Option (ρ × Mode) :=
  match m.threads i with
  | .running _ _ (.call c _) pending =>
    (O.sequence c (O.applyAll m.store pending)).find? (fun l => (i, l) ∉ m.locks)
  | _ => none

def stepInOrder (entry : ι → σ → Prog Cmd Res ε α) (m : Machine Cmd Res ε σ ω ρ ι α)
    (ev : Event ρ ι)
    : Machine Cmd Res ε σ ω ρ ι α :=
  match ev with
  | .acquire i l => if O.next? m i = some l then O.step entry m (.acquire i l) else m
  | ev => O.step entry m ev

def WaitsFor (m : Machine Cmd Res ε σ ω ρ ι α) (i j : ι) : Prop :=
  i ≠ j ∧ ∃ l mode, O.next? m i = some l ∧ (j, l.1, mode) ∈ m.locks
    ∧ ¬(mode = .shared ∧ l.2 = .shared)

def Waits (m : Machine Cmd Res ε σ ω ρ ι α) (i : ι) : Prop :=
  ∃ j, O.WaitsFor m i j

-- Thread `i` can take a step of its own: a lock, the command, or the end.
def CanProceed (entry : ι → σ → Prog Cmd Res ε α) (m : Machine Cmd Res ε σ ω ρ ι α) (i : ι) : Prop :=
  ∃ ev, ((∃ l, ev = .acquire i l) ∨ ev = .exec i ∨ ev = .finish i)
    ∧ O.stepInOrder entry m ev ≠ m

variable {O}

theorem stepInOrder_eq (entry : ι → σ → Prog Cmd Res ε α) (m : Machine Cmd Res ε σ ω ρ ι α)
    (ev : Event ρ ι)
    : O.stepInOrder entry m ev = m
        ∨ O.stepInOrder entry m ev = O.step entry m ev
          ∧ ∀ i l, ev = .acquire i l → O.next? m i = some l := by
  cases ev with
  | acquire i l =>
    unfold stepInOrder
    dsimp only
    split
    . next h =>
      right
      refine ⟨rfl, ?_⟩
      intro i' l' heq
      cases heq
      exact h
    . exact .inl rfl
  | _ => exact .inr ⟨rfl, by simp⟩

theorem exists_run_eq (entry : ι → σ → Prog Cmd Res ε α) (m : Machine Cmd Res ε σ ω ρ ι α)
    (es : List (Event ρ ι))
    : ∃ es', es'.Sublist es
        ∧ Run.run (O.stepInOrder entry) m es = Run.run (O.step entry) m es' := by
  induction es generalizing m with
  | nil => exact ⟨[], .refl _, rfl⟩
  | cons ev es ih =>
    rcases ih (O.stepInOrder entry m ev) with ⟨es', hsub, hrun⟩
    rw [Run.run_cons, hrun]
    rcases stepInOrder_eq (O := O) entry m ev with heq | ⟨heq, _⟩
    . rw [heq]
      exact ⟨es', hsub.cons ev, rfl⟩
    . rw [heq]
      exact ⟨ev :: es', hsub.cons_cons ev, rfl⟩

theorem free_of_not_waits {m : Machine Cmd Res ε σ ω ρ ι α} {i : ι} {l : ρ × Mode}
    (hl : O.next? m i = some l) (h : ¬O.Waits m i)
    : m.Free i l := by
  rintro ⟨j, x, mode⟩ hh hne heq
  dsimp only at hne heq ⊢
  subst heq
  by_contra hconflict
  exact h ⟨j, hne.symm, l, mode, hl, hh, hconflict⟩

def heldBy (m : Machine Cmd Res ε σ ω ρ ι α) (i : ι) : Set (ρ × Mode) :=
  {l | (i, l) ∈ m.locks}

theorem find?_next {m : Machine Cmd Res ε σ ω ρ ι α} {i : ι} {l : ρ × Mode}
    (h : O.next? m i = some l)
    : l ∉ heldBy m i ∧ ∃ since origin c next pending pre post,
      m.threads i = .running since origin (.call c next) pending
        ∧ O.sequence c (O.applyAll m.store pending) = pre ++ l :: post
        ∧ ∀ x ∈ pre, x ∈ heldBy m i := by
  unfold next? at h
  split at h
  . next since origin c next pending hi =>
    rcases List.find?_eq_some_iff_append.mp h with ⟨hl, pre, post, hsplit, hpre⟩
    refine ⟨by simpa [heldBy] using hl, since, origin, c, next, pending, pre, post, hi, hsplit, ?_⟩
    intro x hx
    simpa [heldBy] using hpre x hx
  . cases h

end Machine

section Invariant

variable [LinearOrder β]
variable (rank : ρ → β) (entry : ι → σ → Prog Cmd Res ε α) (s₀ : σ)

structure Inv (m : Machine Cmd Res ε σ ω ρ ι α) : Prop where
  locking : Locking.Inv O.toLocking entry s₀ m
  catalog : O.catalog m.store = O.catalog s₀
  climbs : ∀ i since origin rest pending, m.threads i = .running since origin rest pending →
    O.Climbs rank s₀ rest (heldBy m i) (fun _ _ => True)
  runs : ∀ h ∈ m.locks, ∃ since origin rest pending,
    m.threads h.1 = .running since origin rest pending

variable {O rank entry s₀} {m : Machine Cmd Res ε σ ω ρ ι α}

theorem inv_init : Inv O rank entry s₀ (.init s₀ : Machine Cmd Res ε σ ω ρ ι α) where
  locking := Locking.inv_init
  catalog := rfl
  climbs := by
    intro i since origin rest pending hi
    cases hi
  runs := by
    intro h hh
    cases hh

theorem Inv.catalog_applyAll (h : Inv O rank entry s₀ m) (pending : List ω)
    : O.catalog (O.applyAll m.store pending) = O.catalog s₀ :=
  (O.toLocking.catalog_applyAll m.store pending).trans h.catalog

theorem Inv.climbs_done {i : ι} {since : ℕ} {origin : Prog Cmd Res ε α} {c : Cmd}
    {next : Res c → Prog Cmd Res ε α} {pending ws : List ω} {r : Res c}
    (h : Inv O rank entry s₀ m) (hi : m.threads i = .running since origin (.call c next) pending)
    (hlocks : ∀ l ∈ O.locks c (O.applyAll m.store pending), (i, l) ∈ m.locks)
    (hexec : O.exec c (O.applyAll m.store pending) = .ok (r, ws))
    : O.Climbs rank s₀ (next r) (heldBy m i) (fun _ _ => True) := by
  have hcatalog := h.catalog_applyAll pending
  convert (h.climbs i _ _ _ _ hi).2 r ⟨_, ws, hcatalog, hexec⟩ using 1
  rw [eq_comm, Set.union_eq_left]
  intro l hl
  rw [Set.mem_ofPred_eq, ← O.hcongr hcatalog, O.hsequence] at hl
  exact hlocks l hl

theorem Inv.heldBy_eq_empty {i : ι} (h : Inv O rank entry s₀ m)
    (hi : ∀ since origin rest pending, m.threads i ≠ .running since origin rest pending)
    : heldBy m i = ∅ := by
  ext l
  simp only [Set.mem_empty_iff_false, iff_false]
  intro hl
  rcases h.runs (i, l) hl with ⟨since, origin, rest, pending, hrun⟩
  exact hi _ _ _ _ hrun

section

variable [DecidableEq ι]

theorem Inv.set {i : ι} {t : Thread Cmd Res ε ω α} {m' : Machine Cmd Res ε σ ω ρ ι α}
    (h : Inv O rank entry s₀ m) (hlocking : Locking.Inv O.toLocking entry s₀ m')
    (hstore : m'.store = m.store) (hlocks : m'.locks = m.locks)
    (hthreads : m'.threads = Function.update m.threads i t)
    (ht : ∃ since origin rest pending, t = .running since origin rest pending
      ∧ O.Climbs rank s₀ rest (heldBy m i) (fun _ _ => True))
    : Inv O rank entry s₀ m' := by
  rcases ht with ⟨since, origin, rest, pending, rfl, hclimbs⟩
  have hheld : ∀ j, heldBy m' j = heldBy m j := by
    intro j
    unfold heldBy
    rw [hlocks]
  constructor
  . exact hlocking
  . rw [hstore]
    exact h.catalog
  . intro j since' origin' rest' pending' hj
    rw [hheld]
    rw [hthreads] at hj
    by_cases heq : j = i
    . subst heq
      rw [Function.update_self] at hj
      cases hj
      exact hclimbs
    . rw [Function.update_of_ne heq] at hj
      exact h.climbs j _ _ _ _ hj
  . intro l hl
    rw [hlocks] at hl
    rw [hthreads]
    by_cases heq : l.1 = i
    . rw [heq, Function.update_self]
      exact ⟨_, _, _, _, rfl⟩
    . rw [Function.update_of_ne heq]
      exact h.runs l hl

theorem Inv.ended {i : ι} {t : Thread Cmd Res ε ω α} {m' : Machine Cmd Res ε σ ω ρ ι α}
    (h : Inv O rank entry s₀ m) (hlocking : Locking.Inv O.toLocking entry s₀ m')
    (hcatalog : O.catalog m'.store = O.catalog s₀) (hlocks : m'.locks = m.locks.filter (·.1 ≠ i))
    (hthreads : m'.threads = Function.update m.threads i t)
    (ht : ∀ since origin rest pending, t ≠ .running since origin rest pending)
    : Inv O rank entry s₀ m' where
  locking := hlocking
  catalog := hcatalog
  climbs := by
    intro j since origin rest pending hj
    have hne : j ≠ i := by
      rintro rfl
      rw [hthreads, Function.update_self] at hj
      exact ht _ _ _ _ hj
    rw [hthreads, Function.update_of_ne hne] at hj
    convert h.climbs j _ _ _ _ hj using 1
    ext x
    simp [heldBy, hlocks, hne]
  runs := by
    intro x hx
    rw [hlocks, List.mem_filter] at hx
    have hne : x.1 ≠ i := by simpa using hx.2
    rw [hthreads, Function.update_of_ne hne]
    exact h.runs x hx.1

variable [DecidableEq ρ]

theorem Inv.climbs_acquired {i : ι} {l : ρ × Mode} (h : Inv O rank entry s₀ m)
    (hl : O.next? m i = some l) {since : ℕ} {origin rest : Prog Cmd Res ε α} {pending : List ω}
    (hi : m.threads i = .running since origin rest pending)
    : O.Climbs rank s₀ rest (insert l (heldBy m i)) (fun _ _ => True)
        ∧ ((l.1, .exclusive) ∈ heldBy m i ∨ ∀ h ∈ heldBy m i, rank h.1 < rank l.1) := by
  rcases find?_next hl with ⟨hnot, _, _, c, next, pending', pre, post, hi', hsplit, hpre⟩
  have hclimbs := h.climbs i _ _ _ _ hi
  cases hi.symm.trans hi'
  rw [O.hcongr (h.catalog_applyAll pending)] at hsplit
  have hascending := hclimbs.1
  rw [hsplit] at hascending
  rcases hascending.next hpre hnot with ⟨hcovered, hascending⟩
  refine ⟨⟨by rwa [hsplit], ?_⟩, hcovered⟩
  intro r hr
  convert hclimbs.2 r hr using 1
  have hmem : l ∈ {l | l ∈ O.sequence c s₀} := by simp [hsplit]
  rw [Set.insert_union, Set.insert_eq_of_mem (Set.mem_union_right _ hmem)]

theorem Inv.acquire {i : ι} {l : ρ × Mode} (h : Inv O rank entry s₀ m)
    (hlocking : Locking.Inv O.toLocking entry s₀ { m with locks := (i, l) :: m.locks })
    (hl : O.next? m i = some l)
    : Inv O rank entry s₀ { m with locks := (i, l) :: m.locks } where
  locking := hlocking
  catalog := h.catalog
  climbs := by
    intro j since origin rest pending hj
    by_cases heq : j = i
    . subst heq
      convert (h.climbs_acquired hl hj).1 using 1
      ext x
      simp [heldBy]
    . convert h.climbs j _ _ _ _ hj using 1
      ext x
      simp [heldBy, heq]
  runs := by
    intro x hx
    rcases List.mem_cons.mp hx with rfl | hx
    . rcases find?_next hl with ⟨_, _, _, _, _, _, _, _, hi, _⟩
      exact ⟨_, _, _, _, hi⟩
    . exact h.runs x hx

theorem inv_step (hentry : ∀ i s, O.catalog s = O.catalog s₀ →
      O.Climbs rank s₀ (entry i s) ∅ (fun _ _ => True))
    (ev : Event ρ ι) (h : Inv O rank entry s₀ m)
    : Inv O rank entry s₀ (O.stepInOrder entry m ev) := by
  rcases stepInOrder_eq (O := O) entry m ev with heq | ⟨heq, hnext⟩
  . rw [heq]
    exact h
  . rw [heq]
    have hlocking := Locking.inv_step ev h.locking
    have hstep := O.step_cases entry m ev
    generalize O.step entry m ev = m' at *
    cases hstep with
    | stutter => exact h
    | @start i hi =>
      refine h.set hlocking rfl rfl rfl ⟨_, _, _, _, rfl, ?_⟩
      rw [h.heldBy_eq_empty (by simp [hi])]
      exact hentry i m.store h.catalog
    | @acquire i l hfree => exact h.acquire hlocking (hnext i l rfl)
    | refused hi => exact h.set hlocking rfl rfl rfl ⟨_, _, _, _, rfl, trivial⟩
    | done hi hlocks hexec =>
      exact h.set hlocking rfl rfl rfl ⟨_, _, _, _, rfl, h.climbs_done hi hlocks hexec⟩
    | commit hi => exact h.ended hlocking (h.catalog_applyAll _) rfl rfl (by simp)
    | rollback hi => exact h.ended hlocking h.catalog rfl rfl (by simp)
    | abort hi => exact h.ended hlocking h.catalog rfl rfl (by simp)

theorem inv_run (hentry : ∀ i s, O.catalog s = O.catalog s₀ →
      O.Climbs rank s₀ (entry i s) ∅ (fun _ _ => True))
    (es : List (Event ρ ι))
    : Inv O rank entry s₀ (Run.run (O.stepInOrder entry) (.init s₀) es) :=
  Run.run_invariant (fun _ ev h => inv_step hentry ev h) es inv_init

theorem Inv.rank_lt {i j j' : ι} (h : Inv O rank entry s₀ m) (hij : O.WaitsFor m i j)
    (hj : O.WaitsFor m j j')
    : ∃ l l', O.next? m i = some l ∧ O.next? m j = some l' ∧ rank l.1 < rank l'.1 := by
  rcases hij with ⟨_, l, mode, hl, hheld, _⟩
  rcases hj with ⟨hne, l', mode', hl', hheld', hconflict⟩
  refine ⟨l, l', hl, hl', ?_⟩
  rcases find?_next hl' with ⟨_, _, _, _, _, _, _, _, hrun, _⟩
  rcases (h.climbs_acquired hl' hrun).2 with hcovered | habove
  . -- A thread that has the resource for itself does not wait for it.
    have := h.locking.compatible _ hcovered _ hheld' hne rfl
    cases this.1
  . exact habove (l.1, mode) hheld

theorem Inv.rank_lt_of_transGen {i j : ι} (h : Inv O rank entry s₀ m)
    (hij : Relation.TransGen (O.WaitsFor m) i j) (hj : O.Waits m j)
    : ∃ l l', O.next? m i = some l ∧ O.next? m j = some l' ∧ rank l.1 < rank l'.1 := by
  induction hij with
  | single hij =>
    rcases hj with ⟨j', hj⟩
    exact h.rank_lt hij hj
  | tail _ hbc ih =>
    rcases ih ⟨_, hbc⟩ with ⟨l, l', hl, hl', hlt⟩
    rcases hj with ⟨j', hj⟩
    rcases h.rank_lt hbc hj with ⟨l₁, l₂, hl₁, hl₂, hlt'⟩
    cases hl'.symm.trans hl₁
    exact ⟨l, l₂, hl, hl₂, hlt.trans hlt'⟩

theorem Inv.acyclic (h : Inv O rank entry s₀ m) (i : ι)
    : ¬Relation.TransGen (O.WaitsFor m) i i := by
  intro hcycle
  rcases Relation.TransGen.head'_iff.mp hcycle with ⟨j, hij, _⟩
  rcases h.rank_lt_of_transGen hcycle ⟨j, hij⟩ with ⟨l, l', hl, hl', hlt⟩
  cases hl.symm.trans hl'
  exact lt_irrefl _ hlt

theorem canProceed_of_not_waits {i : ι} {since : ℕ} {origin rest : Prog Cmd Res ε α}
    {pending : List ω} (hi : m.threads i = .running since origin rest pending) (h : ¬O.Waits m i)
    : O.CanProceed entry m i := by
  have hne : ∀ {m' : Machine Cmd Res ε σ ω ρ ι α} {t}, t ≠ m.threads i →
      m'.threads = Function.update m.threads i t → m' ≠ m := by
    rintro m' t ht hthreads rfl
    have := congrFun hthreads i
    rw [Function.update_self] at this
    exact ht this.symm
  cases rest with
  | ret a =>
    refine ⟨.finish i, by simp, ?_⟩
    simp only [stepInOrder, Locking.step, hi]
    exact hne (by simp [hi]) rfl
  | throw e =>
    refine ⟨.finish i, by simp, ?_⟩
    simp only [stepInOrder, Locking.step, hi]
    exact hne (by simp [hi]) rfl
  | call c next =>
    cases hl : O.next? m i with
    | none =>
      have hlocks : ∀ l ∈ O.locks c (O.applyAll m.store pending), (i, l) ∈ m.locks := by
        simp only [next?, hi, List.find?_eq_none] at hl
        intro l hmem
        simpa using hl l (O.hsequence.mpr hmem)
      refine ⟨.exec i, by simp, ?_⟩
      simp only [stepInOrder, Locking.step, hi, if_pos hlocks]
      split
      . exact hne (by simp [hi]) rfl
      . exact hne (by simp [hi, Prog.ne_call]) rfl
    | some l =>
      refine ⟨.acquire i l, by simp, ?_⟩
      rcases find?_next hl with ⟨_, _, _, _, _, _, pre, post, hi', hsplit, _⟩
      cases hi.symm.trans hi'
      have hmem : l ∈ O.locks c (O.applyAll m.store pending) := by
        rw [← O.hsequence, hsplit]
        simp
      have hfree := free_of_not_waits hl h
      simp only [stepInOrder, hl, Locking.step, hi, ↓reduceIte, hmem, hfree, and_self]
      intro heq
      have := congrArg (fun m => m.locks.length) heq
      simp at this

theorem Inv.exists_canProceed {i : ι} (h : Inv O rank entry s₀ m) (hi : O.Waits m i)
    : ∃ j, j ≠ i ∧ O.CanProceed entry m j := by
  have hfinite : {j | ∃ i, O.WaitsFor m i j}.Finite := by
    apply (m.locks.map Prod.fst).toFinset.finite_toSet.subset
    rintro j ⟨i, _, l, mode, _, hheld, _⟩
    simp only [List.coe_toFinset, List.mem_map, Set.mem_ofPred_eq]
    exact ⟨_, hheld, rfl⟩
  rcases hi with ⟨j, hij⟩
  rcases exists_end_of_acyclic h.acyclic hfinite hij with ⟨k, hik, hend⟩
  refine ⟨k, ?_, ?_⟩
  . rintro rfl
    exact h.acyclic _ hik
  . rcases Relation.TransGen.tail'_iff.mp hik with ⟨_, _, _, l, mode, _, hheld, _⟩
    rcases h.runs _ hheld with ⟨since, origin, rest, pending, hrun⟩
    exact canProceed_of_not_waits hrun (not_exists.mpr hend)

end

end Invariant

end OrderedLocking
