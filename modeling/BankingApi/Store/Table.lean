import Mathlib.Algebra.BigOperators.Group.List.Basic
import Mathlib.Algebra.Group.Basic
import Mathlib.Tactic

/-!
This module contains tables: lists of rows, in the order they were inserted, with a primary key.
-/

structure Table {α κ : Type} (key : α → κ) where
  rows : List α
  hrows : (rows.map key).Nodup

namespace Table

variable {α κ : Type} {key : α → κ}

def empty : Table key where
  rows := []
  hrows := by simp

@[simp]
theorem rows_empty : (empty : Table key).rows = [] := rfl

theorem eq_of_mem_of_key_eq {t : Table key} {r r' : α} (h : r ∈ t.rows) (h' : r' ∈ t.rows)
    (hkey : key r = key r')
    : r = r' := by
  apply List.inj_on_of_nodup_map t.hrows h h' hkey

def has {β : Type} [DecidableEq β] (t : Table key) (col : α → β) (v : β) : Bool :=
  t.rows.any (fun r => col r = v)

theorem has_eq_false_iff {β : Type} [DecidableEq β] {t : Table key} {col : α → β} {v : β}
    : t.has col v = false ↔ ∀ r ∈ t.rows, col r ≠ v := by
  simp [has]

variable [DecidableEq κ]

def find? (t : Table key) (k : κ) : Option α :=
  t.rows.find? (fun r => key r = k)

def insert (t : Table key) (r : α) : Table key :=
  if h : key r ∈ t.rows.map key then
    t
  else
    {
      rows := t.rows ++ [r]
      hrows := by
        rw [List.map_append, List.nodup_append]
        refine ⟨t.hrows, by simp, ?_⟩
        intro k hk k' hk' heq
        rw [List.map_singleton, List.mem_singleton] at hk'
        rw [heq, hk'] at hk
        exact h hk
    }

def update (t : Table key) (k : κ) (f : α → α) (hf : ∀ r, key (f r) = key r) : Table key where
  rows := t.rows.map (fun r => if key r = k then f r else r)
  hrows := by
    rw [List.map_map]
    have : key ∘ (fun r => if key r = k then f r else r) = key := by
      funext r
      dsimp
      split
      . apply hf
      . rfl
    rw [this]
    exact t.hrows

def map (t : Table key) (f : α → α) (hf : ∀ r, key (f r) = key r) : Table key where
  rows := t.rows.map f
  hrows := by
    rw [List.map_map]
    have : key ∘ f = key := by
      funext r
      apply hf
    rw [this]
    exact t.hrows

theorem mem_of_find? {t : Table key} {k : κ} {r : α} (h : t.find? k = some r) : r ∈ t.rows := by
  apply List.mem_of_find?_eq_some h

theorem key_of_find? {t : Table key} {k : κ} {r : α} (h : t.find? k = some r) : key r = k := by
  simpa using List.find?_some h

theorem find?_eq_none_iff {t : Table key} {k : κ} : t.find? k = none ↔ k ∉ t.rows.map key := by
  simp [find?]

theorem find?_of_mem {t : Table key} {r : α} (h : r ∈ t.rows) : t.find? (key r) = some r := by
  cases hfind : t.find? (key r) with
  | none =>
    rw [find?_eq_none_iff] at hfind
    exact absurd (List.mem_map_of_mem h) hfind
  | some r' =>
    have := List.inj_on_of_nodup_map t.hrows (mem_of_find? hfind) h (key_of_find? hfind)
    rw [this]

theorem find?_eq_some_iff {t : Table key} {k : κ} {r : α}
    : t.find? k = some r ↔ r ∈ t.rows ∧ key r = k := by
  constructor
  . intro h
    exact ⟨mem_of_find? h, key_of_find? h⟩
  . rintro ⟨hmem, rfl⟩
    exact find?_of_mem hmem

theorem rows_insert {t : Table key} {r : α} (h : t.find? (key r) = none)
    : (t.insert r).rows = t.rows ++ [r] := by
  rw [find?_eq_none_iff] at h
  simp [insert, h]

theorem insert_of_find? {t : Table key} {r r' : α} (h : t.find? (key r) = some r')
    : t.insert r = t := by
  have : key r ∈ t.rows.map key := by
    rw [← key_of_find? h]
    apply List.mem_map_of_mem (mem_of_find? h)
  simp [insert, this]

theorem find?_insert (t : Table key) (r : α) (k : κ)
    : (t.insert r).find? k = (t.find? k).or (if key r = k then some r else none) := by
  cases h : t.find? (key r) with
  | none =>
    unfold find?
    rw [rows_insert h]
    simp [List.find?_append]
  | some r' =>
    rw [insert_of_find? h]
    split
    . next heq =>
      rw [← heq, h]
      rfl
    . simp

theorem find?_insert_self {t : Table key} {r : α} (h : t.find? (key r) = none)
    : (t.insert r).find? (key r) = some r := by
  simp [find?_insert, h]

theorem find?_insert_of_ne {t : Table key} {r : α} {k : κ} (h : key r ≠ k)
    : (t.insert r).find? k = t.find? k := by
  simp [find?_insert, h]

theorem rows_insert_insert {t : Table key} {r r' : α} (h : t.find? (key r) = none)
    (h' : t.find? (key r') = none) (hne : key r ≠ key r')
    : ((t.insert r).insert r').rows = t.rows ++ [r, r'] := by
  rw [rows_insert ((find?_insert_of_ne hne).trans h'), rows_insert h, List.append_assoc]
  rfl

variable {f : α → α} {hf : ∀ r, key (f r) = key r}

theorem find?_update (t : Table key) (k k' : κ)
    : (t.update k f hf).find? k' = if k = k' then (t.find? k').map f else t.find? k' := by
  unfold find? update
  rw [List.find?_map]
  have : ((fun r => decide (key r = k')) ∘ fun r => if key r = k then f r else r)
      = fun r => decide (key r = k') := by
    funext r
    dsimp
    split
    . rw [hf]
    . rfl
  rw [this]
  cases hfind : t.rows.find? (fun r => key r = k') with
  | none => simp
  | some r =>
    have : key r = k' := by simpa using List.find?_some hfind
    simp [this, eq_comm]
    split <;> rfl

theorem find?_update_self (t : Table key) (k : κ)
    : (t.update k f hf).find? k = (t.find? k).map f := by
  simp [find?_update]

theorem find?_update_of_ne {t : Table key} {k k' : κ} (h : k ≠ k')
    : (t.update k f hf).find? k' = t.find? k' := by
  simp [find?_update, h]

theorem update_update (t : Table key) (k : κ) {g : α → α} (hg : ∀ r, key (g r) = key r)
    : (t.update k f hf).update k g hg = t.update k (g ∘ f) (fun r => (hg (f r)).trans (hf r)) := by
  unfold update
  simp only [mk.injEq, List.map_map]
  apply List.map_congr_left
  intro r _
  by_cases heq : key r = k <;> simp [heq, hf]

theorem insert_update_self {t : Table key} {r : α} (h : t.find? (key r) = none)
    : (t.insert r).update (key r) f hf = t.insert (f r) := by
  have hfresh := find?_eq_none_iff.mp h
  have hrows : (t.rows ++ [r]).map (fun x => if key x = key r then f x else x) = t.rows ++ [f r] := by
    rw [List.map_append]
    congr 1
    . conv => rhs; rw [← List.map_id t.rows]
      apply List.map_congr_left
      intro x hx
      have : key x ≠ key r := by
        intro heq
        rw [← heq] at hfresh
        exact hfresh (List.mem_map_of_mem hx)
      simp [this]
    . simp
  simp only [update, rows_insert h]
  simp only [insert, hf, hfresh, ↓reduceDIte, hrows]

theorem mem_rows_update {t : Table key} {k : κ} {r' : α}
    : r' ∈ (t.update k f hf).rows ↔
      (∃ r ∈ t.rows, key r = k ∧ r' = f r) ∨ r' ∈ t.rows ∧ key r' ≠ k := by
  unfold update
  rw [List.mem_map]
  constructor
  . rintro ⟨r, hr, rfl⟩
    split
    . next heq => exact .inl ⟨r, hr, heq, rfl⟩
    . next hne => exact .inr ⟨hr, hne⟩
  . rintro (⟨r, hr, heq, rfl⟩ | ⟨hr, hne⟩)
    . exact ⟨r, hr, by rw [if_pos heq]⟩
    . exact ⟨r', hr, by rw [if_neg hne]⟩

section Columns

variable {β : Type} [DecidableEq β] {col : α → β}

theorem has_insert (t : Table key) (r : α) (v : β)
    : (t.insert r).has col v =
      (t.has col v || ((t.find? (key r)).isNone && decide (col r = v))) := by
  cases h : t.find? (key r) with
  | none => simp [has, rows_insert h]
  | some r' => simp [insert_of_find? h]

theorem nodup_map_insert {t : Table key} {r : α} (h : t.find? (key r) = none)
    (hnew : t.has col (col r) = false) (hnodup : (t.rows.map col).Nodup)
    : ((t.insert r).rows.map col).Nodup := by
  rw [rows_insert h, List.map_append, List.nodup_append]
  refine ⟨hnodup, by simp, ?_⟩
  intro v hv v' hv' heq
  rw [List.map_singleton, List.mem_singleton] at hv'
  rcases List.mem_map.mp hv with ⟨r', hr', rfl⟩
  exact has_eq_false_iff.mp hnew r' hr' (heq.trans hv')

omit [DecidableEq β] in
theorem map_update (t : Table key) (k : κ) (hcol : ∀ r, col (f r) = col r)
    : (t.update k f hf).rows.map col = t.rows.map col := by
  unfold update
  rw [List.map_map]
  apply List.map_congr_left
  intro r _
  dsimp
  split
  . rw [hcol]
  . rfl

theorem has_update (t : Table key) (k : κ) (v : β) (hcol : ∀ r, col (f r) = col r)
    : (t.update k f hf).has col v = t.has col v := by
  unfold has update
  rw [List.any_map]
  congr
  funext r
  dsimp
  split
  . rw [hcol]
  . rfl

end Columns

section Sum

variable {β : Type} [AddCommGroup β] (g : α → β)

theorem sum_update {t : Table key} {k : κ} {r : α} (h : t.find? k = some r)
    : ((t.update k f hf).rows.map g).sum = (t.rows.map g).sum + (g (f r) - g r) := by
  have hmem := mem_of_find? h
  have hkey := key_of_find? h
  rcases List.append_of_mem hmem with ⟨pre, post, hsplit⟩
  have hne : ∀ x, x ∈ pre ++ post → key x ≠ k := by
    have hnodup := t.hrows
    rw [hsplit, List.map_append, List.map_cons, List.nodup_middle, List.nodup_cons,
      ← List.map_append] at hnodup
    intro x hx heq
    apply hnodup.1
    rw [hkey, ← heq]
    apply List.mem_map_of_mem hx
  have hid : ∀ l : List α, (∀ x ∈ l, key x ≠ k) →
      l.map (fun x => if key x = k then f x else x) = l := by
    intro l hl
    conv => rhs; rw [← List.map_id l]
    apply List.map_congr_left
    intro x hx
    simp [hl x hx]
  have hpre := hid pre (fun x hx => hne x (by simp [hx]))
  have hpost := hid post (fun x hx => hne x (by simp [hx]))
  simp only [update, hsplit, List.map_append, List.map_cons, List.sum_append, List.sum_cons, hpre,
    hpost, hkey, ↓reduceIte]
  abel

end Sum

end Table
