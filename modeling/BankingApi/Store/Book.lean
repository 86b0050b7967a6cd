import Mathlib.Algebra.BigOperators.Group.Finset.Basic
import Mathlib.Algebra.Order.Group.Abs
import Mathlib.Tactic

/-!
This module contains books: the balances of accounts, and the postings that have made them. A posting
states the balance that it leaves, which may be off by a rounding.
-/

structure Posting (κ K : Type) where
  account : κ
  amount : K
  after : K

structure Book (κ K : Type) where
  balance : κ → K
  postings : List (Posting κ K)

namespace Book

variable {κ K : Type}

theorem ext {b b' : Book κ K} (hbalance : b.balance = b'.balance)
    (hpostings : b.postings = b'.postings)
    : b = b' := by
  cases b
  cases b'
  cases hbalance
  cases hpostings
  rfl

variable [DecidableEq κ]

def of (b : Book κ K) (k : κ) : List (Posting κ K) :=
  b.postings.filter (·.account = k)

def post (b : Book κ K) (p : Posting κ K) : Book κ K where
  balance := Function.update b.balance p.account p.after
  postings := b.postings ++ [p]

theorem postings_post (b : Book κ K) (p : Posting κ K)
    : (b.post p).postings = b.postings ++ [p] := rfl

theorem balance_post_self (b : Book κ K) (p : Posting κ K)
    : (b.post p).balance p.account = p.after := by
  apply Function.update_self

theorem balance_post_of_ne (b : Book κ K) {p : Posting κ K} {k : κ} (h : p.account ≠ k)
    : (b.post p).balance k = b.balance k := by
  apply Function.update_of_ne h.symm

theorem of_post_self (b : Book κ K) (p : Posting κ K)
    : (b.post p).of p.account = b.of p.account ++ [p] := by
  simp [of, post]

theorem of_post_of_ne (b : Book κ K) {p : Posting κ K} {k : κ} (h : p.account ≠ k)
    : (b.post p).of k = b.of k := by
  simp [of, post, h]

variable [AddCommGroup K] [LinearOrder K]

def initial : Book κ K where
  balance := fun _ => 0
  postings := []

-- The balance that the posting leaves is off by no more than `ε`.
def Fair (ε : K) (b : Book κ K) (p : Posting κ K) : Prop :=
  |p.after - (b.balance p.account + p.amount)| ≤ ε

/--
`b'` is made of `b` by fair postings.
-/
inductive Posts (ε : K) (b : Book κ K) : Book κ K → Prop where
  | refl : Posts ε b b
  | post {b' p} (h : Posts ε b b') (hp : b'.Fair ε p) : Posts ε b (b'.post p)

variable {ε : K} {b b' b'' : Book κ K}

theorem Posts.trans (h : Posts ε b b') (h' : Posts ε b' b'') : Posts ε b b'' := by
  induction h' with
  | refl => exact h
  | post _ hp ih => exact ih.post hp

theorem Posts.single {p : Posting κ K} (hp : b.Fair ε p) : Posts ε b (b.post p) :=
  Posts.refl.post hp

theorem Posts.balance_eq_last (h : Posts ε initial b) (k : κ)
    : b.balance k = ((b.of k).getLast?.map Posting.after).getD 0 := by
  induction h with
  | refl => rfl
  | @post b' p _ _ ih =>
    by_cases hk : p.account = k
    . subst hk
      rw [balance_post_self, of_post_self, List.getLast?_concat]
      rfl
    . rw [balance_post_of_ne _ hk, of_post_of_ne _ hk, ih]

variable [IsOrderedAddMonoid K]

-- One posting more is one error more.
theorem abs_sub_le_of_fair {x d balance sum : K} {n : ℕ} (hfair : |x - (balance + d)| ≤ ε)
    (h : |balance - sum| ≤ n • ε)
    : |x - (sum + d)| ≤ (n + 1) • ε := by
  have hsplit : x - (sum + d) = x - (balance + d) + (balance - sum) := by abel
  calc |x - (sum + d)|
    _ = |x - (balance + d) + (balance - sum)| := by rw [hsplit]
    _ ≤ |x - (balance + d)| + |balance - sum| := abs_add_le _ _
    _ ≤ ε + n • ε := add_le_add hfair h
    _ = (n + 1) • ε := by rw [add_comm, succ_nsmul]

theorem Posts.abs_balance_sub_sum_le (h : Posts ε initial b) (k : κ)
    : |b.balance k - ((b.of k).map Posting.amount).sum| ≤ (b.of k).length • ε := by
  induction h with
  | refl => simp [initial, of]
  | @post b' p _ hp ih =>
    by_cases hk : p.account = k
    . subst hk
      rw [balance_post_self, of_post_self, List.map_append, List.sum_append, List.map_singleton,
        List.sum_singleton, List.length_append, List.length_singleton]
      exact abs_sub_le_of_fair hp ih
    . rw [balance_post_of_ne _ hk, of_post_of_ne _ hk]
      exact ih

omit [LinearOrder K] [IsOrderedAddMonoid K] in
theorem sum_balance_post {keys : Finset κ} {p : Posting κ K} (h : p.account ∈ keys)
    : ∑ k ∈ keys, (b.post p).balance k =
      p.after + ∑ k ∈ keys \ {p.account}, b.balance k := by
  unfold post
  apply Finset.sum_update_of_mem h

theorem Posts.abs_total_sub_sum_le {keys : Finset κ} (h : Posts ε initial b)
    (hkeys : ∀ p ∈ b.postings, p.account ∈ keys)
    : |∑ k ∈ keys, b.balance k - (b.postings.map Posting.amount).sum| ≤ b.postings.length • ε := by
  induction h with
  | refl => simp [initial]
  | @post b' p _ hp ih =>
    rw [postings_post, List.forall_mem_append] at hkeys
    have hmem : p.account ∈ keys := hkeys.2 p (List.mem_singleton_self p)
    have hih := ih hkeys.1
    rw [Finset.sum_eq_add_sum_sdiff_singleton_of_mem hmem] at hih
    rw [sum_balance_post hmem]
    rw [postings_post, List.map_append, List.sum_append, List.map_singleton, List.sum_singleton,
      List.length_append, List.length_singleton]
    apply abs_sub_le_of_fair _ hih
    unfold Fair at hp
    convert hp using 2
    abel

end Book
