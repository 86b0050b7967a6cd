import BankingApi.Payment.Idempotency

/-!
This module contains whose payments the calls return.
-/

namespace Banking

def Agrees (request request' : PaymentRequest) : Prop :=
  request.createdBy = request'.createdBy
    ∧ request.storedAmount = request'.storedAmount
    ∧ request.method = request'.method
    ∧ request.receiverWalletId = request'.receiverWalletId

theorem Matches.agrees {request request' : PaymentRequest} {p : Payment} {s : Store}
    (h : Matches request p s) (h' : Matches request' p s)
    : Agrees request request' := by
  rcases h with ⟨hamount, hmethod, t, ht, hcreatedBy, hreceiver, _⟩
  rcases h' with ⟨hamount', hmethod', t', ht', hcreatedBy', hreceiver', _⟩
  rw [ht, Option.some.injEq] at ht'
  subst ht'
  exact ⟨hcreatedBy.symm.trans hcreatedBy', hamount.trans hamount'.symm,
    hmethod.trans hmethod'.symm, hreceiver.symm.trans hreceiver'⟩

theorem Matches.of_agrees {request request' : PaymentRequest} {p : Payment} {s : Store}
    (h : Matches request' p s) (hagrees : Agrees request request')
    : Matches request p s := by
  rcases h with ⟨hamount, hmethod, t, ht, hcreatedBy, hreceiver, hrest⟩
  rcases hagrees with ⟨h₁, h₂, h₃, h₄⟩
  exact ⟨h₂.trans hamount, h₃.trans hmethod, t, ht, hcreatedBy.trans h₁.symm,
    hreceiver.trans h₄.symm, hrest⟩

theorem Matches.createdBy_eq {request : PaymentRequest} {p : Payment} {s : Store}
    (h : Matches request p s)
    : (s.transactions.find? p.transactionId).map Transaction.createdBy = some request.createdBy := by
  rcases h with ⟨_, _, t, ht, hcreatedBy, _⟩
  simp [ht, hcreatedBy]

namespace PaymentSystem

variable {ι : Type} {requests : ι → PaymentRequest} {m : PaymentSystem ι} {ev : PaymentEvent ι}

def ReturnsOwn (requests : ι → PaymentRequest) (m : PaymentSystem ι) : Prop :=
  ∀ i p, m.stages i = .finished (.ok p) → Matches (requests i) p m.store

/--
A call that finds a response in the cache asks for the same as the call that has paid.
-/
def HitsAgree (requests : ι → PaymentRequest) (m : PaymentSystem ι) (ev : PaymentEvent ι) : Prop :=
  ∀ i j p, Hits requests m ev i p → (j, p) ∈ m.committed → Agrees (requests i) (requests j)

variable [DecidableEq ι]

theorem Hits.finished {i : ι} {p : Payment} (h : Hits requests m ev i p)
    : (step requests m ev).stages i = .finished (.ok p) := by
  rcases h with ⟨rfl, hi, key, expires, hkey, hcache⟩
  simp [step, processPayment, lookup, hkey, hi, hcache, move]

theorem returnsOwn_step_iff (m : PaymentSystem ι) (ev : PaymentEvent ι) (h : Inv requests m)
    (hown : ReturnsOwn requests m)
    : ReturnsOwn requests (step requests m ev) ↔ HitsAgree requests m ev := by
  have hgrows := step_grows requests m ev
  constructor
  . intro hown' i j p hhits hj
    exact (hown' i p hhits.finished).agrees ((h.made j p hj).matches_request.grows hgrows)
  . intro hagree
    have hstep := step_cases requests m ev
    generalize step requests m ev = m' at *
    intro i p hi
    cases hstep with
    | kept hkept =>
      rcases hkept.finished i p hi with hi | hi | hhits
      . exact (hown i p hi).grows hgrows
      . exact (h.made i p (h.carried i p hi)).matches_request.grows hgrows
      . have ⟨_, _, key, expires, _, hcache⟩ := hhits
        rcases (h.cached key p expires hcache).2 with ⟨j, hj⟩
        have hmatches := (h.made j p hj).matches_request.grows hgrows
        exact hmatches.of_agrees (hagree i j p hhits hj)
    | commit _ hcommit => exact (hown i p (hcommit.finished i p hi)).grows hgrows
    | database => exact (hown i p hi).grows hgrows

theorem returns_own_iff_hits_agree (requests : ι → PaymentRequest) (users : Table User.id)
    (es : List (PaymentEvent ι))
    : (∀ pre, pre <+: es → ReturnsOwn requests (Run.run (step requests) (initial users) pre)) ↔
      Run.Along (step requests) (HitsAgree requests) (initial users) es := by
  apply Run.forall_prefix_iff_along inv_step returnsOwn_step_iff es
  . exact inv_initial requests users
  . intro i p hi
    cases hi

end PaymentSystem

def sameKey (i : Bool) : PaymentRequest :=
  if i then samplePayment "bob" "3" else samplePayment "alice" "2"

theorem same_key_returns_foreign_payment
    : ¬PaymentSystem.ReturnsOwn sameKey
        (Run.run (PaymentSystem.step sameKey) (.initial sampleUsers)
          (sampleRun false ++ [.advance true .done])) := by
  intro h
  have hbob := (h true samplePaid (by decide +kernel)).createdBy_eq
  revert hbob
  decide +kernel

end Banking
