import BankingApi.Payment.Idempotency

/-!
This module contains the payments with what becomes of them afterwards: `verifyPayment` of
`payment.service.js`, and the jobs of `payment.worker.js`.
-/

namespace Banking

open PaymentRepository PaymentService

/--
What `POST /payments/verify` and `POST /webhooks/gateway` pass on. A reference that is no string is
`none`, as is an absent response.
-/
structure VerifyRequest where
  paymentRef : Option String
  gatewayResponse : Option Json

structure Verdict where
  payment : Payment
  gatewayResponse : Json
  status : PaymentStatus
  updatedPayment : Payment
  deriving DecidableEq

inductive Verification where
  | ready
  | found (payment : Payment)
  | updated (v : Verdict)
  | written (v : Verdict)
  | finished (outcome : Except Failure Payment)
  | crashed
  deriving DecidableEq

structure PaymentVerified where
  paymentRef : String
  status : PaymentStatus

structure Settlement (ι κ : Type) where
  payments : PaymentSystem ι
  verifications : κ → Verification
  webhooks : List PaymentVerified

inductive SettlementEvent (ι κ : Type) where
  | payment (ev : PaymentEvent ι)
  | verify (k : κ) (fate : Fate)
  | crash (k : κ)
  -- A worker runs the job at this place of the queue, for the first time or again.
  | job (n : ℕ) (fate : Fate)

namespace Settlement

variable {ι κ : Type}

def initial (users : Table User.id) : Settlement ι κ where
  payments := .initial users
  verifications := fun _ => .ready
  webhooks := []

def store (m : Settlement ι κ) : Store :=
  m.payments.store

def setStore (m : Settlement ι κ) (s : Store) : Settlement ι κ :=
  { m with payments := { m.payments with store := s } }

variable [DecidableEq ι] [DecidableEq κ]

def move (m : Settlement ι κ) (k : κ) (verification : Verification) : Settlement ι κ :=
  { m with verifications := Function.update m.verifications k verification }

-- paymentRepository.findByReference(paymentRef)
def find (m : Settlement ι κ) (k : κ) (paymentRef : Option String) (fate : Fate)
    : Settlement ι κ :=
  match fate, paymentRef with
  | .done, none => m.move k (.finished (.error .invalid))
  | .done, some paymentRef =>
    match findByReference m.store paymentRef with
    | none => m.move k (.finished (.error (.app (NotFoundError "Payment not found"))))
    | some payment => m.move k (.found payment)
  | _, _ => m.move k (.finished (.error .connection))

-- paymentRepository.updateStatus(payment.id, status)
def update (m : Settlement ι κ) (k : κ) (payment : Payment) (gatewayResponse : Option Json)
    (fate : Fate)
    : Settlement ι κ :=
  match verdict gatewayResponse with
  | .error e => m.move k (.finished (.error e))
  | .ok (response, status) =>
    match fate, updateStatus m.store payment.id status with
    | .done, .ok (updatedPayment, s) =>
      (m.setStore s).move k (.updated ⟨payment, response, status, updatedPayment⟩)
    | .done, .error e => m.move k (.finished (.error e))
    | .lost, .ok (_, s) => (m.setStore s).move k (.finished (.error .connection))
    | _, _ => m.move k (.finished (.error .connection))

-- paymentRepository.updateGatewayResponse(payment.id, gatewayResponse)
def write (m : Settlement ι κ) (k : κ) (v : Verdict) (fate : Fate) : Settlement ι κ :=
  match fate, updateGatewayResponse m.store v.payment.id v.gatewayResponse with
  | .done, .ok (_, s) => (m.setStore s).move k (.written v)
  | .done, .error e => m.move k (.finished (.error e))
  | .lost, .ok (_, s) => (m.setStore s).move k (.finished (.error .connection))
  | _, _ => m.move k (.finished (.error .connection))

-- if (status === "SUCCESS") eventService.publishWebhookEvent("PAYMENT_VERIFIED", ..)
def publish (m : Settlement ι κ) (k : κ) (v : Verdict) (fate : Fate) : Settlement ι κ :=
  if v.status = .SUCCESS then
    let event := { paymentRef := v.payment.paymentRef, status := v.status }
    match fate with
    | .done => { m.move k (.finished (.ok v.updatedPayment)) with webhooks := m.webhooks ++ [event] }
    | .lost => { m.move k (.finished (.error .connection)) with webhooks := m.webhooks ++ [event] }
    | .failed => m.move k (.finished (.error .connection))
  else
    m.move k (.finished (.ok v.updatedPayment))

def verifyPayment (request : VerifyRequest) (m : Settlement ι κ) (k : κ) (fate : Fate)
    : Settlement ι κ :=
  match m.verifications k with
  | .ready => m.find k request.paymentRef fate
  | .found payment => m.update k payment request.gatewayResponse fate
  | .updated v => m.write k v fate
  | .written v => m.publish k v fate
  | .finished _ => m
  | .crashed => m

-- paymentRepository.updateStatus(paymentId, "SUCCESS")
def paymentWorker (m : Settlement ι κ) (n : ℕ) (fate : Fate) : Settlement ι κ :=
  match m.payments.queue[n]?, fate with
  | none, _ => m
  | some _, .failed => m
  | some job, _ =>
    match updateStatus m.store job.paymentId .SUCCESS with
    | .ok (_, s) => m.setStore s
    | .error _ => m

def step (requests : ι → PaymentRequest) (verifies : κ → VerifyRequest) (m : Settlement ι κ)
    (ev : SettlementEvent ι κ)
    : Settlement ι κ :=
  match ev with
  | .payment ev => { m with payments := m.payments.step requests ev }
  | .verify k fate => m.verifyPayment (verifies k) k fate
  | .crash k =>
    match m.verifications k with
    | .finished _ => m
    | _ => m.move k .crashed
  | .job n fate => m.paymentWorker n fate

-- The payment whose status an event sets, and what it is set to.
def verdict? (verifies : κ → VerifyRequest) (m : Settlement ι κ) (ev : SettlementEvent ι κ)
    : Option (String × PaymentStatus) :=
  let asked :=
    match ev with
    | .verify k fate =>
      match m.verifications k, verdict (verifies k).gatewayResponse, fate with
      | .found _, .ok _, .failed => none
      | .found payment, .ok (_, status), _ => some (payment.id, status)
      | _, _, _ => none
    | .job n fate =>
      match m.payments.queue[n]?, fate with
      | some _, .failed => none
      | some job, _ => some (job.paymentId, .SUCCESS)
      | none, _ => none
    | _ => none
  asked.filter (fun v => (m.store.payments.find? v.1).isSome)

def status? (m : Settlement ι κ) (id : String) : Option PaymentStatus :=
  (m.store.payments.find? id).map Payment.status

section Inversion

variable {requests : ι → PaymentRequest} {verifies : κ → VerifyRequest} {m : Settlement ι κ}

inductive Changed (requests : ι → PaymentRequest) (verifies : κ → VerifyRequest)
    (m : Settlement ι κ) (ev : SettlementEvent ι κ)
    : Store → Prop where
  | kept (h : m.verdict? verifies ev = none) : Changed requests verifies m ev m.store
  | status {id status} (h : m.verdict? verifies ev = some (id, status))
    : Changed requests verifies m ev
        { m.store with
          payments := m.store.payments.update id ({ · with status := status }) (fun _ => rfl) }
  | response {id response} (h : m.verdict? verifies ev = none)
    : Changed requests verifies m ev
        { m.store with
          payments :=
            m.store.payments.update id ({ · with gatewayResponse := some response }) (fun _ => rfl) }
  | payment {ev'} (hev : ev = .payment ev')
    : Changed requests verifies m ev (m.payments.step requests ev').store

theorem changed_verify (k : κ) (fate : Fate)
    : Changed requests verifies m (.verify k fate) (m.verifyPayment (verifies k) k fate).store := by
  unfold verifyPayment
  split
  . next hk =>
    have hnone : m.verdict? verifies (.verify k fate) = none := by simp [verdict?, hk]
    unfold find
    repeat' split
    all_goals exact .kept hnone
  . next payment hk =>
    unfold update
    split
    . next e hv =>
      exact .kept (by simp [verdict?, hk, hv])
    . next response status hv =>
      unfold updateStatus PaymentRepository.update
      cases hp : m.store.payments.find? payment.id with
      | none =>
        have hnone : m.verdict? verifies (.verify k fate) = none := by
          cases fate <;> simp [verdict?, hk, hv, hp]
        cases fate <;> exact .kept hnone
      | some row =>
        cases fate with
        | failed => exact .kept (by simp [verdict?, hk, hv])
        | _ => exact .status (by simp [verdict?, hk, hv, hp])
  . next v hk =>
    have hnone : m.verdict? verifies (.verify k fate) = none := by simp [verdict?, hk]
    unfold write updateGatewayResponse PaymentRepository.update
    cases hp : m.store.payments.find? v.payment.id with
    | none => cases fate <;> exact .kept hnone
    | some row =>
      cases fate with
      | failed => exact .kept hnone
      | _ => exact .response hnone
  . next v hk =>
    have hnone : m.verdict? verifies (.verify k fate) = none := by simp [verdict?, hk]
    unfold publish
    repeat' split
    all_goals exact .kept hnone
  . next hk => exact .kept (by simp [verdict?, hk])
  . next hk => exact .kept (by simp [verdict?, hk])

omit [DecidableEq κ] in
theorem changed_job (n : ℕ) (fate : Fate)
    : Changed requests verifies m (.job n fate) (m.paymentWorker n fate).store := by
  unfold paymentWorker
  cases hn : m.payments.queue[n]? with
  | none => exact .kept (by simp [verdict?, hn])
  | some job =>
    unfold updateStatus PaymentRepository.update
    cases hp : m.store.payments.find? job.paymentId with
    | none =>
      have hnone : m.verdict? verifies (.job n fate) = none := by
        cases fate <;> simp [verdict?, hn, hp]
      cases fate <;> simp only [hp] <;> exact .kept hnone
    | some row =>
      have hsome : fate ≠ .failed →
          m.verdict? verifies (.job n fate) = some (job.paymentId, .SUCCESS) := by
        cases fate <;> simp [verdict?, hn, hp]
      cases fate with
      | failed => exact .kept (by simp [verdict?, hn])
      | _ =>
        simp only [hp]
        exact .status (hsome (by simp))

theorem step_cases (ev : SettlementEvent ι κ)
    : Changed requests verifies m ev (m.step requests verifies ev).store := by
  cases ev with
  | payment ev => exact .payment rfl
  | verify k fate => exact changed_verify k fate
  | crash k =>
    unfold step
    dsimp only
    split <;> exact .kept rfl
  | job n fate => exact changed_job n fate

omit [DecidableEq ι] [DecidableEq κ] in
theorem find?_of_verdict {ev : SettlementEvent ι κ} {id : String} {status : PaymentStatus}
    (h : m.verdict? verifies ev = some (id, status))
    : ∃ p, m.store.payments.find? id = some p := by
  have := (Option.filter_eq_some_iff.mp h).2
  exact Option.isSome_iff_exists.mp this

end Inversion

end Settlement

theorem Effect.payments {s s' : Store} {c : Call} {reply : Reply} (h : Effect s c reply s')
    : s'.payments = s.payments
        ∨ ∃ p, p.status = .INITIATED ∧ s.payments.find? p.id = none
          ∧ s'.payments = s.payments.insert p := by
  cases h with
  | processPayment _ _ _ _ hp => exact .inr ⟨_, hp.status_eq, hp.fresh, rfl⟩
  | _ => exact .inl rfl

theorem PaymentSystem.step_relates {ι : Type} [DecidableEq ι] {requests : ι → PaymentRequest}
    {R : Store → Store → Prop} (hrefl : ∀ s, R s s)
    (hwallet : ∀ s w, s.wallets.find? w.id = none → R s (s.addWallet w))
    (heffect : ∀ s c reply s', Effect s c reply s' → R s s') (m : PaymentSystem ι)
    (ev : PaymentEvent ι)
    : R m.store (m.step requests ev).store := by
  have hstep := step_cases requests m ev
  generalize step requests m ev = m' at *
  cases hstep with
  | kept h =>
    rw [h.store]
    apply hrefl
  | commit _ h =>
    rcases effect_of_block h.run with ⟨_, _, _, _, _, _, heff⟩
    exact heffect _ _ _ _ heff
  | @database e =>
    have hstep := Banking.step_cases m.store e
    dsimp only
    generalize Banking.step m.store e = s' at *
    cases hstep with
    | rollback => apply hrefl
    | wallet _ _ hfresh => exact hwallet _ _ hfresh
    | call _ _ heff => exact heffect _ _ _ _ heff

namespace Settlement

variable {ι κ : Type} [DecidableEq ι] [DecidableEq κ] {requests : ι → PaymentRequest}
  {verifies : κ → VerifyRequest}

theorem status?_step (m : Settlement ι κ) (ev : SettlementEvent ι κ) (id : String)
    : (∃ status, m.verdict? verifies ev = some (id, status)
          ∧ (m.step requests verifies ev).status? id = some status)
        ∨ (∀ status, m.verdict? verifies ev ≠ some (id, status))
          ∧ ((m.step requests verifies ev).status? id = m.status? id
            ∨ m.status? id = none
              ∧ (m.step requests verifies ev).status? id = some .INITIATED) := by
  unfold status?
  have hstep : Changed requests verifies m ev (m.step requests verifies ev).store := step_cases ev
  generalize (m.step requests verifies ev).store = s' at *
  cases hstep with
  | kept h => exact .inr ⟨by simp [h], .inl rfl⟩
  | @status id' status h =>
    rw [Table.find?_update]
    split
    . next heq =>
      subst heq
      rcases find?_of_verdict h with ⟨p, hp⟩
      exact .inl ⟨status, h, by simp [hp]⟩
    . next hne =>
      exact .inr ⟨by simp [h, hne], .inl rfl⟩
  | response h =>
    refine .inr ⟨by simp [h], .inl ?_⟩
    rw [Table.find?_update]
    split
    . rw [Option.map_map]
      rfl
    . rfl
  | payment hev =>
    subst hev
    refine .inr ⟨by simp [verdict?], ?_⟩
    have hpayments := @PaymentSystem.step_relates ι _ requests
      (fun s s' => s'.payments = s.payments
        ∨ ∃ p, p.status = .INITIATED ∧ s.payments.find? p.id = none
          ∧ s'.payments = s.payments.insert p)
      (fun _ => .inl rfl) (fun _ _ _ => .inl rfl) (fun _ _ _ _ heff => heff.payments) m.payments
    rcases hpayments _ with hsame | ⟨p, hinit, hfresh, hinsert⟩
    . left
      rw [hsame]
      rfl
    . rw [hinsert, Table.find?_insert]
      by_cases heq : p.id = id
      . subst heq
        right
        refine ⟨?_, by simp [hfresh, hinit]⟩
        change (m.payments.store.payments.find? p.id).map _ = none
        rw [hfresh]
        rfl
      . left
        simp [heq]
        rfl

theorem status?_of_verdict {m : Settlement ι κ} {ev : SettlementEvent ι κ} {id : String}
    {status : PaymentStatus} (h : m.verdict? verifies ev = some (id, status))
    : (m.step requests verifies ev).status? id = some status := by
  rcases @status?_step ι κ _ _ requests verifies m ev id with ⟨status', h', hstatus⟩ | ⟨hnone, _⟩
  . cases h.symm.trans h'
    exact hstatus
  . exact absurd h (hnone status)

omit [DecidableEq ι] [DecidableEq κ] in
theorem final_of_verdict {m : Settlement ι κ} {ev : SettlementEvent ι κ} {id : String}
    {status : PaymentStatus} (h : m.verdict? verifies ev = some (id, status))
    : status = .SUCCESS ∨ status = .FAILED := by
  have hverdict : ∀ {response : Option Json} {j : Json} {status : PaymentStatus},
      verdict response = .ok (j, status) → status = .SUCCESS ∨ status = .FAILED := by
    intro response j status h
    unfold verdict at h
    split at h
    . cases h
    . cases h
    . cases h
      split <;> simp
  have hasked := (Option.filter_eq_some_iff.mp h).1
  cases ev with
  | verify k fate => grind
  | job n fate => grind
  | _ => cases hasked

end Settlement

end Banking
