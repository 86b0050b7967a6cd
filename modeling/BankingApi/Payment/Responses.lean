import BankingApi.Payment.Settlement

/-!
This module contains the responses of the gateway as they are stored, and how the status of a payment
agrees with them.
-/

namespace Banking

-- gatewayResponse.success === true
def succeeded (gatewayResponse : Option Json) : Bool :=
  Json.get gatewayResponse "success" = some (.boolean true)

/--
Who sets the status of a payment: a call of `verifyPayment`, or the worker.
-/
inductive Updater (κ : Type) where
  | call (k : κ)
  | worker
  deriving DecidableEq

-- The worker sets SUCCESS, whatever the gateway has said.
def Updater.accepts {κ : Type} (verifies : κ → VerifyRequest) (updater : Updater κ) : Bool :=
  match updater with
  | .call k => (Json.get (verifies k).gatewayResponse "success").any Json.truthy
  | .worker => true

def Verification.payment? (verification : Verification) : Option Payment :=
  match verification with
  | .found payment => some payment
  | .updated v => some v.payment
  | .written v => some v.payment
  | _ => none

theorem Effect.find?_payments {s s' : Store} {c : Call} {reply : Reply} {id : String}
    (h : Effect s c reply s') (hid : (s.payments.find? id).isSome)
    : s'.payments.find? id = s.payments.find? id := by
  rcases h.payments with hsame | ⟨p, _, hfresh, hinsert⟩
  . rw [hsame]
  . rw [hinsert, Table.find?_insert]
    have hne : p.id ≠ id := by
      rintro rfl
      simp [hfresh] at hid
    simp [hne]

namespace Settlement

variable {ι κ : Type}

def response? (m : Settlement ι κ) (id : String) : Option Json :=
  (m.store.payments.find? id).bind Payment.gatewayResponse

/--
No call is in progress on the payment.
-/
def Quiet (id : String) (m : Settlement ι κ) : Prop :=
  ∀ k payment, (m.verifications k).payment? = some payment → payment.id ≠ id

def ResponseMatches (id : String) (m : Settlement ι κ) : Prop :=
  m.status? id = some (if succeeded (m.response? id) then .SUCCESS else .FAILED)

-- whose `updateStatus` reaches the payment in a step
def updater? (verifies : κ → VerifyRequest) (id : String) (m : Settlement ι κ)
    (ev : SettlementEvent ι κ)
    : Option (Updater κ) :=
  match m.verdict? verifies ev, ev with
  | some (id', _), .verify k _ => if id' = id then some (.call k) else none
  | some (id', _), .job _ _ => if id' = id then some .worker else none
  | _, _ => none

-- whose `updateGatewayResponse` reaches the payment in a step
def writer? (id : String) (m : Settlement ι κ) (ev : SettlementEvent ι κ) : Option κ :=
  match ev with
  | .verify k fate =>
    match m.verifications k, fate with
    | .updated _, .failed => none
    | .updated v, _ => if v.payment.id = id then some k else none
    | _, _ => none
  | _ => none

variable [DecidableEq ι] [DecidableEq κ] {requests : ι → PaymentRequest}
  {verifies : κ → VerifyRequest} {m : Settlement ι κ} {ev : SettlementEvent ι κ} {id : String}

section Steps

theorem eq_of_verdict {gatewayResponse : Option Json} {response : Json} {status : PaymentStatus}
    (h : PaymentService.verdict gatewayResponse = .ok (response, status))
    : gatewayResponse = some response
        ∧ status = if (Json.get gatewayResponse "success").any Json.truthy then .SUCCESS
          else .FAILED := by
  unfold PaymentService.verdict at h
  split at h
  . cases h
  . cases h
  . cases h
    exact ⟨rfl, rfl⟩

omit [DecidableEq ι] [DecidableEq κ] in
theorem updater?_of_verdict {status : PaymentStatus} (h : m.verdict? verifies ev = some (id, status))
    : ∃ updater, updater? verifies id m ev = some updater
        ∧ status = if updater.accepts verifies then .SUCCESS else .FAILED := by
  have hasked := (Option.filter_eq_some_iff.mp h).1
  cases ev with
  | verify k fate =>
    refine ⟨.call k, by simp [updater?, h], ?_⟩
    unfold Updater.accepts
    have hverdict : ∀ {response}, PaymentService.verdict (verifies k).gatewayResponse =
        .ok (response, status) →
        status = if (Json.get (verifies k).gatewayResponse "success").any Json.truthy then .SUCCESS
          else .FAILED :=
      fun h => (eq_of_verdict h).2
    grind
  | job n fate =>
    refine ⟨.worker, by simp [updater?, h], ?_⟩
    unfold Updater.accepts
    grind
  | _ => cases hasked

omit [DecidableEq ι] [DecidableEq κ] in
theorem updater?_eq_none (h : ∀ status, m.verdict? verifies ev ≠ some (id, status))
    : updater? verifies id m ev = none := by
  unfold updater?
  split <;> grind

def ResponsesKept (verifies : κ → VerifyRequest) (id : String) (m : Settlement ι κ) : Prop :=
  ∀ k v, m.verifications k = .updated v → v.payment.id = id →
    (verifies k).gatewayResponse = some v.gatewayResponse

theorem response?_update {payments : Table Payment.id} {id' : String} {f : Payment → Payment}
    (hf : ∀ p, (f p).id = p.id) (hresponse : ∀ p, (f p).gatewayResponse = p.gatewayResponse)
    : ((payments.update id' f hf).find? id).bind Payment.gatewayResponse =
        (payments.find? id).bind Payment.gatewayResponse := by
  rw [Table.find?_update]
  split
  . cases payments.find? id with
    | none => rfl
    | some p => exact hresponse p
  . rfl

theorem response?_update_self {payments : Table Payment.id} {response : Json}
    (h : (payments.find? id).isSome)
    : ((payments.update id ({ · with gatewayResponse := some response }) (fun _ => rfl)).find?
          id).bind Payment.gatewayResponse =
        some response := by
  rcases Option.isSome_iff_exists.mp h with ⟨p, hp⟩
  rw [Table.find?_update, if_pos rfl, hp]
  rfl

theorem response?_updateStatus {s s' : Store} {id' : String} {status : PaymentStatus} {p : Payment}
    (h : PaymentRepository.updateStatus s id' status = .ok (p, s'))
    : (s'.payments.find? id).bind Payment.gatewayResponse =
        (s.payments.find? id).bind Payment.gatewayResponse := by
  unfold PaymentRepository.updateStatus PaymentRepository.update at h
  split at h
  . cases h
  . cases h
    apply response?_update
    . intro p
      rfl
    . intro p
      rfl

omit [DecidableEq ι] in
theorem response?_verify_of_ne {k : κ} {fate : Fate} {request : VerifyRequest}
    (hk : ∀ v, m.verifications k ≠ .updated v)
    : (m.verifyPayment request k fate).response? id = m.response? id := by
  unfold verifyPayment
  split
  . unfold find
    repeat' split
    all_goals rfl
  . unfold update
    split
    . rfl
    . split
      . next h => exact response?_updateStatus h
      . rfl
      . next h => exact response?_updateStatus h
      . rfl
  . next v hv => exact absurd hv (hk v)
  . unfold publish
    repeat' split
    all_goals rfl
  . rfl
  . rfl

omit [DecidableEq ι] in
theorem response?_write {k : κ} {v : Verdict} {fate : Fate}
    (hid : (m.store.payments.find? id).isSome)
    : (m.write k v fate).response? id =
        if fate ≠ .failed ∧ v.payment.id = id then some v.gatewayResponse else m.response? id := by
  unfold write PaymentRepository.updateGatewayResponse PaymentRepository.update
  by_cases heq : v.payment.id = id
  . subst heq
    rcases Option.isSome_iff_exists.mp hid with ⟨p, hp⟩
    rw [hp]
    cases fate with
    | failed => rfl
    | _ =>
      rw [if_pos ⟨by simp, rfl⟩]
      exact response?_update_self hid
  . rw [if_neg (by simp [heq])]
    have hother : ((m.store.payments.update v.payment.id
        ({ · with gatewayResponse := some v.gatewayResponse }) (fun _ => rfl)).find? id).bind
          Payment.gatewayResponse = m.response? id := by
      rw [Table.find?_update, if_neg heq]
      rfl
    cases hp : m.store.payments.find? v.payment.id with
    | none => cases fate <;> rfl
    | some row =>
      cases fate with
      | failed => rfl
      | _ => exact hother

theorem response?_step (requests : ι → PaymentRequest) (hm : ResponsesKept verifies id m)
    (hid : (m.store.payments.find? id).isSome)
    : (m.step requests verifies ev).response? id =
        (writer? id m ev).elim (m.response? id) (fun k => (verifies k).gatewayResponse) := by
  cases ev with
  | payment ev =>
    have hkeep := @PaymentSystem.step_relates ι _ requests
      (fun s s' => (s.payments.find? id).isSome → s'.payments.find? id = s.payments.find? id)
      (fun _ _ => rfl) (fun _ _ _ _ => rfl) (fun _ _ _ _ heff => heff.find?_payments) m.payments ev hid
    exact congrArg (Option.bind · Payment.gatewayResponse) hkeep
  | verify k fate =>
    by_cases hk : ∃ v, m.verifications k = .updated v
    . rcases hk with ⟨v, hk⟩
      have hstep : m.step requests verifies (.verify k fate) = m.write k v fate := by
        simp [step, verifyPayment, hk]
      have hwriter : writer? id m (.verify k fate) =
          if fate ≠ .failed ∧ v.payment.id = id then some k else none := by
        cases fate <;> simp [writer?, hk]
      rw [hstep, response?_write hid, hwriter]
      split
      . next h => exact (hm k v hk h.2).symm
      . rfl
    . have hwriter : writer? id m (.verify k fate) = none := by
        unfold writer?
        grind
      rw [hwriter]
      exact response?_verify_of_ne (fun v hv => hk ⟨v, hv⟩)
  | crash k =>
    unfold step
    dsimp only
    split <;> rfl
  | job n fate =>
    change (m.paymentWorker n fate).response? id = m.response? id
    unfold paymentWorker
    split
    . rfl
    . rfl
    . split
      . next h => exact response?_updateStatus h
      . rfl

theorem status?_step_elim (requests : ι → PaymentRequest) (hid : (m.store.payments.find? id).isSome)
    : (m.step requests verifies ev).status? id =
        (updater? verifies id m ev).elim (m.status? id)
          (fun updater => some (if updater.accepts verifies then .SUCCESS else .FAILED)) := by
  rcases @status?_step ι κ _ _ requests verifies m ev id
    with ⟨status, hverdict, hstatus⟩ | ⟨hnone, hsame | ⟨hnew, _⟩⟩
  . rcases updater?_of_verdict hverdict with ⟨updater, hupdater, rfl⟩
    rw [hstatus, hupdater]
    rfl
  . rw [hsame, updater?_eq_none hnone]
    rfl
  . rw [status?, Option.map_eq_none_iff] at hnew
    simp [hnew] at hid

theorem find?_isSome_step (requests : ι → PaymentRequest) (verifies : κ → VerifyRequest)
    (ev : SettlementEvent ι κ) (hid : (m.store.payments.find? id).isSome)
    : ((m.step requests verifies ev).store.payments.find? id).isSome := by
  have hstatus : ∀ m : Settlement ι κ, (m.store.payments.find? id).isSome = (m.status? id).isSome :=
    fun m => Option.isSome_map.symm
  rw [hstatus, status?_step_elim requests hid]
  cases updater? verifies id m ev with
  | none => rwa [hstatus] at hid
  | some updater => rfl

omit [DecidableEq ι] in
theorem verifyPayment_shape (request : VerifyRequest) (m : Settlement ι κ) (k : κ) (fate : Fate)
    : ∃ verification,
        (m.verifyPayment request k fate).verifications =
          Function.update m.verifications k verification
        ∧ ∀ v, verification = .updated v →
          m.verifications k = .updated v ∨ request.gatewayResponse = some v.gatewayResponse := by
  unfold verifyPayment
  split
  . unfold find
    repeat' split
    all_goals exact ⟨_, rfl, by simp⟩
  . unfold update
    split
    . exact ⟨_, rfl, by simp⟩
    . next hverdict =>
      split
      . refine ⟨_, rfl, ?_⟩
        rintro v ⟨⟩
        exact .inr (eq_of_verdict hverdict).1
      all_goals exact ⟨_, rfl, by simp⟩
  . unfold write
    split
    all_goals exact ⟨_, rfl, by simp⟩
  . unfold publish
    repeat' split
    all_goals exact ⟨_, rfl, by simp⟩
  . exact ⟨m.verifications k, (Function.update_eq_self k _).symm, fun _ => .inl⟩
  . exact ⟨m.verifications k, (Function.update_eq_self k _).symm, fun _ => .inl⟩

omit [DecidableEq ι] [DecidableEq κ] in
theorem paymentWorker_verifications (m : Settlement ι κ) (n : ℕ) (fate : Fate)
    : (m.paymentWorker n fate).verifications = m.verifications := by
  unfold paymentWorker
  split
  . rfl
  . rfl
  . split <;> rfl

theorem responsesKept_step (requests : ι → PaymentRequest) (ev : SettlementEvent ι κ)
    (hm : ResponsesKept verifies id m)
    : ResponsesKept verifies id (m.step requests verifies ev) := by
  intro k v hk hid
  cases ev with
  | payment ev => exact hm k v hk hid
  | verify j fate =>
    change (m.verifyPayment (verifies j) j fate).verifications k = _ at hk
    rcases verifyPayment_shape (verifies j) m j fate with ⟨verification, hstages, hupdated⟩
    rw [hstages] at hk
    by_cases heq : k = j
    . subst heq
      rw [Function.update_self] at hk
      rcases hupdated v hk with hold | hnew
      . exact hm k v hold hid
      . exact hnew
    . rw [Function.update_of_ne heq] at hk
      exact hm k v hk hid
  | crash j =>
    unfold step at hk
    dsimp only at hk
    split at hk
    . exact hm k v hk hid
    . by_cases heq : k = j
      . subst heq
        simp [move] at hk
      . exact hm k v ((Function.update_of_ne heq _ _).symm.trans hk) hid
  | job n fate =>
    change (m.paymentWorker n fate).verifications k = _ at hk
    rw [paymentWorker_verifications] at hk
    exact hm k v hk hid

omit [DecidableEq ι] [DecidableEq κ] in
theorem responsesKept_of_quiet (h : m.Quiet id) : ResponsesKept verifies id m := by
  intro k v hk hid
  exact absurd hid (h k v.payment (by simp [hk, Verification.payment?]))

end Steps

section Runs

variable {es : List (SettlementEvent ι κ)}

/--
The last call to set the status of the payment has been told of a success, in whatever form, exactly if
the last one to store its response has been told of one by `true`. A response from before the run counts
as long as no call has stored another.
-/
def LastWritesAgree (requests : ι → PaymentRequest) (verifies : κ → VerifyRequest)
    (m : Settlement ι κ) (id : String) (es : List (SettlementEvent ι κ))
    : Prop :=
  ∃ updater, Run.last (step requests verifies) (updater? verifies id) m es = some updater
    ∧ updater.accepts verifies =
      succeeded ((Run.last (step requests verifies) (writer? id) m es).elim (m.response? id)
        (fun k => (verifies k).gatewayResponse))

-- A call has set the status of the payment in the run.
def Written (requests : ι → PaymentRequest) (verifies : κ → VerifyRequest) (m : Settlement ι κ)
    (id : String) (es : List (SettlementEvent ι κ))
    : Prop :=
  ∃ pre ev k, pre ++ [ev] <+: es
    ∧ updater? verifies id (Run.run (step requests verifies) m pre) ev = some (.call k)

theorem responseMatches_run_iff (requests : ι → PaymentRequest) (es : List (SettlementEvent ι κ))
    (hid : (m.store.payments.find? id).isSome) (hm : m.Quiet id)
    (hes : Written requests verifies m id es)
    : ResponseMatches id (Run.run (step requests verifies) m es) ↔
        LastWritesAgree requests verifies m id es := by
  have hstatus : (Run.run (step requests verifies) m es).status? id =
      (Run.last (step requests verifies) (updater? verifies id) m es).elim (m.status? id)
        (fun updater => some (if updater.accepts verifies then .SUCCESS else .FAILED)) :=
    Run.get_run_eq_last (I := fun m : Settlement ι κ => (m.store.payments.find? id).isSome)
      (fun m : Settlement ι κ => m.status? id) _ _
      (fun _ ev => find?_isSome_step requests verifies ev) (fun _ _ => status?_step_elim requests) es
      hid
  have hresponse : (Run.run (step requests verifies) m es).response? id =
      (Run.last (step requests verifies) (writer? id) m es).elim (m.response? id)
        (fun k => (verifies k).gatewayResponse) :=
    Run.get_run_eq_last
      (I := fun m : Settlement ι κ =>
        (m.store.payments.find? id).isSome ∧ ResponsesKept verifies id m)
      (fun m : Settlement ι κ => m.response? id) _ _
      (fun _ ev h => ⟨find?_isSome_step requests verifies ev h.1, responsesKept_step requests ev h.2⟩)
      (fun _ _ h => response?_step requests h.2 h.1) es ⟨hid, responsesKept_of_quiet hm⟩
  rcases hes with ⟨pre, ev, k, hpre, hk⟩
  have hlast : (Run.last (step requests verifies) (updater? verifies id) m es).isSome :=
    Run.last_isSome hpre (by simp [hk])
  rcases Option.isSome_iff_exists.mp hlast with ⟨updater, hupdater⟩
  unfold ResponseMatches LastWritesAgree
  rw [hstatus, hresponse, hupdater, Option.elim_some, Option.some.injEq]
  generalize succeeded _ = b
  simp only [Option.some.injEq, exists_eq_left']
  cases updater.accepts verifies <;> cases b <;> simp

/--
The status of a payment matches the response stored with it, whenever no call is in progress and at least
one has written, exactly if the last writes of the two agree.
-/
theorem responses_match_iff (requests : ι → PaymentRequest) (verifies : κ → VerifyRequest)
    (m : Settlement ι κ) (id : String) (es : List (SettlementEvent ι κ))
    (hid : (m.store.payments.find? id).isSome) (hm : m.Quiet id)
    : (∀ pre, pre <+: es → (Run.run (step requests verifies) m pre).Quiet id →
          Written requests verifies m id pre →
          ResponseMatches id (Run.run (step requests verifies) m pre)) ↔
        ∀ pre, pre <+: es → (Run.run (step requests verifies) m pre).Quiet id →
          Written requests verifies m id pre → LastWritesAgree requests verifies m id pre := by
  apply forall₄_congr
  intro pre _ _ hwritten
  exact responseMatches_run_iff requests pre hid hm hwritten

end Runs

def opposed (k : Bool) : VerifyRequest where
  paymentRef := some "PAY-2"
  gatewayResponse := some (.object [("success", .boolean k)])

def paidSettlement : Settlement Unit Bool :=
  Run.run (step (fun _ => samplePayment "alice" "2") opposed) (initial sampleUsers)
    ((sampleRun ()).map .payment)

-- The call with the success is the first to set the status and the last to store its response.
def crossedCalls : List (SettlementEvent Unit Bool) :=
  List.replicate 2 (.verify true .done) ++ List.replicate 4 (.verify false .done)
    ++ List.replicate 2 (.verify true .done)

theorem crossed_responses_match_iff
    : (∀ pre, pre <+: crossedCalls →
        (Run.run (step (fun _ => samplePayment "alice" "2") opposed) paidSettlement pre).Quiet
          "payment2" →
        Written (fun _ => samplePayment "alice" "2") opposed paidSettlement "payment2" pre →
        ResponseMatches "payment2"
          (Run.run (step (fun _ => samplePayment "alice" "2") opposed) paidSettlement pre)) ↔
      ∀ pre, pre <+: crossedCalls →
        (Run.run (step (fun _ => samplePayment "alice" "2") opposed) paidSettlement pre).Quiet
          "payment2" →
        Written (fun _ => samplePayment "alice" "2") opposed paidSettlement "payment2" pre →
        LastWritesAgree (fun _ => samplePayment "alice" "2") opposed paidSettlement "payment2" pre := by
  apply responses_match_iff
  . decide +kernel
  . intro k payment hk
    cases hk

theorem crossed_responses_mismatch
    : ¬∀ pre, pre <+: crossedCalls →
        (Run.run (step (fun _ => samplePayment "alice" "2") opposed) paidSettlement pre).Quiet
          "payment2" →
        Written (fun _ => samplePayment "alice" "2") opposed paidSettlement "payment2" pre →
        ResponseMatches "payment2"
          (Run.run (step (fun _ => samplePayment "alice" "2") opposed) paidSettlement pre) := by
  intro h
  have hquiet : ∀ k, ((Run.run (step (fun _ => samplePayment "alice" "2") opposed) paidSettlement
      crossedCalls).verifications k).payment? = none := by
    decide +kernel
  have hmatches := h crossedCalls List.prefix_rfl ?_ ?_
  . unfold ResponseMatches at hmatches
    revert hmatches
    decide +kernel
  . intro k payment hk
    cases (hquiet k).symm.trans hk
  . exact ⟨[.verify true .done], .verify true .done, true, ⟨_, rfl⟩, by decide +kernel⟩

end Settlement

end Banking
