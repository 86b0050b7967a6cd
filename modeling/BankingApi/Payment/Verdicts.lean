import BankingApi.Payment.Settlement

/-!
This module contains what the verdicts on a payment do to its status, and how the status agrees with
the money.
-/

namespace Banking

-- what the entries of a transaction have brought to the receiver's wallet
def netCredit (s : Store) (t : Transaction) : ℚ :=
  (((entriesOf s t).filter (fun e => t.receiverWalletId = some e.walletId)).map
    LedgerEntry.signed).sum

structure StatusAgrees (s : Store) (p : Payment) : Prop where
  failed : p.status = .FAILED → ∀ t ∈ s.transactions.rows, t.id = p.transactionId →
    t.status ≠ .SUCCESS ∧ netCredit s t = 0
  success : p.status = .SUCCESS → ∃ t ∈ s.transactions.rows, t.id = p.transactionId
    ∧ t.status = .SUCCESS ∧ netCredit s t = p.amount.toRat

structure Credited (s : Store) : Prop where
  corresponds : Corresponds s
  succeeded : ∀ t ∈ s.transactions.rows, t.status = .SUCCESS

def Stage.Ended (stage : Stage) : Bool :=
  match stage with
  | .ready => true
  | .finished _ => true
  | .crashed => true
  | _ => false

def Verification.Ended (verification : Verification) : Bool :=
  match verification with
  | .ready => true
  | .finished _ => true
  | .crashed => true
  | _ => false

theorem credited_initial (users : Table User.id) : Credited (.initial users) where
  corresponds := corresponds_initial users
  succeeded := by
    intro t ht
    cases ht

theorem Effect.succeeded {s s' : Store} {c : Call} {reply : Reply} (h : Effect s c reply s')
    (hs : ∀ t ∈ s.transactions.rows, t.status = .SUCCESS)
    : ∀ t ∈ s'.transactions.rows, t.status = .SUCCESS := by
  have hadd : ∀ {type sender receiver u amount t}, Recorded s type sender receiver u amount t →
      ∀ t' ∈ (s.transactions.insert t).rows, t'.status = .SUCCESS := by
    intro type sender receiver u amount t ht t' ht'
    rw [Table.rows_insert ht.fresh, List.mem_append, List.mem_singleton] at ht'
    rcases ht' with ht' | rfl
    . exact hs t' ht'
    . exact ht.status_eq
  cases h with
  | deposit _ ht => exact hadd ht
  | withdraw _ _ ht => exact hadd ht
  | transfer _ _ _ ht => exact hadd ht
  | processPayment _ ht => exact hadd ht
  | status => exact hs

theorem Credited.updatePayments {s : Store} (h : Credited s) {id : String} {f : Payment → Payment}
    (hf : ∀ p, (f p).id = p.id) (htransaction : ∀ p, (f p).transactionId = p.transactionId)
    (hamount : ∀ p, (f p).amount = p.amount)
    : Credited { s with payments := s.payments.update id f hf } := by
  have hrow : ∀ p ∈ (s.payments.update id f hf).rows, ∃ q ∈ s.payments.rows,
      q.transactionId = p.transactionId ∧ q.amount = p.amount
        ∧ p = if q.id = id then f q else q := by
    intro p hp
    rcases List.mem_map.mp hp with ⟨q, hq, rfl⟩
    refine ⟨q, hq, ?_, ?_, rfl⟩
    . split
      . rw [htransaction]
      . rfl
    . split
      . rw [hamount]
      . rfl
  constructor
  . constructor
    . exact h.corresponds.entries
    . exact h.corresponds.transaction
    . exact h.corresponds.settled
    . intro p hp
      rcases hrow p hp with ⟨q, hq, hid, heq, _⟩
      rw [← hid, ← heq]
      exact h.corresponds.payment q hq
    . intro p hp p' hp' heq
      rcases hrow p hp with ⟨q, hq, hid, _, hqp⟩
      rcases hrow p' hp' with ⟨q', hq', hid', _, hqp'⟩
      rw [← hid, ← hid'] at heq
      rw [hqp, hqp', h.corresponds.unshared q hq q' hq' heq]
  . exact h.succeeded

theorem Credited.agrees_iff {s : Store} (h : Credited s) {p : Payment} (hp : p ∈ s.payments.rows)
    : StatusAgrees s p ↔ p.status ≠ .FAILED := by
  rcases h.corresponds.payment p hp with ⟨t, ⟨ht, hid, htype, hamount⟩, _⟩
  constructor
  . intro hagrees hfailed
    exact (hagrees.failed hfailed t ht hid).1 (h.succeeded t ht)
  . intro hne
    refine ⟨fun hfailed => absurd hfailed hne, fun _ => ⟨t, ht, hid, h.succeeded t ht, ?_⟩⟩
    rcases h.corresponds.entries t ht with ⟨hentries, hamounts⟩
    rw [HasEntries, htype] at hentries
    rcases hentries with ⟨e, he, hcredit, hreceiver⟩
    have := hamounts e (by simp [he])
    simp [netCredit, he, hreceiver, LedgerEntry.signed, LedgerEntryType.signed, hcredit, this, hamount]

namespace Settlement

variable {ι κ : Type} [DecidableEq ι] [DecidableEq κ] {requests : ι → PaymentRequest}
  {verifies : κ → VerifyRequest} {users : Table User.id}

section Settled

def StaysSettled (requests : ι → PaymentRequest) (verifies : κ → VerifyRequest)
    (users : Table User.id) (es : List (SettlementEvent ι κ))
    : Prop :=
  ∀ pre pre' id, pre <+: pre' → pre' <+: es →
    ((Run.run (step requests verifies) (initial users) pre).status? id = some .SUCCESS →
        (Run.run (step requests verifies) (initial users) pre').status? id ≠ some .FAILED)
      ∧ ((Run.run (step requests verifies) (initial users) pre).status? id = some .FAILED →
        (Run.run (step requests verifies) (initial users) pre').status? id ≠ some .SUCCESS)

def VerdictsAgree (requests : ι → PaymentRequest) (verifies : κ → VerifyRequest)
    (users : Table User.id) (es : List (SettlementEvent ι κ))
    : Prop :=
  ∀ pre pre' ev ev' id status status', pre ++ [ev] <+: es → pre' ++ [ev'] <+: es →
    (Run.run (step requests verifies) (initial users) pre).verdict? verifies ev = some (id, status) →
    (Run.run (step requests verifies) (initial users) pre').verdict? verifies ev' =
      some (id, status') →
    status = status'

theorem verdict_of_status {es : List (SettlementEvent ι κ)} {id : String} {status : PaymentStatus}
    (h : (Run.run (step requests verifies) (initial users) es).status? id = some status)
    (hstatus : status ≠ .INITIATED)
    : ∃ pre ev, pre ++ [ev] <+: es
      ∧ (Run.run (step requests verifies) (initial users) pre).verdict? verifies ev =
        some (id, status) := by
  induction es using List.reverseRecOn with
  | nil => cases h
  | append_singleton es ev ih =>
    rw [Run.run_append_singleton] at h
    rcases @status?_step ι κ _ _ requests verifies _ ev id
      with ⟨status', hverdict, hnew⟩ | ⟨_, hsame | ⟨_, hnew⟩⟩
    . cases h.symm.trans hnew
      exact ⟨es, ev, List.prefix_rfl, hverdict⟩
    . rw [hsame] at h
      rcases ih h with ⟨pre, ev', hpre, hverdict⟩
      exact ⟨pre, ev', hpre.trans (List.prefix_append _ _), hverdict⟩
    . rw [hnew, Option.some.injEq] at h
      exact absurd h.symm hstatus

/--
A settled payment stays settled in a run exactly when all verdicts that reach its row agree.
-/
theorem settled_iff_verdicts_agree (requests : ι → PaymentRequest) (verifies : κ → VerifyRequest)
    (users : Table User.id) (es : List (SettlementEvent ι κ))
    : StaysSettled requests verifies users es ↔ VerdictsAgree requests verifies users es := by
  constructor
  . intro h
    have hle : ∀ pre pre' ev ev' id status status', pre ++ [ev] <+: pre' ++ [ev'] →
        pre' ++ [ev'] <+: es →
        (Run.run (step requests verifies) (initial users) pre).verdict? verifies ev =
          some (id, status) →
        (Run.run (step requests verifies) (initial users) pre').verdict? verifies ev' =
          some (id, status') →
        status = status' := by
      intro pre pre' ev ev' id status status' hpre hpre' hv hv'
      have hstays := h _ _ id hpre hpre'
      rw [Run.run_append_singleton, Run.run_append_singleton, status?_of_verdict hv,
        status?_of_verdict hv'] at hstays
      rcases final_of_verdict hv with rfl | rfl <;> rcases final_of_verdict hv' with rfl | rfl
      . rfl
      . exact absurd rfl (hstays.1 rfl)
      . exact absurd rfl (hstays.2 rfl)
      . rfl
    intro pre pre' ev ev' id status status' hpre hpre' hv hv'
    rcases List.prefix_or_prefix_of_prefix hpre hpre' with hlt | hlt
    . exact hle _ _ _ _ _ _ _ hlt hpre' hv hv'
    . exact (hle _ _ _ _ _ _ _ hlt hpre hv' hv).symm
  . intro h pre pre' id hpre hpre'
    have hagree : ∀ {status status' : PaymentStatus}, status ≠ .INITIATED → status' ≠ .INITIATED →
        (Run.run (step requests verifies) (initial users) pre).status? id = some status →
        (Run.run (step requests verifies) (initial users) pre').status? id = some status' →
        status = status' := by
      intro status status' hne hne' hs hs'
      rcases verdict_of_status hs hne with ⟨p, ev, hp, hv⟩
      rcases verdict_of_status hs' hne' with ⟨p', ev', hp', hv'⟩
      exact h _ _ _ _ _ _ _ (hp.trans (hpre.trans hpre')) (hp'.trans hpre') hv hv'
    constructor
    . intro hs hs'
      cases hagree (by simp) (by simp) hs hs'
    . intro hs hs'
      cases hagree (by simp) (by simp) hs hs'

def failedVerdict (_ : Unit) : VerifyRequest where
  paymentRef := some "PAY-2"
  gatewayResponse := some (.object [("success", .boolean false)])

-- The job of the payment is slower than the gateway.
def lateJob : List (SettlementEvent Unit Unit) :=
  (sampleRun ()).map .payment ++ List.replicate 4 (.verify () .done) ++ [.job 0 .done]

theorem late_job_settles_failed_payment
    : ¬StaysSettled (fun _ => samplePayment "alice" "2") failedVerdict sampleUsers lateJob := by
  intro h
  have := (h ((sampleRun ()).map .payment ++ List.replicate 4 (.verify () .done)) lateJob "payment2"
    (List.prefix_append _ _) List.prefix_rfl).2 (by decide +kernel)
  exact this (by decide +kernel)

end Settled

section Agreement

theorem credited_step {m : Settlement ι κ} (ev : SettlementEvent ι κ) (h : Credited m.store)
    : Credited (m.step requests verifies ev).store := by
  have hstep : Changed requests verifies m ev (m.step requests verifies ev).store := step_cases ev
  generalize (m.step requests verifies ev).store = s' at *
  cases hstep with
  | kept => exact h
  | status => exact h.updatePayments _ (fun _ => rfl) (fun _ => rfl)
  | response => exact h.updatePayments _ (fun _ => rfl) (fun _ => rfl)
  | payment =>
    apply PaymentSystem.step_relates (R := fun s s' => Credited s → Credited s')
    . exact fun _ h => h
    . intro s w _ h
      exact ⟨⟨h.1.1, h.1.2, h.1.3, h.1.4, h.1.5⟩, h.2⟩
    . intro s c reply s' heff h
      exact ⟨heff.corresponds h.corresponds, heff.succeeded h.succeeded⟩
    . exact h

def AllAgree (m : Settlement ι κ) : Prop :=
  ∀ p ∈ m.store.payments.rows, StatusAgrees m.store p

omit [DecidableEq ι] [DecidableEq κ] in
theorem allAgree_iff {m : Settlement ι κ} (h : Credited m.store)
    : AllAgree m ↔ ∀ id, m.status? id ≠ some .FAILED := by
  unfold AllAgree status?
  constructor
  . intro hagree id hfailed
    rcases Option.map_eq_some_iff.mp hfailed with ⟨p, hp, hstatus⟩
    have hmem := Table.mem_of_find? hp
    exact (h.agrees_iff hmem).mp (hagree p hmem) hstatus
  . intro hne p hp
    rw [h.agrees_iff hp]
    intro hfailed
    apply hne p.id
    rw [Table.find?_of_mem hp, Option.map_some, hfailed]

theorem allAgree_step_iff {m : Settlement ι κ} {ev : SettlementEvent ι κ} (hm : Credited m.store)
    (h : AllAgree m)
    : AllAgree (m.step requests verifies ev) ↔ ∀ id, m.verdict? verifies ev ≠ some (id, .FAILED) := by
  rw [allAgree_iff hm] at h
  rw [allAgree_iff (credited_step ev hm)]
  constructor
  . intro hnew id hverdict
    exact hnew id (status?_of_verdict hverdict)
  . intro hverdict id hnew
    rcases @status?_step ι κ _ _ requests verifies m ev id
      with ⟨status, hv, hstatus⟩ | ⟨_, hsame | ⟨_, hinit⟩⟩
    . cases hnew.symm.trans hstatus
      exact hverdict id hv
    . exact h id (hsame ▸ hnew)
    . cases hnew.symm.trans hinit

-- What an event sets the status of the payment to.
def verdictOn? (verifies : κ → VerifyRequest) (id : String) (m : Settlement ι κ)
    (ev : SettlementEvent ι κ)
    : Option PaymentStatus :=
  ((m.verdict? verifies ev).filter (·.1 = id)).map Prod.snd

theorem failed_step_iff (m : Settlement ι κ) (ev : SettlementEvent ι κ) (id : String)
    : ((m.step requests verifies ev).status? id = some .FAILED) =
      (m.verdictOn? verifies id ev).elim (m.status? id = some .FAILED) (· = .FAILED) := by
  unfold verdictOn?
  rcases @status?_step ι κ _ _ requests verifies m ev id
    with ⟨status, hverdict, hnew⟩ | ⟨hnone, hold⟩
  . have hown : (m.verdict? verifies ev).filter (·.1 = id) = some (id, status) := by
      rw [hverdict]
      exact Option.filter_some_pos (decide_eq_true rfl)
    rw [hown, hnew, Option.some.injEq]
    rfl
  . have hother : (m.verdict? verifies ev).filter (·.1 = id) = none := by
      rw [Option.filter_eq_none_iff]
      rintro ⟨id', status⟩ hverdict hid
      cases of_decide_eq_true hid
      exact hnone status hverdict
    rw [hother]
    rcases hold with hsame | ⟨hfresh, hnew⟩
    . rw [hsame]
      rfl
    . simp [hfresh, hnew]

-- A payment is FAILED when the last verdict that has reached its row says so.
theorem status?_run_eq_failed_iff (es : List (SettlementEvent ι κ)) (id : String)
    : (Run.run (step requests verifies) (initial users) es).status? id = some .FAILED ↔
      Run.last (step requests verifies) (verdictOn? verifies id) (initial users) es =
        some .FAILED := by
  have hrun := Run.get_run_eq_last (I := fun _ => True)
    (fun m : Settlement ι κ => m.status? id = some .FAILED) (verdictOn? verifies id) (· = .FAILED)
    (fun _ _ _ => trivial) (fun m ev _ => @failed_step_iff ι κ _ _ requests verifies m ev id)
    (s := initial users) es trivial
  rw [iff_of_eq hrun]
  cases Run.last (step requests verifies) (verdictOn? verifies id) (initial users) es with
  | none => exact iff_of_false (fun h => by cases h) (fun h => by cases h)
  | some status => simp

-- No call is under way. A crashed one never goes on.
def Idle (m : Settlement ι κ) : Prop :=
  (∀ i, (m.payments.stages i).Ended) ∧ ∀ k, (m.verifications k).Ended

/--
In every state of every run the status of the payments agrees with the money exactly when none of
them is FAILED. It agrees all along a run exactly when no FAILED verdict reaches a row, and in the states
with no call under way exactly when no FAILED verdict is the last one before them.
-/
theorem statuses_agree_iff (requests : ι → PaymentRequest) (verifies : κ → VerifyRequest)
    (users : Table User.id) (es : List (SettlementEvent ι κ))
    : (∀ pre, pre <+: es →
          (AllAgree (Run.run (step requests verifies) (initial users) pre) ↔
            ∀ id, (Run.run (step requests verifies) (initial users) pre).status? id ≠ some .FAILED))
        ∧ ((∀ pre, pre <+: es → AllAgree (Run.run (step requests verifies) (initial users) pre)) ↔
          Run.Along (step requests verifies)
            (fun m ev => ∀ id, m.verdict? verifies ev ≠ some (id, .FAILED)) (initial users) es)
        ∧ ((∀ pre, pre <+: es → Idle (Run.run (step requests verifies) (initial users) pre) →
              AllAgree (Run.run (step requests verifies) (initial users) pre)) ↔
          ∀ pre, pre <+: es → Idle (Run.run (step requests verifies) (initial users) pre) →
            ∀ id, Run.last (step requests verifies) (verdictOn? verifies id) (initial users) pre ≠
              some .FAILED) := by
  have hstep : ∀ (m : Settlement ι κ) ev, Credited m.store →
      Credited (m.step requests verifies ev).store :=
    fun m ev h => credited_step ev h
  have hinitial : Credited (initial users : Settlement ι κ).store := credited_initial users
  have hagree : ∀ pre, AllAgree (Run.run (step requests verifies) (initial users) pre) ↔
      ∀ id, (Run.run (step requests verifies) (initial users) pre).status? id ≠ some .FAILED :=
    fun pre => allAgree_iff (Run.run_invariant hstep pre hinitial)
  refine ⟨fun pre _ => hagree pre, ?_, ?_⟩
  . apply Run.forall_prefix_iff_along hstep (fun m ev hm h => allAgree_step_iff hm h) es hinitial
    intro p hp
    cases hp
  . simp only [hagree, ne_eq, status?_run_eq_failed_iff]

def rejectedPayment : Settlement Unit Unit :=
  Run.run (step (fun _ => samplePayment "alice" "2") failedVerdict) (initial sampleUsers)
    ((sampleRun ()).map .payment ++ List.replicate 4 (.verify () .done))

theorem failed_payment_keeps_credit : rejectedPayment.Idle ∧ ¬rejectedPayment.AllAgree := by
  refine ⟨⟨by decide +kernel, by decide +kernel⟩, ?_⟩
  intro h
  have hrow : ∃ p ∈ rejectedPayment.store.payments.rows, p.status = .FAILED := by decide +kernel
  have htransaction : ∀ p ∈ rejectedPayment.store.payments.rows,
      ∃ t ∈ rejectedPayment.store.transactions.rows,
        t.id = p.transactionId ∧ t.status = .SUCCESS := by decide +kernel
  rcases hrow with ⟨p, hp, hfailed⟩
  rcases htransaction p hp with ⟨t, ht, hid, hsuccess⟩
  exact ((h p hp).failed hfailed t ht hid).1 hsuccess

end Agreement

end Settlement

end Banking
