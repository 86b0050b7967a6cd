import BankingApi.Bank.Concurrency

/-!
This module contains the race between closing a wallet and changing its status otherwise.
-/

namespace Banking

def walletStatus (s : Store) (id : WalletId) : Option WalletStatus :=
  (s.wallets.find? id).map Wallet.status

theorem Effect.walletStatus_cases {s s' : Store} {c : Call} {reply : Reply}
    (h : Effect s c reply s') (id : WalletId)
    : walletStatus s' id = walletStatus s id
        ∨ ∃ st, c.statusUpdate? = some (id, st) ∧ walletStatus s' id = some st := by
  cases hc : c.statusUpdate? with
  | none => exact .inl (h.status_eq hc id)
  | some u =>
    cases h with
    | @status _ id' st w hc' hw =>
      rw [hc] at hc'
      cases hc'
      unfold walletStatus
      rw [find?_setStatus]
      split
      . next heq =>
        subst heq
        exact .inr ⟨st, rfl, by simp [hw]⟩
      . exact .inl rfl
    | _ => cases hc

theorem walletStatus_of_statusUpdate {s s' : Store} {c : Call} {reply : Reply} {id : WalletId}
    {st : WalletStatus} (h : Effect s c reply s') (hc : c.statusUpdate? = some (id, st))
    : walletStatus s' id = some st := by
  cases h with
  | @status _ id' st' w hc' hw =>
    rw [hc] at hc'
    cases hc'
    unfold walletStatus
    simp [find?_setStatus, hw]
  | _ => cases hc

section Interleaving

variable {ι : Type}

def NoneClosed (calls : ι → Call) (id : WalletId)
    (log : List (Locking.Ended Query Query.Result Failure ι Reply))
    : Prop :=
  ∀ e ∈ log, (∃ reply, e.outcome = .ok reply) → calls e.thread ≠ .closeWallet id

def KeepsClosed (m m' : Interleaving ι) : Prop :=
  ∀ id, walletStatus m.store id = some .CLOSED → walletStatus m'.store id = some .CLOSED

/--
If `freezeWallet` or `unfreezeWallet` commits, then no `closeWallet` of the wallet has committed since
it has read the wallet.
-/
def NoCloseBetween (calls : ι → Call) (m : Interleaving ι) (ev : Locking.Event Resource ι) : Prop :=
  ∀ i since origin reply pending id, ev = .finish i →
    m.threads i = .running since origin (.ret reply) pending →
    calls i = .freezeWallet id ∨ calls i = .unfreezeWallet id →
    NoneClosed calls id (m.log.drop since)

theorem not_closed_of_serial {calls : ι → Call} {id : WalletId} {s s' : Store}
    {log : List (Locking.Ended Query Query.Result Failure ι Reply)}
    (h : Locking.Serial database s log s')
    (horigins : ∀ e ∈ log, ∃ snapshot, e.program = (calls e.thread).program snapshot)
    (hnone : NoneClosed calls id log) (hs : walletStatus s id ≠ some .CLOSED)
    : walletStatus s' id ≠ some .CLOSED := by
  induction log generalizing s with
  | nil =>
    rw [show s' = s from h]
    exact hs
  | cons e log ih =>
    rcases h with ⟨s₁, he, hlog⟩
    apply ih hlog (fun e' he' => horigins e' (by simp [he'])) (fun e' he' => hnone e' (by simp [he']))
    rcases horigins e (by simp) with ⟨snapshot, hprogram⟩
    unfold Locking.replay at he
    split at he
    . next reply s₂ hrun =>
      rcases Prod.mk.inj he with ⟨houtcome, rfl⟩
      rw [hprogram] at hrun
      rcases (effect_of_run hrun).walletStatus_cases id with hsame | ⟨st, hc, hst⟩
      . rw [hsame]
        exact hs
      . rw [hst]
        rintro heq
        cases heq
        have hclose : calls e.thread = .closeWallet id := by
          cases hcall : calls e.thread <;> rw [hcall] at hc <;> cases hc
          rfl
        exact hnone e (by simp) ⟨reply, houtcome.symm⟩ hclose
    . rw [← (Prod.mk.inj he).2]
      exact hs

theorem open_of_program {c : Call} {snapshot s s' : Store} {reply : Reply} {id : WalletId}
    (hc : c = .freezeWallet id ∨ c = .unfreezeWallet id)
    (h : (c.program snapshot).run database s = .ok (reply, s'))
    : walletStatus snapshot id ≠ some .CLOSED := by
  have hfind : ∀ w, snapshot.wallets.find? id = some w → w.status ≠ .CLOSED := by
    intro w hw hstatus
    rcases hc with rfl | rfl
    . rcases run_map_eq_ok_iff.mp h with ⟨_, hrun, _⟩
      simp [WalletService.freezeWallet, WalletRepository.findWalletById, hw, hstatus] at hrun
    . rcases run_map_eq_ok_iff.mp h with ⟨_, hrun, _⟩
      simp [WalletService.unfreezeWallet, WalletRepository.findWalletById, hw, hstatus] at hrun
  unfold walletStatus
  cases hw : snapshot.wallets.find? id with
  | none => simp
  | some w => simpa using hfind w hw

variable [DecidableEq ι] {calls : ι → Call} {s : Store} {m : Interleaving ι}

structure ClosedInv (calls : ι → Call) (s : Store) (m : Interleaving ι) : Prop where
  inv : Locking.Inv rowLocks (fun i snapshot => (calls i).program snapshot) s m
  closed : ∀ e ∈ m.log, (∃ reply, e.outcome = .ok reply) → ∀ id, calls e.thread = .closeWallet id →
    walletStatus m.store id = some .CLOSED

theorem closedInv_step (ev : Locking.Event Resource ι) (h : ClosedInv calls s m)
    (hkeeps : KeepsClosed m (interleave calls m ev))
    : ClosedInv calls s (interleave calls m ev) where
  inv := Locking.inv_step ev h.inv
  closed := by
    intro e he hok id hclose
    rcases h.inv.log_step ev with ⟨hlog, _⟩ | ⟨i, snapshot, r, hlog, hreplay⟩
    . apply hkeeps
      unfold interleave at he
      rw [hlog] at he
      exact h.closed e he hok id hclose
    . unfold interleave at he
      rw [hlog, List.mem_append, List.mem_singleton] at he
      rcases he with he | rfl
      . exact hkeeps id (h.closed e he hok id hclose)
      . rcases hok with ⟨reply, rfl⟩
        apply walletStatus_of_statusUpdate (effect_of_replay hreplay)
        dsimp only at hclose
        rw [hclose]
        rfl

theorem keepsClosed_iff (ev : Locking.Event Resource ι) (h : ClosedInv calls s m)
    : KeepsClosed m (interleave calls m ev) ↔ NoCloseBetween calls m ev := by
  constructor
  . rintro hkeeps i since origin reply pending id rfl hi hc e he hok hclose
    have hclosed := h.closed e (List.mem_of_mem_drop he) hok id hclose
    have heffect := effect_of_commit h.inv hi
    have hst : ∃ st, (calls i).statusUpdate? = some (id, st) ∧ st ≠ .CLOSED := by
      rcases hc with hc | hc
      . exact ⟨.FROZEN, by rw [hc]; rfl, by decide⟩
      . exact ⟨.ACTIVE, by rw [hc]; rfl, by decide⟩
    rcases hst with ⟨st, hst, hne⟩
    have hafter := walletStatus_of_statusUpdate heffect hst
    rw [hkeeps id hclosed] at hafter
    exact hne (Option.some.inj hafter).symm
  . intro hno id hclosed
    rcases Locking.store_step rowLocks (fun i snapshot => (calls i).program snapshot) m ev
      with hsame | hcommit
    . unfold interleave
      rw [hsame]
      exact hclosed
    . rcases hcommit with ⟨i, since, origin, reply, pending, rfl, hi⟩
      have heffect := effect_of_commit h.inv hi
      rcases heffect.walletStatus_cases id with hsame | ⟨st, hc, hst⟩
      . rw [hsame]
        exact hclosed
      . rw [hst]
        by_contra hne
        have hcall : calls i = .freezeWallet id ∨ calls i = .unfreezeWallet id := by
          cases hcall : calls i <;> rw [hcall] at hc <;> cases hc
          . exact .inl rfl
          . exact .inr rfl
          . exact absurd rfl hne
        rcases h.inv.serial_since hi with ⟨snapshot, rfl, hserial⟩
        have hopen := open_of_program hcall (h.inv.run_of_commit hi)
        refine not_closed_of_serial hserial ?_ (hno i _ _ _ _ id rfl hi hcall) hopen hclosed
        intro e he
        exact h.inv.origins e (List.mem_of_mem_drop he)

theorem closed_stays_closed_iff (calls : ι → Call) (s : Store)
    (es : List (Locking.Event Resource ι))
    : (∀ pre pre', pre <+: pre' → pre' <+: es →
        KeepsClosed (Run.run (interleave calls) (.init s) pre)
          (Run.run (interleave calls) (.init s) pre')) ↔
      Run.Along (interleave calls) (NoCloseBetween calls) (.init s) es := by
  rw [Run.forall_later_iff (fun _ _ h => h) (fun _ _ _ h h' id hid => h' id (h id hid))]
  apply Run.forall_step_iff_along (I := ClosedInv calls s)
    (Q := fun m ev => KeepsClosed m (interleave calls m ev))
  . intro m ev h hkeeps
    exact closedInv_step ev h hkeeps
  . intro m ev h
    exact keepsClosed_iff ev h
  . exact ⟨Locking.inv_init, by simp [Locking.Machine.init]⟩

end Interleaving

def raceCalls (i : Bool) : Call :=
  if i then .closeWallet "a" else .unfreezeWallet "a"

def race : List (Locking.Event Resource Bool) :=
  [
    .start false,
    .start true,
    .acquire true (.walletKey "a", .shared),
    .acquire true (.wallet "a", .exclusive),
    .exec true,
    .finish true,
    .acquire false (.walletKey "a", .shared),
    .acquire false (.wallet "a", .exclusive),
    .exec false,
    .finish false
  ]

theorem race_reopens
    : ∃ s, s = Run.run step (.initial sampleUsers) sampleDeposit
      ∧ ¬KeepsClosed (Run.run (interleave raceCalls) (.init s) (race.take 6))
        (Run.run (interleave raceCalls) (.init s) race) := by
  refine ⟨_, rfl, ?_⟩
  intro h
  have hclosed := h "a" (by decide +kernel)
  revert hclosed
  decide +kernel

end Banking
