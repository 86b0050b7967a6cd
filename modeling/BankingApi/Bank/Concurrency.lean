import BankingApi.Bank.System
import BankingApi.Prisma.RowLocks

/-!
This module contains calls that run side by side on one database, and what a call that commits among
them has done.
-/

namespace Banking

open LedgerService LedgerRepository TransactionService TransactionRepository

structure MoneyCall where
  call : Call
  hcall : call.statusUpdate? = none

section Transactional

abbrev Transactional (p : Tx α) : Prop :=
  p.All (·.client = .transaction)

theorem transactional_validateConstraints (wallet : Option Wallet) (amount : Amount)
    : Transactional (validateConstraints wallet amount) := by
  unfold validateConstraints
  repeat' split
  all_goals trivial

theorem transactional_receiverWallet (wallet : Option Wallet)
    : Transactional (PaymentService.receiverWallet wallet) := by
  unfold PaymentService.receiverWallet
  split <;> trivial

theorem transactional_call (stmt : Stmt)
    : Transactional (.call ⟨.transaction, stmt⟩ .ret) :=
  ⟨rfl, fun _ => trivial⟩

theorem transactional_postTransaction (params : PostTransaction)
    : Transactional (postTransaction params .transaction) := by
  unfold postTransaction
  apply Prog.all_bind (transactional_call _)
  intro ledgerEntry
  apply Prog.all_bind (transactional_call _)
  intro wallet
  trivial

theorem transactional_deposit (r : WalletId) (a : Amount) (u : UserId) (d : Option String)
    (g : Generated)
    : Transactional (TransactionService.deposit r a u d g) := by
  unfold TransactionService.deposit
  apply Prog.all_bind (transactional_call _)
  intro wallets
  apply Prog.all_bind (transactional_validateConstraints _ _)
  intro wallet
  apply Prog.all_bind (transactional_call _)
  intro transaction
  apply Prog.all_bind (transactional_postTransaction _)
  intro ledgerEntry
  exact transactional_call _

theorem transactional_withdraw (r : WalletId) (a : Amount) (u : UserId) (d : Option String)
    (g : Generated)
    : Transactional (TransactionService.withdraw r a u d g) := by
  unfold TransactionService.withdraw
  apply Prog.all_bind (transactional_call _)
  intro wallets
  apply Prog.all_bind (transactional_validateConstraints _ _)
  intro wallet
  apply Prog.all_bind (Prog.all_require _ _)
  intro _
  apply Prog.all_bind (transactional_call _)
  intro transaction
  apply Prog.all_bind (transactional_postTransaction _)
  intro ledgerEntry
  exact transactional_call _

theorem transactional_transfer (r r' : WalletId) (a : Amount) (u : UserId) (d : Option String)
    (g : Generated)
    : Transactional (TransactionService.transfer r r' a u d g) := by
  unfold TransactionService.transfer
  apply Prog.all_bind (Prog.all_require _ _)
  intro _
  apply Prog.all_bind (transactional_call _)
  intro lockQuery
  apply Prog.all_bind (Prog.all_require _ _)
  intro _
  apply Prog.all_bind (transactional_validateConstraints _ _)
  intro senderWallet
  apply Prog.all_bind (transactional_validateConstraints _ _)
  intro receiverWallet
  apply Prog.all_bind (Prog.all_require _ _)
  intro _
  apply Prog.all_bind (transactional_call _)
  intro transaction
  apply Prog.all_bind (transactional_postTransaction _)
  intro debit
  apply Prog.all_bind (transactional_postTransaction _)
  intro credit
  exact transactional_call _

theorem transactional_processPaymentBlock (k : IdempotencyKey) (a : Amount) (m : PaymentMethod)
    (r : WalletId) (u : UserId) (d : Option String) (g : Generated)
    : Transactional (PaymentService.processPaymentBlock k a m r u d g) := by
  unfold PaymentService.processPaymentBlock
  apply Prog.all_bind (transactional_call _)
  intro wallets
  apply Prog.all_bind (transactional_receiverWallet _)
  intro wallet
  apply Prog.all_bind (Prog.all_require _ _)
  intro _
  apply Prog.all_bind (Prog.all_require _ _)
  intro _
  apply Prog.all_bind (transactional_call _)
  intro transaction
  apply Prog.all_bind (transactional_postTransaction _)
  intro ledgerEntry
  exact transactional_call _

theorem transactional_program (c : MoneyCall) (snapshot : Store)
    : Transactional (c.call.program snapshot) := by
  rcases c with ⟨c, hc⟩
  cases c with
  | deposit => exact Prog.all_bind (transactional_deposit _ _ _ _ _) (fun _ => trivial)
  | withdraw => exact Prog.all_bind (transactional_withdraw _ _ _ _ _) (fun _ => trivial)
  | transfer => exact Prog.all_bind (transactional_transfer _ _ _ _ _ _) (fun _ => trivial)
  | processPayment =>
    exact Prog.all_bind (transactional_processPaymentBlock _ _ _ _ _ _ _) (fun _ => trivial)
  | _ => cases hc

end Transactional

theorem program_eq_of_money (c : MoneyCall) (snapshot snapshot' : Store)
    : c.call.program snapshot = c.call.program snapshot' := by
  rcases c with ⟨c, hc⟩
  cases c with
  | freezeWallet => cases hc
  | unfreezeWallet => cases hc
  | closeWallet => cases hc
  | _ => rfl

section Interleaving

variable {ι : Type} [DecidableEq ι]

abbrev Interleaving (ι : Type) := Locking.Machine Query Query.Result Failure Store Write Resource ι Reply

def interleave (calls : ι → Call) (m : Interleaving ι) (ev : Locking.Event Resource ι)
    : Interleaving ι :=
  rowLocks.step (fun i snapshot => (calls i).program snapshot) m ev

theorem money_calls_serializable (calls : ι → MoneyCall) (s : Store)
    (es : List (Locking.Event Resource ι))
    : (∀ i, Transactional ((calls i).call.program s))
        ∧ ∃ order : List ι, order.Nodup
          ∧ (∀ i r, (Run.run (interleave (fun i => (calls i).call)) (.init s) es).threads i =
              .finished r ↔
            (i, r) ∈ (Locking.serial database (fun i => (calls i).call.program s) s order).1)
          ∧ (Run.run (interleave (fun i => (calls i).call)) (.init s) es).store =
            (Locking.serial database (fun i => (calls i).call.program s) s order).2 := by
  constructor
  . intro i
    apply transactional_program
  . have hentry : interleave (fun i => (calls i).call) =
        rowLocks.step (fun i _ => (calls i).call.program s) := by
      funext m ev
      have : (fun i snapshot => (calls i).call.program snapshot) =
          fun i _ => (calls i).call.program s := by
        funext i snapshot
        apply program_eq_of_money
      unfold interleave
      dsimp only
      rw [this]
    rw [hentry]
    exact Locking.serializable rowLocks (fun i => (calls i).call.program s) s es rfl

omit [DecidableEq ι] in
theorem effect_of_replay {c : Call} {snapshot s s' : Store} {reply : Reply}
    (h : Locking.replay database (c.program snapshot) s = (.ok reply, s'))
    : Effect s c reply s' := by
  unfold Locking.replay at h
  split at h
  . next hrun =>
    cases h
    exact effect_of_run hrun
  . cases (Prod.mk.inj h).1

theorem effect_of_commit {calls : ι → Call} {s : Store} {m : Interleaving ι} {i : ι} {since : ℕ}
    {origin : Tx Reply} {reply : Reply} {pending : List Write}
    (hinv : Locking.Inv rowLocks (fun i snapshot => (calls i).program snapshot) s m)
    (hi : m.threads i = .running since origin (.ret reply) pending)
    : Effect m.store (calls i) reply (interleave calls m (.finish i)).store := by
  rcases (hinv.running i _ _ _ _ hi).snapshot with ⟨snapshot, _, rfl⟩
  exact effect_of_run (hinv.run_of_commit hi)

theorem interleave_cases {calls : ι → Call} {s : Store} {m : Interleaving ι}
    (hinv : Locking.Inv rowLocks (fun i snapshot => (calls i).program snapshot) s m)
    (ev : Locking.Event Resource ι)
    : (interleave calls m ev).store = m.store
        ∨ ∃ i reply, ev = .finish i ∧ Effect m.store (calls i) reply (interleave calls m ev).store := by
  rcases Locking.store_step rowLocks (fun i snapshot => (calls i).program snapshot) m ev
    with hsame | hcommit
  . exact .inl hsame
  . rcases hcommit with ⟨i, since, origin, reply, pending, rfl, hi⟩
    exact .inr ⟨i, reply, rfl, effect_of_commit hinv hi⟩

theorem interleave_inv (calls : ι → Call) (s : Store) (es : List (Locking.Event Resource ι))
    : Locking.Inv rowLocks (fun i snapshot => (calls i).program snapshot) s
        (Run.run (interleave calls) (.init s) es) :=
  Locking.inv_run _ _ _ es

/--
What the commit of a call may do: a money operation moves active wallets and changes no status, a
status change moves no wallet.
-/
structure Proper (c : Call) (s s' : Store) : Prop where
  active : c.statusUpdate? = none → ∀ id, ¬Unmoved s id s' →
    ∃ w, s.wallets.find? id = some w ∧ w.status = .ACTIVE
  status : c.statusUpdate? = none → ∀ id,
    (s'.wallets.find? id).map Wallet.status = (s.wallets.find? id).map Wallet.status
  unmoved : c.statusUpdate? ≠ none → ∀ id, Unmoved s id s'

theorem Effect.proper {s s' : Store} {c : Call} {reply : Reply} (h : Effect s c reply s')
    : Proper c s s' where
  active := fun _ _ hid => h.active_of_moved hid
  status := h.status_eq
  unmoved := by
    intro hc id
    rcases Option.ne_none_iff_exists'.mp hc with ⟨u, hu⟩
    apply h.unmoved
    simp [movements_of_statusUpdate hu]

theorem commits_are_proper (calls : ι → Call) (s : Store) (es : List (Locking.Event Resource ι))
    (ev : Locking.Event Resource ι)
    : (Run.run (interleave calls) (.init s) (es ++ [ev])).store =
          (Run.run (interleave calls) (.init s) es).store
        ∨ ∃ i, ev = .finish i
          ∧ Proper (calls i) (Run.run (interleave calls) (.init s) es).store
            (Run.run (interleave calls) (.init s) (es ++ [ev])).store := by
  rw [Run.run_append_singleton]
  rcases interleave_cases (interleave_inv calls s es) ev with hsame | ⟨i, reply, hev, heffect⟩
  . exact .inl hsame
  . exact .inr ⟨i, hev, heffect.proper⟩

end Interleaving

end Banking
