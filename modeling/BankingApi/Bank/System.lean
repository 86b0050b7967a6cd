import BankingApi.Bank.Movement
import BankingApi.Store.Run

/-!
This module contains the bank as a system: its operations one after another, each of which commits
or rolls back.
-/

namespace Banking

open LedgerRepository

inductive Op where
  | createWallet (userId : UserId) (currency : Option String) (id : WalletId)
      (walletNumber : String)
  | call (c : Call)

namespace Op

def movements (op : Op) : List Movement :=
  match op with
  | .createWallet _ _ _ _ => []
  | .call c => c.movements

def exec (op : Op) (s : Store) : Except Failure Store :=
  match op with
  | .createWallet userId currency id walletNumber =>
    (WalletService.createWallet userId currency id walletNumber s).map Prod.snd
  | .call c => ((c.program s).run database s).map Prod.snd

end Op

structure Event where
  op : Op
  commits : Bool

def Event.Commits (ev : Event) (s : Store) : Prop :=
  ev.commits = true ∧ ∃ s', ev.op.exec s = .ok s'

def step (s : Store) (ev : Event) : Store :=
  match ev.op.exec s with
  | .error _ => s
  | .ok s' => if ev.commits then s' else s

inductive Stepped (s : Store) (ev : Event) : Store → Prop where
  | rollback (h : ¬ev.Commits s) : Stepped s ev s
  | wallet {userId currency id walletNumber w}
      (hop : ev.op = .createWallet userId currency id walletNumber) (hcommits : ev.Commits s)
      (hfresh : s.wallets.find? w.id = none) (hbalance : w.balance = 0)
    : Stepped s ev (s.addWallet w)
  | call {c reply s'} (hop : ev.op = .call c) (hcommits : ev.Commits s) (h : Effect s c reply s')
    : Stepped s ev s'

theorem WalletRepository.createWallet_eq_ok_iff {s s' : Store} {row w : Wallet}
    : WalletRepository.createWallet s row = .ok (w, s') ↔
      s.wallets.find? row.id = none
        ∧ s.wallets.has Wallet.walletNumber row.walletNumber = false
        ∧ s.wallets.has Wallet.userId row.userId = false
        ∧ (s.users.find? row.userId).isSome ∧ w = row ∧ s' = s.addWallet row := by
  unfold WalletRepository.createWallet Store.addWallet
  grind [Option.isSome_iff_ne_none]

theorem createWallet_eq_ok {userId : UserId} {currency : Option String} {id : WalletId}
    {walletNumber : String} {s s' : Store} {w : Wallet}
    (h : WalletService.createWallet userId currency id walletNumber s = .ok (w, s'))
    : s.wallets.find? id = none ∧ w = ⟨id, walletNumber, 0, currency.getD "INR", .ACTIVE, userId⟩
        ∧ s' = s.addWallet w := by
  unfold WalletService.createWallet at h
  split at h
  . cases h
  . dsimp only at h
    split at h
    . cases h
    . rcases WalletRepository.createWallet_eq_ok_iff.mp h with ⟨hfresh, _, _, _, rfl, rfl⟩
      exact ⟨hfresh, rfl, rfl⟩

theorem step_cases (s : Store) (ev : Event) : Stepped s ev (step s ev) := by
  unfold step
  cases hexec : ev.op.exec s with
  | error e =>
    apply Stepped.rollback
    rintro ⟨_, s', h⟩
    rw [hexec] at h
    cases h
  | ok s' =>
    dsimp only
    split
    . next hc =>
      have hcommits : ev.Commits s := ⟨hc, s', hexec⟩
      cases hop : ev.op with
      | createWallet userId currency id walletNumber =>
        rw [hop, Op.exec] at hexec
        cases hcreate : WalletService.createWallet userId currency id walletNumber s with
        | error e => simp [hcreate, Except.map] at hexec
        | ok res =>
          simp only [hcreate, Except.map, Except.ok.injEq] at hexec
          rcases createWallet_eq_ok hcreate with ⟨hfresh, hw, heq⟩
          rw [← hexec, heq, hw]
          exact Stepped.wallet hop hcommits hfresh rfl
      | call c =>
        rw [hop, Op.exec] at hexec
        cases hrun : (c.program s).run database s with
        | error e => simp [hrun, Except.map] at hexec
        | ok res =>
          simp only [hrun, Except.map, Except.ok.injEq] at hexec
          rw [← hexec]
          exact Stepped.call hop hcommits (effect_of_run hrun)
    . next hc =>
      apply Stepped.rollback
      rintro ⟨h, _⟩
      exact hc h

theorem step_effect {s : Store} {ev : Event} {c : Call} (hc : ev.Commits s) (hop : ev.op = .call c)
    : ∃ reply, Effect s c reply (step s ev) := by
  have hstep := step_cases s ev
  generalize step s ev = s' at *
  cases hstep with
  | rollback h => exact absurd hc h
  | wallet hop' => cases hop.symm.trans hop'
  | call hop' _ h =>
    cases hop.symm.trans hop'
    exact ⟨_, h⟩

theorem exists_call_of_mem_movements {op : Op} {m : Movement} (hm : m ∈ op.movements)
    : ∃ c, op = .call c ∧ m ∈ c.movements := by
  cases op with
  | createWallet => cases hm
  | call c => exact ⟨c, rfl, hm⟩

theorem step_moved {s : Store} {ev : Event} {m : Movement} (hc : ev.Commits s)
    (hm : m ∈ ev.op.movements)
    : ∃ w e, Moved s m w e (step s ev) := by
  rcases exists_call_of_mem_movements hm with ⟨c, hop, hm⟩
  rcases step_effect hc hop with ⟨reply, h⟩
  exact h.moved hm

def Opened (s : Store) (id : WalletId) (s' : Store) : Prop :=
  entries s' id = entries s id
    ∧ s.wallets.find? id = none
    ∧ ∃ w, s'.wallets.find? id = some w ∧ w.balance = 0

theorem step_unmoved {s : Store} {ev : Event} {id : WalletId}
    (hid : ev.Commits s → ∀ m ∈ ev.op.movements, m.walletId ≠ id)
    : Unmoved s id (step s ev) ∨ Opened s id (step s ev) := by
  have hstep := step_cases s ev
  generalize step s ev = s' at *
  cases hstep with
  | rollback h => exact .inl ⟨rfl, rfl⟩
  | @wallet _ _ _ _ w hop hcommits hfresh hbalance =>
    by_cases heq : w.id = id
    . right
      subst heq
      exact ⟨rfl, hfresh, w, Table.find?_insert_self hfresh, hbalance⟩
    . left
      refine ⟨rfl, ?_⟩
      change ((Table.insert _ w).find? id).map _ = _
      rw [Table.find?_insert_of_ne heq]
  | call hop hcommits h =>
    left
    rw [hop] at hid
    exact h.unmoved (hid hcommits)

def EntriesHaveWallets (s : Store) : Prop :=
  ∀ id, entries s id ≠ [] → (s.wallets.find? id).isSome

theorem entriesHaveWallets_step (s : Store) (ev : Event) (h : EntriesHaveWallets s)
    : EntriesHaveWallets (step s ev) := by
  intro id hentries
  by_cases hid : ev.Commits s ∧ ∃ m ∈ ev.op.movements, m.walletId = id
  . rcases hid with ⟨hc, m, hm, rfl⟩
    rcases step_moved hc hm with ⟨w, e, hmoved⟩
    simp [hmoved.find?_eq]
  . rcases step_unmoved (fun hc m hm heq => hid ⟨hc, m, hm, heq⟩) with hsame | hopened
    . rw [hsame.1] at hentries
      have := congrArg Option.isSome hsame.2
      simpa [h id hentries] using this
    . rcases hopened with ⟨_, _, w, hw, _⟩
      simp [hw]

theorem entriesHaveWallets_initial (users : Table User.id)
    : EntriesHaveWallets (.initial users) := by
  intro id h
  exact absurd rfl h

def sampleUser (id : UserId) : User where
  id := id
  customerId := "customer-" ++ id
  fullName := id
  email := id ++ "@example.com"
  phone := none
  password := "hash-" ++ id
  role := .CUSTOMER
  status := .ACTIVE
  isVerified := false
  refreshToken := none

def sampleUsers : Table User.id where
  rows := [sampleUser "alice", sampleUser "bob"]
  hrows := by decide

def sampleGenerated (n : String) : Generated where
  transactionId := "transaction" ++ n
  transactionRef := "TX-" ++ n
  transactionCreatedAt := 0
  debitEntryId := "debit" ++ n
  debitCreatedAt := 0
  creditEntryId := "credit" ++ n
  creditCreatedAt := 0
  paymentId := "payment" ++ n
  paymentRef := "PAY-" ++ n
  paymentCreatedAt := 0

def sampleDeposit : List Event :=
  [
    ⟨.createWallet "alice" none "a" "1", true⟩,
    ⟨.call (.deposit "a" (.ofRat 1 Binary64.abs_round_one_lt) "alice" none (sampleGenerated "1")), true⟩
  ]

end Banking
