import BankingApi.Bank.Overdraft
import BankingApi.Http.Handlers

/-!
This module contains what one command does to users, to wallets and to the ledger.
-/

namespace Banking

open LedgerRepository

def Store.setUsers (s : Store) (users : Table User.id) : Store :=
  { s with users := users }

theorem applyAll_setUsers (ws : List Write) (s : Store) (users : Table User.id)
    : database.applyAll (s.setUsers users) ws = (database.applyAll s ws).setUsers users := by
  induction ws generalizing s with
  | nil => rfl
  | cons w ws ih =>
    have happly : database.apply (s.setUsers users) w = (database.apply s w).setUsers users := by
      cases w <;> rfl
    rw [Engine.applyAll_cons, Engine.applyAll_cons, happly]
    exact ih _

theorem run_setUsers {α : Type} (p : Tx α) (s : Store) (users : Table User.id)
    : p.run database (s.setUsers users) =
      (p.run database s).map (fun r => (r.1, r.2.setUsers users)) := by
  induction p generalizing s with
  | ret a => rfl
  | throw e => rfl
  | call q next ih =>
    have hexec : database.exec q (s.setUsers users) = database.exec q s := by
      rcases q with ⟨client, stmt⟩
      cases stmt <;> rfl
    rw [Prog.run_call, Prog.run_call, hexec]
    cases database.exec q s with
    | error e => rfl
    | ok res =>
      dsimp only
      rw [applyAll_setUsers]
      exact ih _ _

theorem Effect.users_eq {s s' : Store} {c : Call} {reply : Reply} (h : Effect s c reply s')
    : s'.users = s.users := by
  cases h <;> rfl

namespace Http

def Command.keepsUsers (c : Command) : Prop :=
  match c with
  | .createUser _ => False
  | .updateUser _ _ => False
  | .updateProfile _ _ => False
  | _ => True

section Commands

variable {P : Platform} {c : Command} {s : Server}

theorem commit_setUsers {α : Type} {r r' : Except Failure (α × Store)} {users : Table User.id}
    (h : r' = r.map (fun r => (r.1, r.2.setUsers users)))
    : (s.setUsers users).commit r' = ((s.commit r).1, (s.commit r).2.setUsers users) := by
  subst h
  cases r <;> rfl

theorem createWallet_setUsers (s : Store) (row : Wallet) {users : Table User.id}
    (h : ∀ id, (users.find? id).isSome = (s.users.find? id).isSome)
    : WalletRepository.createWallet (s.setUsers users) row =
      (WalletRepository.createWallet s row).map (fun r => (r.1, r.2.setUsers users)) := by
  unfold WalletRepository.createWallet
  simp only [Store.setUsers, h]
  split
  . rfl
  . split <;> rfl

theorem updatePayment_setUsers (s : Store) (users : Table User.id) (id : String)
    (f : Payment → Payment) (hf : ∀ p, (f p).id = p.id)
    : PaymentRepository.update (s.setUsers users) id f hf =
      (PaymentRepository.update s id f hf).map (fun r => (r.1, r.2.setUsers users)) := by
  unfold PaymentRepository.update
  dsimp only [Store.setUsers]
  split <;> rfl

-- A command that has nothing to do with users sees of them only which ones there are.
theorem exec_setUsers (hkeeps : c.keepsUsers) (hreads : ¬c.readsUsers) {users : Table User.id}
    (h : ∀ id, (users.find? id).isSome = (s.store.users.find? id).isSome)
    : Server.exec P c (s.setUsers users) =
      ((Server.exec P c s).1, (Server.exec P c s).2.setUsers users) := by
  cases c
  case createUser => cases hkeeps
  case updateUser => cases hkeeps
  case updateProfile => cases hkeeps
  case findUserByEmail => cases hreads trivial
  case findUserById => cases hreads trivial
  case findUserByRefreshToken => cases hreads trivial
  case getAllUsers => cases hreads trivial
  case createWallet row => exact commit_setUsers (createWallet_setUsers s.store row h)
  case updatePaymentStatus => exact commit_setUsers (updatePayment_setUsers _ _ _ _ _)
  case updateGatewayResponse => exact commit_setUsers (updatePayment_setUsers _ _ _ _ _)
  case updateWalletStatus => exact commit_setUsers (run_setUsers _ _ _)
  case deposit => exact commit_setUsers (run_setUsers _ _ _)
  case withdraw => exact commit_setUsers (run_setUsers _ _ _)
  case transfer => exact commit_setUsers (run_setUsers _ _ _)
  case processPayment => exact commit_setUsers (run_setUsers _ _ _)
  case setLock key now =>
    unfold Server.exec
    dsimp only
    by_cases hlocked : (s.locks key).any (now < ·) = true
    . rw [if_pos hlocked, if_pos (by exact hlocked)]
    . rw [if_neg hlocked, if_neg (by exact hlocked)]
      rfl
  all_goals rfl

theorem users_exec (hkeeps : c.keepsUsers) : (Server.exec P c s).2.store.users = s.store.users := by
  by_cases hreads : c.readsUsers
  . cases c <;> first | rfl | cases hreads
  . have hexec := exec_setUsers hkeeps hreads (P := P) (s := s) (fun _ => rfl)
    exact congrArg (fun r => r.2.store.users) hexec

-- No field of the model has this name.
theorem exec_updateProfile {id : UserId} {data : List (String × Json)}
    (hkey : "body" ∈ data.map Prod.fst)
    : Server.exec P (.updateProfile id data) s = (.error .invalid, s) := by
  have hfields : ¬data.all (fun field => field.1 ∈ userFields) = true := by
    rcases List.mem_map.mp hkey with ⟨field, hfield, heq⟩
    intro hall
    have := List.all_eq_true.mp hall field hfield
    rw [heq] at this
    revert this
    decide
  unfold Server.exec Server.updateProfile
  dsimp only
  rw [if_neg hfields]
  rfl

end Commands

def Command.call? (c : Command) : Option Call :=
  match c with
  | .deposit receiverWalletId amount createdBy description gen =>
    some (.deposit receiverWalletId amount createdBy description gen)
  | .withdraw senderWalletId amount createdBy description gen =>
    some (.withdraw senderWalletId amount createdBy description gen)
  | .transfer senderWalletId receiverWalletId amount createdBy description gen =>
    some (.transfer senderWalletId receiverWalletId amount createdBy description gen)
  | .processPayment key request =>
    match request.amount, request.method, request.receiverWalletId with
    | some amount, some method, some receiverWalletId =>
      some (.processPayment key amount method receiverWalletId request.createdBy request.description
        request.gen)
    | _, _, _ => none
  | _ => none

-- The wallet that a command takes money from.
def Command.debited? (c : Command) : Option WalletId :=
  match c with
  | .withdraw senderWalletId _ _ _ _ => some senderWalletId
  | .transfer senderWalletId _ _ _ _ _ => some senderWalletId
  | _ => none

theorem debited_of_call? {c : Command} {call : Call} {id : WalletId} {a : Binary64}
    (hcall : c.call? = some call) (hdebit : call.debit? = some (id, a))
    : c.debited? = some id := by
  unfold Command.call? at hcall
  split at hcall
  . cases hcall
    cases hdebit
  . cases hcall
    cases hdebit
    rfl
  . cases hcall
    cases hdebit
    rfl
  . split at hcall
    . cases hcall
      cases hdebit
    . cases hcall
  . cases hcall

-- The wallet that a command pays a separated amount into, which may be below zero.
def Command.separated? (c : Command) : Option WalletId :=
  match c with
  | .processPayment _ request =>
    match request.amount with
    | some (.separated _) => request.receiverWalletId
    | _ => none
  | _ => none

theorem separated_of_call? {c : Command} {call : Call} {id : WalletId} {q : ℚ}
    (hcall : c.call? = some call) (hseparated : call.separated? = some (id, q))
    : c.separated? = some id := by
  unfold Command.call? at hcall
  split at hcall
  . cases hcall
    cases hseparated
  . cases hcall
    cases hseparated
  . cases hcall
    cases hseparated
  . split at hcall
    . next hamount _ hreceiver =>
      cases hcall
      unfold Call.separated? at hseparated
      split at hseparated
      . next heq =>
        cases heq
        cases hseparated
        unfold Command.separated?
        simp [hamount, hreceiver]
      . cases hseparated
    . cases hcall
  . cases hcall

-- `updateProfile` is handed what `validate` lets through.
def Command.keepsProfiles (c : Command) : Prop :=
  match c with
  | .updateProfile _ data => "body" ∈ data.map Prod.fst
  | _ => True

/--
What a command has done to the store.
-/
inductive Executed (s : Store) : Command → Store → Prop where
  | nothing {c} : Executed s c s
  | createUser {row} (hfresh : s.users.find? row.id = none)
    : Executed s (.createUser row) { s with users := s.users.insert row }
  | updateUser {id change}
    : Executed s (.updateUser id change)
        { s with users := s.users.update id change.apply change.id_apply }
  | createWallet {row} (hfresh : s.wallets.find? row.id = none)
    : Executed s (.createWallet row) (s.addWallet row)
  | updateWalletStatus {id status}
    : Executed s (.updateWalletStatus id status) (s.setStatus id status)
  | payments {c payments} : Executed s c { s with payments := payments }
  | call {c call reply s'} (hcall : c.call? = some call) (h : Effect s call reply s')
    : Executed s c s'

section Executed

variable {P : Platform} {c : Command} {s s' : Store}

theorem executed_commit {α : Type} {server : Server} {r : Except Failure (α × Store)}
    (h : ∀ a s', r = .ok (a, s') → Executed server.store c s')
    : Executed server.store c (server.commit r).2.store := by
  cases r with
  | error e => exact .nothing
  | ok res => exact h res.1 res.2 rfl

theorem executed_updatePayment {server : Server} {id : String} {f : Payment → Payment}
    {hf : ∀ p, (f p).id = p.id}
    : Executed server.store c
        (server.commit (PaymentRepository.update server.store id f hf)).2.store := by
  apply executed_commit
  intro payment s' h
  unfold PaymentRepository.update at h
  split at h
  . cases h
  . cases h
    exact .payments

theorem exec_cases (server : Server) (hc : c.keepsProfiles)
    : Executed server.store c (Server.exec P c server).2.store := by
  cases c
  case createUser row =>
    rcases exec_createUser_cases P server row with ⟨_, hexec⟩ | ⟨hfresh, _, hexec⟩
    . rw [hexec]
      exact .nothing
    . rw [hexec]
      exact .createUser hfresh
  case updateUser id change =>
    cases hfind : server.store.users.find? id with
    | none =>
      rw [exec_updateUser_of_not_find? P hfind]
      exact .nothing
    | some row =>
      rw [exec_updateUser_of_find? P hfind]
      exact .updateUser
  case updateProfile id data =>
    rw [exec_updateProfile hc]
    exact .nothing
  case createWallet row =>
    refine executed_commit (r := WalletRepository.createWallet server.store row) ?_
    intro wallet s' h
    rcases WalletRepository.createWallet_eq_ok_iff.mp h with ⟨hfresh, _, _, _, _, rfl⟩
    exact .createWallet hfresh
  case updateWalletStatus id status =>
    let block := WalletRepository.updateWalletStatus id status .global
    refine executed_commit (r := block.run database server.store) ?_
    intro wallet s' h
    rcases run_updateWalletStatus_eq_ok_iff.mp h with ⟨_, _, _, rfl⟩
    exact .updateWalletStatus
  case updatePaymentStatus => exact executed_updatePayment
  case updateGatewayResponse => exact executed_updatePayment
  case deposit => exact executed_commit (fun _ _ h => .call rfl (run_deposit h))
  case withdraw => exact executed_commit (fun _ _ h => .call rfl (run_withdraw h))
  case transfer => exact executed_commit (fun _ _ h => .call rfl (run_transfer h))
  case processPayment key request =>
    refine executed_commit (r := (request.block key).run database server.store) ?_
    intro payment s' h
    rcases effect_of_block h with ⟨_, _, _, hamount, hmethod, hreceiver, heffect⟩
    apply Executed.call _ heffect
    unfold Command.call?
    simp only [hamount, hmethod, hreceiver]
  case setLock key now =>
    unfold Server.exec
    dsimp only
    split <;> exact .nothing
  all_goals exact .nothing

theorem statusUpdate?_of_call? {call : Call} (h : c.call? = some call)
    : call.statusUpdate? = none := by
  unfold Command.call? at h
  split at h
  . cases h
    rfl
  . cases h
    rfl
  . cases h
    rfl
  . split at h
    . cases h
      rfl
    . cases h
  . cases h

theorem Executed.user_cases {u' : User} (h : Executed s c s') (hu' : u' ∈ s'.users.rows)
    : u' ∈ s.users.rows
        ∨ (c = .createUser u' ∧ s.users.find? u'.id = none)
        ∨ ∃ u ∈ s.users.rows, ∃ change, c = .updateUser u.id change ∧ u' = change.apply u := by
  cases h with
  | @createUser row hfresh =>
    change u' ∈ (s.users.insert row).rows at hu'
    rw [Table.rows_insert hfresh, List.mem_append, List.mem_singleton] at hu'
    rcases hu' with hu' | rfl
    . exact .inl hu'
    . exact .inr (.inl ⟨rfl, hfresh⟩)
  | @updateUser id change =>
    change u' ∈ (s.users.update id change.apply change.id_apply).rows at hu'
    rw [Table.mem_rows_update] at hu'
    rcases hu' with ⟨u, hu, rfl, rfl⟩ | ⟨hu', _⟩
    . exact .inr (.inr ⟨u, hu, change, rfl, rfl⟩)
    . exact .inl hu'
  | call hcall h => exact .inl (by rwa [h.users_eq] at hu')
  | _ => exact .inl hu'

theorem Executed.user_kept {id : UserId} (h : Executed s c s') (hid : (s.users.find? id).isSome)
    : (s'.users.find? id).isSome := by
  cases h with
  | createUser hfresh =>
    change ((Table.insert _ _).find? id).isSome
    rw [Table.find?_insert, Option.isSome_or, hid]
    rfl
  | @updateUser id' change =>
    change ((s.users.update id' change.apply change.id_apply).find? id).isSome
    rw [Table.find?_update]
    split
    . simpa using hid
    . exact hid
  | call hcall h =>
    rw [h.users_eq]
    exact hid
  | _ => exact hid

theorem Executed.user_changed {u u' : User} (h : Executed s c s') (hu : u ∈ s.users.rows)
    (hu' : u' ∈ s'.users.rows) (hid : u'.id = u.id)
    : u' = u ∨ ∃ change, c = .updateUser u.id change ∧ u' = change.apply u := by
  rcases h.user_cases hu' with hold | ⟨_, hfresh⟩ | ⟨u₀, hu₀, change, hc, heq⟩
  . exact .inl (Table.eq_of_mem_of_key_eq hold hu hid)
  . rw [hid, Table.find?_of_mem hu] at hfresh
    cases hfresh
  . have hkey : u₀.id = u.id := by rw [← change.id_apply u₀, ← heq, hid]
    cases Table.eq_of_mem_of_key_eq hu₀ hu hkey
    exact .inr ⟨change, hc, heq⟩

theorem Executed.wallet_kept {id : WalletId} {w : Wallet} (h : Executed s c s')
    (hw : s.wallets.find? id = some w)
    : ∃ w', s'.wallets.find? id = some w' ∧ w'.userId = w.userId
        ∧ (w'.status = w.status ∨ c = .updateWalletStatus id w'.status)
        ∧ (w'.balance.toRat < w.balance.toRat → c.debited? = some id ∨ c.separated? = some id) := by
  have hsame : ∃ w', s.wallets.find? id = some w' ∧ w'.userId = w.userId
      ∧ (w'.status = w.status ∨ c = .updateWalletStatus id w'.status)
      ∧ (w'.balance.toRat < w.balance.toRat → c.debited? = some id ∨ c.separated? = some id) :=
    ⟨w, hw, rfl, .inl rfl, fun hlt => absurd hlt (lt_irrefl _)⟩
  cases h with
  | createWallet hfresh =>
    rcases hsame with ⟨w', hw', hrest⟩
    refine ⟨w', ?_, hrest⟩
    change (Table.insert _ _).find? id = _
    rw [Table.find?_insert, hw', Option.some_or]
  | @updateWalletStatus id' status =>
    rw [find?_setStatus]
    split
    . next heq =>
      subst heq
      rw [hw]
      exact ⟨_, rfl, rfl, .inr rfl, fun hlt => absurd hlt (lt_irrefl _)⟩
    . exact hsame
  | @call _ call _ _ hcall h =>
    have huser := h.userId_eq id
    have hstatus := h.status_eq (statusUpdate?_of_call? hcall) id
    rw [hw, Option.map_some, Option.map_eq_some_iff] at huser hstatus
    rcases huser with ⟨w', hw', huser⟩
    rcases hstatus with ⟨_, hw'', hstatus⟩
    cases hw'.symm.trans hw''
    refine ⟨w', hw', huser, .inl hstatus, ?_⟩
    intro hlt
    rcases h.debit_of_lt hw hw' hlt with ⟨a, hdebit⟩ | ⟨q, hseparated⟩
    . exact .inl (debited_of_call? hcall hdebit)
    . exact .inr (separated_of_call? hcall hseparated)
  | _ => exact hsame

theorem Executed.debited_of_entry {e : LedgerEntry} (h : Executed s c s')
    (he : e ∈ s'.ledgerEntries.rows) (hnew : e ∉ s.ledgerEntries.rows) (htype : e.entryType = .DEBIT)
    : c.debited? = some e.walletId ∧ ∃ w, s.wallets.find? e.walletId = some w := by
  cases h with
  | call hcall h =>
    rcases h.debit_of_entry he hnew htype with ⟨a, w, hdebit, hw⟩
    exact ⟨debited_of_call? hcall hdebit, w, hw⟩
  | _ => exact absurd he hnew

end Executed

end Http

end Banking
