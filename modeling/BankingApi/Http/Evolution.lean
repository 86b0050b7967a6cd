import BankingApi.Http.Warrants

/-!
This module contains what one step may do to the tables, whether calls run side by side on the database
or requests are served side by side. What every step keeps holds in every store that is reached.
-/

namespace Banking

open Http

section Statements

theorem createUser_eq_ok_iff {s s' : Store} {row u : User}
    : Server.createUser s row = .ok (u, s') ↔
      isText row.fullName ∧ isText row.email
        ∧ s.users.find? row.id = none
        ∧ s.users.has User.customerId row.customerId = false
        ∧ s.users.has User.email row.email = false
        ∧ u = row ∧ s' = { s with users := s.users.insert row } := by
  unfold Server.createUser
  grind [Option.isSome_iff_ne_none]

theorem updateUser_eq_ok_iff {s s' : Store} {id : UserId} {change : UserChange} {u : User}
    : Server.updateUser s id change = .ok (u, s') ↔
      ∃ row, s.users.find? id = some row
        ∧ u = change.apply row
        ∧ s' = { s with users := s.users.update id change.apply change.id_apply } := by
  unfold Server.updateUser
  cases s.users.find? id <;> simp [eq_comm]

theorem updatePayment_eq_ok_iff {s s' : Store} {id : String} {f : Payment → Payment}
    {hf : ∀ p, (f p).id = p.id} {p : Payment}
    : PaymentRepository.update s id f hf = .ok (p, s') ↔
      ∃ row, s.payments.find? id = some row
        ∧ p = f row
        ∧ s' = { s with payments := s.payments.update id f hf } := by
  unfold PaymentRepository.update
  cases s.payments.find? id <;> simp [eq_comm]

theorem freshRef_of_run {c : Call} {snapshot s s' : Store} {p : Payment}
    (h : (c.program snapshot).run database s = .ok (.payment p, s'))
    : s.payments.has Payment.paymentRef p.paymentRef = false := by
  cases c
  all_goals
    rcases run_map_eq_ok_iff.mp h with ⟨_, hrun, hreply⟩
    cases hreply
  case processPayment =>
    unfold PaymentService.processPaymentBlock at hrun
    rw [Prog.run_bind, run_selectWalletsForUpdate] at hrun
    dsimp only at hrun
    simp only [Prog.run_bind_eq_ok_iff, run_receiverWallet_eq_ok_iff, Prog.run_require_eq_ok_iff,
      run_createTransaction_eq_ok_iff, run_postTransaction_eq_ok_iff, run_createPayment_eq_ok_iff]
      at hrun
    rcases hrun with ⟨_, _, ⟨_, rfl⟩, _, _, ⟨_, rfl⟩, _, _, ⟨_, rfl⟩, _, _,
      ⟨_, _, _, _, _, _, _, rfl⟩, _, _, ⟨_, _, _, _, _, _, _, _, rfl⟩, _, href, _, _, _, _, rfl, _⟩
    exact href

end Statements

-- What `verifyPayment` writes.
def PaymentVerdict (f : Payment → Payment) : Prop :=
  ∀ p, f p = { p with status := (f p).status, gatewayResponse := (f p).gatewayResponse }

/--
What one step may do to the tables: one statement or one block has succeeded.
-/
inductive Evolved (s : Store) : Store → Prop where
  | nothing : Evolved s s
  | createUser {row} (hfresh : s.users.find? row.id = none)
      (hcustomerId : s.users.has User.customerId row.customerId = false)
      (hemail : s.users.has User.email row.email = false) (hrole : row.role = .CUSTOMER)
    : Evolved s { s with users := s.users.insert row }
  | updateUser {id} {change : UserChange}
    : Evolved s { s with users := s.users.update id change.apply change.id_apply }
  | createWallet {row} (hfresh : s.wallets.find? row.id = none)
      (hnumber : s.wallets.has Wallet.walletNumber row.walletNumber = false)
      (huserId : s.wallets.has Wallet.userId row.userId = false)
      (huser : (s.users.find? row.userId).isSome) (hbalance : row.balance = 0)
    : Evolved s (s.addWallet row)
  | walletStatus {id status} : Evolved s (s.setStatus id status)
  | payment {id f} {hf : ∀ p, (f p).id = p.id} (hverdict : PaymentVerdict f)
    : Evolved s { s with payments := s.payments.update id f hf }
  | call {c reply s'} (h : Effect s c reply s')
      (href : ∀ p, reply = .payment p → s.payments.has Payment.paymentRef p.paymentRef = false)
    : Evolved s s'

theorem evolved_of_run {c : Call} {snapshot s s' : Store} {reply : Reply}
    (h : (c.program snapshot).run database s = .ok (reply, s'))
    : Evolved s s' := by
  apply Evolved.call (effect_of_run h)
  rintro p rfl
  exact freshRef_of_run h

theorem evolved_of_createWallet {s s' : Store} {row w : Wallet} (hbalance : row.balance = 0)
    (h : WalletRepository.createWallet s row = .ok (w, s'))
    : Evolved s s' := by
  rcases WalletRepository.createWallet_eq_ok_iff.mp h
    with ⟨hfresh, hnumber, huserId, huser, _, rfl⟩
  exact .createWallet hfresh hnumber huserId huser hbalance

theorem evolved_of_updatePayment {s s' : Store} {id : String} {f : Payment → Payment}
    {hf : ∀ p, (f p).id = p.id} {p : Payment} (hverdict : PaymentVerdict f)
    (h : PaymentRepository.update s id f hf = .ok (p, s'))
    : Evolved s s' := by
  rcases updatePayment_eq_ok_iff.mp h with ⟨_, _, _, rfl⟩
  exact .payment hverdict

abbrev Evolves : Store → Store → Prop :=
  Relation.ReflTransGen Evolved

section Bank

theorem exists_eq_ok_of_map_eq_ok {ε α β : Type} {x : Except ε α} {f : α → β} {b : β}
    (h : x.map f = .ok b)
    : ∃ a, x = .ok a ∧ f a = b := by
  cases x with
  | error e => cases h
  | ok a => exact ⟨a, rfl, Except.ok.inj h⟩

theorem evolved_step (s : Store) (ev : Event) : Evolved s (step s ev) := by
  unfold step
  cases hexec : ev.op.exec s with
  | error e => exact .nothing
  | ok s' =>
    dsimp only
    split
    . cases hop : ev.op with
      | createWallet userId currency id walletNumber =>
        rw [hop, Op.exec, WalletService.createWallet] at hexec
        split at hexec
        . cases hexec
        . dsimp only at hexec
          split at hexec
          . cases hexec
          . rcases exists_eq_ok_of_map_eq_ok hexec with ⟨⟨w, _⟩, hcreate, rfl⟩
            exact evolved_of_createWallet (by rfl) hcreate
      | call c =>
        rw [hop, Op.exec] at hexec
        rcases exists_eq_ok_of_map_eq_ok hexec with ⟨⟨reply, _⟩, hrun, rfl⟩
        exact evolved_of_run hrun
    . exact .nothing

theorem evolved_interleave {ι : Type} [DecidableEq ι] (calls : ι → Call) (s : Store)
    (es : List (Locking.Event Resource ι)) (ev : Locking.Event Resource ι)
    : Evolved (Run.run (interleave calls) (.init s) es).store
        (interleave calls (Run.run (interleave calls) (.init s) es) ev).store := by
  have hinv := interleave_inv calls s es
  generalize Run.run (interleave calls) (.init s) es = m at *
  rcases Locking.store_step rowLocks (fun i snapshot => (calls i).program snapshot) m ev
    with hsame | ⟨i, since, origin, reply, pending, rfl, hi⟩
  . unfold interleave
    rw [hsame]
    exact .nothing
  . rcases (hinv.running i _ _ _ _ hi).snapshot with ⟨snapshot, _, rfl⟩
    exact evolved_of_run (hinv.run_of_commit hi)

theorem evolves_interleave {ι : Type} [DecidableEq ι] (calls : ι → Call) (s : Store)
    {pre es : List (Locking.Event Resource ι)} (hle : pre <+: es)
    : Evolves (Run.run (interleave calls) (.init s) pre).store
        (Run.run (interleave calls) (.init s) es).store := by
  refine @Run.later_induction _ (fun mid => Evolves (Run.run (interleave calls) (.init s) pre).store
    (Run.run (interleave calls) (.init s) mid).store) _ _ hle .refl ?_
  intro mid ev _ _ ih
  rw [Run.run_append_singleton]
  exact ih.tail (evolved_interleave calls s mid ev)

theorem Later.evolves {s s' : Store} (h : Later s s') : Evolves s s' := by
  induction h with
  | refl => exact .refl
  | @step s' _ ev ih => exact ih.tail (evolved_step s' ev)
  | @interleaving s' _ _ _ calls es ih =>
    exact ih.trans (evolves_interleave calls s' List.nil_prefix)

end Bank

section Served

variable {P : Platform} {server : Server}

theorem evolved_commit {α : Type} {r : Except Failure (α × Store)}
    (h : ∀ a s', r = .ok (a, s') → Evolved server.store s')
    : Evolved server.store (server.commit r).2.store := by
  cases r with
  | error e => exact .nothing
  | ok res => exact h res.1 res.2 rfl

theorem evolved_commit_run {α : Type} {p : Tx α} (c : Call) (f : α → Reply)
    (hc : c.program server.store = f <$> p)
    : Evolved server.store (server.commit (p.run database server.store)).2.store := by
  apply evolved_commit
  intro a s' hrun
  apply evolved_of_run (c := c)
  rw [hc]
  exact run_map_eq_ok_iff.mpr ⟨a, hrun, rfl⟩

theorem evolved_block (key : IdempotencyKey) (request : PaymentRequest)
    : Evolved server.store (server.commit ((request.block key).run database server.store)).2.store := by
  unfold PaymentRequest.block
  split
  . next amount method receiverWalletId _ _ _ =>
    exact evolved_commit_run (.processPayment key amount method receiverWalletId request.createdBy
      request.description request.gen) .payment rfl
  . exact .nothing

theorem evolved_of_isRead {c : Command} (hc : c.isRead)
    : Evolved server.store (Server.exec P c server).2.store := by
  rw [exec_of_isRead hc]
  exact .nothing

theorem evolved_of_issues {user : Option RequestUser} {route : Route} {c : Command}
    (h : route.Issues user c)
    : Evolved server.store (Server.exec P c server).2.store := by
  have hupdate : ∀ id change,
      Evolved server.store (server.commit (Server.updateUser server.store id change)).2.store := by
    intro id change
    apply evolved_commit
    intro u s' h
    rcases updateUser_eq_ok_iff.mp h with ⟨_, _, _, rfl⟩
    exact .updateUser
  have hstatus : ∀ id status, Evolved server.store (server.commit
      ((WalletRepository.updateWalletStatus id status .global).run database server.store)).2.store := by
    intro id status
    apply evolved_commit
    intro w s' h
    rcases run_updateWalletStatus_eq_ok_iff.mp h with ⟨_, _, _, rfl⟩
    exact .walletStatus
  cases h with
  | read hc => exact evolved_of_isRead hc
  | @register row hrole =>
    apply evolved_commit (r := Server.createUser server.store row)
    intro u s' h
    rcases createUser_eq_ok_iff.mp h with ⟨_, _, hfresh, hcustomerId, hemail, _, rfl⟩
    exact .createUser hfresh hcustomerId hemail hrole
  | login => apply hupdate
  | logout => apply hupdate
  | updateMe _ hkey =>
    rw [exec_updateProfile hkey]
    exact .nothing
  | changePassword => apply hupdate
  | deleteMe => apply hupdate
  | changeStatus => apply hupdate
  | changeRole => apply hupdate
  | createWallet _ _ hbalance =>
    exact evolved_commit (fun _ _ h => evolved_of_createWallet hbalance h)
  | freezeWallet => apply hstatus
  | unfreezeWallet => apply hstatus
  | closeWallet => apply hstatus
  | @deposit self id amount description gen =>
    exact evolved_commit_run (.deposit id amount self.id description gen) .transaction rfl
  | @withdraw self id amount description gen =>
    exact evolved_commit_run (.withdraw id amount self.id description gen) .transaction rfl
  | @transfer self id id' amount description gen =>
    exact evolved_commit_run (.transfer id id' amount self.id description gen) .transaction rfl
  | processPayment => apply evolved_block
  | @setLock key now =>
    unfold Server.exec
    dsimp only
    split <;> exact .nothing
  | setResponse => exact .nothing
  | deleteLock => exact .nothing
  | publishPaymentEvent => exact .nothing
  | updatePaymentStatus => exact evolved_commit (fun _ _ h => evolved_of_updatePayment (fun _ => rfl) h)
  | updateGatewayResponse => exact evolved_commit (fun _ _ h => evolved_of_updatePayment (fun _ => rfl) h)
  | publishWebhookEvent => exact .nothing

variable {ι : Type} [DecidableEq ι] {requests : ι → Request}

theorem evolved_serveAll (es : List (SessionEvent ι)) (ev : SessionEvent ι)
    : Evolved (serveAll P requests server es).store.store
        (serveAll P requests server (es ++ [ev])).store.store := by
  rcases @serveAll_warranted P ι _ requests server es ev with hsame | ⟨i, c, _, hwarranted, hstore⟩
  . rw [hsame]
    exact .nothing
  . rw [hstore]
    rcases hwarranted.admissible with hread | ⟨user, _, hissues⟩
    . exact evolved_of_isRead hread
    . exact evolved_of_issues hissues

theorem evolves_serveAll {pre es : List (SessionEvent ι)} (hle : pre <+: es)
    : Evolves (serveAll P requests server pre).store.store
        (serveAll P requests server es).store.store := by
  refine @Run.later_induction _ (fun mid => Evolves (serveAll P requests server pre).store.store
    (serveAll P requests server mid).store.store) _ _ hle .refl ?_
  intro mid ev _ _ ih
  exact ih.tail (evolved_serveAll mid ev)

end Served

/--
What calls that run side by side on the database, or requests that are served side by side, make of an
empty bank.
-/
inductive Reached (users : Table User.id) : Store → Prop where
  | bank {s} (h : Later (.initial users) s) : Reached users s
  | served {ι : Type} [DecidableEq ι] (P : Platform) (requests : ι → Request) (server : Server)
      (hserver : server.store = .initial users) (es : List (SessionEvent ι))
    : Reached users (serveAll P requests server es).store.store

theorem Reached.evolves {users : Table User.id} {s : Store} (h : Reached users s)
    : Evolves (.initial users) s := by
  cases h with
  | bank h => exact h.evolves
  | served P requests server hserver es =>
    rw [← hserver]
    exact evolves_serveAll (P := P) List.nil_prefix

theorem Evolves.invariant {I : Store → Prop} (hstep : ∀ {s s'}, Evolved s s' → I s → I s')
    {s s' : Store} (h : Evolves s s') (hs : I s)
    : I s' := by
  induction h with
  | refl => exact hs
  | tail _ h ih => exact hstep h ih

theorem Evolves.preserves {R : Store → Store → Prop} (hrefl : ∀ s, R s s)
    (htrans : ∀ s s' s'', R s s' → R s' s'' → R s s'') (hstep : ∀ {s s'}, Evolved s s' → R s s')
    {s s' : Store} (h : Evolves s s')
    : R s s' := by
  induction h with
  | refl => apply hrefl
  | tail _ h ih => exact htrans _ _ _ ih (hstep h)

end Banking
