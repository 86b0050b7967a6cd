import BankingApi.Http.Release
import BankingApi.Store.Turns

/-!
This module contains how many commands a request sends: it has its response once as many have been
answered, and has given its lock back by then if none has failed. A command may take its time, as
`SELECT .. FOR UPDATE` does for the row locks of others.
-/

namespace Banking.Http

open Prog

-- `authenticate` looks its user up.
def Guard.commands (guard : Guard) : ℕ :=
  match guard with
  | .open => 0
  | _ => 1

-- What the handler of a route sends at most.
def Route.commands (route : Route) : ℕ :=
  match route with
  | .register => 2
  | .login => 2
  | .refresh => 1
  | .logout => 1
  | .profile => 1
  | .getMe => 1
  | .updateMe => 2
  | .changePassword => 2
  | .deleteMe => 2
  | .getAllUsers => 1
  | .changeStatus _ => 2
  | .changeRole _ => 2
  | .createWallet => 3
  | .getWallet => 1
  | .freezeWallet => 2
  | .unfreezeWallet => 2
  | .closeWallet => 3
  | .deposit => 2
  | .withdraw => 2
  | .transfer => 2
  | .getHistory => 2
  | .getTransactionDetails _ => 1
  | .getWalletLedger _ => 1
  | .getTransactionLedgerEntries _ => 2
  -- A cached response and the lock to look for, three commands under the lock, and `finally`.
  | .createPayment => 6
  | .verifyPayment => 4
  | .getPayments => 1
  | .getPayment _ => 1
  | .gateway => 4
  | _ => 0

section Within

variable {P : Platform} {α β : Type} {n : ℕ}

theorem within_query (c : Command) : (query c : Action c.Value).Within (n + 1) := by
  refine ⟨by omega, ?_⟩
  intro r
  cases r <;> trivial

-- `p` sends nothing.
theorem within_bind_first {p : Action β} {f : β → Action α} (hp : p.Within 0)
    (hf : ∀ b, (f b).Within n)
    : (p >>= f).Within n :=
  within_bind hp hf

-- `p` sends one command at most.
theorem within_bind_next {p : Action β} {f : β → Action α} (hp : p.Within 1)
    (hf : ∀ b, (f b).Within n)
    : (p >>= f).Within (n + 1) :=
  within_bind hp hf

theorem within_query_bind (c : Command) {f : c.Value → Action α} (hf : ∀ a, (f a).Within n)
    : (query c >>= f).Within (n + 1) :=
  within_bind_next (within_query c) hf

-- What comes after `p` sends nothing.
theorem within_bind_last {p : Action β} {f : β → Action α} (hp : p.Within n)
    (hf : ∀ b, (f b).Within 0)
    : (p >>= f).Within n := by
  rw [← Nat.zero_add n]
  exact within_bind hp hf

theorem within_required (s : Option String) : (required s).Within n := by
  cases s <;> trivial

theorem within_destructure (body : Option Json) : (destructure body).Within n := by
  unfold destructure
  split <;> trivial

theorem within_enumeration (ofString? : String → Option α) (value : Option Json)
    : (UserRepository.enumeration ofString? value).Within n := by
  unfold UserRepository.enumeration
  split
  . trivial
  . split <;> trivial

theorem within_existingUser (userId : UserId) : (UserService.existingUser userId).Within (n + 1) := by
  apply within_query_bind
  intro user
  cases user <;> trivial

theorem within_getUserWalletId (userId : UserId)
    : (TransactionController.getUserWalletId userId).Within (n + 1) := by
  apply within_query_bind
  intro wallet
  cases wallet <;> trivial

theorem within_getWalletDetails (userId : UserId)
    : (WalletService.getWalletDetails userId).Within (n + 1) := by
  apply within_query_bind
  intro wallet
  cases wallet <;> trivial

theorem within_changeWalletStatus (walletId : WalletId) (status : WalletStatus) (closed : String)
    : (WalletService.changeStatus walletId status closed).Within (n + 2) := by
  apply within_query_bind
  intro wallet
  cases wallet with
  | none => trivial
  | some wallet =>
    dsimp only
    split
    . trivial
    . exact within_query _

theorem within_validateConstraints (wallet : Option Wallet)
    : (TransactionService.validateConstraints wallet).Within n := by
  unfold TransactionService.validateConstraints
  cases wallet with
  | none => trivial
  | some wallet =>
    dsimp only
    split <;> trivial

theorem within_withoutAmount (walletId : WalletId)
    : (TransactionService.withoutAmount walletId).Within (n + 1) := by
  apply within_query_bind
  intro wallets
  exact within_bind_last (within_validateConstraints _) (fun _ => by trivial)

theorem within_throughClient (c : Command)
    : (PaymentRepository.throughClient P c).Within (n + 1) := by
  unfold PaymentRepository.throughClient
  split
  . trivial
  . exact within_query _

section Middlewares

variable {request : Request}

theorem within_authenticate : (authenticate P request).Within 1 := by
  unfold authenticate
  cases request.bearerToken? with
  | none => trivial
  | some token =>
    dsimp only
    cases verifyAccessToken P token request.draw.now with
    | error e => cases e <;> trivial
    | ok claims =>
      apply within_bind_first (within_required _)
      intro userId
      apply within_query_bind (.findUserById userId)
      intro user
      cases user with
      | none => trivial
      | some user =>
        dsimp only
        split <;> trivial

theorem within_guarded : (guarded P request).Within request.route.guard.commands := by
  unfold guarded
  cases request.route.guard with
  | «open» => trivial
  | authenticated => exact within_bind_last within_authenticate (fun _ => by trivial)
  | authorized allowedRoles =>
    apply within_bind_last within_authenticate
    intro user
    unfold authorize
    split <;> trivial

theorem within_middlewares : (middlewares P request).Within request.route.guard.commands := by
  apply within_bind_last within_guarded
  intro user
  cases validated P request <;> trivial

end Middlewares

section Handlers

variable (self : RequestUser)

theorem within_register (body : Option Json) (new : AuthService.NewUser)
    : (AuthController.register P body new).Within 2 := by
  apply within_bind_first (within_destructure body)
  intro body
  apply within_bind_last _ (fun _ => by trivial)
  apply within_bind_first (within_required _)
  intro email
  apply within_query_bind (.findUserByEmail email)
  intro existingUser
  cases existingUser with
  | some user => trivial
  | none =>
    apply within_bind_first
    . exact within_bind_first (within_required _) (fun _ => by trivial)
    . intro hashedPassword
      apply within_bind_first (within_required _)
      intro fullName
      exact within_bind_last (within_query _) (fun _ => by trivial)

theorem within_login (body : Option Json) (now : ℕ)
    : (AuthController.login P body now).Within 2 := by
  apply within_bind_first (within_destructure body)
  intro body
  apply within_bind_last _ (fun _ => by trivial)
  apply within_bind_first (within_required _)
  intro email
  apply within_query_bind (.findUserByEmail email)
  intro user
  cases user with
  | none => trivial
  | some user =>
    apply within_bind_first
    . exact within_bind_first (within_required _) (fun _ => by trivial)
    . intro isPasswordValid
      split
      . exact within_bind_last (within_query _) (fun _ => by trivial)
      . trivial

theorem within_refreshToken (body : Option Json) (now : ℕ)
    : (AuthController.refreshToken P body now).Within 1 := by
  apply within_bind_first (within_destructure body)
  intro body
  apply within_bind_last _ (fun _ => by trivial)
  unfold AuthService.refreshAccessToken
  split
  . trivial
  . split
    . trivial
    . apply within_query_bind
      intro user
      cases user <;> trivial

theorem within_logout : (AuthController.logout self).Within 1 :=
  within_bind_last (within_bind_last (within_query _) (fun _ => by trivial)) (fun _ => by trivial)

theorem within_getProfile : (AuthController.getProfile self).Within 1 := by
  apply within_bind_last _ (fun _ => by trivial)
  apply within_query_bind
  intro user
  cases user <;> trivial

theorem within_getMe : (UserController.getMe self).Within 1 := by
  apply within_bind_last _ (fun _ => by trivial)
  apply within_query_bind
  intro user
  cases user <;> trivial

theorem within_updateMe (body : Option Json) : (UserController.updateMe self body).Within 2 := by
  apply within_bind_last _ (fun _ => by trivial)
  apply within_bind_next (within_existingUser self.id)
  intro _
  dsimp only
  split
  . trivial
  . trivial
  . exact within_bind_last (within_query _) (fun _ => by trivial)
  . trivial

theorem within_changePassword (body : Option Json) (salt : String)
    : (UserController.changePassword P self body salt).Within 2 := by
  apply within_bind_first (within_destructure body)
  intro body
  apply within_bind_last _ (fun _ => by trivial)
  apply within_bind_next (within_existingUser self.id)
  intro _
  apply within_bind_first
  . exact within_bind_first (within_required _) (fun _ => by trivial)
  . intro hashedPassword
    exact within_bind_last (within_query _) (fun _ => by trivial)

theorem within_deleteMe : (UserController.deleteMe self).Within 2 := by
  apply within_bind_last _ (fun _ => by trivial)
  apply within_bind_next (within_existingUser self.id)
  intro _
  exact within_bind_last (within_query _) (fun _ => by trivial)

theorem within_getAllUsers (scan : Scan) : (UserController.getAllUsers scan).Within 1 :=
  within_bind_last (within_bind_last (within_query _) (fun _ => by trivial)) (fun _ => by trivial)

theorem within_changeStatus (id : String) (body : Option Json)
    : (UserController.changeStatus self id body).Within 2 := by
  apply within_bind_first (within_destructure body)
  intro body
  apply within_bind_last _ (fun _ => by trivial)
  unfold UserService.changeStatus
  split
  . trivial
  . apply within_bind_next (within_existingUser id)
    intro _
    apply within_bind_last _ (fun _ => by trivial)
    exact within_bind_first (within_enumeration _ _) (fun _ => within_query _)

theorem within_changeRole (id : String) (body : Option Json)
    : (UserController.changeRole self id body).Within 2 := by
  apply within_bind_first (within_destructure body)
  intro body
  apply within_bind_last _ (fun _ => by trivial)
  unfold UserService.changeRole
  split
  . trivial
  . apply within_bind_next (within_existingUser id)
    intro _
    apply within_bind_last _ (fun _ => by trivial)
    exact within_bind_first (within_enumeration _ _) (fun _ => within_query _)

theorem within_createWallet (body : Option Json) (id : WalletId) (walletNumber : String)
    : (WalletController.createWallet self body id walletNumber).Within 3 := by
  apply within_bind_first (within_destructure body)
  intro body
  apply within_bind_last _ (fun _ => by trivial)
  apply within_bind_next (within_existingUser self.id)
  intro _
  apply within_query_bind
  intro existingWallet
  split
  . trivial
  . exact within_query _

theorem within_getWallet : (WalletController.getWallet self).Within 1 :=
  within_bind_last (within_getWalletDetails _) (fun _ => by trivial)

theorem within_freezeWallet (body : Option Json) : (WalletController.freezeWallet body).Within 2 := by
  apply within_bind_first (within_destructure body)
  intro body
  apply within_bind_first (within_required _)
  intro walletId
  exact within_bind_last (within_changeWalletStatus _ _ _) (fun _ => by trivial)

theorem within_unfreezeWallet (body : Option Json)
    : (WalletController.unfreezeWallet body).Within 2 := by
  apply within_bind_first (within_destructure body)
  intro body
  apply within_bind_first (within_required _)
  intro walletId
  exact within_bind_last (within_changeWalletStatus _ _ _) (fun _ => by trivial)

theorem within_closeWallet : (WalletController.closeWallet self).Within 3 := by
  apply within_bind_next (within_getWalletDetails _)
  intro userWallet
  exact within_bind_last (within_changeWalletStatus _ _ _) (fun _ => by trivial)

-- The wallet of the user comes first.
theorem within_movement {body : Option Json} {move : WalletId → Json → Action Transaction}
    (hmove : ∀ walletId body, (move walletId body).Within 1)
    : (do
        let walletId ← TransactionController.getUserWalletId self.id
        let body ← destructure body
        let transaction ← move walletId body
        return sendData 200 (.transaction transaction) : Action Response).Within 2 := by
  apply within_bind_next (within_getUserWalletId _)
  intro walletId
  apply within_bind_first (within_destructure body)
  intro body
  exact within_bind_last (hmove walletId body) (fun _ => by trivial)

theorem within_deposit (body : Option Json) (gen : Generated)
    : (TransactionController.deposit self body gen).Within 2 := by
  apply within_movement
  intro walletId body
  unfold TransactionService.deposit
  split
  . exact within_query _
  . exact within_withoutAmount walletId

theorem within_withdraw (body : Option Json) (gen : Generated)
    : (TransactionController.withdraw self body gen).Within 2 := by
  apply within_movement
  intro walletId body
  unfold TransactionService.withdraw
  split
  . exact within_query _
  . exact within_withoutAmount walletId

theorem within_transfer (body : Option Json) (gen : Generated)
    : (TransactionController.transfer self body gen).Within 2 := by
  apply within_movement
  intro senderWalletId body
  unfold TransactionService.transfer
  split
  . exact within_query _
  . split
    . trivial
    . apply within_query_bind
      intro lockQuery
      split
      . trivial
      . apply within_bind_first (within_validateConstraints _)
        intro _
        exact within_bind_last (within_validateConstraints _) (fun _ => by trivial)

theorem within_getHistory (scan : Scan)
    : (TransactionController.getHistory self scan).Within 2 := by
  apply within_bind_next (within_getUserWalletId _)
  intro walletId
  exact within_bind_last (within_query _) (fun _ => by trivial)

theorem within_getTransactionDetails (reference : String)
    : (TransactionController.getTransactionDetails reference).Within 1 := by
  apply within_bind_last _ (fun _ => by trivial)
  apply within_query_bind
  intro tx
  cases tx <;> trivial

theorem within_getWalletLedger (walletId : Option Json) (scan : Scan)
    : (LedgerController.getWalletLedger walletId scan).Within 1 := by
  unfold LedgerController.getWalletLedger
  split
  . apply within_bind_first (within_required _)
    intro walletId
    exact within_bind_last (within_query _) (fun _ => by trivial)
  . exact within_bind_last (within_query _) (fun _ => by trivial)

theorem within_getTransactionLedgerEntries (transactionRef : String) (scan : Scan)
    : (LedgerController.getTransactionLedgerEntries transactionRef scan).Within 2 := by
  apply within_query_bind
  intro tx
  cases tx with
  | none => trivial
  | some tx => exact within_bind_last (within_query _) (fun _ => by trivial)

theorem within_transact (body : Option Json) (createdBy : UserId) (key : IdempotencyKey)
    (gen : Generated)
    : (PaymentService.transact body createdBy key gen).Within 1 := by
  unfold PaymentService.transact
  split
  . exact within_query _
  . apply within_bind_last
    . unfold PaymentService.receiverWallets
      split
      . split
        . exact within_query _
        . trivial
      . exact within_query _
    . intro wallets
      cases wallets[0]? with
      | none => trivial
      | some wallet =>
        dsimp only
        split
        . trivial
        . split <;> trivial

theorem within_createPayment (body : Option Json) (idempotencyKey : Option String) (now : ℕ)
    (gen : Generated)
    : (PaymentRoutes.create self body idempotencyKey now gen).Within 6 := by
  apply within_bind_last _ (fun _ => by trivial)
  unfold PaymentService.processPayment
  split
  . trivial
  . next key _ =>
    apply within_query_bind
    intro cachedResponse
    cases cachedResponse with
    | some payment => trivial
    | none =>
      apply within_query_bind
      intro isLocked
      split
      . have hlocked : (do
            let payment ← PaymentService.transact body self.id key gen
            let _ ← query (.setResponse key payment now)
            let _ ← query (.publishPaymentEvent {
              paymentId := payment.id
              paymentRef := payment.paymentRef
              amount := payment.amount
              method := payment.method
            })
            return payment : Action Payment).Within 3 := by
          apply within_bind_next (within_transact _ _ _ _)
          intro payment
          apply within_query_bind
          intro _
          exact within_bind_last (within_query _) (fun _ => by trivial)
        have hfinally : (query (.deleteLock key)).Within 1 := within_query _
        exact within_ensure hlocked hfinally
      . trivial

theorem within_verifyPayment (paymentRef : Option String) (gatewayResponse : Option Json)
    : (PaymentService.verifyPayment P paymentRef gatewayResponse).Within 4 := by
  apply within_bind_next
  . unfold PaymentService.paymentOf
    split
    . trivial
    . exact within_bind_first (within_required _) (fun _ => within_throughClient _)
  . intro payment
    cases payment with
    | none => trivial
    | some payment =>
      dsimp only
      split
      . trivial
      . apply within_bind_next (within_throughClient _)
        intro updatedPayment
        apply within_bind_next (within_throughClient _)
        intro _
        split
        . exact within_bind_last (within_query _) (fun _ => by trivial)
        . trivial

theorem within_verify (body : Option Json) : (PaymentRoutes.verify P body).Within 4 := by
  apply within_bind_first (within_destructure body)
  intro body
  exact within_bind_last (within_mono (within_verifyPayment _ _) (by omega)) (fun _ => by trivial)

theorem within_gateway (body : Option Json) : (PaymentRoutes.gateway P body).Within 4 := by
  apply within_bind_first (within_destructure body)
  intro body
  exact within_bind_last (within_mono (within_verifyPayment _ _) (by omega)) (fun _ => by trivial)

theorem within_getPayments (scan : Scan) : (PaymentRoutes.list P self scan).Within 1 :=
  within_bind_last (within_throughClient _) (fun _ => by trivial)

theorem within_getPayment (reference : String) : (PaymentRoutes.get P self reference).Within 1 := by
  apply within_bind_next (within_throughClient _)
  intro payment
  cases payment with
  | none => trivial
  | some payment =>
    dsimp only
    split <;> trivial

end Handlers

variable {request : Request}

theorem within_userHandler (self : RequestUser) (body : Option Json)
    : (userHandler P request self body).Within request.route.commands := by
  unfold userHandler
  cases request.route with
  | logout => exact within_logout self
  | profile => exact within_getProfile self
  | getMe => exact within_getMe self
  | updateMe => exact within_updateMe self body
  | changePassword => exact within_changePassword self body _
  | deleteMe => exact within_deleteMe self
  | getAllUsers => exact within_getAllUsers _
  | changeStatus id => exact within_changeStatus self id body
  | changeRole id => exact within_changeRole self id body
  | createWallet => exact within_createWallet self body _ _
  | getWallet => exact within_getWallet self
  | freezeWallet => exact within_freezeWallet body
  | unfreezeWallet => exact within_unfreezeWallet body
  | closeWallet => exact within_closeWallet self
  | deposit => exact within_deposit self body _
  | withdraw => exact within_withdraw self body _
  | transfer => exact within_transfer self body _
  | getHistory => exact within_getHistory self _
  | getTransactionDetails reference => exact within_getTransactionDetails reference
  | getWalletLedger walletId => exact within_getWalletLedger walletId _
  | getTransactionLedgerEntries transactionRef =>
    exact within_getTransactionLedgerEntries transactionRef _
  | createPayment => exact within_createPayment self body _ _ _
  | verifyPayment => exact within_verify body
  | getPayments => exact within_getPayments self _
  | getPayment reference => exact within_getPayment self reference
  | createAccount => exact within_bind_first (within_destructure body) (fun _ => by trivial)
  | _ => trivial

theorem within_handler (context : Context)
    : (handler P request context).Within request.route.commands := by
  have hself : ∀ self, (userHandler P request self context.body).Within request.route.commands :=
    fun self => within_userHandler self context.body
  unfold handler
  generalize request.route = route at *
  cases route with
  | register => exact within_register _ _
  | login => exact within_login _ _
  | refresh => exact within_refreshToken _ _
  | gateway => exact within_gateway _
  | _ =>
    cases context.user with
    | none => trivial
    | some self => exact hself self

/--
A request sends no more commands than its handler does, besides that of `authenticate`: seven at most.
-/
theorem within_app : (app P request).Within (request.route.commands + request.route.guard.commands) :=
  within_bind within_middlewares within_handler

end Within

section Runs

variable {ι : Type} [DecidableEq ι] {P : Platform} {requests : ι → Request} {s : Server}
  {es : List (SessionEvent ι)} {i : ι} {key : IdempotencyKey}

theorem ended_of_turns
    (h : (requests i).route.commands + (requests i).route.guard.commands ≤ Sessions.turns i es)
    (c : Command) (next : c.Result → Action Response)
    : ((serveAll P requests s es).sessions i).rest ≠ .call c next :=
  Sessions.ended_of_turns es within_app h c next

theorem answer?_of_ended
    (hended : ∀ c next, ((serveAll P requests s es).sessions i).rest ≠ .call c next)
    : ∃ response, ∀ es', answer? P requests s (es ++ es') i = some response := by
  have hsame : ∀ es', (serveAll P requests s (es ++ es')).sessions i =
      (serveAll P requests s es).sessions i := by
    intro es'
    unfold serveAll
    rw [Run.run_append]
    exact Sessions.session_run_of_ended hended es'
  cases hrest : ((serveAll P requests s es).sessions i).rest with
  | ret response =>
    refine ⟨response, ?_⟩
    intro es'
    apply answer?_of_ret
    rw [hsame, hrest]
  | throw fault =>
    refine ⟨fault.response, ?_⟩
    intro es'
    apply answer?_of_throw
    rw [hsame, hrest]
  | call c next => exact absurd hrest (hended c next)

-- `DEL` does not fail by itself.
theorem fail_of_deleteLock_error {e : Failure}
    (h : ⟨.deleteLock key, .error e⟩ ∈ ((serveAll P requests s es).sessions i).history)
    : .lose i ∈ es ∨ .fail i ∈ es := by
  rcases Sessions.asked_of_mem rfl h with ⟨pre, next, _, ⟨_, hanswer⟩ | ⟨hle, _⟩⟩
  . cases hanswer
  . exact hle.imp (fun hle => hle.subset (by simp)) (fun hle => hle.subset (by simp))

variable (P requests s es) in
/--
A request has its response, and keeps it, once as many commands have been answered as it sends at most. The
lock of a key is free once this is so for all payments with the key, and none of their commands has failed
or lost its answer.
-/
structure Progress : Prop where
  answered : ∀ i,
    (requests i).route.commands + (requests i).route.guard.commands ≤ Sessions.turns i es →
    ∃ response, ∀ es', answer? P requests s (es ++ es') i = some response
  unlocked : ∀ key,
    (∀ i, (requests i).route = .createPayment →
      ((requests i).header? "idempotency-key").filter (· ≠ "") = some key →
      7 ≤ Sessions.turns i es ∧ .fail i ∉ es ∧ .lose i ∉ es) →
    (serveAll P requests s es).store.locks key = none

theorem requests_progress (P : Platform) (requests : ι → Request) (hs : ∀ key, s.locks key = none)
    (es : List (SessionEvent ι))
    : Progress P requests s es := by
  constructor
  . intro i h
    exact answer?_of_ended (ended_of_turns h)
  . intro key hturns
    by_contra hlock
    rcases Option.ne_none_iff_exists'.mp hlock with ⟨expires, hlock⟩
    rcases locksHeld_serveAll hs es key expires hlock with ⟨i, now, _, hheld | hlost⟩
    . rcases own_of_held hheld with ⟨hroute, hkey, _⟩
      rcases hturns i hroute hkey with ⟨hturns, hfail, hlose⟩
      cases owes_of_held hheld with
      | serving _ hcall =>
        rcases hcall with ⟨c, next, hcall⟩
        exact ended_of_turns (by rw [hroute]; exact hturns) c next hcall
      | unreachable h => exact (fail_of_deleteLock_error h).elim hlose hfail
      | lost h =>
        rcases h with ⟨pre, next, hle, _⟩
        exact hlose (hle.subset (by simp))
    . rcases hlost with ⟨pre, next, hle, hnext, _⟩
      rcases own_of_call hnext with ⟨hroute, hkey, _⟩
      exact (hturns i hroute hkey).2.2 (hle.subset (by simp))

end Runs

-- Two payments with one key, the second of which has its turns while the first holds the lock.
theorem progress_of_payments
    : Progress samplePlatform (fun _ : Bool => samplePaymentRequest samplePaymentBody) retriedServer
        (List.replicate 3 (.exec true) ++ List.replicate 7 (.exec false)
          ++ List.replicate 4 (.exec true)) :=
  requests_progress samplePlatform _ (fun _ => rfl) _

end Banking.Http
