import BankingApi.Http.Validation

/-!
This module contains which commands the handler of a route may send, how it may fail and what its
responses hold.
-/

namespace Banking

def secretKeys : List String := ["password", "refreshToken"]

def Sanitized (user : UserObject) : Prop :=
  ∀ key ∈ secretKeys, key ∉ Json.keysFields user

-- No key of a user or of JSON is secret. Rows of the other tables have no such column.
def Data.Withholds (data : Data) : Prop :=
  match data with
  | .json j => ∀ key ∈ secretKeys, key ∉ j.keys
  | .user u => Sanitized u
  | .users us => ∀ u ∈ us, Sanitized u
  | .session _ _ _ => False
  | _ => True

def Response.Withholds (response : Response) : Prop :=
  ∀ entry ∈ response.body, entry.1 ∉ secretKeys ∧ entry.2.Withholds

def Fault.Withholds (fault : Fault) : Prop :=
  fault.response.Withholds

theorem withholds_string (s : String) : (Data.string s).Withholds := by
  simp [Data.string, Data.Withholds, Json.keys]

theorem withholds_boolean (b : Bool) : (Data.boolean b).Withholds := by
  simp [Data.boolean, Data.Withholds, Json.keys]

theorem withholds_sendSuccess {message : String} {data : Data} {statusCode : ℕ} (h : data.Withholds)
    : (sendSuccess message data statusCode).Withholds := by
  simp [Response.Withholds, sendSuccess, secretKeys, withholds_string, withholds_boolean, h]

theorem withholds_sendData {statusCode : ℕ} {data : Data} (h : data.Withholds)
    : (sendData statusCode data).Withholds := by
  simp [Response.Withholds, sendData, secretKeys, withholds_boolean, h]

theorem withholds_sendMessage {statusCode : ℕ} {success : Bool} {message : String}
    : (sendMessage statusCode success message).Withholds := by
  simp [Response.Withholds, sendMessage, secretKeys, withholds_string, withholds_boolean]

theorem withholds_errorMiddleware (err : ErrorObject) : (errorMiddleware err).Withholds := by
  simp [Response.Withholds, errorMiddleware, secretKeys, Data.boolean, Data.string, Data.Withholds,
    Json.keys, Json.keysFields, Json.keysItems]

theorem withholds_sendError (message : String) (statusCode : ℕ)
    : (sendError message [] statusCode).Withholds := by
  simp [Response.Withholds, sendError, secretKeys, Data.boolean, Data.string, Data.Withholds,
    Json.keys, Json.keysItems]

theorem sanitized_sanitizeUser (u : User) : Sanitized (sanitizeUser u) := by
  rcases u with ⟨_, _, _, _, phone, _, _, _, _, _⟩
  cases phone <;>
    simp [Sanitized, sanitizeUser, deleteKey, User.toObject, secretKeys, Json.keysFields, Json.keys]

namespace Http

open Prog

-- A command that keeps off users, takes no money from a wallet and leaves the status of wallets alone.
def Command.isPlain (c : Command) : Prop :=
  match c with
  | .createUser _ => False
  | .findUserByEmail _ => False
  | .findUserById _ => False
  | .findUserByRefreshToken _ => False
  | .getAllUsers _ => False
  | .updateUser _ _ => False
  | .updateProfile _ _ => False
  | .updateWalletStatus _ _ => False
  | .withdraw _ _ _ _ _ => False
  | .transfer _ _ _ _ _ _ => False
  | _ => True

def Command.readsUsers (c : Command) : Prop :=
  match c with
  | .findUserByEmail _ => True
  | .findUserById _ => True
  | .findUserByRefreshToken _ => True
  | .getAllUsers _ => True
  | _ => False

def Route.readsUsers (route : Route) : Prop :=
  match route with
  | .register => True
  | .login => True
  | .refresh => True
  | .profile => True
  | .getMe => True
  | .updateMe => True
  | .changePassword => True
  | .deleteMe => True
  | .getAllUsers => True
  | .changeStatus _ => True
  | .changeRole _ => True
  | .createWallet => True
  | _ => False

/--
The commands that the handler of a route may send for a user.
-/
inductive Route.Sends (user : Option RequestUser) : Route → Command → Prop where
  | plain {route c} (hc : c.isPlain) : Sends user route c
  | read {route c} (hroute : route.readsUsers) (hc : c.readsUsers) : Sends user route c
  | register {row} (hrole : row.role = .CUSTOMER) : Sends user .register (.createUser row)
  | login {id token} : Sends user .login (.updateUser id (.refreshToken (some token)))
  | logout {self} (hself : user = some self)
    : Sends user .logout (.updateUser self.id (.refreshToken none))
  -- `validate` leaves the `body` that the schema is about under its key.
  | updateMe {self data} (hself : user = some self) (hkey : "body" ∈ data.map Prod.fst)
    : Sends user .updateMe (.updateProfile self.id data)
  | changePassword {self hashed} (hself : user = some self)
    : Sends user .changePassword (.updateUser self.id (.password hashed))
  | deleteMe {self} (hself : user = some self)
    : Sends user .deleteMe (.updateUser self.id (.status (some .INACTIVE)))
  | changeStatus {id status} : Sends user (.changeStatus id) (.updateUser id (.status status))
  | changeRole {id role} : Sends user (.changeRole id) (.updateUser id (.role role))
  | freezeWallet {id} : Sends user .freezeWallet (.updateWalletStatus id .FROZEN)
  | unfreezeWallet {id} : Sends user .unfreezeWallet (.updateWalletStatus id .ACTIVE)
  | closeWallet {id} : Sends user .closeWallet (.updateWalletStatus id .CLOSED)
  | withdraw {id amount createdBy description gen}
    : Sends user .withdraw (.withdraw id amount createdBy description gen)
  | transfer {id id' amount createdBy description gen}
    : Sends user .transfer (.transfer id id' amount createdBy description gen)

def Route.throwsAuth (route : Route) : Prop :=
  match route with
  | .register => True
  | .login => True
  | .refresh => True
  | .profile => True
  | _ => False

-- The handler of a route may fail, and those of `AuthService` may also throw one of its errors.
def Route.Throws (route : Route) (fault : Fault) : Prop :=
  match fault with
  | .failure _ => True
  | .auth _ => route.throwsAuth
  | _ => False

def Route.Answers (route : Route) (response : Response) : Prop :=
  match route with
  | .login => True
  | _ => response.Withholds

structure Permits (C : Command → Prop) (F : Fault → Prop) : Prop where
  plain : ∀ c, c.isPlain → C c
  failure : ∀ f, F (.failure f)

theorem Route.permits (user : Option RequestUser) (route : Route)
    : Permits (route.Sends user) route.Throws where
  plain _ hc := .plain hc
  failure _ := trivial

section Obeys

variable {C : Command → Prop} {F : Fault → Prop} {α : Type} {Q : α → Prop} (h : Permits C F)

include h

theorem obeys_query {c : Command} (hc : C c) : (query c : Action c.Value).Obeys C F (fun _ => True) := by
  refine ⟨hc, ?_⟩
  intro r
  cases r with
  | ok a => trivial
  | error e => exact h.failure e

theorem obeys_query_bind {c : Command} {f : c.Value → Action α} (hc : C c)
    (hf : ∀ a, (f a).Obeys C F Q)
    : (query c >>= f).Obeys C F Q := by
  apply obeys_bind (obeys_query h hc) hf

theorem obeys_plain_bind {c : Command} {f : c.Value → Action α} (hf : ∀ a, (f a).Obeys C F Q)
    (hc : c.isPlain)
    : (query c >>= f).Obeys C F Q := by
  apply obeys_query_bind h (h.plain c hc) hf

theorem obeys_destructure (body : Option Json) : (destructure body).Obeys C F (fun _ => True) := by
  unfold destructure
  split
  . exact h.failure _
  . exact h.failure _
  . trivial

theorem obeys_required (s : Option String) : (required s).Obeys C F (fun _ => True) := by
  cases s with
  | none => exact h.failure _
  | some s => trivial

theorem obeys_existingUser {userId : UserId} (hc : C (.findUserById userId))
    : (UserService.existingUser userId).Obeys C F (fun _ => True) := by
  apply obeys_query_bind h hc
  intro user
  cases user with
  | none => exact h.failure _
  | some user => trivial

theorem obeys_enumeration {β : Type} (ofString? : String → Option β) (value : Option Json)
    : (UserRepository.enumeration ofString? value).Obeys C F (fun _ => True) := by
  unfold UserRepository.enumeration
  split
  . trivial
  . split
    . trivial
    . exact h.failure _

theorem obeys_getUserWalletId (userId : UserId)
    : (TransactionController.getUserWalletId userId).Obeys C F (fun _ => True) := by
  apply obeys_plain_bind h
  . intro wallet
    cases wallet with
    | none => exact h.failure _
    | some wallet => trivial
  . trivial

theorem obeys_getWalletDetails (userId : UserId)
    : (WalletService.getWalletDetails userId).Obeys C F (fun _ => True) := by
  apply obeys_plain_bind h
  . intro wallet
    cases wallet with
    | none => exact h.failure _
    | some wallet => trivial
  . trivial

theorem obeys_changeWalletStatus {walletId : WalletId} {status : WalletStatus} (closed : String)
    (hc : C (.updateWalletStatus walletId status))
    : (WalletService.changeStatus walletId status closed).Obeys C F (fun _ => True) := by
  apply obeys_plain_bind h
  . intro wallet
    cases wallet with
    | none => exact h.failure _
    | some wallet =>
      dsimp only
      split
      . exact h.failure _
      . exact obeys_query h hc
  . trivial

theorem obeys_validateConstraints (wallet : Option Wallet)
    : (TransactionService.validateConstraints wallet).Obeys C F (fun _ => True) := by
  unfold TransactionService.validateConstraints
  cases wallet with
  | none => exact h.failure _
  | some wallet =>
    dsimp only
    split
    . exact h.failure _
    . trivial

theorem obeys_withoutAmount (walletId : WalletId)
    : (TransactionService.withoutAmount walletId).Obeys C F (fun _ => True) := by
  apply obeys_plain_bind h
  . intro wallets
    apply obeys_bind (obeys_validateConstraints h _)
    intro _
    exact h.failure _
  . trivial

theorem obeys_getWallet (user : RequestUser)
    : (WalletController.getWallet user).Obeys C F Response.Withholds := by
  apply obeys_bind (obeys_getWalletDetails h user.id)
  intro wallet
  apply withholds_sendData
  trivial

theorem obeys_deposit (user : RequestUser) (body : Option Json) (gen : Generated)
    : (TransactionController.deposit user body gen).Obeys C F Response.Withholds := by
  apply obeys_bind (obeys_getUserWalletId h user.id)
  intro walletId
  apply obeys_bind (obeys_destructure h body)
  intro body
  apply obeys_bind
  . unfold TransactionService.deposit
    cases TransactionController.amountOf body with
    | none => exact obeys_withoutAmount h walletId
    | some amount => exact obeys_query h (h.plain _ trivial)
  . intro transaction
    apply withholds_sendData
    trivial

theorem obeys_withdrawFrom {walletId : WalletId} {createdBy : UserId} {gen : Generated}
    (hc : ∀ amount description, C (.withdraw walletId amount createdBy description gen))
    (amount : Option Binary64) {description : Option String}
    : (TransactionService.withdraw walletId amount createdBy description gen).Obeys C F
        (fun _ => True) := by
  unfold TransactionService.withdraw
  cases amount with
  | none => exact obeys_withoutAmount h walletId
  | some amount => exact obeys_query h (hc amount description)

theorem obeys_withdraw {user : RequestUser} {gen : Generated}
    (hc : ∀ id amount description, C (.withdraw id amount user.id description gen))
    (body : Option Json)
    : (TransactionController.withdraw user body gen).Obeys C F Response.Withholds := by
  apply obeys_bind (obeys_getUserWalletId h user.id)
  intro walletId
  apply obeys_bind (obeys_destructure h body)
  intro body
  apply obeys_bind (obeys_withdrawFrom h (hc walletId) _)
  intro transaction
  apply withholds_sendData
  trivial

theorem obeys_transferFrom {senderWalletId : WalletId} {createdBy : UserId} {gen : Generated}
    (hc : ∀ id amount description, C (.transfer senderWalletId id amount createdBy description gen))
    (receiverWalletId : Option WalletId) (amount : Option Binary64) {description : Option String}
    : (TransactionService.transfer senderWalletId receiverWalletId amount createdBy description
        gen).Obeys C F (fun _ => True) := by
  unfold TransactionService.transfer
  split
  . exact obeys_query h (hc _ _ _)
  . split
    . exact h.failure _
    . apply obeys_plain_bind h
      . intro lockQuery
        split
        . exact h.failure _
        . apply obeys_bind (obeys_validateConstraints h _)
          intro _
          apply obeys_bind (obeys_validateConstraints h _)
          intro _
          exact h.failure _
      . trivial

theorem obeys_transfer {user : RequestUser} {gen : Generated}
    (hc : ∀ id id' amount description, C (.transfer id id' amount user.id description gen))
    (body : Option Json)
    : (TransactionController.transfer user body gen).Obeys C F Response.Withholds := by
  apply obeys_bind (obeys_getUserWalletId h user.id)
  intro senderWalletId
  apply obeys_bind (obeys_destructure h body)
  intro body
  apply obeys_bind (obeys_transferFrom h (hc senderWalletId) _ _)
  intro transaction
  apply withholds_sendData
  trivial

theorem obeys_getHistory (user : RequestUser) (scan : Scan)
    : (TransactionController.getHistory user scan).Obeys C F Response.Withholds := by
  apply obeys_bind (obeys_getUserWalletId h user.id)
  intro walletId
  apply obeys_bind
  . exact obeys_query h (h.plain _ trivial)
  . intro transactions
    apply withholds_sendData
    trivial

theorem obeys_getTransactionDetails (reference : String)
    : (TransactionController.getTransactionDetails reference).Obeys C F Response.Withholds := by
  apply obeys_bind
  . apply obeys_plain_bind h
    . intro tx
      cases tx with
      | none => exact h.failure _
      | some tx => trivial
    . trivial
  . intro transaction
    apply withholds_sendData
    trivial

theorem obeys_getWalletLedger (walletId : Option Json) (scan : Scan)
    : (LedgerController.getWalletLedger walletId scan).Obeys C F Response.Withholds := by
  unfold LedgerController.getWalletLedger
  split
  . apply obeys_bind (obeys_required h _)
    intro walletId
    apply obeys_plain_bind h
    . intro logs
      apply withholds_sendData
      trivial
    . trivial
  . apply obeys_plain_bind h
    . intro logs
      apply withholds_sendData
      trivial
    . trivial

theorem obeys_getTransactionLedgerEntries (transactionRef : String) (scan : Scan)
    : (LedgerController.getTransactionLedgerEntries transactionRef scan).Obeys C F
        Response.Withholds := by
  apply obeys_plain_bind h
  . intro tx
    cases tx with
    | none => exact withholds_sendMessage
    | some tx =>
      apply obeys_plain_bind h
      . intro entries
        apply withholds_sendData
        trivial
      . trivial
  . trivial

theorem obeys_throughClient (P : Platform) (c : Command) (hc : c.isPlain)
    : (PaymentRepository.throughClient P c).Obeys C F (fun _ => True) := by
  unfold PaymentRepository.throughClient
  cases P.paymentClient with
  | env => exact h.failure _
  | tables => exact obeys_query h (h.plain c hc)

theorem obeys_transact (body : Option Json) (createdBy : UserId) (key : IdempotencyKey)
    (gen : Generated)
    : (PaymentService.transact body createdBy key gen).Obeys C F (fun _ => True) := by
  unfold PaymentService.transact
  cases PaymentService.request? body createdBy key gen with
  | some request => exact obeys_query h (h.plain _ trivial)
  | none =>
    unfold PaymentService.refusedBlock
    apply obeys_bind
    . unfold PaymentService.receiverWallets
      split
      . split
        . exact obeys_query h (h.plain _ trivial)
        . exact h.failure _
      . exact obeys_query h (h.plain _ trivial)
    . intro wallets
      split
      . exact h.failure _
      . split
        . exact h.failure _
        . split <;> exact h.failure _

theorem obeys_createPayment (user : RequestUser) (body : Option Json)
    (idempotencyKey : Option String) (now : ℕ) (gen : Generated)
    : (PaymentRoutes.create user body idempotencyKey now gen).Obeys C F Response.Withholds := by
  apply obeys_bind
  . unfold PaymentService.processPayment
    split
    . exact h.failure _
    . next key _ =>
      apply obeys_plain_bind h
      . intro cachedResponse
        cases cachedResponse with
        | some payment => trivial
        | none =>
          apply obeys_plain_bind h
          . intro isLocked
            split
            . apply obeys_ensure
              . apply obeys_bind (obeys_transact h body user.id key gen)
                intro payment
                apply obeys_plain_bind h
                . intro _
                  apply obeys_plain_bind h
                  . intro _
                    trivial
                  . trivial
                . trivial
              . exact obeys_query h (h.plain _ trivial)
            . exact h.failure _
          . trivial
      . trivial
  . intro payment
    apply withholds_sendData
    trivial

theorem obeys_verifyPayment (P : Platform) (paymentRef : Option String)
    (gatewayResponse : Option Json)
    : (PaymentService.verifyPayment P paymentRef gatewayResponse).Obeys C F (fun _ => True) := by
  apply obeys_bind
  . unfold PaymentService.paymentOf
    cases P.paymentClient with
    | env => exact h.failure _
    | tables =>
      apply obeys_bind (obeys_required h paymentRef)
      intro paymentRef
      exact obeys_throughClient h P (.findPaymentByReference paymentRef) trivial
  . intro payment
    match payment with
    | none => exact h.failure _
    | some (payment, _) =>
      dsimp only
      cases PaymentService.verdict gatewayResponse with
      | error e => exact h.failure e
      | ok verdict =>
        rcases verdict with ⟨gatewayResponse, status⟩
        apply obeys_bind
        . exact obeys_throughClient h P (.updatePaymentStatus payment.id status) trivial
        . intro updatedPayment
          apply obeys_bind
          . exact obeys_throughClient h P (.updateGatewayResponse payment.id gatewayResponse) trivial
          . intro _
            split
            . apply obeys_plain_bind h
              . intro _
                trivial
              . trivial
            . trivial

theorem obeys_verify (P : Platform) (body : Option Json)
    : (PaymentRoutes.verify P body).Obeys C F Response.Withholds := by
  apply obeys_bind (obeys_destructure h body)
  intro body
  apply obeys_bind (obeys_verifyPayment h P _ _)
  intro payment
  apply withholds_sendData
  trivial

theorem obeys_gateway (P : Platform) (body : Option Json)
    : (PaymentRoutes.gateway P body).Obeys C F Response.Withholds := by
  apply obeys_bind (obeys_destructure h body)
  intro body
  apply obeys_bind (obeys_verifyPayment h P _ _)
  intro payment
  exact withholds_sendMessage

theorem obeys_getPayments (P : Platform) (user : RequestUser) (scan : Scan)
    : (PaymentRoutes.list P user scan).Obeys C F Response.Withholds := by
  apply obeys_bind
  . exact obeys_throughClient h P (.findPaymentsByUser user.id scan) trivial
  . intro payments
    apply withholds_sendData
    trivial

theorem obeys_getPayment (P : Platform) (user : RequestUser) (reference : String)
    : (PaymentRoutes.get P user reference).Obeys C F Response.Withholds := by
  apply obeys_bind
  . exact obeys_throughClient h P (.findPaymentByReference reference) trivial
  . intro payment
    match payment with
    | none => exact withholds_sendMessage
    | some (payment, transaction) =>
      dsimp only
      split
      . exact withholds_sendMessage
      . apply withholds_sendData
        trivial

end Obeys

/-!
The handlers that change users or the status of wallets.
-/

section Changes

variable {user : Option RequestUser}

theorem obeys_register (P : Platform) (body : Option Json) (new : AuthService.NewUser)
    : (AuthController.register P body new).Obeys (Route.register.Sends user)
        Route.register.Throws Response.Withholds := by
  have h := Route.register.permits user
  apply obeys_bind (obeys_destructure h body)
  intro body
  apply obeys_bind_post (R := Sanitized)
  . apply obeys_bind (obeys_required h _)
    intro email
    apply obeys_query_bind h
    . exact .read trivial trivial
    . intro existingUser
      cases existingUser with
      | some _ => trivial
      | none =>
        apply obeys_bind
        . apply obeys_bind (obeys_required h _)
          intro password
          trivial
        . intro hashedPassword
          apply obeys_bind (obeys_required h _)
          intro fullName
          apply obeys_query_bind h
          . exact .register rfl
          . intro newUser
            exact sanitized_sanitizeUser newUser
  . intro user hsanitized
    exact withholds_sendSuccess hsanitized

theorem obeys_login (P : Platform) (body : Option Json) (now : ℕ)
    : (AuthController.login P body now).Obeys (Route.login.Sends user) Route.login.Throws
        Route.login.Answers := by
  have h := Route.login.permits user
  apply obeys_bind (obeys_destructure h body)
  intro body
  apply obeys_bind
  . apply obeys_bind (obeys_required h _)
    intro email
    apply obeys_query_bind h
    . exact .read trivial trivial
    . intro found
      cases found with
      | none => trivial
      | some found =>
        apply obeys_bind
        . apply obeys_bind (obeys_required h _)
          intro password
          trivial
        . intro isPasswordValid
          dsimp only
          split
          . apply obeys_query_bind h
            . exact .login
            . intro _
              trivial
          . trivial
  . intro session
    trivial

theorem obeys_refreshToken (P : Platform) (body : Option Json) (now : ℕ)
    : (AuthController.refreshToken P body now).Obeys (Route.refresh.Sends user)
        Route.refresh.Throws Response.Withholds := by
  have h := Route.refresh.permits user
  apply obeys_bind (obeys_destructure h body)
  intro body
  apply obeys_bind
  . unfold AuthService.refreshAccessToken
    split
    . trivial
    . split
      . trivial
      . apply obeys_query_bind h
        . exact .read trivial trivial
        . intro found
          cases found <;> trivial
  . intro accessToken
    apply withholds_sendSuccess
    simp [Data.Withholds, secretKeys, Json.keys, Json.keysFields]

theorem obeys_logout {self : RequestUser} (hself : user = some self)
    : (AuthController.logout self).Obeys (Route.logout.Sends user) Route.logout.Throws
        Response.Withholds := by
  have h := Route.logout.permits user
  apply obeys_bind
  . apply obeys_query_bind h
    . exact .logout hself
    . intro _
      trivial
  . intro message
    apply withholds_sendSuccess
    simp [Data.Withholds, Json.keys, Json.keysFields]

-- How an admin changes the status or the role of a user.
theorem obeys_enumeration_updateUser {C : Command → Prop} {F : Fault → Prop} {β : Type}
    (h : Permits C F) {id : UserId} {change : Option β → UserChange}
    (hc : ∀ column, C (.updateUser id (change column))) (ofString? : String → Option β)
    (value : Option Json)
    : Prog.Obeys C F Sanitized (do
        let updatedUser ← (do
          let column ← UserRepository.enumeration ofString? value
          query (.updateUser id (change column)))
        return sanitizeUser updatedUser) := by
  apply obeys_bind
  . apply obeys_bind (obeys_enumeration h ofString? value)
    intro column
    apply obeys_query h
    exact hc column
  . intro updatedUser
    exact sanitized_sanitizeUser updatedUser

theorem obeys_findUserById_bind {C : Command → Prop} {F : Fault → Prop} (h : Permits C F)
    {f : Option User → Action UserObject} {userId : UserId} (hc : C (.findUserById userId))
    (hnone : (f none).Obeys C F Sanitized) (hsome : ∀ user, f (some user) = .ret (sanitizeUser user))
    : (query (.findUserById userId) >>= f).Obeys C F Sanitized := by
  apply obeys_query_bind h hc
  intro user
  cases user with
  | none => exact hnone
  | some user =>
    rw [hsome]
    exact sanitized_sanitizeUser user

theorem obeys_profile (self : RequestUser)
    : (AuthController.getProfile self).Obeys (Route.profile.Sends user) Route.profile.Throws
        Response.Withholds := by
  have h := Route.profile.permits user
  apply obeys_bind_post (R := Sanitized)
  . exact obeys_findUserById_bind h (.read trivial trivial) trivial (fun _ => rfl)
  . intro profile hsanitized
    exact withholds_sendSuccess hsanitized

theorem obeys_getMe (self : RequestUser)
    : (UserController.getMe self).Obeys (Route.getMe.Sends user) Route.getMe.Throws
        Response.Withholds := by
  have h := Route.getMe.permits user
  apply obeys_bind_post (R := Sanitized)
  . exact obeys_findUserById_bind h (.read trivial trivial) trivial (fun _ => rfl)
  . intro profile hsanitized
    exact withholds_sendData hsanitized

theorem key_of_lookup {fields : List (String × Json)} {key : String} {j : Json}
    (h : Json.lookup fields key = some j)
    : key ∈ fields.map Prod.fst := by
  rcases Option.map_eq_some_iff.mp h with ⟨field, hfind, _⟩
  have heq : field.1 = key := by simpa using List.find?_some hfind
  rw [← heq]
  exact List.mem_map_of_mem (List.mem_of_find?_eq_some hfind)

theorem mem_deleteKey {key key' : String} {object : List (String × Json)} (hne : key' ≠ key)
    (h : key' ∈ object.map Prod.fst)
    : key' ∈ (deleteKey key object).map Prod.fst := by
  rcases List.mem_map.mp h with ⟨field, hfield, rfl⟩
  apply List.mem_map_of_mem
  exact List.mem_filter.mpr ⟨hfield, by simpa using hne⟩

-- The keys that `updateProfile` deletes are others.
theorem mem_updateData {updateData : List (String × Json)} (h : "body" ∈ updateData.map Prod.fst)
    : "body" ∈ (deleteKey "customerId" (deleteKey "isVerified" (deleteKey "status" (deleteKey "role"
        (deleteKey "password" updateData))))).map Prod.fst := by
  apply mem_deleteKey (by decide)
  apply mem_deleteKey (by decide)
  apply mem_deleteKey (by decide)
  apply mem_deleteKey (by decide)
  exact mem_deleteKey (by decide) h

theorem obeys_updateMe {self : RequestUser} {body : Option Json} (hself : user = some self)
    (hbody : ∃ j, Json.get body "body" = some j)
    : (UserController.updateMe self body).Obeys (Route.updateMe.Sends user) Route.updateMe.Throws
        Response.Withholds := by
  have h := Route.updateMe.permits user
  rcases hbody with ⟨j, hj⟩
  apply obeys_bind_post (R := Sanitized)
  . apply obeys_bind (obeys_existingUser h (.read trivial trivial))
    intro _
    match body with
    | none => cases hj
    | some .null => cases hj
    | some (.object updateData) =>
      apply obeys_query_bind h
      . exact Route.Sends.updateMe hself (mem_updateData (key_of_lookup hj))
      . intro updatedUser
        exact sanitized_sanitizeUser updatedUser
    | some (.string _) => exact h.failure _
    | some (.number _) => exact h.failure _
    | some (.boolean _) => exact h.failure _
    | some (.array _) => exact h.failure _
  . intro updatedUser hsanitized
    exact withholds_sendData hsanitized

theorem obeys_changePassword (P : Platform) {self : RequestUser} (body : Option Json)
    (salt : String) (hself : user = some self)
    : (UserController.changePassword P self body salt).Obeys (Route.changePassword.Sends user)
        Route.changePassword.Throws Response.Withholds := by
  have h := Route.changePassword.permits user
  apply obeys_bind (obeys_destructure h body)
  intro body
  apply obeys_bind
  . apply obeys_bind (obeys_existingUser h (.read trivial trivial))
    intro _
    apply obeys_bind
    . apply obeys_bind (obeys_required h _)
      intro password
      trivial
    . intro hashedPassword
      apply obeys_query_bind h
      . exact .changePassword hself
      . intro _
        trivial
  . intro message
    exact withholds_sendMessage

theorem obeys_deleteMe {self : RequestUser} (hself : user = some self)
    : (UserController.deleteMe self).Obeys (Route.deleteMe.Sends user) Route.deleteMe.Throws
        Response.Withholds := by
  have h := Route.deleteMe.permits user
  apply obeys_bind
  . apply obeys_bind (obeys_existingUser h (.read trivial trivial))
    intro _
    apply obeys_query_bind h
    . exact .deleteMe hself
    . intro _
      trivial
  . intro message
    exact withholds_sendMessage

theorem obeys_getAllUsers (scan : Scan)
    : (UserController.getAllUsers scan).Obeys (Route.getAllUsers.Sends user)
        Route.getAllUsers.Throws Response.Withholds := by
  have h := Route.getAllUsers.permits user
  apply obeys_bind_post (R := fun users => ∀ user ∈ users, Sanitized user)
  . apply obeys_query_bind h
    . exact .read trivial trivial
    . intro users
      exact List.forall_mem_map.mpr (fun user _ => sanitized_sanitizeUser user)
  . intro users hsanitized
    exact withholds_sendData hsanitized

theorem obeys_changeStatus (self : RequestUser) (id : String) (body : Option Json)
    : (UserController.changeStatus self id body).Obeys ((Route.changeStatus id).Sends user)
        (Route.changeStatus id).Throws Response.Withholds := by
  have h := (Route.changeStatus id).permits user
  apply obeys_bind (obeys_destructure h body)
  intro body
  apply obeys_bind_post (R := Sanitized)
  . unfold UserService.changeStatus
    split
    . exact h.failure _
    . apply obeys_bind (obeys_existingUser h (.read trivial trivial))
      intro _
      exact obeys_enumeration_updateUser h (fun _ => .changeStatus) UserStatus.ofString? _
  . intro updatedUser hsanitized
    exact withholds_sendData hsanitized

theorem obeys_changeRole (self : RequestUser) (id : String) (body : Option Json)
    : (UserController.changeRole self id body).Obeys ((Route.changeRole id).Sends user)
        (Route.changeRole id).Throws Response.Withholds := by
  have h := (Route.changeRole id).permits user
  apply obeys_bind (obeys_destructure h body)
  intro body
  apply obeys_bind_post (R := Sanitized)
  . unfold UserService.changeRole
    split
    . exact h.failure _
    . apply obeys_bind (obeys_existingUser h (.read trivial trivial))
      intro _
      exact obeys_enumeration_updateUser h (fun _ => .changeRole) UserRole.ofString? _
  . intro updatedUser hsanitized
    exact withholds_sendData hsanitized

theorem obeys_createWallet (self : RequestUser) (body : Option Json) (id : WalletId)
    (walletNumber : String)
    : (WalletController.createWallet self body id walletNumber).Obeys
        (Route.createWallet.Sends user) Route.createWallet.Throws Response.Withholds := by
  have h := Route.createWallet.permits user
  apply obeys_bind (obeys_destructure h body)
  intro body
  apply obeys_bind
  . apply obeys_bind (obeys_existingUser h (.read trivial trivial))
    intro _
    apply obeys_plain_bind h
    . intro existingWallet
      split
      . exact h.failure _
      . exact obeys_query h (.plain trivial)
    . trivial
  . intro wallet
    apply withholds_sendData
    trivial

theorem obeys_freezeWallet (body : Option Json)
    : (WalletController.freezeWallet body).Obeys (Route.freezeWallet.Sends user)
        Route.freezeWallet.Throws Response.Withholds := by
  have h := Route.freezeWallet.permits user
  apply obeys_bind (obeys_destructure h body)
  intro body
  apply obeys_bind (obeys_required h _)
  intro walletId
  apply obeys_bind (obeys_changeWalletStatus h _ .freezeWallet)
  intro wallet
  apply withholds_sendData
  trivial

theorem obeys_unfreezeWallet (body : Option Json)
    : (WalletController.unfreezeWallet body).Obeys (Route.unfreezeWallet.Sends user)
        Route.unfreezeWallet.Throws Response.Withholds := by
  have h := Route.unfreezeWallet.permits user
  apply obeys_bind (obeys_destructure h body)
  intro body
  apply obeys_bind (obeys_required h _)
  intro walletId
  apply obeys_bind (obeys_changeWalletStatus h _ .unfreezeWallet)
  intro wallet
  apply withholds_sendData
  trivial

theorem obeys_closeWallet (self : RequestUser)
    : (WalletController.closeWallet self).Obeys (Route.closeWallet.Sends user)
        Route.closeWallet.Throws Response.Withholds := by
  have h := Route.closeWallet.permits user
  apply obeys_bind (obeys_getWalletDetails h self.id)
  intro userWallet
  apply obeys_bind (obeys_changeWalletStatus h _ .closeWallet)
  intro wallet
  apply withholds_sendData
  trivial

end Changes

theorem withholds_sendAccount {statusCode : ℕ} {account : Json}
    (h : ∀ key ∈ secretKeys, key ∉ account.keys)
    : (AccountRoutes.sendAccount statusCode account).Withholds := by
  simp_all [Response.Withholds, AccountRoutes.sendAccount, Data.string, Data.Withholds, secretKeys,
    Json.keys, Json.keysFields]

theorem keys_mockAccount (id : String) (user : RequestUser) (createdAt : String)
    : ∀ key ∈ secretKeys, key ∉ (AccountRoutes.mockAccount id user createdAt).keys := by
  simp [AccountRoutes.mockAccount, AccountRoutes.account, secretKeys, Json.keys, Json.keysFields]

theorem obeys_getAccounts {C : Command → Prop} {F : Fault → Prop} (user : RequestUser) (draw : Draw)
    : (AccountRoutes.list user draw).Obeys C F Response.Withholds := by
  have hkeys := keys_mockAccount "acc_mock_5678" user draw.createdAt
  unfold AccountRoutes.list
  simp_all [Obeys, Response.Withholds, Data.string, Data.Withholds, secretKeys, Json.keys,
    Json.keysFields, Json.keysItems]

theorem obeys_createAccount {C : Command → Prop} {F : Fault → Prop} {user : RequestUser}
    {out : List (String × Json)} {type : String} {initialDeposit : Binary64}
    (htype : Json.lookup out "type" = some (.string type))
    (hdeposit : Json.lookup out "initialDeposit" = some (.number initialDeposit)) (draw : Draw)
    : (AccountRoutes.create user (some (.object out)) draw).Obeys C F Response.Withholds := by
  apply withholds_sendAccount
  simp [AccountRoutes.account, Json.get?, htype, hdeposit, secretKeys, Json.keys, Json.keysFields]

variable {P : Platform} {request : Request}

theorem obeys_userHandler {self : RequestUser} {body : Option Json}
    (hbody : validated P request = .ok body)
    : (userHandler P request self body).Obeys (request.route.Sends (some self))
        request.route.Throws Response.Withholds := by
  have h := request.route.permits (some self)
  have hupdate := fun hroute => body_of_validated_updateMe hroute hbody
  have haccount := fun hroute => fields_of_validated_createAccount hroute hbody
  unfold userHandler
  generalize request.route = route at *
  cases route with
  | logout => exact obeys_logout rfl
  | profile => exact obeys_profile self
  | getMe => exact obeys_getMe self
  | updateMe => exact obeys_updateMe rfl (hupdate rfl)
  | changePassword => exact obeys_changePassword P body _ rfl
  | deleteMe => exact obeys_deleteMe rfl
  | getAllUsers => exact obeys_getAllUsers _
  | changeStatus id => exact obeys_changeStatus self id body
  | changeRole id => exact obeys_changeRole self id body
  | createWallet => exact obeys_createWallet self body _ _
  | getWallet => exact obeys_getWallet h self
  | freezeWallet => exact obeys_freezeWallet body
  | unfreezeWallet => exact obeys_unfreezeWallet body
  | closeWallet => exact obeys_closeWallet self
  | deposit => exact obeys_deposit h self body _
  | withdraw => exact obeys_withdraw h (fun _ _ _ => .withdraw) body
  | transfer => exact obeys_transfer h (fun _ _ _ _ => .transfer) body
  | getHistory => exact obeys_getHistory h self _
  | getTransactionDetails reference => exact obeys_getTransactionDetails h reference
  | getWalletLedger walletId => exact obeys_getWalletLedger h walletId _
  | getTransactionLedgerEntries transactionRef =>
    exact obeys_getTransactionLedgerEntries h transactionRef _
  | createPayment => exact obeys_createPayment h self body _ _ _
  | verifyPayment => exact obeys_verify h P body
  | getPayments => exact obeys_getPayments h P self _
  | getPayment reference => exact obeys_getPayment h P self reference
  | createAccount =>
    rcases haccount rfl with ⟨out, type, initialDeposit, rfl, htype, hdeposit⟩
    exact obeys_createAccount htype hdeposit _
  | getAccounts => exact obeys_getAccounts self _
  | getAccount accountId => exact withholds_sendAccount (keys_mockAccount accountId self _)
  | retryPayment => exact withholds_sendMessage
  | _ => trivial

theorem obeys_handler {context : Context} (hbody : validated P request = .ok context.body)
    : (handler P request context).Obeys (request.route.Sends context.user) request.route.Throws
        request.route.Answers := by
  rcases context with ⟨user, body⟩
  have h := request.route.permits user
  have hself : ∀ self, user = some self
      → (userHandler P request self body).Obeys (request.route.Sends user) request.route.Throws
        Response.Withholds := by
    rintro self rfl
    exact obeys_userHandler hbody
  unfold handler
  dsimp only
  generalize request.route = route at *
  cases route with
  | register => exact obeys_register P body _
  | login => exact obeys_login P body _
  | refresh => exact obeys_refreshToken P body _
  | gateway => exact obeys_gateway h P body
  | _ =>
    cases user with
    | none => exact h.failure _
    | some self => exact hself self rfl

end Http

end Banking
