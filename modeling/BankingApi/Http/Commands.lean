import BankingApi.Http.Authorization
import BankingApi.Store.Acting

/-!
This module contains the commands that the handler of a route sends, with what it has put into them, and
what it answers once a command has changed something.
-/

namespace Prog

variable {Cmd : Type} {Res : Cmd → Type} {ε α β : Type} {C : Cmd → Prop}

-- Whatever its commands answer, the program sends no command but those in `C`.
def Issues (C : Cmd → Prop) (p : Prog Cmd Res ε α) : Prop :=
  p.Obeys C (fun _ => True) (fun _ => True)

theorem issues_bind {p : Prog Cmd Res ε β} {f : β → Prog Cmd Res ε α} (hp : p.Issues C)
    (hf : ∀ b, (f b).Issues C)
    : (p >>= f).Issues C :=
  obeys_bind hp hf

theorem guarded_of_issues {G G' : List ((c : Cmd) × Res c) → Cmd → Prop}
    {Post : List ((c : Cmd) × Res c) → α → Prop} (hG : ∀ history c, C c → G' history c)
    {p : Prog Cmd Res ε α} {history : List ((c : Cmd) × Res c)} (hp : p.Issues C)
    (h : p.Guarded G Post history)
    : p.Guarded G' Post history := by
  induction p generalizing history with
  | ret a => exact h
  | throw e => trivial
  | call c next ih => exact ⟨hG history c hp.1, fun r => ih r (hp.2 r) (h.2 r)⟩

theorem guarded_and {G G' G'' : List ((c : Cmd) × Res c) → Cmd → Prop}
    {Post Post' : List ((c : Cmd) × Res c) → α → Prop}
    (hG : ∀ history c, G history c → G' history c → G'' history c) {p : Prog Cmd Res ε α}
    {history : List ((c : Cmd) × Res c)} (h : p.Guarded G Post history)
    (h' : p.Guarded G' Post' history)
    : p.Guarded G'' (fun history a => Post history a ∧ Post' history a) history := by
  induction p generalizing history with
  | ret a => exact ⟨h, h'⟩
  | throw e => trivial
  | call c next ih => exact ⟨hG history c h.1 h'.1, fun r => ih r (h.2 r) (h'.2 r)⟩

end Prog

namespace Banking.Http

open Prog

-- A command that only looks.
def Command.isRead (c : Command) : Prop :=
  match c with
  | .findUserByEmail _ => True
  | .findUserById _ => True
  | .findUserByRefreshToken _ => True
  | .getAllUsers _ => True
  | .findWalletById _ => True
  | .findWalletByUserId _ => True
  | .findTransactionByReference _ => True
  | .findUserTransactions _ _ => True
  | .findLedger _ => True
  | .findLedgerByWallet _ _ => True
  | .findLedgerByTransaction _ _ => True
  | .findPaymentByReference _ => True
  | .findPaymentsByUser _ _ => True
  | .selectWalletsForUpdate _ => True
  | .getResponse _ _ => True
  | _ => False

theorem exec_of_isRead {P : Platform} {c : Command} (hc : c.isRead) (s : Server)
    : (Server.exec P c s).2 = s := by
  cases c <;> first | rfl | cases hc

/--
The commands that the handler of a route issues for a user.
-/
inductive Route.Issues (user : Option RequestUser) : Route → Command → Prop where
  | read {route c} (hc : c.isRead) : Issues user route c
  | register {row} (hrole : row.role = .CUSTOMER) (hstatus : row.status = .ACTIVE)
      (hverified : row.isVerified = false) (htoken : row.refreshToken = none)
    : Issues user .register (.createUser row)
  | login {id token} : Issues user .login (.updateUser id (.refreshToken (some token)))
  | logout {self} (hself : user = some self)
    : Issues user .logout (.updateUser self.id (.refreshToken none))
  | updateMe {self data} (hself : user = some self) (hkey : "body" ∈ data.map Prod.fst)
    : Issues user .updateMe (.updateProfile self.id data)
  | changePassword {self hashed} (hself : user = some self)
    : Issues user .changePassword (.updateUser self.id (.password hashed))
  | deleteMe {self} (hself : user = some self)
    : Issues user .deleteMe (.updateUser self.id (.status (some .INACTIVE)))
  | changeStatus {id status} : Issues user (.changeStatus id) (.updateUser id (.status status))
  | changeRole {id role} : Issues user (.changeRole id) (.updateUser id (.role role))
  | createWallet {self row} (hself : user = some self) (huserId : row.userId = self.id)
      (hbalance : row.balance = 0) (hstatus : row.status = .ACTIVE)
    : Issues user .createWallet (.createWallet row)
  | freezeWallet {id} : Issues user .freezeWallet (.updateWalletStatus id .FROZEN)
  | unfreezeWallet {id} : Issues user .unfreezeWallet (.updateWalletStatus id .ACTIVE)
  | closeWallet {id} : Issues user .closeWallet (.updateWalletStatus id .CLOSED)
  | deposit {self id amount description gen} (hself : user = some self)
    : Issues user .deposit (.deposit id amount self.id description gen)
  | withdraw {self id amount description gen} (hself : user = some self)
    : Issues user .withdraw (.withdraw id amount self.id description gen)
  | transfer {self id id' amount description gen} (hself : user = some self)
    : Issues user .transfer (.transfer id id' amount self.id description gen)
  | processPayment {self key request} (hself : user = some self)
      (hcreatedBy : request.createdBy = self.id)
    : Issues user .createPayment (.processPayment key request)
  | setLock {key now} : Issues user .createPayment (.setLock key now)
  | setResponse {key payment now} : Issues user .createPayment (.setResponse key payment now)
  | deleteLock {key} : Issues user .createPayment (.deleteLock key)
  | publishPaymentEvent {event} : Issues user .createPayment (.publishPaymentEvent event)
  | updatePaymentStatus {id status} : Issues user .verifyPayment (.updatePaymentStatus id status)
  | updateGatewayResponse {id response}
    : Issues user .verifyPayment (.updateGatewayResponse id response)
  | publishWebhookEvent {event} : Issues user .verifyPayment (.publishWebhookEvent event)

section Issues

variable {C : Command → Prop} {α : Type}

theorem issues_query {c : Command} (hc : C c) : (query c).Issues C :=
  ⟨hc, fun r => by cases r <;> trivial⟩

theorem issues_query_bind {c : Command} {f : c.Value → Action α} (hc : C c)
    (hf : ∀ a, (f a).Issues C)
    : (query c >>= f).Issues C :=
  issues_bind (issues_query hc) hf

-- What sends no command at all.
theorem issues_destructure (body : Option Json) : (destructure body).Issues C := by
  unfold destructure
  split <;> trivial

theorem issues_required (s : Option String) : (required s).Issues C := by
  cases s <;> trivial

theorem issues_hashPassword (P : Platform) (password : Option String) (salt : String)
    : (hashPassword P password salt).Issues C := by
  apply issues_bind (issues_required password)
  intro password
  trivial

theorem issues_enumeration {β : Type} (ofString? : String → Option β) (value : Option Json)
    : (UserRepository.enumeration ofString? value).Issues C := by
  unfold UserRepository.enumeration
  split
  . trivial
  . split <;> trivial

theorem issues_validateConstraints (wallet : Option Wallet)
    : (TransactionService.validateConstraints wallet).Issues C := by
  unfold TransactionService.validateConstraints
  split
  . trivial
  . split <;> trivial

theorem issues_throughClient (P : Platform) {c : Command} (hc : C c)
    : (PaymentRepository.throughClient P c).Issues C := by
  unfold PaymentRepository.throughClient
  cases P.paymentClient with
  | env => trivial
  | tables => exact issues_query hc

variable (h : ∀ c : Command, c.isRead → C c)

include h

theorem issues_existingUser (userId : UserId) : (UserService.existingUser userId).Issues C := by
  apply issues_query_bind (h (.findUserById userId) trivial)
  intro user
  cases user <;> trivial

theorem issues_getUserWalletId (userId : UserId)
    : (TransactionController.getUserWalletId userId).Issues C := by
  apply issues_query_bind (h (.findWalletByUserId userId) trivial)
  intro wallet
  cases wallet <;> trivial

theorem issues_getWalletDetails (userId : UserId)
    : (WalletService.getWalletDetails userId).Issues C := by
  apply issues_query_bind (h (.findWalletByUserId userId) trivial)
  intro wallet
  cases wallet <;> trivial

end Issues

/-!
The handlers that only look.
-/

section Reads

variable {C : Command → Prop} (P : Platform) (h : ∀ c : Command, c.isRead → C c)

include h

theorem issues_refreshToken (body : Option Json) (now : ℕ)
    : (AuthController.refreshToken P body now).Issues C := by
  apply issues_bind (issues_destructure body)
  intro body
  apply issues_bind
  . unfold AuthService.refreshAccessToken
    split
    . trivial
    . next refreshToken _ =>
      split
      . trivial
      . apply issues_query_bind (h (.findUserByRefreshToken refreshToken) trivial)
        intro user
        cases user <;> trivial
  . intro accessToken
    trivial

theorem issues_profile (user : RequestUser) : (AuthController.getProfile user).Issues C := by
  apply issues_bind
  . apply issues_query_bind (h (.findUserById user.id) trivial)
    intro found
    cases found <;> trivial
  . intro profile
    trivial

theorem issues_getMe (user : RequestUser) : (UserController.getMe user).Issues C := by
  apply issues_bind
  . apply issues_query_bind (h (.findUserById user.id) trivial)
    intro found
    cases found <;> trivial
  . intro profile
    trivial

theorem issues_getAllUsers (scan : Scan) : (UserController.getAllUsers scan).Issues C := by
  apply issues_bind
  . apply issues_query_bind (h (.getAllUsers scan) trivial)
    intro users
    trivial
  . intro users
    trivial

theorem issues_getWallet (user : RequestUser) : (WalletController.getWallet user).Issues C := by
  apply issues_bind (issues_getWalletDetails h user.id)
  intro wallet
  trivial

theorem issues_getHistory (user : RequestUser) (scan : Scan)
    : (TransactionController.getHistory user scan).Issues C := by
  apply issues_bind (issues_getUserWalletId h user.id)
  intro walletId
  apply issues_query_bind (h (.findUserTransactions walletId scan) trivial)
  intro transactions
  trivial

theorem issues_getTransactionDetails (reference : String)
    : (TransactionController.getTransactionDetails reference).Issues C := by
  apply issues_bind
  . apply issues_query_bind (h (.findTransactionByReference reference) trivial)
    intro tx
    cases tx <;> trivial
  . intro transaction
    trivial

theorem issues_getWalletLedger (walletId : Option Json) (scan : Scan)
    : (LedgerController.getWalletLedger walletId scan).Issues C := by
  unfold LedgerController.getWalletLedger
  split
  . apply issues_bind (issues_required _)
    intro walletId
    apply issues_query_bind (h (.findLedgerByWallet walletId scan) trivial)
    intro logs
    trivial
  . apply issues_query_bind (h (.findLedger scan) trivial)
    intro logs
    trivial

theorem issues_getTransactionLedgerEntries (transactionRef : String) (scan : Scan)
    : (LedgerController.getTransactionLedgerEntries transactionRef scan).Issues C := by
  apply issues_query_bind (h (.findTransactionByReference transactionRef) trivial)
  intro tx
  cases tx with
  | none => trivial
  | some tx =>
    apply issues_query_bind (h (.findLedgerByTransaction tx.id scan) trivial)
    intro entries
    trivial

theorem issues_getPayments (user : RequestUser) (scan : Scan)
    : (PaymentRoutes.list P user scan).Issues C := by
  apply issues_bind (issues_throughClient P (h (.findPaymentsByUser user.id scan) trivial))
  intro payments
  trivial

theorem issues_getPayment (user : RequestUser) (reference : String)
    : (PaymentRoutes.get P user reference).Issues C := by
  apply issues_bind (issues_throughClient P (h (.findPaymentByReference reference) trivial))
  intro payment
  match payment with
  | none => trivial
  | some (payment, transaction) =>
    dsimp only
    split <;> trivial

end Reads

/-!
The handlers that change something do it with their last command.
-/

/--
What a response says of the command that has been done.
-/
def Shows (c : Command) (a : c.Value) (response : Response) : Prop :=
  match c, a with
  | .createUser _, user =>
    response = sendSuccess "User registered successfully" (.user (sanitizeUser user)) 201
  | .updateUser _ (.refreshToken (some token)), _ =>
    ∃ user accessToken, response = sendSuccess "Login successful" (.session user accessToken token) 200
  | .updateUser _ (.refreshToken none), _ =>
    response = sendSuccess "Logged out successfully" (.json (.object [])) 200
  | .updateUser _ (.password _), _ => response = sendMessage 200 true "Password updated successfully"
  | .updateUser _ (.status _), user =>
    response = sendData 200 (.user (sanitizeUser user))
      ∨ response = sendMessage 200 true "User deleted successfully"
  | .updateUser _ (.role _), user => response = sendData 200 (.user (sanitizeUser user))
  | .updateProfile _ _, user => response = sendData 200 (.user (sanitizeUser user))
  | .createWallet _, wallet => response = sendData 201 (.wallet wallet)
  | .updateWalletStatus _ _, wallet => response = sendData 200 (.wallet wallet)
  | .deposit _ _ _ _ _, transaction => response = sendData 200 (.transaction transaction)
  | .withdraw _ _ _ _ _, transaction => response = sendData 200 (.transaction transaction)
  | .transfer _ _ _ _ _ _, transaction => response = sendData 200 (.transaction transaction)
  | _, _ => False

-- What is left of a program when its command has been answered.
def Ends {α : Type} (Q : (c : Command) → c.Value → α → Prop) (c : Command) (r : c.Result)
    (p : Action α)
    : Prop :=
  match r with
  | .ok a => ∃ b, p = .ret b ∧ Q c a b
  | .error e => p = fail e

abbrev Acts {α : Type} (C : Command → Prop) (Q : (c : Command) → c.Value → α → Prop) (p : Action α)
    : Prop :=
  p.ActsOnce Command.isRead (fun c => ¬c.isRead ∧ C c) (Ends Q)

section Acts

variable {C : Command → Prop} {α β : Type} {Q : (c : Command) → c.Value → α → Prop}

theorem exists_ofExcept_of_ends (c : Command) (r : c.Result) (p : Action α) (h : Ends Q c r p)
    : ∃ outcome, p = Prog.ofExcept outcome := by
  cases r with
  | ok a =>
    rcases h with ⟨b, rfl, _⟩
    exact ⟨.ok b, rfl⟩
  | error e => exact ⟨.error (.failure e), h⟩

theorem issues_of_acts {p : Action α} (h : Acts C Q p) (hread : ∀ c : Command, c.isRead → C c)
    : p.Issues C :=
  Prog.obeys_of_actsOnce h hread (fun _ hc => hc.2) exists_ofExcept_of_ends

theorem acts_query {c : Command} {Q : (c' : Command) → c'.Value → c.Value → Prop} (hc : ¬c.isRead)
    (hC : C c) (hQ : ∀ a, Q c a a)
    : Acts C Q (query c) := by
  refine .inr ⟨⟨hc, hC⟩, ?_⟩
  intro r
  cases r with
  | ok a => exact ⟨a, rfl, hQ a⟩
  | error e => rfl

theorem acts_bind_ret {p : Action β} {g : β → α} (hp : Acts C (fun c a b => Q c a (g b)) p)
    : Acts C Q (p >>= fun b => .ret (g b)) := by
  apply Prog.actsOnce_bind hp
  intro c r q h
  cases r with
  | ok a =>
    rcases h with ⟨b, rfl, hQ⟩
    exact ⟨g b, rfl, hQ⟩
  | error e =>
    cases h
    rfl

theorem acts_bind {p : Action β} {f : β → Action α} (hp : p.Issues Command.isRead)
    (hf : ∀ b, Acts C Q (f b))
    : Acts C Q (p >>= f) :=
  Prog.actsOnce_bind_of_obeys hp hf

theorem acts_query_bind {c : Command} {f : c.Value → Action α} (hc : c.isRead)
    (hf : ∀ a, Acts C Q (f a))
    : Acts C Q (query c >>= f) :=
  acts_bind (issues_query hc) hf

end Acts

section Changes

variable {C : Command → Prop} {user : Option RequestUser} {P : Platform} {self : RequestUser}

theorem acts_register (body : Option Json) (new : AuthService.NewUser)
    : Acts (Route.register.Issues user) Shows (AuthController.register P body new) := by
  apply acts_bind (issues_destructure body)
  intro body
  apply acts_bind_ret
  apply acts_bind (issues_required _)
  intro email
  apply acts_query_bind (by trivial)
  intro existingUser
  cases existingUser with
  | some _ => trivial
  | none =>
    apply acts_bind (issues_hashPassword P _ _)
    intro hashedPassword
    apply acts_bind (issues_required _)
    intro fullName
    apply acts_bind_ret
    exact acts_query id (.register rfl rfl rfl rfl) (fun _ => rfl)

theorem acts_login (body : Option Json) (now : ℕ)
    : Acts (Route.login.Issues user) Shows (AuthController.login P body now) := by
  apply acts_bind (issues_destructure body)
  intro body
  apply acts_bind_ret
  apply acts_bind (issues_required _)
  intro email
  apply acts_query_bind (by trivial)
  intro found
  cases found with
  | none => trivial
  | some found =>
    apply acts_bind
    . apply issues_bind (issues_required _)
      intro password
      trivial
    . intro isPasswordValid
      dsimp only
      split
      . apply acts_bind_ret
        exact acts_query id .login (fun _ => ⟨_, _, rfl⟩)
      . trivial

theorem acts_logout : Acts (Route.logout.Issues (some self)) Shows (AuthController.logout self) := by
  apply acts_bind_ret
  apply acts_bind_ret
  exact acts_query id (.logout rfl) (fun _ => rfl)

theorem acts_updateMe {body : Option Json} (hbody : ∃ j, Json.get body "body" = some j)
    : Acts (Route.updateMe.Issues (some self)) Shows (UserController.updateMe self body) := by
  rcases hbody with ⟨j, hj⟩
  apply acts_bind_ret
  apply acts_bind (issues_existingUser (fun _ hc => hc) self.id)
  intro _
  match body with
  | none => cases hj
  | some .null => cases hj
  | some (.object updateData) =>
    apply acts_bind_ret
    exact acts_query id (.updateMe rfl (mem_updateData (key_of_lookup hj))) (fun _ => rfl)
  | some (.string _) => trivial
  | some (.number _) => trivial
  | some (.boolean _) => trivial
  | some (.array _) => trivial

theorem acts_changePassword (body : Option Json) (salt : String)
    : Acts (Route.changePassword.Issues (some self)) Shows
        (UserController.changePassword P self body salt) := by
  apply acts_bind (issues_destructure body)
  intro body
  apply acts_bind_ret
  apply acts_bind (issues_existingUser (fun _ hc => hc) self.id)
  intro _
  apply acts_bind (issues_hashPassword P _ salt)
  intro hashedPassword
  apply acts_bind_ret
  exact acts_query id (.changePassword rfl) (fun _ => rfl)

theorem acts_deleteMe
    : Acts (Route.deleteMe.Issues (some self)) Shows (UserController.deleteMe self) := by
  apply acts_bind_ret
  apply acts_bind (issues_existingUser (fun _ hc => hc) self.id)
  intro _
  apply acts_bind_ret
  exact acts_query id (.deleteMe rfl) (fun _ => .inr rfl)

theorem acts_changeStatus (id : String) (body : Option Json)
    : Acts ((Route.changeStatus id).Issues user) Shows (UserController.changeStatus self id body) := by
  apply acts_bind (issues_destructure body)
  intro body
  apply acts_bind_ret
  unfold UserService.changeStatus
  split
  . trivial
  . apply acts_bind (issues_existingUser (fun _ hc => hc) id)
    intro _
    apply acts_bind_ret
    apply acts_bind (issues_enumeration _ _)
    intro status
    exact acts_query (fun hc => hc) .changeStatus (fun _ => .inl rfl)

theorem acts_changeRole (id : String) (body : Option Json)
    : Acts ((Route.changeRole id).Issues user) Shows (UserController.changeRole self id body) := by
  apply acts_bind (issues_destructure body)
  intro body
  apply acts_bind_ret
  unfold UserService.changeRole
  split
  . trivial
  . apply acts_bind (issues_existingUser (fun _ hc => hc) id)
    intro _
    apply acts_bind_ret
    apply acts_bind (issues_enumeration _ _)
    intro role
    exact acts_query (fun hc => hc) .changeRole (fun _ => rfl)

theorem acts_createWallet (body : Option Json) (id : WalletId) (walletNumber : String)
    : Acts (Route.createWallet.Issues (some self)) Shows
        (WalletController.createWallet self body id walletNumber) := by
  apply acts_bind (issues_destructure body)
  intro body
  apply acts_bind_ret
  apply acts_bind (issues_existingUser (fun _ hc => hc) self.id)
  intro _
  apply acts_query_bind (by trivial)
  intro existingWallet
  split
  . trivial
  . exact acts_query (fun hc => hc) (.createWallet rfl rfl rfl rfl) (fun _ => rfl)

theorem acts_changeWalletStatus {walletId : WalletId} {status : WalletStatus} (closed : String)
    (hC : C (.updateWalletStatus walletId status))
    : Acts C (fun c a wallet => Shows c a (sendData 200 (.wallet wallet)))
        (WalletService.changeStatus walletId status closed) := by
  apply acts_query_bind (by trivial)
  intro wallet
  cases wallet with
  | none => trivial
  | some wallet =>
    dsimp only
    split
    . trivial
    . exact acts_query id hC (fun _ => rfl)

theorem acts_freezeWallet (body : Option Json)
    : Acts (Route.freezeWallet.Issues user) Shows (WalletController.freezeWallet body) := by
  apply acts_bind (issues_destructure body)
  intro body
  apply acts_bind (issues_required _)
  intro walletId
  exact acts_bind_ret (acts_changeWalletStatus _ .freezeWallet)

theorem acts_unfreezeWallet (body : Option Json)
    : Acts (Route.unfreezeWallet.Issues user) Shows (WalletController.unfreezeWallet body) := by
  apply acts_bind (issues_destructure body)
  intro body
  apply acts_bind (issues_required _)
  intro walletId
  exact acts_bind_ret (acts_changeWalletStatus _ .unfreezeWallet)

theorem acts_closeWallet
    : Acts (Route.closeWallet.Issues user) Shows (WalletController.closeWallet self) := by
  apply acts_bind (issues_getWalletDetails (fun _ hc => hc) self.id)
  intro userWallet
  exact acts_bind_ret (acts_changeWalletStatus _ .closeWallet)

theorem acts_withoutAmount {Q : (c : Command) → c.Value → Transaction → Prop}
    (walletId : WalletId)
    : Acts C Q (TransactionService.withoutAmount walletId) := by
  apply acts_query_bind (by trivial)
  intro wallets
  apply acts_bind (issues_validateConstraints _)
  intro _
  trivial

/-!
What `deposit`, `withdraw` and `transfer` do when they know the wallet of the user.
-/

theorem acts_depositTo {walletId : WalletId} {gen : Generated}
    (hC : ∀ amount description, C (.deposit walletId amount self.id description gen))
    (body : Option Json)
    : Acts C Shows (destructure body >>= fun body =>
        TransactionService.deposit walletId (TransactionController.amountOf body) self.id
          (stringOf body "description") gen >>= fun transaction =>
            .ret (sendData 200 (.transaction transaction))) := by
  apply acts_bind (issues_destructure body)
  intro body
  apply acts_bind_ret
  unfold TransactionService.deposit
  cases TransactionController.amountOf body with
  | none => exact acts_withoutAmount walletId
  | some amount => exact acts_query id (hC _ _) (fun _ => rfl)

theorem acts_withdrawFrom {walletId : WalletId} {gen : Generated}
    (hC : ∀ amount description, C (.withdraw walletId amount self.id description gen))
    (body : Option Json)
    : Acts C Shows (destructure body >>= fun body =>
        TransactionService.withdraw walletId (TransactionController.amountOf body) self.id
          (stringOf body "description") gen >>= fun transaction =>
            .ret (sendData 200 (.transaction transaction))) := by
  apply acts_bind (issues_destructure body)
  intro body
  apply acts_bind_ret
  unfold TransactionService.withdraw
  cases TransactionController.amountOf body with
  | none => exact acts_withoutAmount walletId
  | some amount => exact acts_query id (hC _ _) (fun _ => rfl)

theorem acts_transferFrom {senderWalletId : WalletId} {gen : Generated}
    (hC : ∀ id amount description, C (.transfer senderWalletId id amount self.id description gen))
    (body : Option Json)
    : Acts C Shows (destructure body >>= fun body =>
        TransactionService.transfer senderWalletId (stringOf body "receiverWalletId")
          (TransactionController.amountOf body) self.id (stringOf body "description") gen >>=
            fun transaction => .ret (sendData 200 (.transaction transaction))) := by
  apply acts_bind (issues_destructure body)
  intro body
  apply acts_bind_ret
  unfold TransactionService.transfer
  split
  . exact acts_query id (hC _ _ _) (fun _ => rfl)
  . split
    . trivial
    . apply acts_query_bind (by trivial)
      intro lockQuery
      split
      . trivial
      . apply acts_bind (issues_validateConstraints _)
        intro _
        apply acts_bind (issues_validateConstraints _)
        intro _
        trivial

theorem acts_deposit (body : Option Json) (gen : Generated)
    : Acts (Route.deposit.Issues (some self)) Shows (TransactionController.deposit self body gen) := by
  apply acts_bind (issues_getUserWalletId (fun _ hc => hc) self.id)
  intro walletId
  exact acts_depositTo (fun _ _ => .deposit rfl) body

theorem acts_withdraw (body : Option Json) (gen : Generated)
    : Acts (Route.withdraw.Issues (some self)) Shows (TransactionController.withdraw self body gen) := by
  apply acts_bind (issues_getUserWalletId (fun _ hc => hc) self.id)
  intro walletId
  exact acts_withdrawFrom (fun _ _ => .withdraw rfl) body

theorem acts_transfer (body : Option Json) (gen : Generated)
    : Acts (Route.transfer.Issues (some self)) Shows (TransactionController.transfer self body gen) := by
  apply acts_bind (issues_getUserWalletId (fun _ hc => hc) self.id)
  intro senderWalletId
  exact acts_transferFrom (fun _ _ _ => .transfer rfl) body

end Changes

-- The routes that change something, at most once. Those of payments do more than one thing.
def Route.acts (route : Route) : Prop :=
  match route with
  | .register => True
  | .login => True
  | .logout => True
  | .updateMe => True
  | .changePassword => True
  | .deleteMe => True
  | .changeStatus _ => True
  | .changeRole _ => True
  | .createWallet => True
  | .freezeWallet => True
  | .unfreezeWallet => True
  | .closeWallet => True
  | .deposit => True
  | .withdraw => True
  | .transfer => True
  | _ => False

section Payments

variable {user : Option RequestUser} {P : Platform}

theorem Route.reads (user : Option RequestUser) (route : Route) (c : Command) (hc : c.isRead)
    : route.Issues user c :=
  .read hc

theorem caller_of_request? {body : Option Json} {createdBy : UserId} {key : IdempotencyKey}
    {gen : Generated} {request : PaymentRequest}
    (h : PaymentService.request? body createdBy key gen = some request)
    : request.createdBy = createdBy ∧ request.idempotencyKey = some key := by
  unfold PaymentService.request? at h
  simp only [Option.bind_eq_bind, Option.bind_eq_some_iff] at h
  rcases h with ⟨_, _, _, _, _, _, hrequest⟩
  split at hrequest
  . cases hrequest
    exact ⟨rfl, rfl⟩
  . cases hrequest
    exact ⟨rfl, rfl⟩
  . split at hrequest <;> cases hrequest
    exact ⟨rfl, rfl⟩
  . cases hrequest

theorem obeys_refusedBlock (body : Option Json)
    : (PaymentService.refusedBlock body).Obeys Command.isRead (fun _ => True) (fun _ => False) := by
  apply obeys_bind
  . unfold PaymentService.receiverWallets
    split
    . split
      . exact issues_query trivial
      . trivial
    . exact issues_query trivial
  . intro wallets
    split
    . trivial
    . split
      . trivial
      . split <;> trivial

theorem issues_transact {self : RequestUser} (body : Option Json) (key : IdempotencyKey)
    (gen : Generated)
    : (PaymentService.transact body self.id key gen).Issues
        (Route.createPayment.Issues (some self)) := by
  unfold PaymentService.transact
  split
  . next request hrequest =>
    exact issues_query (.processPayment rfl (caller_of_request? hrequest).1)
  . exact obeys_mono (obeys_refusedBlock body) (fun _ hc => .read hc) (fun _ => id)
      (fun _ _ => trivial)

theorem issues_createPayment {self : RequestUser} (body : Option Json)
    (idempotencyKey : Option String) (now : ℕ) (gen : Generated)
    : (PaymentRoutes.create self body idempotencyKey now gen).Issues
        (Route.createPayment.Issues (some self)) := by
  apply issues_bind
  . unfold PaymentService.processPayment
    split
    . trivial
    . next key _ =>
      apply issues_query_bind (.read trivial)
      intro cachedResponse
      cases cachedResponse with
      | some payment => trivial
      | none =>
        apply issues_query_bind .setLock
        intro isLocked
        split
        . apply obeys_ensure
          . apply issues_bind (issues_transact body key gen)
            intro payment
            apply issues_query_bind .setResponse
            intro _
            apply issues_query_bind .publishPaymentEvent
            intro _
            trivial
          . exact issues_query .deleteLock
        . trivial
  . intro payment
    trivial

theorem issues_verify (body : Option Json)
    : (PaymentRoutes.verify P body).Issues (Route.verifyPayment.Issues user) := by
  apply issues_bind (issues_destructure body)
  intro body
  apply issues_bind
  . apply issues_bind
    . unfold PaymentService.paymentOf
      cases P.paymentClient with
      | env => trivial
      | tables =>
        apply issues_bind (issues_required _)
        intro paymentRef
        exact issues_throughClient P (.read trivial)
    . intro payment
      match payment with
      | none => trivial
      | some (payment, _) =>
        dsimp only
        split
        . trivial
        . apply issues_bind (issues_throughClient P .updatePaymentStatus)
          intro updatedPayment
          apply issues_bind (issues_throughClient P .updateGatewayResponse)
          intro _
          split
          . apply issues_query_bind .publishWebhookEvent
            intro _
            trivial
          . trivial
  . intro payment
    trivial

end Payments

variable {P : Platform} {request : Request}

theorem acts_userHandler {self : RequestUser} {body : Option Json} (hroute : request.route.acts)
    (hbody : validated P request = .ok body)
    : Acts (request.route.Issues (some self)) Shows (userHandler P request self body) := by
  have hupdate := fun hroute => body_of_validated_updateMe hroute hbody
  unfold userHandler
  generalize request.route = route at *
  cases route with
  | logout => exact acts_logout
  | updateMe => exact acts_updateMe (hupdate rfl)
  | changePassword => exact acts_changePassword body _
  | deleteMe => exact acts_deleteMe
  | changeStatus id => exact acts_changeStatus id body
  | changeRole id => exact acts_changeRole id body
  | createWallet => exact acts_createWallet body _ _
  | freezeWallet => exact acts_freezeWallet body
  | unfreezeWallet => exact acts_unfreezeWallet body
  | closeWallet => exact acts_closeWallet
  | deposit => exact acts_deposit body _
  | withdraw => exact acts_withdraw body _
  | transfer => exact acts_transfer body _
  | register => trivial
  | login => trivial
  | _ => exact hroute.elim

theorem acts_handler {context : Context} (hroute : request.route.acts)
    (hbody : validated P request = .ok context.body)
    : Acts (request.route.Issues context.user) Shows (handler P request context) := by
  rcases context with ⟨user, body⟩
  have hself : ∀ self, user = some self →
      Acts (request.route.Issues user) Shows (userHandler P request self body) := by
    rintro self rfl
    exact acts_userHandler hroute hbody
  unfold handler
  dsimp only
  generalize request.route = route at *
  cases route with
  | register => exact acts_register body _
  | login => exact acts_login body _
  | refresh => exact hroute.elim
  | gateway => exact hroute.elim
  | _ =>
    cases user with
    | none => trivial
    | some self => exact hself self rfl

-- The handlers that change nothing, and those of payments.
theorem issues_userHandler_of_not_acts {self : RequestUser} {body : Option Json}
    (hroute : ¬request.route.acts)
    : (userHandler P request self body).Issues (request.route.Issues (some self)) := by
  unfold userHandler
  generalize request.route = route at *
  have h := route.reads (some self)
  cases route with
  | profile => exact issues_profile h self
  | getMe => exact issues_getMe h self
  | getAllUsers => exact issues_getAllUsers h _
  | getWallet => exact issues_getWallet h self
  | getHistory => exact issues_getHistory h self _
  | getTransactionDetails reference => exact issues_getTransactionDetails h reference
  | getWalletLedger walletId => exact issues_getWalletLedger h walletId _
  | getTransactionLedgerEntries transactionRef =>
    exact issues_getTransactionLedgerEntries h transactionRef _
  | createPayment => exact issues_createPayment body _ _ _
  | verifyPayment => exact issues_verify body
  | getPayments => exact issues_getPayments P h self _
  | getPayment reference => exact issues_getPayment P h self reference
  | createAccount =>
    apply issues_bind (issues_destructure body)
    intro body
    trivial
  | refresh => trivial
  | retryPayment => trivial
  | listAudits => trivial
  | findAuditsByUser => trivial
  | findAuditsByEntity => trivial
  | getAccounts => trivial
  | getAccount => trivial
  | gateway => trivial
  | _ => exact absurd trivial hroute

theorem issues_handler {context : Context} (hbody : validated P request = .ok context.body)
    : (handler P request context).Issues (request.route.Issues context.user) := by
  by_cases hroute : request.route.acts
  . exact issues_of_acts (acts_handler hroute hbody) (fun _ hc => .read hc)
  . rcases context with ⟨user, body⟩
    have hself : ∀ self, user = some self →
        (userHandler P request self body).Issues (request.route.Issues user) := by
      rintro self rfl
      exact issues_userHandler_of_not_acts hroute
    have hgateway : request.route ≠ .gateway := by
      intro hr
      unfold validated at hbody
      rw [hr] at hbody
      cases hbody
    unfold handler
    dsimp only
    generalize request.route = route at *
    cases route with
    | register => exact absurd trivial hroute
    | login => exact absurd trivial hroute
    | refresh => exact issues_refreshToken P (Route.reads _ _) body _
    | gateway => exact absurd rfl hgateway
    | _ =>
      cases user with
      | none => trivial
      | some self => exact hself self rfl

end Banking.Http
