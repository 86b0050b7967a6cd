import BankingApi.Http.Response
import BankingApi.Payment.Settlement
import BankingApi.Store.Service

/-!
This module contains the server that requests meet: the database, Redis and the queues behind it, the
libraries it calls, and what one command to any of them does.
-/

namespace Banking.Http

inductive JwtError where
  | TokenExpiredError
  | JsonWebTokenError
  deriving DecidableEq

-- tokenPayload of `auth.service.js`
structure TokenPayload where
  id : UserId
  email : String
  role : UserRole

-- What a token says, without `iat` and `exp`. A claim that it lacks is `none`.
structure Claims where
  id : Option Json
  email : Option Json
  role : Option Json

/--
The client that the functions of `payment.repository.js` use by default: what `shared/config/env` exports,
or one that acts on the tables.
-/
inductive PaymentClient where
  | env
  | tables

/--
What the code calls and does not contain, and what it is configured with.
-/
structure Platform where
  -- jsonwebtoken, with times in whole seconds
  sign : TokenPayload → (secret : String) → (iat exp : ℕ) → String
  verify : (token secret : String) → (now : ℕ) → Except JwtError Claims
  -- bcryptjs
  hash : (password salt : String) → String
  compare : (password hashed : String) → Bool
  -- the string formats of zod
  isEmail : String → Bool
  isCuid : String → Bool
  -- `prisma.user.update` with an object whose keys are fields of the model
  updateUser : UserId → List (String × Json) → Store → Except Failure (User × Store)
  JWT_SECRET : String
  JWT_REFRESH_SECRET : String
  paymentClient : PaymentClient

inductive UserChange where
  | refreshToken (token : Option String)
  | password (hashed : String)
  -- `undefined` changes nothing
  | status (status : Option UserStatus)
  | role (role : Option UserRole)

def UserChange.apply (change : UserChange) (u : User) : User :=
  match change with
  | .refreshToken t => { u with refreshToken := t }
  | .password h => { u with password := h }
  | .status st => { u with status := st.getD u.status }
  | .role r => { u with role := r.getD u.role }

theorem UserChange.id_apply (change : UserChange) (u : User) : (change.apply u).id = u.id := by
  cases change <;> rfl

-- The fields of the model, relations included.
def userFields : List String :=
  ["id", "customerId", "fullName", "email", "phone", "password", "role", "status", "isVerified",
    "refreshToken", "lastLogin", "createdAt", "updatedAt", "wallet"]

inductive Command where
  -- prisma.user
  | createUser (row : User)
  | findUserByEmail (email : String)
  | findUserById (id : UserId)
  | findUserByRefreshToken (token : String)
  | getAllUsers (scan : Scan)
  | updateUser (id : UserId) (change : UserChange)
  | updateProfile (id : UserId) (data : List (String × Json))
  -- prisma.wallet
  | createWallet (row : Wallet)
  | findWalletById (id : WalletId)
  | findWalletByUserId (userId : UserId)
  | updateWalletStatus (id : WalletId) (status : WalletStatus)
  -- prisma.transaction, prisma.ledgerEntry
  | findTransactionByReference (transactionRef : String)
  | findUserTransactions (walletId : WalletId) (scan : Scan)
  | findLedger (scan : Scan)
  | findLedgerByWallet (walletId : WalletId) (scan : Scan)
  | findLedgerByTransaction (transactionId : TransactionId) (scan : Scan)
  -- prisma.payment
  | findPaymentByReference (paymentRef : String)
  | findPaymentsByUser (userId : UserId) (scan : Scan)
  | updatePaymentStatus (id : String) (status : PaymentStatus)
  | updateGatewayResponse (id : String) (gatewayResponse : Json)
  -- prisma.$transaction
  | deposit (receiverWalletId : WalletId) (amount : Binary64) (createdBy : UserId)
      (description : Option String) (gen : Generated)
  | withdraw (senderWalletId : WalletId) (amount : Binary64) (createdBy : UserId)
      (description : Option String) (gen : Generated)
  | transfer (senderWalletId receiverWalletId : WalletId) (amount : Binary64) (createdBy : UserId)
      (description : Option String) (gen : Generated)
  | processPayment (key : IdempotencyKey) (request : PaymentRequest)
  -- a block that Prisma refuses after the wallets are locked
  | selectWalletsForUpdate (ids : List WalletId)
  -- redis
  | getResponse (key : IdempotencyKey) (now : ℕ)
  | setLock (key : IdempotencyKey) (now : ℕ)
  | setResponse (key : IdempotencyKey) (payment : Payment) (now : ℕ)
  | deleteLock (key : IdempotencyKey)
  -- queues
  | publishPaymentEvent (event : PaymentSuccess)
  | publishWebhookEvent (event : PaymentVerified)

@[reducible]
def Command.Value (c : Command) : Type :=
  match c with
  | .createUser _ => User
  | .findUserByEmail _ => Option User
  | .findUserById _ => Option User
  | .findUserByRefreshToken _ => Option User
  | .getAllUsers _ => List User
  | .updateUser _ _ => User
  | .updateProfile _ _ => User
  | .createWallet _ => Wallet
  | .findWalletById _ => Option Wallet
  | .findWalletByUserId _ => Option Wallet
  | .updateWalletStatus _ _ => Wallet
  | .findTransactionByReference _ => Option Transaction
  | .findUserTransactions _ _ => List Transaction
  | .findLedger _ => List LedgerEntry
  | .findLedgerByWallet _ _ => List LedgerEntry
  | .findLedgerByTransaction _ _ => List LedgerEntry
  | .findPaymentByReference _ => Option (Payment × Transaction)
  | .findPaymentsByUser _ _ => List (Payment × Transaction)
  | .updatePaymentStatus _ _ => Payment
  | .updateGatewayResponse _ _ => Payment
  | .deposit _ _ _ _ _ => Transaction
  | .withdraw _ _ _ _ _ => Transaction
  | .transfer _ _ _ _ _ _ => Transaction
  | .processPayment _ _ => Payment
  | .selectWalletsForUpdate _ => List Wallet
  | .getResponse _ _ => Option Payment
  -- Whether the key was set.
  | .setLock _ _ => Bool
  | .setResponse _ _ _ => Unit
  | .deleteLock _ => Unit
  | .publishPaymentEvent _ => Unit
  | .publishWebhookEvent _ => Unit

abbrev Command.Result (c : Command) : Type := Except Failure c.Value

structure Server where
  store : Store
  -- the keys `idempotency:<key>` and `idempotency_lock:<key>`, with when they expire
  cache : IdempotencyKey → Option (Payment × ℕ)
  locks : IdempotencyKey → Option ℕ
  queue : List PaymentSuccess
  webhooks : List PaymentVerified

namespace Server

def setStore (s : Server) (store : Store) : Server :=
  { s with store := store }

def setUsers (s : Server) (users : Table User.id) : Server :=
  s.setStore { s.store with users := users }

-- A statement or a block that commits when it succeeds.
def commit {α : Type} (s : Server) (r : Except Failure (α × Store)) : Except Failure α × Server :=
  match r with
  | .ok (a, store) => (.ok a, s.setStore store)
  | .error e => (.error e, s)

def createUser (s : Store) (row : User) : Except Failure (User × Store) :=
  if ¬(isText row.fullName ∧ isText row.email) then
    .error .invalid
  else if (s.users.find? row.id).isSome ∨ s.users.has User.customerId row.customerId
      ∨ s.users.has User.email row.email then
    .error (.prisma .P2002)
  else
    .ok (row, { s with users := s.users.insert row })

def updateUser (s : Store) (id : UserId) (change : UserChange) : Except Failure (User × Store) :=
  match s.users.find? id with
  | none => .error (.prisma .P2025)
  | some row =>
    .ok (change.apply row, { s with users := s.users.update id change.apply change.id_apply })

def updateProfile (P : Platform) (s : Store) (id : UserId) (data : List (String × Json))
    : Except Failure (User × Store) :=
  if data.all (fun field => field.1 ∈ userFields) then
    P.updateUser id data s
  else
    .error .invalid

-- include: { transaction: true }
def withTransaction (s : Store) (p : Payment) : Option (Payment × Transaction) :=
  (s.transactions.find? p.transactionId).map (fun t => (p, t))

def findPaymentByReference (s : Store) (paymentRef : String) : Option (Payment × Transaction) :=
  (PaymentRepository.findByReference s paymentRef).bind (withTransaction s)

def findPaymentsByUser (s : Store) (userId : UserId) (scan : Scan) : List (Payment × Transaction) :=
  scan.latestFirst (·.1.id) (·.1.createdAt)
    ((s.payments.rows.filterMap (withTransaction s)).filter (·.2.createdBy = userId))

def findUserTransactions (s : Store) (walletId : WalletId) (scan : Scan) : List Transaction :=
  scan.latestFirst Transaction.id Transaction.createdAt
    (s.transactions.rows.filter (fun t =>
      t.senderWalletId = some walletId ∨ t.receiverWalletId = some walletId))

def findLedger (s : Store) (scan : Scan) : List LedgerEntry :=
  scan.latestFirst LedgerEntry.id LedgerEntry.createdAt s.ledgerEntries.rows

def findLedgerByWallet (s : Store) (walletId : WalletId) (scan : Scan) : List LedgerEntry :=
  scan.latestFirst LedgerEntry.id LedgerEntry.createdAt (LedgerRepository.entries s walletId)

def findLedgerByTransaction (s : Store) (transactionId : TransactionId) (scan : Scan)
    : List LedgerEntry :=
  scan.list LedgerEntry.id (s.ledgerEntries.rows.filter (·.transactionId = transactionId))

/--
One command. A key of Redis that has expired is as good as absent. A block that waits for the locks of its
rows is done when it has got them.
-/
def exec (P : Platform) (c : Command) (s : Server) : c.Result × Server :=
  match c with
  | .createUser row => s.commit (createUser s.store row)
  | .findUserByEmail email => (.ok (s.store.users.rows.find? (·.email = email)), s)
  | .findUserById id => (.ok (s.store.users.find? id), s)
  | .findUserByRefreshToken token =>
    (.ok (s.store.users.rows.find? (·.refreshToken = some token)), s)
  | .getAllUsers scan => (.ok (scan.list User.id s.store.users.rows), s)
  | .updateUser id change => s.commit (updateUser s.store id change)
  | .updateProfile id data => s.commit (updateProfile P s.store id data)
  | .createWallet row => s.commit (WalletRepository.createWallet s.store row)
  | .findWalletById id => (.ok (WalletRepository.findWalletById s.store id), s)
  | .findWalletByUserId userId => (.ok (WalletRepository.findWalletByUserId s.store userId), s)
  | .updateWalletStatus id status =>
    s.commit ((WalletRepository.updateWalletStatus id status .global).run database s.store)
  | .findTransactionByReference transactionRef =>
    (.ok (s.store.transactions.rows.find? (·.transactionRef = transactionRef)), s)
  | .findUserTransactions walletId scan => (.ok (findUserTransactions s.store walletId scan), s)
  | .findLedger scan => (.ok (findLedger s.store scan), s)
  | .findLedgerByWallet walletId scan => (.ok (findLedgerByWallet s.store walletId scan), s)
  | .findLedgerByTransaction transactionId scan =>
    (.ok (findLedgerByTransaction s.store transactionId scan), s)
  | .findPaymentByReference paymentRef => (.ok (findPaymentByReference s.store paymentRef), s)
  | .findPaymentsByUser userId scan => (.ok (findPaymentsByUser s.store userId scan), s)
  | .updatePaymentStatus id status => s.commit (PaymentRepository.updateStatus s.store id status)
  | .updateGatewayResponse id gatewayResponse =>
    s.commit (PaymentRepository.updateGatewayResponse s.store id gatewayResponse)
  | .deposit receiverWalletId amount createdBy description gen =>
    s.commit ((TransactionService.deposit receiverWalletId (.number amount) createdBy description
      gen).run database s.store)
  | .withdraw senderWalletId amount createdBy description gen =>
    s.commit ((TransactionService.withdraw senderWalletId (.number amount) createdBy description
      gen).run database s.store)
  | .transfer senderWalletId receiverWalletId amount createdBy description gen =>
    s.commit ((TransactionService.transfer senderWalletId receiverWalletId (.number amount)
      createdBy description gen).run database s.store)
  | .processPayment key request => s.commit ((request.block key).run database s.store)
  | .selectWalletsForUpdate ids => (.ok (s.store.selectWallets ids), s)
  | .getResponse key now => (.ok (((s.cache key).filter (now < ·.2)).map Prod.fst), s)
  | .setLock key now =>
    if (s.locks key).any (now < ·) then
      (.ok false, s)
    else
      (.ok true, { s with locks := Function.update s.locks key (some (now + 10)) })
  | .setResponse key payment now =>
    (.ok (), { s with cache := Function.update s.cache key (some (payment, now + 86400)) })
  | .deleteLock key => (.ok (), { s with locks := Function.update s.locks key none })
  | .publishPaymentEvent event => (.ok (), { s with queue := s.queue ++ [event] })
  | .publishWebhookEvent event => (.ok (), { s with webhooks := s.webhooks ++ [event] })

end Server

/--
What a handler does: commands one after another, until it answers or throws.
-/
abbrev Action (α : Type) := Prog Command Command.Result Fault α

def query (c : Command) : Action c.Value :=
  .call c (fun r =>
    match r with
    | .ok a => .ret a
    | .error e => .throw (.failure e))

def fail {α : Type} (f : Failure) : Action α :=
  .throw (.failure f)

theorem obeys_query_of_command {C : Command → Prop} (c : Command) (hc : C c)
    : (query c).Obeys C (fun _ => True) (fun _ => True) := by
  refine ⟨hc, ?_⟩
  intro r
  cases r <;> trivial

section Serve

variable {P : Platform} {c : Command} {α : Type} {s s' : Server}

theorem serve_query_of_ok {a : c.Value} (h : Server.exec P c s = (.ok a, s'))
    (f : c.Value → Action α)
    : (query c >>= f).serve (Server.exec P) s = (f a).serve (Server.exec P) s' := by
  unfold query
  rw [Prog.call_bind, Prog.serve_call, h]
  rfl

theorem serve_query_of_error {e : Failure} (h : Server.exec P c s = (.error e, s'))
    (f : c.Value → Action α)
    : (query c >>= f).serve (Server.exec P) s = (.error (.failure e), s') := by
  unfold query
  rw [Prog.call_bind, Prog.serve_call, h]
  rfl

end Serve

section Users

variable (P : Platform) {s : Server}

theorem exec_createUser_cases (s : Server) (row : User)
    : (∃ e, Server.exec P (.createUser row) s = (.error e, s))
        ∨ s.store.users.find? row.id = none ∧ s.store.users.has User.email row.email = false
          ∧ Server.exec P (.createUser row) s = (.ok row, s.setUsers (s.store.users.insert row)) := by
  change (∃ e, s.commit (Server.createUser s.store row) = (.error e, s))
    ∨ _ ∧ _ ∧ s.commit (Server.createUser s.store row) = _
  unfold Server.createUser
  split
  . exact .inl ⟨_, rfl⟩
  . split
    . exact .inl ⟨_, rfl⟩
    . next hfree =>
      simp only [not_or, Bool.not_eq_true, Option.isSome_eq_false_iff, Option.isNone_iff_eq_none]
        at hfree
      exact .inr ⟨hfree.1, hfree.2.2, rfl⟩

theorem exec_updateUser_of_find? {id : UserId} {row : User} (h : s.store.users.find? id = some row)
    (change : UserChange)
    : Server.exec P (.updateUser id change) s =
      (.ok (change.apply row),
        s.setUsers (s.store.users.update id change.apply change.id_apply)) := by
  change s.commit (Server.updateUser s.store id change) = _
  unfold Server.updateUser
  rw [h]
  rfl

theorem exec_updateUser_of_not_find? {id : UserId} (h : s.store.users.find? id = none)
    (change : UserChange)
    : Server.exec P (.updateUser id change) s = (.error (.prisma .P2025), s) := by
  change s.commit (Server.updateUser s.store id change) = _
  unfold Server.updateUser
  rw [h]
  rfl

end Users

end Banking.Http
