import BankingApi.Http.Validators
import BankingApi.Modules.Auth

/-!
This module contains the routes with the middlewares in front of their handlers: authentication,
authorization and validation.
-/

namespace Banking.Http

open Zod

inductive Route where
  -- /v1/auth
  | register
  | login
  | refresh
  | logout
  | profile
  -- /v1/users
  | getMe
  | updateMe
  | changePassword
  | deleteMe
  | getAllUsers
  | changeStatus (id : String)
  | changeRole (id : String)
  -- /v1/wallet
  | createWallet
  | getWallet
  | freezeWallet
  | unfreezeWallet
  | closeWallet
  -- /v1/transactions
  | deposit
  | withdraw
  | transfer
  | getHistory
  | getTransactionDetails (reference : String)
  -- /v1/ledger
  | getWalletLedger (walletId : Option Json)
  | getTransactionLedgerEntries (transactionRef : String)
  -- /v1/payments
  | createPayment
  | verifyPayment
  | retryPayment
  | getPayments
  | getPayment (reference : String)
  -- /v1/audit
  | listAudits
  | findAuditsByUser (id : String)
  | findAuditsByEntity (entity : String)
  -- /v1/accounts
  | createAccount
  | getAccounts
  | getAccount (accountId : String)
  -- /v1/webhooks
  | gateway

-- What is drawn while a request is served: the clock in seconds, ids, references, salts and a scan.
structure Draw where
  now : ℕ
  newUser : AuthService.NewUser
  salt : String
  walletId : WalletId
  walletNumber : String
  gen : Generated
  accountId : String
  accountNumber : String
  createdAt : String
  scan : Scan

structure Request where
  route : Route
  -- names in lower case
  headers : List (String × String)
  -- `undefined` if there is none
  body : Option Json
  draw : Draw

def Request.header? (request : Request) (name : String) : Option String :=
  (request.headers.find? (·.1 = name)).map Prod.snd

-- authHeader.startsWith("Bearer "), authHeader.split(" ")[1]
def Request.bearerToken? (request : Request) : Option String :=
  match request.header? "authorization" with
  | none => none
  | some authHeader =>
    if "Bearer ".toList.isPrefixOf authHeader.toList then
      some (.ofList ((authHeader.toList.drop 7).takeWhile (· ≠ ' ')))
    else
      none

def authenticate (P : Platform) (request : Request) : Action RequestUser :=
  match request.bearerToken? with
  | none => .throw (.sent (sendError "Authorization header is required" [] 401))
  | some token =>
    match verifyAccessToken P token request.draw.now with
    | .error .TokenExpiredError => .throw (.sent (sendError "Access token has expired" [] 401))
    | .error .JsonWebTokenError => .throw (.sent (sendError "Invalid access token" [] 401))
    | .ok decodedPayload => do
      let userId ← required (decodedPayload.id.bind Json.string?)
      let dbUser ← UserRepository.findUserById userId
      match dbUser with
      | none => .throw (.sent (sendError "User not found" [] 401))
      | some dbUser =>
        if dbUser.status ∈ [UserStatus.BLOCKED, .LOCKED, .INACTIVE] then
          .throw (.sent (sendError "Access denied. Account is compromised or suspended." [] 403))
        else
          .ret { id := dbUser.id, email := dbUser.email, role := dbUser.role, status := dbUser.status }

def authorize (allowedRoles : List UserRole) (user : RequestUser) : Action Unit :=
  if user.role ∈ allowedRoles then
    .ret ()
  else
    fail (.app (ForbiddenError "Access denied. Insufficient permissions."))

inductive Guard where
  | open
  | authenticated
  | authorized (allowedRoles : List UserRole)

def Route.guard (route : Route) : Guard :=
  match route with
  | .register => .open
  | .login => .open
  | .refresh => .open
  | .getAllUsers => .authorized [.ADMIN, .AUDITOR]
  | .changeStatus _ => .authorized [.ADMIN]
  | .changeRole _ => .authorized [.ADMIN]
  | .freezeWallet => .authorized [.ADMIN]
  | .unfreezeWallet => .authorized [.ADMIN]
  | .getWalletLedger _ => .authorized [.ADMIN, .AUDITOR]
  | .getTransactionLedgerEntries _ => .authorized [.ADMIN, .AUDITOR]
  | .listAudits => .authorized [.ADMIN, .AUDITOR]
  | .findAuditsByUser _ => .authorized [.ADMIN, .AUDITOR]
  | .findAuditsByEntity _ => .authorized [.ADMIN, .AUDITOR]
  | .gateway => .open
  | _ => .authenticated

def guarded (P : Platform) (request : Request) : Action (Option RequestUser) :=
  match request.route.guard with
  | .open => .ret none
  | .authenticated => do
    let user ← authenticate P request
    return some user
  | .authorized allowedRoles => do
    let user ← authenticate P request
    authorize allowedRoles user
    return some user

structure ZodIssue where
  path : List String
  message : String

-- A `ZodError` of zod 4 has its list in `issues`: `errors` is `undefined`.
structure ZodError where
  errors : Option (List ZodIssue)

def parse (schema : Schema) (value : Option Json) : Except ZodError (Option Json) :=
  match schema.parse value with
  | some value => .ok value
  | none => .error ⟨none⟩

/--
What a route hands to `validate`: a zod schema, which has `safeParse` and no `body`, or an object that
holds schemas. No such object has a `query`.
-/
inductive Schemas where
  | zod (schema : Schema)
  | record (body params : Option Schema)
  | undefined

-- validate.js
def validate (schemas : Schemas) (body params : Option Json) : Except Fault (Option Json) :=
  let parseIf (schema : Option Schema) (value : Option Json) : Except Fault (Option Json) :=
    match schema with
    | none => .ok value
    | some schema => (parse schema value).mapError (fun _ => .validation ⟨"ZodError", none, none⟩)
  match schemas with
  | .zod _ => .ok body
  | .record bodySchema paramsSchema => do
    let body ← parseIf bodySchema body
    let _ ← parseIf paramsSchema params
    return body
  | .undefined => .error (.failure .typeError)

namespace Validation

-- error.errors.map((issue) => ({ field: issue.path.join("."), message: issue.message }))
def rejected (error : ZodError) : Fault :=
  match error.errors with
  | none => .validation ⟨"TypeError", none, none⟩
  | some issues =>
    .sent (sendError "Validation failed"
      (issues.map (fun issue => .object
        [("field", .string (".".intercalate issue.path)), ("message", .string issue.message)]))
      400)

-- validation.middleware.js
def validate (schema : Schemas) (body params : Option Json) : Except Fault (Option Json) :=
  let parseIf (schema : Option Schema) (value : Option Json) : Except Fault (Option Json) :=
    match schema with
    | none => .ok value
    | some schema => (parse schema value).mapError rejected
  match schema with
  | .zod schema => parseIf (some schema) body
  | .record bodySchema paramsSchema => do
    let body ← parseIf bodySchema body
    let _ ← parseIf paramsSchema params
    return body
  | .undefined => .error (.failure .typeError)

end Validation

def Request.params (request : Request) : Option Json :=
  match request.route with
  | .getAccount accountId => some (.object [("accountId", .string accountId)])
  | _ => some (.object [])

def validated (P : Platform) (request : Request) : Except Fault (Option Json) :=
  match request.route with
  | .register => Validation.validate (.zod (registerSchema P)) request.body request.params
  | .login => Validation.validate (.zod (loginSchema P)) request.body request.params
  | .refresh => Validation.validate (.zod refreshTokenSchema) request.body request.params
  | .updateMe => Validation.validate (.zod updateProfileSchema) request.body request.params
  | .changePassword => Validation.validate (.zod changePasswordSchema) request.body request.params
  | .changeStatus _ => Validation.validate (.zod changeStatusSchema) request.body request.params
  | .changeRole _ => Validation.validate (.zod changeRoleSchema) request.body request.params
  | .createWallet => Validation.validate (.zod createWalletSchema) request.body request.params
  | .deposit => Validation.validate (.zod depositSchema) request.body request.params
  | .withdraw => Validation.validate (.zod withdrawSchema) request.body request.params
  | .transfer => Validation.validate (.zod transferSchema) request.body request.params
  | .createPayment => validate (.zod (createPaymentSchema P)) request.body request.params
  | .verifyPayment => validate (.zod verifyPaymentSchema) request.body request.params
  | .createAccount => validate (.record (some createAccountBody) none) request.body request.params
  | .getAccount _ => validate (.record none (some getAccountParams)) request.body request.params
  -- `webhook.validator.js` exports `webhookSchema`, the route imports `webhookPayloadSchema`.
  | .gateway => validate .undefined request.body request.params
  | _ => .ok request.body

structure Context where
  user : Option RequestUser
  body : Option Json

def middlewares (P : Platform) (request : Request) : Action Context := do
  let user ← guarded P request
  let body ← .ofExcept (validated P request)
  return { user := user, body := body }

def RequestUser.ofUser (u : User) : RequestUser where
  id := u.id
  email := u.email
  role := u.role
  status := u.status

/--
The user in whose name a request is served, if `authenticate` lets it through.
-/
def Request.subject? (P : Platform) (request : Request) (s : Server) : Option User := do
  let token ← request.bearerToken?
  let claims ← (verifyAccessToken P token request.draw.now).toOption
  let userId ← claims.id.bind Json.string?
  let user ← s.store.users.find? userId
  if user.status ∈ [UserStatus.BLOCKED, .LOCKED, .INACTIVE] then none else some user

variable {P : Platform} {request : Request}

theorem mem_of_subject? {s : Server} {user : User} (h : request.subject? P s = some user)
    : user ∈ s.store.users.rows := by
  unfold Request.subject? at h
  simp only [Option.bind_eq_bind, Option.bind_eq_some_iff] at h
  rcases h with ⟨_, _, _, _, userId, _, user, huser, h⟩
  split at h
  . cases h
  . cases h
    exact Table.mem_of_find? huser

theorem serve_authenticate (P : Platform) (request : Request) (s : Server)
    : (∃ user, request.subject? P s = some user
          ∧ (authenticate P request).serve (Server.exec P) s = (.ok (.ofUser user), s))
        ∨ request.subject? P s = none
          ∧ ∃ fault, (authenticate P request).serve (Server.exec P) s = (.error fault, s)
            ∧ ((∃ response, fault = .sent response) ∨ fault = .failure .invalid) := by
  unfold Request.subject? authenticate
  cases request.bearerToken? with
  | none => exact .inr ⟨rfl, _, rfl, .inl ⟨_, rfl⟩⟩
  | some token =>
    simp only [Option.bind_eq_bind, Option.bind_some]
    cases verifyAccessToken P token request.draw.now with
    | error e => cases e <;> exact .inr ⟨rfl, _, rfl, .inl ⟨_, rfl⟩⟩
    | ok claims =>
      simp only [Except.toOption, Option.bind_some]
      cases claims.id.bind Json.string? with
      | none => exact .inr ⟨rfl, _, rfl, .inr rfl⟩
      | some userId =>
        simp only [required_some_bind, UserRepository.serve_findUserById, Option.bind_some]
        cases s.store.users.find? userId with
        | none => exact .inr ⟨rfl, _, rfl, .inl ⟨_, rfl⟩⟩
        | some user =>
          simp only [Option.bind_some]
          split
          . exact .inr ⟨rfl, _, rfl, .inl ⟨_, rfl⟩⟩
          . exact .inl ⟨user, rfl, rfl⟩

-- What `req.user` is when the guard of the route lets the request through.
def Request.admitted? (P : Platform) (request : Request) (s : Server) : Option (Option RequestUser) :=
  match request.route.guard with
  | .open => some none
  | .authenticated => (request.subject? P s).map (fun user => some (.ofUser user))
  | .authorized allowedRoles =>
    ((request.subject? P s).filter (·.role ∈ allowedRoles)).map (fun user => some (.ofUser user))

-- A guard answers itself, forbids, or finds that Prisma refuses the id that the token gives.
inductive Fault.OfGuard : Fault → Prop where
  | sent (response : Response) : OfGuard (.sent response)
  | forbidden
    : OfGuard (.failure (.app (ForbiddenError "Access denied. Insufficient permissions.")))
  | invalid : OfGuard (.failure .invalid)

theorem serve_guarded (P : Platform) (request : Request) (s : Server)
    : (∃ user, request.admitted? P s = some user
          ∧ (guarded P request).serve (Server.exec P) s = (.ok user, s))
        ∨ request.admitted? P s = none
          ∧ ∃ fault, (guarded P request).serve (Server.exec P) s = (.error fault, s)
            ∧ Fault.OfGuard fault := by
  have hauth := serve_authenticate P request s
  unfold Request.admitted? guarded
  cases request.route.guard with
  | «open» => exact .inl ⟨none, rfl, rfl⟩
  | authenticated =>
    dsimp only
    rw [Prog.serve_bind]
    rcases hauth with ⟨user, hsubject, hserve⟩ | ⟨hsubject, fault, hserve, hfault⟩
    . exact .inl ⟨_, by rw [hsubject]; rfl, by rw [hserve]; rfl⟩
    . refine .inr ⟨by rw [hsubject]; rfl, fault, by rw [hserve], ?_⟩
      rcases hfault with ⟨response, rfl⟩ | rfl
      . exact .sent response
      . exact .invalid
  | authorized allowedRoles =>
    dsimp only
    rw [Prog.serve_bind]
    rcases hauth with ⟨user, hsubject, hserve⟩ | ⟨hsubject, fault, hserve, hfault⟩
    . rw [hsubject, hserve]
      dsimp only
      unfold authorize
      by_cases hrole : user.role ∈ allowedRoles
      . left
        refine ⟨some (.ofUser user), by simp [hrole], ?_⟩
        rw [if_pos (by exact hrole)]
        rfl
      . right
        refine ⟨by simp [hrole], _, ?_, .forbidden⟩
        rw [if_neg (by exact hrole)]
        rfl
    . refine .inr ⟨by rw [hsubject]; rfl, fault, by rw [hserve], ?_⟩
      rcases hfault with ⟨response, rfl⟩ | rfl
      . exact .sent response
      . exact .invalid

theorem serve_middlewares_eq_ok_iff {P : Platform} {request : Request} {s s' : Server}
    {context : Context}
    : (middlewares P request).serve (Server.exec P) s = (.ok context, s') ↔
      s' = s ∧ request.admitted? P s = some context.user
        ∧ validated P request = .ok context.body := by
  unfold middlewares
  rw [Prog.serve_bind]
  rcases serve_guarded P request s with ⟨user, huser, hserve⟩ | ⟨hnone, fault, hserve, _⟩
  . rw [hserve, huser]
    cases hbody : validated P request with
    | error fault => simp [Prog.ofExcept]
    | ok body =>
      rcases context with ⟨user', body'⟩
      simp [Prog.ofExcept, pure, eq_comm, and_comm]
  . rw [hserve, hnone]
    simp

theorem serve_middlewares_eq_error {P : Platform} {request : Request} {s s' : Server} {fault : Fault}
    (h : (middlewares P request).serve (Server.exec P) s = (.error fault, s'))
    : request.admitted? P s = none ∧ Fault.OfGuard fault
        ∨ (request.admitted? P s).isSome ∧ validated P request = .error fault := by
  unfold middlewares at h
  rw [Prog.serve_bind] at h
  rcases serve_guarded P request s with ⟨user, huser, hserve⟩ | ⟨hnone, fault', hserve, hfault⟩
  . rw [hserve] at h
    right
    refine ⟨by rw [huser]; rfl, ?_⟩
    cases hbody : validated P request with
    | error fault' =>
      simp only [hbody, Prog.ofExcept, Prog.serve_bind, Prog.serve_throw] at h
      cases h
      rfl
    | ok body =>
      simp only [hbody] at h
      cases h
  . rw [hserve] at h
    cases h
    exact .inl ⟨hnone, hfault⟩

end Banking.Http
