import BankingApi.Http.Middlewares
import BankingApi.Http.Payments

/-!
This module contains the routes with their handlers, and the server as it answers requests.
-/

namespace Banking.Http

namespace AccountRoutes

-- Every handler makes its account up.
def account (fields : List (String × Option Json)) : Json :=
  .object (fields.filterMap (fun field => field.2.map (fun j => (field.1, j))))

def mockAccount (id : String) (user : RequestUser) (createdAt : String) : Json :=
  account [
    ("id", some (.string id)),
    ("accountNumber", some (.string "ACC-9876543210")),
    ("type", some (.string "checking")),
    ("balance", some (.number (.ofRat 2500.5 (by decide +kernel)))),
    ("userId", some (.string user.id)),
    ("createdAt", some (.string createdAt))
  ]

def sendAccount (statusCode : ℕ) (account : Json) : Response where
  status := statusCode
  body := [("status", .string "success"), ("data", .json (.object [("account", account)]))]

def create (user : RequestUser) (body : Option Json) (draw : Draw) : Action Response := do
  let body ← destructure body
  return sendAccount 201 (account [
    ("id", some (.string draw.accountId)),
    ("accountNumber", some (.string draw.accountNumber)),
    ("type", body.get? "type"),
    ("balance", body.get? "initialDeposit"),
    ("userId", some (.string user.id)),
    ("createdAt", some (.string draw.createdAt))
  ])

def list (user : RequestUser) (draw : Draw) : Action Response :=
  .ret {
    status := 200
    body :=
      [
        ("status", .string "success"),
        ("results", .json (.number (.ofRat 1 Binary64.abs_round_one_lt))),
        (
          "data",
          .json (.object
            [("accounts", .array [mockAccount "acc_mock_5678" user draw.createdAt])])
        )
      ]
  }

def get (user : RequestUser) (accountId : String) (draw : Draw) : Action Response :=
  .ret (sendAccount 200 (mockAccount accountId user draw.createdAt))

end AccountRoutes

namespace AuditRepository

-- Its `prisma` is the object that `shared/config/env` exports: `prisma.auditLog` is `undefined`.
def findMany : Action Response :=
  fail .typeError

end AuditRepository

variable (P : Platform)

-- Routes behind `authenticate`.
def userHandler (request : Request) (user : RequestUser) (body : Option Json) : Action Response :=
  match request.route with
  | .logout => AuthController.logout user
  | .profile => AuthController.getProfile user
  | .getMe => UserController.getMe user
  | .updateMe => UserController.updateMe user body
  | .changePassword => UserController.changePassword P user body request.draw.salt
  | .deleteMe => UserController.deleteMe user
  | .changeStatus id => UserController.changeStatus user id body
  | .changeRole id => UserController.changeRole user id body
  | .createWallet =>
    WalletController.createWallet user body request.draw.walletId request.draw.walletNumber
  | .getWallet => WalletController.getWallet user
  | .closeWallet => WalletController.closeWallet user
  | .deposit => TransactionController.deposit user body request.draw.gen
  | .withdraw => TransactionController.withdraw user body request.draw.gen
  | .transfer => TransactionController.transfer user body request.draw.gen
  | .getHistory => TransactionController.getHistory user request.draw.scan
  | .createPayment =>
    PaymentRoutes.create user body (request.header? "idempotency-key") request.draw.now
      request.draw.gen
  | .getPayments => PaymentRoutes.list P user request.draw.scan
  | .getPayment reference => PaymentRoutes.get P user reference
  | .createAccount => AccountRoutes.create user body request.draw
  | .getAccounts => AccountRoutes.list user request.draw
  | .getAccount accountId => AccountRoutes.get user accountId request.draw
  | .getAllUsers => UserController.getAllUsers request.draw.scan
  | .freezeWallet => WalletController.freezeWallet body
  | .unfreezeWallet => WalletController.unfreezeWallet body
  | .getTransactionDetails reference => TransactionController.getTransactionDetails reference
  | .getWalletLedger walletId => LedgerController.getWalletLedger walletId request.draw.scan
  | .getTransactionLedgerEntries transactionRef =>
    LedgerController.getTransactionLedgerEntries transactionRef request.draw.scan
  | .verifyPayment => PaymentRoutes.verify P body
  | .retryPayment => PaymentRoutes.retry
  | .listAudits => AuditRepository.findMany
  | .findAuditsByUser _ => AuditRepository.findMany
  | .findAuditsByEntity _ => AuditRepository.findMany
  | _ => fail .typeError

def handler (request : Request) (context : Context) : Action Response :=
  match request.route with
  | .register => AuthController.register P context.body request.draw.newUser
  | .login => AuthController.login P context.body request.draw.now
  | .refresh => AuthController.refreshToken P context.body request.draw.now
  | .gateway => PaymentRoutes.gateway P context.body
  | _ =>
    match context.user with
    | some user => userHandler P request user context.body
    | none => fail .typeError

/--
What comes behind the rate limiter of `/api`, for a request that it lets through. The limiter and its
counters are not part of the server.
-/
def app (request : Request) : Action Response := do
  let context ← middlewares P request
  handler P request context

def respond (outcome : Except Fault Response) : Response :=
  match outcome with
  | .ok response => response
  | .error fault => fault.response

def Server.serve (s : Server) (request : Request) : Response × Server :=
  let (outcome, s') := (app P request).serve (Server.exec P) s
  (respond outcome, s')

def Server.step (s : Server) (request : Request) : Server :=
  (s.serve P request).2

section Serve

variable {P} {request : Request} {s : Server}

theorem serve_app_of_admitted {user : Option RequestUser} {body : Option Json}
    (huser : request.admitted? P s = some user) (hbody : validated P request = .ok body)
    : (app P request).serve (Server.exec P) s =
      (handler P request { user := user, body := body }).serve (Server.exec P) s := by
  unfold app
  have hserve : (middlewares P request).serve (Server.exec P) s =
      (.ok { user := user, body := body }, s) :=
    serve_middlewares_eq_ok_iff.mpr ⟨rfl, huser, hbody⟩
  rw [Prog.serve_bind, hserve]

theorem serve_app_of_not_admitted {fault : Fault} {s' : Server}
    (h : (middlewares P request).serve (Server.exec P) s = (.error fault, s'))
    : (app P request).serve (Server.exec P) s = (.error fault, s') := by
  unfold app
  rw [Prog.serve_bind, h]

end Serve

-- A token is the id of its subject and never expires.
def samplePlatform : Platform where
  sign payload _ _ _ := payload.id
  verify token _ _ := .ok { id := some (.string token), email := none, role := none }
  hash password salt := "hash-" ++ salt ++ password
  compare password hashed := hashed = "hash-" ++ password
  isEmail _ := true
  isCuid _ := true
  updateUser _ _ _ := .error .invalid
  JWT_SECRET := "access"
  JWT_REFRESH_SECRET := "refresh"
  paymentClient := .env

def sampleServer (users : List UserId) (h : users.Nodup) : Server where
  store := .initial
    { rows := users.map sampleUser, hrows := by simpa [Function.comp_def, sampleUser] using h }
  cache := fun _ => none
  locks := fun _ => none
  queue := []
  webhooks := []

def sampleDraw : Draw where
  now := 0
  newUser := { id := "new", customerId := "customer", salt := "salt" }
  salt := "salt"
  walletId := "wallet"
  walletNumber := "1"
  gen := sampleGenerated "1"
  accountId := "account"
  accountNumber := "ACC-1"
  createdAt := "now"
  scan := fun _ => 0

def sampleRequest (route : Route) (token : String) (body : Option Json) : Request where
  route := route
  headers := [("authorization", "Bearer " ++ token)]
  body := body
  draw := sampleDraw

end Banking.Http
