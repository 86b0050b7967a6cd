import BankingApi.Http.Controllers

/-!
This module contains the handlers of `payment.routes.js` and `webhook.routes.js` and the service under
them. Nothing validates what they are given.
-/

namespace Banking

def PaymentMethod.ofString? (s : String) : Option PaymentMethod :=
  match s with
  | "UPI" => some .UPI
  | "BANK_TRANSFER" => some .BANK_TRANSFER
  | "CARD" => some .CARD
  | "WALLET" => some .WALLET
  | _ => none

-- What a `Decimal` column takes.
def Amount.ofJson? (j : Json) : Option Amount :=
  match j with
  | .number n => some (.number n)
  | .string s =>
    match Json.decimal? s.toList with
    | some q => some (.decimal q)
    | none => (Json.separated? s.toList).map .separated
  | _ => none

namespace Http

namespace PaymentRepository

variable (P : Platform)

def throughClient (c : Command) : Action c.Value :=
  match P.paymentClient with
  | .env => fail .typeError
  | .tables => query c

def findByReference (paymentRef : String) : Action (Option (Payment × Transaction)) :=
  throughClient P (.findPaymentByReference paymentRef)

def findPaymentsByUser (userId : UserId) (scan : Scan) : Action (List (Payment × Transaction)) :=
  throughClient P (.findPaymentsByUser userId scan)

def updateStatus (id : String) (status : PaymentStatus) : Action Payment :=
  throughClient P (.updatePaymentStatus id status)

def updateGatewayResponse (id : String) (gatewayResponse : Json) : Action Payment :=
  throughClient P (.updateGatewayResponse id gatewayResponse)

end PaymentRepository

namespace PaymentService

-- The request of the database block, if Prisma takes every field of the body.
def request? (body : Option Json) (createdBy : UserId) (idempotencyKey : IdempotencyKey)
    (gen : Generated)
    : Option PaymentRequest := do
  let amount ← (Json.get body "amount").bind Amount.ofJson?
  let method ← ((Json.get body "method").bind Json.string?).bind PaymentMethod.ofString?
  let receiverWalletId ← ((Json.get body "receiverWalletId").bind Json.string?).filter isText
  let description ←
    match Json.get body "description" with
    | none => some none
    | some .null => some none
    | some (.string s) => if isText s then some (some s) else none
    | some _ => none
  return {
    createdBy := createdBy
    idempotencyKey := some idempotencyKey
    amount := some amount
    method := some method
    receiverWalletId := some receiverWalletId
    description := description
    gen := gen
  }

def receiverWallets (receiverWalletId : Option Json) : Action (List Wallet) :=
  match receiverWalletId with
  | some (.string id) => if isText id then query (.selectWalletsForUpdate [id]) else fail .invalid
  -- Bound as a text that is the id of no wallet, or as NULL.
  | _ => query (.selectWalletsForUpdate [])

-- The block goes on to its first statement that Prisma refuses.
def refusedBlock (body : Option Json) : Action Payment := do
  let wallets ← receiverWallets (Json.get body "receiverWalletId")
  match wallets[0]? with
  | none => fail (.app (NotFoundError "Receiver Wallet not found"))
  | some wallet =>
    if wallet.status ≠ .ACTIVE then
      fail (.app (BadRequestError
        ("Wallet is " ++ wallet.status.toString ++ ". Active status required.")))
    else if ((Json.get body "amount").map Json.toNumber).any Json.Coerced.notPositive then
      fail (.app (BadRequestError "Amount must be greater than zero"))
    else
      fail .invalid

def transact (body : Option Json) (createdBy : UserId) (key : IdempotencyKey) (gen : Generated)
    : Action Payment :=
  match request? body createdBy key gen with
  | some request => query (.processPayment key request)
  | none => refusedBlock body

def processPayment (body : Option Json) (createdBy : UserId) (idempotencyKey : Option String)
    (now : ℕ) (gen : Generated)
    : Action Payment :=
  match idempotencyKey.filter (· ≠ "") with
  | none => fail (.app (BadRequestError "Idempotency-Key is required"))
  | some key => do
    let cachedResponse ← query (.getResponse key now)
    match cachedResponse with
    | some payment => .ret payment
    | none =>
      let isLocked ← query (.setLock key now)
      if isLocked then
        Prog.ensure
          (do
            let payment ← transact body createdBy key gen
            let _ ← query (.setResponse key payment now)
            let _ ← query (.publishPaymentEvent {
              paymentId := payment.id
              paymentRef := payment.paymentRef
              amount := payment.amount
              method := payment.method
            })
            return payment)
          (query (.deleteLock key))
      else
        fail (.app (ConflictError "Request with this idempotency key is already processing"))

def paymentOf (P : Platform) (paymentRef : Option String)
    : Action (Option (Payment × Transaction)) :=
  match P.paymentClient with
  | .env => fail .typeError
  | .tables => do
    let paymentRef ← required paymentRef
    PaymentRepository.findByReference P paymentRef

def verifyPayment (P : Platform) (paymentRef : Option String) (gatewayResponse : Option Json)
    : Action Payment := do
  let payment ← paymentOf P paymentRef
  match payment with
  | none => fail (.app (NotFoundError "Payment not found"))
  | some (payment, _) =>
    match PaymentService.verdict gatewayResponse with
    | .error e => fail e
    | .ok (gatewayResponse, status) => do
      let updatedPayment ← PaymentRepository.updateStatus P payment.id status
      let _ ← PaymentRepository.updateGatewayResponse P payment.id gatewayResponse
      if status = .SUCCESS then
        let _ ← query (.publishWebhookEvent { paymentRef := payment.paymentRef, status := status })
        return updatedPayment
      else
        return updatedPayment

end PaymentService

namespace PaymentRoutes

variable (P : Platform)

def create (user : RequestUser) (body : Option Json) (idempotencyKey : Option String) (now : ℕ)
    (gen : Generated)
    : Action Response := do
  let payment ← PaymentService.processPayment body user.id idempotencyKey now gen
  return sendData 201 (.payment payment)

def verify (body : Option Json) : Action Response := do
  let body ← destructure body
  let payment ← PaymentService.verifyPayment P (stringOf body "paymentRef")
    (body.get? "gatewayResponse")
  return sendData 200 (.payment payment)

def retry : Action Response :=
  .ret (sendMessage 200 true "Retry initiated")

def list (user : RequestUser) (scan : Scan) : Action Response := do
  let payments ← PaymentRepository.findPaymentsByUser P user.id scan
  return sendData 200 (.payments payments)

def get (user : RequestUser) (reference : String) : Action Response := do
  let payment ← PaymentRepository.findByReference P reference
  match payment with
  | none => .ret (sendMessage 404 false "Payment not found")
  | some (payment, transaction) =>
    if transaction.createdBy ≠ user.id ∧ user.role ≠ .ADMIN then
      .ret (sendMessage 403 false "Forbidden")
    else
      .ret (sendData 200 (.paymentWithTransaction payment transaction))

-- POST /webhooks/gateway
def gateway (body : Option Json) : Action Response := do
  let body ← destructure body
  let gatewayResponse := Json.object
    (("success", .boolean (body.get? "status" = some (.string "SUCCESS")))
      :: ((body.get? "gatewayTransactionId").map (fun id => ("gatewayTransactionId", id))).toList)
  let _ ← PaymentService.verifyPayment P (stringOf body "paymentRef") (some gatewayResponse)
  return sendMessage 200 true "Webhook received and processed"

end PaymentRoutes

end Http

end Banking
