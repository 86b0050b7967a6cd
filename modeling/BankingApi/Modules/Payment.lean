import BankingApi.Modules.Transaction

/-!
This module contains `payment.repository.js`, and of `payment.service.js` the database block of
`processPayment` and the verdict of `verifyPayment`.
-/

namespace Banking

namespace PaymentRepository

def createPayment (data : PaymentData) (prismaClient : Client) : Tx Payment :=
  .call ⟨prismaClient, .createPayment data⟩ .ret

def findByReference (s : Store) (paymentRef : String) : Option Payment :=
  s.payments.rows.find? (·.paymentRef = paymentRef)

def update (s : Store) (id : String) (f : Payment → Payment) (hf : ∀ p, (f p).id = p.id)
    : Except Failure (Payment × Store) :=
  match s.payments.find? id with
  | none => .error (.prisma .P2025)
  | some row => .ok (f row, { s with payments := s.payments.update id f hf })

def updateStatus (s : Store) (id : String) (status : PaymentStatus)
    : Except Failure (Payment × Store) :=
  update s id ({ · with status := status }) (fun _ => rfl)

def updateGatewayResponse (s : Store) (id : String) (gatewayResponse : Json)
    : Except Failure (Payment × Store) :=
  update s id ({ · with gatewayResponse := some gatewayResponse }) (fun _ => rfl)

end PaymentRepository

namespace PaymentService

open LedgerService TransactionRepository PaymentRepository

def receiverWallet (wallet : Option Wallet) : Tx Wallet :=
  match wallet with
  | none => .throw (.app (NotFoundError "Receiver Wallet not found"))
  | some wallet => .ret wallet

def processPaymentBlock (idempotencyKey : IdempotencyKey) (amount : Amount) (method : PaymentMethod)
    (receiverWalletId : WalletId) (createdBy : UserId) (description : Option String)
    (gen : Generated)
    : Tx Payment := do
  let wallets ← selectWalletsForUpdate [receiverWalletId] .transaction
  let wallet ← receiverWallet wallets[0]?
  Prog.require (wallet.status = .ACTIVE)
    (.app (BadRequestError ("Wallet is " ++ wallet.status.toString ++ ". Active status required.")))
  Prog.require (¬amount.notPositive) (.app (BadRequestError "Amount must be greater than zero"))
  let transaction ← createTransaction
    {
      id := gen.transactionId
      transactionRef := gen.transactionRef
      type := .DEPOSIT
      status := .SUCCESS
      amount := amount
      description := description
      senderWalletId := none
      receiverWalletId := some receiverWalletId
      createdBy := createdBy
      createdAt := gen.transactionCreatedAt
    }
    .transaction
  let _ ← postTransaction
    {
      transactionId := transaction.id
      walletId := receiverWalletId
      entryType := .CREDIT
      amount := amount
      currentBalance := wallet.balance.toRat
      entryId := gen.creditEntryId
      createdAt := gen.creditCreatedAt
    }
    .transaction
  createPayment
    {
      id := gen.paymentId
      paymentRef := gen.paymentRef
      transactionId := transaction.id
      amount := amount
      method := method
      status := .INITIATED
      idempotencyKey := idempotencyKey
      createdAt := gen.paymentCreatedAt
    }
    .transaction

-- gatewayResponse.success ? "SUCCESS" : "FAILED"
def verdict (gatewayResponse : Option Json) : Except Failure (Json × PaymentStatus) :=
  match gatewayResponse with
  | none => .error .typeError
  | some .null => .error .typeError
  | some response =>
    .ok (response, if (response.get? "success").any Json.truthy then .SUCCESS else .FAILED)

end PaymentService

end Banking
