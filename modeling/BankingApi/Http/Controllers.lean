import BankingApi.Modules.Auth

/-!
This module contains the handlers of the routes, with what is left of the services and repositories under
them. A handler is given what it finds in `req`.
-/

namespace Banking.Http

-- const { .. } = req.body
def destructure (body : Option Json) : Action Json :=
  match body with
  | none => fail .typeError
  | some .null => fail .typeError
  | some body => .ret body

def stringOf (body : Json) (key : String) : Option String :=
  (body.get? key).bind Json.string?

namespace AuthController

variable (P : Platform)

def register (body : Option Json) (new : AuthService.NewUser) : Action Response := do
  let body ← destructure body
  let user ← AuthService.register P
    {
      fullName := stringOf body "fullName"
      email := stringOf body "email"
      password := stringOf body "password"
      role := none
    }
    new
  return sendSuccess "User registered successfully" (.user user) 201

def login (body : Option Json) (now : ℕ) : Action Response := do
  let body ← destructure body
  let session ← AuthService.login P (stringOf body "email") (stringOf body "password") now
  return sendSuccess "Login successful"
    (.session session.user session.accessToken session.refreshToken) 200

def logout (user : RequestUser) : Action Response := do
  let message ← AuthService.logout user.id
  return sendSuccess message (.json (.object [])) 200

def refreshToken (body : Option Json) (now : ℕ) : Action Response := do
  let body ← destructure body
  let accessToken ← AuthService.refreshAccessToken P (stringOf body "refreshToken") now
  return sendSuccess "Token refreshed successfully"
    (.json (.object [("accessToken", .string accessToken)])) 200

def getProfile (user : RequestUser) : Action Response := do
  let profile ← AuthService.getProfile user.id
  return sendSuccess "Profile retrieved successfully" (.user profile) 200

end AuthController

namespace UserController

def getMe (user : RequestUser) : Action Response := do
  let user ← UserService.getProfile user.id
  return sendData 200 (.user user)

def updateMe (user : RequestUser) (body : Option Json) : Action Response := do
  let updatedUser ← UserService.updateProfile user.id body
  return sendData 200 (.user updatedUser)

def changePassword (P : Platform) (user : RequestUser) (body : Option Json) (salt : String)
    : Action Response := do
  let body ← destructure body
  let message ← UserService.changePassword P user.id (stringOf body "newPassword") salt
  return sendMessage 200 true message

def deleteMe (user : RequestUser) : Action Response := do
  let message ← UserService.softDelete user.id
  return sendMessage 200 true message

def getAllUsers (scan : Scan) : Action Response := do
  let users ← UserService.getAllUsers scan
  return sendData 200 (.users users)

def changeStatus (user : RequestUser) (id : String) (body : Option Json) : Action Response := do
  let body ← destructure body
  let updatedUser ← UserService.changeStatus user id (body.get? "status")
  return sendData 200 (.user updatedUser)

def changeRole (user : RequestUser) (id : String) (body : Option Json) : Action Response := do
  let body ← destructure body
  let updatedUser ← UserService.changeRole user id (body.get? "role")
  return sendData 200 (.user updatedUser)

end UserController

namespace WalletService

def createWallet (userId : UserId) (currency : Option String) (id : WalletId)
    (walletNumber : String)
    : Action Wallet := do
  UserService.existingUser userId
  let existingWallet ← query (.findWalletByUserId userId)
  if existingWallet.any (·.status ≠ .CLOSED) then
    fail (.app (ConflictError "User already has an active wallet"))
  else
    query (.createWallet {
      id := id
      walletNumber := walletNumber
      balance := 0
      currency := currency.getD "INR"
      status := .ACTIVE
      userId := userId
    })

def getWalletDetails (userId : UserId) : Action Wallet := do
  let wallet ← query (.findWalletByUserId userId)
  match wallet with
  | none => fail (.app (NotFoundError "Wallet not found"))
  | some wallet => .ret wallet

def changeStatus (walletId : WalletId) (status : WalletStatus) (closed : String) : Action Wallet := do
  let wallet ← query (.findWalletById walletId)
  match wallet with
  | none => fail (.app (NotFoundError "Wallet not found"))
  | some wallet =>
    if wallet.status = .CLOSED then
      fail (.app (BadRequestError closed))
    else
      query (.updateWalletStatus walletId status)

def freezeWallet (walletId : WalletId) : Action Wallet :=
  changeStatus walletId .FROZEN "Cannot freeze a closed wallet"

def unfreezeWallet (walletId : WalletId) : Action Wallet :=
  changeStatus walletId .ACTIVE "Cannot unfreeze a closed wallet. Closed wallets cannot be reopened."

def closeWallet (walletId : WalletId) : Action Wallet :=
  changeStatus walletId .CLOSED "Wallet is already closed"

end WalletService

namespace WalletController

def createWallet (user : RequestUser) (body : Option Json) (id : WalletId) (walletNumber : String)
    : Action Response := do
  let body ← destructure body
  let wallet ← WalletService.createWallet user.id (stringOf body "currency") id walletNumber
  return sendData 201 (.wallet wallet)

def getWallet (user : RequestUser) : Action Response := do
  let wallet ← WalletService.getWalletDetails user.id
  return sendData 200 (.wallet wallet)

def freezeWallet (body : Option Json) : Action Response := do
  let body ← destructure body
  let walletId ← required (stringOf body "walletId")
  let wallet ← WalletService.freezeWallet walletId
  return sendData 200 (.wallet wallet)

def unfreezeWallet (body : Option Json) : Action Response := do
  let body ← destructure body
  let walletId ← required (stringOf body "walletId")
  let wallet ← WalletService.unfreezeWallet walletId
  return sendData 200 (.wallet wallet)

def closeWallet (user : RequestUser) : Action Response := do
  let userWallet ← WalletService.getWalletDetails user.id
  let wallet ← WalletService.closeWallet userWallet.id
  return sendData 200 (.wallet wallet)

end WalletController

/-!
The validators let no amount but a positive number through, so that an amount is a number or `undefined`
here. Without a number the checks of a block pass, and Prisma refuses what comes after them.
-/

namespace TransactionService

-- _validateConstraints, when `amount` is `undefined`
def validateConstraints (wallet : Option Wallet) : Action Unit :=
  match wallet with
  | none => fail (.app (NotFoundError "Wallet not found"))
  | some wallet =>
    if wallet.status ≠ .ACTIVE then
      fail (.app (BadRequestError
        ("Wallet is " ++ wallet.status.toString ++ ". Active status required.")))
    else
      .ret ()

-- `deposit` and `withdraw`, when `amount` is `undefined`
def withoutAmount (walletId : WalletId) : Action Transaction := do
  let wallets ← query (.selectWalletsForUpdate [walletId])
  validateConstraints wallets[0]?
  fail .invalid

def deposit (receiverWalletId : WalletId) (amount : Option Binary64) (createdBy : UserId)
    (description : Option String) (gen : Generated)
    : Action Transaction :=
  match amount with
  | some amount => query (.deposit receiverWalletId amount createdBy description gen)
  | none => withoutAmount receiverWalletId

def withdraw (senderWalletId : WalletId) (amount : Option Binary64) (createdBy : UserId)
    (description : Option String) (gen : Generated)
    : Action Transaction :=
  match amount with
  | some amount => query (.withdraw senderWalletId amount createdBy description gen)
  | none => withoutAmount senderWalletId

def transfer (senderWalletId : WalletId) (receiverWalletId : Option WalletId)
    (amount : Option Binary64) (createdBy : UserId) (description : Option String) (gen : Generated)
    : Action Transaction :=
  match receiverWalletId, amount with
  | some receiverWalletId, some amount =>
    query (.transfer senderWalletId receiverWalletId amount createdBy description gen)
  | _, _ =>
    if some senderWalletId = receiverWalletId then
      fail (.app (BadRequestError "Cannot transfer funds to the same wallet"))
    else do
      -- An `undefined` id finds no wallet.
      let lockQuery ← query (.selectWalletsForUpdate (senderWalletId :: receiverWalletId.toList))
      if lockQuery.length ≠ 2 then
        fail (.app (NotFoundError "One or both wallets not found"))
      else
        validateConstraints (lockQuery.find? (·.id = senderWalletId))
        validateConstraints (lockQuery.find? (some ·.id = receiverWalletId))
        fail .invalid

def getTransactionHistory (walletId : WalletId) (scan : Scan) : Action (List Transaction) :=
  query (.findUserTransactions walletId scan)

def getTransactionDetails (transactionRef : String) : Action Transaction := do
  let tx ← query (.findTransactionByReference transactionRef)
  match tx with
  | none => fail (.app (NotFoundError "Transaction not found"))
  | some tx => .ret tx

end TransactionService

namespace TransactionController

def getUserWalletId (userId : UserId) : Action WalletId := do
  let wallet ← query (.findWalletByUserId userId)
  match wallet with
  | none => fail (.app (NotFoundError "Wallet not found for the current user"))
  | some wallet => .ret wallet.id

def amountOf (body : Json) : Option Binary64 :=
  (body.get? "amount").bind Json.number?

def deposit (user : RequestUser) (body : Option Json) (gen : Generated) : Action Response := do
  let walletId ← getUserWalletId user.id
  let body ← destructure body
  let transaction ← TransactionService.deposit walletId (amountOf body) user.id
    (stringOf body "description") gen
  return sendData 200 (.transaction transaction)

def withdraw (user : RequestUser) (body : Option Json) (gen : Generated) : Action Response := do
  let walletId ← getUserWalletId user.id
  let body ← destructure body
  let transaction ← TransactionService.withdraw walletId (amountOf body) user.id
    (stringOf body "description") gen
  return sendData 200 (.transaction transaction)

def transfer (user : RequestUser) (body : Option Json) (gen : Generated) : Action Response := do
  let senderWalletId ← getUserWalletId user.id
  let body ← destructure body
  let transaction ← TransactionService.transfer senderWalletId (stringOf body "receiverWalletId")
    (amountOf body) user.id (stringOf body "description") gen
  return sendData 200 (.transaction transaction)

def getHistory (user : RequestUser) (scan : Scan) : Action Response := do
  let walletId ← getUserWalletId user.id
  let transactions ← TransactionService.getTransactionHistory walletId scan
  return sendData 200 (.transactions transactions)

def getTransactionDetails (reference : String) : Action Response := do
  let transaction ← TransactionService.getTransactionDetails reference
  return sendData 200 (.transaction transaction)

end TransactionController

namespace LedgerController

def getWalletLedger (walletId : Option Json) (scan : Scan) : Action Response :=
  if walletId.any Json.truthy then do
    let walletId ← required (walletId.bind Json.string?)
    let logs ← query (.findLedgerByWallet walletId scan)
    return sendData 200 (.ledgerEntries logs)
  else do
    let logs ← query (.findLedger scan)
    return sendData 200 (.ledgerEntries logs)

def getTransactionLedgerEntries (transactionRef : String) (scan : Scan) : Action Response := do
  let tx ← query (.findTransactionByReference transactionRef)
  match tx with
  | none => .ret (sendMessage 404 false "Transaction not found")
  | some tx => do
    let entries ← query (.findLedgerByTransaction tx.id scan)
    return sendData 200 (.ledgerEntries entries)

end LedgerController

end Banking.Http
