import BankingApi.Prisma.Client

/-!
This module contains `wallet.repository.js` and `wallet.service.js`.
-/

namespace Banking

def WalletStatus.toString (status : WalletStatus) : String :=
  match status with
  | .ACTIVE => "ACTIVE"
  | .FROZEN => "FROZEN"
  | .CLOSED => "CLOSED"

namespace WalletRepository

def createWallet (s : Store) (data : Wallet) : Except Failure (Wallet × Store) :=
  if (s.wallets.find? data.id).isSome ∨ s.wallets.has Wallet.walletNumber data.walletNumber
      ∨ s.wallets.has Wallet.userId data.userId then
    .error (.prisma .P2002)
  else if ¬(s.users.find? data.userId).isSome then
    .error (.prisma .P2003)
  else
    .ok (data, { s with wallets := s.wallets.insert data })

def findWalletById (s : Store) (id : WalletId) : Option Wallet :=
  s.wallets.find? id

def findWalletByUserId (s : Store) (userId : UserId) : Option Wallet :=
  s.wallets.rows.find? (·.userId = userId)

def updateWalletStatus (id : WalletId) (status : WalletStatus) (tx : Client) : Tx Wallet :=
  .call ⟨tx, .updateWalletStatus id status⟩ .ret

def updateWalletBalance (id : WalletId) (balance : ℚ) (tx : Client) : Tx Wallet :=
  .call ⟨tx, .updateWalletBalance id balance⟩ .ret

def closeWallet (id : WalletId) (tx : Client) : Tx Wallet :=
  .call ⟨tx, .updateWalletStatus id .CLOSED⟩ .ret

end WalletRepository

namespace WalletService

def createWallet (userId : UserId) (currency : Option String) (id : WalletId)
    (walletNumber : String) (s : Store)
    : Except Failure (Wallet × Store) :=
  match s.users.find? userId with
  | none => .error (.app (NotFoundError "User not found"))
  | some _ =>
    let existingWallet := WalletRepository.findWalletByUserId s userId
    if existingWallet.any (·.status ≠ .CLOSED) then
      .error (.app (ConflictError "User already has an active wallet"))
    else
      WalletRepository.createWallet s {
        id := id
        walletNumber := walletNumber
        balance := 0
        currency := currency.getD "INR"
        status := .ACTIVE
        userId := userId
      }

/-!
A status call reads the wallet and writes later, in a statement of its own. What it reads is the
`snapshot`, what it goes on to do is the program.
-/

def freezeWallet (walletId : WalletId) (snapshot : Store) : Tx Wallet :=
  match WalletRepository.findWalletById snapshot walletId with
  | none => .throw (.app (NotFoundError "Wallet not found"))
  | some wallet =>
    if wallet.status = .CLOSED then
      .throw (.app (BadRequestError "Cannot freeze a closed wallet"))
    else
      WalletRepository.updateWalletStatus walletId .FROZEN .global

def unfreezeWallet (walletId : WalletId) (snapshot : Store) : Tx Wallet :=
  match WalletRepository.findWalletById snapshot walletId with
  | none => .throw (.app (NotFoundError "Wallet not found"))
  | some wallet =>
    if wallet.status = .CLOSED then
      .throw (.app (BadRequestError
        "Cannot unfreeze a closed wallet. Closed wallets cannot be reopened."))
    else
      WalletRepository.updateWalletStatus walletId .ACTIVE .global

def closeWallet (walletId : WalletId) (snapshot : Store) : Tx Wallet :=
  match WalletRepository.findWalletById snapshot walletId with
  | none => .throw (.app (NotFoundError "Wallet not found"))
  | some wallet =>
    if wallet.status = .CLOSED then
      .throw (.app (BadRequestError "Wallet is already closed"))
    else
      WalletRepository.closeWallet walletId .global

end WalletService

end Banking
