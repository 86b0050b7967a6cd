import BankingApi.Http.Server
import BankingApi.Http.Zod

/-!
This module contains the schemas of the `*.validator.js` files and of `account.routes.js`. Their messages
are left out: no response shows them.
-/

namespace Banking.Http

open Zod

variable (P : Platform)

def registerSchema : Schema :=
  .object
    [
      ("fullName", .string [.trim, .min 2]),
      ("email", .string [.trim, .format P.isEmail]),
      ("password", .string [.min 8])
    ]
    false

def loginSchema : Schema :=
  .object [("email", .string [.trim, .format P.isEmail]), ("password", .string [])] false

def refreshTokenSchema : Schema :=
  .object [("refreshToken", .string [.trim, .min 1])] false

-- z.object({ body: z.object({ .. }) })
def bodyOf (fields : List (String × Schema)) : Schema :=
  .object [("body", .object fields false)] false

def updateProfileFields : List (String × Schema) :=
  [
    ("fullName", .optional (.string [.min 2, .max 100])),
    ("phone", .optional (.string [.min 10, .max 15]))
  ]

def updateProfileSchema : Schema := bodyOf updateProfileFields

def changePasswordFields : List (String × Schema) :=
  [("newPassword", .string [.min 6])]

def changePasswordSchema : Schema := bodyOf changePasswordFields

def changeStatusFields : List (String × Schema) :=
  [("status", .enum ["ACTIVE", "INACTIVE", "BLOCKED", "LOCKED"])]

def changeStatusSchema : Schema := bodyOf changeStatusFields

def changeRoleFields : List (String × Schema) :=
  [("role", .enum ["ADMIN", "CUSTOMER", "BANK", "SUPPORT", "AUDITOR"])]

def changeRoleSchema : Schema := bodyOf changeRoleFields

def createWalletFields : List (String × Schema) :=
  [("currency", .default (.optional (.string [.length 3])) (.string "INR"))]

def createWalletSchema : Schema := bodyOf createWalletFields

def depositFields : List (String × Schema) :=
  [("amount", .number [.positive]), ("description", .optional (.string []))]

def depositSchema : Schema := bodyOf depositFields

def withdrawFields : List (String × Schema) :=
  [("amount", .number [.positive]), ("description", .optional (.string []))]

def withdrawSchema : Schema := bodyOf withdrawFields

def transferFields : List (String × Schema) :=
  [
    ("receiverWalletId", .string [.min 1]),
    ("amount", .number [.positive]),
    ("description", .optional (.string []))
  ]

def transferSchema : Schema := bodyOf transferFields

def createPaymentFields : List (String × Schema) :=
  [
    ("amount", .number [.positive]),
    ("method", .enum ["UPI", "BANK_TRANSFER", "CARD", "WALLET"]),
    ("receiverWalletId", .string [.format P.isCuid]),
    ("description", .optional (.string []))
  ]

def createPaymentSchema : Schema :=
  .object
    [
      ("body", .object (createPaymentFields P) false),
      ("headers", .object [("idempotency-key", .string [.min 1])] true)
    ]
    false

def verifyPaymentFields : List (String × Schema) :=
  [
    ("paymentRef", .string [.min 1]),
    (
      "gatewayResponse",
      .object [("success", .boolean), ("gatewayTransactionId", .optional (.string []))] true
    )
  ]

def verifyPaymentSchema : Schema := bodyOf verifyPaymentFields

def webhookFields : List (String × Schema) :=
  [
    ("paymentRef", .string [.min 1]),
    ("status", .enum ["SUCCESS", "FAILED"]),
    ("gatewayTransactionId", .optional (.string []))
  ]

def webhookSchema : Schema := bodyOf webhookFields

-- createAccountSchema.body
def createAccountBody : Schema :=
  .object [("type", .enum ["checking", "savings"]), ("initialDeposit", .number [.nonnegative])] false

-- getAccountSchema.params
def getAccountParams : Schema :=
  .object [("accountId", .string [.min 1])] false

end Banking.Http
