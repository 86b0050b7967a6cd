import BankingApi.Errors
import BankingApi.Prisma.Schema

/-!
This module contains responses, `response.js`, and `error.middleware.js` as it works in production.
-/

namespace Banking

-- A row of the user table as an object, or what is left of it when keys are deleted.
abbrev UserObject := List (String × Json)

/--
What a response holds under one key. Rows of the other tables are sent as they are.
-/
inductive Data where
  | json (j : Json)
  | user (user : UserObject)
  | users (users : List UserObject)
  | wallet (w : Wallet)
  | transaction (t : Transaction)
  | transactions (ts : List Transaction)
  | ledgerEntries (es : List LedgerEntry)
  | payment (p : Payment)
  -- include: { transaction: true }
  | payments (ps : List (Payment × Transaction))
  | paymentWithTransaction (p : Payment) (t : Transaction)
  | session (user : UserObject) (accessToken refreshToken : String)

structure Response where
  status : ℕ
  body : List (String × Data)

namespace Data

def string (s : String) : Data := .json (.string s)

def boolean (b : Bool) : Data := .json (.boolean b)

end Data

def sendSuccess (message : String) (data : Data) (statusCode : ℕ) : Response where
  status := statusCode
  body := [("success", .boolean true), ("message", .string message), ("data", data)]

def sendError (message : String) (errors : List Json) (statusCode : ℕ) : Response where
  status := statusCode
  body := [("success", .boolean false), ("message", .string message), ("errors", .json (.array errors))]

-- res.status(..).json({ success: true, data })
def sendData (statusCode : ℕ) (data : Data) : Response where
  status := statusCode
  body := [("success", .boolean true), ("data", data)]

-- res.status(..).json({ success, message })
def sendMessage (statusCode : ℕ) (success : Bool) (message : String) : Response where
  status := statusCode
  body := [("success", .boolean success), ("message", .string message)]

structure ErrorObject where
  name : String
  code : Option PrismaCode
  appError : Option AppError

def errorMiddleware (err : ErrorObject) : Response :=
  -- Prisma Mappings
  let error :=
    match err.code with
    | some .P2002 => some (ConflictError "Resource already exists")
    | some .P2025 => some (NotFoundError "Record not found")
    | some .P2003 => some (BadRequestError "Foreign key constraint failed")
    | _ => err.appError
  -- JWT Mappings
  let error :=
    if err.name = "TokenExpiredError" then
      some (UnauthorizedError "Access token has expired")
    else if err.name = "JsonWebTokenError" then
      some (UnauthorizedError "Invalid access token")
    else
      error
  let (statusCode, errorCode, message) :=
    match error.filter AppError.isOperational with
    | some error => (error.statusCode, error.errorCode, error.message)
    | none => (500, "INTERNAL_SERVER_ERROR", "Internal Server Error")
  {
    status := statusCode
    body :=
      [
        ("success", .boolean false),
        ("message", .string message),
        ("error", .json (.object [("code", .string errorCode), ("details", .array [])]))
      ]
  }

def AuthError.name (error : AuthError) : String :=
  match error with
  | .EmailAlreadyExistsError => "EmailAlreadyExistsError"
  | .InvalidCredentialsError => "InvalidCredentialsError"
  | .UnauthorizedError _ => "UnauthorizedError"
  | .UserNotFoundError => "UserNotFoundError"

/--
How a request is turned down: with a response that a middleware sends itself, or with an error that gets
to `errorMiddleware`.
-/
inductive Fault where
  | sent (response : Response)
  | failure (f : Failure)
  | auth (error : AuthError)
  -- Schema validation throws, and `error` is what is left of it.
  | validation (error : ErrorObject)

def Failure.errorObject (f : Failure) : ErrorObject :=
  match f with
  | .app error => ⟨"Error", none, some error⟩
  | .prisma code => ⟨"PrismaClientKnownRequestError", some code, none⟩
  | .invalid => ⟨"PrismaClientValidationError", none, none⟩
  | .typeError => ⟨"TypeError", none, none⟩
  | .connection => ⟨"PrismaClientInitializationError", none, none⟩

def Fault.response (fault : Fault) : Response :=
  match fault with
  | .sent response => response
  | .failure f => errorMiddleware f.errorObject
  | .auth error => errorMiddleware ⟨error.name, none, none⟩
  | .validation error => errorMiddleware error

end Banking
