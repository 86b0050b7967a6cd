/-!
This module contains the errors that the services throw: the `AppError` classes of `src/errors`,
the error codes of the database client, and the error classes of `auth.service.js`.
-/

namespace Banking

structure AppError where
  message : String
  statusCode : Nat
  errorCode : String
  isOperational : Bool
  deriving DecidableEq, Repr

def BadRequestError (message : String) : AppError where
  message := message
  statusCode := 400
  errorCode := "BAD_REQUEST"
  isOperational := true

def NotFoundError (message : String) : AppError where
  message := message
  statusCode := 404
  errorCode := "NOT_FOUND"
  isOperational := true

def ConflictError (message : String) : AppError where
  message := message
  statusCode := 409
  errorCode := "CONFLICT"
  isOperational := true

def ForbiddenError (message : String) : AppError where
  message := message
  statusCode := 403
  errorCode := "FORBIDDEN"
  isOperational := true

def UnauthorizedError (message : String) : AppError where
  message := message
  statusCode := 401
  errorCode := "UNAUTHORIZED"
  isOperational := true

inductive PrismaCode where
  -- unique constraint failed
  | P2002
  -- foreign key constraint failed
  | P2003
  -- value out of range for the type of the column
  | P2020
  -- record to update not found
  | P2025
  deriving DecidableEq, Repr

inductive Failure where
  | app (error : AppError)
  | prisma (code : PrismaCode)
  -- an argument is missing or has the wrong type
  | invalid
  -- a `TypeError`, as when a property of `undefined` is read
  | typeError
  -- a server cannot be reached, or its answer is lost
  | connection
  deriving DecidableEq, Repr

inductive AuthError where
  | EmailAlreadyExistsError
  | InvalidCredentialsError
  | UnauthorizedError (message : String)
  | UserNotFoundError
  deriving DecidableEq, Repr

end Banking
