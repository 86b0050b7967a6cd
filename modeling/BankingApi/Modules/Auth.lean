import BankingApi.Modules.User

/-!
This module contains `auth.service.js` and `jwt.js`.
-/

namespace Banking.Http

-- expiresIn: "15m"
def generateAccessToken (P : Platform) (payload : TokenPayload) (now : ℕ) : String :=
  P.sign payload P.JWT_SECRET now (now + 15 * 60)

-- expiresIn: "7d"
def generateRefreshToken (P : Platform) (payload : TokenPayload) (now : ℕ) : String :=
  P.sign payload P.JWT_REFRESH_SECRET now (now + 7 * 24 * 60 * 60)

def verifyAccessToken (P : Platform) (token : String) (now : ℕ) : Except JwtError Claims :=
  P.verify token P.JWT_SECRET now

def verifyRefreshToken (P : Platform) (token : String) (now : ℕ) : Except JwtError Claims :=
  P.verify token P.JWT_REFRESH_SECRET now

-- comparePassword of `bcrypt.js`
def comparePassword (P : Platform) (password : Option String) (hashed : String) : Action Bool := do
  let password ← required password
  return P.compare password hashed

def tokenPayload (user : User) : TokenPayload where
  id := user.id
  email := user.email
  role := user.role

namespace AuthService

structure UserData where
  email : Option String
  password : Option String
  fullName : Option String
  role : Option UserRole

-- What Prisma generates for a new user, and the salt of its password.
structure NewUser where
  id : UserId
  customerId : String
  salt : String

structure AuthSession where
  user : UserObject
  accessToken : String
  refreshToken : String

def register (P : Platform) (userData : UserData) (new : NewUser) : Action UserObject := do
  let email ← required userData.email
  let existingUser ← UserRepository.findUserByEmail email
  match existingUser with
  | some _ => .throw (.auth .EmailAlreadyExistsError)
  | none =>
    let hashedPassword ← hashPassword P userData.password new.salt
    let fullName ← required userData.fullName
    let newUser ← UserRepository.createUser {
      id := new.id
      customerId := new.customerId
      fullName := fullName
      email := email
      phone := none
      password := hashedPassword
      role := userData.role.getD .CUSTOMER
      status := .ACTIVE
      isVerified := false
      refreshToken := none
    }
    return sanitizeUser newUser

def login (P : Platform) (email password : Option String) (now : ℕ) : Action AuthSession := do
  let email ← required email
  let user ← UserRepository.findUserByEmail email
  match user with
  | none => .throw (.auth .InvalidCredentialsError)
  | some user =>
    let isPasswordValid ← comparePassword P password user.password
    if isPasswordValid then
      let accessToken := generateAccessToken P (tokenPayload user) now
      let refreshToken := generateRefreshToken P (tokenPayload user) now
      let _ ← UserRepository.updateRefreshToken user.id refreshToken
      return {
        user := sanitizeUser user
        accessToken := accessToken
        refreshToken := refreshToken
      }
    else
      .throw (.auth .InvalidCredentialsError)

def logout (userId : UserId) : Action String := do
  let _ ← UserRepository.deleteRefreshToken userId
  return "Logged out successfully"

def refreshAccessToken (P : Platform) (refreshToken : Option String) (now : ℕ) : Action String :=
  match refreshToken.filter (· ≠ "") with
  | none => .throw (.auth (.UnauthorizedError "Refresh token is required"))
  | some refreshToken =>
    match verifyRefreshToken P refreshToken now with
    | .error _ => .throw (.auth (.UnauthorizedError "Invalid or expired refresh token"))
    | .ok _ => do
      let user ← UserRepository.findUserByRefreshToken refreshToken
      match user with
      | none => .throw (.auth (.UnauthorizedError "Session not found or revoked"))
      | some user => .ret (generateAccessToken P (tokenPayload user) now)

def getProfile (userId : UserId) : Action UserObject := do
  let user ← UserRepository.findUserById userId
  match user with
  | none => .throw (.auth .UserNotFoundError)
  | some user => .ret (sanitizeUser user)

end AuthService

end Banking.Http
