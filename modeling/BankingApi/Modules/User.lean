import BankingApi.Http.Server

/-!
This module contains `user.repository.js`, `user.service.js` and `bcrypt.js`.
-/

namespace Banking

def UserRole.toString (role : UserRole) : String :=
  match role with
  | .ADMIN => "ADMIN"
  | .CUSTOMER => "CUSTOMER"
  | .BANK => "BANK"
  | .SUPPORT => "SUPPORT"
  | .AUDITOR => "AUDITOR"

def UserRole.ofString? (s : String) : Option UserRole :=
  [.ADMIN, .CUSTOMER, .BANK, .SUPPORT, .AUDITOR].find? (·.toString = s)

def UserStatus.toString (status : UserStatus) : String :=
  match status with
  | .ACTIVE => "ACTIVE"
  | .INACTIVE => "INACTIVE"
  | .BLOCKED => "BLOCKED"
  | .LOCKED => "LOCKED"

def UserStatus.ofString? (s : String) : Option UserStatus :=
  [.ACTIVE, .INACTIVE, .BLOCKED, .LOCKED].find? (·.toString = s)

def User.toObject (u : User) : UserObject :=
  let orNull (s : Option String) : Json := (s.map Json.string).getD .null
  [
    ("id", .string u.id),
    ("customerId", .string u.customerId),
    ("fullName", .string u.fullName),
    ("email", .string u.email),
    ("phone", orNull u.phone),
    ("password", .string u.password),
    ("role", .string u.role.toString),
    ("status", .string u.status.toString),
    ("isVerified", .boolean u.isVerified),
    ("refreshToken", orNull u.refreshToken)
  ]

-- delete object.key
def deleteKey (key : String) (object : List (String × Json)) : List (String × Json) :=
  object.filter (·.1 ≠ key)

-- The same in `auth.service.js` and in `user.service.js`.
def sanitizeUser (user : User) : UserObject :=
  deleteKey "refreshToken" (deleteKey "password" user.toObject)

namespace Http

-- An argument that is no string is refused by whatever it is handed to.
def required (s : Option String) : Action String :=
  match s with
  | some s => .ret s
  | none => fail .invalid

def hashPassword (P : Platform) (password : Option String) (salt : String) : Action String := do
  let password ← required password
  return P.hash password salt

@[simp]
theorem required_some_bind {α : Type} (s : String) (f : String → Action α)
    : required (some s) >>= f = f s := rfl

@[simp]
theorem required_none_bind {α : Type} (f : String → Action α)
    : required none >>= f = fail .invalid := rfl

@[simp]
theorem hashPassword_some_bind {α : Type} (P : Platform) (password salt : String)
    (f : String → Action α)
    : hashPassword P (some password) salt >>= f = f (P.hash password salt) := rfl

namespace UserRepository

def createUser (row : User) : Action User :=
  query (.createUser row)

def findUserByEmail (email : String) : Action (Option User) :=
  query (.findUserByEmail email)

def findUserById (id : UserId) : Action (Option User) :=
  query (.findUserById id)

@[simp]
theorem serve_findUserByEmail {α : Type} (P : Platform) (email : String)
    (f : Option User → Action α) (s : Server)
    : (findUserByEmail email >>= f).serve (Server.exec P) s =
      (f (s.store.users.rows.find? (·.email = email))).serve (Server.exec P) s := rfl

@[simp]
theorem serve_findUserById {α : Type} (P : Platform) (id : UserId) (f : Option User → Action α)
    (s : Server)
    : (findUserById id >>= f).serve (Server.exec P) s =
      (f (s.store.users.find? id)).serve (Server.exec P) s := rfl

def findUserByRefreshToken (token : String) : Action (Option User) :=
  query (.findUserByRefreshToken token)

@[simp]
theorem serve_findUserByRefreshToken {α : Type} (P : Platform) (token : String)
    (f : Option User → Action α) (s : Server)
    : (findUserByRefreshToken token >>= f).serve (Server.exec P) s =
      (f (s.store.users.rows.find? (·.refreshToken = some token))).serve (Server.exec P) s := rfl

theorem serve_updateUser {α : Type} {P : Platform} {s : Server} {row : User}
    (h : row ∈ s.store.users.rows) (c : UserChange) (f : User → Action α)
    : (query (.updateUser row.id c) >>= f).serve (Server.exec P) s =
      (f (c.apply row)).serve (Server.exec P)
        (s.setUsers (s.store.users.update row.id c.apply c.id_apply)) := by
  apply serve_query_of_ok
  apply exec_updateUser_of_find? P (Table.find?_of_mem h)

def updateRefreshToken (userId : UserId) (token : String) : Action User :=
  query (.updateUser userId (.refreshToken (some token)))

def deleteRefreshToken (userId : UserId) : Action User :=
  query (.updateUser userId (.refreshToken none))

def updateProfile (id : UserId) (data : List (String × Json)) : Action User :=
  query (.updateProfile id data)

def changePassword (id : UserId) (hashedPassword : String) : Action User :=
  query (.updateUser id (.password hashedPassword))

-- A column of an enumeration takes one of its names, or is left alone.
def enumeration {α : Type} (ofString? : String → Option α) (value : Option Json)
    : Action (Option α) :=
  match value with
  | none => .ret none
  | some j =>
    match j.string?.bind ofString? with
    | some a => .ret (some a)
    | none => fail .invalid

def updateUserStatus (id : UserId) (status : Option Json) : Action User := do
  let status ← enumeration UserStatus.ofString? status
  query (.updateUser id (.status status))

def updateUserRole (id : UserId) (role : Option Json) : Action User := do
  let role ← enumeration UserRole.ofString? role
  query (.updateUser id (.role role))

def getAllUsers (scan : Scan) : Action (List User) :=
  query (.getAllUsers scan)

def softDeleteUser (id : UserId) : Action User :=
  query (.updateUser id (.status (some .INACTIVE)))

end UserRepository

-- req.user
structure RequestUser where
  id : UserId
  email : String
  role : UserRole
  status : UserStatus

namespace UserService

-- const user = await userRepository.findUserById(userId); if (!user) throw ..
def existingUser (userId : UserId) : Action Unit := do
  let user ← UserRepository.findUserById userId
  match user with
  | none => fail (.app (NotFoundError "User not found"))
  | some _ => .ret ()

def getProfile (userId : UserId) : Action UserObject := do
  let user ← UserRepository.findUserById userId
  match user with
  | none => fail (.app (NotFoundError "User not found"))
  | some user => .ret (sanitizeUser user)

def updateProfile (userId : UserId) (updateData : Option Json) : Action UserObject := do
  existingUser userId
  match updateData with
  | none => fail .typeError
  | some .null => fail .typeError
  | some (.object updateData) =>
    let updateData := deleteKey "password" updateData
    let updateData := deleteKey "role" updateData
    let updateData := deleteKey "status" updateData
    let updateData := deleteKey "isVerified" updateData
    let updateData := deleteKey "customerId" updateData
    let updatedUser ← UserRepository.updateProfile userId updateData
    return sanitizeUser updatedUser
  | some _ => fail .invalid

def changePassword (P : Platform) (userId : UserId) (newPassword : Option String) (salt : String)
    : Action String := do
  existingUser userId
  let hashedPassword ← hashPassword P newPassword salt
  let _ ← UserRepository.changePassword userId hashedPassword
  return "Password updated successfully"

def getAllUsers (scan : Scan) : Action (List UserObject) := do
  let users ← UserRepository.getAllUsers scan
  return users.map sanitizeUser

def changeStatus (adminUser : RequestUser) (targetUserId : UserId) (newStatus : Option Json)
    : Action UserObject := do
  if adminUser.role ≠ .ADMIN then
    fail (.app (ForbiddenError "Only admins can change user status"))
  else
    existingUser targetUserId
    let updatedUser ← UserRepository.updateUserStatus targetUserId newStatus
    return sanitizeUser updatedUser

def changeRole (adminUser : RequestUser) (targetUserId : UserId) (newRole : Option Json)
    : Action UserObject := do
  if adminUser.role ≠ .ADMIN then
    fail (.app (ForbiddenError "Only admins can change user roles"))
  else
    existingUser targetUserId
    let updatedUser ← UserRepository.updateUserRole targetUserId newRole
    return sanitizeUser updatedUser

def softDelete (userId : UserId) : Action String := do
  existingUser userId
  let _ ← UserRepository.softDeleteUser userId
  return "User deleted successfully"

end UserService

end Http

end Banking
