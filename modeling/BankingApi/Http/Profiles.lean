import BankingApi.Http.Routes

/-!
This module contains what `updateProfile` of `user.service.js` does to the columns that it must not touch,
and to the wallets.
-/

namespace Banking

/--
The columns of a user that `updateProfile` has no business with.
-/
structure Sensitive where
  id : UserId
  customerId : String
  password : String
  role : UserRole
  status : UserStatus
  isVerified : Bool
  refreshToken : Option String
  deriving DecidableEq

def User.sensitive (u : User) : Sensitive :=
  {
    id := u.id
    customerId := u.customerId
    password := u.password
    role := u.role
    status := u.status
    isVerified := u.isVerified
    refreshToken := u.refreshToken
  }

def sensitiveColumns : List String :=
  ["id", "customerId", "password", "role", "status", "isVerified", "refreshToken"]

def KeepsSensitive (s s' : Store) : Prop :=
  s'.users.rows.map User.sensitive = s.users.rows.map User.sensitive
    ∧ s'.wallets.rows = s.wallets.rows

instance (s s' : Store) : Decidable (KeepsSensitive s s') :=
  inferInstanceAs (Decidable (_ ∧ _))

theorem UserRole.toString_injective : Function.Injective UserRole.toString := by
  intro role role' h
  cases role <;> cases role' <;> first | rfl | exact absurd h (by decide)

theorem UserStatus.toString_injective : Function.Injective UserStatus.toString := by
  intro status status' h
  cases status <;> cases status' <;> first | rfl | exact absurd h (by decide)

theorem orNull_injective
    : Function.Injective (fun s : Option String => (s.map Json.string).getD .null) := by
  intro s s' h
  cases s <;> cases s' <;> simp_all

theorem sensitive_eq_iff (u u' : User)
    : u'.sensitive = u.sensitive ↔
      ∀ key ∈ sensitiveColumns, Json.lookup u'.toObject key = Json.lookup u.toObject key := by
  simp [User.sensitive, sensitiveColumns, User.toObject, Json.lookup,
    UserRole.toString_injective.eq_iff, UserStatus.toString_injective.eq_iff, orNull_injective.eq_iff]

namespace Http

-- `{ set: value }` writes `value`.
def scalar (value : Json) : Json :=
  (value.get? "set").getD value

-- `row` is `u` with the columns written that `data` names.
def Written (data : List (String × Json)) (u row : User) : Prop :=
  ∀ field ∈ u.toObject,
    Json.lookup row.toObject field.1 = some (((Json.lookup data field.1).map scalar).getD field.2)

instance (data : List (String × Json)) (u row : User) : Decidable (Written data u row) :=
  inferInstanceAs (Decidable (∀ _ ∈ _, _ = _))

/--
What `prisma.user.update({ where: { id }, data })` does if it does anything: first the columns that `data`
names, then the nested operation on the wallet of the row, which may go on to other rows and tables.
-/
structure UserUpdate where
  columns : UserId → List (String × Json) → Store → User × Store
  nested : UserId → Json → Store → Store

def UserUpdate.result (U : UserUpdate) (id : UserId) (data : List (String × Json)) (s : Store)
    : Store :=
  let (row, s) := U.columns id data s
  match Json.lookup data "wallet" with
  | none => s
  | some operation => U.nested row.id operation s

-- wallet: {}
def noOperation : Json :=
  .object []

-- wallet: { delete: true }
def deleteOperation : Json :=
  .object [("delete", .boolean true)]

structure Platform.Updates (P : Platform) (U : UserUpdate) : Prop where
  result {id : UserId} {data : List (String × Json)} {s s' : Store} {row : User}
    : P.updateUser id data s = .ok (row, s') → s' = U.result id data s
  columns {id : UserId} {data : List (String × Json)} {s s' : Store} {row : User}
    : P.updateUser id data s = .ok (row, s') →
      ∃ u, s.users.find? id = some u ∧ Written data u (U.columns id data s).1
        ∧ (U.columns id data s).2.users.rows =
          s.users.rows.map (fun r => if r.id = id then (U.columns id data s).1 else r)
  -- An id that changes takes the wallet with it.
  wallets {id : UserId} {data : List (String × Json)} {s s' : Store} {row : User}
    : P.updateUser id data s = .ok (row, s') → (U.columns id data s).1.id = id →
      (U.columns id data s).2.wallets.rows = s.wallets.rows
  nothing (id : UserId) (s : Store) : U.nested id noOperation s = s
  delete (id : UserId) (s : Store)
    : (U.nested id deleteOperation s).users = s.users
      ∧ (U.nested id deleteOperation s).wallets.rows = s.wallets.rows.filter (·.userId ≠ id)

-- What `updateProfile` leaves of the object it is given.
def profileData (updateData : List (String × Json)) : List (String × Json) :=
  deleteKey "customerId" (deleteKey "isVerified" (deleteKey "status" (deleteKey "role"
    (deleteKey "password" updateData))))

def deletedColumns : List String :=
  ["password", "role", "status", "isVerified", "customerId"]

def RefusesUpdate (P : Platform) (s : Store) (userId : UserId) (updateData : List (String × Json))
    : Prop :=
  ∃ e, Server.updateProfile P s userId (profileData updateData) = .error e

/--
The object names no operation on the wallet.
-/
def Plain (updateData : List (String × Json)) : Prop :=
  ∀ operation, Json.lookup updateData "wallet" = some operation → operation = noOperation

/--
For the two sensitive columns that are not deleted the object has no other value than the row.
-/
def KeepsColumns (s : Store) (userId : UserId) (updateData : List (String × Json)) : Prop :=
  ∀ u, s.users.find? userId = some u → ∀ key ∈ ["id", "refreshToken"], ∀ value,
    Json.lookup updateData key = some value → Json.lookup u.toObject key = some (scalar value)

structure Harmless (s : Store) (userId : UserId) (updateData : List (String × Json)) : Prop where
  plain : Plain updateData
  columns : KeepsColumns s userId updateData

section Columns

variable {data : List (String × Json)} {u row : User} {key : String}

theorem lookup_deleteKey (key' : String) (data : List (String × Json))
    : Json.lookup (deleteKey key' data) key = if key = key' then none else Json.lookup data key := by
  unfold deleteKey Json.lookup
  rw [List.find?_filter]
  split
  . next heq =>
    subst heq
    simp
  . next hne =>
    congr 2
    funext field
    by_cases hkey : field.1 = key
    . simp [hkey, hne]
    . simp [hkey]

theorem lookup_profileData (updateData : List (String × Json))
    : Json.lookup (profileData updateData) key =
      if key ∈ deletedColumns then
        none
      else
        Json.lookup updateData key := by
  unfold profileData deletedColumns
  simp only [lookup_deleteKey, List.mem_cons, List.not_mem_nil, or_false]
  split_ifs <;> simp_all

theorem lookup_toObject {field : String × Json} (h : field ∈ u.toObject)
    : Json.lookup u.toObject field.1 = some field.2 := by
  simp only [User.toObject, List.mem_cons, List.not_mem_nil, or_false] at h
  rcases h with rfl | rfl | rfl | rfl | rfl | rfl | rfl | rfl | rfl | rfl <;> rfl

theorem lookup_written_iff (h : Written data u row) (hkey : key ∈ u.toObject.map Prod.fst)
    : Json.lookup row.toObject key = Json.lookup u.toObject key ↔
      ∀ value, Json.lookup data key = some value →
        Json.lookup u.toObject key = some (scalar value) := by
  rcases List.mem_map.mp hkey with ⟨field, hfield, rfl⟩
  rw [h field hfield, lookup_toObject hfield]
  cases Json.lookup data field.1 with
  | none => simp
  | some value => simp [eq_comm]

-- The deleted columns stay as they are; the other two take the value that is given.
theorem sensitive_written_iff (updateData : List (String × Json))
    (h : Written (profileData updateData) u row)
    : row.sensitive = u.sensitive ↔
      ∀ key ∈ ["id", "refreshToken"], ∀ value, Json.lookup updateData key = some value →
        Json.lookup u.toObject key = some (scalar value) := by
  have hopen : ∀ key ∈ ["id", "refreshToken"], key ∈ sensitiveColumns ∧ key ∉ deletedColumns := by
    decide
  have hrest : ∀ key ∈ sensitiveColumns, key ∉ deletedColumns → key ∈ ["id", "refreshToken"] := by
    decide
  rw [sensitive_eq_iff]
  have hiff : ∀ key ∈ sensitiveColumns,
      Json.lookup row.toObject key = Json.lookup u.toObject key ↔
        ∀ value, Json.lookup (profileData updateData) key = some value →
          Json.lookup u.toObject key = some (scalar value) := by
    intro key hkey
    apply lookup_written_iff h
    revert key
    simp [sensitiveColumns, User.toObject]
  constructor
  . intro hsame key hkey value hvalue
    rcases hopen key hkey with ⟨hsensitive, hundeleted⟩
    apply (hiff key hsensitive).mp (hsame key hsensitive)
    rw [lookup_profileData, if_neg hundeleted]
    exact hvalue
  . intro hnamed key hkey
    rw [hiff key hkey]
    intro value hvalue
    rw [lookup_profileData] at hvalue
    split at hvalue
    . cases hvalue
    . next hundeleted => exact hnamed key (hrest key hkey hundeleted) value hvalue

end Columns

section Update

variable {P : Platform} {U : UserUpdate} {s : Server} {userId : UserId}
  {updateData : List (String × Json)}

theorem serve_updateProfile (P : Platform) (s : Server) (userId : UserId)
    (updateData : List (String × Json))
    : ((UserService.updateProfile userId (some (.object updateData))).serve (Server.exec P) s).2 =
      if (s.store.users.find? userId).isSome then
        (s.commit (Server.updateProfile P s.store userId (profileData updateData))).2
      else
        s := by
  unfold UserService.updateProfile UserService.existingUser
  rw [Prog.bind_bind, UserRepository.serve_findUserById]
  cases s.store.users.find? userId with
  | none => rfl
  | some u =>
    rw [Prog.ret_bind, if_pos (by rfl)]
    change ((query (.updateProfile userId (profileData updateData)) >>= _).serve (Server.exec P) s).2 =
      (Server.exec P (.updateProfile userId (profileData updateData)) s).2
    generalize hexec : Server.exec P (.updateProfile userId (profileData updateData)) s = r
    rcases r with ⟨r, s'⟩
    cases r with
    | ok row =>
      rw [serve_query_of_ok hexec]
      rfl
    | error e => rw [serve_query_of_error hexec]

-- An update that is made was asked for with keys of the model.
theorem updateUser_of_updateProfile {s s' : Store} {data : List (String × Json)} {row : User}
    (h : Server.updateProfile P s userId data = .ok (row, s'))
    : P.updateUser userId data s = .ok (row, s') := by
  unfold Server.updateProfile at h
  split at h
  . exact h
  . cases h

theorem keepsSensitive_columns_iff (hP : P.Updates U) {s s' : Store} {row : User}
    (h : P.updateUser userId (profileData updateData) s = .ok (row, s'))
    : KeepsSensitive s (U.columns userId (profileData updateData) s).2 ↔
      KeepsColumns s userId updateData := by
  rcases hP.columns h with ⟨u, hu, hwritten, hrows⟩
  have hid := Table.key_of_find? hu
  have hmem := Table.mem_of_find? hu
  have hrows' : (U.columns userId (profileData updateData) s).2.users.rows.map User.sensitive =
      s.users.rows.map User.sensitive ↔
        (U.columns userId (profileData updateData) s).1.sensitive = u.sensitive := by
    rw [hrows, List.map_map, List.map_inj_left]
    constructor
    . intro hsame
      have := hsame u hmem
      simpa [hid] using this
    . intro hsame r hr
      rw [Function.comp_apply]
      split
      . next heq => rw [hsame, Table.eq_of_mem_of_key_eq hr hmem (by rw [heq, hid])]
      . rfl
  unfold KeepsSensitive
  rw [hrows', sensitive_written_iff updateData hwritten]
  constructor
  . rintro ⟨hnamed, _⟩ u' hu'
    cases hu.symm.trans hu'
    exact hnamed
  . intro hnamed
    refine ⟨hnamed u hu, hP.wallets h ?_⟩
    have := (sensitive_written_iff updateData hwritten).mpr (hnamed u hu)
    exact (congrArg Sensitive.id this).trans hid

theorem keepsSensitive_of_refusesUpdate (s : Server) (h : RefusesUpdate P s.store userId updateData)
    : KeepsSensitive s.store
      ((UserService.updateProfile userId (some (.object updateData))).serve (Server.exec P) s).2.store := by
  rcases h with ⟨e, he⟩
  rw [serve_updateProfile, he]
  split <;> exact ⟨rfl, rfl⟩

-- An update that is made leaves what Prisma makes of the object.
theorem serve_updateProfile_of_updated (hP : P.Updates U) {s : Server} {s' : Store} {row : User}
    (h : P.updateUser userId (profileData updateData) s.store = .ok (row, s'))
    (hupdate : Server.updateProfile P s.store userId (profileData updateData) = .ok (row, s'))
    : ((UserService.updateProfile userId (some (.object updateData))).serve
        (Server.exec P) s).2.store = U.result userId (profileData updateData) s.store := by
  rcases hP.columns h with ⟨u, hu, _⟩
  rw [serve_updateProfile, hu, if_pos (by rfl), hupdate]
  exact hP.result h

theorem result_of_plain (hP : P.Updates U) (h : Plain updateData) (s : Store)
    : U.result userId (profileData updateData) s =
      (U.columns userId (profileData updateData) s).2 := by
  unfold UserUpdate.result
  rw [lookup_profileData, if_neg (by decide)]
  cases hwallet : Json.lookup updateData "wallet" with
  | none => rfl
  | some operation =>
    rw [h operation hwallet]
    exact hP.nothing _ _

theorem result_of_delete (h : Json.lookup updateData "wallet" = some deleteOperation) (s : Store)
    : U.result userId (profileData updateData) s =
      U.nested (U.columns userId (profileData updateData) s).1.id deleteOperation
        (U.columns userId (profileData updateData) s).2 := by
  unfold UserUpdate.result
  rw [lookup_profileData, if_neg (by decide), h]

-- The deleted wallet is missing, unless it is the id of its user that has changed.
theorem not_keepsSensitive_of_delete (hP : P.Updates U) {s s' : Store} {row : User}
    (h : P.updateUser userId (profileData updateData) s = .ok (row, s'))
    (hdelete : Json.lookup updateData "wallet" = some deleteOperation) {w : Wallet}
    (hw : w ∈ s.wallets.rows) (hwallet : w.userId = userId)
    : ¬KeepsSensitive s (U.result userId (profileData updateData) s) := by
  rw [result_of_delete hdelete]
  rintro ⟨husers, hwallets⟩
  rcases hP.delete (U.columns userId (profileData updateData) s).1.id
    (U.columns userId (profileData updateData) s).2 with ⟨husers', hwallets'⟩
  rcases hP.columns h with ⟨u, hu, _, hrows⟩
  have huser : u.id = userId := Table.key_of_find? hu
  have hid : (U.columns userId (profileData updateData) s).1.id = userId := by
    rw [husers', hrows, List.map_map, List.map_inj_left] at husers
    have hsame := husers u (Table.mem_of_find? hu)
    rw [Function.comp_apply, if_pos huser] at hsame
    exact (congrArg Sensitive.id hsame).trans huser
  rw [hwallets', hP.wallets h hid, hid] at hwallets
  rw [← hwallets, List.mem_filter] at hw
  simp [hwallet] at hw

theorem serve_updateProfile_cases (hP : P.Updates U) (s : Server) (userId : UserId)
    (updateData : List (String × Json))
    : RefusesUpdate P s.store userId updateData
        ∨ ∃ row s', P.updateUser userId (profileData updateData) s.store = .ok (row, s')
          ∧ ¬RefusesUpdate P s.store userId updateData
          ∧ ((UserService.updateProfile userId (some (.object updateData))).serve
              (Server.exec P) s).2.store = U.result userId (profileData updateData) s.store := by
  cases hr : Server.updateProfile P s.store userId (profileData updateData) with
  | error e => exact .inl ⟨e, hr⟩
  | ok updated =>
    rcases updated with ⟨row, s'⟩
    have hupdate := updateUser_of_updateProfile hr
    refine .inr ⟨row, s', hupdate, ?_, serve_updateProfile_of_updated hP hupdate hr⟩
    rintro ⟨e, he⟩
    rw [hr] at he
    cases he

theorem keepsSensitive_iff_of_plain (hP : P.Updates U) (s : Server) (h : Plain updateData)
    : KeepsSensitive s.store
        ((UserService.updateProfile userId (some (.object updateData))).serve (Server.exec P) s).2.store ↔
      RefusesUpdate P s.store userId updateData ∨ Harmless s.store userId updateData := by
  rcases serve_updateProfile_cases hP s userId updateData with hrefuses | ⟨row, s', hupdate, hmade, heq⟩
  . exact iff_of_true (keepsSensitive_of_refusesUpdate s hrefuses) (.inl hrefuses)
  . rw [heq, result_of_plain hP h, keepsSensitive_columns_iff hP hupdate, or_iff_right hmade]
    exact ⟨fun hcolumns => ⟨h, hcolumns⟩, Harmless.columns⟩

/--
Of what it should not touch `updateProfile` leaves two columns open, and the wallet. An object that names
no operation on the wallet, and no other value for the columns, is harmless. Without an operation on the
wallet no other object is, unless Prisma refuses it, nor is one that deletes a wallet that is there.
-/
theorem updateProfile_keepsSensitive (hP : P.Updates U) (s : Server) (userId : UserId)
    (updateData : List (String × Json))
    : (RefusesUpdate P s.store userId updateData ∨ Harmless s.store userId updateData →
        KeepsSensitive s.store
          ((UserService.updateProfile userId (some (.object updateData))).serve
            (Server.exec P) s).2.store)
      ∧ (Plain updateData →
        KeepsSensitive s.store
          ((UserService.updateProfile userId (some (.object updateData))).serve
            (Server.exec P) s).2.store →
        RefusesUpdate P s.store userId updateData ∨ Harmless s.store userId updateData)
      ∧ ((∃ w ∈ s.store.wallets.rows, w.userId = userId) →
        Json.lookup updateData "wallet" = some deleteOperation →
        KeepsSensitive s.store
          ((UserService.updateProfile userId (some (.object updateData))).serve
            (Server.exec P) s).2.store →
        RefusesUpdate P s.store userId updateData) := by
  refine ⟨?_, fun hplain => (keepsSensitive_iff_of_plain hP s hplain).mp, ?_⟩
  . rintro (hrefuses | hharmless)
    . exact keepsSensitive_of_refusesUpdate s hrefuses
    . exact (keepsSensitive_iff_of_plain hP s hharmless.plain).mpr (.inr hharmless)
  . rintro ⟨w, hw, hwallet⟩ hdelete hkeeps
    rcases serve_updateProfile_cases hP s userId updateData with hrefuses | ⟨row, s', hupdate, _, heq⟩
    . exact hrefuses
    . rw [heq] at hkeeps
      exact absurd hkeeps (not_keepsSensitive_of_delete hP hupdate hdelete hw hwallet)

end Update

section Sample

def sampleColumns (id : UserId) (data : List (String × Json)) (s : Store) : User × Store :=
  match s.users.find? id with
  | none => (sampleUser id, s)
  | some u =>
    let fullName :=
      match (Json.lookup data "fullName").map scalar with
      | some (.string fullName) => fullName
      | _ => u.fullName
    let refreshToken :=
      match (Json.lookup data "refreshToken").map scalar with
      | some (.string token) => some token
      | some .null => none
      | _ => u.refreshToken
    let write (row : User) : User := { row with fullName := fullName, refreshToken := refreshToken }
    (write u, { s with users := s.users.update id write (fun _ => rfl) })

def sampleNested (userId : UserId) (operation : Json) (s : Store) : Store :=
  if operation = deleteOperation then
    {
      s with
      wallets := {
        rows := s.wallets.rows.filter (·.userId ≠ userId)
        hrows := s.wallets.hrows.sublist (List.filter_sublist.map _)
      }
    }
  else
    s

def sampleUpdate : UserUpdate where
  columns := sampleColumns
  nested := sampleNested

def profilePlatform : Platform :=
  {
    samplePlatform with
    updateUser := fun id data s =>
      match s.users.find? id with
      | none => .error (.prisma .P2025)
      | some u =>
        if Written data u (sampleColumns id data s).1
            ∧ (Json.lookup data "wallet").all (fun j => j = noOperation ∨ j = deleteOperation) then
          .ok ((sampleColumns id data s).1, sampleUpdate.result id data s)
        else
          .error .invalid
  }

theorem updateUser_profilePlatform_eq_ok {id : UserId} {data : List (String × Json)} {s s' : Store}
    {row : User} (h : profilePlatform.updateUser id data s = .ok (row, s'))
    : ∃ u, s.users.find? id = some u ∧ Written data u (sampleColumns id data s).1
        ∧ s' = sampleUpdate.result id data s := by
  unfold profilePlatform at h
  dsimp only at h
  split at h
  . cases h
  . next u hu =>
    split at h
    . next haccepts =>
      cases h
      exact ⟨u, hu, haccepts.1, rfl⟩
    . cases h

theorem profilePlatform_updates : profilePlatform.Updates sampleUpdate := by
  constructor
  . intro id data s s' row h
    rcases updateUser_profilePlatform_eq_ok h with ⟨_, _, _, hs'⟩
    exact hs'
  . intro id data s s' row h
    rcases updateUser_profilePlatform_eq_ok h with ⟨u, hu, hwritten, _⟩
    refine ⟨u, hu, hwritten, ?_⟩
    simp only [sampleUpdate, sampleColumns, hu]
    apply List.map_congr_left
    intro r hr
    split
    . next heq =>
      have hid := Table.key_of_find? hu
      rw [Table.eq_of_mem_of_key_eq hr (Table.mem_of_find? hu) (by rw [heq, hid])]
    . rfl
  . intro id data s s' row h _
    rcases updateUser_profilePlatform_eq_ok h with ⟨u, hu, _⟩
    simp only [sampleUpdate, sampleColumns, hu]
  . intro id s
    have hne : noOperation ≠ deleteOperation := by decide
    simp [sampleUpdate, sampleNested, hne]
  . intro id s
    exact ⟨rfl, rfl⟩

def sampleWallet : Wallet where
  id := "a"
  walletNumber := "1"
  balance := 0
  currency := "INR"
  status := .ACTIVE
  userId := "alice"

def walletServer : Server :=
  let s := sampleServer ["alice"] (List.nodup_singleton "alice")
  s.setStore { s.store with wallets := s.store.wallets.insert sampleWallet }

def stolenSession : List (String × Json) :=
  [("role", .string "ADMIN"), ("refreshToken", .string "stolen")]

def deletedWallet : List (String × Json) :=
  [("wallet", deleteOperation)]

def newName : List (String × Json) :=
  [("fullName", .string "Alice"), ("wallet", noOperation)]

theorem updateProfile_keepsSensitive_on_walletServer
    : KeepsSensitive walletServer.store
          ((UserService.updateProfile "alice" (some (.object newName))).serve
            (Server.exec profilePlatform) walletServer).2.store
        ∧ (KeepsSensitive walletServer.store
            ((UserService.updateProfile "alice" (some (.object stolenSession))).serve
              (Server.exec profilePlatform) walletServer).2.store →
          RefusesUpdate profilePlatform walletServer.store "alice" stolenSession
            ∨ Harmless walletServer.store "alice" stolenSession)
        ∧ (KeepsSensitive walletServer.store
            ((UserService.updateProfile "alice" (some (.object deletedWallet))).serve
              (Server.exec profilePlatform) walletServer).2.store →
          RefusesUpdate profilePlatform walletServer.store "alice" deletedWallet) := by
  refine ⟨?_, ?_, ?_⟩
  . apply (updateProfile_keepsSensitive profilePlatform_updates walletServer "alice" newName).1
    right
    constructor
    . rintro operation hwallet
      cases hwallet
      rfl
    . intro u _ key hkey value hvalue
      fin_cases hkey <;> cases hvalue
  . apply (updateProfile_keepsSensitive profilePlatform_updates walletServer "alice" stolenSession).2.1
    rintro operation hwallet
    cases hwallet
  . apply (updateProfile_keepsSensitive profilePlatform_updates walletServer "alice" deletedWallet).2.2
    . exact ⟨sampleWallet, List.mem_singleton_self _, rfl⟩
    . rfl

theorem profile_writes_session_and_wallet
    : ¬KeepsSensitive walletServer.store
          ((UserService.updateProfile "alice" (some (.object stolenSession))).serve
            (Server.exec profilePlatform) walletServer).2.store
        ∧ ¬KeepsSensitive walletServer.store
          ((UserService.updateProfile "alice" (some (.object deletedWallet))).serve
            (Server.exec profilePlatform) walletServer).2.store := by
  decide +kernel

end Sample

end Http

end Banking
