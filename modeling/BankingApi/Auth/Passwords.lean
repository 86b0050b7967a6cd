import BankingApi.Auth.Sessions
import BankingApi.Store.Sessions

/-!
This module contains what passwords are good for: the calls that set and try them, side by side, and
which strings open a session.
-/

namespace Banking.Http

-- The bytes of a password that bcryptjs looks at.
def hashedBytes (password : String) : List UInt8 :=
  password.toByteArray.data.toList.take 72

/--
What is documented of bcryptjs: nothing after the first 72 bytes counts, and everything before does.
-/
def Platform.Bcrypt (P : Platform) : Prop :=
  ∀ password password' salt,
    P.compare password (P.hash password' salt) = true ↔ hashedBytes password = hashedBytes password'

theorem eq_of_hashedBytes {password password' : String}
    (h : hashedBytes password = hashedBytes password') (hsize : password'.toByteArray.size < 72)
    : password = password' := by
  unfold hashedBytes at h
  have hlen' : password'.toByteArray.data.toList.length < 72 := by simpa using hsize
  rw [List.take_of_length_le (l := password'.toByteArray.data.toList) (by omega)] at h
  have hlen := congrArg List.length h
  rw [List.length_take] at hlen
  rw [List.take_of_length_le (by omega)] at h
  rw [← String.toByteArray_inj]
  exact ByteArray.ext (Array.toList_inj.mp h)

theorem hashedBytes_append {password : String} (h : 72 ≤ password.toByteArray.size) (suffix : String)
    : hashedBytes (password ++ suffix) = hashedBytes password := by
  unfold hashedBytes
  rw [String.toByteArray_append, ByteArray.data_append, Array.toList_append,
    List.take_append_of_le_length (by simpa using h)]

inductive PasswordCall where
  | register (fullName email password : String) (role : Option UserRole) (new : AuthService.NewUser)
  | changePassword (userId : UserId) (newPassword salt : String)
  | login (email password : String) (now : ℕ)

namespace PasswordCall

def action (P : Platform) (call : PasswordCall) : Action Unit :=
  match call with
  | .register fullName email password role new => do
    let userData := {
      email := some email, password := some password, fullName := some fullName, role := role
    }
    let _ ← AuthService.register P userData new
    return ()
  | .changePassword userId newPassword salt => do
    let _ ← UserService.changePassword P userId (some newPassword) salt
    return ()
  | .login email password now => do
    let _ ← AuthService.login P (some email) (some password) now
    return ()

-- The password that the call sets, and the salt it is hashed with.
def newPassword? (call : PasswordCall) : Option (String × String) :=
  match call with
  | .register _ _ password _ new => some (password, new.salt)
  | .changePassword _ newPassword salt => some (newPassword, salt)
  | .login _ _ _ => none

def hashed? (P : Platform) (call : PasswordCall) : Option String :=
  call.newPassword?.map (fun (password, salt) => P.hash password salt)

def Sends (P : Platform) (call : PasswordCall) (c : Command) : Prop :=
  match c with
  | .findUserByEmail _ => True
  | .findUserById _ => True
  | .createUser row => call.hashed? P = some row.password
  | .updateUser _ (.password hashed) => call.hashed? P = some hashed
  | .updateUser _ (.refreshToken _) => True
  | _ => False

theorem obeys_action (P : Platform) (call : PasswordCall)
    : (call.action P).Obeys (call.Sends P) (fun _ => True) (fun _ => True) := by
  cases call with
  | register fullName email password role new =>
    apply Prog.obeys_bind
    . apply Prog.obeys_bind (obeys_query_of_command (.findUserByEmail email) trivial)
      intro existingUser
      cases existingUser with
      | some _ => trivial
      | none =>
        dsimp only
        rw [hashPassword_some_bind, required_some_bind]
        exact Prog.obeys_bind (obeys_query_of_command (.createUser _) rfl) (fun _ => trivial)
    . intro _
      trivial
  | changePassword userId newPassword salt =>
    apply Prog.obeys_bind
    . apply Prog.obeys_bind
      . apply Prog.obeys_bind (obeys_query_of_command (.findUserById userId) trivial)
        intro user
        cases user <;> trivial
      . intro _
        rw [hashPassword_some_bind]
        exact Prog.obeys_bind (obeys_query_of_command (.updateUser _ (.password _)) rfl)
          (fun _ => trivial)
    . intro _
      trivial
  | login email password now =>
    apply Prog.obeys_bind
    . apply Prog.obeys_bind (obeys_query_of_command (.findUserByEmail email) trivial)
      intro user
      cases user with
      | none => trivial
      | some user =>
        change Prog.Obeys _ _ _ (if P.compare password user.password = true then _ else _)
        split
        . exact Prog.obeys_bind (obeys_query_of_command (.updateUser _ (.refreshToken _)) trivial)
            (fun _ => trivial)
        . trivial
    . intro _
      trivial

end PasswordCall

-- Whose password a command has set.
def passwordOwner? (c : Command) (r : c.Result) : Option UserId :=
  match c, r with
  | .createUser _, .ok user => some user.id
  | .updateUser _ (.password _), .ok user => some user.id
  | _, _ => none

section Exec

variable {P : Platform} {call : PasswordCall} {c : Command}

-- The hash that is stored for a user.
def storedHash (s : Server) (userId : UserId) : Option String :=
  (s.store.users.find? userId).map User.password

theorem storedHash_insert {s : Server} {row : User} (h : s.store.users.find? row.id = none)
    (userId : UserId)
    : storedHash (s.setUsers (s.store.users.insert row)) userId =
      if row.id = userId then some row.password else storedHash s userId := by
  unfold storedHash
  change ((s.store.users.insert row).find? userId).map _ = _
  split
  . next hid =>
    rw [← hid, Table.find?_insert_self h]
    rfl
  . next hid => rw [Table.find?_insert_of_ne hid]

theorem storedHash_update {s : Server} {id : UserId} {row : User}
    (h : s.store.users.find? id = some row) (change : UserChange) (userId : UserId)
    : storedHash (s.setUsers (s.store.users.update id change.apply change.id_apply)) userId =
      if id = userId then some (change.apply row).password else storedHash s userId := by
  unfold storedHash
  change ((s.store.users.update id change.apply change.id_apply).find? userId).map _ = _
  split
  . next hid =>
    rw [← hid, Table.find?_update_self, h]
    rfl
  . next hid => rw [Table.find?_update_of_ne hid]

theorem storedHash_exec (hc : call.Sends P c) (s : Server) (userId : UserId)
    : storedHash (Server.exec P c s).2 userId =
      if passwordOwner? c (Server.exec P c s).1 = some userId then
        call.hashed? P
      else
        storedHash s userId := by
  unfold PasswordCall.Sends at hc
  split at hc
  . rfl
  . rfl
  . next row =>
    rcases exec_createUser_cases P s row with ⟨e, hexec⟩ | ⟨hfree, _, hexec⟩
    . rw [hexec]
      rfl
    . rw [hexec, storedHash_insert hfree, hc]
      simp [passwordOwner?]
  . next id hashed =>
    cases hfind : s.store.users.find? id with
    | none =>
      rw [exec_updateUser_of_not_find? P hfind]
      rfl
    | some row =>
      rw [exec_updateUser_of_find? P hfind, storedHash_update hfind, hc]
      simp [passwordOwner?, Table.key_of_find? hfind, UserChange.apply]
  . next id token =>
    cases hfind : s.store.users.find? id with
    | none =>
      rw [exec_updateUser_of_not_find? P hfind]
      rfl
    | some row =>
      rw [exec_updateUser_of_find? P hfind, storedHash_update hfind]
      -- The token is stored beside the password.
      have hkept : storedHash s id = some row.password := by simp [storedHash, hfind]
      split
      . next hid =>
        subst hid
        exact hkept.symm
      . rfl
  . exact hc.elim

def UniqueEmails (s : Server) : Prop :=
  (s.store.users.rows.map User.email).Nodup

theorem uniqueEmails_updateUser {s : Server} (h : UniqueEmails s) (id : UserId) {change : UserChange}
    (hemail : ∀ user, (change.apply user).email = user.email)
    : UniqueEmails (Server.exec P (.updateUser id change) s).2 := by
  cases hfind : s.store.users.find? id with
  | none =>
    rw [exec_updateUser_of_not_find? P hfind]
    exact h
  | some row =>
    rw [exec_updateUser_of_find? P hfind]
    unfold UniqueEmails
    change ((s.store.users.update id _ (UserChange.id_apply _)).rows.map User.email).Nodup
    rw [Table.map_update _ _ hemail]
    exact h

theorem uniqueEmails_exec (hc : call.Sends P c) {s : Server} (h : UniqueEmails s)
    : UniqueEmails (Server.exec P c s).2 := by
  unfold PasswordCall.Sends at hc
  split at hc
  . exact h
  . exact h
  . next row =>
    rcases exec_createUser_cases P s row with ⟨e, hexec⟩ | ⟨hfree, hemail, hexec⟩ <;> rw [hexec]
    . exact h
    . exact Table.nodup_map_insert hfree hemail h
  . exact uniqueEmails_updateUser h _ (fun _ => rfl)
  . exact uniqueEmails_updateUser h _ (fun _ => rfl)
  . exact hc.elim

end Exec

section Runs

variable {ι : Type} [DecidableEq ι] (P : Platform) (calls : ι → PasswordCall) (s : Server)
  (es : List (SessionEvent ι))

def passwordStep (m : Sessions Command Command.Result Fault Server ι Unit) (ev : SessionEvent ι)
    : Sessions Command Command.Result Fault Server ι Unit :=
  Sessions.step (Server.exec P) (fun _ => .error .connection) m ev

-- There are no users at first.
def initialPasswords : Sessions Command Command.Result Fault Server ι Unit :=
  .init (fun i => (calls i).action P) (s.setUsers .empty)

/--
The calls side by side, one command at a time. A command may fail, or its answer may be lost.
-/
def servePasswords : Sessions Command Command.Result Fault Server ι Unit :=
  Run.run (passwordStep P) (initialPasswords P calls s) es

-- The call that sets the password of a user with its next command, be the answer lost or not.
def setsPassword (userId : UserId) (m : Sessions Command Command.Result Fault Server ι Unit)
    (ev : SessionEvent ι)
    : Option ι :=
  match ev.done? with
  | some i =>
    match (m.sessions i).rest with
    | .call c _ =>
      if passwordOwner? c (Server.exec P c m.store).1 = some userId then some i else none
    | _ => none
  | none => none

-- The call that has set the password of a user last.
def lastSetter (userId : UserId) : Option ι :=
  Run.last (passwordStep P) (setsPassword P userId) (initialPasswords P calls s) es

/--
The string most recently set as the password of a user.
-/
def passwordOf (userId : UserId) : Option String :=
  ((lastSetter P calls s es userId).bind (fun i => (calls i).newPassword?)).map Prod.fst

/--
There is a user with that email, and that is the string most recently set as the user's password.
-/
def IsPassword (email password : String) : Prop :=
  ∃ user ∈ (servePasswords P calls s es).store.store.users.rows,
    user.email = email ∧ passwordOf P calls s es user.id = some password

def OpensSession (s : Server) (email password : String) (now : ℕ) : Prop :=
  ∃ session, ((AuthService.login P (some email) (some password) now).serve (Server.exec P) s).1 =
    .ok session

def SendOwn (m : Sessions Command Command.Result Fault Server ι Unit) : Prop :=
  Sessions.AllGuarded (fun i _ c => (calls i).Sends P c) m

variable {P calls s es}

theorem guarded_action (call : PasswordCall)
    : (call.action P).Guarded (fun _ c => call.Sends P c) (fun _ _ => True) [] := by
  apply Prog.guarded_mono (Prog.guarded_of_obeys (fun _ _ _ h => h) (call.obeys_action P))
  intro _ _ _
  trivial

theorem storedHash_passwordStep (m : Sessions Command Command.Result Fault Server ι Unit)
    (ev : SessionEvent ι) (h : SendOwn P calls m) (userId : UserId)
    : storedHash (passwordStep P m ev).store userId =
      (setsPassword P userId m ev).elim (storedHash m.store userId)
        (fun i => (calls i).hashed? P) := by
  unfold passwordStep Sessions.step setsPassword SessionEvent.done?
  cases ev with
  | fail i =>
    dsimp only
    split <;> rfl
  | exec i | lose i =>
    have hi := h i
    dsimp only
    cases hrest : (m.sessions i).rest with
    | call c next =>
      rw [hrest] at hi
      dsimp only
      rw [storedHash_exec hi.1]
      split <;> rfl
    | _ => rfl

theorem storedHash_servePasswords (P : Platform) (calls : ι → PasswordCall) (s : Server)
    (es : List (SessionEvent ι)) (userId : UserId)
    : storedHash (servePasswords P calls s es).store userId =
      (lastSetter P calls s es userId).bind (fun i => (calls i).hashed? P) := by
  have hlast : storedHash (servePasswords P calls s es).store userId =
      (lastSetter P calls s es userId).elim none (fun i => (calls i).hashed? P) :=
    Run.get_run_eq_last (I := SendOwn P calls) (fun m => storedHash m.store userId) _ _
      Sessions.allGuarded_step (fun m ev h => storedHash_passwordStep m ev h userId) es
      (Sessions.allGuarded_init (s := s.setUsers .empty) (fun i => guarded_action (calls i)))
  rw [hlast]
  cases lastSetter P calls s es userId <;> rfl

theorem uniqueEmails_servePasswords : UniqueEmails (servePasswords P calls s es).store := by
  have hprograms : ∀ i, ((calls i).action P).Obeys (fun c => ∃ call : PasswordCall, call.Sends P c)
      (fun _ => True) (fun _ => True) := by
    intro i
    exact Prog.obeys_mono ((calls i).obeys_action P) (fun c hc => ⟨calls i, hc⟩) (fun _ h => h)
      (fun _ h => h)
  apply Sessions.store_run_of_obeys hprograms
  . rintro c s ⟨call, hc⟩ h
    exact uniqueEmails_exec hc h
  . exact List.nodup_nil

theorem hashed_of_user {user : User}
    (h : user ∈ (servePasswords P calls s es).store.store.users.rows)
    : ∃ password salt, passwordOf P calls s es user.id = some password
        ∧ user.password = P.hash password salt := by
  have hstored := storedHash_servePasswords P calls s es user.id
  unfold storedHash at hstored
  rw [Table.find?_of_mem h] at hstored
  unfold passwordOf
  cases hsetter : lastSetter P calls s es user.id with
  | none =>
    rw [hsetter] at hstored
    cases hstored
  | some i =>
    rw [hsetter] at hstored
    change some user.password = (calls i).newPassword?.map _ at hstored
    change ∃ password salt, (calls i).newPassword?.map Prod.fst = some password ∧ _
    rcases Option.map_eq_some_iff.mp hstored.symm with ⟨⟨password, salt⟩, hnew, hhash⟩
    rw [hnew]
    exact ⟨password, salt, rfl, hhash.symm⟩

theorem IsPassword.unique {email password password' : String}
    (h : IsPassword P calls s es email password) (h' : IsPassword P calls s es email password')
    : password = password' := by
  rcases h with ⟨user, huser, hemail, hpassword⟩
  rcases h' with ⟨user', huser', hemail', hpassword'⟩
  have heq : user = user' :=
    List.inj_on_of_nodup_map uniqueEmails_servePasswords huser huser' (hemail.trans hemail'.symm)
  rw [heq, hpassword'] at hpassword
  exact (Option.some.inj hpassword).symm

theorem opensSession_iff_compare {s : Server} (h : UniqueEmails s) {email password : String} {now : ℕ}
    : OpensSession P s email password now ↔
      ∃ user ∈ s.store.users.rows, user.email = email ∧ P.compare password user.password = true := by
  have hcredentials : OpensSession P s email password now ↔
      (credentials? P s (some email) (some password)).isSome := by
    unfold OpensSession
    rcases serve_login P s (some email) (some password) now with
      ⟨user, _, hcredentials, hserve⟩ | ⟨hcredentials, fault, hserve, _⟩
    . simp [hcredentials, hserve]
    . simp [hcredentials, hserve]
  rw [hcredentials]
  unfold credentials?
  simp only [Option.bind_eq_bind, Option.bind_some]
  constructor
  . intro hsome
    cases hfind : s.store.users.rows.find? (·.email = email) with
    | none => simp [hfind] at hsome
    | some user =>
      refine ⟨user, List.mem_of_find?_eq_some hfind, by simpa using List.find?_some hfind, ?_⟩
      by_contra hcompare
      simp [hfind, hcompare] at hsome
  . rintro ⟨user, huser, hemail, hcompare⟩
    cases hfind : s.store.users.rows.find? (·.email = email) with
    | none =>
      rw [List.find?_eq_none] at hfind
      exact absurd hemail (by simpa using hfind user huser)
    | some user' =>
      -- Emails are unique, so the user that is found is this one.
      have hemail' : user'.email = email := by simpa using List.find?_some hfind
      have : user' = user := List.inj_on_of_nodup_map h (List.mem_of_find?_eq_some hfind) huser
        (hemail'.trans hemail.symm)
      simp [this, hcompare]

theorem opensSession_iff (hP : P.Bcrypt) {email password : String} (now : ℕ)
    : OpensSession P (servePasswords P calls s es).store email password now ↔
      ∃ password', IsPassword P calls s es email password'
        ∧ hashedBytes password = hashedBytes password' := by
  rw [opensSession_iff_compare uniqueEmails_servePasswords]
  constructor
  . rintro ⟨user, huser, hemail, hcompare⟩
    rcases hashed_of_user huser with ⟨password', salt, hpassword, hhash⟩
    rw [hhash] at hcompare
    exact ⟨password', ⟨user, huser, hemail, hpassword⟩, (hP _ _ _).mp hcompare⟩
  . rintro ⟨password', ⟨user, huser, hemail, hpassword⟩, hbytes⟩
    rcases hashed_of_user huser with ⟨password'', salt, hpassword', hhash⟩
    cases hpassword.symm.trans hpassword'
    refine ⟨user, huser, hemail, ?_⟩
    rw [hhash]
    exact (hP _ _ _).mpr hbytes

/--
A login is as it should be exactly if it does not try a string that differs from the password, but only
where bcryptjs does not look.
-/
theorem opens_session_iff_password_iff (hP : P.Bcrypt) (calls : ι → PasswordCall) (s : Server)
    (es : List (SessionEvent ι)) (email password : String) (now : ℕ)
    : (OpensSession P (servePasswords P calls s es).store email password now ↔
          IsPassword P calls s es email password) ↔
        ∀ password', IsPassword P calls s es email password' →
          hashedBytes password = hashedBytes password' → password = password' := by
  rw [opensSession_iff hP]
  constructor
  . intro h password' hpassword' hbytes
    exact (h.mp ⟨password', hpassword', hbytes⟩).unique hpassword'
  . intro h
    constructor
    . rintro ⟨password', hpassword', hbytes⟩
      rw [h password' hpassword' hbytes]
      exact hpassword'
    . intro hpassword
      exact ⟨password, hpassword, rfl⟩

/--
All logins are as they should be exactly if the passwords leave room for one more byte.
-/
theorem opens_session_exactly_iff_short (hP : P.Bcrypt)
    : (∀ email password now, OpensSession P (servePasswords P calls s es).store email password now ↔
          IsPassword P calls s es email password) ↔
        ∀ email password, IsPassword P calls s es email password →
          password.toByteArray.size < 72 := by
  constructor
  . intro h email password hpassword
    by_contra hlong
    have hopens := (opensSession_iff hP 0).mpr
      ⟨password, hpassword, hashedBytes_append (by omega) "x"⟩
    have heq : password ++ "x" = password := ((h _ _ _).mp hopens).unique hpassword
    have := congrArg String.length heq
    rw [String.length_append] at this
    simp at this
  . intro h email password now
    rw [opens_session_iff_password_iff hP]
    intro password' hpassword' hbytes
    exact eq_of_hashedBytes hbytes (h email password' hpassword')

end Runs

/-!
A platform whose hashes spell out the bytes that bcryptjs looks at.
-/

def bcryptPlatform : Platform :=
  {
    samplePlatform with
    hash := fun password _ => .ofList ((hashedBytes password).map Char.ofUInt8)
    compare := fun password hashed => hashed = .ofList ((hashedBytes password).map Char.ofUInt8)
  }

theorem ofUInt8_injective : Function.Injective Char.ofUInt8 := by
  intro b b' h
  have hval : b.toUInt32 = b'.toUInt32 := congrArg Char.val h
  exact UInt8.toUInt32_inj.mp hval

theorem bcryptPlatform_bcrypt : bcryptPlatform.Bcrypt := by
  intro password password' salt
  simp only [bcryptPlatform, decide_eq_true_eq, String.ofList_inj]
  rw [(List.map_injective_iff.mpr ofUInt8_injective).eq_iff, eq_comm]

-- 72 bytes and one more.
def longPassword (c : Char) : String :=
  .ofList (List.replicate 72 'a' ++ [c])

def longRegister (_ : Unit) : PasswordCall :=
  .register "Alice" "alice@example.com" (longPassword '1') none
    { id := "alice", customerId := "customer", salt := "salt" }

def noUsers : Server := sampleServer [] List.nodup_nil

def longRun : List (SessionEvent Unit) := [.exec (), .exec ()]

theorem long_password_set
    : IsPassword bcryptPlatform longRegister noUsers longRun "alice@example.com" (longPassword '1') :=
  ⟨_, List.mem_singleton_self _, rfl, rfl⟩

theorem long_password_not_told_apart
    : (OpensSession bcryptPlatform (servePasswords bcryptPlatform longRegister noUsers longRun).store
          "alice@example.com" (longPassword '2') 0 ↔
        IsPassword bcryptPlatform longRegister noUsers longRun "alice@example.com" (longPassword '2')) ↔
      ∀ password',
        IsPassword bcryptPlatform longRegister noUsers longRun "alice@example.com" password' →
        hashedBytes (longPassword '2') = hashedBytes password' → longPassword '2' = password' :=
  opens_session_iff_password_iff bcryptPlatform_bcrypt longRegister noUsers longRun _ _ 0

theorem wrong_password_opens_session
    : ((registerSchema bcryptPlatform).parse (some (.object
          [
            ("fullName", .string "Alice"),
            ("email", .string "alice@example.com"),
            ("password", .string (longPassword '1'))
          ]))).isSome
        ∧ ((loginSchema bcryptPlatform).parse (some (.object
          [
            ("email", .string "alice@example.com"),
            ("password", .string (longPassword '2'))
          ]))).isSome
        ∧ ¬(OpensSession bcryptPlatform
              (servePasswords bcryptPlatform longRegister noUsers longRun).store
              "alice@example.com" (longPassword '2') 0 ↔
            IsPassword bcryptPlatform longRegister noUsers longRun
              "alice@example.com" (longPassword '2')) := by
  refine ⟨by decide +kernel, by decide +kernel, ?_⟩
  intro h
  have hbytes : hashedBytes (longPassword '2') = hashedBytes (longPassword '1') := by decide +kernel
  have hopens := (opensSession_iff bcryptPlatform_bcrypt 0).mpr
    ⟨longPassword '1', long_password_set, hbytes⟩
  have heq := (h.mp hopens).unique long_password_set
  exact absurd heq (by decide +kernel)

end Banking.Http
