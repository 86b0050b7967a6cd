import BankingApi.Http.Routes

/-!
This module contains the sessions that `AuthService` opens, renews and ends, and which refresh tokens are
still good for something.
-/

namespace Banking.Http

def TokenPayload.claims (payload : TokenPayload) : Claims where
  id := some (.string payload.id)
  email := some (.string payload.email)
  role := some (.string payload.role.toString)

/--
What jsonwebtoken documents: signing is a function of the payload, `iat` and `exp`, and a token verifies
until it expires.
-/
structure Platform.Lawful (P : Platform) : Prop where
  sign_ne_empty : ∀ payload secret iat exp, P.sign payload secret iat exp ≠ ""
  verify_sign : ∀ payload secret iat exp now,
    P.verify (P.sign payload secret iat exp) secret now =
      if now < exp then .ok payload.claims else .error .TokenExpiredError

namespace Platform.Lawful

variable {P : Platform}

theorem id_eq (hP : P.Lawful) {payload payload' : TokenPayload} {now now' : ℕ}
    (h : generateRefreshToken P payload now = generateRefreshToken P payload' now')
    : payload.id = payload'.id := by
  have hclaims := hP.verify_sign payload P.JWT_REFRESH_SECRET now (now + 7 * 24 * 60 * 60) 0
  have hclaims' := hP.verify_sign payload' P.JWT_REFRESH_SECRET now' (now' + 7 * 24 * 60 * 60) 0
  rw [if_pos (by omega)] at hclaims hclaims'
  unfold generateRefreshToken at h
  rw [h, hclaims'] at hclaims
  have heq : payload'.claims = payload.claims := by simpa using hclaims
  simpa [TokenPayload.claims, eq_comm] using congrArg Claims.id heq

theorem now_eq (hP : P.Lawful) {payload payload' : TokenPayload} {now now' : ℕ}
    (h : generateRefreshToken P payload now = generateRefreshToken P payload' now')
    : now = now' := by
  have hle : ∀ {payload payload' now now'},
      generateRefreshToken P payload now = generateRefreshToken P payload' now' → now' ≤ now := by
    intro payload payload' now now' h
    have hexpired := hP.verify_sign payload P.JWT_REFRESH_SECRET now (now + 7 * 24 * 60 * 60)
      (now + 7 * 24 * 60 * 60)
    have hclaims := hP.verify_sign payload' P.JWT_REFRESH_SECRET now' (now' + 7 * 24 * 60 * 60)
      (now + 7 * 24 * 60 * 60)
    unfold generateRefreshToken at h
    rw [if_neg (by omega), h, hclaims] at hexpired
    by_contra hlt
    rw [if_pos (by omega)] at hexpired
    cases hexpired
  exact le_antisymm (hle h.symm) (hle h)

end Platform.Lawful

section Calls

variable (P : Platform) (s : Server)

def Server.setRefreshToken (s : Server) (id : UserId) (token : Option String) : Server :=
  s.setUsers (s.store.users.update id (UserChange.refreshToken token).apply
    (UserChange.id_apply _))

-- The user that the email and the password belong to.
def credentials? (email password : Option String) : Option User := do
  let email ← email
  let user ← s.store.users.rows.find? (·.email = email)
  let password ← password
  if P.compare password user.password then some user else none

theorem serve_login (email password : Option String) (now : ℕ)
    : (∃ user ∈ s.store.users.rows, credentials? P s email password = some user
          ∧ (AuthService.login P email password now).serve (Server.exec P) s =
            (.ok {
              user := sanitizeUser user
              accessToken := generateAccessToken P (tokenPayload user) now
              refreshToken := generateRefreshToken P (tokenPayload user) now
            },
            s.setRefreshToken user.id (some (generateRefreshToken P (tokenPayload user) now))))
        ∨ credentials? P s email password = none
          ∧ ∃ fault, (AuthService.login P email password now).serve (Server.exec P) s =
              (.error fault, s)
            ∧ (email.isSome → password.isSome → fault = .auth .InvalidCredentialsError) := by
  unfold credentials? AuthService.login
  cases email with
  | none => exact .inr ⟨rfl, _, rfl, by simp⟩
  | some email =>
    simp only [required_some_bind, UserRepository.serve_findUserByEmail, Option.bind_eq_bind,
      Option.bind_some]
    cases hfind : s.store.users.rows.find? (·.email = email) with
    | none => exact .inr ⟨rfl, _, rfl, by simp⟩
    | some user =>
      cases password with
      | none => exact .inr ⟨rfl, _, rfl, by simp⟩
      | some password =>
        simp only [Option.bind_some]
        cases hcompare : P.compare password user.password with
        | false =>
          refine .inr ⟨by simp, .auth .InvalidCredentialsError, ?_, by simp⟩
          unfold comparePassword
          rw [required_some_bind, hcompare]
          rfl
        | true =>
          have huser := List.mem_of_find?_eq_some hfind
          refine .inl ⟨user, huser, by simp, ?_⟩
          unfold comparePassword
          rw [required_some_bind, hcompare]
          exact UserRepository.serve_updateUser huser _ _

theorem serve_logout {user : User} (huser : user ∈ s.store.users.rows)
    : (AuthService.logout user.id).serve (Server.exec P) s =
      (.ok "Logged out successfully", s.setRefreshToken user.id none) :=
  UserRepository.serve_updateUser huser _ _

theorem serve_refreshAccessToken (P : Platform) (s : Server) (token : String) (now : ℕ)
    : (∃ user, token ≠ "" ∧ (∃ claims, verifyRefreshToken P token now = .ok claims)
          ∧ s.store.users.rows.find? (·.refreshToken = some token) = some user
          ∧ (AuthService.refreshAccessToken P (some token) now).serve (Server.exec P) s =
            (.ok (generateAccessToken P (tokenPayload user) now), s))
        ∨ (token ≠ "" → ∀ claims, verifyRefreshToken P token now = .ok claims →
            s.store.users.rows.find? (·.refreshToken = some token) = none)
          ∧ ∃ error, (AuthService.refreshAccessToken P (some token) now).serve (Server.exec P) s =
            (.error (.auth error), s) := by
  unfold AuthService.refreshAccessToken
  by_cases hempty : token = ""
  . right
    subst hempty
    exact ⟨fun h => absurd rfl h, _, rfl⟩
  . rw [Option.filter_some, if_pos (by simpa using hempty)]
    dsimp only
    cases verifyRefreshToken P token now with
    | error e => exact .inr ⟨by simp, _, rfl⟩
    | ok claims =>
      dsimp only
      rw [UserRepository.serve_findUserByRefreshToken]
      cases s.store.users.rows.find? (·.refreshToken = some token) with
      | none => exact .inr ⟨fun _ _ _ => rfl, _, rfl⟩
      | some user => exact .inl ⟨user, hempty, ⟨claims, rfl⟩, rfl, rfl⟩

theorem serve_refreshAccessToken_eq_ok_iff {P : Platform} {s s' : Server} {token accessToken : String}
    {now : ℕ}
    : (AuthService.refreshAccessToken P (some token) now).serve (Server.exec P) s =
        (.ok accessToken, s') ↔
      token ≠ "" ∧ (∃ claims, verifyRefreshToken P token now = .ok claims)
        ∧ ∃ user, s.store.users.rows.find? (·.refreshToken = some token) = some user
          ∧ accessToken = generateAccessToken P (tokenPayload user) now ∧ s' = s := by
  rcases serve_refreshAccessToken P s token now with
    ⟨user, hne, hverify, hfind, hserve⟩ | ⟨hnone, error, hserve⟩
  . rw [hserve]
    constructor
    . intro h
      cases h
      exact ⟨hne, hverify, user, hfind, rfl, rfl⟩
    . rintro ⟨_, _, user', hfind', rfl, rfl⟩
      cases hfind.symm.trans hfind'
      rfl
  . rw [hserve]
    constructor
    . intro h
      cases h
    . rintro ⟨hne, ⟨claims, hverify⟩, user, hfind, _⟩
      cases (hnone hne claims hverify).symm.trans hfind

theorem serve_refreshAccessToken_snd (token : String) (now : ℕ)
    : ((AuthService.refreshAccessToken P (some token) now).serve (Server.exec P) s).2 = s := by
  rcases serve_refreshAccessToken P s token now with ⟨_, _, _, _, hserve⟩ | ⟨_, _, hserve⟩
  . rw [hserve]
  . rw [hserve]

theorem serve_logout_of_not_mem {userId : UserId}
    (h : ∀ user ∈ s.store.users.rows, user.id ≠ userId)
    : (AuthService.logout userId).serve (Server.exec P) s = (.error (.failure (.prisma .P2025)), s) := by
  have hfind : s.store.users.find? userId = none := by
    rw [Table.find?_eq_none_iff]
    simpa using h
  apply serve_query_of_error
  apply exec_updateUser_of_not_find? P hfind

end Calls

inductive AuthCall where
  | login (email password : Option String) (now : ℕ)
  | logout (userId : UserId)
  | refreshAccessToken (token : String) (now : ℕ)

/--
The server with what has been handed out so far: who has logged in and when, with which refresh tokens,
and which of these were handed to a user who has logged out or in since.
-/
structure SessionRun where
  server : Server
  logins : List (UserId × ℕ)
  handed : List (UserId × String)
  revoked : List (UserId × String)

namespace SessionRun

-- Nobody is logged in at first.
def initial (s : Server) : SessionRun where
  server := s.setUsers (s.store.users.map ({ · with refreshToken := none }) (fun _ => rfl))
  logins := []
  handed := []
  revoked := []

def revoke (m : SessionRun) (userId : UserId) : SessionRun :=
  { m with revoked := m.revoked ++ m.handed.filter (·.1 = userId) }

def step (P : Platform) (m : SessionRun) (call : AuthCall) : SessionRun :=
  match call with
  | .login email password now =>
    match credentials? P m.server email password,
      (AuthService.login P email password now).serve (Server.exec P) m.server with
    | some user, (.ok session, s) =>
      { m.revoke user.id with
        server := s
        logins := m.logins ++ [(user.id, now)]
        handed := m.handed ++ [(user.id, session.refreshToken)]
      }
    | _, (_, s) => { m with server := s }
  | .logout userId =>
    match (AuthService.logout userId).serve (Server.exec P) m.server with
    | (.ok _, s) => { m.revoke userId with server := s }
    | (.error _, s) => { m with server := s }
  | .refreshAccessToken token now =>
    {
      m with
      server := ((AuthService.refreshAccessToken P (some token) now).serve (Server.exec P) m.server).2
    }

/--
A refresh token is good only for the user it was handed to, and no longer once it is revoked.
-/
def Sound (P : Platform) (m : SessionRun) : Prop :=
  ∀ token now accessToken s',
    (AuthService.refreshAccessToken P (some token) now).serve (Server.exec P) m.server =
      (.ok accessToken, s') →
    (∃ user ∈ m.server.store.users.rows,
        accessToken = generateAccessToken P (tokenPayload user) now
          ∧ (user.id, token) ∈ m.handed
          ∧ ∀ userId, (userId, token) ∈ m.handed → userId = user.id)
      ∧ ∀ userId, (userId, token) ∉ m.revoked

-- The call is no login of a user who has logged in within the same second before.
def Fresh (P : Platform) (m : SessionRun) (call : AuthCall) : Prop :=
  ∀ email password now user, call = .login email password now →
    credentials? P m.server email password = some user → (user.id, now) ∉ m.logins

def logIn (P : Platform) (m : SessionRun) (user : User) (now : ℕ) : SessionRun :=
  let token := generateRefreshToken P (tokenPayload user) now
  { m.revoke user.id with
    server := m.server.setRefreshToken user.id (some token)
    logins := m.logins ++ [(user.id, now)]
    handed := m.handed ++ [(user.id, token)]
  }

def logOut (m : SessionRun) (userId : UserId) : SessionRun :=
  { m.revoke userId with server := m.server.setRefreshToken userId none }

inductive Stepped (P : Platform) (m : SessionRun) : AuthCall → SessionRun → Prop where
  | kept {call} (h : Fresh P m call) : Stepped P m call m
  | login {email password now user} (huser : user ∈ m.server.store.users.rows)
      (hcredentials : credentials? P m.server email password = some user)
    : Stepped P m (.login email password now) (m.logIn P user now)
  | logout {user} (huser : user ∈ m.server.store.users.rows)
    : Stepped P m (.logout user.id) (m.logOut user.id)

theorem step_login {P : Platform} {m : SessionRun} {email password : Option String} {user : User}
    (h : credentials? P m.server email password = some user) (now : ℕ)
    : user ∈ m.server.store.users.rows
        ∧ step P m (.login email password now) = m.logIn P user now := by
  rcases serve_login P m.server email password now
    with ⟨user', huser, hcredentials, hserve⟩ | ⟨hnone, _⟩
  . cases h.symm.trans hcredentials
    refine ⟨huser, ?_⟩
    unfold step
    dsimp only
    rw [hserve, hcredentials]
    rfl
  . cases hnone.symm.trans h

theorem step_logout {P : Platform} {m : SessionRun} {userId : UserId}
    (h : ∃ user ∈ m.server.store.users.rows, user.id = userId)
    : step P m (.logout userId) = m.logOut userId := by
  rcases h with ⟨user, huser, rfl⟩
  unfold step
  dsimp only
  rw [serve_logout P m.server huser]
  rfl

theorem step_cases (P : Platform) (m : SessionRun) (call : AuthCall)
    : Stepped P m call (step P m call) := by
  cases call with
  | login email password now =>
    cases hcredentials : credentials? P m.server email password with
    | some user =>
      rcases step_login hcredentials now with ⟨huser, heq⟩
      rw [heq]
      exact .login huser hcredentials
    | none =>
      rcases serve_login P m.server email password now with ⟨_, _, hsome, _⟩ | ⟨_, fault, hserve, _⟩
      . cases hcredentials.symm.trans hsome
      . unfold step
        dsimp only
        rw [hserve, hcredentials]
        apply Stepped.kept
        rintro _ _ _ _ ⟨⟩ hsome
        cases hcredentials.symm.trans hsome
  | logout userId =>
    by_cases hmem : ∃ user ∈ m.server.store.users.rows, user.id = userId
    . rw [step_logout hmem]
      rcases hmem with ⟨user, huser, rfl⟩
      exact .logout huser
    . unfold step
      dsimp only
      rw [serve_logout_of_not_mem P m.server (by simpa using hmem)]
      apply Stepped.kept
      rintro _ _ _ _ ⟨⟩
  | refreshAccessToken token now =>
    unfold step
    dsimp only
    rw [serve_refreshAccessToken_snd]
    apply Stepped.kept
    rintro _ _ _ _ ⟨⟩

structure Inv (P : Platform) (m : SessionRun) : Prop where
  stored : ∀ user ∈ m.server.store.users.rows, ∀ token, user.refreshToken = some token →
    (user.id, token) ∈ m.handed
  logged : ∀ userId token, (userId, token) ∈ m.handed →
    ∃ user ∈ m.server.store.users.rows, user.id = userId ∧ ∃ now, (userId, now) ∈ m.logins
      ∧ token = generateRefreshToken P (tokenPayload user) now
  handed : ∀ userId now, (userId, now) ∈ m.logins →
    ∀ user ∈ m.server.store.users.rows, user.id = userId →
      (userId, generateRefreshToken P (tokenPayload user) now) ∈ m.handed
  revoked : ∀ pair ∈ m.revoked, pair ∈ m.handed

def Clean (m : SessionRun) : Prop :=
  ∀ userId token, (userId, token) ∈ m.revoked →
    ∀ user ∈ m.server.store.users.rows, user.refreshToken ≠ some token

variable {P : Platform} {m : SessionRun}

theorem Inv.id_eq (hP : P.Lawful) (h : Inv P m) {userId userId' : UserId} {token : String}
    (hhanded : (userId, token) ∈ m.handed) (hhanded' : (userId', token) ∈ m.handed)
    : userId = userId' := by
  rcases h.logged userId token hhanded with ⟨user, _, rfl, now, _, heq⟩
  rcases h.logged userId' token hhanded' with ⟨user', _, rfl, now', _, heq'⟩
  exact hP.id_eq (heq.symm.trans heq')

theorem sound_iff_clean (hP : P.Lawful) (h : Inv P m) : Sound P m ↔ Clean m := by
  constructor
  . intro hsound userId token hrevoked user huser htoken
    rcases h.logged userId token (h.revoked _ hrevoked) with ⟨owner, _, _, now, _, heq⟩
    have hfind : (m.server.store.users.rows.find? (·.refreshToken = some token)).isSome := by
      rw [List.find?_isSome]
      exact ⟨user, huser, by simpa using htoken⟩
    rcases Option.isSome_iff_exists.mp hfind with ⟨found, hfound⟩
    have hverify : verifyRefreshToken P token now = .ok (tokenPayload owner).claims := by
      rw [heq]
      unfold verifyRefreshToken generateRefreshToken
      rw [hP.verify_sign, if_pos (by omega)]
    have hne : token ≠ "" := by
      rw [heq]
      apply hP.sign_ne_empty
    have hserve := serve_refreshAccessToken_eq_ok_iff.mpr
      ⟨hne, ⟨_, hverify⟩, found, hfound, rfl, rfl⟩
    exact (hsound _ _ _ _ hserve).2 userId hrevoked
  . intro hclean token now accessToken s' hserve
    rcases serve_refreshAccessToken_eq_ok_iff.mp hserve with ⟨_, _, user, hfind, heq, _⟩
    have huser := List.mem_of_find?_eq_some hfind
    have htoken : user.refreshToken = some token := by simpa using List.find?_some hfind
    have hhanded := h.stored user huser token htoken
    constructor
    . exact ⟨user, huser, heq, hhanded, fun userId hmem => h.id_eq hP hmem hhanded⟩
    . intro userId hrevoked
      exact hclean userId token hrevoked user huser htoken

section SetRefreshToken

variable {s : Server} {id : UserId} {token : Option String}

theorem mem_setRefreshToken {user : User}
    : user ∈ (s.setRefreshToken id token).store.users.rows ↔
      (∃ old ∈ s.store.users.rows, old.id = id ∧ user = { old with refreshToken := token })
        ∨ user ∈ s.store.users.rows ∧ user.id ≠ id :=
  @Table.mem_rows_update _ _ _ _ _ (UserChange.id_apply _) _ _ _

theorem exists_mem_setRefreshToken {user : User} (huser : user ∈ s.store.users.rows)
    : ∃ user' ∈ (s.setRefreshToken id token).store.users.rows,
        tokenPayload user' = tokenPayload user := by
  by_cases hid : user.id = id
  . exact ⟨_, mem_setRefreshToken.mpr (.inl ⟨user, huser, hid, rfl⟩), rfl⟩
  . exact ⟨user, mem_setRefreshToken.mpr (.inr ⟨huser, hid⟩), rfl⟩

theorem exists_mem_of_setRefreshToken {user : User}
    (huser : user ∈ (s.setRefreshToken id token).store.users.rows)
    : ∃ old ∈ s.store.users.rows, tokenPayload old = tokenPayload user := by
  rcases mem_setRefreshToken.mp huser with ⟨old, hold, _, rfl⟩ | ⟨hold, _⟩
  . exact ⟨old, hold, rfl⟩
  . exact ⟨user, hold, rfl⟩

end SetRefreshToken

theorem id_of_payload {user user' : User} (h : tokenPayload user = tokenPayload user')
    : user.id = user'.id := congrArg TokenPayload.id h

theorem mem_revoke {userId : UserId} {pair : UserId × String}
    : pair ∈ (m.revoke userId).revoked ↔ pair ∈ m.revoked ∨ pair ∈ m.handed ∧ pair.1 = userId := by
  simp [revoke]

theorem inv_logOut (h : Inv P m) (userId : UserId) : Inv P (m.logOut userId) where
  stored := by
    intro user huser token htoken
    rcases mem_setRefreshToken.mp huser with ⟨old, _, _, rfl⟩ | ⟨hold, _⟩
    . cases htoken
    . exact h.stored user hold token htoken
  logged := by
    intro userId' token hhanded
    rcases h.logged userId' token hhanded with ⟨user, huser, rfl, now, hlogin, heq⟩
    rcases exists_mem_setRefreshToken huser with ⟨user', huser', hpayload⟩
    exact ⟨user', huser', id_of_payload hpayload, now, hlogin, by rw [hpayload]; exact heq⟩
  handed := by
    rintro _ now hlogin user huser rfl
    rcases exists_mem_of_setRefreshToken huser with ⟨old, hold, hpayload⟩
    rw [← hpayload]
    exact h.handed user.id now hlogin old hold (id_of_payload hpayload)
  revoked := by
    intro pair hpair
    rcases mem_revoke.mp hpair with hpair | ⟨hpair, _⟩
    . exact h.revoked pair hpair
    . exact hpair

theorem inv_logIn (h : Inv P m) {user : User} (huser : user ∈ m.server.store.users.rows) (now : ℕ)
    : Inv P (m.logIn P user now) where
  stored := by
    intro user' huser' token htoken
    apply List.mem_append.mpr
    rcases mem_setRefreshToken.mp huser' with ⟨old, _, hid, rfl⟩ | ⟨hold, _⟩
    . cases htoken
      right
      rw [List.mem_singleton, ← hid]
    . left
      exact h.stored user' hold token htoken
  logged := by
    intro userId' token hhanded
    rcases List.mem_append.mp hhanded with hhanded | hhanded
    . rcases h.logged userId' token hhanded with ⟨user', huser', rfl, now', hlogin, heq⟩
      rcases exists_mem_setRefreshToken huser' with ⟨user'', huser'', hpayload⟩
      exact ⟨user'', huser'', id_of_payload hpayload, now', List.mem_append_left _ hlogin,
        by rw [hpayload]; exact heq⟩
    . cases List.mem_singleton.mp hhanded
      rcases exists_mem_setRefreshToken huser with ⟨user', huser', hpayload⟩
      exact ⟨user', huser', id_of_payload hpayload, now, by simp [logIn], by rw [hpayload]⟩
  handed := by
    rintro _ now' hlogin user' huser' rfl
    apply List.mem_append.mpr
    rcases exists_mem_of_setRefreshToken huser' with ⟨old, hold, hpayload⟩
    rw [← hpayload]
    rcases List.mem_append.mp hlogin with hlogin | hlogin
    . exact .inl (h.handed user'.id now' hlogin old hold (id_of_payload hpayload))
    . right
      simp only [List.mem_singleton, Prod.mk.injEq] at hlogin ⊢
      rcases hlogin with ⟨hid, rfl⟩
      have := Table.eq_of_mem_of_key_eq hold huser ((id_of_payload hpayload).trans hid)
      rw [this]
      exact ⟨hid, rfl⟩
  revoked := by
    intro pair hpair
    apply List.mem_append_left
    rcases mem_revoke.mp hpair with hpair | ⟨hpair, _⟩
    . exact h.revoked pair hpair
    . exact hpair

theorem inv_step (m : SessionRun) (call : AuthCall) (h : Inv P m) : Inv P (step P m call) := by
  have hstep := step_cases P m call
  generalize step P m call = m' at *
  cases hstep with
  | kept => exact h
  | login huser => exact inv_logIn h huser _
  | logout huser => exact inv_logOut h _

theorem inv_initial (s : Server) : Inv P (initial s) where
  stored := by
    intro user huser token htoken
    rcases List.mem_map.mp huser with ⟨old, _, rfl⟩
    cases htoken
  logged := by simp [initial]
  handed := by simp [initial]
  revoked := by simp [initial]

theorem clean_logOut (hP : P.Lawful) (h : Inv P m) (hclean : Clean m) (userId : UserId)
    : Clean (m.logOut userId) := by
  intro userId' token hrevoked user huser htoken
  rcases mem_setRefreshToken.mp huser with ⟨old, _, _, rfl⟩ | ⟨hold, hne⟩
  . cases htoken
  . rcases mem_revoke.mp hrevoked with hrevoked | ⟨hhanded, rfl⟩
    . exact hclean userId' token hrevoked user hold htoken
    . exact hne (h.id_eq hP (h.stored user hold token htoken) hhanded)

theorem clean_logIn_iff (hP : P.Lawful) (h : Inv P m) (hclean : Clean m) {user : User}
    (huser : user ∈ m.server.store.users.rows) (now : ℕ)
    : Clean (m.logIn P user now) ↔ (user.id, now) ∉ m.logins := by
  constructor
  . intro hclean' hlogin
    have hhanded := h.handed user.id now hlogin user huser rfl
    apply hclean' user.id _ (mem_revoke.mpr (.inr ⟨hhanded, rfl⟩)) _
      (mem_setRefreshToken.mpr (.inl ⟨user, huser, rfl, rfl⟩)) rfl
  . intro hfresh userId token hrevoked user' huser' htoken
    have hhanded : (userId, token) ∈ m.handed := by
      rcases mem_revoke.mp hrevoked with hrevoked | ⟨hhanded, _⟩
      . exact h.revoked _ hrevoked
      . exact hhanded
    rcases mem_setRefreshToken.mp huser' with ⟨old, _, _, rfl⟩ | ⟨hold, hne⟩
    . -- The new token has been handed out before.
      cases htoken
      rcases h.logged userId _ hhanded with ⟨owner, howner, rfl, now', hlogin, heq⟩
      have hid : user.id = owner.id := hP.id_eq heq
      cases hP.now_eq heq
      rw [← hid] at hlogin
      exact hfresh hlogin
    . rcases mem_revoke.mp hrevoked with hrevoked | ⟨_, rfl⟩
      . exact hclean userId token hrevoked user' hold htoken
      . exact hne (h.id_eq hP (h.stored user' hold token htoken) hhanded)

theorem sound_step_iff (hP : P.Lawful) (m : SessionRun) (call : AuthCall) (h : Inv P m)
    (hsound : Sound P m)
    : Sound P (step P m call) ↔ Fresh P m call := by
  have hclean := (sound_iff_clean hP h).mp hsound
  rw [sound_iff_clean hP (inv_step m call h)]
  have hstep := step_cases P m call
  generalize step P m call = m' at *
  cases hstep with
  | kept hfresh => exact iff_of_true hclean hfresh
  | @login email password now user huser hcredentials =>
    rw [clean_logIn_iff hP h hclean huser]
    constructor
    . rintro hfresh _ _ _ user' ⟨⟩ hcredentials'
      cases hcredentials.symm.trans hcredentials'
      exact hfresh
    . intro hfresh
      exact hfresh email password now user rfl hcredentials
  | logout huser =>
    apply iff_of_true (clean_logOut hP h hclean _)
    rintro _ _ _ _ ⟨⟩

theorem revoked_stay_revoked_iff (hP : P.Lawful) (s : Server) (calls : List AuthCall)
    : (∀ pre, pre <+: calls → Sound P (Run.run (step P) (initial s) pre)) ↔
      Run.Along (step P) (Fresh P) (initial s) calls := by
  apply Run.forall_prefix_iff_along inv_step (sound_step_iff hP) calls (inv_initial s)
  rw [sound_iff_clean hP (inv_initial s)]
  simp [Clean, initial]

end SessionRun

/-!
A platform that is lawful: its tokens spell out what they are signed for.
-/

def encode (cs : List Char) : List Char :=
  match cs with
  | [] => ['.']
  | c :: cs => '+' :: c :: encode cs

def decode (cs : List Char) : Option (List Char × List Char) :=
  match cs with
  | '.' :: rest => some ([], rest)
  | '+' :: c :: rest => (decode rest).map (fun decoded => (c :: decoded.1, decoded.2))
  | _ => none

theorem decode_encode (cs rest : List Char) : decode (encode cs ++ rest) = some (cs, rest) := by
  induction cs with
  | nil => rfl
  | cons c cs ih => simp [encode, decode, ih]

def decodeAll (n : ℕ) (cs : List Char) : Option (List (List Char)) :=
  match n with
  | 0 => if cs = [] then some [] else none
  | n + 1 => do
    let (field, rest) ← decode cs
    let fields ← decodeAll n rest
    return field :: fields

theorem decodeAll_encode (fields : List (List Char))
    : decodeAll fields.length (fields.map encode).flatten = some fields := by
  induction fields with
  | nil => rfl
  | cons field fields ih => simp [decodeAll, decode_encode, ih]

def signedFields (payload : TokenPayload) (secret : String) (iat exp : ℕ) : List (List Char) :=
  [
    secret.toList, payload.id.toList, payload.email.toList, payload.role.toString.toList,
    List.replicate iat ' ', List.replicate exp ' '
  ]

def signingPlatform : Platform :=
  {
    samplePlatform with
    sign := fun payload secret iat exp =>
      .ofList ((signedFields payload secret iat exp).map encode).flatten
    verify := fun token secret now =>
      match decodeAll 6 token.toList with
      | some [secret', id, email, role, _, exp] =>
        if secret' ≠ secret.toList then
          .error .JsonWebTokenError
        else if now < exp.length then
          .ok {
            id := some (.string (.ofList id))
            email := some (.string (.ofList email))
            role := some (.string (.ofList role))
          }
        else
          .error .TokenExpiredError
      | _ => .error .JsonWebTokenError
  }

theorem signingPlatform_lawful : signingPlatform.Lawful where
  sign_ne_empty := by
    intro payload secret iat exp h
    have := congrArg String.toList h
    cases hsecret : secret.toList <;> simp [signingPlatform, signedFields, hsecret, encode] at this
  verify_sign := by
    intro payload secret iat exp now
    have hdecode : decodeAll 6 ((signedFields payload secret iat exp).map encode).flatten =
        some (signedFields payload secret iat exp) :=
      decodeAll_encode (signedFields payload secret iat exp)
    simp only [signingPlatform, String.toList_ofList, hdecode]
    simp [signedFields, TokenPayload.claims]

namespace SessionRun

def sampleSession : SessionRun :=
  initial (sampleServer ["alice"] (by decide))

def sampleLogin (now : ℕ) : AuthCall :=
  .login (some "alice@example.com") (some "alice") now

theorem later_logins_stay_revoked
    : (∀ pre, pre <+: [sampleLogin 0, .logout "alice", sampleLogin 1] →
          Sound signingPlatform (Run.run (step signingPlatform) sampleSession pre)) ↔
        Run.Along (step signingPlatform) (Fresh signingPlatform) sampleSession
          [sampleLogin 0, .logout "alice", sampleLogin 1] :=
  revoked_stay_revoked_iff signingPlatform_lawful (sampleServer ["alice"] (by decide)) _

theorem same_second_login_revives_token
    : ¬Sound signingPlatform (Run.run (step signingPlatform) sampleSession
        [sampleLogin 0, .logout "alice", sampleLogin 0]) := by
  have hcredentials : credentials? signingPlatform sampleSession.server
      (some "alice@example.com") (some "alice") = some (sampleUser "alice") := rfl
  rcases step_login hcredentials 0 with ⟨huser, hlogin⟩
  have hlogout : step signingPlatform (sampleSession.logIn signingPlatform (sampleUser "alice") 0)
      (.logout "alice") =
        (sampleSession.logIn signingPlatform (sampleUser "alice") 0).logOut "alice" := by
    rcases exists_mem_setRefreshToken huser with ⟨user, hmem, hpayload⟩
    exact step_logout ⟨user, hmem, id_of_payload hpayload⟩
  have hcredentials' : credentials? signingPlatform
      ((sampleSession.logIn signingPlatform (sampleUser "alice") 0).logOut "alice").server
      (some "alice@example.com") (some "alice") = some (sampleUser "alice") := rfl
  rcases step_login hcredentials' 0 with ⟨huser', hlogin'⟩
  have hinv : Inv signingPlatform sampleSession := inv_initial _
  have hinv' := inv_logOut (inv_logIn hinv huser 0) "alice"
  have hrun : Run.run (step signingPlatform) sampleSession
        [sampleLogin 0, .logout "alice", sampleLogin 0] =
      ((sampleSession.logIn signingPlatform (sampleUser "alice") 0).logOut "alice").logIn
        signingPlatform (sampleUser "alice") 0 := by
    rw [Run.run_cons, Run.run_cons, Run.run_cons, Run.run_nil, sampleLogin, hlogin, hlogout, hlogin']
  rw [hrun, sound_iff_clean signingPlatform_lawful (inv_logIn hinv' huser' 0)]
  -- The second login stores the token of the first one, which the logout has revoked.
  intro hclean
  apply hclean "alice" (generateRefreshToken signingPlatform (tokenPayload (sampleUser "alice")) 0)
    _ _ (mem_setRefreshToken.mpr (.inl ⟨_, huser', rfl, rfl⟩)) rfl
  apply mem_revoke.mpr
  left
  apply mem_revoke.mpr
  right
  exact ⟨List.mem_singleton_self _, rfl⟩

end SessionRun

end Banking.Http
