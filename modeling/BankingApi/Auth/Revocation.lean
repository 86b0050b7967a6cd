import BankingApi.Auth.Sessions
import BankingApi.Http.Authorization
import BankingApi.Http.Secrecy
import BankingApi.Http.Validation

/-!
This module contains what becomes of access tokens when their user logs out, while any number of requests
are served side by side.
-/

namespace Banking.Http

section Blind

variable {P : Platform} {request : Request} {α : Type}

def forgetSession (u : User) : User :=
  { u with refreshToken := none }

theorem forgetSession_erases : Erases forgetSession where
  id _ := rfl
  customerId _ := rfl
  email _ := rfl
  apply := by
    intro change u
    cases change <;> rfl

/--
The action goes on in the same way whatever the refresh tokens are.
-/
def BlindToSessions (p : Action α) : Prop :=
  p.Blind Command.overlooksSecrets (fun c r => r.map (c.erase forgetSession))

theorem erase_erase_of_absorbs {e e' : User → User} (h : ∀ u, e (e' u) = e u) (c : Command)
    (a : c.Value)
    : c.erase e (c.erase e' a) = c.erase e a := by
  have hcomp : e ∘ e' = e := funext h
  cases c <;> simp [Command.erase, h, hcomp]

theorem blindToSessions_of_blindToSecrets {p : Action α} (h : BlindToSecrets p)
    : BlindToSessions p := by
  apply Prog.blind_mono h
  . intro c hc
    exact hc
  . intro c r
    unfold Command.scrub
    rw [scrubValue_eq_erase]
    cases r with
    | error e => rfl
    | ok a =>
      have habsorbs : ∀ u, eraseSecrets (forgetSession u) = eraseSecrets u := fun _ => rfl
      exact congrArg Except.ok (erase_erase_of_absorbs habsorbs c a)

theorem blindToSessions_query_bind {c : Command} {f : c.Value → Action α} (hc : c.overlooksSecrets)
    (hf : ∀ a, f a = f (c.erase forgetSession a)) (hblind : ∀ a, BlindToSessions (f a))
    : BlindToSessions (query c >>= f) :=
  blind_query_bind_of_values hc hf hblind

-- A login looks at the password that is stored, but not at the refresh token.
theorem blindToSessions_login (body : Option Json) (now : ℕ)
    : BlindToSessions (AuthController.login P body now) := by
  apply Prog.blind_bind (blindToSessions_of_blindToSecrets (blind_destructure body))
  intro body
  apply Prog.blind_bind
  . apply Prog.blind_bind (blindToSessions_of_blindToSecrets (blind_required _))
    intro email
    apply blindToSessions_query_bind
    . trivial
    . intro user
      cases user <;> rfl
    . intro user
      cases user with
      | none => trivial
      | some user =>
        apply Prog.blind_bind
        . apply Prog.blind_bind (blindToSessions_of_blindToSecrets (blind_required _))
          intro password
          trivial
        . intro isPasswordValid
          split
          . apply blindToSessions_query_bind
            . trivial
            . intro _
              rfl
            . intro _
              trivial
          . trivial
  . intro session
    trivial

theorem blindToSessions_app (hroute : request.route ≠ .refresh)
    : BlindToSessions (app P request) := by
  by_cases hlogin : request.route = .login
  . unfold app middlewares
    rw [Prog.bind_bind]
    apply Prog.blind_bind (blindToSessions_of_blindToSecrets (blind_guarded request))
    intro user
    cases validated P request with
    | error fault => trivial
    | ok body =>
      change BlindToSessions (handler P request { user := user, body := body })
      unfold handler
      rw [hlogin]
      exact blindToSessions_login body _
  . exact blindToSessions_of_blindToSecrets (blind_app (by simp [hlogin, hroute]))

end Blind

section Logout

variable {P : Platform} {request : Request} {s s' : Server}

-- The command touches nothing but the refresh token of a user.
def Command.endsSession (c : Command) : Prop :=
  match c with
  | .findUserById _ => True
  | .updateUser _ (.refreshToken _) => True
  | _ => False

theorem obeys_logoutApp (hroute : request.route = .logout)
    : (app P request).Obeys Command.endsSession (fun _ => True) (fun _ => True) := by
  have hguarded : (guarded P request).Obeys Command.endsSession (fun _ => True) (fun _ => True) :=
    obeys_guarded (fun _ => trivial) (fun _ _ => trivial) (fun _ => trivial) request
  unfold app middlewares
  rw [Prog.bind_bind]
  apply Prog.obeys_bind hguarded
  intro user
  cases validated P request with
  | error fault => trivial
  | ok body =>
    change (handler P request { user := user, body := body }).Obeys _ _ _
    unfold handler userHandler
    rw [hroute]
    cases user with
    | none => trivial
    | some user =>
      refine ⟨trivial, ?_⟩
      intro r
      cases r <;> trivial

theorem alikeUpTo_endsSession {c : Command} (hc : c.endsSession) (h : AlikeUpTo forgetSession s s')
    : AlikeUpTo forgetSession (Server.exec P c s).2 s' := by
  cases c
  case findUserById => exact h
  case updateUser id change =>
    cases change with
    | refreshToken token =>
      cases hfind : s.store.users.find? id with
      | none =>
        rw [exec_updateUser_of_not_find? P hfind]
        exact h
      | some row =>
        rw [exec_updateUser_of_find? P hfind]
        have hrows : (s.store.users.update id (UserChange.refreshToken token).apply
            (UserChange.id_apply _)).rows.map forgetSession = s.store.users.rows.map forgetSession :=
          Table.map_update _ _ (fun _ => rfl)
        exact ⟨hrows.trans h.users, h.rest⟩
    | _ => cases hc
  all_goals cases hc

end Logout

section Issued

variable {P : Platform} {request : Request}

/--
A login that answers with tokens has read the user they are for.
-/
def IssuesTokens (P : Platform) (now : ℕ) (history : History) (response : Response) : Prop :=
  ∃ email row, ⟨.findUserByEmail email, .ok (some row)⟩ ∈ history
    ∧ response =
      sendSuccess "Login successful"
        (.session (sanitizeUser row) (generateAccessToken P (tokenPayload row) now)
          (generateRefreshToken P (tokenPayload row) now))
        200

theorem guarded_login (body : Option Json) (now : ℕ)
    : (AuthController.login P body now).Guarded (Entitled P request) (IssuesTokens P now) [] := by
  apply Prog.guarded_bind
  unfold destructure
  split
  . trivial
  . trivial
  . next body _ =>
    apply Prog.guarded_bind
    unfold AuthService.login
    cases stringOf body "email" with
    | none => trivial
    | some email =>
      rw [required_some_bind]
      apply guarded_query_bind
      . trivial
      . intro user
        cases user with
        | none => trivial
        | some user =>
          cases stringOf body "password" with
          | none => trivial
          | some password =>
            change Prog.Guarded _ _ (if _ then _ else _) _
            split
            . apply guarded_query_bind
              . trivial
              . intro _
                exact ⟨email, user, by simp, rfl⟩
            . trivial

theorem guarded_app_login (P : Platform) (request : Request)
    : (app P request).Guarded (Entitled P request)
        (fun history response =>
          request.route = .login → IssuesTokens P request.draw.now history response)
        [] := by
  by_cases hlogin : request.route = .login
  . unfold app middlewares guarded
    rw [hlogin]
    cases validated P request with
    | error fault => trivial
    | ok body =>
      change (handler P request { user := none, body := body }).Guarded _ _ _
      unfold handler
      rw [hlogin]
      apply Prog.guarded_mono (guarded_login body request.draw.now)
      intro history response h _
      exact h
  . apply Prog.guarded_mono (guarded_app P request)
    intro history response _ h
    exact absurd h hlogin

end Issued

section Presented

variable {P : Platform} {request : Request} {s : Server}

/--
`authenticate` sends 401, and that is the answer to the request.
-/
def Refused (P : Platform) (s : Server) (request : Request) : Prop :=
  ∃ response, (authenticate P request).serve (Server.exec P) s = (.error (.sent response), s)
    ∧ response.status = 401 ∧ s.serve P request = (response, s)

theorem serve_of_not_authenticated {fault : Fault} (hguard : request.route.guard ≠ .open)
    (h : (authenticate P request).serve (Server.exec P) s = (.error fault, s))
    : s.serve P request = (fault.response, s) := by
  have happ : (app P request).serve (Server.exec P) s = (.error fault, s) := by
    unfold app middlewares guarded
    simp only [Prog.bind_bind]
    cases hroute : request.route.guard with
    | «open» => exact absurd hroute hguard
    | authenticated =>
      dsimp only
      rw [Prog.bind_bind, Prog.serve_bind, h]
    | authorized allowedRoles =>
      dsimp only
      rw [Prog.bind_bind, Prog.serve_bind, h]
  unfold Server.serve
  rw [happ]
  rfl

/--
A token that was signed for a user tells `authenticate` nothing but who that is, until it expires.
-/
theorem serve_authenticate_of_signed (hP : P.Lawful) {payload : TokenPayload} {issuedAt : ℕ} {row : User}
    (htoken : request.bearerToken? = some (generateAccessToken P payload issuedAt))
    (hrow : s.store.users.find? payload.id = some row)
    : (authenticate P request).serve (Server.exec P) s =
      if issuedAt + 15 * 60 ≤ request.draw.now then
        (.error (.sent (sendError "Access token has expired" [] 401)), s)
      else if row.status ∈ [UserStatus.BLOCKED, .LOCKED, .INACTIVE] then
        (.error (.sent (sendError "Access denied. Account is compromised or suspended." [] 403)), s)
      else
        (.ok (.ofUser row), s) := by
  unfold authenticate
  rw [htoken]
  dsimp only
  unfold verifyAccessToken generateAccessToken
  rw [hP.verify_sign]
  by_cases hexpired : issuedAt + 15 * 60 ≤ request.draw.now
  . rw [if_pos hexpired, if_neg (by omega)]
    rfl
  . rw [if_neg hexpired, if_pos (by omega)]
    dsimp only [TokenPayload.claims, Option.bind_some, Json.string?]
    rw [required_some_bind, UserRepository.serve_findUserById, hrow]
    dsimp only
    split <;> rfl

theorem refused_iff_expired (hP : P.Lawful) {payload : TokenPayload} {issuedAt : ℕ}
    (hguard : request.route.guard ≠ .open)
    (htoken : request.bearerToken? = some (generateAccessToken P payload issuedAt))
    (hrow : (s.store.users.find? payload.id).isSome)
    : Refused P s request ↔ issuedAt + 15 * 60 ≤ request.draw.now := by
  rcases Option.isSome_iff_exists.mp hrow with ⟨row, hrow⟩
  have hserve := serve_authenticate_of_signed hP htoken hrow
  constructor
  . rintro ⟨response, hrefused, hstatus, _⟩
    rw [hserve] at hrefused
    by_contra hlater
    rw [if_neg hlater] at hrefused
    split at hrefused
    . cases hrefused
      cases hstatus
    . cases hrefused
  . intro hexpired
    rw [if_pos hexpired] at hserve
    exact ⟨_, hserve, rfl, serve_of_not_authenticated hguard hserve⟩

end Presented

section Runs

variable {ι : Type} [DecidableEq ι] (P : Platform) (requests : ι → Request) (s : Server)

-- The login has been answered with an access token for the user.
def Issued (es : List (SessionEvent ι)) (i : ι) (userId : UserId) (token : String) : Prop :=
  (requests i).route = .login
    ∧ ∃ user refreshToken, Json.lookup user "id" = some (.string userId)
      ∧ ((serveAll P requests s es).sessions i).rest =
        .ret (sendSuccess "Login successful" (.session user token refreshToken) 200)

def LoggedOut (es : List (SessionEvent ι)) (j : ι) (userId : UserId) : Prop :=
  (requests j).route = .logout ∧ (requests j).subjectId? P = some userId
    ∧ ((serveAll P requests s es).sessions j).rest =
      .ret (sendSuccess "Logged out successfully" (.json (.object [])) 200)

-- The login was answered before the logout began.
def IssuedBefore (es : List (SessionEvent ι)) (j i : ι) (userId : UserId) (token : String) : Prop :=
  ∃ pre, pre <+: es ∧ Issued P requests s pre i userId token
    ∧ ((serveAll P requests s pre).sessions j).history = []

-- The login began after the logout was answered.
def IssuedAfter (es : List (SessionEvent ι)) (j i : ι) (userId : UserId) (token : String) : Prop :=
  Issued P requests s es i userId token
    ∧ ∃ pre, pre <+: es ∧ (∃ self, LoggedOut P requests s pre j self)
      ∧ ((serveAll P requests s pre).sessions i).history = []

/--
What a logout has to do with a token that is presented later: it ends those that its user was issued
before, and the run might as well be without it for all others.
-/
structure EndsSession (es : List (SessionEvent ι)) (j : ι) (userId : UserId) (request : Request)
    : Prop where
  refused : ∀ i token, IssuedBefore P requests s es j i userId token →
    request.bearerToken? = some token → Refused P (serveAll P requests s es).store request
  unaffected : ∀ i owner token, Issued P requests s es i owner token →
    owner ≠ userId ∨ IssuedAfter P requests s es j i owner token →
    request.bearerToken? = some token →
    ((authenticate P request).serve (Server.exec P) (serveAll P requests s es).store).1 =
      ((authenticate P request).serve (Server.exec P)
        (serveAll P requests s (Sessions.purge j es)).store).1

variable {P requests s} {es : List (SessionEvent ι)} {i j : ι} {userId : UserId} {token : String}

theorem isSome_find?_kept {pre : List (SessionEvent ι)} (hle : pre <+: es)
    (h : ((serveAll P requests s pre).store.store.users.find? userId).isSome)
    : ((serveAll P requests s es).store.store.users.find? userId).isSome :=
  serveAll_kept (Q := fun store => (store.users.find? userId).isSome)
    (fun hexecuted => hexecuted.user_kept) hle h

theorem issuesTokens_of_ret {response : Response} (hlogin : (requests i).route = .login)
    (hrest : ((serveAll P requests s es).sessions i).rest = .ret response)
    : IssuesTokens P (requests i).draw.now ((serveAll P requests s es).sessions i).history
        response := by
  have hguarded : Sessions.AllGuardedTo (fun i => Entitled P (requests i))
      (fun i history response => (requests i).route = .login →
        IssuesTokens P (requests i).draw.now history response) (serveAll P requests s es) :=
    Sessions.allGuardedTo_run es (fun i => guarded_app_login P (requests i))
  have hi := hguarded i
  rw [hrest] at hi
  exact hi hlogin

/--
A token is issued for a user who is there, and stays.
-/
theorem Issued.signed (h : Issued P requests s es i userId token)
    : ∃ payload, payload.id = userId
        ∧ token = generateAccessToken P payload (requests i).draw.now
        ∧ ((serveAll P requests s es).store.store.users.find? userId).isSome := by
  rcases h with ⟨hlogin, user, refreshToken, hid, hrest⟩
  rcases issuesTokens_of_ret hlogin hrest with ⟨email, row, hread, hresponse⟩
  simp only [sendSuccess, Response.mk.injEq, List.cons.injEq, Prod.mk.injEq, Data.session.injEq,
    true_and, and_true] at hresponse
  rcases hresponse with ⟨rfl, rfl, _⟩
  have hrowId : row.id = userId := by
    have : Json.lookup (sanitizeUser row) "id" = some (.string row.id) := rfl
    simpa [this] using hid
  subst hrowId
  refine ⟨tokenPayload row, rfl, rfl, ?_⟩
  rcases List.append_of_mem hread with ⟨history, later, hhistory⟩
  rcases Sessions.answered_of_history_eq hhistory with ⟨pre, _, ⟨hle, hanswer⟩ | ⟨_, hanswer⟩⟩
  . have hfind : (serveAll P requests s pre).store.store.users.rows.find? (·.email = email) = some row :=
      (Except.ok.inj hanswer).symm
    apply isSome_find?_kept ((List.prefix_append _ _).trans hle)
    rw [Table.find?_of_mem (List.mem_of_find?_eq_some hfind)]
    rfl
  . cases hanswer

theorem refused_issued_iff (hP : P.Lawful) {request : Request} (hguard : request.route.guard ≠ .open)
    (hissued : IssuedBefore P requests s es j i userId token)
    (htoken : request.bearerToken? = some token)
    : Refused P (serveAll P requests s es).store request ↔
      (requests i).draw.now + 15 * 60 ≤ request.draw.now := by
  rcases hissued with ⟨pre, hle, hissued, _⟩
  rcases hissued.signed with ⟨payload, rfl, rfl, hrow⟩
  exact refused_iff_expired hP hguard htoken (isSome_find?_kept hle hrow)

/--
Without a logout all other requests go on in the same way, and `authenticate` lets the same requests
through.
-/
theorem unaffected_by_logout (hroutes : ∀ i, (requests i).route ≠ .refresh)
    (hlogout : (requests j).route = .logout) (es : List (SessionEvent ι)) (request : Request)
    : ((authenticate P request).serve (Server.exec P) (serveAll P requests s es).store).1 =
        ((authenticate P request).serve (Server.exec P)
          (serveAll P requests s (Sessions.purge j es)).store).1
        ∧ ∀ i, i ≠ j →
          ((serveAll P requests s (Sessions.purge j es)).sessions i).rest =
            ((serveAll P requests s es).sessions i).rest := by
  have hexec : ∀ c s s', Command.overlooksSecrets c → AlikeUpTo forgetSession s s' →
      AlikeUpToAfter forgetSession c (Server.exec P c s) (Server.exec P c s') :=
    fun _ _ _ hc h => alikeUpTo_exec forgetSession_erases hc h
  have hpurged : Sessions.Purged Command.overlooksSecrets Command.endsSession
      (fun c r => r.map (c.erase forgetSession)) (AlikeUpTo forgetSession) j
      (serveAll P requests s es) (serveAll P requests s (Sessions.purge j es)) := by
    apply Sessions.purged_run _ hexec
    . exact obeys_logoutApp hlogout
    . intro i _
      exact blindToSessions_app (hroutes i)
    . exact .refl forgetSession s
    . intro c s s'
      exact alikeUpTo_endsSession
  constructor
  . have hblind : BlindToSessions (authenticate P request) :=
      blindToSessions_of_blindToSecrets (blind_authenticate request)
    exact (Prog.serve_of_blind hexec hblind hpurged.store).1
  . exact hpurged.rest

/--
A logout ends no session at once: the access tokens of its user are good until they expire.
-/
theorem endsSession_iff_expired (hP : P.Lawful) (hroutes : ∀ i, (requests i).route ≠ .refresh)
    (hlogout : LoggedOut P requests s es j userId) {request : Request}
    (hguard : request.route.guard ≠ .open)
    : EndsSession P requests s es j userId request ↔
      ∀ i token, IssuedBefore P requests s es j i userId token →
        request.bearerToken? = some token →
        (requests i).draw.now + 15 * 60 ≤ request.draw.now := by
  constructor
  . intro h i token hissued htoken
    exact (refused_issued_iff hP hguard hissued htoken).mp (h.refused i token hissued htoken)
  . intro h
    constructor
    . intro i token hissued htoken
      exact (refused_issued_iff hP hguard hissued htoken).mpr (h i token hissued htoken)
    . intro _ _ _ _ _ _
      exact (unaffected_by_logout hroutes hlogout.1 es request).1

end Runs

section Sample

-- Without a space in them, so that the tokens of users without one are bearer tokens.
def bearerFields (payload : TokenPayload) (secret : String) (iat exp : ℕ) : List (List Char) :=
  [
    secret.toList, payload.id.toList, payload.email.toList, payload.role.toString.toList,
    Nat.toDigits 10 iat, Nat.toDigits 10 exp
  ]

def bearerPlatform : Platform :=
  {
    samplePlatform with
    sign := fun payload secret iat exp =>
      .ofList ((bearerFields payload secret iat exp).map encode).flatten
    verify := fun token secret now =>
      match decodeAll 6 token.toList with
      | some [secret', id, email, role, _, exp] =>
        if secret' ≠ secret.toList then
          .error .JsonWebTokenError
        else if now < Nat.ofDigitChars 10 exp 0 then
          .ok {
            id := some (.string (.ofList id))
            email := some (.string (.ofList email))
            role := some (.string (.ofList role))
          }
        else
          .error .TokenExpiredError
      | _ => .error .JsonWebTokenError
  }

theorem bearerPlatform_lawful : bearerPlatform.Lawful where
  sign_ne_empty := by
    intro payload secret iat exp h
    have := congrArg String.toList h
    cases hsecret : secret.toList <;> simp [bearerPlatform, bearerFields, hsecret, encode] at this
  verify_sign := by
    intro payload secret iat exp now
    have hdecode : decodeAll 6 ((bearerFields payload secret iat exp).map encode).flatten =
        some (bearerFields payload secret iat exp) :=
      decodeAll_encode (bearerFields payload secret iat exp)
    simp only [bearerPlatform, String.toList_ofList, hdecode]
    simp [bearerFields, TokenPayload.claims]

def sampleToken : String :=
  generateAccessToken bearerPlatform (tokenPayload (sampleUser "alice")) 0

-- The first session logs in, the second logs out.
def loginAndLogout (logout : Bool) : Request :=
  if logout then
    sampleRequest .logout sampleToken none
  else
    sampleRequest .login ""
      (some (.object [("email", .string "alice@example.com"), ("password", .string "alice")]))

def loginThenLogout : List (SessionEvent Bool) :=
  [.exec false, .exec false, .exec true, .exec true]

deriving instance DecidableEq for Data, Response

theorem ret_of_returned? {α : Type} {p : Action α} {a : α}
    (h : (match p with | .ret a => some a | _ => none) = some a)
    : p = .ret a := by
  split at h <;> simp_all

theorem loginThenLogout_loggedOut
    : LoggedOut bearerPlatform loginAndLogout sampleAlice loginThenLogout true "alice" := by
  refine ⟨rfl, by decide +kernel, ret_of_returned? ?_⟩
  decide +kernel

theorem loginThenLogout_issuedBefore
    : IssuedBefore bearerPlatform loginAndLogout sampleAlice loginThenLogout true false "alice"
        sampleToken := by
  refine ⟨[.exec false, .exec false], ⟨[.exec true, .exec true], rfl⟩, ?_, rfl⟩
  refine ⟨rfl, sanitizeUser (sampleUser "alice"),
    generateRefreshToken bearerPlatform (tokenPayload (sampleUser "alice")) 0, rfl,
    ret_of_returned? ?_⟩
  decide +kernel

theorem endsSession_iff_expired_after_loginThenLogout
    : EndsSession bearerPlatform loginAndLogout sampleAlice loginThenLogout true "alice"
          (sampleRequest .profile sampleToken none) ↔
        ∀ i token,
          IssuedBefore bearerPlatform loginAndLogout sampleAlice loginThenLogout true i "alice" token →
          (sampleRequest .profile sampleToken none).bearerToken? = some token →
          (loginAndLogout i).draw.now + 15 * 60 ≤
            (sampleRequest .profile sampleToken none).draw.now := by
  have hroutes : ∀ logout, (loginAndLogout logout).route ≠ .refresh := by
    intro logout
    cases logout <;> exact Route.noConfusion
  exact endsSession_iff_expired bearerPlatform_lawful hroutes loginThenLogout_loggedOut
    Guard.noConfusion

theorem token_outlives_logout
    : LoggedOut bearerPlatform loginAndLogout sampleAlice loginThenLogout true "alice"
        ∧ ¬EndsSession bearerPlatform loginAndLogout sampleAlice loginThenLogout true "alice"
          (sampleRequest .profile sampleToken none) := by
  refine ⟨loginThenLogout_loggedOut, ?_⟩
  intro h
  have htoken : (sampleRequest .profile sampleToken none).bearerToken? = some sampleToken := by
    decide +kernel
  have hrefused := h.refused false sampleToken loginThenLogout_issuedBefore htoken
  have hexpired := (refused_issued_iff bearerPlatform_lawful Guard.noConfusion
    loginThenLogout_issuedBefore htoken).mp hrefused
  exact absurd hexpired (by decide)

end Sample

end Banking.Http
