import BankingApi.Auth.Sessions
import BankingApi.Http.Handlers

/-!
This module contains the statuses that deliberate refusals are meant to have, and which of them
`error.middleware.js` reports as a server fault instead.
-/

namespace Banking.Http

open Zod

/--
The status meant for a refusal, by the schema of a route or by an error class that a service throws.
-/
inductive Meant : Fault → ℕ → Prop where
  | rejected {error} : Meant (Validation.rejected error) 400
  | zodError : Meant (.validation ⟨"ZodError", none, none⟩) 400
  | badRequest {message} : Meant (.failure (.app (BadRequestError message))) 400
  | unauthorized {message} : Meant (.failure (.app (UnauthorizedError message))) 401
  | forbidden {message} : Meant (.failure (.app (ForbiddenError message))) 403
  | notFound {message} : Meant (.failure (.app (NotFoundError message))) 404
  | conflict {message} : Meant (.failure (.app (ConflictError message))) 409
  | emailAlreadyExists : Meant (.auth .EmailAlreadyExistsError) 409
  | invalidCredentials : Meant (.auth .InvalidCredentialsError) 401
  | session {message} : Meant (.auth (.UnauthorizedError message)) 401
  | userNotFound : Meant (.auth .UserNotFoundError) 404

theorem Meant.status_eq {fault : Fault} {status : ℕ} (h : Meant fault status)
    : fault.response.status = status ∨ (∃ error, fault = .validation error)
        ∨ ∃ error, fault = .auth error := by
  cases h with
  | rejected =>
    unfold Validation.rejected
    split
    . exact .inr (.inl ⟨_, rfl⟩)
    . exact .inl rfl
  | zodError => exact .inr (.inl ⟨_, rfl⟩)
  | emailAlreadyExists => exact .inr (.inr ⟨_, rfl⟩)
  | invalidCredentials => exact .inr (.inr ⟨_, rfl⟩)
  | session => exact .inr (.inr ⟨_, rfl⟩)
  | userNotFound => exact .inr (.inr ⟨_, rfl⟩)
  | _ => exact .inl rfl

theorem status_auth (error : AuthError) : (Fault.auth error).response.status = 500 := by
  cases error <;> rfl

theorem Meant.ne_500 {fault : Fault} {status : ℕ} (h : Meant fault status) : status ≠ 500 := by
  cases h <;> decide

/--
If the request is refused deliberately, its response has the status meant for the refusal.
-/
def Reported (P : Platform) (s : Server) (request : Request) : Prop :=
  ∀ fault status, ((app P request).serve (Server.exec P) s).1 = .error fault → Meant fault status →
    (s.serve P request).1.status = status

variable {P : Platform} {s : Server} {request : Request}

theorem not_reported {fault : Fault} {status : ℕ}
    (h : ((app P request).serve (Server.exec P) s).1 = .error fault) (hmeant : Meant fault status)
    (hstatus : fault.response.status = 500)
    : ¬Reported P s request := by
  intro hreported
  apply hmeant.ne_500
  rw [← hreported fault status h hmeant, ← hstatus]
  unfold Server.serve
  dsimp only
  rw [h]
  rfl

/--
The schema that the middleware of a route parses something with. The schemas of payments are none of them.
-/
def Request.parses? (P : Platform) (request : Request) : Option (Schema × Option Json) :=
  match request.route with
  | .register => some (registerSchema P, request.body)
  | .login => some (loginSchema P, request.body)
  | .refresh => some (refreshTokenSchema, request.body)
  | .updateMe => some (updateProfileSchema, request.body)
  | .changePassword => some (changePasswordSchema, request.body)
  | .changeStatus _ => some (changeStatusSchema, request.body)
  | .changeRole _ => some (changeRoleSchema, request.body)
  | .createWallet => some (createWalletSchema, request.body)
  | .deposit => some (depositSchema, request.body)
  | .withdraw => some (withdrawSchema, request.body)
  | .transfer => some (transferSchema, request.body)
  | .createAccount => some (createAccountBody, request.body)
  | .getAccount _ => some (getAccountParams, request.params)
  | _ => none

theorem validate_zod (schema : Schema) (value params : Option Json)
    : Validation.validate (.zod schema) value params =
      match schema.parse value with
      | some body => .ok body
      | none => .error (Validation.rejected ⟨none⟩) := by
  change (parse schema value).mapError Validation.rejected = _
  unfold parse
  cases schema.parse value <;> rfl

-- A request either parses with the schema and gets through validation, or is refused in a way that
-- `errorMiddleware` takes for a server fault.
def Refuses (schema : Schema) (value : Option Json) (outcome : Except Fault (Option Json)) : Prop :=
  match schema.parse value with
  | some _ => ∃ body, outcome = .ok body
  | none =>
    ∃ error, outcome = .error (.validation error) ∧ Meant (.validation error) 400
      ∧ (Fault.validation error).response.status = 500

theorem validated_of_parses {schema : Schema} {value : Option Json}
    (h : request.parses? P = some (schema, value))
    : Refuses schema value (validated P request) := by
  have hzod : ∀ schema value params,
      Refuses schema value (Validation.validate (.zod schema) value params) := by
    intro schema value params
    unfold Refuses
    rw [validate_zod]
    cases schema.parse value with
    | some body => exact ⟨body, rfl⟩
    | none => exact ⟨_, rfl, @Meant.rejected ⟨none⟩, rfl⟩
  unfold Request.parses? at h
  unfold validated
  cases hroute : request.route with
  | createAccount =>
    simp only [hroute] at h ⊢
    cases h
    unfold Refuses validate parse
    dsimp only
    cases createAccountBody.parse request.body with
    | some body => exact ⟨body, rfl⟩
    | none => exact ⟨_, rfl, .zodError, rfl⟩
  | getAccount accountId =>
    simp only [hroute] at h ⊢
    cases h
    unfold Refuses validate parse
    dsimp only
    cases getAccountParams.parse request.params with
    | some params => exact ⟨request.body, rfl⟩
    | none => exact ⟨_, rfl, .zodError, rfl⟩
  | _ =>
    simp only [hroute] at h ⊢
    first | cases h; done | (cases h; exact hzod _ _ _)

theorem validated_of_not_parses (h : request.parses? P = none)
    : validated P request = .error (.failure .typeError) ∨ validated P request = .ok request.body := by
  unfold Request.parses? at h
  unfold validated
  cases hroute : request.route with
  | gateway => exact .inl rfl
  | createPayment => exact .inr rfl
  | verifyPayment => exact .inr rfl
  | _ =>
    simp only [hroute] at h
    first | cases h; done | exact .inr rfl

def Request.Invalid (P : Platform) (request : Request) : Prop :=
  ∃ schema value, request.parses? P = some (schema, value) ∧ schema.parse value = none

theorem invalid_of_validated {error : ErrorObject} (h : validated P request = .error (.validation error))
    : request.Invalid P := by
  cases hparses : request.parses? P with
  | none => rcases validated_of_not_parses hparses with heq | heq <;> cases heq.symm.trans h
  | some pair =>
    have hrefuses := validated_of_parses hparses
    unfold Refuses at hrefuses
    split at hrefuses
    . rcases hrefuses with ⟨body, heq⟩
      cases heq.symm.trans h
    . next hnone => exact ⟨_, _, hparses, hnone⟩

theorem validated_eq_error {fault : Fault} (h : validated P request = .error fault)
    : fault = .failure .typeError ∨ ∃ error, fault = .validation error := by
  cases hparses : request.parses? P with
  | none =>
    rcases validated_of_not_parses hparses with heq | heq
    . cases heq.symm.trans h
      exact .inl rfl
    . cases heq.symm.trans h
  | some pair =>
    have hrefuses := validated_of_parses hparses
    unfold Refuses at hrefuses
    split at hrefuses
    . rcases hrefuses with ⟨body, heq⟩
      cases heq.symm.trans h
    . rcases hrefuses with ⟨error, heq, _⟩
      cases heq.symm.trans h
      exact .inr ⟨error, rfl⟩

theorem validated_ne_auth (error : AuthError) : validated P request ≠ .error (.auth error) := by
  intro h
  rcases validated_eq_error h with heq | ⟨_, heq⟩ <;> cases heq

/-!
Refusals by `AuthService`.
-/

theorem string_of_parse {fields : List (String × Schema)} {value : Option Json} {body : Json}
    (h : (Schema.object fields false).parse value = some (some body))
    (hnodup : (fields.map Prod.fst).Nodup) {key : String} {checks : List StringCheck}
    (hmem : (key, .string checks) ∈ fields)
    : ∃ input s, checks.foldlM StringCheck.run input = some s ∧ stringOf body key = some s := by
  rcases Schema.lookup_of_parse_object h hnodup with ⟨input, out, _, heq, _, hfields⟩
  cases heq
  have hfield := hfields _ hmem
  dsimp only at hfield
  unfold stringOf Json.get?
  dsimp only
  generalize Json.lookup input key = value', Json.lookup out key = result at *
  unfold Schema.parse at hfield
  split at hfield <;> try contradiction
  next s hschema =>
    cases hschema
    rw [Option.map_eq_some_iff] at hfield
    rcases hfield with ⟨s', hrun, hresult⟩
    cases hresult
    exact ⟨s, s', hrun, rfl⟩

theorem object_of_parse {fields : List (String × Schema)} {value : Option Json}
    {result : Option Json} (h : (Schema.object fields false).parse value = some result)
    : ∃ out, result = some (.object out) := by
  rcases Schema.parse_object_eq_some h with ⟨_, out, _, _, rfl⟩
  exact ⟨out, rfl⟩

def IsFailure (fault : Fault) : Prop :=
  ∃ f, fault = .failure f

theorem permits_isFailure : Permits (fun _ => True) IsFailure where
  plain _ _ := trivial
  failure f := ⟨f, rfl⟩

theorem serve_register_eq_auth_iff {userData : AuthService.UserData} {new : AuthService.NewUser}
    {error : AuthError}
    : ((AuthService.register P userData new).serve (Server.exec P) s).1 = .error (.auth error) ↔
      error = .EmailAlreadyExistsError
        ∧ ∃ user ∈ s.store.users.rows, userData.email = some user.email := by
  unfold AuthService.register
  cases hemail : userData.email with
  | none => simp [fail]
  | some email =>
    rw [required_some_bind, UserRepository.serve_findUserByEmail]
    cases hfind : s.store.users.rows.find? (·.email = email) with
    | some user =>
      have heq : user.email = email := by simpa using List.find?_some hfind
      have hmem := List.mem_of_find?_eq_some hfind
      constructor
      . intro h
        cases h
        exact ⟨rfl, user, hmem, by rw [heq]⟩
      . rintro ⟨rfl, _⟩
        rfl
    | none =>
      constructor
      . intro hserve
        have hfailure : IsFailure (.auth error) := by
          apply Prog.of_serve_eq_error (C := fun _ => True) (Q := fun _ => True) _ hserve
          apply Prog.obeys_bind
          . apply Prog.obeys_bind (obeys_required permits_isFailure _)
            intro password
            trivial
          . intro hashedPassword
            apply Prog.obeys_bind (obeys_required permits_isFailure _)
            intro fullName
            apply obeys_query_bind permits_isFailure trivial
            intro newUser
            trivial
        rcases hfailure with ⟨_, heq⟩
        cases heq
      . rintro ⟨_, user, huser, heq⟩
        cases heq
        rw [List.find?_eq_none] at hfind
        simpa using hfind user huser

theorem serve_refreshAccessToken_eq_auth_iff {token : String} {now : ℕ}
    : (∃ error, ((AuthService.refreshAccessToken P (some token) now).serve (Server.exec P) s).1 =
          .error (.auth error)) ↔
      token ≠ "" → ∀ claims, verifyRefreshToken P token now = .ok claims →
        ∀ user ∈ s.store.users.rows, user.refreshToken ≠ some token := by
  rcases serve_refreshAccessToken P s token now with
    ⟨user, hne, ⟨claims, hverify⟩, hfind, hserve⟩ | ⟨hnone, error, hserve⟩
  . rw [hserve]
    constructor
    . rintro ⟨_, ⟨⟩⟩
    . intro h
      have htoken : user.refreshToken = some token := by simpa using List.find?_some hfind
      exact absurd htoken (h hne claims hverify user (List.mem_of_find?_eq_some hfind))
  . rw [hserve]
    constructor
    . intro _ hne claims hverify user huser
      simpa using List.find?_eq_none.mp (hnone hne claims hverify) user huser
    . intro _
      exact ⟨error, rfl⟩

-- `AuthService` refuses what the schema of the route has let through.
def Request.FailsAuth (P : Platform) (s : Server) (request : Request) : Prop :=
  match request.route with
  | .register =>
    ∃ body, (registerSchema P).parse request.body = some (some body)
      ∧ ∃ user ∈ s.store.users.rows, stringOf body "email" = some user.email
  | .login =>
    ∃ body, (loginSchema P).parse request.body = some (some body)
      ∧ credentials? P s (stringOf body "email") (stringOf body "password") = none
  | .refresh =>
    ∃ body token, refreshTokenSchema.parse request.body = some (some body)
      ∧ stringOf body "refreshToken" = some token
      ∧ ∀ claims, verifyRefreshToken P token request.draw.now = .ok claims →
        ∀ user ∈ s.store.users.rows, user.refreshToken ≠ some token
  | _ => False

theorem parse_of_validate {schema : Schema} {value params body : Option Json}
    (h : Validation.validate (.zod schema) value params = .ok body)
    : schema.parse value = some body := by
  rw [validate_zod] at h
  split at h
  . next hparse =>
    cases h
    exact hparse
  . cases h

section Handlers

variable {user : Option RequestUser} {body : Option Json}

theorem register_fails_iff (hroute : request.route = .register)
    (hbody : validated P request = .ok body)
    : (∃ error, ((handler P request ⟨user, body⟩).serve (Server.exec P) s).1 =
          .error (.auth error)) ↔
      request.FailsAuth P s := by
  unfold handler Request.FailsAuth
  unfold validated at hbody
  simp only [hroute] at hbody ⊢
  have hparse := parse_of_validate hbody
  rcases object_of_parse hparse with ⟨out, rfl⟩
  have hiff : ∀ {error}, ((AuthController.register P (some (.object out)) request.draw.newUser).serve
      (Server.exec P) s).1 = .error (.auth error) ↔ _ :=
    (Prog.serve_bind_ret_eq_error_iff _).trans serve_register_eq_auth_iff
  simp only [hiff, hparse]
  simp

theorem login_fails_iff (hroute : request.route = .login)
    (hbody : validated P request = .ok body)
    : (∃ error, ((handler P request ⟨user, body⟩).serve (Server.exec P) s).1 =
          .error (.auth error)) ↔
      request.FailsAuth P s := by
  unfold handler Request.FailsAuth
  unfold validated at hbody
  simp only [hroute] at hbody ⊢
  have hparse := parse_of_validate hbody
  rcases object_of_parse hparse with ⟨out, rfl⟩
  have hstrings : (stringOf (.object out) "email").isSome
      ∧ (stringOf (.object out) "password").isSome := by
    rcases string_of_parse hparse (by simp) (.tail _ (.head _)) with ⟨_, _, _, hpassword⟩
    rcases string_of_parse hparse (by simp) (.head _) with ⟨_, _, _, hemail⟩
    rw [hemail, hpassword]
    exact ⟨rfl, rfl⟩
  have hiff : ∀ {error}, ((AuthController.login P (some (.object out)) request.draw.now).serve
      (Server.exec P) s).1 = .error (.auth error) ↔ _ :=
    Prog.serve_bind_ret_eq_error_iff _
  simp only [hiff, hparse, Option.some.injEq]
  rcases serve_login P s (stringOf (.object out) "email") (stringOf (.object out) "password")
    request.draw.now with ⟨found, _, hsome, hserve⟩ | ⟨hnone, fault, hserve, hfault⟩
  . simp [hserve, hsome]
  . rw [hserve, hfault hstrings.1 hstrings.2]
    simp [hnone]

theorem refresh_fails_iff (hroute : request.route = .refresh)
    (hbody : validated P request = .ok body)
    : (∃ error, ((handler P request ⟨user, body⟩).serve (Server.exec P) s).1 =
          .error (.auth error)) ↔
      request.FailsAuth P s := by
  unfold handler Request.FailsAuth
  unfold validated at hbody
  simp only [hroute] at hbody ⊢
  have hparse := parse_of_validate hbody
  rcases object_of_parse hparse with ⟨out, rfl⟩
  rcases string_of_parse hparse (by decide) (.head _) with ⟨input, token, hrun, htoken⟩
  have hne : token ≠ "" := by
    rintro rfl
    rw [List.foldlM_cons, Option.bind_eq_bind, Option.bind_eq_some_iff] at hrun
    rcases hrun with ⟨trimmed, _, hmin⟩
    simp only [List.foldlM_cons, List.foldlM_nil, StringCheck.run] at hmin
    split at hmin
    . next hlength =>
      cases hmin
      revert hlength
      decide
    . cases hmin
  have hiff : ∀ {error}, ((AuthController.refreshToken P (some (.object out)) request.draw.now).serve
      (Server.exec P) s).1 = .error (.auth error) ↔ _ :=
    Prog.serve_bind_ret_eq_error_iff _
  simp only [hiff, htoken, serve_refreshAccessToken_eq_auth_iff]
  simp [hparse, htoken, hne]

theorem profile_never_fails {found : User} (hfound : found ∈ s.store.users.rows) (error : AuthError)
    : ((AuthController.getProfile (.ofUser found)).serve (Server.exec P) s).1 ≠
      .error (.auth error) := by
  have hserve : ((AuthService.getProfile found.id).serve (Server.exec P) s).1 =
      .ok (sanitizeUser found) := by
    unfold AuthService.getProfile
    rw [UserRepository.serve_findUserById, Table.find?_of_mem hfound]
    rfl
  intro h
  cases hserve.symm.trans ((Prog.serve_bind_ret_eq_error_iff _).mp h)

theorem auth_fails_iff (huser : request.admitted? P s = some user)
    (hbody : validated P request = .ok body)
    : (∃ error, ((handler P request ⟨user, body⟩).serve (Server.exec P) s).1 =
          .error (.auth error)) ↔
      request.FailsAuth P s := by
  cases hroute : request.route with
  | register => exact register_fails_iff hroute hbody
  | login => exact login_fails_iff hroute hbody
  | refresh => exact refresh_fails_iff hroute hbody
  | profile =>
    unfold Request.admitted? at huser
    unfold handler Request.FailsAuth
    simp only [hroute, Route.guard, Option.map_eq_some_iff] at huser ⊢
    rcases huser with ⟨found, hsubject, rfl⟩
    unfold userHandler
    simp only [hroute]
    simpa using profile_never_fails (mem_of_subject? hsubject)
  | _ =>
    have hobeys := @obeys_handler P request ⟨user, body⟩ hbody
    unfold Request.FailsAuth
    simp only [hroute, iff_false]
    rintro ⟨error, hserve⟩
    have := Prog.of_serve_eq_error hobeys hserve
    rw [hroute] at this
    exact this

end Handlers

theorem app_eq_error {fault : Fault} (h : ((app P request).serve (Server.exec P) s).1 = .error fault)
    : request.admitted? P s = none ∧ Fault.OfGuard fault
        ∨ (request.admitted? P s).isSome ∧ validated P request = .error fault
        ∨ ∃ user body, request.admitted? P s = some user ∧ validated P request = .ok body
          ∧ ((handler P request ⟨user, body⟩).serve (Server.exec P) s).1 = .error fault := by
  rcases hserve : (middlewares P request).serve (Server.exec P) s with ⟨_ | context, s'⟩
  . rw [serve_app_of_not_admitted hserve] at h
    cases h
    rcases serve_middlewares_eq_error hserve with hguard | hbody
    . exact .inl hguard
    . exact .inr (.inl hbody)
  . rcases serve_middlewares_eq_ok_iff.mp hserve with ⟨_, huser, hbody⟩
    rw [serve_app_of_admitted huser hbody] at h
    exact .inr (.inr ⟨_, _, huser, hbody, h⟩)

theorem app_of_validated_error {fault : Fault} (huser : (request.admitted? P s).isSome)
    (hbody : validated P request = .error fault)
    : ((app P request).serve (Server.exec P) s).1 = .error fault := by
  rcases hserve : (middlewares P request).serve (Server.exec P) s with ⟨fault' | context, s'⟩
  . rw [serve_app_of_not_admitted hserve]
    rcases serve_middlewares_eq_error hserve with ⟨hnone, _⟩ | ⟨_, hbody'⟩
    . simp [hnone] at huser
    . rw [hbody] at hbody'
      cases hbody'
      rfl
  . have := (serve_middlewares_eq_ok_iff.mp hserve).2.2
    cases hbody.symm.trans this

theorem admitted_of_failsAuth (h : request.FailsAuth P s)
    : ∃ user body, request.admitted? P s = some user ∧ validated P request = .ok body := by
  unfold Request.FailsAuth at h
  unfold Request.admitted? validated
  cases hroute : request.route
  all_goals simp only [hroute] at h
  case register =>
    rcases h with ⟨body, hparse, _⟩
    exact ⟨none, body, rfl, by simp only [validate_zod, hparse]⟩
  case login =>
    rcases h with ⟨body, hparse, _⟩
    exact ⟨none, body, rfl, by simp only [validate_zod, hparse]⟩
  case refresh =>
    rcases h with ⟨body, _, hparse, _⟩
    exact ⟨none, body, rfl, by simp only [validate_zod, hparse]⟩

theorem exists_meant (error : AuthError) : ∃ status, Meant (.auth error) status := by
  cases error with
  | EmailAlreadyExistsError => exact ⟨_, .emailAlreadyExists⟩
  | InvalidCredentialsError => exact ⟨_, .invalidCredentials⟩
  | UnauthorizedError message => exact ⟨_, .session⟩
  | UserNotFoundError => exact ⟨_, .userNotFound⟩

def Request.Misreported (P : Platform) (s : Server) (request : Request) : Prop :=
  (request.admitted? P s).isSome ∧ request.Invalid P ∨ request.FailsAuth P s

theorem reported_iff : Reported P s request ↔ ¬request.Misreported P s := by
  constructor
  . rintro hreported (⟨huser, schema, value, hparses, hnone⟩ | hfails)
    . have hrefuses := validated_of_parses hparses
      unfold Refuses at hrefuses
      rw [hnone] at hrefuses
      rcases hrefuses with ⟨error, hbody, hmeant, hstatus⟩
      exact not_reported (app_of_validated_error huser hbody) hmeant hstatus hreported
    . rcases admitted_of_failsAuth hfails with ⟨user, body, huser, hbody⟩
      rcases (auth_fails_iff huser hbody).mpr hfails with ⟨error, hserve⟩
      rcases exists_meant error with ⟨status, hmeant⟩
      rw [← serve_app_of_admitted huser hbody] at hserve
      exact not_reported hserve hmeant (status_auth error) hreported
  . intro h fault status hserve hmeant
    have hresponse : (s.serve P request).1 = fault.response := by
      unfold Server.serve
      dsimp only
      rw [hserve]
      rfl
    rw [hresponse]
    rcases hmeant.status_eq with heq | ⟨error, rfl⟩ | ⟨error, rfl⟩
    . exact heq
    . exfalso
      rcases app_eq_error hserve with ⟨_, ⟨⟩⟩ | ⟨huser, hbody⟩ | ⟨user, body, huser, hbody, hhandler⟩
      . exact h (.inl ⟨huser, invalid_of_validated hbody⟩)
      . exact Prog.of_serve_eq_error (obeys_handler hbody) hhandler
    . exfalso
      rcases app_eq_error hserve with ⟨_, ⟨⟩⟩ | ⟨_, hbody⟩ | ⟨user, body, huser, hbody, hhandler⟩
      . exact validated_ne_auth error hbody
      . exact h (.inr ((auth_fails_iff huser hbody).mp ⟨error, hhandler⟩))

/--
In a run of requests every deliberate refusal has its status, exactly when no schema and no error of
`AuthService` refuses any of them.
-/
theorem refusals_reported_iff (P : Platform) (s : Server) (requests : List Request)
    : (∀ pre request, pre ++ [request] <+: requests →
          Reported P (Run.run (Server.step P) s pre) request) ↔
        Run.Along (Server.step P) (fun s request => ¬request.Misreported P s) s requests := by
  apply Run.forall_step_iff_along (I := fun _ => True) (Q := Reported P)
  . intro s request _ _
    trivial
  . intro s request _
    exact reported_iff
  . trivial

def sampleRegistration : Request :=
  sampleRequest .register ""
    (some (.object
      [
        ("fullName", .string "Alice"),
        ("email", .string "alice@example.com"),
        ("password", .string "password")
      ]))

theorem duplicate_email_server_fault
    : (sampleAlice.serve samplePlatform sampleRegistration).1.status = 500
        ∧ ¬Reported samplePlatform sampleAlice sampleRegistration := by
  refine ⟨by decide +kernel, ?_⟩
  rw [reported_iff, not_not]
  right
  refine ⟨_, rfl, sampleUser "alice", List.mem_singleton_self _, rfl⟩

end Banking.Http
