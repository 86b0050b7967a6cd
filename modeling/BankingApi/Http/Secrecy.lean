import BankingApi.Http.Erasure
import BankingApi.Http.Errors

/-!
This module contains two stores that differ in passwords and refresh tokens only, and that no response
tells them apart.
-/

namespace Banking.Http

def eraseSecrets (u : User) : User :=
  { u with password := "", refreshToken := none }

/--
The servers are equal, but for the passwords and refresh tokens of users.
-/
structure Alike (s s' : Server) : Prop where
  users : s.store.users.rows.map eraseSecrets = s'.store.users.rows.map eraseSecrets
  rest : s' = s.setUsers s'.store.users

-- What is left of an answer without passwords and refresh tokens.
def Command.scrubValue (c : Command) : c.Value → c.Value :=
  match c with
  | .createUser _ => eraseSecrets
  | .findUserByEmail _ => Option.map eraseSecrets
  | .findUserById _ => Option.map eraseSecrets
  | .findUserByRefreshToken _ => Option.map eraseSecrets
  | .getAllUsers _ => List.map eraseSecrets
  | .updateUser _ _ => eraseSecrets
  | .updateProfile _ _ => eraseSecrets
  | _ => id

def Command.scrub (c : Command) (r : c.Result) : c.Result :=
  r.map c.scrubValue

theorem eraseSecrets_apply (change : UserChange) (u : User)
    : eraseSecrets (change.apply (eraseSecrets u)) = eraseSecrets (change.apply u) := by
  cases change <;> rfl

theorem eraseSecrets_erases : Erases eraseSecrets where
  id _ := rfl
  customerId _ := rfl
  email _ := rfl
  apply := eraseSecrets_apply

theorem alike_iff {s s' : Server} : Alike s s' ↔ AlikeUpTo eraseSecrets s s' := by
  constructor
  . intro h
    exact ⟨h.users, h.rest⟩
  . intro h
    exact ⟨h.users, h.rest⟩

theorem scrubValue_eq_erase (c : Command) : c.scrubValue = c.erase eraseSecrets := by
  cases c <;> rfl

theorem sanitizeUser_eraseSecrets (u : User) : sanitizeUser (eraseSecrets u) = sanitizeUser u := by
  simp [sanitizeUser, deleteKey, User.toObject, eraseSecrets]

-- Two answers with what they leave behind do not differ in anything but secrets.
def AlikeAfter (c : Command) (r r' : c.Result × Server) : Prop :=
  c.scrub r.1 = c.scrub r'.1 ∧ Alike r.2 r'.2

theorem alike_exec {P : Platform} {s s' : Server} {c : Command} (hc : c.overlooksSecrets)
    (h : Alike s s')
    : AlikeAfter c (Server.exec P c s) (Server.exec P c s') := by
  have hexec : AlikeUpToAfter eraseSecrets c (Server.exec P c s) (Server.exec P c s') :=
    alikeUpTo_exec eraseSecrets_erases hc (alike_iff.mp h)
  refine ⟨?_, alike_iff.mpr hexec.2⟩
  unfold Command.scrub
  rw [scrubValue_eq_erase]
  exact hexec.1

section Blind

variable {P : Platform} {α : Type}

/--
The action goes on in the same way whatever the passwords and refresh tokens are.
-/
def BlindToSecrets (p : Action α) : Prop :=
  p.Blind Command.overlooksSecrets Command.scrub

theorem blind_query_bind {c : Command} {f : c.Value → Action α} (hc : c.overlooksSecrets)
    (hf : ∀ a, f a = f (c.scrubValue a)) (hblind : ∀ a, BlindToSecrets (f a))
    : BlindToSecrets (query c >>= f) :=
  blind_query_bind_of_values hc hf hblind

theorem permits_isPlain : Permits Command.isPlain (fun _ => True) where
  plain _ hc := hc
  failure _ := trivial

theorem overlooks_of_isPlain {c : Command} (hc : c.isPlain)
    : c.overlooksSecrets ∧ ∀ r, c.scrub r = r := by
  cases c <;> first
    | exact False.elim hc
    | exact ⟨trivial, fun r => by cases r <;> rfl⟩

theorem blind_of_plain {Q : α → Prop} {p : Action α} (hp : p.Obeys Command.isPlain (fun _ => True) Q)
    : BlindToSecrets p :=
  Prog.blind_of_obeys (fun _ => overlooks_of_isPlain) hp

theorem blind_existingUser (userId : UserId) : BlindToSecrets (UserService.existingUser userId) := by
  apply blind_query_bind
  . trivial
  . intro user
    cases user <;> rfl
  . intro user
    cases user <;> trivial

theorem blind_required (s : Option String) : BlindToSecrets (required s) :=
  blind_of_plain (obeys_required permits_isPlain s)

theorem blind_destructure (body : Option Json) : BlindToSecrets (destructure body) :=
  blind_of_plain (obeys_destructure permits_isPlain body)

theorem blind_findUserById_bind {f : Option User → Action UserObject} (userId : UserId)
    (hnone : BlindToSecrets (f none)) (hsome : ∀ user, f (some user) = .ret (sanitizeUser user))
    : BlindToSecrets (query (.findUserById userId) >>= f) := by
  apply blind_query_bind
  . trivial
  . intro user
    cases user with
    | none => rfl
    | some user =>
      change f (some user) = f (some (eraseSecrets user))
      rw [hsome, hsome, sanitizeUser_eraseSecrets]
  . intro user
    cases user with
    | none => exact hnone
    | some user =>
      rw [hsome]
      trivial

theorem blind_enumeration {β : Type} (ofString? : String → Option β) (value : Option Json)
    : BlindToSecrets (UserRepository.enumeration ofString? value) :=
  blind_of_plain (obeys_enumeration permits_isPlain ofString? value)

-- How an admin changes the status or the role of a user.
theorem blind_enumeration_updateUser {β : Type} (ofString? : String → Option β)
    (change : Option β → UserChange) (id : UserId) (value : Option Json)
    : BlindToSecrets (do
        let updatedUser ← (do
          let column ← UserRepository.enumeration ofString? value
          query (.updateUser id (change column)))
        return sanitizeUser updatedUser) := by
  rw [Prog.bind_bind]
  apply Prog.blind_bind (blind_enumeration ofString? value)
  intro column
  apply blind_query_bind
  . trivial
  . intro user
    exact congrArg Prog.ret (sanitizeUser_eraseSecrets user).symm
  . intro user
    trivial

theorem blind_register (body : Option Json) (new : AuthService.NewUser)
    : BlindToSecrets (AuthController.register P body new) := by
  apply Prog.blind_bind (blind_destructure body)
  intro body
  apply Prog.blind_bind
  . apply Prog.blind_bind (blind_required _)
    intro email
    apply blind_query_bind
    . trivial
    . intro existingUser
      cases existingUser <;> rfl
    . intro existingUser
      cases existingUser with
      | some existingUser => trivial
      | none =>
        apply Prog.blind_bind
        . apply Prog.blind_bind (blind_required _)
          intro password
          trivial
        . intro hashedPassword
          apply Prog.blind_bind (blind_required _)
          intro fullName
          apply blind_query_bind
          . trivial
          . intro newUser
            exact congrArg Prog.ret (sanitizeUser_eraseSecrets newUser).symm
          . intro newUser
            trivial
  . intro user
    trivial

theorem blind_authenticate (request : Request) : BlindToSecrets (authenticate P request) := by
  unfold authenticate
  split
  . trivial
  . split
    . trivial
    . trivial
    . apply Prog.blind_bind (blind_required _)
      intro userId
      apply blind_query_bind
      . trivial
      . intro dbUser
        cases dbUser <;> rfl
      . intro dbUser
        cases dbUser with
        | none => trivial
        | some dbUser =>
          dsimp only
          split <;> trivial

theorem blind_getProfile (user : RequestUser) : BlindToSecrets (AuthController.getProfile user) := by
  apply Prog.blind_bind
  . exact blind_findUserById_bind user.id trivial (fun _ => rfl)
  . intro profile
    trivial

theorem blind_getMe (user : RequestUser) : BlindToSecrets (UserController.getMe user) := by
  apply Prog.blind_bind
  . exact blind_findUserById_bind user.id trivial (fun _ => rfl)
  . intro profile
    trivial

theorem blind_logout (user : RequestUser) : BlindToSecrets (AuthController.logout user) := by
  apply Prog.blind_bind
  . apply blind_query_bind
    . trivial
    . intro _
      rfl
    . intro _
      trivial
  . intro message
    trivial

theorem blind_updateMe (user : RequestUser) {body : Option Json}
    (hbody : ∃ j, Json.get body "body" = some j)
    : BlindToSecrets (UserController.updateMe user body) := by
  rcases hbody with ⟨j, hj⟩
  apply Prog.blind_bind
  . apply Prog.blind_bind (blind_existingUser user.id)
    intro _
    match body with
    | none => cases hj
    | some .null => cases hj
    | some (.object updateData) =>
      apply blind_query_bind
      . exact mem_updateData (key_of_lookup hj)
      . intro updatedUser
        exact congrArg Prog.ret (sanitizeUser_eraseSecrets updatedUser).symm
      . intro updatedUser
        trivial
    | some (.string _) => trivial
    | some (.number _) => trivial
    | some (.boolean _) => trivial
    | some (.array _) => trivial
  . intro updatedUser
    trivial

theorem blind_changePassword (user : RequestUser) (body : Option Json) (salt : String)
    : BlindToSecrets (UserController.changePassword P user body salt) := by
  apply Prog.blind_bind (blind_destructure body)
  intro body
  apply Prog.blind_bind
  . apply Prog.blind_bind (blind_existingUser user.id)
    intro _
    apply Prog.blind_bind
    . apply Prog.blind_bind (blind_required _)
      intro password
      trivial
    . intro hashedPassword
      apply blind_query_bind
      . trivial
      . intro _
        rfl
      . intro _
        trivial
  . intro message
    trivial

theorem blind_deleteMe (user : RequestUser) : BlindToSecrets (UserController.deleteMe user) := by
  apply Prog.blind_bind
  . apply Prog.blind_bind (blind_existingUser user.id)
    intro _
    apply blind_query_bind
    . trivial
    . intro _
      rfl
    . intro _
      trivial
  . intro message
    trivial

theorem blind_getAllUsers (scan : Scan) : BlindToSecrets (UserController.getAllUsers scan) := by
  apply Prog.blind_bind
  . apply blind_query_bind
    . trivial
    . intro users
      apply congrArg Prog.ret
      change users.map sanitizeUser = (users.map eraseSecrets).map sanitizeUser
      simp [Function.comp_def, sanitizeUser_eraseSecrets]
    . intro users
      trivial
  . intro users
    trivial

theorem blind_changeStatus (user : RequestUser) (id : String) (body : Option Json)
    : BlindToSecrets (UserController.changeStatus user id body) := by
  apply Prog.blind_bind (blind_destructure body)
  intro body
  apply Prog.blind_bind
  . unfold UserService.changeStatus
    split
    . trivial
    . apply Prog.blind_bind (blind_existingUser id)
      intro _
      exact blind_enumeration_updateUser UserStatus.ofString? .status id _
  . intro updatedUser
    trivial

theorem blind_changeRole (user : RequestUser) (id : String) (body : Option Json)
    : BlindToSecrets (UserController.changeRole user id body) := by
  apply Prog.blind_bind (blind_destructure body)
  intro body
  apply Prog.blind_bind
  . unfold UserService.changeRole
    split
    . trivial
    . apply Prog.blind_bind (blind_existingUser id)
      intro _
      exact blind_enumeration_updateUser UserRole.ofString? .role id _
  . intro updatedUser
    trivial

theorem blind_createWallet (user : RequestUser) (body : Option Json) (id : WalletId)
    (walletNumber : String)
    : BlindToSecrets (WalletController.createWallet user body id walletNumber) := by
  apply Prog.blind_bind (blind_destructure body)
  intro body
  apply Prog.blind_bind
  . apply Prog.blind_bind (blind_existingUser user.id)
    intro _
    apply blind_query_bind
    . trivial
    . intro existingWallet
      rfl
    . intro existingWallet
      split
      . trivial
      . exact blind_of_plain (obeys_query permits_isPlain trivial)
  . intro wallet
    trivial

theorem overlooks_of_sends {user : Option RequestUser} {route : Route} {c : Command}
    (hreads : ¬route.readsUsers) (hroute : route ≠ .logout) (h : route.Sends user c)
    : c.overlooksSecrets ∧ ∀ r, c.scrub r = r := by
  cases h with
  | plain hc => exact overlooks_of_isPlain hc
  | read hread _ => exact absurd hread hreads
  | logout _ => exact absurd rfl hroute
  | freezeWallet => exact ⟨trivial, fun r => by cases r <;> rfl⟩
  | unfreezeWallet => exact ⟨trivial, fun r => by cases r <;> rfl⟩
  | closeWallet => exact ⟨trivial, fun r => by cases r <;> rfl⟩
  | withdraw => exact ⟨trivial, fun r => by cases r <;> rfl⟩
  | transfer => exact ⟨trivial, fun r => by cases r <;> rfl⟩
  | _ => exact absurd trivial hreads

variable {request : Request} {context : Context}

theorem blind_userHandler {self : RequestUser} {body : Option Json}
    (hbody : validated P request = .ok body)
    : BlindToSecrets (userHandler P request self body) := by
  have hother : ¬request.route.readsUsers → request.route ≠ .logout →
      BlindToSecrets (userHandler P request self body) := by
    intro hreads hroute
    exact Prog.blind_of_obeys (fun _ => overlooks_of_sends hreads hroute) (obeys_userHandler hbody)
  have hupdate := fun hroute => body_of_validated_updateMe hroute hbody
  unfold userHandler at *
  generalize request.route = route at *
  cases route with
  | register => trivial
  | login => trivial
  | refresh => trivial
  | logout => exact blind_logout self
  | profile => exact blind_getProfile self
  | getMe => exact blind_getMe self
  | updateMe => exact blind_updateMe self (hupdate rfl)
  | changePassword => exact blind_changePassword self body _
  | deleteMe => exact blind_deleteMe self
  | getAllUsers => exact blind_getAllUsers _
  | changeStatus id => exact blind_changeStatus self id body
  | changeRole id => exact blind_changeRole self id body
  | createWallet => exact blind_createWallet self body _ _
  | _ => exact hother not_false Route.noConfusion

theorem blind_handler (hbody : validated P request = .ok context.body)
    (hroute : request.route ∉ [Route.login, .refresh])
    : BlindToSecrets (handler P request context) := by
  rcases context with ⟨user, body⟩
  change validated P request = .ok body at hbody
  have hself : ∀ self, BlindToSecrets (userHandler P request self body) :=
    fun self => blind_userHandler hbody
  have hgateway := obeys_gateway permits_isPlain P body
  unfold handler
  dsimp only
  generalize request.route = route at *
  cases route with
  | register => exact blind_register body _
  | login => simp at hroute
  | refresh => simp at hroute
  | gateway => exact blind_of_plain hgateway
  | _ =>
    cases user with
    | none => trivial
    | some self => exact hself self

theorem blind_guarded (request : Request) : BlindToSecrets (guarded P request) := by
  unfold guarded
  split
  . trivial
  . apply Prog.blind_bind (blind_authenticate request)
    intro user
    trivial
  . apply Prog.blind_bind (blind_authenticate request)
    intro user
    apply Prog.blind_bind
    . unfold authorize
      split <;> trivial
    . intro _
      trivial

theorem blind_app (hroute : request.route ∉ [Route.login, .refresh])
    : BlindToSecrets (app P request) := by
  unfold app middlewares
  rw [Prog.bind_bind]
  apply Prog.blind_bind (blind_guarded request)
  intro user
  cases hbody : validated P request with
  | error fault => trivial
  | ok body => exact blind_handler hbody hroute

end Blind

section Guarded

variable {P : Platform} {C : Command → Prop} {F : Fault → Prop}

theorem obeys_authenticate (hread : ∀ id, C (.findUserById id))
    (hsent : ∀ message statusCode, F (.sent (sendError message [] statusCode)))
    (hfailure : ∀ f, F (.failure f)) (request : Request)
    : (authenticate P request).Obeys C F (fun _ => True) := by
  unfold authenticate
  split
  . exact hsent _ _
  . split
    . exact hsent _ _
    . exact hsent _ _
    . next claims _ =>
      cases claims.id.bind Json.string? with
      | none => exact hfailure _
      | some userId =>
        rw [required_some_bind]
        refine ⟨hread userId, ?_⟩
        intro r
        cases r with
        | error e => exact hfailure e
        | ok dbUser =>
          cases dbUser with
          | none => exact hsent _ _
          | some dbUser =>
            change Prog.Obeys C F _ (if _ then _ else _)
            split
            . exact hsent _ _
            . trivial

theorem obeys_guarded (hread : ∀ id, C (.findUserById id))
    (hsent : ∀ message statusCode, F (.sent (sendError message [] statusCode)))
    (hfailure : ∀ f, F (.failure f)) (request : Request)
    : (guarded P request).Obeys C F (fun _ => True) := by
  have hauthenticate := obeys_authenticate hread hsent hfailure request (P := P)
  unfold guarded
  split
  . trivial
  . apply Prog.obeys_bind hauthenticate
    intro user
    trivial
  . apply Prog.obeys_bind hauthenticate
    intro user
    apply Prog.obeys_bind
    . unfold authorize
      split
      . trivial
      . exact hfailure _
    . intro _
      trivial

end Guarded

section Withholds

variable {P : Platform} {request : Request}

theorem withholds_of_throws {route : Route} {fault : Fault} (h : route.Throws fault)
    : fault.Withholds := by
  cases fault with
  | sent response => cases h
  | failure f => exact withholds_errorMiddleware _
  | auth error => exact withholds_errorMiddleware _
  | validation error => exact withholds_errorMiddleware _

theorem withholds_of_answers {route : Route} {response : Response} (hroute : route ≠ .login)
    (h : route.Answers response)
    : response.Withholds := by
  cases route with
  | login => exact absurd rfl hroute
  | _ => exact h

theorem obeys_app (hroute : request.route ≠ .login)
    : (app P request).Obeys (fun _ => True) Fault.Withholds Response.Withholds := by
  have hguarded : (guarded P request).Obeys (fun _ => True) Fault.Withholds (fun _ => True) := by
    apply obeys_guarded (fun _ => trivial)
    . intro message statusCode
      exact withholds_sendError _ _
    . intro f
      exact withholds_errorMiddleware _
  unfold app middlewares
  rw [Prog.bind_bind]
  apply Prog.obeys_bind hguarded
  intro user
  cases hbody : validated P request with
  | error fault =>
    rcases validated_eq_error hbody with rfl | ⟨error, rfl⟩
    . exact withholds_errorMiddleware _
    . exact withholds_errorMiddleware _
  | ok body =>
    apply Prog.obeys_mono (obeys_handler hbody)
    . intro _ _
      trivial
    . intro _ h
      exact withholds_of_throws h
    . intro _ h
      exact withholds_of_answers hroute h

theorem withholds_serve (s : Server) (hroute : request.route ≠ .login)
    : (s.serve P request).1.Withholds := by
  unfold Server.serve respond
  dsimp only
  split
  . next heq => exact Prog.of_serve_eq_ok (obeys_app hroute) heq
  . next heq =>
    have hfault := Prog.of_serve_eq_error (obeys_app hroute) heq
    exact hfault

end Withholds

def Server.responses (P : Platform) (s : Server) (requests : List Request) : List Response :=
  match requests with
  | [] => []
  | request :: requests =>
    (s.serve P request).1 :: Server.responses P (s.step P request) requests

section Responses

variable {P : Platform} {s s' : Server} {request : Request} {requests : List Request}

theorem serve_alike (h : Alike s s') (hroute : request.route ∉ [Route.login, .refresh])
    : (s.serve P request).1 = (s'.serve P request).1
      ∧ Alike (s.step P request) (s'.step P request) := by
  have happ : BlindToSecrets (app P request) := blind_app hroute
  have hserve := Prog.serve_of_blind (fun _ _ _ => alike_exec (P := P)) happ h
  refine ⟨?_, hserve.2⟩
  unfold Server.serve
  dsimp only
  rw [hserve.1]

theorem responses_eq (h : Alike s s')
    (hroutes : ∀ request ∈ requests, request.route ∉ [Route.login, .refresh])
    : s.responses P requests = s'.responses P requests := by
  induction requests generalizing s s' with
  | nil => rfl
  | cons request requests ih =>
    rw [List.forall_mem_cons] at hroutes
    rcases serve_alike h hroutes.1 (P := P) with ⟨hresponse, hstep⟩
    unfold Server.responses
    rw [hresponse, ih hstep hroutes.2]

theorem withholds_responses (hroutes : ∀ request ∈ requests, request.route ≠ .login)
    : ∀ response ∈ s.responses P requests, response.Withholds := by
  induction requests generalizing s with
  | nil => simp [Server.responses]
  | cons request requests ih =>
    rw [List.forall_mem_cons] at hroutes
    unfold Server.responses
    rw [List.forall_mem_cons]
    exact ⟨withholds_serve s hroutes.1, ih hroutes.2⟩

theorem secrets_never_shown (h : Alike s s')
    (hroutes : ∀ request ∈ requests, request.route ∉ [Route.login, .refresh])
    : s.responses P requests = s'.responses P requests
      ∧ ∀ response ∈ s.responses P requests, response.Withholds := by
  refine ⟨responses_eq h hroutes, ?_⟩
  apply withholds_responses
  intro request hrequest heq
  apply hroutes request hrequest
  rw [heq]
  exact List.mem_cons_self

-- The same users, alice with a session and another password.
def sampleSecrets : Server :=
  (sampleServer ["alice", "bob"] (by decide)).setUsers
    ((sampleServer ["alice", "bob"] (by decide)).store.users.update "alice"
      (fun u => { u with password := "hash-other", refreshToken := some "token" }) (fun _ => rfl))

theorem sample_secrets_never_shown
    : let requests :=
        [sampleRequest .profile "alice" none, sampleRequest .logout "alice" none]
      Server.responses samplePlatform (sampleServer ["alice", "bob"] (by decide)) requests =
          sampleSecrets.responses samplePlatform requests
        ∧ ∀ response ∈ Server.responses samplePlatform (sampleServer ["alice", "bob"] (by decide))
          requests, response.Withholds := by
  apply secrets_never_shown
  . exact ⟨by decide +kernel, rfl⟩
  . simp [sampleRequest]

end Responses

end Banking.Http
