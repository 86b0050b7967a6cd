import BankingApi.Http.Outcomes

/-!
This module contains requests that leave no trace: without them every run ends in the same state, and
everybody else gets the same answers.
-/

namespace Prog

variable {Cmd : Type} {Res : Cmd → Type} {ε α : Type}

-- Where nothing is hidden every program is blind.
theorem blind_of_nothing (p : Prog Cmd Res ε α) : p.Blind (fun _ => True) (fun _ r => r) := by
  induction p with
  | ret a => trivial
  | throw e => trivial
  | call c next ih => exact ⟨trivial, fun r => ⟨rfl, ih r⟩⟩

end Prog

namespace Banking.Http

open Prog

-- A command that changes nothing, whatever is stored. No profile is updated under the key `body`.
def Command.isInert (c : Command) : Prop :=
  c.isRead ∨ ∃ id data, c = .updateProfile id data ∧ "body" ∈ data.map Prod.fst

theorem exec_of_isInert {P : Platform} {c : Command} (hc : c.isInert) (s : Server)
    : (Server.exec P c s).2 = s := by
  rcases hc with hread | ⟨id, data, rfl, hkey⟩
  . exact exec_of_isRead hread s
  . rw [exec_updateProfile hkey]

def Route.isInert (route : Route) : Prop :=
  match route with
  | .createPayment => False
  | .verifyPayment => False
  | .updateMe => True
  | route => ¬route.acts

/--
A request to a route that only looks, one whose body is refused, or one that needs a user and names none.
-/
inductive Request.Inert (P : Platform) (request : Request) : Prop where
  | route (h : request.route.isInert)
  | refused {fault} (h : validated P request = .error fault)
  | anonymous (hguard : request.route.guard ≠ .open) (h : request.subjectId? P = none)

theorem isInert_of_issues {user : Option RequestUser} {route : Route} {c : Command}
    (h : route.Issues user c) (hroute : route.isInert)
    : c.isInert := by
  cases h with
  | read hc => exact .inl hc
  | updateMe _ hkey => exact .inr ⟨_, _, rfl, hkey⟩
  | processPayment => exact hroute.elim
  | setLock => exact hroute.elim
  | setResponse => exact hroute.elim
  | deleteLock => exact hroute.elim
  | publishPaymentEvent => exact hroute.elim
  | updatePaymentStatus => exact hroute.elim
  | updateGatewayResponse => exact hroute.elim
  | publishWebhookEvent => exact hroute.elim
  | _ => exact absurd trivial hroute

section Inert

variable {P : Platform} {request : Request}

theorem exists_authenticate_eq_throw (h : request.subjectId? P = none)
    : ∃ fault, authenticate P request = .throw fault := by
  unfold Request.subjectId? at h
  unfold authenticate
  cases htoken : request.bearerToken? with
  | none => exact ⟨_, rfl⟩
  | some token =>
    dsimp only
    cases hclaims : verifyAccessToken P token request.draw.now with
    | error e => cases e <;> exact ⟨_, rfl⟩
    | ok claims =>
      have hid : claims.id.bind Json.string? = none := by
        simpa [htoken, hclaims, Except.toOption] using h
      dsimp only
      rw [hid]
      exact ⟨_, rfl⟩

-- A guard asks for the user that the token names, and for nothing else.
theorem authenticate_of_subjectId? {userId : UserId} (h : request.subjectId? P = some userId)
    : ∃ next, authenticate P request = .call (.findUserById userId) next
        ∧ (∀ e, next (.error e) = .throw (.failure e))
        ∧ next (.ok none) = .throw (.sent (sendError "User not found" [] 401))
        ∧ ∀ user, next (.ok (some user)) =
          if user.status ∈ [UserStatus.BLOCKED, .LOCKED, .INACTIVE] then
            .throw (.sent (sendError "Access denied. Account is compromised or suspended." [] 403))
          else
            .ret (.ofUser user) := by
  unfold Request.subjectId? at h
  simp only [Option.bind_eq_bind, Option.bind_eq_some_iff] at h
  rcases h with ⟨token, htoken, claims, hclaims, j, hj, hid⟩
  have hverified : verifyAccessToken P token request.draw.now = .ok claims := by
    cases hverify : verifyAccessToken P token request.draw.now with
    | error e => simp [hverify, Except.toOption] at hclaims
    | ok claims' => simpa [hverify, Except.toOption] using hclaims
  unfold authenticate
  rw [htoken]
  dsimp only
  rw [hverified]
  dsimp only
  rw [hj, Option.bind_some, hid, required_some_bind]
  exact ⟨_, rfl, fun _ => rfl, rfl, fun _ => rfl⟩

theorem exists_app_eq_bind (hguard : request.route.guard ≠ .open)
    : ∃ f, app P request = authenticate P request >>= f := by
  unfold app middlewares guarded
  cases h : request.route.guard with
  | «open» => exact absurd h hguard
  | authenticated =>
    dsimp only
    simp only [Prog.bind_bind]
    exact ⟨_, rfl⟩
  | authorized allowedRoles =>
    dsimp only
    simp only [Prog.bind_bind]
    exact ⟨_, rfl⟩

theorem inert_app (h : request.Inert P) : (app P request).Issues Command.isInert := by
  have hread : ∀ c : Command, c.isRead → c.isInert := fun _ hc => .inl hc
  cases h with
  | route hroute => exact issues_app hread (fun _ _ hc => isInert_of_issues hc hroute)
  | refused h =>
    unfold app middlewares
    rw [Prog.bind_bind, h]
    apply issues_bind (obeys_mono (issues_guarded P request) hread (fun _ => id) (fun _ => id))
    intro user
    trivial
  | anonymous hguard h =>
    rcases exists_app_eq_bind (P := P) hguard with ⟨f, happ⟩
    rcases exists_authenticate_eq_throw h with ⟨fault, hthrow⟩
    rw [happ, hthrow]
    trivial

end Inert

section Runs

variable {ι : Type} [DecidableEq ι] (P : Platform) (requests : ι → Request) (s : Server)

-- The states are the same, and what is left of every session but those.
def SameBut (js : List ι) (es es' : List (SessionEvent ι)) : Prop :=
  (serveAll P requests s es).store = (serveAll P requests s es').store
    ∧ ∀ i, i ∉ js → answer? P requests s es i = answer? P requests s es' i

variable {P requests s}

theorem sameBut_purge {j : ι} (hj : (requests j).Inert P) (es : List (SessionEvent ι))
    : SameBut P requests s [j] es (Sessions.purge j es) := by
  have hpurged : Sessions.Purged (fun _ => True) Command.isInert (fun _ r => r) Eq j
      (serveAll P requests s es) (serveAll P requests s (Sessions.purge j es)) := by
    apply Sessions.purged_run
    . rintro c s _ hc rfl
      exact exec_of_isInert hc s
    . rintro c s _ _ rfl
      exact ⟨rfl, rfl⟩
    . exact inert_app hj
    . intro i _
      exact blind_of_nothing _
    . rfl
  refine ⟨hpurged.store, ?_⟩
  intro i hi
  unfold answer?
  rw [hpurged.rest i (fun h => hi (List.mem_singleton.mpr h))]

theorem sameBut_of_idle {j : ι} {es : List (SessionEvent ι)} (h : Idle P requests s none j es)
    : SameBut P requests s [j] es (Sessions.purge j es) := by
  have hsame : Sessions.SameWithout j (serveAll P requests s es)
      (serveAll P requests s (Sessions.purge j es)) :=
    Sessions.sameWithout_purge h
  refine ⟨hsame.store.symm, ?_⟩
  intro i hi
  unfold answer?
  rw [hsame.sessions i (fun h => hi (List.mem_singleton.mpr h))]

-- One more request is left out.
theorem sameBut_cons {j : ι} {js : List ι} {es : List (SessionEvent ι)}
    (h : SameBut P requests s js es (es.filter (fun ev => ev.session ∉ js)))
    (hj : SameBut P requests s [j] (es.filter (fun ev => ev.session ∉ js))
      (Sessions.purge j (es.filter (fun ev => ev.session ∉ js))))
    : SameBut P requests s (j :: js) es (es.filter (fun ev => ev.session ∉ j :: js)) := by
  have hfilter : Sessions.purge j (es.filter (fun ev => ev.session ∉ js)) =
      es.filter (fun ev => ev.session ∉ j :: js) := by
    unfold Sessions.purge
    rw [List.filter_filter]
    congr 1
    funext ev
    simp
  rw [hfilter] at hj
  refine ⟨h.1.trans hj.1, ?_⟩
  intro i hi
  rw [List.mem_cons, not_or] at hi
  exact (h.2 i hi.2).trans (hj.2 i (by simpa using hi.1))

theorem sameBut_nil (es : List (SessionEvent ι))
    : SameBut P requests s [] es (es.filter (fun ev => ev.session ∉ [])) := by
  have hfilter : es.filter (fun ev => ev.session ∉ []) = es := by simp
  rw [hfilter]
  exact ⟨rfl, fun _ _ => rfl⟩

/--
However requests are served side by side, any number of those that leave no trace may as well not have
been there.
-/
theorem inert_requests_leave_no_trace (P : Platform) (requests : ι → Request) (s : Server)
    {js : List ι} (hjs : ∀ j ∈ js, (requests j).Inert P) (es : List (SessionEvent ι))
    : SameBut P requests s js es (es.filter (fun ev => ev.session ∉ js)) := by
  induction js with
  | nil => exact sameBut_nil es
  | cons j js ih =>
    apply sameBut_cons (ih (fun j hj => hjs j (List.mem_cons_of_mem _ hj)))
    exact sameBut_purge (hjs j List.mem_cons_self) _

-- The client has not been told of a success.
def Unsuccessful (P : Platform) (requests : ι → Request) (s : Server) (es : List (SessionEvent ι))
    (i : ι)
    : Prop :=
  ∀ response, answer? P requests s es i = some response →
    response.success? ≠ some (.boolean true)

theorem idle_of_unsuccessful {i : ι} {es : List (SessionEvent ι)}
    (hroute : (requests i).route.acts) (hi : Unsuccessful P requests s es i) (hlost : .lose i ∉ es)
    : Idle P requests s none i es := by
  cases @allOrNothing_serveAll ι _ P requests s i hroute es with
  | nothing hidle _ => exact hidle
  | all _ _ _ _ _ hanswer hsuccess _ => exact absurd hsuccess (hi _ hanswer)
  | lost hle _ _ _ _ _ => exact absurd (hle.subset (by simp)) hlost

/--
However requests are served side by side, and whatever fails, any number of those that would have changed
users, wallets or balances, are not told of a success and lose no answer may as well not have been there.
-/
theorem unsuccessful_requests_leave_no_trace (P : Platform) (requests : ι → Request) (s : Server)
    {js : List ι} (es : List (SessionEvent ι))
    (hjs : ∀ j ∈ js, (requests j).route.acts ∧ Unsuccessful P requests s es j ∧ .lose j ∉ es)
    : SameBut P requests s js es (es.filter (fun ev => ev.session ∉ js)) := by
  induction js with
  | nil => exact sameBut_nil es
  | cons j js ih =>
    have hsame := ih (fun j hj => hjs j (List.mem_cons_of_mem _ hj))
    rcases hjs j List.mem_cons_self with ⟨hroute, hj, hlost⟩
    by_cases hmem : j ∈ js
    . have hfilter : es.filter (fun ev => ev.session ∉ j :: js) =
          es.filter (fun ev => ev.session ∉ js) := by
        congr 1
        funext ev
        have hsession : ev.session ∈ j :: js ↔ ev.session ∈ js := by
          rw [List.mem_cons, or_iff_right_iff_imp]
          rintro rfl
          exact hmem
        rw [decide_eq_decide, hsession]
      rw [hfilter]
      exact ⟨hsame.1, fun i hi => hsame.2 i (fun h => hi (List.mem_cons_of_mem _ h))⟩
    . -- The others being left out, the request is answered as before.
      apply sameBut_cons hsame
      apply sameBut_of_idle
      apply idle_of_unsuccessful hroute
      . intro response hanswer
        rw [← hsame.2 j hmem] at hanswer
        exact hj response hanswer
      . intro hmem'
        exact hlost (List.mem_filter.mp hmem').1

end Runs

-- A deposit without a token, beside one by "alice".
theorem anonymous_deposit_leaves_no_trace
    : SameBut samplePlatform
        (fun i : Bool =>
          { sampleRequest .deposit "alice" (some (.object [])) with
            headers := if i then [] else [("authorization", "Bearer alice")] })
        (sampleServer ["alice"] (List.nodup_singleton _)) [true]
        [.exec true, .exec false, .exec true, .exec false] [.exec false, .exec false] := by
  apply @inert_requests_leave_no_trace Bool _ _ _ _ [true]
  intro j hj
  cases List.mem_singleton.mp hj
  exact .anonymous (by simp [sampleRequest, Route.guard]) rfl

-- The second wallet of "alice" is refused.
theorem refused_wallet_leaves_no_trace
    : SameBut samplePlatform
        (fun _ : Bool => sampleRequest .createWallet "alice" (some (.object [("body", .object [])])))
        (sampleServer ["alice"] (List.nodup_singleton _)) [true]
        (List.replicate 4 (.exec false) ++ List.replicate 4 (.exec true))
        (List.replicate 4 (.exec false)) := by
  apply @unsuccessful_requests_leave_no_trace Bool _ _ _ _ [true]
  intro j hj
  cases List.mem_singleton.mp hj
  refine ⟨by trivial, ?_, by simp⟩
  intro response hanswer
  have hrefused : (answer? samplePlatform
      (fun _ : Bool => sampleRequest .createWallet "alice" (some (.object [("body", .object [])])))
      (sampleServer ["alice"] (List.nodup_singleton _))
      (List.replicate 4 (.exec false) ++ List.replicate 4 (.exec true)) true).map
        (fun response => (response.status, response.success?)) =
      some (409, some (.boolean false)) := by
    rfl
  rw [hanswer] at hrefused
  have hsuccess : response.success? = some (.boolean false) :=
    congrArg Prod.snd (Option.some.inj hrefused)
  rw [hsuccess]
  intro heq
  cases heq

end Banking.Http
