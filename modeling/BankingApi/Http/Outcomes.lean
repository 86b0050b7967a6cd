import BankingApi.Http.Errors
import BankingApi.Http.Warrants

/-!
This module contains what a request has done by the time it is answered, and that the answer says so.
-/

namespace Banking

-- `success` of a response
def Response.success? (response : Response) : Option Data :=
  response.body.lookup "success"

def Fault.Refuses (fault : Fault) : Prop :=
  fault.response.success? = some (.boolean false)

theorem success?_errorMiddleware (err : ErrorObject)
    : (errorMiddleware err).success? = some (.boolean false) := by
  unfold errorMiddleware
  rfl

theorem refuses_failure (f : Failure) : (Fault.failure f).Refuses :=
  success?_errorMiddleware _

namespace Http

open Prog

section Refuses

variable {C : Command → Prop} {α : Type} (P : Platform) (request : Request)

theorem refuses_authenticate
    : (authenticate P request).Obeys (fun _ => True) Fault.Refuses (fun _ => True) := by
  unfold authenticate
  split
  . rfl
  . split
    . rfl
    . rfl
    . next claims _ =>
      apply obeys_bind
      . cases claims.id.bind Json.string? with
        | none => exact refuses_failure .invalid
        | some userId => trivial
      . intro userId
        refine ⟨trivial, ?_⟩
        intro r
        match r with
        | .error e => exact refuses_failure e
        | .ok none => rfl
        | .ok (some dbUser) =>
          change Prog.Obeys _ _ _ (ite _ _ _)
          split
          . rfl
          . trivial

theorem refuses_guarded
    : (guarded P request).Obeys (fun _ => True) Fault.Refuses (fun _ => True) := by
  unfold guarded
  split
  . trivial
  . apply obeys_bind (refuses_authenticate P request)
    intro user
    trivial
  . apply obeys_bind (refuses_authenticate P request)
    intro user
    unfold authorize
    split
    . trivial
    . exact refuses_failure _

theorem refuses_validated {fault : Fault} (h : validated P request = .error fault)
    : fault.Refuses := by
  rcases validated_eq_error h with rfl | ⟨error, rfl⟩
  . exact refuses_failure .typeError
  . exact success?_errorMiddleware error

theorem refuses_app : (app P request).Obeys (fun _ => True) Fault.Refuses (fun _ => True) := by
  unfold app middlewares
  rw [Prog.bind_bind]
  apply obeys_bind (refuses_guarded P request)
  intro user
  cases hbody : validated P request with
  | error fault => exact refuses_validated P request hbody
  | ok body =>
    have hhandler := @obeys_handler P request { user := user, body := body } hbody
    apply obeys_mono hhandler
    . intro _ _
      trivial
    . intro fault hthrows
      cases fault with
      | failure f => exact refuses_failure f
      | auth error => exact success?_errorMiddleware _
      | sent => exact hthrows.elim
      | validation => exact hthrows.elim
    . intro _ _
      trivial

end Refuses

theorem acts_app {P : Platform} {request : Request} (hroute : request.route.acts)
    : (app P request).ActsOnce Command.isRead (fun c => ¬c.isRead) (Ends Shows) := by
  unfold app middlewares
  rw [Prog.bind_bind]
  apply Prog.actsOnce_bind_of_obeys (issues_guarded P request)
  intro user
  cases hbody : validated P request with
  | error fault => trivial
  | ok body =>
    have hacts := @acts_handler P request { user := user, body := body } hroute hbody
    exact Prog.actsOnce_mono hacts (fun _ hc => hc.1)

-- A command that fails changes nothing.
theorem exec_of_error {P : Platform} {c : Command} {s : Server} {e : Failure}
    (h : (Server.exec P c s).1 = .error e)
    : (Server.exec P c s).2 = s := by
  have hcommit : ∀ {α : Type} {r : Except Failure (α × Store)} {e : Failure},
      (s.commit r).1 = .error e → (s.commit r).2 = s := by
    intro α r e h
    cases r with
    | error e => rfl
    | ok res => cases h
  cases c
  case setLock key now =>
    unfold Server.exec at *
    dsimp only at *
    split at h <;> cases h
  all_goals first | rfl | cases h | exact hcommit h

theorem success?_of_shows {c : Command} {a : c.Value} {response : Response}
    (h : Shows c a response)
    : response.success? = some (.boolean true) := by
  unfold Shows at h
  split at h
  case h_2 =>
    rcases h with ⟨user, accessToken, rfl⟩
    rfl
  case h_5 => rcases h with rfl | rfl <;> rfl
  case h_13 => exact h.elim
  all_goals
    rw [h]
    rfl

section Runs

variable {ι : Type} [DecidableEq ι] (P : Platform) (requests : ι → Request) (s : Server)

-- What the client has been answered, once the request is through.
def answer? (es : List (SessionEvent ι)) (i : ι) : Option Response :=
  match ((serveAll P requests s es).sessions i).rest with
  | .ret response => some response
  | .throw fault => some fault.response
  | .call _ _ => none

-- The request changes nothing whenever it gets its turn, except after the run `except`.
def Idle (except : Option (List (SessionEvent ι))) (i : ι) (es : List (SessionEvent ι)) : Prop :=
  ∀ pre ev, pre ++ [ev] <+: es → ev.session = i → except ≠ some pre →
    (serveAll P requests s (pre ++ [ev])).store = (serveAll P requests s pre).store

/--
Either the request has changed nothing and is not told of a success, or it has changed the server at one
moment, by one command that it was entitled to. The answer shows what that command returned, unless that
is what got lost.
-/
inductive AllOrNothing (i : ι) (es : List (SessionEvent ι)) : Prop where
  | nothing (hidle : Idle P requests s none i es)
      (hanswer : ∀ response, answer? P requests s es i = some response →
        response.success? = some (.boolean false))
  | all {pre c a response} (hle : pre ++ [.exec i] <+: es) (hc : ¬c.isRead)
      (hwarranted : Warranted P (requests i) ((serveAll P requests s pre).sessions i).history c)
      (hexec : Server.exec P c (serveAll P requests s pre).store =
        (.ok a, (serveAll P requests s (pre ++ [.exec i])).store))
      (hidle : Idle P requests s (some pre) i es)
      (hanswer : answer? P requests s es i = some response)
      (hsuccess : response.success? = some (.boolean true)) (hshows : Shows c a response)
  | lost {pre c} (hle : pre ++ [.lose i] <+: es) (hc : ¬c.isRead)
      (hwarranted : Warranted P (requests i) ((serveAll P requests s pre).sessions i).history c)
      (hexec : (serveAll P requests s (pre ++ [.lose i])).store =
        (Server.exec P c (serveAll P requests s pre).store).2)
      (hidle : Idle P requests s (some pre) i es)
      (hanswer : ∀ response, answer? P requests s es i = some response →
        response.success? = some (.boolean false))

variable {P requests s}

theorem answer?_of_throw {es : List (SessionEvent ι)} {i : ι} {fault : Fault}
    (h : ((serveAll P requests s es).sessions i).rest = .throw fault)
    : answer? P requests s es i = some fault.response := by
  unfold answer?
  rw [h]

theorem answer?_of_ret {es : List (SessionEvent ι)} {i : ι} {response : Response}
    (h : ((serveAll P requests s es).sessions i).rest = .ret response)
    : answer? P requests s es i = some response := by
  unfold answer?
  rw [h]

theorem idle_of_same {es pre : List (SessionEvent ι)} {i : ι}
    (h : Idle P requests s (some pre) i es) (hle : pre ++ [.exec i] <+: es)
    (hsame : (serveAll P requests s (pre ++ [.exec i])).store = (serveAll P requests s pre).store)
    : Idle P requests s none i es := by
  intro pre' ev hle' hev _
  by_cases hpre : pre = pre'
  . subst hpre
    -- One event follows in the run.
    have heq := List.prefix_of_prefix_length_le hle' hle (by simp)
    cases (List.append_inj' (heq.eq_of_length (by simp)) rfl).2
    exact hsame
  . exact h pre' ev hle' hev (by simpa using hpre)

theorem allOrNothing_serveAll {i : ι} (hroute : (requests i).route.acts) (es : List (SessionEvent ι))
    : AllOrNothing P requests s i es := by
  have hrefuses : ((serveAll P requests s es).sessions i).rest.Obeys (fun _ => True) Fault.Refuses
      (fun _ => True) :=
    Sessions.obeys_run (refuses_app P (requests i)) es
  have hacted : Sessions.Acted (Server.exec P) (fun _ => .error .connection) Command.isRead
      (fun c => ¬c.isRead) (Ends Shows) (.init (fun i => app P (requests i)) s) i es :=
    Sessions.acted_run (fun _ s hc => exec_of_isRead hc s) exists_ofExcept_of_ends
      (acts_app hroute) es
  have hfails : ∀ {fault}, ((serveAll P requests s es).sessions i).rest = .throw fault →
      ∀ response, answer? P requests s es i = some response →
        response.success? = some (.boolean false) := by
    intro fault hrest response hanswer
    rw [answer?_of_throw hrest] at hanswer
    cases hanswer
    rw [hrest] at hrefuses
    exact hrefuses
  cases hacted with
  | looking hrest hidle =>
    change ((serveAll P requests s es).sessions i).rest.ActsOnce _ _ _ at hrest
    apply AllOrNothing.nothing hidle
    cases h : ((serveAll P requests s es).sessions i).rest with
    | ret response =>
      rw [h] at hrest
      exact hrest.elim
    | throw fault => exact hfails h
    | call c next =>
      intro response hanswer
      unfold answer? at hanswer
      rw [h] at hanswer
      cases hanswer
  | failed _ hends hidle => exact .nothing hidle (hfails hends)
  | @acted pre c next hle hnext hc hends hidle =>
    have hstore : (serveAll P requests s (pre ++ [.exec i])).store =
        (Server.exec P c (serveAll P requests s pre).store).2 :=
      store_done rfl hnext
    change Ends Shows c (Server.exec P c (serveAll P requests s pre).store).1
      ((serveAll P requests s es).sessions i).rest at hends
    generalize hr : (Server.exec P c (serveAll P requests s pre).store).1 = r at hends
    cases r with
    | error e =>
      apply AllOrNothing.nothing _ (hfails hends)
      apply idle_of_same hidle hle
      rw [hstore]
      exact exec_of_error hr
    | ok a =>
      rcases hends with ⟨response, hrest, hshows⟩
      refine .all hle hc (warranted_of_call hnext) ?_ hidle (answer?_of_ret hrest)
        (success?_of_shows hshows) hshows
      rw [hstore, ← hr]
  | @lost pre c next hle hnext hc hends hidle =>
    have hstore : (serveAll P requests s (pre ++ [.lose i])).store =
        (Server.exec P c (serveAll P requests s pre).store).2 :=
      store_done rfl hnext
    exact .lost hle hc (warranted_of_call hnext) hstore hidle (hfails hends)

end Runs

-- "alice" logs out twice, and one of the answers gets lost.
def logoutRequests (_ : Bool) : Request :=
  sampleRequest .logout "alice" none

def logoutServer : Server :=
  sampleServer ["alice"] (List.nodup_singleton _)

def logoutEvents : List (SessionEvent Bool) :=
  [.exec true, .exec false, .exec true, .lose false]

end Http

end Banking
