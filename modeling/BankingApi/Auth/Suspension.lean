import BankingApi.Http.Inert

/-!
This module contains users that are suspended: what is sent in their name leaves no trace, as long as
nobody activates them again.
-/

namespace Banking

def Store.Suspended (s : Store) (userId : UserId) : Prop :=
  ∃ user, s.users.find? userId = some user ∧ user.status ≠ .ACTIVE

namespace Http

open Prog

def Command.Activates (c : Command) (userId : UserId) : Prop :=
  c = .updateUser userId (.status (some .ACTIVE))

theorem suspended_executed {s s' : Store} {c : Command} {userId : UserId} (h : Executed s c s')
    (hc : ¬c.Activates userId) (hs : s.Suspended userId)
    : s'.Suspended userId := by
  rcases hs with ⟨user, hfind, hstatus⟩
  rcases Option.isSome_iff_exists.mp (h.user_kept (Option.isSome_of_eq_some hfind))
    with ⟨user', hfind'⟩
  refine ⟨user', hfind', ?_⟩
  have hid : user.id = userId := Table.key_of_find? hfind
  have hid' : user'.id = user.id := (Table.key_of_find? hfind').trans hid.symm
  rcases h.user_changed (Table.mem_of_find? hfind) (Table.mem_of_find? hfind') hid'
    with rfl | ⟨change, rfl, rfl⟩
  . exact hstatus
  . rw [hid] at hc
    cases change with
    | status status =>
      cases status with
      | none => exact hstatus
      | some status =>
        rintro rfl
        exact hc rfl
    | _ => exact hstatus

section App

variable {P : Platform} {request : Request} {userId : UserId}

-- What `authenticate` answers to a user who is suspended, and to everybody without the database.
def Locked (fault : Fault) : Prop :=
  fault = .sent (sendError "Access denied. Account is compromised or suspended." [] 403)
    ∨ fault = .failure .connection

/--
A request behind a guard asks for its user. If that is suspended it goes no further.
-/
theorem app_of_subjectId? (hguard : request.route.guard ≠ .open)
    (huser : request.subjectId? P = some userId)
    : ∃ next, app P request = .call (.findUserById userId) next
        ∧ (∃ fault, next (.error .connection) = .throw fault ∧ Locked fault)
        ∧ ∀ user : User, user.status ≠ .ACTIVE →
          ∃ fault, next (.ok (some user)) = .throw fault ∧ Locked fault := by
  rcases exists_app_eq_bind (P := P) hguard with ⟨f, happ⟩
  rcases authenticate_of_subjectId? huser with ⟨next, hcall, herror, _, hsome⟩
  refine ⟨fun r => next r >>= f, ?_, ?_, ?_⟩
  . rw [happ, hcall]
    rfl
  . dsimp only
    rw [herror]
    exact ⟨_, rfl, .inr rfl⟩
  . intro user hstatus
    dsimp only
    rw [hsome, if_pos]
    . exact ⟨_, rfl, .inl rfl⟩
    . cases h : user.status <;> simp_all

end App

section Runs

variable {ι : Type} [DecidableEq ι] (P : Platform) (requests : ι → Request) (s : Server)

-- From then on nobody activates the user.
def KeptSuspended (pre es : List (SessionEvent ι)) (userId : UserId) : Prop :=
  (serveAll P requests s pre).store.store.Suspended userId
    ∧ ∀ mid ev k c next, pre <+: mid → mid ++ [ev] <+: es → ev.done? = some k →
      ((serveAll P requests s mid).sessions k).rest = .call c next → ¬c.Activates userId

variable {P requests s} {pre mid es : List (SessionEvent ι)} {userId : UserId} {i : ι}

theorem KeptSuspended.suspended (h : KeptSuspended P requests s pre es userId) (hpre : pre <+: mid)
    (hmid : mid <+: es)
    : (serveAll P requests s mid).store.store.Suspended userId := by
  refine @Run.later_induction _ (fun mid => (serveAll P requests s mid).store.store.Suspended userId)
    _ _ hpre h.1 ?_
  intro mid' ev hpre' hmid' hsuspended
  rcases @serveAll_exec ι _ P requests s mid' ev with hsame | ⟨k, c, next, hev, hnext, hstore⟩
  . rw [hsame]
    exact hsuspended
  . have hactivates := h.2 _ ev k c next hpre' (hmid'.trans hmid) hev hnext
    have hexecuted := exec_cases (P := P) (serveAll P requests s mid').store
      (keepsProfiles_of_admissible (warranted_of_call hnext).admissible)
    rw [hstore]
    exact suspended_executed hexecuted hactivates hsuspended

theorem rest_of_fresh (hfresh : ((serveAll P requests s pre).sessions i).history = [])
    (hle : mid <+: pre)
    : ((serveAll P requests s mid).sessions i).rest = app P (requests i) := by
  rcases hle with ⟨later, rfl⟩
  unfold serveAll at *
  rw [Run.run_append] at hfresh
  have hmono := @Sessions.history_mono _ _ _ _ _ _ _ (Server.exec P) (fun _ => .error .connection)
    (Run.run (Sessions.step (Server.exec P) (fun _ => .error .connection))
      (.init (fun i => app P (requests i)) s) mid) i later
  rw [hfresh, List.prefix_nil] at hmono
  rw [Sessions.sessions_of_history_nil hmono]
  rfl

variable (hguard : (requests i).route.guard ≠ .open)
  (huser : (requests i).subjectId? P = some userId)
  (hfresh : ((serveAll P requests s pre).sessions i).history = [])

include hguard huser hfresh

-- The request has not begun, or it has been turned away.
theorem app_or_locked (h : KeptSuspended P requests s pre es userId) (hpre : pre <+: mid)
    (hmid : mid <+: es)
    : ((serveAll P requests s mid).sessions i).rest = app P (requests i)
        ∨ ∃ fault, ((serveAll P requests s mid).sessions i).rest = .throw fault ∧ Locked fault := by
  refine @Run.later_induction _ (fun mid => ((serveAll P requests s mid).sessions i).rest =
      app P (requests i)
    ∨ ∃ fault, ((serveAll P requests s mid).sessions i).rest = .throw fault ∧ Locked fault)
    _ _ hpre (.inl (rest_of_fresh hfresh List.prefix_rfl)) ?_
  intro mid' ev hpre' hmid' hrest
  have hle : mid' <+: es := ((List.prefix_append _ _).trans hmid').trans hmid
  rw [serveAll_append_singleton]
  rcases Sessions.session_step_cases (Server.exec P) (fun _ => .error .connection)
    (serveAll P requests s mid') i ev with hsame | ⟨c, next, r, hcall, hr, hnew⟩
  . rw [hsame]
    exact hrest
  . right
    rw [hcall] at hrest
    rw [hnew]
    rcases app_of_subjectId? (P := P) hguard huser with ⟨next', happ, herror, hsuspended⟩
    rcases hrest with hrest | ⟨fault, hrest, _⟩
    . cases hrest.trans happ
      rcases hr with ⟨_, rfl⟩ | ⟨_, rfl⟩
      . rcases h.suspended hpre' hle with ⟨user, hfind, hstatus⟩
        have hexec : (Server.exec P (.findUserById userId) (serveAll P requests s mid').store).1 =
            .ok (some user) :=
          congrArg Except.ok hfind
        rw [hexec]
        exact hsuspended user hstatus
      . exact herror
    . cases hrest

theorem idle_of_suspended (h : KeptSuspended P requests s pre es userId)
    (hpre : pre <+: es)
    : Idle P requests s none i es := by
  intro mid ev hmid hev _
  have hle : mid <+: es := (List.prefix_append _ _).trans hmid
  have hrest : ((serveAll P requests s mid).sessions i).rest = app P (requests i)
      ∨ ∃ fault, ((serveAll P requests s mid).sessions i).rest = .throw fault ∧ Locked fault := by
    rcases List.prefix_or_prefix_of_prefix hle hpre with hbefore | hafter
    . exact .inl (rest_of_fresh hfresh hbefore)
    . exact app_or_locked hguard huser hfresh h hafter hle
  rcases app_of_subjectId? (P := P) hguard huser with ⟨next, happ, _, _⟩
  rcases hrest with hrest | ⟨fault, hrest, _⟩
  . exact store_of_isRead hev (hrest.trans happ) trivial
  . have hexec : (serveAll P requests s (mid ++ [ev])).store = (serveAll P requests s mid).store ∨ _ :=
      serveAll_exec mid ev
    rcases hexec with hsame | ⟨k, c, next', hdone, hnext, _⟩
    . exact hsame
    . cases (SessionEvent.session_of_done? hdone).symm.trans hev
      cases hrest.symm.trans hnext

/--
While a user is suspended, whatever is sent in its name to a route behind a guard may as well not have
been sent, and is answered with 403 at most. It is the first command of a request that counts.
-/
theorem suspended_users_locked_out (h : KeptSuspended P requests s pre es userId) (hpre : pre <+: es)
    : SameBut P requests s [i] es (Sessions.purge i es)
        ∧ ∀ response, answer? P requests s es i = some response →
          ∃ fault, response = fault.response ∧ Locked fault := by
  constructor
  . exact sameBut_of_idle (idle_of_suspended hguard huser hfresh h hpre)
  . intro response hanswer
    rcases app_or_locked hguard huser hfresh h hpre List.prefix_rfl
      with hrest | ⟨fault, hrest, hlocked⟩
    . rcases app_of_subjectId? (P := P) hguard huser with ⟨next, happ, _, _⟩
      unfold answer? at hanswer
      rw [hrest, happ] at hanswer
      cases hanswer
    . rw [answer?_of_throw hrest] at hanswer
      cases hanswer
      exact ⟨fault, rfl, hlocked⟩

end Runs

-- "alice" deletes her account, and asks for it afterwards.
def deletionRequests (k : Bool) : Request :=
  sampleRequest (if k then .deleteMe else .getMe) "alice" none

def deletionServer : Server :=
  sampleServer ["alice"] (List.nodup_singleton _)

theorem suspended_users_locked_out_after_deletion
    : SameBut samplePlatform deletionRequests deletionServer [false]
        (List.replicate 3 (.exec true) ++ [.exec false])
        (Sessions.purge false (List.replicate 3 (.exec true) ++ [.exec false]))
      ∧ ∀ response, answer? samplePlatform deletionRequests deletionServer
          (List.replicate 3 (.exec true) ++ [.exec false]) false = some response →
        ∃ fault, response = fault.response ∧ Locked fault := by
  have hsuspended : KeptSuspended samplePlatform deletionRequests deletionServer
      (List.replicate 3 (.exec true)) (List.replicate 3 (.exec true) ++ [.exec false]) "alice" := by
    refine ⟨⟨_, rfl, by decide⟩, ?_⟩
    intro mid ev k c next _ _ _ hcall hactivates
    rcases (warranted_of_call hcall).admissible with hread | ⟨user, _, hissues⟩
    . rw [hactivates] at hread
      exact hread
    . cases k with
      | true =>
        change Route.deleteMe.Issues user c at hissues
        cases hissues with
        | read hread =>
          rw [hactivates] at hread
          exact hread
        | deleteMe => simp [Command.Activates] at hactivates
      | false =>
        change Route.getMe.Issues user c at hissues
        cases hissues with
        | read hread =>
          rw [hactivates] at hread
          exact hread
  have hguard : (deletionRequests false).route.guard ≠ .open := by
    intro h
    cases h
  exact suspended_users_locked_out hguard rfl rfl hsuspended (List.prefix_append _ _)

end Http

end Banking
