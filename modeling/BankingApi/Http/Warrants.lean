import BankingApi.Http.Commands

/-!
This module contains what a request must have been answered before it sends a command that is no mere
look.
-/

namespace Banking.Http

open Prog

variable {P : Platform} {request : Request}

theorem issues_authenticate (P : Platform) (request : Request)
    : (authenticate P request).Issues Command.isRead := by
  unfold authenticate
  split
  . trivial
  . split
    . trivial
    . trivial
    . apply issues_bind (issues_required _)
      intro userId
      apply issues_query_bind (by trivial)
      intro dbUser
      cases dbUser with
      | none => trivial
      | some dbUser =>
        dsimp only
        split <;> trivial

theorem issues_guarded (P : Platform) (request : Request)
    : (guarded P request).Issues Command.isRead := by
  unfold guarded
  split
  . trivial
  . apply issues_bind (issues_authenticate P request)
    intro user
    trivial
  . apply issues_bind (issues_authenticate P request)
    intro user
    unfold authorize
    split <;> trivial

-- A request sends what its guard and its handler send.
theorem issues_app {C : Command → Prop} (hread : ∀ c : Command, c.isRead → C c)
    (hroute : ∀ user c, request.route.Issues user c → C c)
    : (app P request).Issues C := by
  unfold app middlewares
  rw [Prog.bind_bind]
  apply issues_bind (obeys_mono (issues_guarded P request) hread (fun _ => id) (fun _ => id))
  intro user
  cases hbody : validated P request with
  | error fault => trivial
  | ok body =>
    have hissues := @issues_handler P request { user := user, body := body } hbody
    exact obeys_mono hissues (fun c hc => hroute user c hc) (fun _ => id) (fun _ => id)

-- A request looks, or it does what its route does for the user that it was admitted for.
def Admissible (P : Platform) (request : Request) (history : History) (c : Command) : Prop :=
  c.isRead ∨ ∃ user, Admitted P request history user ∧ request.route.Issues user c

theorem keepsProfiles_of_admissible {history : History} {c : Command}
    (h : Admissible P request history c)
    : c.keepsProfiles := by
  rcases h with hread | ⟨_, _, hissues⟩
  . cases c <;> trivial
  . generalize request.route = route at hissues
    cases hissues with
    | read hc => cases c <;> trivial
    | updateMe _ hkey => exact hkey
    | _ => trivial

theorem admissible_guarded (P : Platform) (request : Request)
    : (guarded P request).Guarded (Admissible P request) (Admitted P request) [] :=
  Prog.guarded_of_issues (fun _ _ hc => .inl hc) (issues_guarded P request)
    (guarded_guarded P request)

theorem admissible_app (P : Platform) (request : Request)
    : (app P request).Guarded (Admissible P request) (fun _ _ => True) [] := by
  unfold app middlewares
  rw [Prog.bind_bind]
  apply Prog.guarded_bind
  apply Prog.guarded_mono (admissible_guarded P request)
  intro history user hadmitted
  cases hbody : validated P request with
  | error fault => trivial
  | ok body =>
    have hissues := @issues_handler P request { user := user, body := body } hbody
    apply Prog.guarded_mono (Prog.guarded_of_obeys _ hissues)
    . intro _ _ _
      trivial
    . intro history' c hle hc
      exact .inr ⟨user, hadmitted.mono hle, hc⟩

-- The wallet that a command acts on as that of the user it is sent for.
def Command.own? (c : Command) : Option WalletId :=
  match c with
  | .deposit receiverWalletId _ _ _ _ => some receiverWalletId
  | .withdraw senderWalletId _ _ _ _ => some senderWalletId
  | .transfer senderWalletId _ _ _ _ _ => some senderWalletId
  | _ => none

def Owning (P : Platform) (request : Request) (history : History) (c : Command) : Prop :=
  ∀ id, c.own? = some id → OwnsWallet P request history id

section Owning

variable {history : History} {α : Type}

theorem own?_of_isRead {c : Command} (hc : c.isRead) : c.own? = none := by
  cases c <;> first | rfl | cases hc

theorem owning_of_isRead (history : History) (c : Command) (hc : c.isRead)
    : Owning P request history c := by
  intro id hid
  rw [own?_of_isRead hc] at hid
  cases hid

/--
What begins with the wallet of the user and acts on that only.
-/
theorem owning_getUserWalletId_bind {user : User} {f : WalletId → Action α}
    (huser : Authenticated P request history user)
    (hf : ∀ id, (f id).Issues (fun c => ∀ id', c.own? = some id' → id' = id))
    : (TransactionController.getUserWalletId user.id >>= f).Guarded (Owning P request)
        (fun _ _ => True) history := by
  have hread : (TransactionController.getUserWalletId user.id).Issues Command.isRead :=
    issues_getUserWalletId (fun _ hc => hc) user.id
  apply Prog.guarded_bind
  apply Prog.guarded_mono (Prog.guarded_of_issues owning_of_isRead hread
    (guarded_getUserWalletId huser))
  intro history walletId howns
  apply Prog.guarded_mono (Prog.guarded_of_obeys _ (hf walletId))
  . intro _ _ _
    trivial
  . intro history' c hle hc id hid
    rw [hc id hid]
    exact howns.mono hle

theorem own?_eq_of_isRead {id : WalletId} (c : Command) (hc : c.isRead)
    : ∀ id', c.own? = some id' → id' = id := by
  intro id' hid
  rw [own?_of_isRead hc] at hid
  cases hid

theorem own?_eq_of_some {c : Command} {id : WalletId} (hc : c.own? = some id)
    : ∀ id', c.own? = some id' → id' = id := by
  intro id' hid
  exact Option.some.inj (hid.symm.trans hc)

theorem owning_deposit {user : User} (huser : Authenticated P request history user)
    (body : Option Json) (gen : Generated)
    : (TransactionController.deposit (.ofUser user) body gen).Guarded (Owning P request)
        (fun _ _ => True) history := by
  apply owning_getUserWalletId_bind huser
  intro walletId
  exact issues_of_acts (acts_depositTo (fun _ _ => own?_eq_of_some rfl) body) own?_eq_of_isRead

theorem owning_withdraw {user : User} (huser : Authenticated P request history user)
    (body : Option Json) (gen : Generated)
    : (TransactionController.withdraw (.ofUser user) body gen).Guarded (Owning P request)
        (fun _ _ => True) history := by
  apply owning_getUserWalletId_bind huser
  intro walletId
  exact issues_of_acts (acts_withdrawFrom (fun _ _ => own?_eq_of_some rfl) body) own?_eq_of_isRead

theorem owning_transfer {user : User} (huser : Authenticated P request history user)
    (body : Option Json) (gen : Generated)
    : (TransactionController.transfer (.ofUser user) body gen).Guarded (Owning P request)
        (fun _ _ => True) history := by
  apply owning_getUserWalletId_bind huser
  intro senderWalletId
  exact issues_of_acts (acts_transferFrom (fun _ _ _ => own?_eq_of_some rfl) body) own?_eq_of_isRead

theorem own?_of_issues {user : Option RequestUser} {route : Route} {c : Command}
    (h : route.Issues user c) (hroute : route ∉ [Route.deposit, .withdraw, .transfer])
    : c.own? = none := by
  cases h with
  | read hc => exact own?_of_isRead hc
  | deposit => simp at hroute
  | withdraw => simp at hroute
  | transfer => simp at hroute
  | _ => rfl

theorem owning_handler {user : Option RequestUser} {body : Option Json}
    (hadmitted : Admitted P request history user) (hbody : validated P request = .ok body)
    : (handler P request { user := user, body := body }).Guarded (Owning P request)
        (fun _ _ => True) history := by
  by_cases hroute : request.route ∈ [Route.deposit, .withdraw, .transfer]
  . have hguard : request.route.guard = .authenticated := by
      rcases List.mem_cons.mp hroute with hr | hr
      . rw [hr]
        rfl
      . rcases List.mem_pair.mp hr with hr | hr <;> rw [hr] <;> rfl
    have hself : ∃ dbUser, Authenticated P request history dbUser
        ∧ user = some (.ofUser dbUser) := by
      cases hadmitted with
      | «open» h => cases h.symm.trans hguard
      | authenticated _ huser => exact ⟨_, huser, rfl⟩
      | authorized h => cases h.symm.trans hguard
    rcases hself with ⟨dbUser, huser, rfl⟩
    unfold handler userHandler
    rcases List.mem_cons.mp hroute with hr | hr
    . rw [hr]
      exact owning_deposit huser body _
    . rcases List.mem_pair.mp hr with hr | hr
      . rw [hr]
        exact owning_withdraw huser body _
      . rw [hr]
        exact owning_transfer huser body _
  . have hissues := @issues_handler P request { user := user, body := body } hbody
    apply Prog.guarded_mono (Prog.guarded_of_obeys _ hissues)
    . intro _ _ _
      trivial
    . intro history' c _ hc id hid
      rw [own?_of_issues hc hroute] at hid
      cases hid

theorem owning_app (P : Platform) (request : Request)
    : (app P request).Guarded (Owning P request) (fun _ _ => True) [] := by
  unfold app middlewares
  rw [Prog.bind_bind]
  apply Prog.guarded_bind
  apply Prog.guarded_mono (Prog.guarded_of_issues owning_of_isRead
    (issues_guarded P request) (guarded_guarded P request))
  intro history user hadmitted
  cases hbody : validated P request with
  | error fault => trivial
  | ok body => exact owning_handler hadmitted hbody

end Owning

/--
What a request must have been answered before it sends a command, whatever the command is.
-/
structure Warranted (P : Platform) (request : Request) (history : History) (c : Command) : Prop where
  admissible : Admissible P request history c
  owning : Owning P request history c

theorem warranted_app (P : Platform) (request : Request)
    : (app P request).Guarded (Warranted P request) (fun _ _ => True) [] := by
  apply Prog.guarded_mono (Prog.guarded_and (fun _ _ => .mk) (admissible_app P request)
    (owning_app P request))
  intro _ _ _
  trivial

section Runs

variable {ι : Type} [DecidableEq ι] {requests : ι → Request} {s : Server}

-- The command is done, whether its answer is lost or not.
theorem store_done {pre : List (SessionEvent ι)} {ev : SessionEvent ι} {i : ι} {c : Command}
    {next : c.Result → Action Response} (hev : ev.done? = some i)
    (hnext : ((serveAll P requests s pre).sessions i).rest = .call c next)
    : (serveAll P requests s (pre ++ [ev])).store =
      (Server.exec P c (serveAll P requests s pre).store).2 := by
  rw [serveAll_append_singleton]
  unfold Sessions.step
  cases ev with
  | exec j | lose j =>
    cases hev
    dsimp only
    rw [hnext]
  | fail j => cases hev

-- A turn of a request that only looks.
theorem store_of_isRead {pre : List (SessionEvent ι)} {ev : SessionEvent ι} {i : ι} {c : Command}
    {next : c.Result → Action Response} (hev : ev.session = i)
    (hnext : ((serveAll P requests s pre).sessions i).rest = .call c next) (hc : c.isRead)
    : (serveAll P requests s (pre ++ [ev])).store = (serveAll P requests s pre).store := by
  rcases @serveAll_exec ι _ P requests s pre ev with hsame | ⟨j, c', next', hdone, hnext', hstore⟩
  . exact hsame
  . cases (SessionEvent.session_of_done? hdone).symm.trans hev
    cases hnext.symm.trans hnext'
    rw [hstore]
    exact exec_of_isRead hc _

theorem warranted_of_call {pre : List (SessionEvent ι)} {i : ι} {c : Command}
    {next : c.Result → Action Response}
    (hnext : ((serveAll P requests s pre).sessions i).rest = .call c next)
    : Warranted P (requests i) ((serveAll P requests s pre).sessions i).history c := by
  have hguarded : Sessions.AllGuarded (fun i => Warranted P (requests i)) (serveAll P requests s pre) :=
    Sessions.allGuarded_run pre (fun i => warranted_app P (requests i))
  have hi := hguarded i
  rw [hnext] at hi
  exact hi.1

theorem serveAll_warranted (es : List (SessionEvent ι)) (ev : SessionEvent ι)
    : (serveAll P requests s (es ++ [ev])).store = (serveAll P requests s es).store
        ∨ ∃ i c, ev.done? = some i
          ∧ Warranted P (requests i) ((serveAll P requests s es).sessions i).history c
          ∧ (serveAll P requests s (es ++ [ev])).store =
            (Server.exec P c (serveAll P requests s es).store).2 := by
  rcases @serveAll_exec ι _ P requests s es ev with hsame | ⟨i, c, next, hev, hnext, hstore⟩
  . exact .inl hsame
  . exact .inr ⟨i, c, hev, warranted_of_call hnext, hstore⟩

end Runs

end Banking.Http
