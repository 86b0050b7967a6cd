import BankingApi.Http.Stages
import BankingApi.Store.Holding

/-!
This module contains where the locks in Redis come from: each is that of a request which has not given it
back.
-/

namespace Banking.Http

open Prog

section Entries

variable (key : IdempotencyKey) (entry : (c : Command) × c.Result)

def SetsLock : Prop :=
  ∃ now, entry = ⟨.setLock key now, .ok true⟩

-- The command has been sent, whatever has become of it.
def AsksToDelete : Prop :=
  entry.1 = .deleteLock key

def DeletesLock : Prop :=
  entry = ⟨.deleteLock key, .ok ()⟩

end Entries

-- The request has acquired the lock and has not come to `finally`.
abbrev HoldsLock (key : IdempotencyKey) (history : History) : Prop :=
  Held (SetsLock key) (AsksToDelete key) history

section Programs

variable {P : Platform} {request : Request} {key : IdempotencyKey} {history : History} {α : Type}

def Command.setsNoLock (c : Command) : Prop :=
  match c with
  | .setLock _ _ => False
  | _ => True

theorem not_holdsLock_append {c : Command} {r : c.Result} (hc : ¬SetsLock key ⟨c, r⟩)
    (h : ¬HoldsLock key history)
    : ¬HoldsLock key (history ++ [⟨c, r⟩]) := by
  intro hheld
  rcases held_append_singleton_iff.mp hheld with hsets | ⟨hheld, _⟩
  . exact hc hsets
  . exact h hheld

theorem not_setsLock {c : Command} {r : c.Result} (hc : c.setsNoLock) : ¬SetsLock key ⟨c, r⟩ := by
  rintro ⟨now, heq⟩
  cases heq
  exact hc

-- A request has no lock when it ends.
abbrev Releases (key : IdempotencyKey) (p : Action α) (history : History) : Prop :=
  p.Leaves (fun history _ => ¬HoldsLock key history) (fun history _ => ¬HoldsLock key history)
    history

theorem releases_bind {β : Type} {p : Action β} {f : β → Action α}
    (hp : p.Issues Command.setsNoLock) (h : ¬HoldsLock key history)
    (hf : ∀ b history, ¬HoldsLock key history → Releases key (f b) history)
    : Releases key (p >>= f) history := by
  have hleaves := leaves_of_obeys (I := fun history => ¬HoldsLock key history)
    (fun _ _ _ hc h => not_holdsLock_append (not_setsLock hc) h) hp h
  exact leaves_bind (leaves_mono hleaves (fun history b h => hf b history h.1) (fun _ _ h => h.1))

theorem releases_of_issues {p : Action α} (hp : p.Issues Command.setsNoLock)
    (h : ¬HoldsLock key history)
    : Releases key p history := by
  have hleaves := leaves_of_obeys (I := fun history => ¬HoldsLock key history)
    (fun _ _ _ hc h => not_holdsLock_append (not_setsLock hc) h) hp h
  exact leaves_mono hleaves (fun _ _ h => h.1) (fun _ _ h => h.1)

theorem setsNoLock_of_isRead (c : Command) (hc : c.isRead) : c.setsNoLock := by
  cases c <;> trivial

theorem setsNoLock_of_issues {user : Option RequestUser} {route : Route} {c : Command}
    (h : route.Issues user c) (hroute : route ≠ .createPayment)
    : c.setsNoLock := by
  cases h with
  | read hc => exact setsNoLock_of_isRead c hc
  | setLock => exact absurd rfl hroute
  | _ => trivial

theorem setsNoLock_transact (body : Option Json) (createdBy : UserId) (key : IdempotencyKey)
    (gen : Generated)
    : (PaymentService.transact body createdBy key gen).Issues Command.setsNoLock := by
  unfold PaymentService.transact
  split
  . exact issues_query trivial
  . exact obeys_mono (obeys_refusedBlock body) setsNoLock_of_isRead (fun _ => id)
      (fun _ _ => trivial)

-- What the lock is held for, and `finally`.
theorem releases_ensure {key' : IdempotencyKey} {p : Action α} (hp : p.Issues Command.setsNoLock)
    (h : key' = key ∨ ¬HoldsLock key history)
    : Releases key (p.ensure (query (.deleteLock key'))) history := by
  have hdelete : ∀ history, key' = key ∨ ¬HoldsLock key history → ∀ r,
      ¬HoldsLock key (history ++ [⟨.deleteLock key', r⟩]) := by
    rintro history (rfl | hnot) r
    . intro hheld
      rcases held_append_singleton_iff.mp hheld with ⟨_, heq⟩ | ⟨_, hasks⟩
      . cases heq
      . exact hasks rfl
    . exact not_holdsLock_append (not_setsLock (by trivial)) hnot
  have hkeeps : ∀ history (c : Command) (r : c.Result), c.setsNoLock →
      (key' = key ∨ ¬HoldsLock key history) →
      (key' = key ∨ ¬HoldsLock key (history ++ [⟨c, r⟩])) := by
    intro history c r hc h
    exact h.imp_right (not_holdsLock_append (not_setsLock hc))
  apply leaves_ensure
  apply leaves_mono (leaves_of_obeys hkeeps hp h)
  . rintro history a ⟨h, _⟩ r
    cases r <;> exact hdelete history h _
  . rintro history e ⟨h, _⟩ r
    cases r <;> exact hdelete history h _

theorem releases_processPayment (body : Option Json) (createdBy : UserId)
    (idempotencyKey : Option String) (now : ℕ) (gen : Generated) (h : ¬HoldsLock key history)
    : Releases key (PaymentService.processPayment body createdBy idempotencyKey now gen) history := by
  unfold PaymentService.processPayment
  split
  . exact h
  . next key' _ =>
    have hlooks : (query (.getResponse key' now)).Issues Command.setsNoLock := issues_query trivial
    apply releases_bind hlooks h
    intro cachedResponse history h
    cases cachedResponse with
    | some payment => exact h
    | none =>
      intro r
      match r with
      | .error e =>
        apply not_holdsLock_append _ h
        rintro ⟨_, heq⟩
        cases heq
      | .ok false =>
        apply not_holdsLock_append _ h
        rintro ⟨_, heq⟩
        cases heq
      | .ok true =>
        apply releases_ensure
        . apply issues_bind (setsNoLock_transact body createdBy key' gen)
          intro payment
          apply issues_query_bind trivial
          intro _
          apply issues_query_bind trivial
          intro _
          trivial
        . by_cases heq : key' = key
          . exact .inl heq
          . right
            apply not_holdsLock_append _ h
            rintro ⟨_, hentry⟩
            cases hentry
            exact heq rfl

theorem releases_app (P : Platform) (request : Request) (key : IdempotencyKey)
    : Releases key (app P request) [] := by
  by_cases hroute : request.route = .createPayment
  . rw [app_createPayment hroute]
    apply releases_bind _ not_held_nil
    . intro user history h
      exact leaves_bind (releases_processPayment request.body user.id _ _ _ h)
    . exact obeys_mono (issues_authenticate P request) setsNoLock_of_isRead (fun _ => id) (fun _ => id)
  . apply releases_of_issues _ not_held_nil
    exact issues_app setsNoLock_of_isRead (fun _ _ hc => setsNoLock_of_issues hc hroute)

-- The lock that a request asks for is that of its key.
def LocksOwn (request : Request) (c : Command) : Prop :=
  ∀ key now, c = .setLock key now → request.route = .createPayment
    ∧ (request.header? "idempotency-key").filter (· ≠ "") = some key ∧ now = request.draw.now

theorem locksOwn_of_setsNoLock (c : Command) (hc : c.setsNoLock) : LocksOwn request c := by
  rintro key now rfl
  exact hc.elim

theorem locksOwn_processPayment (hroute : request.route = .createPayment) (createdBy : UserId)
    : (PaymentService.processPayment request.body createdBy (request.header? "idempotency-key")
        request.draw.now request.draw.gen).Issues (LocksOwn request) := by
  have hno : ∀ {c : Command}, c.setsNoLock → LocksOwn request c := locksOwn_of_setsNoLock _
  unfold PaymentService.processPayment
  split
  . trivial
  . next key hkey =>
    apply issues_query_bind (hno (by trivial))
    intro cachedResponse
    cases cachedResponse with
    | some payment => trivial
    | none =>
      apply issues_query_bind
      . rintro key' now ⟨⟩
        exact ⟨hroute, hkey, rfl⟩
      . intro isLocked
        split
        . apply obeys_ensure
          . apply issues_bind (obeys_mono (setsNoLock_transact request.body createdBy key _)
              locksOwn_of_setsNoLock (fun _ => id) (fun _ => id))
            intro payment
            apply issues_query_bind (hno (by trivial))
            intro _
            apply issues_query_bind (hno (by trivial))
            intro _
            trivial
          . exact issues_query (hno (by trivial))
        . trivial

theorem locksOwn_app (P : Platform) (request : Request)
    : (app P request).Issues (LocksOwn request) := by
  have hread : ∀ c : Command, c.isRead → LocksOwn request c :=
    fun c hc => locksOwn_of_setsNoLock c (setsNoLock_of_isRead c hc)
  by_cases hroute : request.route = .createPayment
  . rw [app_createPayment hroute]
    apply issues_bind (obeys_mono (issues_authenticate P request) hread (fun _ => id) (fun _ => id))
    intro user
    apply issues_bind (locksOwn_processPayment hroute user.id)
    intro payment
    trivial
  . apply issues_app hread
    intro user c hc
    exact locksOwn_of_setsNoLock c (setsNoLock_of_issues hc hroute)

end Programs

section Runs

variable {ι : Type} [DecidableEq ι] {P : Platform} {requests : ι → Request} {s : Server}
  {es : List (SessionEvent ι)} {i : ι} {key : IdempotencyKey} {expires : ℕ}

-- The request was told that the lock could not be set, and it was.
def LostLock (P : Platform) (requests : ι → Request) (s : Server) (es : List (SessionEvent ι))
    (key : IdempotencyKey) (now : ℕ) (i : ι)
    : Prop :=
  ∃ pre next, pre ++ [.lose i] <+: es
    ∧ ((serveAll P requests s pre).sessions i).rest = .call (.setLock key now) next
    ∧ (Server.exec P (.setLock key now) (serveAll P requests s pre).store).1 = .ok true

/--
The request still has to give the lock back, or it could not reach Redis when it did, or it does not know
that the lock is its own.
-/
inductive Owes (P : Platform) (requests : ι → Request) (s : Server) (es : List (SessionEvent ι))
    (key : IdempotencyKey) (i : ι)
    : Prop where
  | serving (h : HoldsLock key ((serveAll P requests s es).sessions i).history)
      (hcall : ∃ c next, ((serveAll P requests s es).sessions i).rest = .call c next)
  | unreachable {e} (h : ⟨.deleteLock key, .error e⟩ ∈ ((serveAll P requests s es).sessions i).history)
  | lost {now} (h : LostLock P requests s es key now i)

-- Each lock was set by a request that has not deleted it since, or that does not know of it.
def LocksHeld (P : Platform) (requests : ι → Request) (s : Server) (es : List (SessionEvent ι))
    : Prop :=
  ∀ key expires, (serveAll P requests s es).store.locks key = some expires →
    ∃ i now, expires = now + 10
      ∧ (Held (· = ⟨.setLock key now, .ok true⟩) (DeletesLock key)
          ((serveAll P requests s es).sessions i).history
        ∨ LostLock P requests s es key now i)

theorem locks_commit {α : Type} (s : Server) (r : Except Failure (α × Store))
    : (s.commit r).2.locks = s.locks := by
  cases r <;> rfl

theorem locks_exec {c : Command} (hset : ∀ key now, c ≠ .setLock key now)
    (hdelete : ∀ key, c ≠ .deleteLock key) (s : Server)
    : (Server.exec P c s).2.locks = s.locks := by
  cases c
  case setLock key now => exact absurd rfl (hset key now)
  case deleteLock key => exact absurd rfl (hdelete key)
  all_goals first | rfl | exact locks_commit s _

theorem exec_setLock_cases (P : Platform) (key : IdempotencyKey) (now : ℕ) (s : Server)
    : Server.exec P (.setLock key now) s = (.ok false, s)
        ∨ Server.exec P (.setLock key now) s =
          (.ok true, { s with locks := Function.update s.locks key (some (now + 10)) }) := by
  unfold Server.exec
  dsimp only
  split
  . exact .inl rfl
  . exact .inr rfl

-- As long as there is a lock, nobody has deleted it.
theorem held_kept {takes : (c : Command) × c.Result → Prop} {ev : SessionEvent ι}
    (h : Held takes (DeletesLock key) ((serveAll P requests s es).sessions i).history)
    (hlock : (serveAll P requests s (es ++ [ev])).store.locks key ≠ none)
    : Held takes (DeletesLock key) ((serveAll P requests s (es ++ [ev])).sessions i).history := by
  rcases Sessions.session_step_cases (Server.exec P) (fun _ => .error .connection)
    (serveAll P requests s es) i ev with hsame | ⟨c, next, r, hcall, hr, hnew⟩
  . rwa [serveAll_append_singleton, hsame]
  . rw [serveAll_append_singleton, hnew]
    apply held_append_singleton_iff.mpr
    refine .inr ⟨h, ?_⟩
    intro hdeletes
    cases hdeletes
    rcases hr with ⟨rfl, _⟩ | ⟨_, hr⟩
    . rw [store_done (by rfl) hcall] at hlock
      exact hlock (Function.update_self _ _ _)
    . cases hr

theorem history_exec {c : Command} {next : c.Result → Action Response}
    (hnext : ((serveAll P requests s es).sessions i).rest = .call c next)
    : ((serveAll P requests s (es ++ [.exec i])).sessions i).history =
      ((serveAll P requests s es).sessions i).history
        ++ [⟨c, (Server.exec P c (serveAll P requests s es).store).1⟩] := by
  rw [serveAll_append_singleton]
  unfold Sessions.step Sessions.answer
  dsimp only
  rw [hnext]
  dsimp only
  rw [Function.update_self]

theorem locksHeld_step {ev : SessionEvent ι} (ih : LocksHeld P requests s es)
    : LocksHeld P requests s (es ++ [ev]) := by
  intro key expires h
  by_cases hold : (serveAll P requests s es).store.locks key = some expires
  . rcases ih key expires hold with ⟨i, now, hexpires, hheld | ⟨pre, next, hle, hlost⟩⟩
    . exact ⟨i, now, hexpires, .inl (held_kept hheld (by simp [h]))⟩
    . exact ⟨i, now, hexpires, .inr ⟨pre, next, hle.trans (List.prefix_append _ _), hlost⟩⟩
  . rcases @serveAll_exec ι _ P requests s es ev with hsame | ⟨i, c, next, hev, hnext, hstore⟩
    . rw [hsame] at h
      exact absurd h hold
    . rw [hstore] at h
      cases c
      case setLock key' now =>
        rcases exec_setLock_cases P key' now (serveAll P requests s es).store with hexec | hexec
        . rw [hexec] at h
          exact absurd h hold
        . rw [hexec] at h
          change Function.update (serveAll P requests s es).store.locks key' _ key = _ at h
          by_cases heq : key = key'
          . subst heq
            rw [Function.update_self] at h
            cases h
            refine ⟨i, now, rfl, ?_⟩
            cases ev with
            | exec j =>
              cases hev
              left
              rw [history_exec hnext, hexec]
              exact held_append_singleton_iff.mpr (.inl rfl)
            | lose j =>
              cases hev
              exact .inr ⟨es, next, List.prefix_rfl, hnext, congrArg Prod.fst hexec⟩
            | fail j => cases hev
          . rw [Function.update_of_ne heq] at h
            exact absurd h hold
      case deleteLock key' =>
        change Function.update (serveAll P requests s es).store.locks key' none key = _ at h
        by_cases heq : key = key'
        . rw [heq, Function.update_self] at h
          cases h
        . rw [Function.update_of_ne heq] at h
          exact absurd h hold
      all_goals
        rw [locks_exec _ _] at h
        . exact absurd h hold
        all_goals
          intros
          simp

theorem locksHeld_serveAll (hs : ∀ key, s.locks key = none) (es : List (SessionEvent ι))
    : LocksHeld P requests s es := by
  induction es using List.reverseRecOn with
  | nil =>
    intro key expires h
    cases (hs key).symm.trans h
  | append_singleton es ev ih => exact locksHeld_step ih

-- A request that has come to an end has come to `finally` before.
theorem not_holdsLock_of_ended
    (hended : ∀ c next, ((serveAll P requests s es).sessions i).rest ≠ .call c next)
    : ¬HoldsLock key ((serveAll P requests s es).sessions i).history := by
  have hreleases : Releases key ((serveAll P requests s es).sessions i).rest
      ((serveAll P requests s es).sessions i).history :=
    Sessions.leaves_run (releases_app P (requests i) key) es
  cases h : ((serveAll P requests s es).sessions i).rest with
  | ret response =>
    rw [h] at hreleases
    exact hreleases
  | throw fault =>
    rw [h] at hreleases
    exact hreleases
  | call c next => exact absurd h (hended c next)

theorem owes_of_held {now : ℕ}
    (h : Held (· = ⟨.setLock key now, .ok true⟩) (DeletesLock key)
      ((serveAll P requests s es).sessions i).history)
    : Owes P requests s es key i := by
  rcases h with ⟨before, entry, after, hhistory, rfl, hafter⟩
  by_cases hasks : ∃ e ∈ after, AsksToDelete key e
  . rcases hasks with ⟨⟨c, r⟩, hmem, hc⟩
    cases hc
    cases r with
    | ok u => exact absurd rfl (hafter _ hmem)
    | error e =>
      apply Owes.unreachable
      rw [hhistory]
      exact List.mem_append_right _ (List.mem_cons_of_mem _ hmem)
  . have hholds : HoldsLock key ((serveAll P requests s es).sessions i).history :=
      ⟨before, _, after, hhistory, ⟨now, rfl⟩, fun e he hgives => hasks ⟨e, he, hgives⟩⟩
    apply Owes.serving hholds
    by_contra hcall
    exact not_holdsLock_of_ended (fun c next h => hcall ⟨c, next, h⟩) hholds

theorem own_of_call {now : ℕ} {pre : List (SessionEvent ι)}
    {next : (Command.setLock key now).Result → Action Response}
    (hnext : ((serveAll P requests s pre).sessions i).rest = .call (.setLock key now) next)
    : (requests i).route = .createPayment
        ∧ ((requests i).header? "idempotency-key").filter (· ≠ "") = some key
        ∧ now = (requests i).draw.now := by
  have happ : (app P (requests i)).Obeys (LocksOwn (requests i)) (fun _ => True) (fun _ => True) :=
    locksOwn_app P (requests i)
  have hobeys : ((serveAll P requests s pre).sessions i).rest.Obeys (LocksOwn (requests i))
      (fun _ => True) (fun _ => True) :=
    Sessions.obeys_run happ pre
  rw [hnext] at hobeys
  exact hobeys.1 key now rfl

theorem own_of_held {now : ℕ}
    (h : Held (· = ⟨.setLock key now, .ok true⟩) (DeletesLock key)
      ((serveAll P requests s es).sessions i).history)
    : (requests i).route = .createPayment
        ∧ ((requests i).header? "idempotency-key").filter (· ≠ "") = some key
        ∧ now = (requests i).draw.now := by
  have hmem : ⟨.setLock key now, .ok true⟩ ∈ ((serveAll P requests s es).sessions i).history := by
    rcases h with ⟨before, entry, after, hhistory, rfl, _⟩
    rw [hhistory]
    simp
  rcases Sessions.asked_of_mem rfl hmem with ⟨pre, next, hnext, _⟩
  exact own_of_call hnext

/--
No lock is left behind. Whatever is served side by side, and whatever fails: each lock in Redis is that of
a payment with its key, which is still being served, or could not reach Redis when it gave the lock back,
or lost the answer that told it of the lock.
-/
theorem locks_given_back (P : Platform) (requests : ι → Request) (hs : ∀ key, s.locks key = none)
    (es : List (SessionEvent ι)) (h : (serveAll P requests s es).store.locks key = some expires)
    : ∃ i, (requests i).route = .createPayment
        ∧ ((requests i).header? "idempotency-key").filter (· ≠ "") = some key
        ∧ expires = (requests i).draw.now + 10 ∧ Owes P requests s es key i := by
  rcases locksHeld_serveAll hs es key expires h with ⟨i, now, rfl, hheld | hlost⟩
  . rcases own_of_held hheld with ⟨hroute, hkey, rfl⟩
    exact ⟨i, hroute, hkey, rfl, owes_of_held hheld⟩
  . rcases hlost with ⟨pre, next, hle, hnext, hanswer⟩
    rcases own_of_call hnext with ⟨hroute, hkey, rfl⟩
    exact ⟨i, hroute, hkey, rfl, .lost ⟨pre, next, hle, hnext, hanswer⟩⟩

end Runs

-- A payment that has just acquired its lock.
theorem locks_given_back_after_setLock
    : ∃ i : Unit, (samplePaymentRequest samplePaymentBody).route = .createPayment
        ∧ ((samplePaymentRequest samplePaymentBody).header? "idempotency-key").filter (· ≠ "") =
          some "XYZ"
        ∧ 10 = (samplePaymentRequest samplePaymentBody).draw.now + 10
        ∧ Owes samplePlatform (fun _ => samplePaymentRequest samplePaymentBody) retriedServer
          (List.replicate 3 (.exec ())) "XYZ" i :=
  locks_given_back samplePlatform (fun _ => samplePaymentRequest samplePaymentBody) (fun _ => rfl)
    (List.replicate 3 (.exec ())) rfl

end Banking.Http
