import BankingApi.Http.Effects

/-!
This module contains two servers that differ in some columns of users, and the commands that do not tell
them apart.
-/

namespace Banking.Http

/--
What `e` takes out of a user is neither its key nor a unique column, and a change does not depend on it.
-/
structure Erases (e : User → User) : Prop where
  id : ∀ u, (e u).id = u.id
  customerId : ∀ u, (e u).customerId = u.customerId
  email : ∀ u, (e u).email = u.email
  apply : ∀ (change : UserChange) u, e (change.apply (e u)) = e (change.apply u)

-- A change of nothing is a change.
theorem Erases.erase_erase {e : User → User} (he : Erases e) (u : User) : e (e u) = e u :=
  he.apply (.role none) u

/--
The servers are equal, but for what `e` takes out of users.
-/
structure AlikeUpTo (e : User → User) (s s' : Server) : Prop where
  users : s.store.users.rows.map e = s'.store.users.rows.map e
  rest : s' = s.setUsers s'.store.users

-- What `e` leaves of an answer.
def Command.erase (e : User → User) (c : Command) : c.Value → c.Value :=
  match c with
  | .createUser _ => e
  | .findUserByEmail _ => Option.map e
  | .findUserById _ => Option.map e
  | .findUserByRefreshToken _ => Option.map e
  | .getAllUsers _ => List.map e
  | .updateUser _ _ => e
  | .updateProfile _ _ => e
  | _ => id

-- No command but these looks at a password or a refresh token.
def Command.overlooksSecrets (c : Command) : Prop :=
  match c with
  | .findUserByRefreshToken _ => False
  | .updateProfile _ data => "body" ∈ data.map Prod.fst
  | _ => True

theorem blind_query_bind_of_values {α : Type} {C : Command → Prop}
    {scrub : (c : Command) → c.Value → c.Value} {c : Command} {f : c.Value → Action α} (hc : C c)
    (hf : ∀ a, f a = f (scrub c a))
    (hblind : ∀ a, (f a).Blind C (fun c r => r.map (scrub c)))
    : (query c >>= f).Blind C (fun c r => r.map (scrub c)) := by
  refine ⟨hc, ?_⟩
  intro r
  cases r with
  | ok a => exact ⟨hf a, hblind a⟩
  | error e => exact ⟨rfl, trivial⟩

section Rows

variable {α β : Type} {as bs : List α} {e : α → α}

theorem map_eq_of_map_eq {f : α → β} (hf : ∀ a, f (e a) = f a) (h : as.map e = bs.map e)
    : as.map f = bs.map f := by
  have := congrArg (List.map f) h
  simpa [Function.comp_def, hf] using this

theorem find?_eq_of_map_eq {p : α → Bool} (hp : ∀ a, p (e a) = p a) (h : as.map e = bs.map e)
    : (as.find? p).map e = (bs.find? p).map e := by
  have := congrArg (List.find? p) h
  simpa [List.find?_map, Function.comp_def, hp] using this

end Rows

variable {e : User → User} {s s' : Server}

namespace AlikeUpTo

theorem refl (e : User → User) (s : Server) : AlikeUpTo e s s := ⟨rfl, rfl⟩

theorem find? (he : Erases e) (h : AlikeUpTo e s s') (id : UserId)
    : (s.store.users.find? id).map e = (s'.store.users.find? id).map e :=
  find?_eq_of_map_eq (fun u => by rw [he.id]) h.users

theorem has {β : Type} [DecidableEq β] {col : User → β} (hcol : ∀ u, col (e u) = col u)
    (h : AlikeUpTo e s s') (v : β)
    : s.store.users.has col v = s'.store.users.has col v := by
  unfold Table.has
  have := congrArg (fun rows => rows.any (fun u => col u = v)) h.users
  simpa [Function.comp_def, hcol] using this

theorem isSome_find? (he : Erases e) (h : AlikeUpTo e s s') (id : UserId)
    : (s'.store.users.find? id).isSome = (s.store.users.find? id).isSome := by
  simpa using congrArg Option.isSome (h.find? he id).symm

theorem exists_eq (h : AlikeUpTo e s s') : ∃ users, s' = s.setUsers users :=
  ⟨_, h.rest⟩

theorem setUsers {users users' : Table User.id} (h : users.rows.map e = users'.rows.map e)
    (s : Server)
    : AlikeUpTo e (s.setUsers users) (s.setUsers users') where
  users := h
  rest := rfl

end AlikeUpTo

section Exec

variable {P : Platform}

-- Two answers with what they leave behind do not differ in anything but what `e` takes out.
def AlikeUpToAfter (e : User → User) (c : Command) (r r' : c.Result × Server) : Prop :=
  r.1.map (c.erase e) = r'.1.map (c.erase e) ∧ AlikeUpTo e r.2 r'.2

theorem alikeUpTo_createUser (he : Erases e) (h : AlikeUpTo e s s') (row : User)
    : AlikeUpToAfter e (.createUser row) (Server.exec P (.createUser row) s)
        (Server.exec P (.createUser row) s') := by
  have hiff : (s'.store.users.find? row.id).isSome ∨ s'.store.users.has User.customerId row.customerId
        ∨ s'.store.users.has User.email row.email ↔
      (s.store.users.find? row.id).isSome ∨ s.store.users.has User.customerId row.customerId
        ∨ s.store.users.has User.email row.email := by
    rw [h.isSome_find? he, h.has he.customerId, h.has he.email]
  unfold Server.exec Server.createUser
  dsimp only
  by_cases htext : ¬(isText row.fullName = true ∧ isText row.email = true)
  . rw [if_pos htext, if_pos htext]
    exact ⟨rfl, h⟩
  rw [if_neg htext, if_neg htext]
  by_cases hused : (s.store.users.find? row.id).isSome ∨ s.store.users.has User.customerId row.customerId
      ∨ s.store.users.has User.email row.email
  . rw [if_pos hused, if_pos (hiff.mpr hused)]
    exact ⟨rfl, h⟩
  . rw [if_neg hused, if_neg (mt hiff.mp hused)]
    refine ⟨rfl, ?_⟩
    have hfresh : s.store.users.find? row.id = none := by
      simpa using mt Or.inl hused
    have hfresh' : s'.store.users.find? row.id = none := by
      simpa [hfresh] using h.isSome_find? he row.id
    have hrows : (s.store.users.insert row).rows.map e = (s'.store.users.insert row).rows.map e := by
      rw [Table.rows_insert hfresh, Table.rows_insert hfresh', List.map_append, List.map_append,
        h.users]
    rcases h.exists_eq with ⟨users, rfl⟩
    exact .setUsers hrows s

theorem alikeUpTo_updateUser (he : Erases e) (h : AlikeUpTo e s s') (id : UserId)
    (change : UserChange)
    : AlikeUpToAfter e (.updateUser id change) (Server.exec P (.updateUser id change) s)
        (Server.exec P (.updateUser id change) s') := by
  have hfind := h.find? he id
  cases hrow : s.store.users.find? id with
  | none =>
    have hrow' : s'.store.users.find? id = none := by simpa [hrow] using hfind
    rw [exec_updateUser_of_not_find? P hrow, exec_updateUser_of_not_find? P hrow']
    exact ⟨rfl, h⟩
  | some row =>
    cases hrow' : s'.store.users.find? id with
    | none => simp [hrow, hrow'] at hfind
    | some row' =>
      rw [hrow, hrow', Option.map_some, Option.map_some, Option.some.injEq] at hfind
      rw [exec_updateUser_of_find? P hrow, exec_updateUser_of_find? P hrow']
      constructor
      . change Except.ok (e (change.apply row)) = Except.ok (e (change.apply row'))
        rw [← he.apply, hfind, he.apply]
      . have hrows : (s.store.users.update id change.apply change.id_apply).rows.map e =
            (s'.store.users.update id change.apply change.id_apply).rows.map e := by
          unfold Table.update
          rw [List.map_map, List.map_map]
          apply map_eq_of_map_eq _ h.users
          intro u
          dsimp only [Function.comp_def]
          rw [he.id]
          split
          . exact he.apply change u
          . exact he.erase_erase u
        rcases h.exists_eq with ⟨users, rfl⟩
        exact .setUsers hrows s

theorem alikeUpTo_exec {c : Command} (he : Erases e) (hc : c.overlooksSecrets)
    (h : AlikeUpTo e s s')
    : AlikeUpToAfter e c (Server.exec P c s) (Server.exec P c s') := by
  by_cases hkeeps : c.keepsUsers
  . by_cases hreads : c.readsUsers
    . cases c
      case findUserByEmail =>
        exact ⟨congrArg Except.ok (find?_eq_of_map_eq (fun u => by rw [he.email]) h.users), h⟩
      case findUserById id => exact ⟨congrArg Except.ok (h.find? he id), h⟩
      case findUserByRefreshToken => cases hc
      case getAllUsers scan =>
        refine ⟨congrArg Except.ok ?_, h⟩
        change (scan.list _ _).map e = (scan.list _ _).map e
        rw [scan.map_list he.id, scan.map_list he.id, h.users]
      all_goals cases hreads
    . have husers := users_exec hkeeps (P := P) (s := s)
      rcases h.exists_eq with ⟨users, rfl⟩
      have hisSome : ∀ id, (users.find? id).isSome = (s.store.users.find? id).isSome :=
        h.isSome_find? he
      rw [exec_setUsers hkeeps hreads hisSome]
      refine ⟨rfl, ?_, rfl⟩
      rw [husers]
      exact h.users
  . cases c
    case createUser row => exact alikeUpTo_createUser he h row
    case updateUser id change => exact alikeUpTo_updateUser he h id change
    case updateProfile id data =>
      rw [exec_updateProfile hc, exec_updateProfile hc]
      exact ⟨rfl, h⟩
    all_goals exact absurd trivial hkeeps

end Exec

end Banking.Http
