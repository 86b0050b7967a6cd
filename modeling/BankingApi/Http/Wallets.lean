import BankingApi.Http.Routes
import BankingApi.Store.Sessions

/-!
This module contains the life of wallets: the calls of `wallet.service.js` side by side, whose wallets
there are, and who gets a new one.
-/

namespace Banking.Http

inductive WalletRequest where
  | createWallet (userId : UserId) (currency : Option String) (id : WalletId) (walletNumber : String)
  | freezeWallet (walletId : WalletId)
  | unfreezeWallet (walletId : WalletId)
  | closeWallet (walletId : WalletId)

def WalletRequest.action (request : WalletRequest) : Action Wallet :=
  match request with
  | .createWallet userId currency id walletNumber =>
    WalletService.createWallet userId currency id walletNumber
  | .freezeWallet walletId => WalletService.freezeWallet walletId
  | .unfreezeWallet walletId => WalletService.unfreezeWallet walletId
  | .closeWallet walletId => WalletService.closeWallet walletId

/--
The calls side by side, one command at a time. A command may fail.
-/
def serveWallets {ι : Type} [DecidableEq ι] (P : Platform) (requests : ι → WalletRequest) (s : Server)
    (es : List (SessionEvent ι))
    : Sessions Command Command.Result Fault Server ι Wallet :=
  Run.run (Sessions.step (Server.exec P) (fun _ => .error .connection))
    (.init (fun i => (requests i).action) s) es

/--
No two wallets have the same user, and every wallet has one.
-/
structure Owners (s : Store) : Prop where
  unique : (s.wallets.rows.map Wallet.userId).Nodup
  exist : ∀ w ∈ s.wallets.rows, (s.users.find? w.userId).isSome

-- The commands that the calls send.
def Command.isWallet (c : Command) : Prop :=
  match c with
  | .findUserById _ => True
  | .createWallet _ => True
  | .findWalletById _ => True
  | .findWalletByUserId _ => True
  | .updateWalletStatus _ _ => True
  | _ => False

section Owners

variable {P : Platform} {s s' : Store}

theorem obeys_action (request : WalletRequest)
    : request.action.Obeys Command.isWallet (fun _ => True) (fun _ => True) := by
  have hstatus : ∀ walletId status closed, (WalletService.changeStatus walletId status closed).Obeys
      Command.isWallet (fun _ => True) (fun _ => True) := by
    intro walletId status closed
    apply Prog.obeys_bind (obeys_query_of_command (.findWalletById walletId) trivial)
    intro wallet
    cases wallet with
    | none => trivial
    | some wallet =>
      dsimp only
      split
      . trivial
      . exact obeys_query_of_command (.updateWalletStatus walletId status) trivial
  cases request with
  | createWallet userId currency id walletNumber =>
    apply Prog.obeys_bind
    . apply Prog.obeys_bind (obeys_query_of_command (.findUserById userId) trivial)
      intro user
      cases user <;> trivial
    . intro _
      apply Prog.obeys_bind (obeys_query_of_command (.findWalletByUserId userId) trivial)
      intro existingWallet
      split
      . trivial
      . exact obeys_query_of_command (.createWallet _) trivial
  | _ => exact hstatus _ _ _

theorem Owners.createWallet {row w : Wallet} (h : Owners s)
    (hcreate : WalletRepository.createWallet s row = .ok (w, s'))
    : Owners s' := by
  rcases WalletRepository.createWallet_eq_ok_iff.mp hcreate
    with ⟨hfresh, _, hunique, huser, rfl, rfl⟩
  constructor
  . exact Table.nodup_map_insert hfresh hunique h.unique
  . intro w' hw'
    change w' ∈ (s.wallets.insert w).rows at hw'
    rw [Table.rows_insert hfresh, List.mem_append, List.mem_singleton] at hw'
    rcases hw' with hw' | rfl
    . exact h.exist w' hw'
    . exact huser

theorem Owners.setStatus (h : Owners s) (id : WalletId) (status : WalletStatus)
    : Owners (s.setStatus id status) where
  unique := by
    unfold Store.setStatus
    rw [Table.map_update]
    . exact h.unique
    . intro w
      rfl
  exist := by
    intro w hw
    unfold Store.setStatus at hw
    rw [Table.mem_rows_update] at hw
    rcases hw with ⟨w', hw', _, rfl⟩ | ⟨hw', _⟩
    . exact h.exist w' hw'
    . exact h.exist w hw'

theorem owners_exec {c : Command} {s : Server} (hc : c.isWallet) (h : Owners s.store)
    : Owners (Server.exec P c s).2.store := by
  cases c with
  | findUserById => exact h
  | findWalletById => exact h
  | findWalletByUserId => exact h
  | createWallet row =>
    change Owners (s.commit (WalletRepository.createWallet s.store row)).2.store
    unfold Server.commit
    split
    . next hcreate => exact h.createWallet hcreate
    . exact h
  | updateWalletStatus id status =>
    change Owners (s.commit
      ((WalletRepository.updateWalletStatus id status .global).run database s.store)).2.store
    unfold Server.commit
    split
    . next hrun =>
      rcases run_updateWalletStatus_eq_ok_iff.mp hrun with ⟨_, _, _, rfl⟩
      exact h.setStatus id status
    . exact h
  | _ => cases hc

theorem owners_serveWallets {ι : Type} [DecidableEq ι] {requests : ι → WalletRequest} {s : Server}
    (es : List (SessionEvent ι)) (hs : Owners s.store)
    : Owners (serveWallets P requests s es).store.store :=
  Sessions.store_run_of_obeys (I := fun s : Server => Owners s.store)
    (fun i => obeys_action (requests i)) (fun _ _ => owners_exec) es hs

end Owners

section Creation

variable {P : Platform} {s : Server} {userId : UserId} {currency : Option String} {id : WalletId}
  {walletNumber : String}

def Creates (P : Platform) (s : Server) (userId : UserId) (currency : Option String) (id : WalletId)
    (walletNumber : String)
    : Prop :=
  ∃ w s', (WalletService.createWallet userId currency id walletNumber).serve (Server.exec P) s =
    (.ok w, s')

-- The user exists and has no wallet whose status is other than CLOSED.
def Eligible (s : Store) (userId : UserId) : Prop :=
  (s.users.find? userId).isSome ∧ ∀ w ∈ s.wallets.rows, w.userId = userId → w.status = .CLOSED

theorem serve_createWallet_eq_ok_iff {row : Wallet}
    : (∃ w s', (query (.createWallet row)).serve (Server.exec P) s = (.ok w, s')) ↔
      ∃ w store', WalletRepository.createWallet s.store row = .ok (w, store') := by
  unfold query
  rw [Prog.serve_call]
  dsimp only [Server.exec]
  unfold Server.commit
  cases WalletRepository.createWallet s.store row with
  | error e => simp
  | ok res => exact ⟨fun _ => ⟨_, _, rfl⟩, fun _ => ⟨_, _, rfl⟩⟩

theorem creates_iff (hid : s.store.wallets.find? id = none)
    (hnumber : s.store.wallets.has Wallet.walletNumber walletNumber = false)
    : Creates P s userId currency id walletNumber ↔
      (s.store.users.find? userId).isSome ∧ s.store.wallets.has Wallet.userId userId = false := by
  unfold Creates WalletService.createWallet UserService.existingUser
  rw [Prog.bind_bind, UserRepository.serve_findUserById]
  cases hfind : s.store.users.find? userId with
  | none => simp [fail]
  | some user =>
    have hexec : Server.exec P (.findWalletByUserId userId) s =
        (.ok (WalletRepository.findWalletByUserId s.store userId), s) := rfl
    dsimp only
    rw [Prog.ret_bind, serve_query_of_ok hexec]
    cases hhas : s.store.wallets.has Wallet.userId userId with
    | false =>
      have hnone : WalletRepository.findWalletByUserId s.store userId = none := by
        simpa [WalletRepository.findWalletByUserId] using Table.has_eq_false_iff.mp hhas
      rw [hnone, if_neg (by simp), serve_createWallet_eq_ok_iff]
      simp [WalletRepository.createWallet_eq_ok_iff, hid, hnumber, hhas, hfind]
    | true =>
      -- A wallet of the user that is closed still holds its `userId`.
      split
      . simp [fail]
      . rw [serve_createWallet_eq_ok_iff]
        simp [WalletRepository.createWallet_eq_ok_iff, hhas]

theorem Owners.creates_iff_eligible_iff (h : Owners s.store) (hid : s.store.wallets.find? id = none)
    (hnumber : s.store.wallets.has Wallet.walletNumber walletNumber = false)
    : (Creates P s userId currency id walletNumber ↔ Eligible s.store userId) ↔
      ∀ w ∈ s.store.wallets.rows, w.userId = userId → w.status ≠ .CLOSED := by
  rw [creates_iff hid hnumber, Table.has_eq_false_iff, Eligible]
  constructor
  . intro heq w hw huser hclosed
    have hall : ∀ w' ∈ s.store.wallets.rows, w'.userId = userId → w'.status = .CLOSED := by
      intro w' hw' huser'
      rw [List.inj_on_of_nodup_map h.unique hw' hw (huser'.trans huser.symm)]
      exact hclosed
    have hexists := h.exist w hw
    rw [huser] at hexists
    exact (heq.mpr ⟨hexists, hall⟩).2 w hw huser
  . intro hopen
    constructor
    . rintro ⟨hexists, hnone⟩
      refine ⟨hexists, ?_⟩
      intro w hw huser
      exact absurd huser (hnone w hw)
    . rintro ⟨hexists, hall⟩
      refine ⟨hexists, ?_⟩
      intro w hw huser
      exact hopen w hw huser (hall w hw huser)

/--
In every state that the calls reach, no user has two wallets that are not CLOSED, and a user gets a new
wallet in the cases the rule names exactly if the user has no wallet that is CLOSED.
-/
theorem wallet_creation_rule_iff {ι : Type} [DecidableEq ι] (P : Platform)
    (requests : ι → WalletRequest) {s : Server} (hs : s.store.wallets = .empty)
    (es : List (SessionEvent ι)) (userId : UserId) (currency : Option String) {id : WalletId}
    {walletNumber : String} (hid : (serveWallets P requests s es).store.store.wallets.find? id = none)
    (hnumber : (serveWallets P requests s es).store.store.wallets.has Wallet.walletNumber walletNumber =
      false)
    : (∀ w ∈ (serveWallets P requests s es).store.store.wallets.rows,
          ∀ w' ∈ (serveWallets P requests s es).store.store.wallets.rows,
          w.userId = w'.userId → w.status ≠ .CLOSED → w'.status ≠ .CLOSED → w = w')
        ∧ ((Creates P (serveWallets P requests s es).store userId currency id walletNumber ↔
            Eligible (serveWallets P requests s es).store.store userId) ↔
          ∀ w ∈ (serveWallets P requests s es).store.store.wallets.rows,
            w.userId = userId → w.status ≠ .CLOSED) := by
  have hinitial : Owners s.store := by
    constructor <;> simp [hs, Table.empty]
  have howners : Owners (serveWallets P requests s es).store.store := owners_serveWallets es hinitial
  refine ⟨?_, howners.creates_iff_eligible_iff hid hnumber⟩
  intro w hw w' hw' huser _ _
  exact List.inj_on_of_nodup_map howners.unique hw hw' huser

end Creation

def openAndClose (i : Fin 2) : WalletRequest :=
  match i with
  | 0 => .createWallet "alice" none "a" "1"
  | 1 => .closeWallet "a"

def openAndCloseRun : List (SessionEvent (Fin 2)) :=
  List.replicate 3 (.exec 0) ++ List.replicate 2 (.exec 1)

def aliceServer : Server :=
  sampleServer ["alice"] (List.nodup_singleton "alice")

theorem rule_broken_by_closed_wallet
    : ¬(Creates samplePlatform
          (serveWallets samplePlatform openAndClose aliceServer openAndCloseRun).store "alice" none "b"
          "2" ↔
        Eligible (serveWallets samplePlatform openAndClose aliceServer openAndCloseRun).store.store
          "alice") := by
  rw [(wallet_creation_rule_iff samplePlatform openAndClose rfl openAndCloseRun "alice" none
    (by decide +kernel) (by decide +kernel)).2]
  decide +kernel

theorem closed_wallet_bars_creation
    : Eligible (serveWallets samplePlatform openAndClose aliceServer openAndCloseRun).store.store "alice"
        ∧ ¬Creates samplePlatform
          (serveWallets samplePlatform openAndClose aliceServer openAndCloseRun).store "alice" none "b"
          "2" := by
  constructor
  . unfold Eligible
    decide +kernel
  . rw [creates_iff (by decide +kernel) (by decide +kernel)]
    decide +kernel

end Banking.Http
