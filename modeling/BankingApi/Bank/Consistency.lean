import BankingApi.Bank.Posting
import BankingApi.Bank.System

/-!
This module contains the relation between the ledger and the cached balance of a wallet, and the
runs along which it holds.
-/

namespace Banking

open Rounding LedgerService LedgerRepository

def Chain (b : ℚ) (es : List LedgerEntry) (b' : ℚ) : Prop :=
  match es with
  | [] => b' = b
  | e :: es => e.balanceAfter.toRat = b + e.signed ∧ Chain e.balanceAfter.toRat es b'

instance decidableChain (b : ℚ) (es : List LedgerEntry) (b' : ℚ) : Decidable (Chain b es b') :=
  match es with
  | [] => inferInstanceAs (Decidable (b' = b))
  | e :: es =>
    have := decidableChain e.balanceAfter.toRat es b'
    inferInstanceAs (Decidable (_ ∧ _))

theorem chain_append_singleton_iff {b b' : ℚ} {es : List LedgerEntry} {e : LedgerEntry}
    : Chain b (es ++ [e]) b' ↔
      ∃ b₁, Chain b es b₁ ∧ e.balanceAfter.toRat = b₁ + e.signed ∧ b' = e.balanceAfter.toRat := by
  induction es generalizing b with
  | nil => simp [Chain]
  | cons e' es ih =>
    simp only [List.cons_append, Chain, ih]
    constructor
    . rintro ⟨hhead, b₁, htail⟩
      exact ⟨b₁, ⟨hhead, htail.1⟩, htail.2⟩
    . rintro ⟨b₁, ⟨hhead, htail⟩, hlast⟩
      exact ⟨hhead, b₁, htail, hlast⟩

theorem chain_eq_sum {b b' : ℚ} {es : List LedgerEntry} (h : Chain b es b')
    : b' = b + (es.map LedgerEntry.signed).sum := by
  induction es generalizing b with
  | nil => simpa [Chain] using h
  | cons e es ih =>
    rw [ih h.2, h.1, List.map_cons, List.sum_cons, add_assoc]

def Fits (history : List LedgerEntry) : Prop :=
  ∀ pre, pre <+: history →
    decimal20.round (pre.map LedgerEntry.signed).sum = (pre.map LedgerEntry.signed).sum

theorem calculateRunningBalance_append_singleton (history : List LedgerEntry) (e : LedgerEntry)
    : calculateRunningBalance (history ++ [e]) =
      decimal20.round (calculateRunningBalance history + e.signed) := by
  unfold calculateRunningBalance
  rw [List.foldl_append, List.foldl_cons, List.foldl_nil, balanceAfter_eq_round]
  rfl

theorem calculateRunningBalance_eq_sum {history : List LedgerEntry} (h : Fits history)
    : calculateRunningBalance history = (history.map LedgerEntry.signed).sum := by
  induction history using List.reverseRecOn with
  | nil => rfl
  | append_singleton history e ih =>
    have hfits := h (history ++ [e]) List.prefix_rfl
    have hpre : Fits history := by
      intro pre hpre
      exact h pre (hpre.trans (List.prefix_append _ _))
    rw [List.map_append, List.map_singleton, List.sum_append, List.sum_singleton] at hfits ⊢
    rw [calculateRunningBalance_append_singleton, ih hpre, hfits]

def LedgerAgrees (s : Store) : Prop :=
  ∀ w ∈ s.wallets.rows, Chain 0 (entries s w.id) w.balance.toRat

/--
The running balance of each wallet is its balance, whatever the order in which the database returns
entries with equal `createdAt`.
-/
def RunningAgrees (s : Store) : Prop :=
  ∀ w ∈ s.wallets.rows, ∀ history, GetBalanceHistory s w.id history →
    calculateRunningBalance history = w.balance.toRat

def HistoriesFit (s : Store) : Prop :=
  ∀ w ∈ s.wallets.rows, ∀ history, GetBalanceHistory s w.id history → Fits history

theorem runningAgrees_of_ledgerAgrees {s : Store} (h : LedgerAgrees s) (hfits : HistoriesFit s)
    : RunningAgrees s := by
  intro w hw history hhistory
  rw [calculateRunningBalance_eq_sum (hfits w hw history hhistory), chain_eq_sum (h w hw), zero_add]
  apply List.Perm.sum_eq
  apply hhistory.perm.map

theorem ledgerAgrees_iff {s : Store}
    : LedgerAgrees s ↔
      ∀ id w, s.wallets.find? id = some w → Chain 0 (entries s id) w.balance.toRat := by
  constructor
  . intro h id w hfind
    rw [← Table.key_of_find? hfind]
    exact h w (Table.mem_of_find? hfind)
  . intro h w hw
    exact h w.id w (Table.find?_of_mem hw)

theorem abs_signed (entryType : LedgerEntryType) (amount : ℚ)
    : |entryType.signed amount| = |amount| := by
  cases entryType with
  | CREDIT => rfl
  | DEBIT => apply abs_neg

theorem halfAway_signed (entryType : LedgerEntryType) {amount : ℚ} {x : Money}
    (hx : FixedPoint.ofRat? 18 2 amount = some x)
    : (halfAway (entryType.signed amount * 100) : ℚ) = entryType.signed x.toRat * 100 := by
  have hmul := x.toRat_mul_pow
  have hround := FixedPoint.ofRat?_eq_some_iff.mp hx
  norm_num at hmul hround
  cases entryType with
  | CREDIT =>
    dsimp only [LedgerEntryType.signed]
    rw [hround, hmul]
  | DEBIT =>
    dsimp only [LedgerEntryType.signed]
    rw [neg_mul, halfAway_neg, hround, neg_mul, hmul]
    push_cast
    rfl

theorem abs_toRat_add_signed_lt (b : Money) (entryType : LedgerEntryType) {amount : ℚ} {x : Money}
    (hx : FixedPoint.ofRat? 18 2 amount = some x)
    : |b.toRat + entryType.signed amount| < 10 ^ 17 := by
  have hb := b.abs_toRat_lt
  have hamount := FixedPoint.abs_lt_of_ofRat? hx
  have := abs_add_le b.toRat (entryType.signed amount)
  rw [abs_signed] at this
  linarith

theorem Moved.chain_iff {s s' : Store} {m : Movement} {w : Wallet} {e : LedgerEntry}
    (h : Moved s m w e s')
    : e.balanceAfter.toRat = w.balance.toRat + e.signed ↔
      RoundsWithAmount w.balance.toRat m.signed := by
  have hlt := abs_toRat_add_signed_lt w.balance m.entryType h.amount_eq
  have hsigned := halfAway_signed m.entryType h.amount_eq
  have hafter := FixedPoint.ofRat?_eq_some_iff.mp h.balanceAfter_eq
  have hafter_mul := e.balanceAfter.toRat_mul_pow
  have hbalance_mul := w.balance.toRat_mul_pow
  have hbalance : w.balance.toRat = w.balance.unscaled / 100 := rfl
  rw [balanceAfter_eq_round] at hafter
  norm_num at hafter hafter_mul hbalance_mul
  rw [hbalance] at hlt hafter
  unfold Movement.signed LedgerEntry.signed
  rw [hbalance, ← cents_eq_iff hlt, hafter, h.entryType_eq, ← @Int.cast_inj ℚ]
  push_cast
  rw [hsigned]
  constructor <;> intro heq <;> linarith

def PostingsRound (s : Store) (ev : Event) : Prop :=
  ev.Commits s → ∀ m ∈ ev.op.movements, ∀ w, s.wallets.find? m.walletId = some w →
    RoundsWithAmount w.balance.toRat m.signed

theorem Moved.chain_step_iff {s s' : Store} {m : Movement} {w : Wallet} {e : LedgerEntry}
    (h : Moved s m w e s') (hs : Chain 0 (entries s m.walletId) w.balance.toRat)
    : Chain 0 (entries s' m.walletId) e.balanceAfter.toRat ↔
      RoundsWithAmount w.balance.toRat m.signed := by
  rw [h.entries_eq, chain_append_singleton_iff, ← h.chain_iff]
  constructor
  . rintro ⟨b, hb, heq, _⟩
    rw [heq, chain_eq_sum hb, chain_eq_sum hs]
  . intro heq
    exact ⟨_, hs, heq, rfl⟩

theorem ledgerAgrees_step_iff (s : Store) (ev : Event) (hwallets : EntriesHaveWallets s)
    (hs : LedgerAgrees s)
    : LedgerAgrees (step s ev) ↔ PostingsRound s ev := by
  rw [ledgerAgrees_iff] at hs ⊢
  constructor
  . intro h hc m hm w hw
    rcases step_moved hc hm with ⟨w', e, hmoved⟩
    cases hw.symm.trans hmoved.wallet_eq
    rw [← hmoved.chain_step_iff (hs _ _ hw)]
    exact h _ _ hmoved.find?_eq
  . intro h id w' hw'
    by_cases hid : ev.Commits s ∧ ∃ m ∈ ev.op.movements, m.walletId = id
    . rcases hid with ⟨hc, m, hm, rfl⟩
      rcases step_moved hc hm with ⟨w, e, hmoved⟩
      cases hw'.symm.trans hmoved.find?_eq
      exact (hmoved.chain_step_iff (hs _ _ hmoved.wallet_eq)).mpr (h hc m hm w hmoved.wallet_eq)
    . rcases step_unmoved (fun hc m hm heq => hid ⟨hc, m, hm, heq⟩) with hsame | hopened
      . have hbalance := hsame.2
        rw [hw', Option.map_some] at hbalance
        rcases Option.map_eq_some_iff.mp hbalance.symm with ⟨w, hw, heq⟩
        rw [hsame.1, ← heq]
        exact hs id w hw
      . rcases hopened with ⟨hentries, hnone, w, hw, hzero⟩
        cases hw'.symm.trans hw
        have : entries s id = [] := by
          by_contra hne
          simpa [hnone] using hwallets id hne
        rw [hentries, this, hzero]
        exact FixedPoint.toRat_zero

theorem ledgerAgrees_initial (users : Table User.id) : LedgerAgrees (.initial users) := by
  intro w hw
  cases hw

theorem ledger_agrees_iff_postings_round (users : Table User.id) (es : List Event)
    : ((∀ pre, pre <+: es → LedgerAgrees (Run.run step (.initial users) pre)) ↔
        Run.Along step PostingsRound (.initial users) es)
      ∧ (Run.Along step PostingsRound (.initial users) es →
        ∀ pre, pre <+: es → HistoriesFit (Run.run step (.initial users) pre) →
          RunningAgrees (Run.run step (.initial users) pre)) := by
  have hiff := Run.forall_prefix_iff_along entriesHaveWallets_step ledgerAgrees_step_iff es
    (entriesHaveWallets_initial users) (ledgerAgrees_initial users)
  refine ⟨hiff, ?_⟩
  intro halong pre hpre hfits
  exact runningAgrees_of_ledgerAgrees (hiff.mpr halong pre hpre) hfits

def halfCentWithdrawal : List Event :=
  sampleDeposit ++ [
    ⟨.call (.withdraw "a" (.ofRat (1 / 200) Binary64.abs_round_half_cent_lt) "alice" none
      (sampleGenerated "2")), true⟩
  ]

theorem half_cent_withdrawal_disagrees
    : ∃ s, s = Run.run step (.initial sampleUsers) halfCentWithdrawal
      ∧ ∃ w ∈ s.wallets.rows,
        ¬Chain 0 (entries s w.id) w.balance.toRat
          ∧ ∃ history, GetBalanceHistory s w.id history
            ∧ calculateRunningBalance history ≠ w.balance.toRat := by
  refine ⟨_, rfl, ⟨"a", "1", ⟨100, by decide⟩, "INR", .ACTIVE, "alice"⟩, by decide +kernel,
    by decide +kernel, _, ⟨List.Perm.refl _, by decide +kernel⟩, by decide +kernel⟩

end Banking
