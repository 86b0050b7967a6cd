import BankingApi.Bank.Consistency

/-!
This module contains the guard against overdrafts. It compares doubles, while the debit is made in
decimals. The check of a payment's amount does not read every numeral that the posting reads.
-/

namespace Banking

open Rounding LedgerService LedgerRepository TransactionService

/--
The amount and the balance are one double, but the decimal that is debited is above the balance.
-/
def Overdraws (balance : ℚ) (amount : Binary64) : Prop :=
  binary64.round balance = amount.val ∧ balance < amount.toDecimal

instance (balance : ℚ) (amount : Binary64) : Decidable (Overdraws balance amount) := by
  unfold Overdraws
  infer_instance

/--
A negative amount that `Number` does not read, and that leaves less than nothing.
-/
def Drains (balance amount : ℚ) : Prop :=
  Decimal.plus balance amount ≤ -1 / 200

instance (balance amount : ℚ) : Decidable (Drains balance amount) := by
  unfold Drains
  infer_instance

theorem insufficientFunds_eq_false_iff (w : Wallet) (a : Binary64)
    : insufficientFunds w (.number a) = false ↔ a.val ≤ binary64.round w.balance.toRat := by
  unfold insufficientFunds
  rw [Amount.toNumber, Option.any_some, decide_eq_false_iff_not,
    binary64.round_sub_neg_iff (binary64.round_idem _) a.hval, not_lt]

theorem cent_le {b : Money} (h : 0 < b.toRat) : 1 / 100 ≤ b.toRat := by
  have : 1 ≤ b.unscaled := FixedPoint.toRat_pos_iff.mp h
  have : (1 : ℚ) ≤ b.unscaled := by exact_mod_cast this
  unfold FixedPoint.toRat
  linarith

theorem digitUnit_of_cent_le {x : ℚ} (hlo : 1 / 100 ≤ x) (hhi : x ≤ 10 ^ 16)
    : ∃ k, 1 ≤ k ∧ k < 21 ∧ Binary64.digitUnit x k = 1 / 100 := by
  have hlog : -2 ≤ Int.log 10 x := by
    rw [← Int.zpow_le_iff_le_log (by decide) (by linarith)]
    norm_num
    linarith
  have hlog' : Int.log 10 x < 17 := by
    rw [← Int.lt_zpow_iff_log_lt (by decide) (by linarith)]
    norm_num
    linarith
  refine ⟨(Int.log 10 x + 3).toNat, by omega, by omega, ?_⟩
  unfold Binary64.digitUnit
  rw [show Int.log 10 x + 1 - ((Int.log 10 x + 3).toNat : ℤ) = -2 by omega]
  norm_num

/--
An amount that is the double of a balance has no more than two decimals, since the balance has not
and would be the shorter numeral.
-/
theorem toDecimal_cents {a : Binary64} {b : Money} (hpos : 0 < a.val)
    (hround : binary64.round b.toRat = a.val)
    : ∃ (m : ℤ), a.toDecimal = m / 100 := by
  have hb : 0 < b.toRat := by
    by_contra hle
    have := binary64.round_nonpos (not_lt.mp hle)
    linarith
  have hlo : 1 / 100 ≤ a.val := by
    have hcent : 1 / 100 ≤ binary64.round (1 / 100) := by decide +kernel
    rw [← hround]
    exact hcent.trans (binary64.round_mono (cent_le hb))
  have hhi : a.val ≤ 10 ^ 16 := by
    have hmax : binary64.round (10 ^ 16) ≤ 10 ^ 16 := by decide +kernel
    have hlt := b.abs_toRat_lt
    rw [abs_of_pos hb] at hlt
    rw [← hround]
    exact (binary64.round_mono (by linarith)).trans hmax
  rcases digitUnit_of_cent_le hlo hhi with ⟨k, hk, hk', hunit⟩
  have hcents : (b.unscaled : ℚ) * Binary64.digitUnit a.val k = b.toRat := by
    rw [hunit]
    unfold FixedPoint.toRat
    ring
  rcases Binary64.shortest_onGrid a.hval (by rw [hcents, hround]) hk hk' with ⟨m, hm⟩
  refine ⟨m, ?_⟩
  unfold Binary64.toDecimal
  rw [if_pos hpos.le, hm, hunit]
  ring

theorem stored_neg_iff {q : ℚ} {x : Money} (hx : FixedPoint.ofRat? 18 2 q = some x)
    : x.toRat < 0 ↔ q ≤ -1 / 200 := by
  have hcents := FixedPoint.ofRat?_eq_some_iff.mp hx
  norm_num at hcents
  rw [← not_le, FixedPoint.toRat_nonneg_iff, not_le, ← hcents, halfAway_neg_iff]
  constructor <;> intro h <;> linarith

theorem stored_neg_of_le {q : ℚ} {x : Money}
    (hx : FixedPoint.ofRat? 18 2 (decimal20.round q) = some x) (hq : q ≤ -1 / 100)
    : x.toRat < 0 := by
  have hround : decimal20.round q ≤ -1 / 100 := by
    have hcent : decimal20.round (-1 / 100) ≤ -1 / 100 := by decide +kernel
    exact (decimal20.round_mono hq).trans hcent
  rw [stored_neg_iff hx]
  linarith

theorem guard_misses_iff {w : Wallet} {a : Binary64} {x : Money} (hpos : 0 < a.val)
    (hx : FixedPoint.ofRat? 18 2 (balanceAfter .DEBIT w.balance.toRat a.toDecimal) = some x)
    : insufficientFunds w (.number a) = false ∧ x.toRat < 0 ↔ Overdraws w.balance.toRat a := by
  rw [insufficientFunds_eq_false_iff]
  constructor
  . rintro ⟨hguard, hneg⟩
    have hlt : w.balance.toRat < a.toDecimal := by
      by_contra hle
      have : 0 ≤ balanceAfter .DEBIT w.balance.toRat a.toDecimal := by
        apply decimal20.round_nonneg
        linarith
      have := FixedPoint.toRat_nonneg_iff.mpr (FixedPoint.unscaled_nonneg_of_ofRat? hx this)
      linarith
    refine ⟨?_, hlt⟩
    apply le_antisymm _ hguard
    rw [← a.round_toDecimal]
    exact binary64.round_mono hlt.le
  . rintro ⟨hround, hlt⟩
    refine ⟨hround.ge, stored_neg_of_le hx ?_⟩
    rcases toDecimal_cents hpos hround with ⟨m, hm⟩
    have hcents : (w.balance.unscaled : ℚ) = w.balance.toRat * 100 := by
      unfold FixedPoint.toRat
      ring
    have hm' : (m : ℚ) = a.toDecimal * 100 := by
      rw [hm]
      ring
    have : w.balance.unscaled < m := by
      rw [← @Int.cast_lt ℚ, hcents, hm']
      linarith
    have : (w.balance.unscaled : ℚ) + 1 ≤ m := by exact_mod_cast this
    linarith

-- A credit never lowers a balance, even where it is too large to be added exactly.
theorem le_credit {w : Wallet} {amount : ℚ} {x : Money} (hamount : 0 ≤ amount)
    (hx : FixedPoint.ofRat? 18 2 (balanceAfter .CREDIT w.balance.toRat amount) = some x)
    : w.balance.toRat ≤ x.toRat := by
  have hcents : w.balance.toRat * 10 ^ 2 = w.balance.unscaled := w.balance.toRat_mul_pow
  have hlt : |w.balance.toRat| < 10 ^ 17 := by
    have := w.balance.abs_toRat_lt
    linarith
  have hself : w.balance.toRat ≤ decimal20.round w.balance.toRat :=
    decimal20.le_round_of_onGrid (onGrid_cents w.balance.unscaled hlt) le_rfl
  have hround : w.balance.toRat ≤ balanceAfter .CREDIT w.balance.toRat amount := by
    apply hself.trans
    apply decimal20.round_mono
    linarith
  have hmono : halfAway (w.balance.toRat * 10 ^ 2) ≤ x.unscaled := by
    rw [← FixedPoint.ofRat?_eq_some_iff.mp hx]
    apply halfAway_mono
    linarith
  rw [hcents, halfAway_intCast] at hmono
  have hle : (w.balance.unscaled : ℚ) ≤ x.unscaled := by exact_mod_cast hmono
  have := x.toRat_mul_pow
  linarith

theorem credit_nonneg {w : Wallet} {amount : ℚ} {x : Money} (hw : 0 ≤ w.balance.toRat)
    (hamount : 0 ≤ amount)
    (hx : FixedPoint.ofRat? 18 2 (balanceAfter .CREDIT w.balance.toRat amount) = some x)
    : 0 ≤ x.toRat :=
  hw.trans (le_credit hamount hx)

def Call.debit? (c : Call) : Option (WalletId × Binary64) :=
  match c with
  | .withdraw senderWalletId amount _ _ _ => some (senderWalletId, amount)
  | .transfer senderWalletId _ amount _ _ _ => some (senderWalletId, amount)
  | _ => none

def Call.separated? (c : Call) : Option (WalletId × ℚ) :=
  match c with
  | .processPayment _ (.separated q) _ receiverWalletId _ _ _ => some (receiverWalletId, q)
  | _ => none

theorem mem_movements_of_separated? {c : Call} {id : WalletId} {q : ℚ}
    (h : c.separated? = some (id, q))
    : ⟨id, .CREDIT, q⟩ ∈ c.movements := by
  unfold Call.separated? at h
  split at h
  . cases h
    simp [Call.movements, Amount.toDecimal]
  . cases h

theorem mem_movements_of_debit? {c : Call} {id : WalletId} {a : Binary64}
    (h : c.debit? = some (id, a))
    : ⟨id, .DEBIT, a.toDecimal⟩ ∈ c.movements := by
  cases c <;> cases h <;> simp [Call.movements]

theorem Effect.guard {s s' : Store} {c : Call} {reply : Reply} {id : WalletId} {a : Binary64}
    {w : Wallet} (h : Effect s c reply s') (hc : c.debit? = some (id, a))
    (hw : s.wallets.find? id = some w)
    : 0 < a.val ∧ insufficientFunds w (.number a) = false := by
  cases h with
  | deposit => cases hc
  | withdraw hpos hfunds ht hid he =>
    cases hc
    subst hid
    cases hw.symm.trans he.wallet_eq
    exact ⟨hpos, hfunds⟩
  | transfer hne hpos hfunds ht hid hid' he he' hne' =>
    cases hc
    subst hid
    cases hw.symm.trans he.wallet_eq
    exact ⟨hpos, hfunds⟩
  | processPayment => cases hc
  | status hstatus =>
    have hm := mem_movements_of_debit? hc
    rw [movements_of_statusUpdate hstatus] at hm
    cases hm

theorem Effect.movement_cases {s s' : Store} {c : Call} {reply : Reply} {m : Movement}
    (h : Effect s c reply s') (hm : m ∈ c.movements)
    : (∃ a, c.debit? = some (m.walletId, a) ∧ m = ⟨m.walletId, .DEBIT, a.toDecimal⟩)
        ∨ (m.entryType = .CREDIT ∧ 0 < m.amount ∧ c.separated? = none)
        ∨ m.entryType = .CREDIT ∧ c.separated? = some (m.walletId, m.amount) := by
  cases h with
  | deposit hpos =>
    cases List.mem_singleton.mp hm
    exact .inr (.inl ⟨rfl, Binary64.toDecimal_pos hpos, rfl⟩)
  | withdraw =>
    cases List.mem_singleton.mp hm
    exact .inl ⟨_, rfl, rfl⟩
  | transfer hne hpos =>
    rcases List.mem_pair.mp hm with rfl | rfl
    . exact .inl ⟨_, rfl, rfl⟩
    . exact .inr (.inl ⟨rfl, Binary64.toDecimal_pos hpos, rfl⟩)
  | @processPayment _ a _ _ _ _ _ _ _ _ _ hpos =>
    cases List.mem_singleton.mp hm
    cases a with
    | number n =>
      rw [Amount.notPositive_number_eq_false_iff] at hpos
      exact .inr (.inl ⟨rfl, Binary64.toDecimal_pos hpos, rfl⟩)
    | decimal q =>
      refine .inr (.inl ⟨rfl, ?_, rfl⟩)
      by_contra hle
      have := binary64.round_nonpos (not_lt.mp hle)
      simp [Amount.notPositive, Amount.toNumber] at hpos
      exact absurd hpos (not_lt.mpr this)
    | separated q => exact .inr (.inr ⟨rfl, rfl⟩)
  | status hc =>
    rw [movements_of_statusUpdate hc] at hm
    cases hm

theorem Effect.debit_of_lt {s s' : Store} {c : Call} {reply : Reply} {id : WalletId}
    {w w' : Wallet} (h : Effect s c reply s') (hw : s.wallets.find? id = some w)
    (hw' : s'.wallets.find? id = some w') (hlt : w'.balance.toRat < w.balance.toRat)
    : (∃ a, c.debit? = some (id, a)) ∨ ∃ q, c.separated? = some (id, q) := by
  by_cases hm : ∃ m ∈ c.movements, m.walletId = id
  . rcases hm with ⟨m, hm, rfl⟩
    rcases h.moved hm with ⟨_, e, hmoved⟩
    cases hw.symm.trans hmoved.wallet_eq
    cases hw'.symm.trans hmoved.find?_eq
    rcases h.movement_cases hm with ⟨a, hdebit, _⟩ | ⟨htype, hpos, _⟩ | ⟨_, hseparated⟩
    . exact .inl ⟨a, hdebit⟩
    . have hafter := hmoved.balanceAfter_eq
      rw [htype] at hafter
      exact absurd (le_credit hpos.le hafter) (not_le.mpr hlt)
    . exact .inr ⟨_, hseparated⟩
  . have hbalance := (h.unmoved (fun m hm' heq => hm ⟨m, hm', heq⟩)).2
    rw [hw, hw'] at hbalance
    have heq : w'.balance = w.balance := Option.some.inj hbalance
    rw [heq] at hlt
    exact absurd hlt (lt_irrefl _)

theorem Effect.debit_of_entry {s s' : Store} {c : Call} {reply : Reply} {e : LedgerEntry}
    (h : Effect s c reply s') (he : e ∈ s'.ledgerEntries.rows) (hnew : e ∉ s.ledgerEntries.rows)
    (htype : e.entryType = .DEBIT)
    : ∃ a w, c.debit? = some (e.walletId, a) ∧ s.wallets.find? e.walletId = some w := by
  have hentry : e ∈ entries s' e.walletId := mem_entries_iff.mpr ⟨he, rfl⟩
  have hold : e ∉ entries s e.walletId := fun hmem => hnew (mem_entries_iff.mp hmem).1
  by_cases hm : ∃ m ∈ c.movements, m.walletId = e.walletId
  . rcases hm with ⟨m, hm, hid⟩
    rcases h.moved hm with ⟨w, e', hmoved⟩
    rw [← hid, hmoved.entries_eq, List.mem_append, List.mem_singleton] at hentry
    rcases hentry with hentry | rfl
    . rw [hid] at hentry
      exact absurd hentry hold
    . rcases h.movement_cases hm with ⟨a, hdebit, _⟩ | ⟨hcredit, _⟩ | ⟨hcredit, _⟩
      . rw [← hid]
        exact ⟨a, w, hdebit, hmoved.wallet_eq⟩
      . cases htype.symm.trans (hmoved.entryType_eq.trans hcredit)
      . cases htype.symm.trans (hmoved.entryType_eq.trans hcredit)
  . rw [(h.unmoved (fun m hm' heq => hm ⟨m, hm', heq⟩)).1] at hentry
    exact absurd hentry hold

def Solvent (s : Store) : Prop :=
  (∀ w ∈ s.wallets.rows, 0 ≤ w.balance.toRat)
    ∧ ∀ e ∈ s.ledgerEntries.rows, 0 ≤ e.balanceAfter.toRat

def NoOverdraft (s : Store) (ev : Event) : Prop :=
  ev.Commits s → ∀ c id w, ev.op = .call c → s.wallets.find? id = some w →
    (∀ a, c.debit? = some (id, a) → ¬Overdraws w.balance.toRat a)
      ∧ ∀ q, c.separated? = some (id, q) → ¬Drains w.balance.toRat q

theorem solvent_iff {s : Store}
    : Solvent s ↔
      ∀ id, (∀ w, s.wallets.find? id = some w → 0 ≤ w.balance.toRat)
        ∧ ∀ e ∈ entries s id, 0 ≤ e.balanceAfter.toRat := by
  constructor
  . rintro ⟨hw, he⟩ id
    constructor
    . intro w hfind
      exact hw w (Table.mem_of_find? hfind)
    . intro e hmem
      exact he e (mem_entries_iff.mp hmem).1
  . intro h
    constructor
    . intro w hw
      exact (h w.id).1 w (Table.find?_of_mem hw)
    . intro e he
      exact (h e.walletId).2 e (mem_entries_iff.mpr ⟨he, rfl⟩)

theorem debit?_of_separated? {c : Call} {p : WalletId × ℚ} (h : c.separated? = some p)
    : c.debit? = none := by
  unfold Call.separated? at h
  split at h
  . rfl
  . cases h

theorem moved_nonneg_iff {s s' : Store} {c : Call} {reply : Reply} {m : Movement} {w : Wallet}
    {e : LedgerEntry} (h : Effect s c reply s') (hm : m ∈ c.movements) (hmoved : Moved s m w e s')
    (hw : 0 ≤ w.balance.toRat)
    : 0 ≤ e.balanceAfter.toRat ↔
      (∀ a, c.debit? = some (m.walletId, a) → m.entryType = .DEBIT → ¬Overdraws w.balance.toRat a)
        ∧ ∀ q, c.separated? = some (m.walletId, q) → ¬Drains w.balance.toRat q := by
  have hafter := hmoved.balanceAfter_eq
  rcases h.movement_cases hm with ⟨a, hdebit, heq⟩ | ⟨htype, hpos, hno⟩ | ⟨htype, hseparated⟩
  . have hno : c.separated? = none := by
      cases hc : c.separated? with
      | none => rfl
      | some p => cases hdebit.symm.trans (debit?_of_separated? hc)
    rw [heq] at hafter
    rcases h.guard hdebit hmoved.wallet_eq with ⟨hpos, hfunds⟩
    have hmisses := guard_misses_iff hpos hafter
    rw [← not_lt]
    constructor
    . intro hnonneg
      refine ⟨?_, by simp [hno]⟩
      intro a' hdebit' _
      cases hdebit.symm.trans hdebit'
      rw [← hmisses]
      exact fun h => hnonneg h.2
    . rintro ⟨hno, _⟩ hneg
      apply hno a hdebit (by rw [heq])
      exact hmisses.mp ⟨hfunds, hneg⟩
  . rw [htype] at hafter
    have := credit_nonneg hw hpos.le hafter
    simp [this, htype, hno]
  . rw [htype] at hafter
    have hstored := stored_neg_iff hafter
    rw [← not_lt, hstored]
    simp only [htype, hseparated, Option.some.injEq, Prod.mk.injEq, true_and]
    constructor
    . rintro hdrains
      exact ⟨by simp, fun q hq => hq ▸ hdrains⟩
    . rintro ⟨_, hno⟩
      exact hno _ rfl

theorem solvent_step_iff (s : Store) (ev : Event) (hs : Solvent s)
    : Solvent (step s ev) ↔ NoOverdraft s ev := by
  rw [solvent_iff] at hs ⊢
  constructor
  . intro h hc c id w hop hw
    rcases step_effect hc hop with ⟨reply, heffect⟩
    have hafter : ∀ m ∈ c.movements, m.walletId = id →
        (∀ a, c.debit? = some (id, a) → m.entryType = .DEBIT → ¬Overdraws w.balance.toRat a)
          ∧ ∀ q, c.separated? = some (id, q) → ¬Drains w.balance.toRat q := by
      rintro m hm rfl
      rcases heffect.moved hm with ⟨w', e, hmoved⟩
      cases hw.symm.trans hmoved.wallet_eq
      have hnonneg := (h m.walletId).1 _ hmoved.find?_eq
      exact (moved_nonneg_iff heffect hm hmoved ((hs m.walletId).1 w hw)).mp hnonneg
    constructor
    . intro a hdebit
      exact (hafter _ (mem_movements_of_debit? hdebit) rfl).1 a hdebit rfl
    . intro q hseparated
      exact (hafter _ (mem_movements_of_separated? hseparated) rfl).2 q hseparated
  . intro h id
    by_cases hid : ev.Commits s ∧ ∃ m ∈ ev.op.movements, m.walletId = id
    . rcases hid with ⟨hc, m, hm, rfl⟩
      rcases exists_call_of_mem_movements hm with ⟨c, hop, hm⟩
      rcases step_effect hc hop with ⟨reply, heffect⟩
      rcases heffect.moved hm with ⟨w, e, hmoved⟩
      have hw := (hs m.walletId).1 w hmoved.wallet_eq
      have hno := h hc c m.walletId w hop hmoved.wallet_eq
      have hnonneg : 0 ≤ e.balanceAfter.toRat :=
        (moved_nonneg_iff heffect hm hmoved hw).mpr ⟨fun a hdebit _ => hno.1 a hdebit, hno.2⟩
      constructor
      . intro w' hw'
        cases hw'.symm.trans hmoved.find?_eq
        exact hnonneg
      . intro e' he'
        rw [hmoved.entries_eq, List.mem_append, List.mem_singleton] at he'
        rcases he' with he' | rfl
        . exact (hs m.walletId).2 e' he'
        . exact hnonneg
    . rcases step_unmoved (fun hc m hm heq => hid ⟨hc, m, hm, heq⟩) with hsame | hopened
      . rw [hsame.1]
        refine ⟨?_, (hs id).2⟩
        intro w' hw'
        have hbalance := hsame.2
        rw [hw', Option.map_some] at hbalance
        rcases Option.map_eq_some_iff.mp hbalance.symm with ⟨w, hw, heq⟩
        rw [← heq]
        exact (hs id).1 w hw
      . rcases hopened with ⟨hentries, _, w, hw, hzero⟩
        rw [hentries]
        refine ⟨?_, (hs id).2⟩
        intro w' hw'
        cases hw'.symm.trans hw
        simp [hzero]

theorem solvent_initial (users : Table User.id) : Solvent (.initial users) := by
  constructor
  . intro w hw
    cases hw
  . intro e he
    cases he

theorem solvent_iff_no_overdraft (users : Table User.id) (es : List Event)
    : (∀ pre, pre <+: es → Solvent (Run.run step (.initial users) pre)) ↔
      Run.Along step NoOverdraft (.initial users) es := by
  apply Run.forall_prefix_iff_along (I := fun _ => True)
  . intro s ev _
    trivial
  . intro s ev _ hs
    exact solvent_step_iff s ev hs
  . trivial
  . exact solvent_initial users

/--
Two deposits make 9007199254740991.99, which is the double 9007199254740992.
-/
def doubleWithdrawal : List Event :=
  [
    ⟨.createWallet "alice" none "a" "1", true⟩,
    ⟨.call (.deposit "a" (.ofRat 9007199254740991 (by decide +kernel)) "alice" none
      (sampleGenerated "1")), true⟩,
    ⟨.call (.deposit "a" (.ofRat (99 / 100) (by decide +kernel)) "alice" none
      (sampleGenerated "2")), true⟩,
    ⟨.call (.withdraw "a" (.ofRat 9007199254740992 (by decide +kernel)) "alice" none
      (sampleGenerated "3")), true⟩
  ]

theorem double_withdrawal_overdraws
    : ¬Solvent (Run.run step (.initial sampleUsers) doubleWithdrawal) := by
  unfold Solvent
  decide +kernel

end Banking
