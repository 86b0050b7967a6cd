import BankingApi.Bank.Conservation
import BankingApi.Store.Book

/-!
This module contains the bank as a book: what the calls do to wallets and to the ledger are postings, each
of them right up to a cent.
-/

namespace Banking

open Rounding LedgerService LedgerRepository

theorem halfAway_bounds (q : ℚ) : ⌊q⌋ ≤ halfAway q ∧ halfAway q ≤ ⌊q⌋ + 1 := by
  constructor
  . rw [← halfAway_intCast ⌊q⌋]
    exact halfAway_mono (Int.floor_le q)
  . have hle : halfAway q ≤ halfAway ((⌊q⌋ + 1 : ℤ) : ℚ) := by
      apply halfAway_mono
      push_cast
      exact (Int.lt_floor_add_one q).le
    rwa [halfAway_intCast] at hle

-- Both roundings end on one of the two cents around the sum.
theorem abs_cents_sub_le {n : ℤ} {amount : ℚ} (hlt : |(n : ℚ) / 100 + amount| < 10 ^ 17)
    : |halfAway (decimal20.round (n / 100 + amount) * 100) - (n + halfAway (amount * 100))| ≤ 1 := by
  have hfloor := floor_cents n amount
  have hamount := halfAway_bounds (amount * 100)
  generalize hy : (n : ℚ) / 100 + amount = y at *
  have hlo := Int.floor_le (y * 100)
  have hhi := (Int.lt_floor_add_one (y * 100)).le
  have hge : ⌊y * 100⌋ ≤ halfAway (decimal20.round y * 100) := by
    have hround := decimal20.le_round_of_onGrid (onGrid_cents ⌊y * 100⌋ hlt) (by linarith)
    rw [← halfAway_intCast ⌊y * 100⌋]
    apply halfAway_mono
    linarith
  have hle : halfAway (decimal20.round y * 100) ≤ ⌊y * 100⌋ + 1 := by
    have hround := decimal20.round_le_of_onGrid (onGrid_cents (⌊y * 100⌋ + 1) hlt)
      (by push_cast; linarith)
    rw [← halfAway_intCast (⌊y * 100⌋ + 1)]
    apply halfAway_mono
    linarith
  rw [abs_le]
  constructor <;> omega

theorem Moved.abs_sub_le {s s' : Store} {m : Movement} {w : Wallet} {e : LedgerEntry}
    (h : Moved s m w e s')
    : |e.balanceAfter.toRat - (w.balance.toRat + e.signed)| ≤ 1 / 100 := by
  have hlt := abs_toRat_add_signed_lt w.balance m.entryType h.amount_eq
  have hsigned := halfAway_signed m.entryType h.amount_eq
  have hafter := FixedPoint.ofRat?_eq_some_iff.mp h.balanceAfter_eq
  have hafter_mul := e.balanceAfter.toRat_mul_pow
  have hbalance : w.balance.toRat = w.balance.unscaled / 100 := rfl
  rw [balanceAfter_eq_round] at hafter
  norm_num at hafter hafter_mul
  rw [hbalance] at hlt hafter
  have hcents := abs_cents_sub_le hlt
  rw [hafter] at hcents
  have hcents' : |(e.balanceAfter.unscaled : ℚ)
      - (w.balance.unscaled + halfAway (m.entryType.signed m.amount * 100))| ≤ 1 := by
    exact_mod_cast hcents
  rw [hsigned] at hcents'
  unfold LedgerEntry.signed
  rw [hbalance, h.entryType_eq]
  rw [abs_le] at hcents' ⊢
  constructor <;> linarith

def LedgerEntry.posting (e : LedgerEntry) : Posting WalletId ℚ where
  account := e.walletId
  amount := e.signed
  after := e.balanceAfter.toRat

-- An account that is not open yet has a balance of zero.
def Store.book (s : Store) : Book WalletId ℚ where
  balance id := ((s.wallets.find? id).map (·.balance.toRat)).getD 0
  postings := s.ledgerEntries.rows.map LedgerEntry.posting

theorem balance_book {s : Store} {id : WalletId} {w : Wallet} (h : s.wallets.find? id = some w)
    : s.book.balance id = w.balance.toRat := by
  simp [Store.book, h]

theorem of_book (s : Store) (id : WalletId)
    : s.book.of id = (entries s id).map LedgerEntry.posting := by
  unfold Store.book Book.of entries
  rw [List.filter_map]
  rfl

theorem book_initial (users : Table User.id) : (Store.initial users).book = .initial := rfl

theorem book_addTransaction (s : Store) (t : Transaction) : (s.addTransaction t).book = s.book := rfl

theorem book_eq_of_balance {s s' : Store} (hentries : s'.ledgerEntries = s.ledgerEntries)
    (hbalance : ∀ id, (s'.wallets.find? id).map Wallet.balance =
      (s.wallets.find? id).map Wallet.balance)
    : s'.book = s.book := by
  apply Book.ext
  . funext id
    have hmap := congrArg (Option.map FixedPoint.toRat) (hbalance id)
    rw [Option.map_map, Option.map_map] at hmap
    exact congrArg (fun o => o.getD 0) hmap
  . unfold Store.book
    rw [hentries]

theorem book_setStatus (s : Store) (id : WalletId) (status : WalletStatus)
    : (s.setStatus id status).book = s.book := by
  apply book_eq_of_balance
  . rfl
  . intro id'
    rw [find?_setStatus]
    split
    . rw [Option.map_map]
      rfl
    . rfl

theorem book_addWallet {s : Store} {w : Wallet} (hfresh : s.wallets.find? w.id = none)
    (hbalance : w.balance = 0)
    : (s.addWallet w).book = s.book := by
  apply Book.ext
  . funext id
    change (((s.wallets.insert w).find? id).map (·.balance.toRat)).getD 0 = s.book.balance id
    by_cases hid : w.id = id
    . subst hid
      rw [Table.find?_insert_self hfresh]
      simp [Store.book, hfresh, hbalance]
    . rw [Table.find?_insert_of_ne hid]
      rfl
  . rfl

theorem book_post {s : Store} {w : Wallet} {e : LedgerEntry}
    (hfresh : s.ledgerEntries.find? e.id = none) (hw : s.wallets.find? e.walletId = some w)
    : (s.post e).book = s.book.post e.posting := by
  apply Book.ext
  . funext id
    change (((s.post e).wallets.find? id).map (·.balance.toRat)).getD 0 = _
    rw [find?_post]
    by_cases hid : e.walletId = id
    . subst hid
      rw [if_pos rfl, hw]
      exact (Book.balance_post_self s.book e.posting).symm
    . rw [if_neg hid, Book.balance_post_of_ne s.book (p := e.posting) hid]
      rfl
  . change (s.post e).ledgerEntries.rows.map _ = _
    rw [rows_post hfresh, List.map_append]
    rfl

theorem Posted.fair {s : Store} {t : Transaction} {entryType : LedgerEntryType} {w : Wallet}
    {amount : ℚ} {e : LedgerEntry} (ht : FixedPoint.ofRat? 18 2 amount = some t.amount)
    (he : Posted s t entryType w amount e)
    : s.book.Fair (1 / 100) e.posting := by
  have hbalance : s.book.balance e.posting.account = w.balance.toRat := balance_book he.wallet_eq
  unfold Book.Fair
  rw [hbalance]
  exact (he.moved ht).abs_sub_le

theorem Posted.posts {s : Store} {t : Transaction} {entryType : LedgerEntryType} {w : Wallet}
    {amount : ℚ} {e : LedgerEntry} (ht : FixedPoint.ofRat? 18 2 amount = some t.amount)
    (he : Posted s t entryType w amount e)
    : s.book.Posts (1 / 100) ((s.addTransaction t).post e).book := by
  rw [book_post (s := s.addTransaction t) he.fresh he.wallet_eq, book_addTransaction]
  exact .single (he.fair ht)

/--
What a call does to the bank are postings.
-/
theorem Effect.posts {s s' : Store} {c : Call} {reply : Reply} (h : Effect s c reply s')
    : s.book.Posts (1 / 100) s'.book := by
  cases h with
  | deposit _ ht _ he => exact he.posts ht.amount_eq
  | withdraw _ _ ht _ he => exact he.posts ht.amount_eq
  | @transfer _ _ _ _ _ _ t e e' _ w' hne _ _ ht hw hw' he he' hid =>
    subst hw hw'
    have hfind : ((s.addTransaction t).post e).wallets.find? e'.walletId = some w' := by
      rw [find?_post, if_neg hne]
      exact he'.wallet_eq
    have hfair : ((s.addTransaction t).post e).book.Fair (1 / 100) e'.posting := by
      have hbalance : ((s.addTransaction t).post e).book.balance e'.posting.account =
          s.book.balance e'.posting.account :=
        (balance_book hfind).trans (balance_book he'.wallet_eq).symm
      unfold Book.Fair
      rw [hbalance]
      exact he'.fair ht.amount_eq
    rw [book_post (he'.fresh_post hid) hfind]
    exact (he.posts ht.amount_eq).post hfair
  | processPayment _ ht _ he _ => exact he.posts ht.amount_eq
  | status _ _ =>
    rw [book_setStatus]
    exact .refl

end Banking
