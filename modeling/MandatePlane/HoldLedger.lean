import MandatePlane.KeyedTable
import MandatePlane.LabelledRun
import Mathlib.Algebra.Order.Group.Defs

/-!
# A ledger of accounts and holds

Accounts have a limit and two running totals, what is spent and what is held.  A
hold belongs to an account, has an amount and is in some phase; a phase counts as
held, as spent, or as neither.  A posting moves a hold to another phase and moves
the two totals of an account, by whatever amounts it says.

Two laws are followed through postings.  A ledger is balanced when every account's
totals are the sums over its holds; a posting keeps the balance when it moves the
totals by what the change of phase moves the sums.  A ledger is within its limits
when no account has more spent and held than its limit.
-/

set_option linter.unusedSectionVars false

namespace MandatePlane.HoldLedger

open KeyedTable LabelledRun

/-- Which phases count as held and which as spent. -/
class HoldPhase (S : Type*) where
  held : S → Bool
  spent : S → Bool

structure Account (κ M : Type*) where
  id : κ
  limit : M
  spent : M
  held : M

structure Hold (ι κ S M : Type*) where
  id : ι
  account : κ
  amount : M
  phase : S

variable {ι κ S M : Type*}

instance : Keyed (Account κ M) κ := ⟨Account.id⟩
instance : Keyed (Hold ι κ S M) ι := ⟨Hold.id⟩

structure Ledger (ι κ S M : Type*) where
  accounts : Table (Account κ M)
  holds : Table (Hold ι κ S M)

/-- What can be entered into a ledger; a note moves nothing. -/
inductive Entry (ι κ S M : Type*) where
  | account (a : Account κ M)
  | hold (h : Hold ι κ S M)
  | post (hold : ι) (account : κ) (target : S) (dHeld dSpent : M)
  | credit (account : κ) (amount : M)
  | note

def Hold.moveTo (target : S) (h : Hold ι κ S M) : Hold ι κ S M := { h with phase := target }

section Operations

variable [AddCommGroup M]

def Account.move (dHeld dSpent : M) (a : Account κ M) : Account κ M :=
  { a with held := a.held + dHeld, spent := a.spent + dSpent }

variable [DecidableEq ι] [DecidableEq κ]

/-- Move the totals of one account. -/
def Ledger.moveAccount (L : Ledger ι κ S M) (a : κ) (dHeld dSpent : M) : Ledger ι κ S M :=
  { L with accounts := L.accounts.modify a (Account.move dHeld dSpent) }

/-- Move one hold to another phase. -/
def Ledger.moveHold (L : Ledger ι κ S M) (k : ι) (target : S) : Ledger ι κ S M :=
  { L with holds := L.holds.modify k (Hold.moveTo target) }

/-- Enter one entry; a second account or hold under a taken id is not entered. -/
def Ledger.enter (L : Ledger ι κ S M) : Entry ι κ S M → Ledger ι κ S M
  | .account a => { L with accounts := (L.accounts.insert a).getD L.accounts }
  | .hold h => { L with holds := (L.holds.insert h).getD L.holds }
  | .post k a target dHeld dSpent => (L.moveAccount a dHeld dSpent).moveHold k target
  | .credit a amount => L.moveAccount a 0 (-amount)
  | .note => L

theorem moveAccount_zero (L : Ledger ι κ S M) (a : κ) : L.moveAccount a 0 0 = L := by
  have hmove : ∀ acc : Account κ M, acc.move 0 0 = acc := by simp [Account.move]
  have hsame : L.accounts.modify a (Account.move 0 0) = L.accounts := by
    apply Table.ext
    simp [Table.modify, Table.mapRows, hmove]
  rw [Ledger.moveAccount, hsame]

/-- A posting that moves no total. -/
theorem enter_post_zero (L : Ledger ι κ S M) (k : ι) (a : κ) (target : S) :
    L.enter (.post k a target 0 0) = L.moveHold k target := by
  rw [Ledger.enter, moveAccount_zero]

/-- A posting moves the hold it names and no other. -/
theorem holds_enter_post (L : Ledger ι κ S M) (k k' : ι) (a : κ) (target : S) (dHeld dSpent : M) :
    (L.enter (.post k a target dHeld dSpent)).holds.find? k' =
      if k' = k then (L.holds.find? k).map (Hold.moveTo target) else L.holds.find? k' := by
  show (L.holds.modify k (Hold.moveTo target)).find? k' = _
  exact Table.find?_modify _ _ _ _ _

/-- A posting moves the account it names and no other. -/
theorem accounts_enter_post (L : Ledger ι κ S M) (k : ι) (a a' : κ) (target : S)
    (dHeld dSpent : M) :
    (L.enter (.post k a target dHeld dSpent)).accounts.find? a' =
      if a' = a then (L.accounts.find? a).map (Account.move dHeld dSpent)
      else L.accounts.find? a' := by
  show (L.accounts.modify a (Account.move dHeld dSpent)).find? a' = _
  exact Table.find?_modify _ _ _ _ _

/-- Postings of different holds can be entered in either order. -/
theorem enter_post_comm (L : Ledger ι κ S M) {k k' : ι} (hk : k ≠ k') (a a' : κ) (t t' : S)
    (d d' c c' : M) :
    (L.enter (.post k a t d c)).enter (.post k' a' t' d' c') =
      (L.enter (.post k' a' t' d' c')).enter (.post k a t d c) := by
  have hmove : ∀ acc : Account κ M, (acc.move d c).move d' c' = (acc.move d' c').move d c := by
    intro acc
    simp only [Account.move, add_right_comm]
  have haccounts : (L.accounts.modify a (Account.move d c)).modify a' (Account.move d' c') =
      (L.accounts.modify a' (Account.move d' c')).modify a (Account.move d c) :=
    Table.modify_comm (.inr hmove)
  have hholds : (L.holds.modify k (Hold.moveTo t)).modify k' (Hold.moveTo t') =
      (L.holds.modify k' (Hold.moveTo t')).modify k (Hold.moveTo t) :=
    Table.modify_comm (.inl hk)
  simp only [Ledger.enter, Ledger.moveHold, Ledger.moveAccount, haccounts, hholds]

/-- A new hold disturbs none that is there. -/
theorem holds_enter_hold {L : Ledger ι κ S M} {k : ι} {h h' : Hold ι κ S M}
    (hk : L.holds.find? k = some h) : (L.enter (.hold h')).holds.find? k = some h := by
  show ((L.holds.insert h').getD L.holds).find? k = some h
  cases hi : L.holds.insert h' with
  | none => exact hk
  | some holds => exact Table.find?_insert_of_some hi hk

/-- Entering entries one after the other. -/
def book : Machine (Ledger ι κ S M) (Entry ι κ S M) Unit := ⟨Ledger.enter, fun _ _ => []⟩

@[simp] theorem book_next (L : Ledger ι κ S M) (e : Entry ι κ S M) : book.next L e = L.enter e :=
  rfl

variable [HoldPhase S]

/-- What a hold adds to its account's held total. -/
def heldPart (k : κ) (h : Hold ι κ S M) : M :=
  if h.account = k ∧ HoldPhase.held h.phase = true then h.amount else 0

/-- What a hold adds to its account's spent total. -/
def spentPart (k : κ) (h : Hold ι κ S M) : M :=
  if h.account = k ∧ HoldPhase.spent h.phase = true then h.amount else 0

/-- Every account's totals are the sums over its holds, less what was credited to it; every hold
has its account, and nothing was credited to an account that is not there. -/
structure Balanced (credited : κ → M) (L : Ledger ι κ S M) : Prop where
  totals : ∀ a ∈ L.accounts.rows, a.held = L.holds.sum (heldPart a.id) ∧
    a.spent = L.holds.sum (spentPart a.id) - credited a.id
  attached : ∀ h ∈ L.holds.rows, ∃ a, L.accounts.find? h.account = some a
  uncredited : ∀ k, L.accounts.find? k = none → credited k = 0

/-- What an entry credits to an account. -/
def Entry.credited (k : κ) : Entry ι κ S M → M
  | .credit a amount => if a = k then amount else 0
  | _ => 0

/-- What a list of entries credits to an account. -/
def creditedBy (entries : List (Entry ι κ S M)) (k : κ) : M := (entries.map (Entry.credited k)).sum

/-- A posting of a hold that is there moves the totals as the change of phase moves the sums; a
new hold counts for nothing yet and a new account starts at zero. -/
def Faithful (L : Ledger ι κ S M) : Entry ι κ S M → Prop
  | .account a => a.held = 0 ∧ a.spent = 0
  | .hold h => HoldPhase.held h.phase = false ∧ HoldPhase.spent h.phase = false ∧
      ∃ a, L.accounts.find? h.account = some a
  | .post k a target dHeld dSpent => ∃ h, L.holds.find? k = some h ∧ h.account = a ∧
      dHeld = heldPart a (h.moveTo target) - heldPart a h ∧
      dSpent = spentPart a (h.moveTo target) - spentPart a h
  | .credit a _ => ∃ acc, L.accounts.find? a = some acc
  | .note => True

end Operations

/-! ### The accounts that exist -/

section Accounts

variable [AddCommGroup M] [DecidableEq ι] [DecidableEq κ] {L : Ledger ι κ S M}

/-- No entry closes an account. -/
theorem account_enter {k : κ} {a : Account κ M} (e : Entry ι κ S M)
    (h : L.accounts.find? k = some a) :
    ∃ a', (L.enter e).accounts.find? k = some a' ∧ a'.limit = a.limit := by
  cases e with
  | account a₀ =>
    show ∃ a', ((L.accounts.insert a₀).getD L.accounts).find? k = some a' ∧ _
    cases hi : L.accounts.insert a₀ with
    | none => exact ⟨a, h, rfl⟩
    | some accounts => exact ⟨a, Table.find?_insert_of_some hi h, rfl⟩
  | hold h₀ => exact ⟨a, h, rfl⟩
  | post k₀ a₀ target dHeld dSpent =>
    simp only [Ledger.enter, Ledger.moveHold, Ledger.moveAccount, Table.find?_modify]
    split
    · rename_i hk
      rw [← hk, h]
      exact ⟨_, rfl, rfl⟩
    · exact ⟨a, h, rfl⟩
  | note => exact ⟨a, h, rfl⟩
  | credit a₀ amount =>
    simp only [Ledger.enter, Ledger.moveAccount, Table.find?_modify]
    split
    · rename_i hk
      rw [← hk, h]
      exact ⟨_, rfl, rfl⟩
    · exact ⟨a, h, rfl⟩

theorem account_of_enter_none {k : κ} {e : Entry ι κ S M}
    (h : (L.enter e).accounts.find? k = none) : L.accounts.find? k = none := by
  cases hk : L.accounts.find? k with
  | none => rfl
  | some a =>
    obtain ⟨a', ha', -⟩ := account_enter e hk
    rw [h] at ha'
    cases ha'

/-- Every hold has its account. -/
def Attached (L : Ledger ι κ S M) : Prop :=
  ∀ h ∈ L.holds.rows, ∃ a, L.accounts.find? h.account = some a

/-- An entry keeps holds and accounts together, if a new hold has its account. -/
theorem attached_enter (ha : Attached L) (e : Entry ι κ S M)
    (hnew : ∀ h, e = .hold h → ∃ a, L.accounts.find? h.account = some a) :
    Attached (L.enter e) := by
  have hkept : ∀ h ∈ (L.enter e).holds.rows, ∃ a, L.accounts.find? h.account = some a := by
    intro h hm
    cases e with
    | account _ => exact ha h hm
    | credit _ _ => exact ha h hm
    | note => exact ha h hm
    | hold h₀ =>
      have hm' : h ∈ ((L.holds.insert h₀).getD L.holds).rows := hm
      cases hi : L.holds.insert h₀ with
      | none =>
        rw [hi] at hm'
        exact ha h hm'
      | some holds =>
        rw [hi] at hm'
        rcases (Table.mem_insert hi).mp hm' with hm' | rfl
        · exact ha h hm'
        · exact hnew h rfl
    | post k _ target _ _ =>
      have hm' : h ∈ (L.holds.modify k (Hold.moveTo target)).rows := hm
      rcases Table.mem_modify.mp hm' with ⟨h₀, hh₀, -, rfl⟩ | ⟨hh₀, -⟩
      · exact ha h₀ hh₀
      · exact ha h hh₀
  intro h hm
  obtain ⟨a, hacc⟩ := hkept h hm
  obtain ⟨a', hacc', -⟩ := account_enter e hacc
  exact ⟨a', hacc'⟩

end Accounts

/-! ### The balance -/

section Balance

variable [AddCommGroup M] [DecidableEq ι] [DecidableEq κ] [HoldPhase S]
variable {L : Ledger ι κ S M} {credited : κ → M}

theorem heldPart_of_ne {k : κ} {h : Hold ι κ S M} (hk : h.account ≠ k) : heldPart k h = 0 :=
  if_neg fun hc => hk hc.1

theorem spentPart_of_ne {k : κ} {h : Hold ι κ S M} (hk : h.account ≠ k) : spentPart k h = 0 :=
  if_neg fun hc => hk hc.1

/-- **A posting and the sums.**  Each sum moves by what the posted hold's part moves. -/
theorem sum_post {w : Hold ι κ S M → M} {k : ι} {h : Hold ι κ S M} {target : S}
    (hh : L.holds.find? k = some h) :
    (L.holds.modify k (Hold.moveTo target)).sum w = L.holds.sum w + (w (h.moveTo target) - w h) := by
  rw [Table.sum_modify hh]
  abel

/-- Every account's held total is the sum over its holds. -/
def HeldTotals (L : Ledger ι κ S M) : Prop :=
  ∀ a ∈ L.accounts.rows, a.held = L.holds.sum (heldPart a.id)

theorem Balanced.heldTotals (hb : Balanced credited L) : HeldTotals L :=
  fun a ha => (hb.totals a ha).1

/-- A posting keeps the held totals if it moves the account, where there is one, by what the change
of phase moves the sum. -/
theorem heldTotals_post {k : ι} {h : Hold ι κ S M} {target : S} {dHeld dSpent : M}
    (ht : HeldTotals L) (hh : L.holds.find? k = some h)
    (hd : ∀ acc, L.accounts.find? h.account = some acc →
      dHeld = heldPart h.account (h.moveTo target) - heldPart h.account h) :
    HeldTotals (L.enter (.post k h.account target dHeld dSpent)) := by
  intro acc hacc
  simp only [Ledger.enter, Ledger.moveHold, Ledger.moveAccount] at hacc ⊢
  rw [sum_post hh]
  rcases Table.mem_modify.mp hacc with ⟨acc₀, hacc₀, hk, rfl⟩ | ⟨hacc₀, hk⟩
  · have hid : (acc₀.move dHeld dSpent).id = h.account := hk
    have h₁ := ht acc₀ hacc₀
    rw [show acc₀.id = h.account from hk] at h₁
    rw [hid]
    show acc₀.held + dHeld = _
    rw [h₁, hd acc₀ (Table.find?_eq_some_iff.mpr ⟨hacc₀, hk⟩)]
  · have hne : h.account ≠ acc.id := fun he => hk he.symm
    have hne' : (h.moveTo target).account ≠ acc.id := hne
    rw [heldPart_of_ne hne, heldPart_of_ne hne', sub_zero, add_zero]
    exact ht acc hacc₀

theorem balanced_post {k : ι} {a : κ} {target : S} {dHeld dSpent : M}
    (hb : Balanced credited L) (hf : Faithful L (.post k a target dHeld dSpent)) :
    Balanced credited (L.enter (.post k a target dHeld dSpent)) := by
  obtain ⟨h, hh, rfl, hHeld, hSpent⟩ := hf
  refine ⟨fun acc hacc => ⟨heldTotals_post hb.heldTotals hh (fun _ _ => hHeld) acc hacc, ?_⟩,
    attached_enter hb.attached _ (fun _ he => by cases he),
    fun k' hk' => hb.uncredited k' (account_of_enter_none hk')⟩
  · simp only [Ledger.enter, Ledger.moveHold, Ledger.moveAccount] at hacc ⊢
    rw [sum_post hh]
    rcases Table.mem_modify.mp hacc with ⟨acc₀, hacc₀, hk, rfl⟩ | ⟨hacc₀, hk⟩
    · have hid : (acc₀.move dHeld dSpent).id = h.account := hk
      have h₂ := (hb.totals acc₀ hacc₀).2
      rw [show acc₀.id = h.account from hk] at h₂
      rw [hid]
      show acc₀.spent + dSpent = _
      rw [h₂, hSpent]
      abel
    · have hne : h.account ≠ acc.id := fun he => hk he.symm
      have hne' : (h.moveTo target).account ≠ acc.id := hne
      rw [spentPart_of_ne hne, spentPart_of_ne hne', sub_zero, add_zero]
      exact (hb.totals acc hacc₀).2

theorem balanced_hold {h : Hold ι κ S M} (hb : Balanced credited L) (hf : Faithful L (.hold h)) :
    Balanced credited (L.enter (.hold h)) := by
  obtain ⟨hHeld, hSpent, hacc⟩ := hf
  have hattached := attached_enter hb.attached (.hold h) fun _ he => Entry.hold.inj he ▸ hacc
  show Balanced credited { L with holds := (L.holds.insert h).getD L.holds }
  cases hi : L.holds.insert h with
  | none => exact hb
  | some holds =>
    have h₁ (k : κ) : heldPart k h = 0 := if_neg fun hc => by rw [hHeld] at hc; cases hc.2
    have h₂ (k : κ) : spentPart k h = 0 := if_neg fun hc => by rw [hSpent] at hc; cases hc.2
    refine ⟨fun acc hm => ?_, ?_, hb.uncredited⟩
    · rw [Option.getD_some, Table.sum_insert hi, Table.sum_insert hi, h₁, h₂, add_zero, add_zero]
      exact hb.totals acc hm
    · rw [Ledger.enter, hi] at hattached
      exact hattached

theorem balanced_account {a : Account κ M} (hb : Balanced credited L)
    (hf : Faithful L (.account a)) : Balanced credited (L.enter (.account a)) := by
  show Balanced credited { L with accounts := (L.accounts.insert a).getD L.accounts }
  cases hi : L.accounts.insert a with
  | none => exact hb
  | some accounts =>
    have hnone : L.accounts.find? a.id = none := (Table.insert_eq_some_iff.mp hi).1
    refine ⟨fun acc hm => ?_, fun h hh => ?_, fun k hk => hb.uncredited k ?_⟩
    · rcases (Table.mem_insert hi).mp hm with hm | rfl
      · exact hb.totals acc hm
      · -- no hold names an account that was not there
        have hne : ∀ h ∈ L.holds.rows, h.account ≠ acc.id := by
          intro h hh he
          obtain ⟨acc', hacc'⟩ := hb.attached h hh
          rw [he, hnone] at hacc'
          cases hacc'
        have h₁ : L.holds.sum (heldPart acc.id) = 0 :=
          Table.sum_eq_zero fun h hh => heldPart_of_ne (hne h hh)
        have h₂ : L.holds.sum (spentPart acc.id) = 0 :=
          Table.sum_eq_zero fun h hh => spentPart_of_ne (hne h hh)
        refine ⟨hf.1.trans h₁.symm, ?_⟩
        show acc.spent = L.holds.sum (spentPart acc.id) - credited acc.id
        rw [hf.2, h₂, hb.uncredited _ hnone, sub_zero]
    · obtain ⟨acc, hacc⟩ := hb.attached h hh
      exact ⟨acc, Table.find?_insert_of_some hi hacc⟩
    · rw [Option.getD_some, Table.find?_insert hi] at hk
      split at hk
      · cases hk
      · exact hk

theorem balanced_credit {a : κ} {amount : M} (hb : Balanced credited L)
    (hf : Faithful L (.credit a amount)) :
    Balanced (fun k => credited k + if a = k then amount else 0) (L.enter (.credit a amount)) := by
  obtain ⟨acc₁, hacc₁⟩ := hf
  refine ⟨fun acc hm => ?_, attached_enter hb.attached _ (fun _ he => by cases he), fun k hk => ?_⟩
  · have hm' : acc ∈ (L.accounts.modify a (Account.move 0 (-amount))).rows := hm
    rcases Table.mem_modify.mp hm' with ⟨acc₀, hacc₀, hk, rfl⟩ | ⟨hacc₀, hk⟩
    · obtain ⟨h₁, h₂⟩ := hb.totals acc₀ hacc₀
      refine ⟨?_, ?_⟩
      · show acc₀.held + 0 = _
        rw [add_zero]
        exact h₁
      · show acc₀.spent + -amount = L.holds.sum (spentPart acc₀.id) -
          (credited acc₀.id + if a = acc₀.id then amount else 0)
        have hid : a = acc₀.id := Eq.symm hk
        rw [h₂, if_pos hid]
        abel
    · obtain ⟨h₁, h₂⟩ := hb.totals acc hacc₀
      refine ⟨h₁, ?_⟩
      show acc.spent = L.holds.sum (spentPart acc.id) -
        (credited acc.id + if a = acc.id then amount else 0)
      have hid : a ≠ acc.id := fun he => hk he.symm
      rw [if_neg hid, add_zero]
      exact h₂
  · have hnone := account_of_enter_none hk
    rw [hb.uncredited k hnone, if_neg, add_zero]
    rintro rfl
    rw [hnone] at hacc₁
    cases hacc₁

/-- **One faithful entry keeps the balance.** -/
theorem balanced_enter {e : Entry ι κ S M} (hb : Balanced credited L) (hf : Faithful L e) :
    Balanced (fun k => credited k + e.credited k) (L.enter e) := by
  cases e with
  | account a => simpa [Entry.credited] using balanced_account hb hf
  | hold h => simpa [Entry.credited] using balanced_hold hb hf
  | post k a target dHeld dSpent => simpa [Entry.credited] using balanced_post hb hf
  | credit a amount => exact balanced_credit hb hf
  | note => simpa [Entry.credited, Ledger.enter] using hb

/-- A run of faithful entries keeps the balance. -/
theorem balanced_run {entries : List (Entry ι κ S M)} (hb : Balanced credited L)
    (hf : book.Along Faithful L entries) :
    Balanced (fun k => credited k + creditedBy entries k) (book.run L entries) := by
  induction entries generalizing L credited with
  | nil => simpa [creditedBy] using hb
  | cons e entries ih =>
    have h := ih (balanced_enter hb hf.1) hf.2
    rw [Machine.run_cons, book_next]
    simpa only [creditedBy, List.map_cons, List.sum_cons, add_assoc] using h

end Balance

/-! ### Phases -/

section Phases

variable [AddCommGroup M] [DecidableEq ι] [DecidableEq κ] {L : Ledger ι κ S M}

/-- A phase a hold is in after some entries is the one it was in before, or one of the entries
put it there. -/
theorem phase_origin {entries : List (Entry ι κ S M)} {k : ι} {h' : Hold ι κ S M}
    (hh : (book.run L entries).holds.find? k = some h') :
    (∃ h, L.holds.find? k = some h ∧ h.phase = h'.phase) ∨
      (∃ a dHeld dSpent, .post k a h'.phase dHeld dSpent ∈ entries) ∨
      ∃ h, .hold h ∈ entries ∧ h.id = k ∧ h.phase = h'.phase := by
  induction entries generalizing L with
  | nil => exact .inl ⟨h', hh, rfl⟩
  | cons e entries ih =>
    rcases ih hh with ⟨h, hfind, hp⟩ | ⟨a, dHeld, dSpent, hm⟩ | ⟨h, hm, hid, hp⟩
    · cases e with
      | account a => exact .inl ⟨h, hfind, hp⟩
      | note => exact .inl ⟨h, hfind, hp⟩
      | credit a amount => exact .inl ⟨h, hfind, hp⟩
      | hold h₀ =>
        have hfind' : ((L.holds.insert h₀).getD L.holds).find? k = some h := hfind
        cases hi : L.holds.insert h₀ with
        | none =>
          rw [hi] at hfind'
          exact .inl ⟨h, hfind', hp⟩
        | some holds =>
          rw [hi, Option.getD_some, Table.find?_insert hi] at hfind'
          split at hfind'
          · rename_i hk
            cases hfind'
            exact .inr (.inr ⟨h, List.mem_cons_self, hk.symm, hp⟩)
          · exact .inl ⟨h, hfind', hp⟩
      | post k₀ a target dHeld dSpent =>
        have hfind' : (L.holds.modify k₀ (Hold.moveTo target)).find? k = some h := hfind
        rw [Table.find?_modify] at hfind'
        split at hfind'
        · rename_i hk
          obtain ⟨h₀, -, rfl⟩ := Option.map_eq_some_iff.mp hfind'
          refine .inr (.inl ⟨a, dHeld, dSpent, ?_⟩)
          rw [← hp, hk]
          exact List.mem_cons_self
        · exact .inl ⟨h, hfind', hp⟩
    · exact .inr (.inl ⟨a, dHeld, dSpent, List.mem_cons_of_mem _ hm⟩)
    · exact .inr (.inr ⟨h, List.mem_cons_of_mem _ hm, hid, hp⟩)

end Phases

/-! ### Amounts -/

section Amounts

variable [AddCommGroup M] [DecidableEq ι] [DecidableEq κ] {L : Ledger ι κ S M} {P : M → Prop}

/-- What holds of every amount, and of every amount entered, holds of every amount afterwards. -/
theorem amounts_enter {e : Entry ι κ S M} (ha : ∀ h ∈ L.holds.rows, P h.amount)
    (he : ∀ h, e = .hold h → P h.amount) : ∀ h ∈ (L.enter e).holds.rows, P h.amount := by
  cases e with
  | account a => exact ha
  | note => exact ha
  | credit a amount => exact ha
  | hold h₀ =>
    intro h hm
    have hm' : h ∈ ((L.holds.insert h₀).getD L.holds).rows := hm
    cases hi : L.holds.insert h₀ with
    | none =>
      rw [hi] at hm'
      exact ha h hm'
    | some holds =>
      rw [hi] at hm'
      rcases (Table.mem_insert hi).mp hm' with hm' | rfl
      · exact ha h hm'
      · exact he h rfl
  | post k a target dHeld dSpent =>
    intro h hm
    have hm' : h ∈ (L.holds.modify k (Hold.moveTo target)).rows := hm
    rcases Table.mem_modify.mp hm' with ⟨h₀, hm₀, -, rfl⟩ | ⟨hm₀, -⟩
    · exact ha h₀ hm₀
    · exact ha h hm₀

end Amounts

/-! ### Limits -/

section Limits

variable [AddCommGroup M] [PartialOrder M] [IsOrderedAddMonoid M]
variable [DecidableEq ι] [DecidableEq κ] {L : Ledger ι κ S M} {bound : κ → M → M}

/-- No account has spent and holds more than the bound that goes with its id and its limit. -/
def WithinLimits (bound : κ → M → M) (L : Ledger ι κ S M) : Prop :=
  ∀ a ∈ L.accounts.rows, a.spent + a.held ≤ bound a.id a.limit

/-- What an entry must leave room for. -/
def Fits (bound : κ → M → M) (L : Ledger ι κ S M) : Entry ι κ S M → Prop
  | .account a => a.spent + a.held ≤ bound a.id a.limit
  | .hold _ => True
  | .post _ a _ dHeld dSpent => ∀ acc, L.accounts.find? a = some acc →
      acc.spent + dSpent + (acc.held + dHeld) ≤ bound acc.id acc.limit
  | .credit a amount => ∀ acc, L.accounts.find? a = some acc →
      acc.spent - amount + acc.held ≤ bound acc.id acc.limit
  | .note => True

theorem withinLimits_modify {a : κ} {dHeld dSpent : M} (hw : WithinLimits bound L) :
    (∀ acc ∈ (L.accounts.modify a (Account.move dHeld dSpent)).rows,
        acc.spent + acc.held ≤ bound acc.id acc.limit) ↔
      ∀ acc, L.accounts.find? a = some acc →
        acc.spent + dSpent + (acc.held + dHeld) ≤ bound acc.id acc.limit := by
  constructor
  · intro h acc hacc
    obtain ⟨hm, hk⟩ := Table.find?_eq_some_iff.mp hacc
    exact h (acc.move dHeld dSpent) (Table.mem_modify.mpr (.inl ⟨acc, hm, hk, rfl⟩))
  · intro h acc hm
    rcases Table.mem_modify.mp hm with ⟨acc₀, hacc₀, hk, rfl⟩ | ⟨hacc₀, -⟩
    · exact h acc₀ (Table.find?_eq_some_iff.mpr ⟨hacc₀, hk⟩)
    · exact hw acc hacc₀

/-- **One entry and the limits.**  A ledger within its limits stays so under an entry that fits. -/
theorem withinLimits_enter_of_fits {e : Entry ι κ S M} (hw : WithinLimits bound L)
    (hf : Fits bound L e) : WithinLimits bound (L.enter e) := by
  cases e with
  | account a =>
    intro acc hm
    have hm' : acc ∈ ((L.accounts.insert a).getD L.accounts).rows := hm
    cases hi : L.accounts.insert a with
    | none =>
      rw [hi] at hm'
      exact hw acc hm'
    | some accounts =>
      rw [hi] at hm'
      rcases (Table.mem_insert hi).mp hm' with hm' | rfl
      · exact hw acc hm'
      · exact hf
  | hold h => exact hw
  | note => exact hw
  | post k a target dHeld dSpent => exact (withinLimits_modify hw).mpr hf
  | credit a amount =>
    refine (withinLimits_modify hw).mpr fun acc hacc => ?_
    rw [add_zero, ← sub_eq_add_neg]
    exact hf acc hacc

/-- A posting that takes no more room than it gives back fits. -/
theorem fits_post_of_nonpos {k : ι} {a : κ} {target : S} {dHeld dSpent : M}
    (hw : WithinLimits bound L) (h : dSpent + dHeld ≤ 0) :
    Fits bound L (.post k a target dHeld dSpent) := by
  intro acc hacc
  have hle := hw acc (Table.mem_of_find? hacc)
  calc acc.spent + dSpent + (acc.held + dHeld)
      = acc.spent + acc.held + (dSpent + dHeld) := by abel
    _ ≤ bound acc.id acc.limit + 0 := add_le_add hle h
    _ = bound acc.id acc.limit := add_zero _

/-! ### What a balanced ledger covers -/

variable [HoldPhase S] {credited : κ → M}

theorem heldPart_nonneg {k : κ} {h : Hold ι κ S M} (ha : 0 ≤ h.amount) : 0 ≤ heldPart k h := by
  unfold heldPart
  split
  · exact ha
  · exact le_refl 0

theorem held_nonneg (hb : Balanced credited L) (ha : ∀ h ∈ L.holds.rows, 0 ≤ h.amount)
    {a : Account κ M} (hm : a ∈ L.accounts.rows) : 0 ≤ a.held := by
  rw [(hb.totals a hm).1]
  exact Table.sum_nonneg fun h hh => heldPart_nonneg (ha h hh)

/-- **Held totals cover every held amount.** -/
theorem amount_le_held (ht : HeldTotals L) (ha : ∀ h ∈ L.holds.rows, 0 ≤ h.amount)
    {h : Hold ι κ S M} (hh : h ∈ L.holds.rows) (hp : HoldPhase.held h.phase = true)
    {a : Account κ M} (hacc : L.accounts.find? h.account = some a) : h.amount ≤ a.held := by
  obtain ⟨hm, hk⟩ := Table.find?_eq_some_iff.mp hacc
  rw [ht a hm]
  have hle : heldPart a.id h ≤ L.holds.sum (heldPart a.id) :=
    Table.le_sum (fun h hh => heldPart_nonneg (ha h hh)) hh
  rwa [heldPart, if_pos ⟨Eq.symm hk, hp⟩] at hle

end Limits

end MandatePlane.HoldLedger
