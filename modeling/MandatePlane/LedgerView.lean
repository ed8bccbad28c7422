import MandatePlane.DomainModel
import MandatePlane.HoldLedger
import MandatePlane.StateMachine
import Mathlib.Algebra.Order.Group.Int

/-!
# The store as a ledger

A store is read as a ledger: mandates are accounts, operations are holds, RESERVED
and EXECUTING count as held and SUCCEEDED as spent.  Four more views say what does
not move: the grants (mandates with their counters masked), the terms (mandates with
everything masked that changes after the issue), the allotments (the terms together
with what was delegated) and the orders (operations with the columns masked that
change after the insert).

`Posting` lists the status writes the handlers make, each with its source status and
the counters it moves; `EventRule` says when an observation may follow a ledger.
-/

namespace MandatePlane.LedgerView

open DomainModel KeyedTable HoldLedger LabelledRun

instance : HoldPhase OperationStatus := ⟨OperationStatus.inFlight, fun status => status = .succeeded⟩

abbrev Books := Ledger String String OperationStatus ℤ

/-! ### The views -/

def mandateAccount (m : Mandate) : Account String ℤ where
  id := m.id
  limit := m.aggregateSpendLimit
  spent := m.currentAggregateSpend
  held := m.reservedSpend

def operationHold (op : FinancialOperation) : Hold String String OperationStatus ℤ where
  id := op.id
  account := op.mandateId
  amount := op.amount
  phase := op.status

theorem key_mandateAccount (m : Mandate) : Keyed.key (mandateAccount m) = Keyed.key m := rfl

theorem key_operationHold (op : FinancialOperation) :
    Keyed.key (operationHold op) = Keyed.key op := rfl

def ledger (s : Store) : Books where
  accounts := s.mandates.mapRows mandateAccount key_mandateAccount
  holds := s.operations.mapRows operationHold key_operationHold

/-- A mandate without its counters. -/
def grantOf (m : Mandate) : Mandate :=
  { m with currentAggregateSpend := 0, reservedSpend := 0, version := 0 }

/-- A mandate as it was issued. -/
def termsOf (m : Mandate) : Mandate :=
  { m with
    status := .active
    currentAggregateSpend := 0
    reservedSpend := 0
    delegatedChildBudgetAllocated := 0
    suspensionReason := none
    version := 0 }

/-- A mandate as it was issued, with what it has handed out to children since. -/
def allotmentOf (m : Mandate) : Mandate :=
  { m with
    status := .active
    currentAggregateSpend := 0
    reservedSpend := 0
    suspensionReason := none
    version := 0 }

/-- An operation as it was requested. -/
def orderOf (op : FinancialOperation) : FinancialOperation :=
  { op with
    status := .initiated
    policyEvaluationDetails := none
    errorMessage := none
    approvedById := none }

theorem key_grantOf (m : Mandate) : Keyed.key (grantOf m) = Keyed.key m := rfl

theorem key_termsOf (m : Mandate) : Keyed.key (termsOf m) = Keyed.key m := rfl

theorem key_allotmentOf (m : Mandate) : Keyed.key (allotmentOf m) = Keyed.key m := rfl

theorem key_orderOf (op : FinancialOperation) : Keyed.key (orderOf op) = Keyed.key op := rfl

def grants (s : Store) : Table Mandate := s.mandates.mapRows grantOf key_grantOf

def terms (s : Store) : Table Mandate := s.mandates.mapRows termsOf key_termsOf

def allotments (s : Store) : Table Mandate := s.mandates.mapRows allotmentOf key_allotmentOf

def orders (s : Store) : Table FinancialOperation := s.operations.mapRows orderOf key_orderOf

/-- What a transaction ties together for good: an operation and a gateway order. -/
def linkOf (tx : Transaction) : String × Option String := (tx.operationId, tx.gatewayOrderId)

def links (s : Store) : List (String × Option String) := s.transactions.map linkOf

theorem accounts_find? (s : Store) (id : String) :
    (ledger s).accounts.find? id = (s.mandates.find? id).map mandateAccount :=
  Table.find?_mapRows key_mandateAccount s.mandates id

theorem holds_find? (s : Store) (id : String) :
    (ledger s).holds.find? id = (s.operations.find? id).map operationHold :=
  Table.find?_mapRows key_operationHold s.operations id

theorem terms_find? (s : Store) (id : String) :
    (terms s).find? id = (s.mandates.find? id).map termsOf :=
  Table.find?_mapRows key_termsOf s.mandates id

theorem orders_find? (s : Store) (id : String) :
    (orders s).find? id = (s.operations.find? id).map orderOf :=
  Table.find?_mapRows key_orderOf s.operations id

/-- Where the orders are the same, every row was there as it was requested. -/
theorem mem_of_orders {s s' : Store} (h : orders s' = orders s) {r : FinancialOperation}
    (hr : r ∈ s'.operations.rows) : ∃ r₀ ∈ s.operations.rows, orderOf r₀ = orderOf r := by
  have hm : orderOf r ∈ (orders s').rows := List.mem_map_of_mem hr
  rw [h] at hm
  exact List.mem_map.mp hm

/-- What keeps the grants keeps the allotments. -/
theorem allotments_of_grants {s s' : Store} (h : grants s' = grants s) :
    allotments s' = allotments s := by
  have hview (s : Store) : allotments s = (grants s).mapRows allotmentOf key_allotmentOf := by
    apply Table.ext
    simp only [allotments, grants, Table.mapRows, List.map_map]
    rfl
  rw [hview, hview, h]

/-- What keeps the allotments keeps the terms. -/
theorem terms_of_allotments {s s' : Store} (h : allotments s' = allotments s) :
    terms s' = terms s := by
  have hview (s : Store) : terms s = (allotments s).mapRows termsOf key_termsOf := by
    apply Table.ext
    simp only [terms, allotments, Table.mapRows, List.map_map]
    rfl
  rw [hview, hview, h]

/-! ### The views under the store's updates -/

section Updates

variable (s : Store)

@[simp] theorem ledger_audit (e : AuditEvent) : ledger (s.audit e) = ledger s := rfl
@[simp] theorem ledger_addTransaction (tx : Transaction) :
    ledger (s.addTransaction tx) = ledger s := rfl
@[simp] theorem ledger_updateTransactions (p : Transaction → Bool) (f : Transaction → Transaction) :
    ledger (s.updateTransactions p f) = ledger s := rfl

@[simp] theorem grants_audit (e : AuditEvent) : grants (s.audit e) = grants s := rfl
@[simp] theorem grants_addTransaction (tx : Transaction) :
    grants (s.addTransaction tx) = grants s := rfl
@[simp] theorem grants_updateTransactions (p : Transaction → Bool) (f : Transaction → Transaction) :
    grants (s.updateTransactions p f) = grants s := rfl
@[simp] theorem grants_updateOperation (id : String) (f : FinancialOperation → FinancialOperation)
    (hf : ∀ op, Keyed.key (f op) = Keyed.key op) :
    grants (s.updateOperation id f hf) = grants s := rfl

@[simp] theorem orders_audit (e : AuditEvent) : orders (s.audit e) = orders s := rfl
@[simp] theorem orders_addTransaction (tx : Transaction) :
    orders (s.addTransaction tx) = orders s := rfl
@[simp] theorem orders_updateTransactions (p : Transaction → Bool) (f : Transaction → Transaction) :
    orders (s.updateTransactions p f) = orders s := rfl
@[simp] theorem orders_updateMandate (id : String) (f : Mandate → Mandate)
    (hf : ∀ m, Keyed.key (f m) = Keyed.key m) : orders (s.updateMandate id f hf) = orders s := rfl

/-- A write of the columns of transactions that do change. -/
theorem links_updateTransactions {p : Transaction → Bool} {f : Transaction → Transaction}
    (h : ∀ tx, linkOf (f tx) = linkOf tx) : links (s.updateTransactions p f) = links s := by
  unfold links Store.updateTransactions
  rw [List.map_map]
  apply List.map_congr_left
  intro tx _
  by_cases hp : p tx
  · simp [hp, h]
  · simp [hp]

/-- A write of the status. -/
theorem ledger_status {id : String} {f : FinancialOperation → FinancialOperation}
    {hf : ∀ op, Keyed.key (f op) = Keyed.key op} {target : OperationStatus}
    (h : ∀ op, operationHold (f op) = (operationHold op).moveTo target) :
    ledger (s.updateOperation id f hf) = (ledger s).moveHold id target := by
  unfold ledger Ledger.moveHold Store.updateOperation
  congr 1
  exact Table.mapRows_modify key_operationHold _ _ _ hf (Hold.moveTo target)
    (fun _ => key_kept rfl) h

/-- A write of other columns. -/
theorem ledger_columns {id : String} {f : FinancialOperation → FinancialOperation}
    {hf : ∀ op, Keyed.key (f op) = Keyed.key op} (h : ∀ op, operationHold (f op) = operationHold op) :
    ledger (s.updateOperation id f hf) = ledger s := by
  unfold ledger Store.updateOperation
  congr 1
  exact Table.mapRows_modify_of_eq key_operationHold _ _ _ hf h

/-- A relative write of the counters. -/
theorem ledger_counters {id : String} {f : Mandate → Mandate}
    {hf : ∀ m, Keyed.key (f m) = Keyed.key m} {dHeld dSpent : ℤ}
    (h : ∀ m, mandateAccount (f m) = (mandateAccount m).move dHeld dSpent) :
    ledger (s.updateMandate id f hf) = (ledger s).moveAccount id dHeld dSpent := by
  unfold ledger Ledger.moveAccount Store.updateMandate
  congr 1
  exact Table.mapRows_modify key_mandateAccount _ _ _ hf (Account.move dHeld dSpent)
    (fun _ => key_kept rfl) h

theorem grants_counters {id : String} {f : Mandate → Mandate}
    {hf : ∀ m, Keyed.key (f m) = Keyed.key m} (h : ∀ m, grantOf (f m) = grantOf m) :
    grants (s.updateMandate id f hf) = grants s :=
  Table.mapRows_modify_of_eq key_grantOf _ _ _ hf h

theorem terms_columns {id : String} {f : Mandate → Mandate}
    {hf : ∀ m, Keyed.key (f m) = Keyed.key m} (h : ∀ m, termsOf (f m) = termsOf m) :
    terms (s.updateMandate id f hf) = terms s :=
  Table.mapRows_modify_of_eq key_termsOf _ _ _ hf h

theorem allotments_columns {id : String} {f : Mandate → Mandate}
    {hf : ∀ m, Keyed.key (f m) = Keyed.key m} (h : ∀ m, allotmentOf (f m) = allotmentOf m) :
    allotments (s.updateMandate id f hf) = allotments s :=
  Table.mapRows_modify_of_eq key_allotmentOf _ _ _ hf h

theorem orders_columns {id : String} {f : FinancialOperation → FinancialOperation}
    {hf : ∀ op, Keyed.key (f op) = Keyed.key op} (h : ∀ op, orderOf (f op) = orderOf op) :
    orders (s.updateOperation id f hf) = orders s :=
  Table.mapRows_modify_of_eq key_orderOf _ _ _ hf h

@[simp] theorem ledger_moveTo (id : String) (status : OperationStatus)
    (hf : ∀ op, Keyed.key (FinancialOperation.moveTo status op) = Keyed.key op) :
    ledger (s.updateOperation id (.moveTo status) hf) = (ledger s).moveHold id status :=
  ledger_status s fun _ => rfl

@[simp] theorem ledger_moveToWith (id : String) (status : OperationStatus)
    (message : Option String)
    (hf : ∀ op, Keyed.key (FinancialOperation.moveToWith status message op) = Keyed.key op) :
    ledger (s.updateOperation id (.moveToWith status message) hf) = (ledger s).moveHold id status :=
  ledger_status s fun _ => rfl

@[simp] theorem orders_moveTo (id : String) (status : OperationStatus)
    (hf : ∀ op, Keyed.key (FinancialOperation.moveTo status op) = Keyed.key op) :
    orders (s.updateOperation id (.moveTo status) hf) = orders s :=
  orders_columns s fun _ => rfl

@[simp] theorem orders_moveToWith (id : String) (status : OperationStatus)
    (message : Option String)
    (hf : ∀ op, Keyed.key (FinancialOperation.moveToWith status message op) = Keyed.key op) :
    orders (s.updateOperation id (.moveToWith status message) hf) = orders s :=
  orders_columns s fun _ => rfl

variable (id : String) (amount : ℤ)

@[simp] theorem ledger_reserve (hf : ∀ m, Keyed.key (Mandate.reserve amount m) = Keyed.key m) :
    ledger (s.updateMandate id (Mandate.reserve amount) hf) =
      (ledger s).moveAccount id amount 0 :=
  ledger_counters s fun _ => by simp [mandateAccount, Mandate.reserve, Account.move]

@[simp] theorem ledger_commitReserved
    (hf : ∀ m, Keyed.key (Mandate.commitReserved amount m) = Keyed.key m) :
    ledger (s.updateMandate id (Mandate.commitReserved amount) hf) =
      (ledger s).moveAccount id (-amount) amount :=
  ledger_counters s fun _ => rfl

@[simp] theorem ledger_commitDispatched
    (hf : ∀ m, Keyed.key (Mandate.commitDispatched amount m) = Keyed.key m) :
    ledger (s.updateMandate id (Mandate.commitDispatched amount) hf) =
      (ledger s).moveAccount id (-amount) amount :=
  ledger_counters s fun _ => rfl

@[simp] theorem ledger_commitUnreserved
    (hf : ∀ m, Keyed.key (Mandate.commitUnreserved amount m) = Keyed.key m) :
    ledger (s.updateMandate id (Mandate.commitUnreserved amount) hf) =
      (ledger s).moveAccount id 0 amount :=
  ledger_counters s fun _ => by simp [mandateAccount, Mandate.commitUnreserved, Account.move]

@[simp] theorem ledger_release (hf : ∀ m, Keyed.key (Mandate.release amount m) = Keyed.key m) :
    ledger (s.updateMandate id (Mandate.release amount) hf) =
      (ledger s).moveAccount id (-amount) 0 :=
  ledger_counters s fun _ => by simp [mandateAccount, Mandate.release, Account.move, sub_eq_add_neg]

@[simp] theorem grants_reserve (hf : ∀ m, Keyed.key (Mandate.reserve amount m) = Keyed.key m) :
    grants (s.updateMandate id (Mandate.reserve amount) hf) = grants s :=
  grants_counters s fun _ => rfl

@[simp] theorem grants_commitReserved
    (hf : ∀ m, Keyed.key (Mandate.commitReserved amount m) = Keyed.key m) :
    grants (s.updateMandate id (Mandate.commitReserved amount) hf) = grants s :=
  grants_counters s fun _ => rfl

@[simp] theorem grants_commitDispatched
    (hf : ∀ m, Keyed.key (Mandate.commitDispatched amount m) = Keyed.key m) :
    grants (s.updateMandate id (Mandate.commitDispatched amount) hf) = grants s :=
  grants_counters s fun _ => rfl

@[simp] theorem grants_commitUnreserved
    (hf : ∀ m, Keyed.key (Mandate.commitUnreserved amount m) = Keyed.key m) :
    grants (s.updateMandate id (Mandate.commitUnreserved amount) hf) = grants s :=
  grants_counters s fun _ => rfl

@[simp] theorem grants_release (hf : ∀ m, Keyed.key (Mandate.release amount m) = Keyed.key m) :
    grants (s.updateMandate id (Mandate.release amount) hf) = grants s :=
  grants_counters s fun _ => rfl

@[simp] theorem grants_withCommitted
    (hf : ∀ m, Keyed.key (Mandate.withCommitted amount m) = Keyed.key m) :
    grants (s.updateMandate id (Mandate.withCommitted amount) hf) = grants s :=
  grants_counters s fun _ => rfl

/-- Writing a new committed total moves the account by the difference. -/
theorem ledger_withCommitted {m : Mandate}
    {hf : ∀ m, Keyed.key (Mandate.withCommitted amount m) = Keyed.key m}
    (hm : s.mandates.find? id = some m) :
    ledger (s.updateMandate id (Mandate.withCommitted amount) hf) =
      (ledger s).moveAccount id 0 (-(m.currentAggregateSpend - amount)) := by
  have hsame : s.updateMandate id (Mandate.withCommitted amount) hf =
      s.updateMandate id fun r => Mandate.withCommitted
        (r.currentAggregateSpend + -(m.currentAggregateSpend - amount)) r := by
    unfold Store.updateMandate
    rw [Table.modify_congr hm]
    show Mandate.withCommitted amount m = Mandate.withCommitted _ m
    congr 1
    omega
  rw [hsame]
  exact ledger_counters s fun _ => by simp [mandateAccount, Mandate.withCommitted, Account.move]

/-- An inserted operation is a new hold. -/
theorem ledger_insertOperation {s s' : Store} {op : FinancialOperation}
    (h : s.insertOperation op = some s') :
    ledger s' = (ledger s).enter (.hold (operationHold op)) ∧
      (ledger s).holds.find? op.id = none ∧ s'.operations.find? op.id = some op ∧
      grants s' = grants s ∧ s'.agents = s.agents ∧ s'.transactions = s.transactions ∧
      s'.mandates = s.mandates := by
  obtain ⟨-, operations, hi, rfl⟩ := Store.insertOperation_eq_some_iff.mp h
  have hview := Table.mapRows_insert key_operationHold hi
  refine ⟨?_, ?_, Table.find?_insert_self hi, rfl, rfl, rfl, rfl⟩
  · simp only [ledger, Ledger.enter, hview, Option.getD_some]
  · have hn : s.operations.find? op.id = none := (Table.insert_eq_some_iff.mp hi).1
    rw [holds_find?, hn]
    rfl

end Updates

/-- An inserted operation is a new order. -/
theorem orders_insertOperation {s s' : Store} {op : FinancialOperation}
    (h : s.insertOperation op = some s') : (orders s).insert (orderOf op) = some (orders s') := by
  obtain ⟨-, operations, hi, rfl⟩ := Store.insertOperation_eq_some_iff.mp h
  exact Table.mapRows_insert key_orderOf hi

theorem insertOperation_audits {s s' : Store} {op : FinancialOperation}
    (h : s.insertOperation op = some s') : s'.auditEvents = s.auditEvents := by
  obtain ⟨-, operations, -, rfl⟩ := Store.insertOperation_eq_some_iff.mp h
  rfl

/-! ### Observations as ledger entries -/

def entry : Event → Entry String String OperationStatus ℤ
  | .issued mandate => .account (mandateAccount mandate)
  | .opened op => .hold (operationHold op)
  | .posted op target dReserved dCommitted =>
    .post op.id op.mandateId target dReserved dCommitted
  | .credited mandateId amount => .credit mandateId amount
  | .gatewayCall _ _ => .note

/-- Entering observations one after the other. -/
def eventBook : Machine Books Event Unit := ⟨fun L e => L.enter (entry e), fun _ _ => []⟩

@[simp] theorem eventBook_next (L : Books) (e : Event) : eventBook.next L e = L.enter (entry e) :=
  rfl

theorem eventBook_run (L : Books) (events : List Event) :
    eventBook.run L events = book.run L (events.map entry) := by
  induction events generalizing L with
  | nil => rfl
  | cons e events ih => exact ih _

theorem along_entries {P : Books → Entry String String OperationStatus ℤ → Prop} {L : Books}
    {events : List Event} (h : eventBook.Along (fun L e => P L (entry e)) L events) :
    book.Along P L (events.map entry) := by
  induction events generalizing L with
  | nil => trivial
  | cons e events ih => exact ⟨h.1, ih h.2⟩

/-- **The postings.**  Source and target status, and what the reserved and the committed total of
the mandate move by, for an operation of the given amount on the given account. -/
inductive Posting (acc : Option (Account String ℤ)) (amount : ℤ) :
    OperationStatus → OperationStatus → ℤ → ℤ → Prop
  | reject {source : OperationStatus} (h : source = .initiated ∨ source = .requiresApproval) :
      Posting acc amount source .policyRejected 0 0
  | park : Posting acc amount .initiated .requiresApproval 0 0
  | reserve {source : OperationStatus} {a : Account String ℤ}
      (h : source = .initiated ∨ source = .requiresApproval) (ha : acc = some a)
      (hroom : a.spent + a.held + amount ≤ a.limit) : Posting acc amount source .reserved amount 0
  | execute : Posting acc amount .reserved .executing 0 0
  | commit {source : OperationStatus} (h : source.inFlight = true) :
      Posting acc amount source .succeeded (-amount) amount
  | release {source : OperationStatus} (h : source.inFlight = true) :
      Posting acc amount source .failed (-amount) 0
  /-- The captured-payment fallback: the reservation does not cover the amount. -/
  | commitUncovered {source : OperationStatus} {a : Account String ℤ}
      (h : source.inFlight = true) (ha : acc = some a) (hlow : a.held < amount) :
      Posting acc amount source .succeeded 0 amount
  | releaseUncovered {source : OperationStatus} {a : Account String ℤ}
      (h : source.inFlight = true) (ha : acc = some a) (hlow : a.held < amount) :
      Posting acc amount source .failed 0 0
  | commitUnfunded {source : OperationStatus} (h : source.inFlight = true) (ha : acc = none) :
      Posting acc amount source .succeeded 0 0
  | releaseUnfunded {source : OperationStatus} (h : source.inFlight = true) (ha : acc = none) :
      Posting acc amount source .failed 0 0

/-- What an amount adds to the reserved and to the committed total in each status. -/
def reservedIn (status : OperationStatus) (amount : ℤ) : ℤ := if status.inFlight then amount else 0

def committedIn (status : OperationStatus) (amount : ℤ) : ℤ :=
  if status = .succeeded then amount else 0

/-- **A posting on a mandate that is there and covers the amount** moves the two totals as the
change of status moves what the amount adds to them. -/
theorem Posting.moves {a : Account String ℤ} {amount : ℤ} {source target : OperationStatus}
    {dReserved dCommitted : ℤ}
    (h : Posting (some a) amount source target dReserved dCommitted)
    (hcover : source.inFlight = true → amount ≤ a.held) :
    dReserved = reservedIn target amount - reservedIn source amount ∧
      dCommitted = committedIn target amount - committedIn source amount := by
  have hflight {source : OperationStatus} (h : source.inFlight = true) :
      reservedIn source amount = amount ∧ committedIn source amount = 0 := by
    refine ⟨if_pos h, if_neg ?_⟩
    rintro rfl
    cases h
  have hidle {source : OperationStatus} (h : source = .initiated ∨ source = .requiresApproval) :
      reservedIn source amount = 0 ∧ committedIn source amount = 0 := by
    rcases h with rfl | rfl <;> exact ⟨rfl, rfl⟩
  cases h with
  | reject h =>
    rw [(hidle h).1, (hidle h).2]
    exact ⟨rfl, rfl⟩
  | park => exact ⟨rfl, rfl⟩
  | reserve h _ _ =>
    rw [(hidle h).1, (hidle h).2]
    exact ⟨(sub_zero amount).symm, rfl⟩
  | execute => exact ⟨(sub_self amount).symm, rfl⟩
  | commit h =>
    rw [(hflight h).1, (hflight h).2]
    exact ⟨(zero_sub amount).symm, (sub_zero amount).symm⟩
  | release h =>
    rw [(hflight h).1, (hflight h).2]
    exact ⟨(zero_sub amount).symm, rfl⟩
  | commitUncovered h ha hlow =>
    cases ha
    exact absurd (hcover h) (not_le.mpr hlow)
  | releaseUncovered h ha hlow =>
    cases ha
    exact absurd (hcover h) (not_le.mpr hlow)
  | commitUnfunded _ ha => cases ha
  | releaseUnfunded _ ha => cases ha

/-- Nothing is posted from a terminal status. -/
theorem Posting.not_terminal {acc : Option (Account String ℤ)} {amount : ℤ}
    {source target : OperationStatus} {dReserved dCommitted : ℤ}
    (h : Posting acc amount source target dReserved dCommitted) :
    ¬ StateMachine.Terminal source := by
  have hidle (h : source = .initiated ∨ source = .requiresApproval) :
      ¬ StateMachine.Terminal source := by
    rcases h with rfl | rfl <;> simp [StateMachine.Terminal, StateMachine.allowedTransitions]
  have hflight (h : source.inFlight = true) : ¬ StateMachine.Terminal source := by
    intro ht
    cases source <;> simp [OperationStatus.inFlight, StateMachine.Terminal,
      StateMachine.allowedTransitions] at h ht
  cases h with
  | reject h => exact hidle h
  | park => exact hidle (.inl rfl)
  | reserve h _ _ => exact hidle h
  | execute => exact hflight rfl
  | commit h => exact hflight h
  | release h => exact hflight h
  | commitUncovered h _ _ => exact hflight h
  | releaseUncovered h _ _ => exact hflight h
  | commitUnfunded h _ => exact hflight h
  | releaseUnfunded h _ => exact hflight h

/-- When an observation may follow a ledger. -/
def EventRule (L : Books) : Event → Prop
  | .issued mandate => mandate.reservedSpend = 0 ∧ mandate.currentAggregateSpend = 0 ∧
      0 < mandate.aggregateSpendLimit ∧ L.accounts.find? mandate.id = none
  | .opened op => op.status = .initiated ∧ 0 < op.amount ∧ L.holds.find? op.id = none ∧
      ∃ a, L.accounts.find? op.mandateId = some a
  | .posted op target dReserved dCommitted => L.holds.find? op.id = some (operationHold op) ∧
      Posting (L.accounts.find? op.mandateId) op.amount op.status target dReserved dCommitted
  | .credited mandateId _ => ∃ a, L.accounts.find? mandateId = some a
  | .gatewayCall op _ => L.holds.find? op.id = some (operationHold op) ∧ op.status = .reserved

/-- A ruled observation leaves a terminal hold as it is and does not post it. -/
theorem terminal_ruled {L : Books} {e : Event} {id : String}
    {hold : Hold String String OperationStatus ℤ} (hr : EventRule L e)
    (hfind : L.holds.find? id = some hold) (ht : StateMachine.Terminal hold.phase) :
    (L.enter (entry e)).holds.find? id = some hold ∧
      ∀ op target dReserved dCommitted, e = .posted op target dReserved dCommitted → op.id ≠ id := by
  cases e with
  | issued _ => exact ⟨hfind, fun _ _ _ _ h => by cases h⟩
  | credited _ _ => exact ⟨hfind, fun _ _ _ _ h => by cases h⟩
  | gatewayCall _ _ => exact ⟨hfind, fun _ _ _ _ h => by cases h⟩
  | opened op => exact ⟨holds_enter_hold hfind, fun _ _ _ _ h => by cases h⟩
  | posted op target dReserved dCommitted =>
    have hne : op.id ≠ id := by
      rintro rfl
      rw [hr.1] at hfind
      cases hfind
      exact hr.2.not_terminal ht
    refine ⟨?_, fun _ _ _ _ h => by cases h; exact hne⟩
    refine (holds_enter_post L op.id id op.mandateId target dReserved dCommitted).trans ?_
    rw [if_neg hne.symm]
    exact hfind

/-- **Terminal statuses are absorbing.**  A ruled log leaves a terminal hold as it is and posts
it nowhere. -/
theorem terminal_kept_ruled {L : Books} {events : List Event} {id : String}
    {hold : Hold String String OperationStatus ℤ} (hr : eventBook.Along EventRule L events)
    (hfind : L.holds.find? id = some hold) (ht : StateMachine.Terminal hold.phase) :
    (eventBook.run L events).holds.find? id = some hold ∧
      ∀ op target dReserved dCommitted, .posted op target dReserved dCommitted ∈ events →
        op.id ≠ id := by
  have hstep : ∀ (L : Books) (e : Event), L.holds.find? id = some hold → EventRule L e →
      (eventBook.next L e).holds.find? id = some hold :=
    fun L e hfind hr => (terminal_ruled hr hfind ht).1
  refine ⟨Machine.inv_run hstep hfind hr, fun op target dReserved dCommitted hm => ?_⟩
  have hno := Machine.along_of_inv hstep (fun L e hfind hr => (terminal_ruled hr hfind ht).2) hfind hr
  obtain ⟨_, hpost⟩ := Machine.exists_of_along hno hm
  exact hpost op target dReserved dCommitted rfl

end MandatePlane.LedgerView
