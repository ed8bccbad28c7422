import MandatePlane.SweepTurns

/-!
# Sweeps in several processes

Any number of sweeps run interleaved, each with its own clock and its own answers of the
gateway.  The lock in the process keeps sweeps of one process apart and is not needed here:
a sweep has locked every operation it decides on, and has looked at the row again when it
got the lock.  So the sweeps that have returned have settled disjoint sets of operations,
and the committed store is the one they started with, with all their rulings carried out.

The mandates are not locked before they are written, but each UPDATE is relative to the
committed row and holds it until the commit, so the counters of a mandate move by the sum
over the operations that have been settled on it.
-/

namespace MandatePlane.ConcurrentSweeps

open DomainModel KeyedTable LabelledRun ReconciliationWorker SweepVerdicts SweepCorrectness
open ReadCommitted OperationSessions SweepSessions SweepTurns

/-! ### Rulings that settle -/

section Rulings

variable {s₀ s : Store} {D : List Ruling} {r : Ruling} {id : String}

/-- The event says that the operation is settled. -/
def settles (id : String) : Event → Bool
  | .posted op _ _ _ => op.id = id
  | _ => false

/-- A decision to settle an operation that is in flight in the store. -/
structure Genuine (s₀ : Store) (r : Ruling) : Prop where
  row : r.op ∈ s₀.operations.rows
  inFlight : r.op.status.inFlight = true
  decided : r.verdict ≠ .keep

theorem settle_not_inFlight {v : Verdict} (hv : v ≠ .keep) (op : FinancialOperation) :
    (v.settle op).status.inFlight = false := by
  cases v with
  | keep => exact absurd rfl hv
  | release message reason => rfl
  | commit orderId => rfl

/-- A settlement posts its operation, and no other. -/
theorem countP_posted (hr : r.verdict ≠ .keep) :
    r.posted.countP (settles id) = if r.op.id = id then 1 else 0 := by
  obtain ⟨op, v⟩ := r
  have hone (target : OperationStatus) (a b : ℤ) :
      [Event.posted op target a b].countP (settles id) = if op.id = id then 1 else 0 := by
    by_cases hid : op.id = id
    · simp [settles, hid]
    · simp [settles, hid]
  cases v with
  | keep => exact absurd rfl hr
  | release message reason => exact hone _ _ _
  | commit orderId => exact hone _ _ _

/-- Where one ruling of a flush posts events of a kind, the flush does as often. -/
theorem countP_flush_of_mem {P : Event → Bool} (hnodup : (ids D).Nodup)
    (haside : ∀ r' ∈ D, r'.op.id ≠ r.op.id → r'.posted.countP P = 0) (hr : r ∈ D) :
    (D.flatMap Ruling.posted).countP P = r.posted.countP P := by
  induction D with
  | nil => cases hr
  | cons first D ih =>
    have hcons : ids (first :: D) = first.op.id :: ids D := rfl
    rw [hcons, List.nodup_cons] at hnodup
    rw [List.flatMap_cons, List.countP_append]
    rcases List.mem_cons.mp hr with rfl | hmem
    · have hrest : (D.flatMap Ruling.posted).countP P = 0 := by
        refine List.countP_eq_zero.mpr fun event hevent => ?_
        obtain ⟨r', hr', hposted⟩ := List.mem_flatMap.mp hevent
        have hne : r'.op.id ≠ r.op.id := fun he => hnodup.1 (he ▸ List.mem_map_of_mem hr')
        exact List.countP_eq_zero.mp (haside r' (List.mem_cons_of_mem _ hr') hne) event hposted
      rw [hrest, add_zero]
    · have hne : first.op.id ≠ r.op.id := by
        intro he
        refine hnodup.1 ?_
        rw [he]
        exact List.mem_map_of_mem hmem
      rw [haside first List.mem_cons_self hne, zero_add]
      exact ih hnodup.2 (fun r' hr' => haside r' (List.mem_cons_of_mem _ hr')) hmem

/-- A list of settlements posts every operation it is about once. -/
theorem countP_flush (hnodup : (ids D).Nodup) (hr : ∀ r ∈ D, r.verdict ≠ .keep) :
    (D.flatMap Ruling.posted).countP (settles id) = if id ∈ ids D then 1 else 0 := by
  by_cases hid : id ∈ ids D
  · obtain ⟨r, hmem, rfl⟩ := List.mem_map.mp hid
    rw [if_pos hid, countP_flush_of_mem hnodup (fun r' hr' hne => ?_) hmem,
      countP_posted (hr r hmem), if_pos rfl]
    rw [countP_posted (hr r' hr'), if_neg hne]
  · rw [if_neg hid]
    refine List.countP_eq_zero.mpr fun event hevent => ?_
    obtain ⟨r, hmem, hposted⟩ := List.mem_flatMap.mp hevent
    have hzero : r.posted.countP (settles id) = 0 := by
      rw [countP_posted (hr r hmem), if_neg]
      exact fun he => hid (he ▸ List.mem_map_of_mem hmem)
    exact List.countP_eq_zero.mp hzero event hposted

/-- An operation without a ruling stays as it is. -/
theorem carried_operations_aside (hid : id ∉ ids D) :
    (carried D s).operations.find? id = s.operations.find? id := by
  induction D generalizing s with
  | nil => rfl
  | cons r D ih =>
    have hcons : ids (r :: D) = r.op.id :: ids D := rfl
    rw [hcons, List.mem_cons, not_or] at hid
    show (carried D (carry r.verdict r.op s).1).operations.find? id = _
    rw [ih hid.2, carry_operations, if_neg hid.1]

/-- An operation with a ruling is settled as it says. -/
theorem carried_operations (hnodup : (ids D).Nodup) (hr : r ∈ D) :
    (carried D s).operations.find? r.op.id =
      (s.operations.find? r.op.id).map r.verdict.settle := by
  induction D generalizing s with
  | nil => cases hr
  | cons r' D ih =>
    have hcons : ids (r' :: D) = r'.op.id :: ids D := rfl
    rw [hcons, List.nodup_cons] at hnodup
    show (carried D (carry r'.verdict r'.op s).1).operations.find? r.op.id = _
    rcases List.mem_cons.mp hr with rfl | hmem
    · rw [carried_operations_aside hnodup.1, carry_operations, if_pos rfl]
    · have hne : r.op.id ≠ r'.op.id := by
        intro he
        refine hnodup.1 ?_
        rw [← he]
        exact List.mem_map_of_mem hmem
      rw [ih hnodup.2 hmem, carry_operations, if_neg hne]

/-- **What is in flight has no ruling**, and is the row the sweeps started with. -/
theorem row_of_carried (hnodup : (ids D).Nodup) (hD : ∀ r ∈ D, Genuine s₀ r)
    {row : FinancialOperation} (hrow : (carried D s₀).operations.find? id = some row)
    (hflight : row.status.inFlight = true) :
    row ∈ s₀.operations.rows ∧ row.id = id ∧ id ∉ ids D := by
  have hnot : id ∉ ids D := by
    intro hm
    obtain ⟨r, hr, hid⟩ := List.mem_map.mp hm
    subst hid
    rw [carried_operations hnodup hr] at hrow
    obtain ⟨op, -, hop⟩ := Option.map_eq_some_iff.mp hrow
    rw [← hop, settle_not_inFlight (hD r hr).decided] at hflight
    cases hflight
  rw [carried_operations_aside hnot] at hrow
  exact ⟨Table.mem_of_find? hrow, Table.key_of_find? hrow, hnot⟩

/-- The part of a ruling that a mandate sees. -/
def releasedOn (mandateId : String) (r : Ruling) : ℤ :=
  if r.op.mandateId = mandateId then r.op.amount else 0

def committedOn (mandateId : String) (r : Ruling) : ℤ :=
  if r.op.mandateId = mandateId ∧ r.verdict.commits = true then r.op.amount else 0

def writesOn (mandateId : String) (r : Ruling) : ℤ :=
  if r.op.mandateId = mandateId then 1 else 0

/-- A mandate whose counters have moved. -/
def moved (m : Mandate) (released committed writes : ℤ) : Mandate :=
  { m with
    reservedSpend := m.reservedSpend - released
    currentAggregateSpend := m.currentAggregateSpend + committed
    version := m.version + writes }

theorem carry_moved {m : Mandate} (hr : r.verdict ≠ .keep) (hm : s.mandates.find? id = some m) :
    (carry r.verdict r.op s).1.mandates.find? id =
      some (moved m (releasedOn id r) (committedOn id r) (writesOn id r)) := by
  obtain ⟨op, v⟩ := r
  have hmove (f : Mandate → Mandate) (hf : ∀ m, Keyed.key (f m) = Keyed.key m) :
      (s.mandates.modify op.mandateId f hf).find? id =
        some (if op.mandateId = id then f m else m) := by
    rw [Table.find?_modify]
    by_cases hid : id = op.mandateId
    · rw [if_pos hid, if_pos hid.symm, ← hid, hm]
      rfl
    · rw [if_neg hid, if_neg (Ne.symm hid), hm]
  cases v with
  | keep => exact absurd rfl hr
  | release message reason =>
    refine (hmove (Mandate.release op.amount) fun _ => key_kept rfl).trans (congrArg some ?_)
    by_cases hid : op.mandateId = id
    · simp [hid, moved, releasedOn, committedOn, writesOn, Mandate.release, Verdict.commits]
    · simp [hid, moved, releasedOn, committedOn, writesOn]
  | commit orderId =>
    refine (hmove (Mandate.commitReserved op.amount) fun _ => key_kept rfl).trans (congrArg some ?_)
    by_cases hid : op.mandateId = id
    · simp [hid, moved, releasedOn, committedOn, writesOn, Mandate.commitReserved, Verdict.commits]
    · simp [hid, moved, releasedOn, committedOn, writesOn]

/-- **The counters move by the sums** over the rulings. -/
theorem carried_mandate {m : Mandate} (hr : ∀ r ∈ D, r.verdict ≠ .keep)
    (hm : s.mandates.find? id = some m) :
    (carried D s).mandates.find? id =
      some (moved m (D.map (releasedOn id)).sum (D.map (committedOn id)).sum
        (D.map (writesOn id)).sum) := by
  induction D generalizing s m with
  | nil =>
    rw [show carried [] s = s from rfl, hm]
    simp [moved]
  | cons r D ih =>
    have hfirst := carry_moved (hr r List.mem_cons_self) hm
    refine (ih (fun r' hr' => hr r' (List.mem_cons_of_mem _ hr')) hfirst).trans (congrArg some ?_)
    simp only [moved, List.map_cons, List.sum_cons, sub_sub, add_assoc]

end Rulings

/-! ### Where a sweep stands -/

section Points

/-- The rulings it has flushed and not yet committed. -/
def flushed : SweepPoint → List Ruling
  | .finish settled => settled
  | _ => []

def hasReturned : SweepPoint → Bool
  | .returned _ => true
  | _ => false

/-- What a sweep has written. -/
def Wrote : SweepPoint → (Store → Store) → Prop
  | .finish settled, f => f = carried settled
  | p, f => f = budgets (ruledOn p)

/-- What a sweep has in hand, while the rulings of others are committed. -/
structure Share (s₀ : Store) (D : List Ruling) (p : SweepPoint) (f : Store → Store) : Prop where
  writes : Wrote p f
  rows : ∀ op ∈ held p, op ∈ s₀.operations.rows ∧ op.status.inFlight = true ∧ op.id ∉ ids D
  orderly : Orderly p

variable {call : SweepCall} {s s₀ : Store} {D : List Ruling} {p : SweepPoint} {f : Store → Store}
  {rows : List Row} {e : Effect Store Event SweepPoint}

theorem SweepTurn.wrote (h : SweepTurn call s p rows e) (hf : Wrote p f) :
    Wrote e.next (e.write ∘ f) := by
  cases h with
  | @settled r todo settled _ =>
    show r.budget ∘ f = budgets (settled ++ [r])
    rw [show f = budgets settled from hf]
    exact funext fun s => (budgets_snoc settled r s).symm
  | @flushed settled =>
    show flushes settled ∘ f = carried settled
    rw [show f = budgets settled from hf]
    exact funext fun s => flushes_budgets settled s
  | _ => exact hf

/-- A sweep has what it goes on with. -/
theorem Share.turn (h : Share s₀ D p f) (hturn : SweepTurn call s p rows e) :
    Share s₀ D e.next (e.write ∘ f) :=
  ⟨SweepTurn.wrote hturn h.writes, fun op hop => h.rows op (hturn.held_subperm.subset hop),
    hturn.orderly h.orderly⟩

/-- A row that has been locked is in flight, so no ruling has been committed about it. -/
theorem Share.grab (h : Share s₀ D p f) (hnodup : (ids D).Nodup) (hD : ∀ r ∈ D, Genuine s₀ r)
    (hgrab : SweepGrab call (carried D s₀) p rows e) : Share s₀ D e.next (e.write ∘ f) := by
  have horderly := hgrab.orderly h.orderly
  cases hgrab with
  | skipped => exact ⟨h.writes, h.rows, horderly⟩
  | @locked _ op row rest locked hrow hstuck _ =>
    have hflight : row.status.inFlight = true := (Bool.and_eq_true_iff.mp hstuck).1
    obtain ⟨hmem, hid, hnot⟩ := row_of_carried hnodup hD hrow hflight
    refine ⟨h.writes, fun op' hop' => ?_, horderly⟩
    rcases List.mem_append.mp hop' with hold | hnew
    · exact h.rows op' hold
    · rw [List.mem_singleton.mp hnew]
      exact ⟨hmem, hflight, hid ▸ hnot⟩

/-- A sweep with nothing in hand. -/
theorem share_empty (hheld : held p = []) (hsought : sought p = []) (hruled : ruledOn p = [])
    (hwrites : Wrote p f) : Share s₀ D p f := by
  refine ⟨hwrites, ?_, ?_, ?_⟩
  · rw [hheld]
    exact fun op hop => absurd hop List.not_mem_nil
  · rw [hheld, hsought]
    exact List.nodup_nil
  · rw [hruled]
    exact fun r hr => absurd hr List.not_mem_nil

/-- The rulings of a sweep are about operations it holds. -/
theorem Share.genuine {settled : List Ruling} (h : Share s₀ D (.finish settled) f) :
    ∀ r ∈ settled, Genuine s₀ r := by
  intro r hr
  obtain ⟨hrow, hflight, -⟩ := h.rows r.op (List.mem_map_of_mem hr)
  exact ⟨hrow, hflight, h.orderly.decided r hr⟩

/-- A statement posts what it flushes. -/
theorem SweepTurn.posted (h : SweepTurn call s p rows e) (hp : Orderly p) (id : String) :
    e.emits.countP (settles id) = if id ∈ ids (flushed e.next) then 1 else 0 := by
  have hnext := h.orderly hp
  cases h with
  | flushed => exact countP_flush hnext.ids_nodup hnext.decided
  | _ => rfl

theorem SweepTurn.going (h : SweepTurn call s p rows e) :
    flushed p = [] ∧ hasReturned p = false := by
  cases h <;> exact ⟨rfl, rfl⟩

theorem SweepGrab.quiet (h : SweepGrab call s p rows e) :
    (flushed p = [] ∧ hasReturned p = false) ∧ e.emits = [] ∧ flushed e.next = [] := by
  cases h <;> exact ⟨⟨rfl, rfl⟩, rfl, rfl⟩

/-- Nothing has been written before the locks. -/
theorem SweepGrab.unwritten (h : SweepGrab call s p rows e) (hf : Wrote p f) : f = id := by
  cases h <;> exact hf

/-- A row that a lock brings in is one it has got. -/
theorem SweepGrab.held_cases (h : SweepGrab call s p rows e) :
    ∀ op ∈ held e.next, op ∈ held p ∨ Row.operation op.id ∈ rows := by
  cases h with
  | skipped => exact fun op hop => .inl hop
  | @locked _ op row rest locked hrow _ hfree =>
    intro op' hop'
    rcases List.mem_append.mp hop' with hold | hnew
    · exact .inl hold
    · have hid : row.id = op.id := Table.key_of_find? hrow
      rw [List.mem_singleton.mp hnew, hid]
      exact .inr hfree

end Points

/-! ### The invariant -/

section Invariant

variable {ι : Type*} {s₀ : Store} {D : List Ruling} {w : World ι Row Store SweepPoint}
  {trace : List (ι × Event)}

/-- **Disjoint shares.**  The committed store is the first one with the rulings of the sweeps that
have returned; the others hold the locks of what they decide on. -/
structure DisjointShares (s₀ : Store) (D : List Ruling) (w : World ι Row Store SweepPoint)
    (trace : List (ι × Event)) : Prop where
  committed : w.committed = carried D s₀
  genuine : ∀ r ∈ D, Genuine s₀ r
  nodup : (ids D).Nodup
  share : ∀ i, Share s₀ D (w.session i).point (w.session i).writes
  locked : ∀ i, ∀ op ∈ held (w.session i).point, w.owner (.operation op.id) = some i
  once : ∀ id, trace.countP (fun l => settles id l.2) ≤ 1
  source : ∀ l ∈ trace, ∀ id, settles id l.2 = true →
    hasReturned (w.session l.1).point = true ∧ id ∈ ids D ∨
      id ∈ ids (flushed (w.session l.1).point)
  announced : ∀ i, ∀ id ∈ ids (flushed (w.session i).point),
    ∃ l ∈ trace, settles id l.2 = true ∧ l.1 = i
  posted : ∀ id ∈ ids D, ∃ l ∈ trace, settles id l.2 = true ∧
    hasReturned (w.session l.1).point = true

end Invariant

section Steps

variable {ι : Type*} [DecidableEq ι] {calls : ι → SweepCall} {s₀ : Store} {D : List Ruling}
  {w w' : World ι Row Store SweepPoint} {trace labels : List (ι × Event)} {i j : ι}

theorem flushed_held {p : SweepPoint} : ∀ id ∈ ids (flushed p), ∃ op ∈ held p, op.id = id := by
  intro id hid
  obtain ⟨r, hr, rfl⟩ := List.mem_map.mp hid
  cases p with
  | finish settled => exact ⟨r.op, List.mem_map_of_mem hr, rfl⟩
  | _ => cases hr

omit [DecidableEq ι] in
/-- What a sweep sees before its first write. -/
theorem DisjointShares.view (h : DisjointShares s₀ D w trace)
    (hwrites : (w.session i).writes = id) : w.view i = carried D s₀ :=
  (view_of_writes hwrites).trans h.committed

/-- **A statement** of a sweep, which goes on with operations it has or gets now, and posts what it
flushes. -/
theorem DisjointShares.advance (h : DisjointShares s₀ D w trace) {rows : List Row}
    {e : Effect Store Event SweepPoint} (hfree : ∀ k ∈ rows, w.Available i k)
    (hshare : Share s₀ D e.next (e.write ∘ (w.session i).writes))
    (hlocked : ∀ op ∈ held e.next, op ∈ held (w.session i).point ∨ Row.operation op.id ∈ rows)
    (hopen : flushed (w.session i).point = []) (hgoing : hasReturned (w.session i).point = false)
    (hposted : ∀ id, e.emits.countP (settles id) = if id ∈ ids (flushed e.next) then 1 else 0) :
    DisjointShares s₀ D (w.advance i rows e) (trace ++ e.emits.map fun e => (i, e)) := by
  have hown : ∀ op ∈ held e.next, (w.advance i rows e).owner (.operation op.id) = some i := by
    intro op hop
    rcases hlocked op hop with hhad | hrow
    · exact advance_owner_kept (h.locked i op hhad) hfree
    · exact if_pos hrow
  -- a label from before is not about an operation that is flushed now
  have hfresh : ∀ l ∈ trace, ∀ id, settles id l.2 = true → l.1 ≠ i ∧ id ∉ ids (flushed e.next) := by
    intro l hl id hs
    rcases h.source l hl id hs with ⟨hreturned, hD⟩ | hflushed
    · refine ⟨fun he => ?_, fun hnow => ?_⟩
      · rw [he, hgoing] at hreturned
        cases hreturned
      · obtain ⟨op, hop, rfl⟩ := flushed_held id hnow
        exact (hshare.rows op hop).2.2 hD
    · have hne : l.1 ≠ i := by
        intro he
        rw [he, hopen] at hflushed
        cases hflushed
      refine ⟨hne, fun hnow => ?_⟩
      obtain ⟨op, hop, hid⟩ := flushed_held id hnow
      obtain ⟨op', hop', hid'⟩ := flushed_held id hflushed
      have howner := advance_owner_kept (e := e) (h.locked l.1 op' hop') hfree
      rw [hid', ← hid, hown op hop] at howner
      exact hne (Option.some.inj howner).symm
  refine ⟨h.committed, h.genuine, h.nodup, fun j => ?_, fun j => ?_, fun id => ?_, ?_, fun j => ?_,
    ?_⟩
  · by_cases hj : j = i
    · rw [hj, advance_session_self]
      exact hshare
    · rw [advance_session_of_ne hj]
      exact h.share j
  · by_cases hj : j = i
    · rw [hj, advance_session_self]
      exact hown
    · rw [advance_session_of_ne hj]
      exact fun op hop => advance_owner_kept (h.locked j op hop) hfree
  · rw [List.countP_append, List.countP_map]
    have hnow : e.emits.countP ((fun l : ι × Event => settles id l.2) ∘ fun e => (i, e)) =
        if id ∈ ids (flushed e.next) then 1 else 0 := hposted id
    rw [hnow]
    by_cases hid : id ∈ ids (flushed e.next)
    · have hbefore : trace.countP (fun l => settles id l.2) = 0 :=
        List.countP_eq_zero.mpr fun l hl hs => (hfresh l hl id hs).2 hid
      rw [hbefore, if_pos hid]
    · rw [if_neg hid]
      exact h.once id
  · intro l hl id hs
    rcases List.mem_append.mp hl with hold | hnew
    · rw [advance_session_of_ne (hfresh l hold id hs).1]
      exact h.source l hold id hs
    · obtain ⟨event, hevent, rfl⟩ := List.mem_map.mp hnew
      right
      rw [advance_session_self]
      by_contra hnot
      have hzero := hposted id
      rw [if_neg hnot] at hzero
      exact List.countP_eq_zero.mp hzero event hevent hs
  · intro id hid
    by_cases hj : j = i
    · rw [hj, advance_session_self] at hid
      have hpos : 0 < e.emits.countP (settles id) := by
        rw [hposted id, if_pos hid]
        omega
      obtain ⟨event, hevent, hs⟩ := List.countP_pos_iff.mp hpos
      exact ⟨(i, event), List.mem_append_right _ (List.mem_map_of_mem hevent), hs, hj.symm⟩
    · rw [advance_session_of_ne hj] at hid
      obtain ⟨l, hl, hs, hown⟩ := h.announced j id hid
      exact ⟨l, List.mem_append_left _ hl, hs, hown⟩
  · intro id hid
    obtain ⟨l, hl, hs, hreturned⟩ := h.posted id hid
    refine ⟨l, List.mem_append_left _ hl, hs, ?_⟩
    rw [advance_session_of_ne (hfresh l hl id hs).1]
    exact hreturned

/-- **A commit** of what has been flushed. -/
theorem DisjointShares.publish (h : DisjointShares s₀ D w trace) {settled : List Ruling}
    (hpoint : (w.session i).point = .finish settled) (count : ℕ) :
    DisjointShares s₀ (D ++ settled) (w.publish i (.returned count)) trace := by
  have hshare := h.share i
  have hlocked := h.locked i
  rw [hpoint] at hshare hlocked
  have hwrites : (w.session i).writes = carried settled := hshare.writes
  have hids : ids (D ++ settled) = ids D ++ ids settled := List.map_append
  refine ⟨?_, ?_, ?_, fun j => ?_, fun j => ?_, h.once, ?_, fun j => ?_, ?_⟩
  · show w.view i = _
    rw [World.view, hwrites, h.committed]
    unfold carried
    rw [List.foldl_append]
  · intro r hr
    rcases List.mem_append.mp hr with hold | hnew
    · exact h.genuine r hold
    · exact hshare.genuine r hnew
  · have hnodup := hshare.orderly.ids_nodup
    rw [hids, List.nodup_append]
    refine ⟨h.nodup, hnodup, fun id hD id' hsettled he => ?_⟩
    subst he
    obtain ⟨r, hr, rfl⟩ := List.mem_map.mp hsettled
    exact (hshare.rows r.op (List.mem_map_of_mem hr)).2.2 hD
  · by_cases hj : j = i
    · rw [hj, publish_session_self]
      exact share_empty rfl rfl rfl rfl
    · rw [publish_session_of_ne hj]
      have hother := h.share j
      refine ⟨hother.writes, fun op hop => ?_, hother.orderly⟩
      obtain ⟨hrow, hflight, hnot⟩ := hother.rows op hop
      refine ⟨hrow, hflight, fun hm => ?_⟩
      rw [hids] at hm
      rcases List.mem_append.mp hm with hD | hsettled
      · exact hnot hD
      · -- both would hold the row
        obtain ⟨r, hr, hid⟩ := List.mem_map.mp hsettled
        have hmine := hlocked r.op (List.mem_map_of_mem hr)
        have hid' : r.op.id = op.id := hid
        rw [hid', h.locked j op hop] at hmine
        exact hj (Option.some.inj hmine)
  · by_cases hj : j = i
    · rw [hj, publish_session_self]
      exact fun op hop => absurd hop List.not_mem_nil
    · rw [publish_session_of_ne hj]
      exact fun op hop => release_of_ne (h.locked j op hop) hj
  · intro l hl id hs
    by_cases hj : l.1 = i
    · rw [hj, publish_session_self]
      refine .inl ⟨rfl, ?_⟩
      rw [hids, List.mem_append]
      rcases h.source l hl id hs with ⟨-, hD⟩ | hflushed
      · exact .inl hD
      · rw [hj, hpoint] at hflushed
        exact .inr hflushed
    · rw [publish_session_of_ne hj]
      rcases h.source l hl id hs with ⟨hreturned, hD⟩ | hflushed
      · refine .inl ⟨hreturned, ?_⟩
        rw [hids]
        exact List.mem_append_left _ hD
      · exact .inr hflushed
  · by_cases hj : j = i
    · rw [hj, publish_session_self]
      exact fun id hid => absurd hid List.not_mem_nil
    · rw [publish_session_of_ne hj]
      exact h.announced j
  · intro id hid
    rw [hids] at hid
    rcases List.mem_append.mp hid with hD | hsettled
    · obtain ⟨l, hl, hs, hreturned⟩ := h.posted id hD
      refine ⟨l, hl, hs, ?_⟩
      have hj : l.1 ≠ i := by
        intro he
        rw [he, hpoint] at hreturned
        cases hreturned
      rw [publish_session_of_ne hj]
      exact hreturned
    · have hflushed : id ∈ ids (flushed (w.session i).point) := by
        rw [hpoint]
        exact hsettled
      obtain ⟨l, hl, hs, hown⟩ := h.announced i id hflushed
      refine ⟨l, hl, hs, ?_⟩
      rw [hown, publish_session_self]
      rfl

/-- **A rollback** of a sweep that has flushed nothing. -/
theorem DisjointShares.discard (h : DisjointShares s₀ D w trace) {settled : List Ruling}
    {refusal : Refusal} (hpoint : (w.session i).point = .raised settled refusal) :
    DisjointShares s₀ D (w.discard i (.refused refusal)) trace := by
  -- nothing was said of the session, and nothing is
  have hnone : hasReturned (w.session i).point = false ∧ flushed (w.session i).point = [] := by
    rw [hpoint]
    exact ⟨rfl, rfl⟩
  have hkept : ∀ j, hasReturned ((w.discard i (.refused refusal)).session j).point =
      hasReturned (w.session j).point ∧ flushed ((w.discard i (.refused refusal)).session j).point =
        flushed (w.session j).point := by
    intro j
    by_cases hj : j = i
    · rw [hj, discard_session_self, hnone.1, hnone.2]
      exact ⟨rfl, rfl⟩
    · rw [discard_session_of_ne hj]
      exact ⟨rfl, rfl⟩
  refine ⟨h.committed, h.genuine, h.nodup, fun j => ?_, fun j => ?_, h.once, ?_, fun j => ?_, ?_⟩
  · by_cases hj : j = i
    · rw [hj, discard_session_self]
      exact share_empty rfl rfl rfl rfl
    · rw [discard_session_of_ne hj]
      exact h.share j
  · by_cases hj : j = i
    · rw [hj, discard_session_self]
      exact fun op hop => absurd hop List.not_mem_nil
    · rw [discard_session_of_ne hj]
      exact fun op hop => release_of_ne (h.locked j op hop) hj
  · intro l hl id hs
    rw [(hkept l.1).1, (hkept l.1).2]
    exact h.source l hl id hs
  · rw [(hkept j).2]
    exact h.announced j
  · intro id hid
    obtain ⟨l, hl, hs, hreturned⟩ := h.posted id hid
    exact ⟨l, hl, hs, (hkept l.1).1.trans hreturned⟩

/-- **One turn** of one of the sweeps. -/
theorem disjoint_step (h : DisjointShares s₀ D w trace)
    (hf : Fired (fun i => sweepCode (calls i)) w i labels w') :
    ∃ D', DisjointShares s₀ D' w' (trace ++ labels) := by
  have hshare := h.share i
  cases hf with
  | waited =>
    rw [List.append_nil]
    exact ⟨D, h⟩
  | ran hcode hfree =>
    have hturn := @sweep_ran _ (w.view i) _ _ _ hcode
    refine ⟨D, h.advance hfree (hshare.turn hturn) (fun op hop => ?_) (SweepTurn.going hturn).1
      (SweepTurn.going hturn).2 (SweepTurn.posted hturn hshare.orderly)⟩
    exact .inl (hturn.held_subperm.subset hop)
  | @grabbed rows run free hcode hfree =>
    have hfree' : ∀ k ∈ free, k ∈ rows (w.view i) ∧ w.Available i k := by
      intro k hk
      rw [hfree] at hk
      obtain ⟨hrow, havailable⟩ := List.mem_filter.mp hk
      exact ⟨hrow, of_decide_eq_true havailable⟩
    have hgrab := sweep_grabbed hcode fun k hk => (hfree' k hk).1
    obtain ⟨hgoing, hemits, hnext⟩ := SweepGrab.quiet hgrab
    have hview : w.view i = carried D s₀ := h.view (SweepGrab.unwritten hgrab hshare.writes)
    rw [hview] at hgrab
    refine ⟨D, h.advance (fun k hk => (hfree' k hk).2) ?_ ?_ hgoing.1 hgoing.2 fun id => ?_⟩
    · rw [hview]
      exact hshare.grab h.nodup h.genuine hgrab
    · rw [hview]
      exact SweepGrab.held_cases hgrab
    · rw [hemits, hnext]
      rfl
  | committed hcode =>
    rw [List.append_nil]
    obtain ⟨settled, hpoint, rfl⟩ := sweepCode_commit hcode
    exact ⟨D ++ settled, h.publish hpoint _⟩
  | rolledBack hcode =>
    rw [List.append_nil]
    obtain ⟨settled, refusal, hpoint, rfl⟩ := sweepCode_rollback hcode
    exact ⟨D, h.discard hpoint⟩

end Steps

/-! ### The totals -/

section Totals

variable {s₀ : Store} {D : List Ruling}

/-- The operation is not in flight any more. -/
def isSettled (s : Store) (id : String) : Bool :=
  (s.operations.find? id).any fun op => !op.status.inFlight

def hasSucceeded (s : Store) (id : String) : Bool :=
  (s.operations.find? id).any fun op => op.status = .succeeded

/-- The operations of a mandate that were in flight and have been settled. -/
def settledOn (s₀ s : Store) (mandateId : String) : List FinancialOperation :=
  s₀.operations.rows.filter fun op =>
    op.mandateId = mandateId && op.status.inFlight && isSettled s op.id

/-- Those of them that have succeeded. -/
def succeededOn (s₀ s : Store) (mandateId : String) : List FinancialOperation :=
  (settledOn s₀ s mandateId).filter fun op => hasSucceeded s op.id

theorem isSettled_carried (hnodup : (ids D).Nodup) (hD : ∀ r ∈ D, Genuine s₀ r)
    {op : FinancialOperation} (hop : op ∈ s₀.operations.rows) (hflight : op.status.inFlight = true) :
    isSettled (carried D s₀) op.id = true ↔ op.id ∈ ids D := by
  have hfind : s₀.operations.find? op.id = some op := Table.find?_of_mem hop
  unfold isSettled
  by_cases hid : op.id ∈ ids D
  · obtain ⟨r, hr, he⟩ := List.mem_map.mp hid
    have he' : r.op.id = op.id := he
    have hrow := carried_operations (s := s₀) hnodup hr
    rw [he', hfind] at hrow
    rw [hrow]
    show (!(r.verdict.settle op).status.inFlight) = true ↔ _
    rw [settle_not_inFlight (hD r hr).decided]
    exact iff_of_true rfl hid
  · rw [carried_operations_aside hid, hfind]
    show (!op.status.inFlight) = true ↔ _
    rw [hflight]
    exact iff_of_false nofun hid

theorem hasSucceeded_carried (hnodup : (ids D).Nodup) (hD : ∀ r ∈ D, Genuine s₀ r) {r : Ruling}
    (hr : r ∈ D) : hasSucceeded (carried D s₀) r.op.id = r.verdict.commits := by
  have hfind : s₀.operations.find? r.op.id = some r.op := Table.find?_of_mem (hD r hr).row
  have hdecided := (hD r hr).decided
  unfold hasSucceeded
  rw [carried_operations hnodup hr, hfind]
  obtain ⟨op, v⟩ := r
  cases v with
  | keep => exact absurd rfl hdecided
  | release message reason => rfl
  | commit orderId => rfl

theorem sum_filter {α : Type*} (q : α → Bool) (f : α → ℤ) (l : List α) :
    (l.map fun x => if q x = true then f x else 0).sum = ((l.filter q).map f).sum := by
  induction l with
  | nil => rfl
  | cons x l ih =>
    rw [List.map_cons, List.sum_cons, ih]
    by_cases hx : q x = true
    · rw [if_pos hx, List.filter_cons_of_pos hx, List.map_cons, List.sum_cons]
    · rw [if_neg hx, List.filter_cons_of_neg hx, zero_add]

/-- A sum over rulings is a sum over the operations they are about. -/
theorem sum_rulings (hnodup : (ids D).Nodup) (hD : ∀ r ∈ D, Genuine s₀ r)
    {q : FinancialOperation → Bool}
    (hq : ∀ op ∈ s₀.operations.rows, q op = true → op.id ∈ ids D) (f : FinancialOperation → ℤ) :
    (D.map fun r => if q r.op = true then f r.op else 0).sum =
      ((s₀.operations.rows.filter q).map f).sum := by
  have hops : (D.map Ruling.op).Nodup := by
    refine List.Nodup.of_map FinancialOperation.id ?_
    rw [List.map_map]
    exact hnodup
  have hrows : s₀.operations.rows.Nodup := List.Nodup.of_map _ s₀.operations.nodup
  have hperm : ((D.map Ruling.op).filter q).Perm (s₀.operations.rows.filter q) := by
    refine (List.perm_ext_iff_of_nodup (hops.filter q) (hrows.filter q)).mpr fun op => ?_
    rw [List.mem_filter, List.mem_filter]
    constructor
    · rintro ⟨hop, hqop⟩
      obtain ⟨r, hr, rfl⟩ := List.mem_map.mp hop
      exact ⟨(hD r hr).row, hqop⟩
    · rintro ⟨hop, hqop⟩
      obtain ⟨r, hr, hid⟩ := List.mem_map.mp (hq op hop hqop)
      have hsame : r.op = op := Table.eq_of_key_eq (hD r hr).row hop hid
      exact ⟨List.mem_map.mpr ⟨r, hr, hsame⟩, hqop⟩
  rw [← (hperm.map f).sum_eq, ← sum_filter, List.map_map]
  rfl

/-- **The counters of a mandate** have moved by what has been settled on it. -/
theorem moved_settledOn (hnodup : (ids D).Nodup) (hD : ∀ r ∈ D, Genuine s₀ r) {m : Mandate}
    (hm : m ∈ s₀.mandates.rows) :
    (carried D s₀).mandates.find? m.id = some (moved m
      ((settledOn s₀ (carried D s₀) m.id).map FinancialOperation.amount).sum
      ((succeededOn s₀ (carried D s₀) m.id).map FinancialOperation.amount).sum
      (settledOn s₀ (carried D s₀) m.id).length) := by
  have hfind : s₀.mandates.find? m.id = some m := Table.find?_of_mem hm
  rw [carried_mandate (fun r hr => (hD r hr).decided) hfind]
  have hsettled : ∀ r ∈ D, isSettled (carried D s₀) r.op.id = true := fun r hr =>
    (isSettled_carried hnodup hD (hD r hr).row (hD r hr).inFlight).mpr (List.mem_map_of_mem hr)
  -- a ruling counts where its operation does
  have hcounts : ∀ r ∈ D, (decide (r.op.mandateId = m.id) && r.op.status.inFlight &&
      isSettled (carried D s₀) r.op.id) = decide (r.op.mandateId = m.id) := by
    intro r hr
    rw [(hD r hr).inFlight, hsettled r hr, Bool.and_true, Bool.and_true]
  have hids : ∀ op ∈ s₀.operations.rows, (decide (op.mandateId = m.id) && op.status.inFlight &&
      isSettled (carried D s₀) op.id) = true → op.id ∈ ids D := by
    intro op hop hq
    obtain ⟨hleft, hset⟩ := Bool.and_eq_true_iff.mp hq
    exact (isSettled_carried hnodup hD hop (Bool.and_eq_true_iff.mp hleft).2).mp hset
  have htotal (f : FinancialOperation → ℤ) :
      (D.map fun r => if r.op.mandateId = m.id then f r.op else 0).sum =
        ((settledOn s₀ (carried D s₀) m.id).map f).sum := by
    rw [settledOn, ← sum_rulings hnodup hD hids f]
    refine congrArg List.sum (List.map_congr_left fun r hr => ?_)
    rw [hcounts r hr]
    by_cases hid : r.op.mandateId = m.id <;> simp [hid]
  have hreleased : (D.map (releasedOn m.id)).sum =
      ((settledOn s₀ (carried D s₀) m.id).map FinancialOperation.amount).sum :=
    htotal FinancialOperation.amount
  have hwrites : (D.map (writesOn m.id)).sum = (settledOn s₀ (carried D s₀) m.id).length := by
    refine (htotal fun _ => 1).trans ?_
    rw [List.map_const', List.sum_replicate, nsmul_one]
  have hcommitted : (D.map (committedOn m.id)).sum =
      ((succeededOn s₀ (carried D s₀) m.id).map FinancialOperation.amount).sum := by
    rw [succeededOn, settledOn, List.filter_filter,
      ← sum_rulings hnodup hD (fun op hop hq => hids op hop (Bool.and_eq_true_iff.mp hq).2)]
    refine congrArg List.sum (List.map_congr_left fun r hr => ?_)
    rw [hcounts r hr, hasSucceeded_carried hnodup hD hr]
    unfold committedOn
    by_cases hid : r.op.mandateId = m.id <;> simp [hid]
  rw [hreleased, hwrites, hcommitted]

end Totals

/-! ### Every interleaving -/

section Runs

variable {ι : Type*} [DecidableEq ι]

omit [DecidableEq ι] in
theorem disjoint_opening (s₀ : Store) :
    DisjointShares s₀ [] (opening s₀ fun _ : ι => SweepPoint.select) [] where
  committed := rfl
  genuine _ hr := absurd hr List.not_mem_nil
  nodup := List.nodup_nil
  share _ := share_empty rfl rfl rfl rfl
  locked _ _ hop := absurd hop List.not_mem_nil
  once _ := Nat.zero_le 1
  source _ hl := absurd hl List.not_mem_nil
  announced _ _ hid := absurd hid List.not_mem_nil
  posted _ hid := absurd hid List.not_mem_nil

theorem disjoint_run (calls : ι → SweepCall) (s₀ : Store) (schedule : List ι) :
    ∃ D, DisjointShares s₀ D
      ((interleaved fun i => sweepCode (calls i)).run (opening s₀ fun _ => .select) schedule)
      ((interleaved fun i => sweepCode (calls i)).trace (opening s₀ fun _ => .select) schedule) := by
  have hstep : ∀ trace w i, (∃ D, DisjointShares s₀ D w trace) → True →
      ∃ D, DisjointShares s₀ D ((interleaved fun i => sweepCode (calls i)).next w i)
        (trace ++ (interleaved fun i => sweepCode (calls i)).log w i) := by
    rintro trace w i ⟨D, h⟩ -
    exact disjoint_step h (fire_fired _ w i)
  have hopening : ∃ D, DisjointShares s₀ D (opening s₀ fun _ : ι => SweepPoint.select) [] :=
    ⟨[], disjoint_opening s₀⟩
  exact @Machine.inv_run_trace _ _ _ _ (fun _ _ => True)
    (fun trace w => ∃ D, DisjointShares s₀ D w trace) hstep _ _ schedule hopening
    (Machine.along_of_forall fun _ _ _ => trivial)

/-- **Sweeps settle once.**  However many sweeps interleave, and however they do: every operation
is posted by at most one of them, and once; an operation that was in flight is settled exactly when
a sweep that has returned has posted it; and the counters of every mandate have moved by the
amounts of the operations that have been settled on it. -/
theorem sweeps_settle_once (calls : ι → SweepCall) (s₀ : Store) (schedule : List ι) :
    let machine := interleaved fun i => sweepCode (calls i)
    let w := machine.run (opening s₀ fun _ => .select) schedule
    let trace := machine.trace (opening s₀ fun _ => .select) schedule
    (∀ id, trace.countP (fun l => settles id l.2) ≤ 1) ∧
      (∀ op ∈ s₀.operations.rows, op.status.inFlight = true →
        (isSettled w.committed op.id = true ↔
          ∃ l ∈ trace, settles op.id l.2 = true ∧ hasReturned (w.session l.1).point = true)) ∧
      ∀ m ∈ s₀.mandates.rows, w.committed.mandates.find? m.id = some (moved m
        ((settledOn s₀ w.committed m.id).map FinancialOperation.amount).sum
        ((succeededOn s₀ w.committed m.id).map FinancialOperation.amount).sum
        (settledOn s₀ w.committed m.id).length) := by
  intro machine w trace
  obtain ⟨D, h⟩ : ∃ D, DisjointShares s₀ D w trace := disjoint_run calls s₀ schedule
  refine ⟨h.once, fun op hop hflight => ?_, fun m hm => ?_⟩
  · rw [h.committed, isSettled_carried h.nodup h.genuine hop hflight]
    constructor
    · exact h.posted op.id
    · rintro ⟨l, hl, hs, hreturned⟩
      rcases h.source l hl op.id hs with ⟨-, hid⟩ | hflushed
      · exact hid
      · -- a sweep that has returned has nothing left to commit
        cases hpoint : (w.session l.1).point with
        | finish settled =>
          rw [hpoint] at hreturned
          cases hreturned
        | _ =>
          rw [hpoint] at hflushed
          cases hflushed
  · rw [h.committed]
    exact moved_settledOn h.nodup h.genuine hm

end Runs

end MandatePlane.ConcurrentSweeps
