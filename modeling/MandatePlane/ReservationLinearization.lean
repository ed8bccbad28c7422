import MandatePlane.OperationSessions

/-!
# The conditional reservation is linearizable

Any number of clients reserve on one mandate, and release or commit what was reserved
before, in transactions of their own and in any interleaving of their statements.  A
client is a program that decides its next statement from the answers so far.

Beside the store stands a log of the moves, written by the statements that move the
counters.  The sequential object is a mandate that makes the moves of a log one after
the other, each where it is allowed: a reservation within the limit, a settlement of
something held.  The invariant is that the committed row, and the row every session
sees, is the sequential mandate after its log.  It is carried by the row lock: a session
whose writes move the mandate owns the row until it commits.
-/

namespace MandatePlane.ReservationLinearization

open DomainModel KeyedTable LabelledRun OperationRoutes OperationSessions ReadCommitted

/-! ### The sequential mandate -/

/-- The updates that take a reserved amount out of the reservation. -/
inductive Settlement where
  | release
  | commitReserved
  | commitDispatched

def Settlement.apply : Settlement → ℤ → Mandate → Mandate
  | .release => Mandate.release
  | .commitReserved => Mandate.commitReserved
  | .commitDispatched => Mandate.commitDispatched

theorem Settlement.apply_id (kind : Settlement) (amount : ℤ) (m : Mandate) :
    (kind.apply amount m).id = m.id := by
  cases kind <;> rfl

/-- A change of the counters under the name of a reservation. -/
inductive Move (ρ : Type*) where
  | reserve (r : ρ) (amount : ℤ)
  | settle (kind : Settlement) (r : ρ) (amount : ℤ)

variable {ρ : Type*}

def Move.apply : Move ρ → Mandate → Mandate
  | .reserve _ amount => Mandate.reserve amount
  | .settle kind _ amount => kind.apply amount

theorem Move.apply_key (move : Move ρ) (m : Mandate) : Keyed.key (move.apply m) = Keyed.key m := by
  cases move with
  | reserve r amount => rfl
  | settle kind r amount => exact key_kept (kind.apply_id amount m)

def replay (log : List (Move ρ)) (m : Mandate) : Mandate := log.foldl (fun m move => move.apply m) m

/-- The limit that bounds a mandate's spend. -/
def Within (m : Mandate) : Prop :=
  m.currentAggregateSpend + m.reservedSpend ≤ m.aggregateSpendLimit

section Sequential

variable [DecidableEq ρ]

/-- What is held after a move. -/
def Move.hold (held : List (ρ × ℤ)) : Move ρ → List (ρ × ℤ)
  | .reserve r amount => held ++ [(r, amount)]
  | .settle _ r amount => held.erase (r, amount)

def heldAfter (log : List (Move ρ)) : List (ρ × ℤ) := log.foldl Move.hold []

/-- When a move may be made: a positive amount that the limit permits, or something held. -/
def Move.Allowed (m : Mandate) (held : List (ρ × ℤ)) : Move ρ → Prop
  | .reserve _ amount => 0 < amount ∧
      m.currentAggregateSpend + m.reservedSpend + amount ≤ m.aggregateSpendLimit
  | .settle _ r amount => (r, amount) ∈ held

/-- A log of which every move may be made where it stands. -/
inductive Legal (m : Mandate) : List (Move ρ) → Prop
  | nil : Legal m []
  | snoc {log : List (Move ρ)} {move : Move ρ} (h : Legal m log)
      (hallowed : move.Allowed (replay log m) (heldAfter log)) : Legal m (log ++ [move])

omit [DecidableEq ρ] in
theorem replay_append (log moves : List (Move ρ)) (m : Mandate) :
    replay (log ++ moves) m = replay moves (replay log m) :=
  List.foldl_append

theorem heldAfter_snoc (log : List (Move ρ)) (move : Move ρ) :
    heldAfter (log ++ [move]) = move.hold (heldAfter log) := by
  unfold heldAfter
  rw [List.foldl_append]
  rfl

variable {m : Mandate} {log : List (Move ρ)}

/-- What is held was reserved, and is positive. -/
theorem held_pos (h : Legal m log) : ∀ x ∈ heldAfter log, 0 < x.2 := by
  induction h with
  | nil => exact fun x hx => absurd hx List.not_mem_nil
  | @snoc log move _ hallowed ih =>
    rw [heldAfter_snoc]
    intro x hx
    cases move with
    | reserve r amount =>
      rcases List.mem_append.mp hx with hx | hx
      · exact ih x hx
      · rw [List.mem_singleton.mp hx]
        exact hallowed.1
    | settle kind r amount => exact ih x (List.mem_of_mem_erase hx)

/-- **A sequential mandate stays within its limit.** -/
theorem within_of_legal (h : Legal m log) (hm : Within m) : Within (replay log m) := by
  induction h with
  | nil => exact hm
  | @snoc log move hlegal hallowed ih =>
    rw [replay_append]
    cases move with
    | reserve r amount =>
      obtain ⟨_, hlimit⟩ := hallowed
      generalize replay log m = row at hlimit ⊢
      show row.currentAggregateSpend + (row.reservedSpend + amount) ≤ row.aggregateSpendLimit
      omega
    | settle kind r amount =>
      have hpos : 0 < amount := held_pos hlegal (r, amount) hallowed
      generalize replay log m = row at ih ⊢
      unfold Within at ih
      cases kind with
      | release =>
        show row.currentAggregateSpend + (row.reservedSpend - amount) ≤ row.aggregateSpendLimit
        omega
      | commitReserved =>
        show row.currentAggregateSpend + amount + (row.reservedSpend - amount) ≤
          row.aggregateSpendLimit
        omega
      | commitDispatched =>
        show row.currentAggregateSpend + amount + (row.reservedSpend - amount) ≤
          row.aggregateSpendLimit
        omega

end Sequential

/-! ### The clients -/

/-- The store, and the log of the mandate's moves. -/
structure Bank (ρ : Type*) where
  store : Store
  log : List (Move ρ)

/-- The next statement of a client over points `π`.  It may read, and write elsewhere, in the
same transaction. -/
inductive Command (ρ π : Type*) where
  | reserve (r : ρ) (amount : ℤ) (positive : 0 < amount) (next : Bool → π)
  | settle (kind : Settlement) (r : ρ) (next : Bool → π)
  | elsewhere (write : Store → Store) (kept : ∀ s, (write s).mandates = s.mandates)
      (next : Store → π)
  | commit (next : π)
  | rollback (next : π)
  | stop

section Clients

variable {π : Type*} [DecidableEq ρ] (mandateId : String)

/-- A move of the mandate, with its entry in the log. -/
def enter (move : Move ρ) (b : Bank ρ) : Bank ρ :=
  ⟨b.store.updateMandate mandateId move.apply move.apply_key, b.log ++ [move]⟩

/-- The reservation of that name that a session sees held. -/
def heldAs (r : ρ) (b : Bank ρ) : Option (ρ × ℤ) := (heldAfter b.log).find? fun x => x.1 = r

/-- The statement of a command. -/
def statement : Command ρ π → Stmt (Bank ρ) Unit Empty π
  -- `reserve_budget`: the UPDATE waits for its row if the version it sees matches
  | .reserve r amount _ next =>
    .exec (fun b => if permits b.store.mandates mandateId amount then [()] else []) fun b =>
      match reserveBudget b.store mandateId amount with
      | none => ⟨id, [], next false⟩
      | some _ => ⟨enter mandateId (.reserve r amount), [], next true⟩
  | .settle kind r next => .exec (fun _ => [()]) fun b =>
    match heldAs r b with
    | none => ⟨id, [], next false⟩
    | some x => ⟨enter mandateId (.settle kind x.1 x.2), [], next true⟩
  | .elsewhere write _ next => .exec (fun _ => []) fun b =>
    ⟨fun b => { b with store := write b.store }, [], next b.store⟩
  | .commit next => .commit next
  | .rollback next => .rollback next
  | .stop => .stop

/-! ### The books of the mandate -/

/-- The mandate's row and its log. -/
def Bank.books (b : Bank ρ) : Option Mandate × List (Move ρ) := (b.store.mandates.find? mandateId, b.log)

end Clients

/-- Books after more moves. -/
def entered (moves : List (Move ρ)) (x : Option Mandate × List (Move ρ)) :
    Option Mandate × List (Move ρ) :=
  (x.1.map (replay moves), x.2 ++ moves)

theorem entered_nil (x : Option Mandate × List (Move ρ)) : entered [] x = x := by
  obtain ⟨row, log⟩ := x
  show (row.map (fun m => m), log ++ []) = (row, log)
  rw [Option.map_id', List.append_nil]

theorem entered_append (moves moves' : List (Move ρ)) (x : Option Mandate × List (Move ρ)) :
    entered (moves ++ moves') x = entered moves' (entered moves x) := by
  obtain ⟨row, log⟩ := x
  show (row.map (replay (moves ++ moves')), log ++ (moves ++ moves')) =
    ((row.map (replay moves)).map (replay moves'), log ++ moves ++ moves')
  rw [Option.map_map, List.append_assoc]
  exact congrArg (fun f => (Option.map f row, _)) (funext fun m => replay_append moves moves' m)

/-- **Serial books**: the row is the sequential mandate after its log. -/
structure Serial [DecidableEq ρ] (m₀ : Mandate) (x : Option Mandate × List (Move ρ)) : Prop where
  row : x.1 = some (replay x.2 m₀)
  legal : Legal m₀ x.2

section Entries

variable [DecidableEq ρ] {mandateId : String} {m₀ : Mandate}

omit [DecidableEq ρ] in
theorem books_enter (move : Move ρ) (b : Bank ρ) :
    (enter mandateId move b).books mandateId = entered [move] (b.books mandateId) :=
  congrArg (fun row => (row, b.log ++ [move]))
    (Table.find?_modify_self _ mandateId move.apply move.apply_key)

theorem Serial.enter {move : Move ρ} {x : Option Mandate × List (Move ρ)} (h : Serial m₀ x)
    (hallowed : move.Allowed (replay x.2 m₀) (heldAfter x.2)) : Serial m₀ (entered [move] x) := by
  refine ⟨?_, .snoc h.legal hallowed⟩
  show x.1.map (replay [move]) = some (replay (x.2 ++ [move]) m₀)
  rw [h.row, replay_append]
  rfl

omit [DecidableEq ρ] in
theorem permits_iff {b : Bank ρ} {amount : ℤ} {m : Mandate}
    (hrow : b.store.mandates.find? mandateId = some m) :
    permits b.store.mandates mandateId amount = true ↔
      m.currentAggregateSpend + m.reservedSpend + amount ≤ m.aggregateSpendLimit := by
  unfold permits
  rw [hrow]
  exact decide_eq_true_iff

/-- **What a statement enters**: at most one move, allowed where it is made, under the row lock. -/
theorem statement_enters {π : Type*} {command : Command ρ π} {rows : Bank ρ → List Unit}
    {run : Bank ρ → Effect (Bank ρ) Empty π} {b : Bank ρ}
    (hcode : statement mandateId command = .exec rows run) (h : Serial m₀ (b.books mandateId)) :
    ∃ moves, (∀ b', ((run b).write b').books mandateId = entered moves (b'.books mandateId)) ∧
      (moves ≠ [] → () ∈ rows b) ∧ Serial m₀ (entered moves (b.books mandateId)) := by
  -- a statement that leaves the books alone
  have hnone (rows : List Unit) (e : Effect (Bank ρ) Empty π)
      (he : ∀ b', (e.write b').books mandateId = b'.books mandateId) : ∃ moves,
        (∀ b', (e.write b').books mandateId = entered moves (b'.books mandateId)) ∧
        (moves ≠ [] → () ∈ rows) ∧ Serial m₀ (entered moves (b.books mandateId)) := by
    refine ⟨[], fun b' => ?_, fun hne => absurd rfl hne, ?_⟩
    · rw [entered_nil]
      exact he b'
    · rw [entered_nil]
      exact h
  cases command with
  | reserve r amount positive next =>
    cases hcode
    have hreserve := reserveBudget_permits b.store mandateId amount
    cases hpermits : permits b.store.mandates mandateId amount with
    | false =>
      rw [hpermits, if_neg Bool.false_ne_true] at hreserve
      dsimp only
      rw [hreserve, hpermits]
      exact hnone _ ⟨id, [], next false⟩ fun _ => rfl
    | true =>
      rw [hpermits, if_pos rfl] at hreserve
      dsimp only
      rw [hreserve, hpermits]
      refine ⟨[.reserve r amount], fun b' => books_enter _ b', fun _ => ?_, h.enter ⟨positive, ?_⟩⟩
      · exact List.mem_singleton_self ()
      · exact (permits_iff h.row).mp hpermits
  | settle kind r next =>
    cases hcode
    dsimp only
    cases hheld : heldAs r b with
    | none => exact hnone _ ⟨id, [], next false⟩ fun _ => rfl
    | some x =>
      exact ⟨[.settle kind x.1 x.2], fun b' => books_enter _ b', fun _ => List.mem_singleton_self (),
        h.enter (List.mem_of_find?_eq_some hheld)⟩
  | elsewhere write kept next =>
    cases hcode
    exact hnone _ ⟨fun b' => { b' with store := write b'.store }, [], next b.store⟩ fun b' =>
      congrArg (fun t => (Table.find? t mandateId, b'.log)) (kept b'.store)
  | commit next => cases hcode
  | rollback next => cases hcode
  | stop => cases hcode

end Entries

/-! ### Any interleaving -/

section Interleaving

variable {ι π : Type*} [DecidableEq ι] [DecidableEq ρ] {mandateId : String} {m₀ : Mandate}
  {program : ι → π → Command ρ π}

/-- The clients' sessions. -/
def clients (mandateId : String) (program : ι → π → Command ρ π) :
    Machine (World ι Unit (Bank ρ) π) ι (ι × Empty) :=
  interleaved fun i p => statement mandateId (program i p)

/-- **The lock discipline**: a session has entered its moves on top of the committed books, all of
them serial, and owns the row if there are any. -/
structure Disciplined (mandateId : String) (m₀ : Mandate) (w : World ι Unit (Bank ρ) π)
    (moves : ι → List (Move ρ)) : Prop where
  entered : ∀ i b, ((w.session i).writes b).books mandateId = entered (moves i) (b.books mandateId)
  owned : ∀ i, moves i ≠ [] → w.owner () = some i
  committed : Serial m₀ (w.committed.books mandateId)
  seen : ∀ i, Serial m₀ ((w.view i).books mandateId)

omit [DecidableEq ι] in
theorem Disciplined.no_moves {w : World ι Unit (Bank ρ) π} {moves : ι → List (Move ρ)}
    (h : Disciplined mandateId m₀ w moves) {i j : ι} (hi : moves i ≠ []) (hj : j ≠ i) :
    moves j = [] := by
  by_contra hne
  have howner := h.owned j hne
  rw [h.owned i hi] at howner
  exact hj (Option.some.inj howner).symm

omit [DecidableEq ι] in
theorem Disciplined.view_books {w : World ι Unit (Bank ρ) π} {moves : ι → List (Move ρ)}
    (h : Disciplined mandateId m₀ w moves) (i : ι) :
    (w.view i).books mandateId = ReservationLinearization.entered (moves i)
      (w.committed.books mandateId) :=
  h.entered i w.committed

/-- The session that ends a transaction has no moves left. -/
theorem Disciplined.ended {w w' : World ι Unit (Bank ρ) π} {moves : ι → List (Move ρ)} {i : ι}
    (h : Disciplined mandateId m₀ w moves) (howner : w'.owner = w.release i)
    (hself : (w'.session i).writes = id) (hothers : ∀ j, j ≠ i → w'.session j = w.session j)
    (hbooks : w'.committed.books mandateId = w.committed.books mandateId ∨
      w'.committed = w.view i) :
    Disciplined mandateId m₀ w' (Function.update moves i []) := by
  have hentered : ∀ j b, ((w'.session j).writes b).books mandateId =
      ReservationLinearization.entered (Function.update moves i [] j) (b.books mandateId) := by
    intro j b
    by_cases hj : j = i
    · subst hj
      rw [hself, Function.update_self, entered_nil]
      rfl
    · rw [hothers j hj, Function.update_of_ne hj]
      exact h.entered j b
  have hcommitted : Serial m₀ (w'.committed.books mandateId) := by
    rcases hbooks with hsame | hview
    · rw [hsame]
      exact h.committed
    · rw [hview]
      exact h.seen i
  refine ⟨hentered, fun j hne => ?_, hcommitted, fun j => ?_⟩
  · by_cases hj : j = i
    · subst hj
      rw [Function.update_self] at hne
      exact absurd rfl hne
    · rw [Function.update_of_ne hj] at hne
      rw [howner]
      exact release_of_ne (h.owned j hne) hj
  · show Serial m₀ (((w'.session j).writes w'.committed).books mandateId)
    rw [hentered]
    by_cases hne : Function.update moves i [] j = []
    · rw [hne, entered_nil]
      exact hcommitted
    · -- another session has the row, so nothing was published
      have hj : j ≠ i := by
        rintro rfl
        exact hne (Function.update_self _ _ _)
      rw [Function.update_of_ne hj] at hne ⊢
      have hsame : w'.committed.books mandateId = w.committed.books mandateId := by
        rcases hbooks with hsame | hview
        · exact hsame
        · rw [hview, h.view_books, h.no_moves hne hj.symm, entered_nil]
      rw [hsame, ← h.view_books]
      exact h.seen j

/-- **One turn keeps the discipline.** -/
theorem disciplined_next {w : World ι Unit (Bank ρ) π} {i : ι}
    (h : ∃ moves, Disciplined mandateId m₀ w moves) :
    ∃ moves, Disciplined mandateId m₀ ((clients mandateId program).next w i) moves := by
  obtain ⟨moves, h⟩ := h
  have hfired : Fired (fun i p => statement mandateId (program i p)) w i
      ((clients mandateId program).log w i) ((clients mandateId program).next w i) :=
    fire_fired _ w i
  generalize (clients mandateId program).next w i = w' at hfired ⊢
  generalize (clients mandateId program).log w i = labels at hfired
  cases hfired with
  | waited => exact ⟨moves, h⟩
  | @ran rows run hcode hfree =>
    obtain ⟨more, hwrite, hrows, hserial⟩ := statement_enters hcode (h.seen i)
    refine ⟨Function.update moves i (moves i ++ more), fun j b => ?_, fun j hne => ?_,
      h.committed, fun j => ?_⟩
    · by_cases hj : j = i
      · subst hj
        rw [advance_session_self, Function.update_self, entered_append, ← h.entered]
        exact hwrite _
      · rw [advance_session_of_ne hj, Function.update_of_ne hj]
        exact h.entered j b
    · show (if () ∈ rows (w.view i) then some i else w.owner ()) = some j
      by_cases hj : j = i
      · subst hj
        rw [Function.update_self] at hne
        by_cases hmore : more = []
        · rw [hmore, List.append_nil] at hne
          rw [h.owned j hne, ite_self]
        · rw [if_pos (hrows hmore)]
      · rw [Function.update_of_ne hj] at hne
        have howner := h.owned j hne
        rw [if_neg (not_mem_of_owned howner hj hfree), howner]
    · by_cases hj : j = i
      · subst hj
        rw [advance_view_self, hwrite]
        exact hserial
      · rw [advance_view_of_ne hj]
        exact h.seen j
  | @grabbed rows run free hcode hfree =>
    generalize program i (w.session i).point = command at hcode
    cases command <;> cases hcode
  | committed hcode =>
    exact ⟨_, h.ended rfl (congrArg Session.writes (publish_session_self _))
      (fun j hj => publish_session_of_ne hj _) (.inr rfl)⟩
  | rolledBack hcode =>
    exact ⟨_, h.ended rfl (congrArg Session.writes (discard_session_self _))
      (fun j hj => discard_session_of_ne hj _) (.inl rfl)⟩

/-- What everybody sees of the mandate: within the limit, and the outcome of a legal log. -/
def Sound (mandateId : String) (m₀ : Mandate) (b : Bank ρ) : Prop :=
  ∃ m, b.store.mandates.find? mandateId = some m ∧
    m.currentAggregateSpend + m.reservedSpend ≤ m.aggregateSpendLimit ∧
    m = replay b.log m₀ ∧ Legal m₀ b.log

theorem Serial.sound {b : Bank ρ} (h : Serial m₀ (b.books mandateId)) (hm : Within m₀) :
    Sound mandateId m₀ b :=
  ⟨_, h.row, within_of_legal h.legal hm, rfl, h.legal⟩

/-- What the others see, and what is committed, stays. -/
structure Unnoticed (w w' : World ι Unit (Bank ρ) π) (i : ι) : Prop where
  committed : w'.committed = w.committed
  others : ∀ j, j ≠ i → w'.view j = w.view j

/-- **How a call of `reserve_budget` can go** in one turn: it waits for another session's row lock,
it raises `reserved_spend` by its amount and `version` by one, or it finds that the amount
exceeds the limit and changes nothing. -/
inductive Answered (mandateId : String) (r : ρ) (amount : ℤ) (next : Bool → π)
    (w w' : World ι Unit (Bank ρ) π) (i : ι) : Prop
  | waited (hsame : w' = w) (hheld : ∃ j, j ≠ i ∧ w.owner () = some j)
  | reserved (m : Mandate) (hrow : (w.view i).store.mandates.find? mandateId = some m)
      (hlimit : m.currentAggregateSpend + m.reservedSpend + amount ≤ m.aggregateSpendLimit)
      (hanswer : (w'.session i).point = next true)
      (hraised : (w'.view i).store.mandates.find? mandateId = some { m with
        reservedSpend := m.reservedSpend + amount, version := m.version + 1 })
      (hlogged : (w'.view i).log = (w.view i).log ++ [.reserve r amount])
      (hunnoticed : Unnoticed w w' i)
  | exhausted (m : Mandate) (hrow : (w.view i).store.mandates.find? mandateId = some m)
      (hlimit : m.aggregateSpendLimit < m.currentAggregateSpend + m.reservedSpend + amount)
      (hanswer : (w'.session i).point = next false)
      (hkept : w'.view i = w.view i)
      (hunnoticed : Unnoticed w w' i)

theorem answered {w : World ι Unit (Bank ρ) π} {i : ι}
    (h : Serial m₀ ((w.view i).books mandateId)) {r : ρ} {amount : ℤ} {positive : 0 < amount}
    {next : Bool → π} (hcommand : program i (w.session i).point = .reserve r amount positive next) :
    Answered mandateId r amount next w ((clients mandateId program).next w i) i := by
  obtain ⟨m, hrow⟩ : ∃ m, (w.view i).store.mandates.find? mandateId = some m := ⟨_, h.row⟩
  have hunnoticed (rows : List Unit) (e : Effect (Bank ρ) Empty π) :
      Unnoticed w (w.advance i rows e) i :=
    ⟨rfl, fun j hj => advance_view_of_ne hj rows e⟩
  have hcode : statement mandateId (program i (w.session i).point) = _ :=
    congrArg (statement mandateId) hcommand
  show Answered mandateId r amount next w
    (fire (fun i p => statement mandateId (program i p)) w i).1 i
  cases hpermits : permits (w.view i).store.mandates mandateId amount with
  | true =>
    have hlimit := (permits_iff hrow).mp hpermits
    have hreserve := reserveBudget_permits (w.view i).store mandateId amount
    rw [hpermits, if_pos rfl] at hreserve
    by_cases hfree : w.Available i ()
    · rw [fire_of_free hcode fun _ _ => hfree, hreserve, hpermits]
      refine .reserved m hrow hlimit (congrArg Session.point (advance_session_self _ _)) ?_
        ?_ (hunnoticed _ _)
      · have hbooks := @books_enter _ mandateId (.reserve r amount) (w.view i)
        rw [advance_view_self]
        exact (congrArg Prod.fst hbooks).trans (congrArg (Option.map _) hrow)
      · rw [advance_view_self]
        rfl
    · rw [fire_of_held hcode]
      · refine .waited rfl ?_
        cases howner : w.owner () with
        | none => exact absurd (.inl howner) hfree
        | some j =>
          refine ⟨j, ?_, rfl⟩
          rintro rfl
          exact hfree (.inr howner)
      · rw [hpermits, if_pos rfl]
        exact fun hall => hfree (hall () (List.mem_singleton_self ()))
  | false =>
    have hlimit := mt (permits_iff hrow).mpr (Bool.eq_false_iff.mp hpermits)
    have hreserve := reserveBudget_permits (w.view i).store mandateId amount
    rw [hpermits, if_neg Bool.false_ne_true] at hreserve
    rw [fire_of_free hcode]
    · rw [hreserve, hpermits]
      refine .exhausted m hrow (by omega) (congrArg Session.point (advance_session_self _ _))
        ?_ (hunnoticed _ _)
      rw [advance_view_self]
      rfl
    · rw [hpermits]
      exact fun k hk => absurd hk List.not_mem_nil

/-- What is committed stays in the order in which it was committed. -/
theorem log_grows {w : World ι Unit (Bank ρ) π} {i : ι}
    (h : ∃ moves, Disciplined mandateId m₀ w moves) :
    w.committed.log <+: ((clients mandateId program).next w i).committed.log := by
  obtain ⟨moves, h⟩ := h
  have hfired : Fired (fun i p => statement mandateId (program i p)) w i
      ((clients mandateId program).log w i) ((clients mandateId program).next w i) :=
    fire_fired _ w i
  rcases hfired.committed_cases with hsame | ⟨next, _, hnext⟩
  · exact ⟨[], by rw [List.append_nil, hsame]⟩
  · rw [hnext]
    exact ⟨moves i, (congrArg Prod.snd (h.view_books i)).symm⟩

/-- **The conditional reservation is linearizable.**  For every interleaving of clients that
reserve positive amounts and settle what they find held, in transactions of any shape: the row
that is committed and the row every session sees is the outcome of a sequential log, within the
limit; what is committed later comes later in the log; and every call of `reserve_budget` raises
the row it sees by its amount, or fails only where the amount exceeds the limit, changing
nothing. -/
theorem reservations_linearizable (program : ι → π → Command ρ π) (start : ι → π) {s : Store}
    (hrow : s.mandates.find? mandateId = some m₀)
    (hwithin : m₀.currentAggregateSpend + m₀.reservedSpend ≤ m₀.aggregateSpendLimit)
    (schedule : List ι) :
    (clients mandateId program).Throughout
        (fun w => Sound mandateId m₀ w.committed ∧ ∀ i, Sound mandateId m₀ (w.view i))
        (opening ⟨s, []⟩ start) schedule ∧
      (clients mandateId program).Along
        (fun w i => w.committed.log <+: ((clients mandateId program).next w i).committed.log ∧
          ∀ r amount positive next,
            program i (w.session i).point = .reserve r amount positive next →
              Answered mandateId r amount next w ((clients mandateId program).next w i) i)
        (opening ⟨s, []⟩ start) schedule := by
  have hstart : ∃ moves, Disciplined mandateId m₀
      (opening (⟨s, []⟩ : Bank ρ) start : World ι Unit (Bank ρ) π) moves := by
    have hserial : Serial m₀ ((⟨s, []⟩ : Bank ρ).books mandateId) := ⟨hrow, .nil⟩
    exact ⟨fun _ => [], fun _ b => (entered_nil _).symm, fun _ hne => absurd rfl hne, hserial,
      fun _ => hserial⟩
  have hdisciplined := @Machine.throughout_of_step _ _ _ (clients mandateId program)
    (fun w => ∃ moves, Disciplined mandateId m₀ w moves) (fun _ _ => disciplined_next) _ hstart
    schedule
  constructor
  · refine Machine.throughout_mono ?_ hdisciplined
    rintro w ⟨moves, h⟩
    exact ⟨h.committed.sound hwithin, fun i => (h.seen i).sound hwithin⟩
  · refine Machine.along_mono ?_ (Machine.along_of_throughout hdisciplined)
    intro w i h
    obtain ⟨moves, hmoves⟩ := id h
    exact ⟨log_grows h, fun r amount positive next hcommand =>
      answered (hmoves.seen i) hcommand⟩

/-- A client that reserves an amount, commits, and releases it in a transaction of its own. -/
def Sample.reserver (amount : ℤ) (positive : 0 < amount) : ℕ → Command Bool ℕ
  | 0 => .reserve true amount positive fun granted => if granted then 1 else 4
  | 1 => .commit 2
  | 2 => .settle .release true fun _ => 3
  | 3 => .commit 4
  | _ => .stop

/-- Two clients of the sample mandate, of which the second waits for the first and then finds the
limit exhausted. -/
theorem reservations_linearizable_two_clients :
    let clientsOf (first : Bool) : ℕ → Command Bool ℕ :=
      if first then Sample.reserver 600 (by decide) else Sample.reserver 500 (by decide)
    let start : World Bool Unit (Bank Bool) ℕ := opening ⟨ControlPlane.Sample.store, []⟩ fun _ => 0
    let schedule := [true, false, true, false, true, true]
    (clients "mnd_1" clientsOf).Throughout
        (fun w => Sound "mnd_1" ControlPlane.Sample.mandate w.committed ∧
          ∀ i, Sound "mnd_1" ControlPlane.Sample.mandate (w.view i)) start schedule ∧
      (clients "mnd_1" clientsOf).Along
        (fun w i => w.committed.log <+: ((clients "mnd_1" clientsOf).next w i).committed.log ∧
          ∀ r amount positive next,
            clientsOf i (w.session i).point = .reserve r amount positive next →
              Answered "mnd_1" r amount next w ((clients "mnd_1" clientsOf).next w i) i)
        start schedule :=
  reservations_linearizable _ _ (by rfl) (by decide) _

end Interleaving

end MandatePlane.ReservationLinearization
