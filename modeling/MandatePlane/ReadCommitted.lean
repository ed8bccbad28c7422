import MandatePlane.LabelledRun
import Mathlib.Logic.Function.Basic

/-!
# Sessions under READ COMMITTED

A database state is shared by sessions, each of which runs a program one statement at
a time.  A statement sees the committed state with the session's own writes on it; it
first takes the row locks it needs, and waits while another session holds one of them.
Writes stay with the session until it commits, which publishes them and releases its
locks; a rollback drops them.  `SELECT ... FOR UPDATE SKIP LOCKED` takes the rows that
are free and passes over the others.

A program is a type of points with the statement at each point, so that a session's
place in its program is data.  A schedule is the list of the sessions in the order in
which they take their steps; a session that has to wait loses its turn.

A session that runs by itself is a function of the state it starts in (`solo`), which
is how a program is compared with the function it stands for.
-/

namespace MandatePlane.ReadCommitted

open LabelledRun

/-- What a statement does that has its locks. -/
structure Effect (σ ε π : Type*) where
  write : σ → σ
  emits : List ε
  next : π

/-- The statement at one point of a program over states `σ`, rows `κ`, labels `ε`, points `π`. -/
inductive Stmt (σ κ ε π : Type*) where
  | exec (rows : σ → List κ) (run : σ → Effect σ ε π)
  | grab (rows : σ → List κ) (run : List κ → σ → Effect σ ε π)
  | commit (next : π)
  | rollback (next : π)
  | stop

structure Session (σ π : Type*) where
  point : π
  writes : σ → σ

structure World (ι κ σ π : Type*) where
  committed : σ
  owner : κ → Option ι
  session : ι → Session σ π

variable {ι κ σ ε π : Type*}

/-- A statement that only reads. -/
def Stmt.look (next : σ → π) : Stmt σ κ ε π := .exec (fun _ => []) fun s => ⟨id, [], next s⟩

/-- Something outside the database. -/
def Stmt.emit (labels : List ε) (next : π) : Stmt σ κ ε π :=
  .exec (fun _ => []) fun _ => ⟨id, labels, next⟩

namespace World

variable (w : World ι κ σ π) (i : ι)

/-- What a session sees: the committed state under its own writes. -/
def view : σ := (w.session i).writes w.committed

/-- Nobody else holds the row. -/
def Available (k : κ) : Prop := w.owner k = none ∨ w.owner k = some i

instance [DecidableEq ι] (k : κ) : Decidable (w.Available i k) :=
  inferInstanceAs (Decidable (_ ∨ _))

variable [DecidableEq ι]

/-- The session takes the rows and goes on. -/
def advance [DecidableEq κ] (rows : List κ) (e : Effect σ ε π) : World ι κ σ π where
  committed := w.committed
  owner k := if k ∈ rows then some i else w.owner k
  session := Function.update w.session i ⟨e.next, e.write ∘ (w.session i).writes⟩

/-- The session lets go of its rows. -/
def release (k : κ) : Option ι := if w.owner k = some i then none else w.owner k

/-- The session's writes become visible. -/
def publish (next : π) : World ι κ σ π where
  committed := w.view i
  owner := w.release i
  session := Function.update w.session i ⟨next, id⟩

/-- The session's writes are dropped. -/
def discard (next : π) : World ι κ σ π where
  committed := w.committed
  owner := w.release i
  session := Function.update w.session i ⟨next, id⟩

end World

/-- Sessions about to run, over a committed state and no locks. -/
def opening (s : σ) (start : ι → π) : World ι κ σ π := ⟨s, fun _ => none, fun i => ⟨start i, id⟩⟩

section Steps

variable [DecidableEq ι] [DecidableEq κ] (code : ι → π → Stmt σ κ ε π)

/-- One session takes its turn. -/
def fire (w : World ι κ σ π) (i : ι) : World ι κ σ π × List (ι × ε) :=
  match code i (w.session i).point with
  | .exec rows run =>
    if ∀ k ∈ rows (w.view i), w.Available i k then
      (w.advance i (rows (w.view i)) (run (w.view i)), (run (w.view i)).emits.map fun e => (i, e))
    else (w, [])
  | .grab rows run =>
    let free := (rows (w.view i)).filter fun k => w.Available i k
    (w.advance i free (run free (w.view i)), (run free (w.view i)).emits.map fun e => (i, e))
  | .commit next => (w.publish i next, [])
  | .rollback next => (w.discard i next, [])
  | .stop => (w, [])

/-- Sessions that interleave as the schedule says. -/
def interleaved : Machine (World ι κ σ π) ι (ι × ε) where
  next w i := (fire code w i).1
  log w i := (fire code w i).2

/-- **One turn of a session.** -/
inductive Fired (w : World ι κ σ π) (i : ι) : List (ι × ε) → World ι κ σ π → Prop
  | waited : Fired w i [] w
  | ran {rows : σ → List κ} {run : σ → Effect σ ε π}
      (hcode : code i (w.session i).point = .exec rows run)
      (hfree : ∀ k ∈ rows (w.view i), w.Available i k) :
      Fired w i ((run (w.view i)).emits.map fun e => (i, e))
        (w.advance i (rows (w.view i)) (run (w.view i)))
  | grabbed {rows : σ → List κ} {run : List κ → σ → Effect σ ε π} {free : List κ}
      (hcode : code i (w.session i).point = .grab rows run)
      (hfree : free = (rows (w.view i)).filter fun k => w.Available i k) :
      Fired w i ((run free (w.view i)).emits.map fun e => (i, e))
        (w.advance i free (run free (w.view i)))
  | committed {next : π} (hcode : code i (w.session i).point = .commit next) :
      Fired w i [] (w.publish i next)
  | rolledBack {next : π} (hcode : code i (w.session i).point = .rollback next) :
      Fired w i [] (w.discard i next)

theorem fire_fired (w : World ι κ σ π) (i : ι) :
    Fired code w i (fire code w i).2 (fire code w i).1 := by
  unfold fire
  cases hcode : code i (w.session i).point with
  | exec rows run =>
    dsimp only
    split
    · rename_i hfree
      exact .ran hcode hfree
    · exact .waited
  | grab rows run => exact .grabbed hcode rfl
  | commit next => exact .committed hcode
  | rollback next => exact .rolledBack hcode
  | stop => exact .waited

/-- A statement that gets its rows. -/
theorem fire_of_free {code : ι → π → Stmt σ κ ε π} {w : World ι κ σ π} {i : ι}
    {rows : σ → List κ} {run : σ → Effect σ ε π}
    (hcode : code i (w.session i).point = .exec rows run)
    (hfree : ∀ k ∈ rows (w.view i), w.Available i k) :
    (fire code w i).1 = w.advance i (rows (w.view i)) (run (w.view i)) := by
  simp only [fire, hcode, if_pos hfree]

/-- A statement that has to wait. -/
theorem fire_of_held {code : ι → π → Stmt σ κ ε π} {w : World ι κ σ π} {i : ι}
    {rows : σ → List κ} {run : σ → Effect σ ε π}
    (hcode : code i (w.session i).point = .exec rows run)
    (hheld : ¬ ∀ k ∈ rows (w.view i), w.Available i k) : (fire code w i).1 = w := by
  simp only [fire, hcode, if_neg hheld]

end Steps

/-! ### The same program at other points -/

section Points

variable {π' : Type*} {f : π → π'} {st : Stmt σ κ ε π}

def Effect.map (f : π → π') (e : Effect σ ε π) : Effect σ ε π' := ⟨e.write, e.emits, f e.next⟩

/-- A statement with its points renamed. -/
def Stmt.map (f : π → π') : Stmt σ κ ε π → Stmt σ κ ε π'
  | .exec rows run => .exec rows fun s => (run s).map f
  | .grab rows run => .grab rows fun free s => (run free s).map f
  | .commit next => .commit (f next)
  | .rollback next => .rollback (f next)
  | .stop => .stop

theorem Stmt.map_eq_exec {rows : σ → List κ} {run : σ → Effect σ ε π'}
    (h : st.map f = .exec rows run) :
    ∃ run', st = .exec rows run' ∧ run = fun s => (run' s).map f := by
  cases st with
  | exec rows' run' =>
    cases h
    exact ⟨run', rfl, rfl⟩
  | grab _ _ => cases h
  | commit _ => cases h
  | rollback _ => cases h
  | stop => cases h

theorem Stmt.map_eq_grab {rows : σ → List κ} {run : List κ → σ → Effect σ ε π'}
    (h : st.map f = .grab rows run) :
    ∃ run', st = .grab rows run' ∧ run = fun free s => (run' free s).map f := by
  cases st with
  | grab rows' run' =>
    cases h
    exact ⟨run', rfl, rfl⟩
  | exec _ _ => cases h
  | commit _ => cases h
  | rollback _ => cases h
  | stop => cases h

theorem Stmt.map_eq_commit {next : π'} (h : st.map f = .commit next) :
    ∃ q, st = .commit q ∧ next = f q := by
  cases st with
  | commit q =>
    cases h
    exact ⟨q, rfl, rfl⟩
  | exec _ _ => cases h
  | grab _ _ => cases h
  | rollback _ => cases h
  | stop => cases h

theorem Stmt.map_eq_rollback {next : π'} (h : st.map f = .rollback next) :
    ∃ q, st = .rollback q ∧ next = f q := by
  cases st with
  | rollback q =>
    cases h
    exact ⟨q, rfl, rfl⟩
  | exec _ _ => cases h
  | grab _ _ => cases h
  | commit _ => cases h
  | stop => cases h

end Points

/-! ### What the others see of a turn -/

section Frame

variable [DecidableEq ι] [DecidableEq κ] {code : ι → π → Stmt σ κ ε π} {w w' : World ι κ σ π}
  {i j : ι} {labels : List (ι × ε)}

@[simp] theorem advance_session_self (rows : List κ) (e : Effect σ ε π) :
    (w.advance i rows e).session i = ⟨e.next, e.write ∘ (w.session i).writes⟩ :=
  Function.update_self _ _ _

omit [DecidableEq κ] in
@[simp] theorem publish_session_self (next : π) : (w.publish i next).session i = ⟨next, id⟩ :=
  Function.update_self _ _ _

omit [DecidableEq κ] in
@[simp] theorem discard_session_self (next : π) : (w.discard i next).session i = ⟨next, id⟩ :=
  Function.update_self _ _ _

theorem advance_session_of_ne (hj : j ≠ i) (rows : List κ) (e : Effect σ ε π) :
    (w.advance i rows e).session j = w.session j :=
  Function.update_of_ne hj _ _

omit [DecidableEq κ] in
theorem publish_session_of_ne (hj : j ≠ i) (next : π) :
    (w.publish i next).session j = w.session j :=
  Function.update_of_ne hj _ _

omit [DecidableEq κ] in
theorem discard_session_of_ne (hj : j ≠ i) (next : π) :
    (w.discard i next).session j = w.session j :=
  Function.update_of_ne hj _ _

/-- A statement's writes are on top of what the session saw. -/
@[simp] theorem advance_view_self (rows : List κ) (e : Effect σ ε π) :
    (w.advance i rows e).view i = e.write (w.view i) := by
  rw [World.view, advance_session_self]
  rfl

/-- What a session sees stays as it is while others write. -/
theorem advance_view_of_ne (hj : j ≠ i) (rows : List κ) (e : Effect σ ε π) :
    (w.advance i rows e).view j = w.view j := by
  rw [World.view, advance_session_of_ne hj]
  rfl

omit [DecidableEq κ] in
theorem discard_view_of_ne (hj : j ≠ i) (next : π) : (w.discard i next).view j = w.view j := by
  rw [World.view, discard_session_of_ne hj]
  rfl

omit [DecidableEq ι] [DecidableEq κ] in
/-- A session that has written nothing sees the committed state. -/
theorem view_of_writes (h : (w.session i).writes = id) : w.view i = w.committed := by
  rw [World.view, h]
  rfl

omit [DecidableEq ι] [DecidableEq κ] in
/-- A row that another session holds is not free. -/
theorem not_mem_of_owned {k : κ} {rows : List κ} (hk : w.owner k = some j) (hj : j ≠ i)
    (hfree : ∀ k ∈ rows, w.Available i k) : k ∉ rows := by
  intro hm
  rcases hfree k hm with hn | ho
  · rw [hk] at hn
    cases hn
  · rw [hk] at ho
    exact hj (Option.some.inj ho)

omit [DecidableEq κ] in
theorem release_of_ne {k : κ} (hk : w.owner k = some j) (hj : j ≠ i) :
    w.release i k = some j := by
  rw [World.release, hk, if_neg fun he => hj (Option.some.inj he)]

/-- A session that takes free rows takes none away. -/
theorem advance_owner_kept {k : κ} {rows : List κ} {e : Effect σ ε π} (hk : w.owner k = some j)
    (hfree : ∀ k ∈ rows, w.Available i k) : (w.advance i rows e).owner k = some j := by
  show (if k ∈ rows then some i else w.owner k) = some j
  by_cases hj : j = i
  · subst hj
    rw [hk, ite_self]
  · rw [if_neg (not_mem_of_owned hk hj hfree), hk]

/-- A session's place and writes are its own. -/
theorem Fired.session_other (h : Fired code w i labels w') (hj : j ≠ i) :
    w'.session j = w.session j := by
  cases h with
  | waited => rfl
  | ran _ _ => exact Function.update_of_ne hj _ _
  | grabbed _ _ => exact Function.update_of_ne hj _ _
  | committed _ => exact Function.update_of_ne hj _ _
  | rolledBack _ => exact Function.update_of_ne hj _ _

/-- **A lock is kept** while others take their turns. -/
theorem Fired.owner_kept (h : Fired code w i labels w') (hj : j ≠ i) {k : κ}
    (hk : w.owner k = some j) : w'.owner k = some j := by
  have hrelease : w.release i k = some j := release_of_ne hk hj
  cases h with
  | waited => exact hk
  | ran _ hfree => exact advance_owner_kept hk hfree
  | grabbed _ hfree =>
    subst hfree
    exact advance_owner_kept hk fun _ hm => of_decide_eq_true (List.mem_filter.mp hm).2
  | committed _ => exact hrelease
  | rolledBack _ => exact hrelease

/-- Only a commit changes the committed state. -/
theorem Fired.committed_cases (h : Fired code w i labels w') :
    w'.committed = w.committed ∨
      ∃ next, code i (w.session i).point = .commit next ∧ w' = w.publish i next := by
  cases h with
  | waited => exact .inl rfl
  | ran _ _ => exact .inl rfl
  | grabbed _ _ => exact .inl rfl
  | committed hcode => exact .inr ⟨_, hcode, rfl⟩
  | rolledBack _ => exact .inl rfl

end Frame

/-! ### A session by itself -/

section Solo

variable (code : π → Stmt σ κ ε π)

/-- One turn of a session that nobody disturbs. -/
def turn (x : σ × Session σ π) : (σ × Session σ π) × List ε :=
  let seen := x.2.writes x.1
  match code x.2.point with
  | .exec _ run =>
    ((x.1, ⟨(run seen).next, (run seen).write ∘ x.2.writes⟩), (run seen).emits)
  | .grab rows run =>
    ((x.1, ⟨(run (rows seen) seen).next, (run (rows seen) seen).write ∘ x.2.writes⟩),
      (run (rows seen) seen).emits)
  | .commit next => ((seen, ⟨next, id⟩), [])
  | .rollback next => ((x.1, ⟨next, id⟩), [])
  | .stop => (x, [])

/-- A session that nobody disturbs, as a machine with one action. -/
def solo : Machine (σ × Session σ π) Unit ε where
  next x _ := (turn code x).1
  log x _ := (turn code x).2

/-- **A session by itself runs to its end**: from a committed state and its place and writes, with
the labels it emits, to a committed state and the point where it stops. -/
inductive Ends : σ → π → (σ → σ) → List ε → σ → π → Prop
  | stop {s : σ} {p : π} {w : σ → σ} (hcode : code p = .stop) : Ends s p w [] s p
  | exec {s s' : σ} {p q : π} {w : σ → σ} {labels : List ε} {rows : σ → List κ}
      {run : σ → Effect σ ε π} (hcode : code p = .exec rows run)
      (h : Ends s (run (w s)).next ((run (w s)).write ∘ w) labels s' q) :
      Ends s p w ((run (w s)).emits ++ labels) s' q
  | grab {s s' : σ} {p q : π} {w : σ → σ} {labels : List ε} {rows : σ → List κ}
      {run : List κ → σ → Effect σ ε π} (hcode : code p = .grab rows run)
      (h : Ends s (run (rows (w s)) (w s)).next ((run (rows (w s)) (w s)).write ∘ w) labels s' q) :
      Ends s p w ((run (rows (w s)) (w s)).emits ++ labels) s' q
  | commit {s s' : σ} {p q next : π} {w : σ → σ} {labels : List ε}
      (hcode : code p = .commit next) (h : Ends (w s) next id labels s' q) :
      Ends s p w labels s' q
  | rollback {s s' : σ} {p q next : π} {w : σ → σ} {labels : List ε}
      (hcode : code p = .rollback next) (h : Ends s next id labels s' q) : Ends s p w labels s' q

variable {code}

/-- A statement whose effect is known. -/
theorem Ends.ran {s s' : σ} {p q : π} {w : σ → σ} {labels labels' : List ε} {rows : σ → List κ}
    {run : σ → Effect σ ε π} {e : Effect σ ε π} (hcode : code p = .exec rows run)
    (he : run (w s) = e) (h : Ends code s e.next (e.write ∘ w) labels s' q)
    (hlabels : labels' = e.emits ++ labels) : Ends code s p w labels' s' q := by
  subst he
  rw [hlabels]
  exact .exec hcode h

/-- Rows that are all free, and a known effect. -/
theorem Ends.grabbed {s s' : σ} {p q : π} {w : σ → σ} {labels labels' : List ε} {rows : σ → List κ}
    {run : List κ → σ → Effect σ ε π} {e : Effect σ ε π} (hcode : code p = .grab rows run)
    (he : run (rows (w s)) (w s) = e) (h : Ends code s e.next (e.write ∘ w) labels s' q)
    (hlabels : labels' = e.emits ++ labels) : Ends code s p w labels' s' q := by
  subst he
  rw [hlabels]
  exact .grab hcode h

/-- The end of a session is where its machine comes to rest. -/
theorem Ends.run {s s' : σ} {p q : π} {w : σ → σ} {labels : List ε} (h : Ends code s p w labels s' q) :
    code q = .stop ∧ ∃ n w',
      (solo code).run (s, ⟨p, w⟩) (List.replicate n ()) = (s', ⟨q, w'⟩) ∧
      (solo code).trace (s, ⟨p, w⟩) (List.replicate n ()) = labels := by
  -- one turn first, then what follows
  have hturn {s₁ : σ} {p₁ q₁ : π} {w₁ : σ → σ} {s₂ : σ} {p₂ : π} {w₂ : σ → σ} {first rest : List ε}
      {s₃ : σ} (hfirst : turn code (s₁, ⟨p₁, w₁⟩) = ((s₂, ⟨p₂, w₂⟩), first))
      (hrest : code q₁ = .stop ∧ ∃ n w',
        (solo code).run (s₂, ⟨p₂, w₂⟩) (List.replicate n ()) = (s₃, ⟨q₁, w'⟩) ∧
        (solo code).trace (s₂, ⟨p₂, w₂⟩) (List.replicate n ()) = rest) :
      code q₁ = .stop ∧ ∃ n w',
        (solo code).run (s₁, ⟨p₁, w₁⟩) (List.replicate n ()) = (s₃, ⟨q₁, w'⟩) ∧
        (solo code).trace (s₁, ⟨p₁, w₁⟩) (List.replicate n ()) = first ++ rest := by
    obtain ⟨hstop, n, w', hrun, htrace⟩ := hrest
    have hnext : (solo code).next (s₁, ⟨p₁, w₁⟩) () = (s₂, ⟨p₂, w₂⟩) := congrArg Prod.fst hfirst
    have hlog : (solo code).log (s₁, ⟨p₁, w₁⟩) () = first := congrArg Prod.snd hfirst
    refine ⟨hstop, n + 1, w', ?_, ?_⟩
    · rw [List.replicate_succ, Machine.run_cons, hnext, hrun]
    · rw [List.replicate_succ, Machine.trace_cons, hnext, hlog, htrace]
  induction h with
  | stop hcode => exact ⟨hcode, 0, _, rfl, rfl⟩
  | exec hcode _ ih => exact hturn (by rw [turn, hcode]) ih
  | grab hcode _ ih => exact hturn (by rw [turn, hcode]) ih
  | commit hcode _ ih => exact hturn (by rw [turn, hcode]) ih
  | rollback hcode _ ih => exact hturn (by rw [turn, hcode]) ih

/-- A session at rest stays where it is and emits nothing more. -/
theorem solo_at_rest {x : σ × Session σ π} (hstop : code x.2.point = .stop) (n : ℕ) :
    (solo code).run x (List.replicate n ()) = x ∧
      (solo code).trace x (List.replicate n ()) = [] := by
  have hturn : turn code x = (x, []) := by rw [turn, hstop]
  have hnext : (solo code).next x () = x := congrArg Prod.fst hturn
  have hlog : (solo code).log x () = [] := congrArg Prod.snd hturn
  induction n with
  | zero => exact ⟨rfl, rfl⟩
  | succ n ih =>
    rw [List.replicate_succ, Machine.run_cons, Machine.trace_cons, hnext, hlog]
    exact ih

/-- **Wherever a session is found at rest, it is at its end.** -/
theorem Ends.at_rest {s s' : σ} {p q : π} {w : σ → σ} {labels : List ε}
    (h : Ends code s p w labels s' q) {n : ℕ}
    (hrest : code ((solo code).run (s, ⟨p, w⟩) (List.replicate n ())).2.point = .stop) :
    ((solo code).run (s, ⟨p, w⟩) (List.replicate n ())).1 = s' ∧
      ((solo code).run (s, ⟨p, w⟩) (List.replicate n ())).2.point = q ∧
      (solo code).trace (s, ⟨p, w⟩) (List.replicate n ()) = labels := by
  obtain ⟨hstop, m, w', hrun, htrace⟩ := h.run
  have hend : code ((solo code).run (s, ⟨p, w⟩) (List.replicate m ())).2.point = .stop := by
    rw [hrun]
    exact hstop
  -- both are at rest after the longer of the two runs
  have hsame : ∀ {a b : ℕ}, a ≤ b →
      code ((solo code).run (s, ⟨p, w⟩) (List.replicate a ())).2.point = .stop →
      (solo code).run (s, ⟨p, w⟩) (List.replicate b ()) =
          (solo code).run (s, ⟨p, w⟩) (List.replicate a ()) ∧
        (solo code).trace (s, ⟨p, w⟩) (List.replicate b ()) =
          (solo code).trace (s, ⟨p, w⟩) (List.replicate a ()) := by
    intro a b hab ha
    obtain ⟨c, rfl⟩ := Nat.exists_eq_add_of_le hab
    obtain ⟨hrun, htrace⟩ := solo_at_rest ha c
    rw [List.replicate_add, Machine.run_append, Machine.trace_append, hrun, htrace, List.append_nil]
    exact ⟨rfl, rfl⟩
  have hboth : (solo code).run (s, ⟨p, w⟩) (List.replicate n ()) = (s', ⟨q, w'⟩) ∧
      (solo code).trace (s, ⟨p, w⟩) (List.replicate n ()) = labels := by
    rw [← hrun, ← htrace]
    rcases Nat.le_total n m with hnm | hmn
    · obtain ⟨hr, ht⟩ := hsame hnm hrest
      exact ⟨hr.symm, ht.symm⟩
    · exact hsame hmn hend
  rw [hboth.1]
  exact ⟨rfl, rfl, hboth.2⟩

/-- What a session has emitted so far is the beginning of what it emits. -/
theorem Ends.emitted {s s' : σ} {p q : π} {w : σ → σ} {labels : List ε}
    (h : Ends code s p w labels s' q) (n : ℕ) :
    (solo code).trace (s, ⟨p, w⟩) (List.replicate n ()) <+: labels := by
  obtain ⟨hstop, m, w', hrun, htrace⟩ := h.run
  rcases Nat.le_total n m with hnm | hmn
  · obtain ⟨c, rfl⟩ := Nat.exists_eq_add_of_le hnm
    rw [← htrace, List.replicate_add, Machine.trace_append]
    exact List.prefix_append _ _
  · obtain ⟨c, rfl⟩ := Nat.exists_eq_add_of_le hmn
    have hrest : code ((solo code).run (s, ⟨p, w⟩) (List.replicate m ())).2.point = .stop := by
      rw [hrun]
      exact hstop
    have hsame : (solo code).trace (s, ⟨p, w⟩) (List.replicate (m + c) ()) = labels := by
      rw [List.replicate_add, Machine.trace_append, (solo_at_rest hrest c).2, List.append_nil,
        htrace]
    exact ⟨[], (List.append_nil _).trans hsame⟩

/-- A program that rests after its first commit has until then committed nothing. -/
theorem solo_uncommitted {s : σ} {p : π} {w : σ → σ}
    (hlast : ∀ p next, code p = .commit next → code next = .stop)
    (n : ℕ) :
    ((solo code).run (s, ⟨p, w⟩) (List.replicate n ())).1 = s ∨
      code ((solo code).run (s, ⟨p, w⟩) (List.replicate n ())).2.point = .stop := by
  induction n generalizing p w with
  | zero => exact .inl rfl
  | succ n ih =>
    rw [List.replicate_succ, Machine.run_cons]
    show ((solo code).run (turn code (s, ⟨p, w⟩)).1 _).1 = s ∨
      code ((solo code).run (turn code (s, ⟨p, w⟩)).1 _).2.point = .stop
    cases hcode : code p with
    | exec rows run =>
      rw [show (turn code (s, ⟨p, w⟩)).1 = (s, ⟨(run (w s)).next, (run (w s)).write ∘ w⟩) by
        rw [turn, hcode]]
      exact ih
    | grab rows run =>
      rw [show (turn code (s, ⟨p, w⟩)).1 = (s, ⟨(run (rows (w s)) (w s)).next,
        (run (rows (w s)) (w s)).write ∘ w⟩) by rw [turn, hcode]]
      exact ih
    | commit next =>
      rw [show (turn code (s, ⟨p, w⟩)).1 = (w s, ⟨next, id⟩) by rw [turn, hcode]]
      have hstop := hlast p next hcode
      rw [(solo_at_rest hstop n).1]
      exact .inr hstop
    | rollback next =>
      rw [show (turn code (s, ⟨p, w⟩)).1 = (s, ⟨next, id⟩) by rw [turn, hcode]]
      exact ih
    | stop =>
      rw [show (turn code (s, ⟨p, w⟩)).1 = (s, ⟨p, w⟩) by rw [turn, hcode]]
      exact ih

end Solo

section Alone

variable [DecidableEq ι] [DecidableEq κ] {code : ι → π → Stmt σ κ ε π} {w : World ι κ σ π} {i : ι}

/-- A session that takes rows while nobody else holds a lock is the only one to hold one. -/
theorem advance_alone (halone : ∀ k, w.Available i k) (taken : List κ) (e : Effect σ ε π) (k : κ) :
    (w.advance i taken e).Available i k := by
  unfold World.Available World.advance
  dsimp only
  split
  · exact .inr rfl
  · exact halone k

/-- A turn while nobody else holds a lock is a turn by itself. -/
theorem fire_alone (halone : ∀ k, w.Available i k) :
    ((fire code w i).1.committed, (fire code w i).1.session i) =
        (turn (code i) (w.committed, w.session i)).1 ∧
      (fire code w i).2 = (turn (code i) (w.committed, w.session i)).2.map (fun e => (i, e)) ∧
      ∀ k, (fire code w i).1.Available i k := by
  have hrelease (k : κ) : w.release i k = none ∨ w.release i k = some i := by
    unfold World.release
    split
    · exact .inl rfl
    · exact halone k
  unfold fire turn
  cases hcode : code i (w.session i).point with
  | exec rows run =>
    dsimp only
    rw [if_pos fun k _ => halone k]
    exact ⟨Prod.ext rfl (Function.update_self _ _ _), rfl, advance_alone halone _ _⟩
  | grab rows run =>
    dsimp only
    have hall : (rows (w.view i)).filter (fun k => w.Available i k) = rows (w.view i) :=
      List.filter_eq_self.mpr fun k _ => decide_eq_true (halone k)
    rw [hall]
    exact ⟨Prod.ext rfl (Function.update_self _ _ _), rfl, advance_alone halone _ _⟩
  | commit next => exact ⟨Prod.ext rfl (publish_session_self _), rfl, hrelease⟩
  | rollback next => exact ⟨Prod.ext rfl (discard_session_self _), rfl, hrelease⟩
  | stop => exact ⟨rfl, rfl, halone⟩

/-- **A session that runs while the others wait** runs as it does by itself. -/
theorem run_alone (n : ℕ) (halone : ∀ k, w.Available i k) :
    (((interleaved code).run w (List.replicate n i)).committed,
        ((interleaved code).run w (List.replicate n i)).session i) =
      (solo (code i)).run (w.committed, w.session i) (List.replicate n ()) ∧
    (interleaved code).trace w (List.replicate n i) =
      ((solo (code i)).trace (w.committed, w.session i) (List.replicate n ())).map
        (fun e => (i, e)) := by
  induction n generalizing w with
  | zero => exact ⟨rfl, rfl⟩
  | succ n ih =>
    obtain ⟨hstate, hlabels, halone'⟩ := @fire_alone _ _ _ _ _ _ _ code w i halone
    obtain ⟨hrun, htrace⟩ := ih halone'
    rw [List.replicate_succ, List.replicate_succ, Machine.run_cons, Machine.run_cons,
      Machine.trace_cons, Machine.trace_cons, List.map_append]
    have hnext : (solo (code i)).next (w.committed, w.session i) () =
        ((fire code w i).1.committed, (fire code w i).1.session i) := hstate.symm
    rw [hnext]
    exact ⟨hrun, congrArg₂ _ hlabels htrace⟩

end Alone

end MandatePlane.ReadCommitted
