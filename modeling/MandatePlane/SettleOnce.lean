import MandatePlane.ReadCommitted

/-!
# A hold that many sessions may settle

A hold is live in a state until somebody settles it.  A settlement takes two writes: it
first moves the account, under the lock of the account's row, and later the hold itself,
under the lock of the hold's row, where it is logged.  `Stage` says how far a session has
got with the hold.

A session may move the account only if the hold is live in the committed state at that
moment.  Then the account's row serialises the settlements: the hold is settled at most
once, and once it is no longer live it has been settled exactly once.  A session that
does not touch the account may still write over a hold that has been settled (`late`).
-/

namespace MandatePlane.SettleOnce

open ReadCommitted

/-- How far a session has got with the hold. -/
inductive Stage where
  | idle
  | written
  | flushed
  | late
  deriving DecidableEq

/-- The account's row has been written. -/
def Stage.Moving (st : Stage) : Prop := st = .written ∨ st = .flushed

/-- How states, rows, labels and programs speak about the hold. -/
structure Scheme (ι κ σ ε π : Type*) where
  live : σ → Prop
  /-- what all writes of all sessions keep -/
  known : σ → Prop
  account : κ
  hold : κ
  released : ε → Bool
  added : ε → Bool
  stage : ι → π → Stage
  /-- the session has locked the hold's row before any write -/
  guarded : ι → π → Prop
  /-- what the data of a point satisfies -/
  proper : ι → π → Prop

variable {ι κ σ ε π : Type*}

namespace Scheme

variable (S : Scheme ι κ σ ε π)

/-- What the writes of a session that has got so far do to the hold. -/
def Wrote : Stage → (σ → σ) → Prop
  | .idle, f => ∀ s, S.known s → S.known (f s) ∧ (S.live (f s) ↔ S.live s)
  | .written, f => ∀ s, S.known s → S.known (f s) ∧ (S.live (f s) ↔ S.live s)
  | .flushed, f => ∀ s, S.known s → S.known (f s) ∧ ¬ S.live (f s)
  | .late, f => ∀ s, S.known s → S.known (f s) ∧ (S.live (f s) → S.live s)

def Quiet (labels : List ε) : Prop := labels.countP S.released = 0 ∧ labels.countP S.added = 0

/-- A move from one stage to the next, with the rows it takes and the labels it emits. -/
inductive Move (live : Prop) (rows : List κ) (labels : List ε) : Stage → Stage → Prop
  | kept {st : Stage} (hquiet : S.Quiet labels) : Move live rows labels st st
  | wrote (hlive : live) (haccount : S.account ∈ rows) (hquiet : S.Quiet labels) :
      Move live rows labels .idle .written
  | flushed (hhold : S.hold ∈ rows) (hreleased : labels.countP S.released = 1)
      (hadded : labels.countP S.added ≤ 1) : Move live rows labels .written .flushed
  | late (hdead : ¬ live) (hquiet : S.Quiet labels) : Move live rows labels .idle .late

/-- What a statement may do that takes these rows. -/
structure Allowed (w : World ι κ σ π) (i : ι) (rows : List κ) (e : Effect σ ε π) : Prop where
  proper : S.proper i e.next
  write : S.Wrote (S.stage i e.next) e.write
  move : S.Move (S.live w.committed) rows e.emits (S.stage i (w.session i).point)
    (S.stage i e.next)
  guarded : S.guarded i e.next →
    S.guarded i (w.session i).point ∨ S.hold ∈ rows ∧ S.live w.committed

/-- Where a session has nothing to do with the hold any more. -/
structure AtEnd (i : ι) (p : π) : Prop where
  proper : S.proper i p
  stage : S.stage i p = .idle
  unguarded : ¬ S.guarded i p

/-- The statement a session is at keeps to the rules. -/
structure Lawful [DecidableEq ι] (code : ι → π → Stmt σ κ ε π) (w : World ι κ σ π) (i : ι) :
    Prop where
  exec : ∀ {rows run}, code i (w.session i).point = .exec rows run →
    (∀ k ∈ rows (w.view i), w.Available i k) → S.Allowed w i (rows (w.view i)) (run (w.view i))
  grab : ∀ {rows run free}, code i (w.session i).point = .grab rows run →
    free = (rows (w.view i)).filter (fun k => w.Available i k) →
      S.Allowed w i free (run free (w.view i))
  commit : ∀ {next}, code i (w.session i).point = .commit next →
    S.stage i (w.session i).point ≠ .written ∧ S.AtEnd i next
  rollback : ∀ {next}, code i (w.session i).point = .rollback next →
    S.stage i (w.session i).point ≠ .flushed ∧ S.AtEnd i next

/-- What a session holds. -/
structure Held (w : World ι κ σ π) (i : ι) : Prop where
  writes : S.Wrote (S.stage i (w.session i).point) (w.session i).writes
  proper : S.proper i (w.session i).point
  moving : (S.stage i (w.session i).point).Moving →
    w.owner S.account = some i ∧ S.live w.committed
  settling : S.stage i (w.session i).point = .flushed ∨ S.guarded i (w.session i).point →
    w.owner S.hold = some i ∧ S.live w.committed
  late : S.stage i (w.session i).point = .late → ¬ S.live w.committed

def releases (trace : List (ι × ε)) : ℕ := trace.countP fun l => S.released l.2

def additions (trace : List (ι × ε)) : ℕ := trace.countP fun l => S.added l.2

/-- The labels emitted so far. -/
inductive Tally (w : World ι κ σ π) (trace : List (ι × ε)) : Prop
  | pending (hlive : S.live w.committed) (hnone : ∀ i, S.stage i (w.session i).point ≠ .flushed)
      (hreleases : S.releases trace = 0) (hadditions : S.additions trace = 0)
  | moved (k : ι) (hlive : S.live w.committed) (hk : S.stage k (w.session k).point = .flushed)
      (hreleases : S.releases trace = 1) (hadditions : S.additions trace ≤ 1)
  | settled (hdead : ¬ S.live w.committed) (hreleases : S.releases trace = 1)
      (hadditions : S.additions trace ≤ 1)

/-- **The hold is settled once.** -/
structure Once (w : World ι κ σ π) (trace : List (ι × ε)) : Prop where
  known : S.known w.committed
  held : ∀ i, S.Held w i
  tally : S.Tally w trace

end Scheme

section Facts

variable {S : Scheme ι κ σ ε π} {w : World ι κ σ π} {trace : List (ι × ε)} {i j : ι}

theorem Scheme.Wrote.known {st : Stage} {f : σ → σ} (h : S.Wrote st f) {s : σ} (hs : S.known s) :
    S.known (f s) := by
  cases st with
  | idle => exact (h s hs).1
  | written => exact (h s hs).1
  | flushed => exact (h s hs).1
  | late => exact (h s hs).1

/-- Nobody brings the hold back. -/
theorem Scheme.Wrote.dead {st : Stage} {f : σ → σ} (h : S.Wrote st f) {s : σ} (hs : S.known s)
    (hdead : ¬ S.live s) : ¬ S.live (f s) := by
  cases st with
  | idle => exact fun hl => hdead ((h s hs).2.mp hl)
  | written => exact fun hl => hdead ((h s hs).2.mp hl)
  | flushed => exact (h s hs).2
  | late => exact fun hl => hdead ((h s hs).2 hl)

/-- Writes on top of writes. -/
theorem Scheme.Wrote.comp {live : Prop} {rows : List κ} {labels : List ε} {st st' : Stage}
    {f g : σ → σ} (hf : S.Wrote st f) (hg : S.Wrote st' g) (hmove : S.Move live rows labels st st') :
    S.Wrote st' (g ∘ f) := by
  cases hmove with
  | kept _ =>
    cases st with
    | idle =>
      exact fun s hs => ⟨hg.known (hf.known hs), (hg _ (hf.known hs)).2.trans (hf s hs).2⟩
    | written =>
      exact fun s hs => ⟨hg.known (hf.known hs), (hg _ (hf.known hs)).2.trans (hf s hs).2⟩
    | flushed => exact fun s hs => hg _ (hf.known hs)
    | late =>
      exact fun s hs => ⟨hg.known (hf.known hs), fun hl => (hf s hs).2 ((hg _ (hf.known hs)).2 hl)⟩
  | wrote _ _ _ =>
    exact fun s hs => ⟨hg.known (hf.known hs), (hg _ (hf.known hs)).2.trans (hf s hs).2⟩
  | flushed _ _ _ => exact fun s hs => hg _ (hf.known hs)
  | late _ _ =>
    exact fun s hs =>
      ⟨hg.known (hf.known hs), fun hl => (hf s hs).2.mp ((hg _ (hf.known hs)).2 hl)⟩

theorem Scheme.wrote_id : S.Wrote .idle id := fun _ hs => ⟨hs, Iff.rfl⟩

/-- What a session sees is known. -/
theorem Scheme.Once.view_known (h : S.Once w trace) (i : ι) : S.known (w.view i) :=
  (h.held i).writes.known h.known

/-- A session that has not reached the hold's row sees it as it has been committed. -/
theorem Scheme.Once.view_live (h : S.Once w trace)
    (hst : S.stage i (w.session i).point = .idle) : S.live (w.view i) ↔ S.live w.committed := by
  have hwrites := (h.held i).writes
  rw [hst] at hwrites
  exact (hwrites _ h.known).2

/-- Two sessions do not move the account at a time. -/
theorem Scheme.Once.moving_unique (h : S.Once w trace)
    (hi : (S.stage i (w.session i).point).Moving) (hj : (S.stage j (w.session j).point).Moving) :
    i = j := by
  have hown := ((h.held i).moving hi).1
  rw [((h.held j).moving hj).1] at hown
  exact (Option.some.inj hown).symm

/-- **At most once**, in every state. -/
theorem Scheme.Once.at_most (h : S.Once w trace) :
    S.releases trace ≤ 1 ∧ S.additions trace ≤ 1 := by
  cases h.tally with
  | pending _ _ hreleases hadditions =>
    constructor <;> omega
  | moved _ _ _ hreleases hadditions => constructor <;> omega
  | settled _ hreleases hadditions => constructor <;> omega

/-- **Exactly once**, as soon as the hold is not live any more. -/
theorem Scheme.Once.exactly (h : S.Once w trace) (hdead : ¬ S.live w.committed) :
    S.releases trace = 1 := by
  cases h.tally with
  | pending hlive _ _ _ => exact absurd hlive hdead
  | moved _ hlive _ _ _ => exact absurd hlive hdead
  | settled _ hreleases _ => exact hreleases

end Facts

/-! ### One turn -/

section Turns

variable [DecidableEq ι] [DecidableEq κ] {S : Scheme ι κ σ ε π} {code : ι → π → Stmt σ κ ε π}
  {w w' : World ι κ σ π} {trace labels : List (ι × ε)} {i j : ι}

omit [DecidableEq ι] [DecidableEq κ] in
theorem counts_append (events : List ε) :
    S.releases (trace ++ events.map fun e => (i, e)) =
        S.releases trace + events.countP S.released ∧
      S.additions (trace ++ events.map fun e => (i, e)) =
        S.additions trace + events.countP S.added := by
  unfold Scheme.releases Scheme.additions
  rw [List.countP_append, List.countP_append, List.countP_map, List.countP_map]
  exact ⟨rfl, rfl⟩

/-- Others keep what they hold while a session takes free rows. -/
theorem held_advance_of_ne (h : S.Held w j) (hj : j ≠ i) {rows : List κ} {e : Effect σ ε π}
    (hfree : ∀ k ∈ rows, w.Available i k) : S.Held (w.advance i rows e) j := by
  have hsession : (w.advance i rows e).session j = w.session j := advance_session_of_ne hj rows e
  refine ⟨?_, ?_, ?_, ?_, ?_⟩
  all_goals rw [hsession]
  · exact h.writes
  · exact h.proper
  · exact fun hm => ⟨advance_owner_kept (h.moving hm).1 hfree, (h.moving hm).2⟩
  · exact fun hs => ⟨advance_owner_kept (h.settling hs).1 hfree, (h.settling hs).2⟩
  · exact h.late

/-- What the session holds after an allowed statement. -/
theorem held_advance_self (h : S.Held w i) {rows : List κ} {e : Effect σ ε π}
    (hfree : ∀ k ∈ rows, w.Available i k) (ha : S.Allowed w i rows e) :
    S.Held (w.advance i rows e) i := by
  have hwrites := h.writes.comp ha.write ha.move
  have htaken {k : κ} (hk : k ∈ rows) : (w.advance i rows e).owner k = some i := if_pos hk
  have hkept {k : κ} (hk : w.owner k = some i) : (w.advance i rows e).owner k = some i :=
    advance_owner_kept hk hfree
  have hguarded : S.guarded i e.next →
      (w.advance i rows e).owner S.hold = some i ∧ S.live w.committed := by
    intro hg
    rcases ha.guarded hg with hold | ⟨hrow, hlive⟩
    · exact ⟨hkept (h.settling (.inr hold)).1, (h.settling (.inr hold)).2⟩
    · exact ⟨htaken hrow, hlive⟩
  have hmove := ha.move
  refine ⟨?_, ?_, ?_, ?_, ?_⟩
  all_goals rw [advance_session_self]
  · exact hwrites
  · exact ha.proper
  · show (S.stage i e.next).Moving → _
    intro hm
    generalize S.stage i e.next = next at hmove hm
    generalize hst : S.stage i (w.session i).point = st at hmove
    have hmoving := h.moving
    rw [hst] at hmoving
    cases hmove with
    | kept _ => exact ⟨hkept (hmoving hm).1, (hmoving hm).2⟩
    | wrote hlive haccount _ => exact ⟨htaken haccount, hlive⟩
    | flushed _ _ _ => exact ⟨hkept (hmoving (.inl rfl)).1, (hmoving (.inl rfl)).2⟩
    | late _ _ => rcases hm with hm | hm <;> cases hm
  · show S.stage i e.next = .flushed ∨ S.guarded i e.next → _
    rintro (hf | hg)
    · generalize S.stage i e.next = next at hmove hf
      generalize hst : S.stage i (w.session i).point = st at hmove
      have hsettling := h.settling
      have hmoving := h.moving
      rw [hst] at hsettling hmoving
      cases hmove with
      | kept _ => exact ⟨hkept (hsettling (.inl hf)).1, (hsettling (.inl hf)).2⟩
      | wrote _ _ _ => cases hf
      | flushed hhold _ _ => exact ⟨htaken hhold, (hmoving (.inl rfl)).2⟩
      | late _ _ => cases hf
    · exact hguarded hg
  · show S.stage i e.next = .late → _
    intro hl
    generalize S.stage i e.next = next at hmove hl
    generalize hst : S.stage i (w.session i).point = st at hmove
    have hlate := h.late
    rw [hst] at hlate
    cases hmove with
    | kept _ => exact hlate hl
    | wrote _ _ _ => cases hl
    | flushed _ _ _ => cases hl
    | late hdead _ => exact hdead

/-- A statement that is not the flush of the hold leaves the tally. -/
theorem tally_quiet (h : S.Tally w trace) {rows : List κ} {e : Effect σ ε π}
    (hquiet : S.Quiet e.emits)
    (hstage : S.stage i e.next = .flushed ↔ S.stage i (w.session i).point = .flushed) :
    S.Tally (w.advance i rows e) (trace ++ e.emits.map fun l => (i, l)) := by
  obtain ⟨hreleased, hadded⟩ := @counts_append _ _ _ _ _ S trace i e.emits
  rw [hquiet.1] at hreleased
  rw [hquiet.2] at hadded
  have hsame (j : ι) : S.stage j ((w.advance i rows e).session j).point = .flushed ↔
      S.stage j (w.session j).point = .flushed := by
    by_cases hj : j = i
    · rw [hj, advance_session_self]
      exact hstage
    · rw [advance_session_of_ne hj]
  cases h with
  | pending hlive hnone hreleases hadditions =>
    exact .pending hlive (fun j hj => hnone j ((hsame j).mp hj)) (hreleased.trans hreleases)
      (hadded.trans hadditions)
  | moved k hlive hk hreleases hadditions =>
    exact .moved k hlive ((hsame k).mpr hk) (hreleased.trans hreleases) (by omega)
  | settled hdead hreleases hadditions =>
    exact .settled hdead (hreleased.trans hreleases) (by omega)

/-- An allowed statement. -/
theorem once_advance (h : S.Once w trace) {rows : List κ} {e : Effect σ ε π}
    (hfree : ∀ k ∈ rows, w.Available i k) (ha : S.Allowed w i rows e) :
    S.Once (w.advance i rows e) (trace ++ e.emits.map fun l => (i, l)) := by
  refine ⟨h.known, fun j => ?_, ?_⟩
  · by_cases hj : j = i
    · rw [hj]
      exact held_advance_self (h.held i) hfree ha
    · exact held_advance_of_ne (h.held j) hj hfree
  · have hmove := ha.move
    generalize hnext : S.stage i e.next = next at hmove
    generalize hst : S.stage i (w.session i).point = st at hmove
    cases hmove with
    | kept hquiet => exact tally_quiet h.tally hquiet (by rw [hnext, hst])
    | wrote _ _ hquiet =>
      exact tally_quiet h.tally hquiet (by rw [hnext, hst]; decide)
    | late _ hquiet => exact tally_quiet h.tally hquiet (by rw [hnext, hst]; decide)
    | flushed _ hreleased hadded =>
      -- the only one to move the account, and the hold is still live
      have hwritten : (S.stage i (w.session i).point).Moving := .inl hst
      have hlive := ((h.held i).moving hwritten).2
      obtain ⟨hreleases, hadditions⟩ := @counts_append _ _ _ _ _ S trace i e.emits
      rw [hreleased] at hreleases
      cases h.tally with
      | pending _ _ hnone₁ hnone₂ =>
        refine .moved i hlive ?_ (by omega) ?_
        · rw [advance_session_self]
          exact hnext
        · omega
      | moved k _ hk _ _ =>
        have hki : k = i := h.moving_unique (.inr hk) hwritten
        rw [hki, hst] at hk
        cases hk
      | settled hdead _ _ => exact absurd hlive hdead

omit [DecidableEq ι] [DecidableEq κ] in
/-- A session at its end holds nothing. -/
theorem held_atEnd {w : World ι κ σ π} {next : π} (hend : S.AtEnd i next)
    (hpoint : w.session i = ⟨next, id⟩) : S.Held w i := by
  refine ⟨?_, ?_, ?_, ?_, ?_⟩
  all_goals rw [hpoint]
  · show S.Wrote (S.stage i next) id
    rw [hend.stage]
    exact S.wrote_id
  · exact hend.proper
  · show (S.stage i next).Moving → _
    rw [hend.stage]
    rintro (h | h) <;> cases h
  · rintro (h | h)
    · have h' : S.stage i next = .flushed := h
      rw [hend.stage] at h'
      cases h'
    · exact absurd h hend.unguarded
  · show S.stage i next = .late → _
    rw [hend.stage]
    exact fun h => by cases h

omit [DecidableEq κ] in
/-- A commit by a session that does not settle the hold, or that settles it. -/
theorem once_publish (h : S.Once w trace) {next : π}
    (hst : S.stage i (w.session i).point ≠ .written) (hend : S.AtEnd i next) :
    S.Once (w.publish i next) trace := by
  have hwrites := (h.held i).writes
  have hknown : S.known (w.view i) := h.view_known i
  have hself : (w.publish i next).session i = ⟨next, id⟩ := publish_session_self next
  have hother {j : ι} (hj : j ≠ i) : (w.publish i next).session j = w.session j :=
    publish_session_of_ne hj next
  -- the hold stays live as long as somebody else has a part in it
  have hlive {j : ι} (hj : j ≠ i) {k : κ} (hown : w.owner k = some j)
      (hk : S.stage i (w.session i).point = .flushed → w.owner k = some i)
      (hl : S.live w.committed) : S.live (w.view i) := by
    generalize hp : S.stage i (w.session i).point = st at hwrites hst hk
    cases st with
    | idle => exact ((hwrites _ h.known).2).mpr hl
    | written => exact absurd rfl hst
    | flushed =>
      rw [hk rfl] at hown
      exact absurd (Option.some.inj hown).symm hj
    | late => exact absurd hl ((h.held i).late hp)
  refine ⟨hknown, fun j => ?_, ?_⟩
  · by_cases hj : j = i
    · rw [hj]
      exact held_atEnd hend hself
    · have hheld := h.held j
      refine ⟨?_, ?_, ?_, ?_, ?_⟩
      all_goals rw [hother hj]
      · exact hheld.writes
      · exact hheld.proper
      · intro hm
        obtain ⟨hown, hl⟩ := hheld.moving hm
        exact ⟨release_of_ne hown hj, hlive hj hown (fun hf => ((h.held i).moving (.inr hf)).1) hl⟩
      · intro hs
        obtain ⟨hown, hl⟩ := hheld.settling hs
        exact ⟨release_of_ne hown hj, hlive hj hown (fun hf => ((h.held i).settling (.inl hf)).1) hl⟩
      · exact fun hl => hwrites.dead h.known (hheld.late hl)
  · have hstage {j : ι} (hj : S.stage j ((w.publish i next).session j).point = .flushed) :
        j ≠ i ∧ S.stage j (w.session j).point = .flushed := by
      by_cases hji : j = i
      · rw [hji, hself] at hj
        exact absurd (hend.stage.symm.trans hj) (by decide)
      · rw [hother hji] at hj
        exact ⟨hji, hj⟩
    cases h.tally with
    | pending hl hnone hreleases hadditions =>
      refine .pending ?_ (fun j hj => hnone j (hstage hj).2) hreleases hadditions
      generalize hp : S.stage i (w.session i).point = st at hwrites hst
      cases st with
      | idle => exact ((hwrites _ h.known).2).mpr hl
      | written => exact absurd rfl hst
      | flushed => exact absurd hp (hnone i)
      | late => exact absurd hl ((h.held i).late hp)
    | moved k hl hk hreleases hadditions =>
      by_cases hki : k = i
      · rw [hki] at hk
        rw [hk] at hwrites
        exact .settled (hwrites _ h.known).2 hreleases hadditions
      · refine .moved k ?_ (by rw [hother hki]; exact hk) hreleases hadditions
        exact hlive hki ((h.held k).moving (.inr hk)).1
          (fun hf => ((h.held i).moving (.inr hf)).1) hl
    | settled hdead hreleases hadditions =>
      exact .settled (hwrites.dead h.known hdead) hreleases hadditions

omit [DecidableEq κ] in
/-- A rollback by a session that has not settled the hold. -/
theorem once_discard (h : S.Once w trace) {next : π}
    (hst : S.stage i (w.session i).point ≠ .flushed) (hend : S.AtEnd i next) :
    S.Once (w.discard i next) trace := by
  have hself : (w.discard i next).session i = ⟨next, id⟩ := discard_session_self next
  have hother {j : ι} (hj : j ≠ i) : (w.discard i next).session j = w.session j :=
    discard_session_of_ne hj next
  refine ⟨h.known, fun j => ?_, ?_⟩
  · by_cases hj : j = i
    · rw [hj]
      exact held_atEnd hend hself
    · have hheld := h.held j
      refine ⟨?_, ?_, ?_, ?_, ?_⟩
      all_goals rw [hother hj]
      · exact hheld.writes
      · exact hheld.proper
      · exact fun hm => ⟨release_of_ne (hheld.moving hm).1 hj, (hheld.moving hm).2⟩
      · exact fun hs => ⟨release_of_ne (hheld.settling hs).1 hj, (hheld.settling hs).2⟩
      · exact hheld.late
  · cases h.tally with
    | pending hl hnone hreleases hadditions =>
      refine .pending hl (fun j hj => ?_) hreleases hadditions
      by_cases hji : j = i
      · rw [hji, hself] at hj
        exact absurd (hend.stage.symm.trans hj) (by decide)
      · rw [hother hji] at hj
        exact hnone j hj
    | moved k hl hk hreleases hadditions =>
      have hki : k ≠ i := by
        rintro rfl
        exact hst hk
      exact .moved k hl (by rw [hother hki]; exact hk) hreleases hadditions
    | settled hdead hreleases hadditions => exact .settled hdead hreleases hadditions

/-- **One turn keeps the hold settled once**, if the statement keeps to the rules. -/
theorem once_step (h : S.Once w trace) (hl : S.Lawful code w i) (hf : Fired code w i labels w') :
    S.Once w' (trace ++ labels) := by
  cases hf with
  | waited =>
    rw [List.append_nil]
    exact h
  | ran hcode hfree => exact once_advance h hfree (hl.exec hcode hfree)
  | grabbed hcode hfree =>
    refine once_advance h (fun k hk => ?_) (hl.grab hcode hfree)
    rw [hfree] at hk
    exact of_decide_eq_true (List.mem_filter.mp hk).2
  | committed hcode =>
    rw [List.append_nil]
    exact once_publish h (hl.commit hcode).1 (hl.commit hcode).2
  | rolledBack hcode =>
    rw [List.append_nil]
    exact once_discard h (hl.rollback hcode).1 (hl.rollback hcode).2

end Turns

end MandatePlane.SettleOnce
