import MandatePlane.MandateSessions

/-!
# A delegation that races a cascade

One delegation below a mandate runs interleaved with one cascade.  The cascade lists the
children of each mandate once, without a lock, and writes at its end.  A child that is
committed after its parent's children have been listed is not visited, and the cascade
then suspends or revokes the parent above it.

The child is caught when the list is read after the delegation's commit, and it is never
inserted when the delegation locks its parent after the cascade's flush: it then waits
for the commit and finds the parent marked.  Between the list and the flush the parent's
lock does not help, for the cascade takes no lock when it reads.
-/

namespace MandatePlane.DelegationRace

open DomainModel KeyedTable LabelledRun HostEnvironment ControlPlane MandateRoutes MandateSteps
open ReadCommitted
open OperationSessions MandateSessions

/-- No ACTIVE mandate has a parent that is SUSPENDED or REVOKED. -/
def OrphanFree (mandates : Table Mandate) : Prop :=
  ∀ m ∈ mandates.rows, m.status = .active → ∀ id p, m.parentMandateId = some id →
    mandates.find? id = some p → p.status ≠ .suspended ∧ p.status ≠ .revoked

inductive Party where
  | delegator | cascader
  deriving DecidableEq

/-- The first statement of each party. -/
def start (delegation : DelegateCall) (cascade : CascadeCall) : Party → MandatePoint
  | .delegator => .lockParent delegation
  | .cascader => .read cascade

/-- The mandates whose children a cascade that has not committed has listed. -/
def listed : MandatePoint → List String
  | .load _ _ state => state.visited
  | .children _ _ state => state.visited
  | .flushMarked _ state => state.visited
  | _ => []

def committing : MandatePoint → Bool
  | .finish => true
  | _ => false

/-- The delegation does not commit while a cascade that has listed the parent's children has not
committed. -/
def Clear (parentId : String) (w : World Party Row Store MandatePoint) : Party → Prop
  | .delegator => committing (w.session .delegator).point = true →
      parentId ∉ listed (w.session .cascader).point
  | .cascader => True

instance (parentId : String) (w : World Party Row Store MandatePoint) (i : Party) :
    Decidable (Clear parentId w i) :=
  match i with
  | .delegator => inferInstanceAs (Decidable (_ → _))
  | .cascader => inferInstanceAs (Decidable True)

/-! ### What the two commits do to the tree -/

section Tree

variable {s : Store}

/-- The rows of a cascade's flush: each has the status of its newest copy, and is as it was where
there is none. -/
theorem writeCopies_row (copies : List Mandate) (id : String) :
    (s.mandates.find? id = none → (writeCopies copies s).mandates.find? id = none) ∧
      ∀ row, s.mandates.find? id = some row →
        ∃ row', (writeCopies copies s).mandates.find? id = some row' ∧
          row'.parentMandateId = row.parentMandateId ∧
          ((∀ m ∈ copies, m.id ≠ id) → row' = row) ∧
          ∀ m, copies.find? (fun m => m.id = id) = some m → row'.status = m.status := by
  induction copies with
  | nil =>
    refine ⟨fun h => h, fun row hrow => ⟨row, hrow, rfl, fun _ => rfl, fun m hm => ?_⟩⟩
    rw [List.find?_nil] at hm
    cases hm
  | cons m copies ih =>
    obtain ⟨hnone, hsome⟩ := ih
    have hwrite : (writeCopies (m :: copies) s).mandates.find? id =
        if id = m.id then ((writeCopies copies s).mandates.find? m.id).map (setMarked m)
        else (writeCopies copies s).mandates.find? id := by
      show ((writeCopies copies s).mandates.modify m.id (setMarked m)).find? id = _
      rw [Table.find?_modify]
    rw [hwrite]
    by_cases hid : id = m.id
    · subst hid
      rw [if_pos rfl]
      refine ⟨fun h => ?_, fun row hrow => ?_⟩
      · rw [hnone h]
        rfl
      · obtain ⟨row', hrow', hparent, -, -⟩ := hsome row hrow
        refine ⟨setMarked m row', ?_, hparent, fun h => absurd rfl (h m List.mem_cons_self),
          fun m' hm' => ?_⟩
        · rw [hrow']
          rfl
        · rw [List.find?_cons_of_pos (by simp)] at hm'
          cases hm'
          rfl
    · rw [if_neg hid]
      refine ⟨hnone, fun row hrow => ?_⟩
      obtain ⟨row', hrow', hparent, hsame, hstatus⟩ := hsome row hrow
      refine ⟨row', hrow', hparent,
        fun h => hsame fun m' hm' => h m' (List.mem_cons_of_mem _ hm'), fun m' hm' => ?_⟩
      have hne : ¬ m.id = id := fun he => hid he.symm
      rw [List.find?_cons_of_neg (by simpa using hne)] at hm'
      exact hstatus m' hm'

/-- **A new mandate below an ACTIVE one.** -/
theorem OrphanFree.delegated {call : DelegateCall} {parent row : Mandate} {currency : String}
    {mandates : Table Mandate} (h : OrphanFree s.mandates)
    (hrow : s.mandates.find? parent.id = some row) (hactive : row.status = .active)
    (hinsert : (s.mandates.modify parent.id
      (setAllocation parent call.payload.aggregateSpendLimit)).insert
        (call.child parent currency) = some mandates) : OrphanFree mandates := by
  -- a row that is found has the status of a row that was there, or is new
  have hback {id : String} {p : Mandate} (hp : mandates.find? id = some p) :
      p.status = .active ∨ ∃ p₀, s.mandates.find? id = some p₀ ∧ p₀.status = p.status := by
    rw [Table.find?_insert hinsert] at hp
    split at hp
    · cases hp
      exact .inl rfl
    · rw [Table.find?_modify] at hp
      split at hp
      · rename_i hid
        obtain ⟨p₀, hp₀, rfl⟩ := Option.map_eq_some_iff.mp hp
        exact .inr ⟨p₀, hid ▸ hp₀, rfl⟩
      · exact .inr ⟨p, hp, rfl⟩
  have hkept {id : String} {m₀ p : Mandate} (hm₀ : m₀ ∈ s.mandates.rows)
      (hlive : m₀.status = .active) (hlink : m₀.parentMandateId = some id)
      (hp : mandates.find? id = some p) : p.status ≠ .suspended ∧ p.status ≠ .revoked := by
    rcases hback hp with hnew | ⟨p₀, hp₀, hsame⟩
    · rw [hnew]
      exact ⟨by decide, by decide⟩
    · rw [← hsame]
      exact h m₀ hm₀ hlive id p₀ hlink hp₀
  intro m hm hlive id p hlink hp
  rcases (Table.mem_insert hinsert).mp hm with hm | rfl
  · rcases Table.mem_modify.mp hm with ⟨m₀, hm₀, -, rfl⟩ | ⟨hm, -⟩
    · exact hkept hm₀ hlive hlink hp
    · exact hkept hm hlive hlink hp
  · cases hlink
    rcases hback hp with hnew | ⟨p₀, hp₀, hsame⟩
    · rw [hnew]
      exact ⟨by decide, by decide⟩
    · rw [hrow] at hp₀
      cases hp₀
      rw [← hsame, hactive]
      exact ⟨by decide, by decide⟩

/-- Where a cascade stands in the tree, with `pending` still to be listed: the mandates it has listed
are marked, and each of their children has been listed or is pending. -/
structure Walk (status : MandateStatus) (mandates : Table Mandate) (state : CascadeState)
    (pending : List String) : Prop where
  stored : ∀ id, id ∈ state.visited ∨ id ∈ pending → ∃ row, mandates.find? id = some row
  closed : ∀ id ∈ state.visited, ∀ c ∈ childIds mandates id, c ∈ state.visited ∨ c ∈ pending
  copied : ∀ m ∈ state.copies, m.id ∈ state.visited ∨ m.id ∈ pending
  marked : ∀ id ∈ state.visited, ∃ m, state.copies.find? (fun m => m.id = id) = some m ∧
    m.status = status

/-- **The flush of a cascade that has listed everything below its root.** -/
theorem OrphanFree.cascaded {status : MandateStatus} {state : CascadeState}
    (h : OrphanFree s.mandates) (hwalk : Walk status s.mandates state [])
    (hstatus : status ≠ .active) : OrphanFree (flushRows state s).mandates := by
  show OrphanFree (writeCopies state.copies s).mandates
  have hcopied {id : String} (hid : id ∉ state.visited) : ∀ m ∈ state.copies, m.id ≠ id := by
    rintro m hm rfl
    rcases hwalk.copied m hm with hv | hp
    · exact hid hv
    · cases hp
  -- a row that is found was there, and only a listed one has changed
  have hback {id : String} {p : Mandate}
      (hp : (writeCopies state.copies s).mandates.find? id = some p) :
      ∃ p₀, s.mandates.find? id = some p₀ ∧ p.parentMandateId = p₀.parentMandateId ∧
        (id ∈ state.visited → p.status = status) ∧ (id ∉ state.visited → p = p₀) := by
    obtain ⟨hnone, hsome⟩ := @writeCopies_row s state.copies id
    cases hp₀ : s.mandates.find? id with
    | none =>
      rw [hnone hp₀] at hp
      cases hp
    | some p₀ =>
      obtain ⟨p', hp', hparent, hsame, hmarked⟩ := hsome p₀ hp₀
      rw [hp] at hp'
      cases hp'
      refine ⟨p₀, rfl, hparent, fun hv => ?_, fun hv => hsame (hcopied hv)⟩
      obtain ⟨m, hm, hms⟩ := hwalk.marked id hv
      rw [hmarked m hm, hms]
  intro m hm hactive id p hlink hp
  obtain ⟨m₀, hm₀, hparent, hlisted, hunlisted⟩ := hback (Table.find?_of_mem hm)
  have hm₀row : m₀ ∈ s.mandates.rows := Table.mem_of_find? hm₀
  have hnotListed : m.id ∉ state.visited := fun hv => hstatus ((hlisted hv).symm.trans hactive)
  have hm₀eq : m = m₀ := hunlisted hnotListed
  have hidUnlisted : id ∉ state.visited := by
    intro hv
    have hchild : m.id ∈ childIds s.mandates id := by
      refine mem_childIds.mpr ⟨m₀, hm₀row, ?_, by rw [hm₀eq]⟩
      rw [← hparent, hlink]
    rcases hwalk.closed id hv m.id hchild with hc | hc
    · exact hnotListed hc
    · cases hc
  obtain ⟨p₀, hp₀, -, -, hsame⟩ := hback hp
  have hpeq : p = p₀ := hsame hidUnlisted
  subst hm₀eq
  subst hpeq
  exact h m hm₀row hactive id p hlink hp₀

/-- A delegation below a mandate that has not been listed. -/
theorem Walk.delegated {status : MandateStatus} {state : CascadeState} {pending : List String}
    {call : DelegateCall} {parent : Mandate} {currency : String} {mandates : Table Mandate}
    (hwalk : Walk status s.mandates state pending) (hparent : parent.id ∉ state.visited)
    (hinsert : (s.mandates.modify parent.id
      (setAllocation parent call.payload.aggregateSpendLimit)).insert
        (call.child parent currency) = some mandates) : Walk status mandates state pending := by
  refine ⟨fun id hid => ?_, fun id hid c hc => ?_, hwalk.copied, hwalk.marked⟩
  · obtain ⟨row, hrow⟩ := hwalk.stored id hid
    by_cases hkey : id = parent.id
    · refine ⟨setAllocation parent call.payload.aggregateSpendLimit row,
        Table.find?_insert_of_some hinsert ?_⟩
      rw [hkey, Table.find?_modify_self, ← hkey, hrow]
      rfl
    · refine ⟨row, Table.find?_insert_of_some hinsert ?_⟩
      rw [Table.find?_modify_of_ne _ _ _ hkey, hrow]
  · refine hwalk.closed id hid c ?_
    obtain ⟨m, hm, hlink, hmid⟩ := mem_childIds.mp hc
    rcases (Table.mem_insert hinsert).mp hm with hm | rfl
    · rcases Table.mem_modify.mp hm with ⟨m₀, hm₀, -, rfl⟩ | ⟨hm, -⟩
      · exact mem_childIds.mpr ⟨m₀, hm₀, hlink, hmid⟩
      · exact mem_childIds.mpr ⟨m, hm, hlink, hmid⟩
    · cases hlink
      exact absurd hid hparent

/-! The moves of a walk. -/

section Moves

variable {status : MandateStatus} {mandates : Table Mandate} {state : CascadeState}
  {pending : List String}

/-- The walk starts at a stored mandate. -/
theorem Walk.start {mandate : Mandate} {id : String} (h : mandates.find? id = some mandate) :
    Walk status mandates ⟨mandate.id, [mandate.id], [], [mandate], []⟩ [mandate.id] := by
  have hkey : mandate.id = id := Table.key_of_find? h
  refine ⟨fun id' hid => ?_, fun _ hid => absurd hid List.not_mem_nil, fun m hm => .inr ?_,
    fun _ hid => absurd hid List.not_mem_nil⟩
  · rcases hid with hid | hid
    · cases hid
    · rw [List.mem_singleton.mp hid, hkey]
      exact ⟨mandate, h⟩
  · rw [List.mem_singleton.mp hm]
    exact List.mem_singleton_self _

/-- A pending row is loaded and marked. -/
theorem Walk.mark {call : CascadeCall} {id : String} {m : Mandate}
    (h : Walk call.status mandates state pending) (hid : id ∈ pending) (hm : m.id = id) :
    Walk call.status mandates (state.mark call m) pending ∧
      ∃ m', (state.mark call m).copies.find? (fun m => m.id = id) = some m' ∧
        m'.status = call.status := by
  have hnewest : (state.mark call m).copies.find? (fun m => m.id = id) =
      some (withStatus call.status call.text m) :=
    List.find?_cons_of_pos (decide_eq_true hm)
  refine ⟨⟨h.stored, h.closed, fun m' hm' => ?_, fun id' hid' => ?_⟩, _, hnewest, rfl⟩
  · rcases List.mem_cons.mp hm' with rfl | hm'
    · exact .inr (hm ▸ hid)
    · exact h.copied m' hm'
  · by_cases hsame : id' = id
    · subst hsame
      exact ⟨_, hnewest, rfl⟩
    · obtain ⟨m', hm', hstatus⟩ := h.marked id' hid'
      refine ⟨m', ?_, hstatus⟩
      have hne : ¬ (withStatus call.status call.text m).id = id' :=
        fun he => hsame (he.symm.trans hm)
      exact (List.find?_cons_of_neg (by simpa using hne)).trans hm'

/-- The children of a marked row are listed. -/
theorem Walk.list {id : String} {queue : List String}
    (h : Walk status mandates state (id :: queue))
    (hmarked : ∃ m, state.copies.find? (fun m => m.id = id) = some m ∧ m.status = status) :
    Walk status mandates
      { state with
        visited := id :: state.visited
        queue := queue ++ (childIds mandates id).filter (· ∉ id :: state.visited) }
      (queue ++ (childIds mandates id).filter (· ∉ id :: state.visited)) := by
  have hmoved {c : String} (hc : c ∈ state.visited ∨ c ∈ id :: queue) :
      c ∈ id :: state.visited ∨
        c ∈ queue ++ (childIds mandates id).filter (· ∉ id :: state.visited) := by
    rcases hc with hv | hp
    · exact .inl (List.mem_cons_of_mem _ hv)
    · rcases List.mem_cons.mp hp with rfl | hq
      · exact .inl List.mem_cons_self
      · exact .inr (List.mem_append_left _ hq)
  refine ⟨fun c hc => ?_, fun v hv c hc => ?_, fun m hm => hmoved (h.copied m hm), fun v hv => ?_⟩
  · rcases hc with hv | hp
    · rcases List.mem_cons.mp hv with rfl | hv
      · exact h.stored _ (.inr List.mem_cons_self)
      · exact h.stored c (.inl hv)
    · rcases List.mem_append.mp hp with hq | hnew
      · exact h.stored c (.inr (List.mem_cons_of_mem _ hq))
      · obtain ⟨m, hm, -, hmid⟩ := mem_childIds.mp (List.mem_filter.mp hnew).1
        exact ⟨m, hmid ▸ Table.find?_of_mem hm⟩
  · rcases List.mem_cons.mp hv with rfl | hv
    · by_cases hseen : c ∈ v :: state.visited
      · exact .inl hseen
      · exact .inr (List.mem_append_right _ (List.mem_filter.mpr ⟨hc, decide_eq_true hseen⟩))
    · exact hmoved (h.closed v hv c hc)
  · rcases List.mem_cons.mp hv with rfl | hv
    · exact hmarked
    · exact h.marked v hv

end Moves

end Tree

/-! ### The two parties -/

section Parties

variable (delegation : DelegateCall) (cascade : CascadeCall)

/-- What the delegation has locked and not yet committed. -/
structure Held (w : World Party Row Store MandatePoint) (parent : Mandate) : Prop where
  key : parent.id = delegation.parentId
  lock : w.owner (.mandate parent.id) = some .delegator
  live : ∃ row, w.committed.mandates.find? parent.id = some row ∧ row.status = .active

/-- Where the delegation stands, with its writes. -/
inductive Delegating (w : World Party Row Store MandatePoint) : MandatePoint → (Store → Store) → Prop
  | asking : Delegating w (.lockParent delegation) id
  | locked {parent : Mandate} (h : Held delegation w parent) :
      Delegating w (.loadAgent delegation parent) id
  | checked {parent : Mandate} {currency : String} (h : Held delegation w parent) :
      Delegating w (.flushChild delegation parent currency) id
  | flushed {parent : Mandate} {currency : String} (h : Held delegation w parent)
      (hfree : w.committed.mandates.find? delegation.id.text = none) :
      Delegating w .finish fun s => (delegateRows delegation parent currency s).getD s
  | raised (refusal : Refusal) : Delegating w (.raised refusal) id
  | refused (refusal : Refusal) : Delegating w (.refused refusal) id
  | returned : Delegating w .returned id

/-- Where the cascade stands, with its writes. -/
inductive Cascading (w : World Party Row Store MandatePoint) : MandatePoint → (Store → Store) → Prop
  | asking : Cascading w (.read cascade) id
  | loading {id' : String} {state : CascadeState}
      (h : Walk cascade.status w.committed.mandates state (id' :: state.queue)) :
      Cascading w (.load cascade id' state) id
  | listing {id' : String} {state : CascadeState}
      (h : Walk cascade.status w.committed.mandates state (id' :: state.queue))
      (hmarked : ∃ m, state.copies.find? (fun m => m.id = id') = some m ∧
        m.status = cascade.status) :
      Cascading w (.children cascade id' state) id
  | drained {state : CascadeState} (h : Walk cascade.status w.committed.mandates state []) :
      Cascading w (.flushMarked cascade state) id
  | flushed {state : CascadeState} (h : Walk cascade.status w.committed.mandates state [])
      (hlock : ∀ m ∈ state.copies, w.owner (.mandate m.id) = some .cascader) :
      Cascading w .finish (flushRows state)
  | raised (refusal : Refusal) : Cascading w (.raised refusal) id
  | refused (refusal : Refusal) : Cascading w (.refused refusal) id
  | returned : Cascading w .returned id

/-- What holds between any two turns. -/
structure Racing (w : World Party Row Store MandatePoint) : Prop where
  sound : OrphanFree w.committed.mandates
  delegator : Delegating delegation w (w.session .delegator).point (w.session .delegator).writes
  cascader : Cascading cascade w (w.session .cascader).point (w.session .cascader).writes

end Parties

section Turns

variable {env : Platform} {delegation : DelegateCall} {cascade : CascadeCall}
  {w w' : World Party Row Store MandatePoint} {p : MandatePoint} {f : Store → Store}
  {labels : List (Party × Event)}

/-! What a turn of the other party leaves as it is. -/

theorem Delegating.kept (h : Delegating delegation w p f)
    (hlock : ∀ k, w.owner k = some .delegator → w'.owner k = some .delegator)
    (hlive : ∀ id, w.owner (.mandate id) = some .delegator →
      w'.committed.mandates.find? id = w.committed.mandates.find? id)
    (hnone : ∀ id, w.committed.mandates.find? id = none → w'.committed.mandates.find? id = none) :
    Delegating delegation w' p f := by
  have hheld {parent : Mandate} (h : Held delegation w parent) : Held delegation w' parent := by
    refine ⟨h.key, hlock _ h.lock, ?_⟩
    rw [hlive _ h.lock]
    exact h.live
  cases h with
  | asking => exact .asking
  | locked h => exact .locked (hheld h)
  | checked h => exact .checked (hheld h)
  | flushed h hfree => exact .flushed (hheld h) (hnone _ hfree)
  | raised refusal => exact .raised refusal
  | refused refusal => exact .refused refusal
  | returned => exact .returned

theorem Cascading.kept (h : Cascading cascade w p f)
    (hlock : ∀ k, w.owner k = some .cascader → w'.owner k = some .cascader)
    (hsame : w'.committed = w.committed) : Cascading cascade w' p f := by
  cases h with
  | asking => exact .asking
  | loading h => exact .loading (hsame ▸ h)
  | listing h hmarked => exact .listing (hsame ▸ h) hmarked
  | drained h => exact .drained (hsame ▸ h)
  | flushed h howned => exact .flushed (hsame ▸ h) fun m hm => hlock _ (howned m hm)
  | raised refusal => exact .raised refusal
  | refused refusal => exact .refused refusal
  | returned => exact .returned

/-- The delegation commits below a mandate that has not been listed. -/
theorem Cascading.delegated {parent : Mandate} {currency : String} (h : Cascading cascade w p f)
    (hlock : ∀ k, w.owner k = some .cascader → w'.owner k = some .cascader)
    (howned : w.owner (.mandate parent.id) = some .delegator) (hclear : parent.id ∉ listed p)
    (hinsert : (w.committed.mandates.modify parent.id
      (setAllocation parent delegation.payload.aggregateSpendLimit)).insert
        (delegation.child parent currency) = some w'.committed.mandates) :
    Cascading cascade w' p f := by
  cases h with
  | asking => exact .asking
  | loading h => exact .loading (h.delegated hclear hinsert)
  | listing h hmarked => exact .listing (h.delegated hclear hinsert) hmarked
  | drained h => exact .drained (h.delegated hclear hinsert)
  | flushed h hrows =>
    refine .flushed (h.delegated ?_ hinsert) fun m hm => hlock _ (hrows m hm)
    -- the rows of the flush are the cascade's, and the parent's is not
    intro hv
    obtain ⟨m, hm, -⟩ := h.marked _ hv
    have hid : m.id = parent.id := by simpa using List.find?_some hm
    have hrow := hrows m (List.mem_of_find?_eq_some hm)
    rw [hid, howned] at hrow
    cases hrow
  | raised refusal => exact .raised refusal
  | refused refusal => exact .refused refusal
  | returned => exact .returned

/-! What a statement does to the party whose turn it is. -/

theorem Cascading.resumed {state : CascadeState}
    (h : Walk cascade.status w.committed.mandates state state.queue) :
    Cascading cascade w (resume cascade state) id := by
  cases hqueue : state.queue with
  | nil =>
    rw [resume, hqueue]
    exact .drained (hqueue ▸ h)
  | cons id' queue =>
    rw [hqueue] at h
    rw [resume, hqueue]
    exact .loading ⟨h.stored, h.closed, h.copied, h.marked⟩

theorem Cascading.ran {rows : Store → List Row} {run : Store → Effect Store Event MandatePoint}
    (h : Cascading cascade w p f) (hcode : mandateCode env p = .exec rows run) :
    Cascading cascade (w.advance .cascader (rows (f w.committed)) (run (f w.committed)))
      (run (f w.committed)).next ((run (f w.committed)).write ∘ f) := by
  cases h with
  | asking =>
    cases hcode
    dsimp only [id_eq, Function.id_comp]
    cases hfind : w.committed.mandates.find? cascade.mandateId with
    | none => exact .raised _
    | some mandate => exact .resumed (.start hfind)
  | @loading id' state h =>
    cases hcode
    dsimp only [id_eq, Function.id_comp]
    -- the row is in memory or in the database, and its id is the one asked for
    have hloaded : ∃ m, (state.copies.find? fun m => m.id = id').orElse
        (fun _ => w.committed.mandates.find? id') = some m ∧ m.id = id' := by
      cases hcopy : state.copies.find? fun m => m.id = id' with
      | none =>
        obtain ⟨row, hrow⟩ := h.stored id' (.inr List.mem_cons_self)
        exact ⟨row, hrow, Table.key_of_find? hrow⟩
      | some m => exact ⟨m, rfl, by simpa using List.find?_some hcopy⟩
    obtain ⟨m, hm, hid⟩ := hloaded
    rw [hm]
    obtain ⟨hwalk, hmarked⟩ := h.mark List.mem_cons_self hid
    exact .listing hwalk hmarked
  | listing h hmarked =>
    cases hcode
    exact .resumed (h.list hmarked)
  | @drained state h =>
    cases hcode
    exact .flushed h fun m hm => if_pos (List.mem_map_of_mem hm)
  | flushed _ _ => cases hcode
  | raised _ => cases hcode
  | refused _ => cases hcode
  | returned => cases hcode

theorem Delegating.ran {rows : Store → List Row} {run : Store → Effect Store Event MandatePoint}
    (h : Delegating delegation w p f) (hcode : mandateCode env p = .exec rows run)
    (hfree : ∀ k ∈ rows (f w.committed), w.Available .delegator k) :
    Delegating delegation (w.advance .delegator (rows (f w.committed)) (run (f w.committed)))
      (run (f w.committed)).next ((run (f w.committed)).write ∘ f) := by
  cases h with
  | asking =>
    cases hcode
    cases hparent : w.committed.mandates.find? delegation.parentId with
    | none =>
      simp only [id, hparent]
      exact .raised _
    | some parent =>
      by_cases hactive : parent.status = .active
      · simp only [id, hparent, if_pos hactive]
        have hkey : parent.id = delegation.parentId := Table.key_of_find? hparent
        refine .locked ⟨hkey, if_pos (List.mem_singleton_self _), parent, ?_, hactive⟩
        rw [hkey]
        exact hparent
      · simp only [id, hparent, if_neg hactive]
        exact .raised _
  | @locked parent h =>
    cases hcode
    cases hagent : w.committed.agents.find? delegation.payload.targetAgentId with
    | none =>
      simp only [id, hagent]
      exact .raised _
    | some agent =>
      cases hvalid : validateDelegationInvariants env parent delegation.payload with
      | error refusal =>
        simp only [id, hagent]
        exact .raised _
      | ok currency =>
        simp only [id, hagent]
        exact .checked ⟨h.key, h.lock, h.live⟩
  | @checked parent currency h =>
    cases hcode
    cases hrows : delegateRows delegation parent currency w.committed with
    | none =>
      simp only [id, hrows]
      exact .raised _
    | some s' =>
      simp only [id, hrows]
      exact .flushed ⟨h.key, if_pos List.mem_cons_self, h.live⟩ (delegateRows_free hrows)
  | flushed _ _ => cases hcode
  | raised _ => cases hcode
  | refused _ => cases hcode
  | returned => cases hcode

theorem status_ne_active (call : CascadeCall) : call.status ≠ .active := by
  unfold CascadeCall.status
  split
  · exact nofun
  · exact nofun

/-- A turn of the cascade. -/
theorem racing_cascader (h : Racing delegation cascade w)
    (hfired : Fired (fun _ => mandateCode env) w .cascader labels w') :
    Racing delegation cascade w' := by
  obtain ⟨hsound, hdelegating, hcascading⟩ := h
  have hne : Party.delegator ≠ .cascader := nofun
  have hother : w'.session .delegator = w.session .delegator := hfired.session_other hne
  have hlock : ∀ k, w.owner k = some .delegator → w'.owner k = some .delegator :=
    fun k hk => hfired.owner_kept hne hk
  have hquiet (hsame : w'.committed = w.committed) :
      Delegating delegation w' (w'.session .delegator).point (w'.session .delegator).writes := by
    rw [hother]
    exact hdelegating.kept hlock (fun _ _ => by rw [hsame]) fun _ hn => by rw [hsame]; exact hn
  cases hfired with
  | waited => exact ⟨hsound, hdelegating, hcascading⟩
  | ran hcode _ =>
    refine ⟨hsound, hquiet rfl, ?_⟩
    rw [advance_session_self]
    exact hcascading.ran hcode
  | grabbed hcode _ =>
    generalize (w.session .cascader).point = p at hcode hcascading
    generalize (w.session .cascader).writes = f at hcascading
    cases hcascading <;> cases hcode
  | rolledBack hcode =>
    refine ⟨hsound, hquiet rfl, ?_⟩
    rw [discard_session_self]
    generalize (w.session .cascader).point = p at hcode hcascading
    generalize (w.session .cascader).writes = f at hcascading
    cases hcascading <;> cases hcode
    exact .refused _
  | @committed next hcode =>
    generalize hp : (w.session .cascader).point = p at hcode hcascading
    generalize hf : (w.session .cascader).writes = f at hcascading
    cases hcascading with
    | @flushed state hwalk hrows =>
      cases hcode
      have hview : w.view .cascader = flushRows state w.committed := by rw [World.view, hf]
      have hrow := fun id => @writeCopies_row w.committed state.copies id
      refine ⟨?_, ?_, ?_⟩
      · show OrphanFree (w.view .cascader).mandates
        rw [hview]
        exact hsound.cascaded hwalk (status_ne_active cascade)
      · rw [hother]
        refine hdelegating.kept hlock (fun id hid => ?_) fun id hn => ?_
        · show (w.view .cascader).mandates.find? id = _
          rw [hview]
          -- the cascade has not marked a row that the delegation holds
          have hunmarked : ∀ m ∈ state.copies, m.id ≠ id := by
            rintro m hm rfl
            rw [hrows m hm] at hid
            cases hid
          cases hfind : w.committed.mandates.find? id with
          | none => exact (hrow id).1 hfind
          | some row =>
            obtain ⟨row', hrow', -, hsame, -⟩ := (hrow id).2 row hfind
            rw [← hsame hunmarked]
            exact hrow'
        · show (w.view .cascader).mandates.find? id = none
          rw [hview]
          exact (hrow id).1 hn
      · rw [publish_session_self]
        exact .returned
    | _ => cases hcode

/-- A turn of the delegation. -/
theorem racing_delegator (h : Racing delegation cascade w)
    (hclear : Clear delegation.parentId w .delegator)
    (hfired : Fired (fun _ => mandateCode env) w .delegator labels w') :
    Racing delegation cascade w' := by
  obtain ⟨hsound, hdelegating, hcascading⟩ := h
  have hne : Party.cascader ≠ .delegator := nofun
  have hother : w'.session .cascader = w.session .cascader := hfired.session_other hne
  have hlock : ∀ k, w.owner k = some .cascader → w'.owner k = some .cascader :=
    fun k hk => hfired.owner_kept hne hk
  have hquiet (hsame : w'.committed = w.committed) :
      Cascading cascade w' (w'.session .cascader).point (w'.session .cascader).writes := by
    rw [hother]
    exact hcascading.kept hlock hsame
  cases hfired with
  | waited => exact ⟨hsound, hdelegating, hcascading⟩
  | ran hcode hfree =>
    refine ⟨hsound, ?_, hquiet rfl⟩
    rw [advance_session_self]
    exact hdelegating.ran hcode hfree
  | grabbed hcode _ =>
    generalize (w.session .delegator).point = p at hcode hdelegating
    generalize (w.session .delegator).writes = f at hdelegating
    cases hdelegating <;> cases hcode
  | rolledBack hcode =>
    refine ⟨hsound, ?_, hquiet rfl⟩
    rw [discard_session_self]
    generalize (w.session .delegator).point = p at hcode hdelegating
    generalize (w.session .delegator).writes = f at hdelegating
    cases hdelegating <;> cases hcode
    exact .refused _
  | @committed next hcode =>
    generalize hp : (w.session .delegator).point = p at hcode hdelegating
    generalize hf : (w.session .delegator).writes = f at hdelegating
    cases hdelegating with
    | @flushed parent currency hheld hnew =>
      cases hcode
      obtain ⟨s', hrows, hinsert⟩ := @delegateRows_eq_some w.committed delegation parent currency
        hnew
      obtain ⟨row, hrow, hactive⟩ := hheld.live
      have hview : w.view .delegator = s' := by
        rw [World.view, hf]
        show (delegateRows delegation parent currency w.committed).getD w.committed = s'
        rw [hrows]
        rfl
      have hunlisted : parent.id ∉ listed (w.session .cascader).point := by
        rw [hheld.key]
        exact hclear (by rw [hp]; rfl)
      refine ⟨?_, ?_, ?_⟩
      · show OrphanFree (w.view .delegator).mandates
        rw [hview]
        exact hsound.delegated hrow hactive hinsert
      · rw [publish_session_self]
        exact .returned
      · rw [hother]
        have hinserted : (w.committed.mandates.modify parent.id
            (setAllocation parent delegation.payload.aggregateSpendLimit)).insert
              (delegation.child parent currency) =
            some (w.publish .delegator .returned).committed.mandates := by
          show _ = some (w.view .delegator).mandates
          rw [hview]
          exact hinsert
        exact hcascading.delegated hlock hheld.lock hunlisted hinserted
    | _ => cases hcode

end Turns

/-- **No ACTIVE mandate is left below a dead one** by a delegation and a cascade, however their turns
fall, if the delegation does not commit between the cascade's list of the parent's children and the
cascade's commit. -/
theorem delegation_not_past_revocation (env : Platform) (delegation : DelegateCall)
    (cascade : CascadeCall) (s : Store) (schedule : List Party) (hsound : OrphanFree s.mandates)
    (hclear : (interleaved fun _ => mandateCode env).Along (Clear delegation.parentId)
      (opening s (start delegation cascade)) schedule) :
    (interleaved fun _ => mandateCode env).Throughout (fun w => OrphanFree w.committed.mandates)
      (opening s (start delegation cascade)) schedule := by
  have hopen : Racing delegation cascade (opening s (start delegation cascade)) :=
    ⟨hsound, .asking, .asking⟩
  have hstep : ∀ (w : World Party Row Store MandatePoint) (i : Party), Racing delegation cascade w →
      Clear delegation.parentId w i →
      Racing delegation cascade ((interleaved fun _ => mandateCode env).next w i) := by
    intro w i hracing hside
    cases i with
    | delegator => exact racing_delegator hracing hside (fire_fired _ w .delegator)
    | cascader => exact racing_cascader hracing (fire_fired _ w .cascader)
  exact Machine.throughout_mono (fun _ h => Racing.sound h)
    (Machine.throughout_of_inv hstep hopen hclear)

/-- 400 of the mandate's 1000 for a child. -/
def handOut : DelegateCall where
  parentId := "mnd_1"
  payload :=
    { targetAgentId := "agt_1"
      currency := none
      maxAmountPerOp := 1000
      aggregateSpendLimit := 400
      reviewThresholdAmount := none
      allowedOperations := []
      validUntil := ⟨1000, some 0⟩
      max_pos := Sample.thousand_pos
      limit_pos := Sample.fourHundred_pos }
  id := ⟨"mnd_2", Sample.mandate_2_named⟩
  now := ⟨0, some 0⟩

def suspension : CascadeCall := ⟨false, "mnd_1", none⟩

theorem orphanFree_store : OrphanFree Sample.store.mandates := by
  intro m hm _ id p hlink
  rw [List.mem_singleton.mp hm] at hlink
  cases hlink

/-- The cascade reads the parent while the delegation holds it, and lists the child after. -/
theorem delegation_not_past_revocation_listed :
    (interleaved fun _ => mandateCode Sample.platform).Throughout
      (fun w => OrphanFree w.committed.mandates) (opening Sample.store (start handOut suspension))
      [.delegator, .cascader, .delegator, .cascader, .delegator, .delegator, .cascader, .cascader,
        .cascader, .cascader, .cascader] :=
  delegation_not_past_revocation _ _ _ _ _ orphanFree_store (by decide +kernel)

/-- The cascade lists the parent's children, the delegation runs from its lock to its commit, and the
cascade flushes: the child is ACTIVE below a SUSPENDED parent. -/
theorem orphaned_handOut :
    ¬ ∀ schedule : List Party,
      (∀ i, (((interleaved fun _ => mandateCode Sample.platform).run
        (opening Sample.store (start handOut suspension)) schedule).session i).point = .returned) →
      OrphanFree ((interleaved fun _ => mandateCode Sample.platform).run
        (opening Sample.store (start handOut suspension)) schedule).committed.mandates := by
  intro h
  have hfree := h [.cascader, .cascader, .cascader, .delegator, .delegator, .delegator, .delegator,
    .cascader, .cascader] fun i => by cases i <;> rfl
  generalize hw : ((interleaved fun _ => mandateCode Sample.platform).run
    (opening Sample.store (start handOut suspension)) [.cascader, .cascader, .cascader, .delegator,
      .delegator, .delegator, .delegator, .cascader, .cascader]).committed.mandates = mandates at hfree
  have hchild : (mandates.find? "mnd_2").map (fun m => (m.status, m.parentMandateId)) =
      some (.active, some "mnd_1") := by
    rw [← hw]
    decide +kernel
  have hparent : (mandates.find? "mnd_1").map (fun m => m.status) = some .suspended := by
    rw [← hw]
    decide +kernel
  obtain ⟨child, hc, hchild⟩ := Option.map_eq_some_iff.mp hchild
  obtain ⟨parent, hp, hparent⟩ := Option.map_eq_some_iff.mp hparent
  obtain ⟨hlive, hlink⟩ := Prod.mk.inj hchild
  exact (hfree child (Table.mem_of_find? hc) hlive "mnd_1" parent hlink hp).1 hparent

end MandatePlane.DelegationRace
