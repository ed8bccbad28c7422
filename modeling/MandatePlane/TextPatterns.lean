import Mathlib.Data.List.Basic
import Mathlib.Data.List.TakeWhile

/-!
# Words of a text and patterns over it

The words of a text are its longest parts without a separator.  More separators cut the
words into words.

A pattern gives the ways to match a text from its start, the preferred one first, each with
what it consumes and what it leaves.  Repetition prefers more to less, and a search takes the
first place of the text at which there is a match.
-/

namespace MandatePlane.TextPatterns

variable {α : Type*}

/-! ### Words -/

section Words

/-- Put a word before others, unless it is empty. -/
def flush (scanned : List α × List (List α)) : List (List α) :=
  if scanned.1.isEmpty then scanned.2 else scanned.1 :: scanned.2

/-- The word a text begins with, which may be empty, and the words after it. -/
def scan (p : α → Bool) : List α → List α × List (List α)
  | [] => ([], [])
  | a :: as => if p a then ([], flush (scan p as)) else (a :: (scan p as).1, (scan p as).2)

/-- The words of a text between its separators. -/
def words (p : α → Bool) (as : List α) : List (List α) := flush (scan p as)

variable {p q : α → Bool} {as : List α} {a : α}

theorem scan_fst (p : α → Bool) (as : List α) : (scan p as).1 = as.takeWhile fun a => !p a := by
  induction as with
  | nil => rfl
  | cons a as ih =>
    rw [scan, List.takeWhile_cons]
    cases hp : p a with
    | true => rfl
    | false => exact congrArg (a :: ·) ih

/-- A text that does not begin with a separator begins with a word. -/
theorem words_of_head (h : p a = false) :
    words p (a :: as) = ((a :: as).takeWhile fun a => !p a) :: (scan p (a :: as)).2 := by
  have hfst := scan_fst p (a :: as)
  have hcons : (scan p (a :: as)).1.isEmpty = false := by
    rw [hfst, List.takeWhile_cons, h]
    rfl
  rw [words, flush, hcons, if_neg Bool.false_ne_true, hfst]

theorem flush_append (w : List α) (ws vs : List (List α)) :
    flush (w, ws ++ vs) = flush (w, ws) ++ vs := by
  unfold flush
  split
  · rfl
  · rfl

theorem flatMap_flush (f : List α → List (List α)) (hnil : f [] = []) (w : List α)
    (ws : List (List α)) : (flush (w, ws)).flatMap f = f w ++ ws.flatMap f := by
  cases w with
  | nil =>
    rw [hnil]
    rfl
  | cons a w => rfl

/-- More separators cut the first word too. -/
theorem scan_or (p q : α → Bool) (as : List α) :
    scan (fun a => p a || q a) as =
      ((scan q (scan p as).1).1,
        (scan q (scan p as).1).2 ++ (scan p as).2.flatMap (words q)) := by
  induction as with
  | nil => rfl
  | cons a as ih =>
    rw [scan, ih, scan]
    cases hp : p a with
    | true =>
      rw [Bool.true_or, if_pos rfl, if_pos rfl, flush_append]
      rw [flatMap_flush (words q) rfl]
      rfl
    | false =>
      rw [Bool.false_or, if_neg Bool.false_ne_true, scan]
      cases hq : q a with
      | true =>
        rw [if_pos rfl, if_pos rfl, flush_append]
      | false => rfl

/-- **More separators cut the words into words.** -/
theorem words_or (p q : α → Bool) (as : List α) :
    words (fun a => p a || q a) as = (words p as).flatMap (words q) := by
  unfold words
  rw [scan_or, flush_append, flatMap_flush _ rfl]
  rfl

/-- Separators may be written as others. -/
theorem words_map (f : α → α) (hsep : ∀ a, p (f a) = q a) (hkeep : ∀ a, q a = false → f a = a)
    (as : List α) : words p (as.map f) = words q as := by
  have hscan : scan p (as.map f) = scan q as := by
    induction as with
    | nil => rfl
    | cons a as ih =>
      rw [List.map_cons, scan, scan, hsep, ih]
      cases hq : q a with
      | true => rfl
      | false => rw [hkeep a hq]
  unfold words
  rw [hscan]

end Words

/-! ### Patterns -/

/-- The ways to match a text from its start: what is consumed and what is left. -/
abbrev Pattern (α : Type*) := List α → List (List α × List α)

namespace Pattern

/-- One element of a class. -/
def one (p : α → Bool) : Pattern α
  | [] => []
  | a :: as => if p a then [([a], as)] else []

/-- Nothing. -/
def empty : Pattern α := fun as => [([], as)]

/-- One pattern after the other. -/
def seq (f g : Pattern α) : Pattern α := fun as =>
  (f as).flatMap fun x => (g x.2).map fun y => (x.1 ++ y.1, y.2)

/-- `f|g`. -/
def alt (f g : Pattern α) : Pattern α := fun as => f as ++ g as

/-- `f?`. -/
def opt (f : Pattern α) : Pattern α := alt f empty

/-- `f{n}`. -/
def times (f : Pattern α) : ℕ → Pattern α
  | 0 => empty
  | n + 1 => seq f (times f n)

/-- `f{0,n}`. -/
def upTo (f : Pattern α) : ℕ → Pattern α
  | 0 => empty
  | n + 1 => opt (seq f (upTo f n))

/-- `f*`, at most so many times. -/
def starFuel (f : Pattern α) : ℕ → Pattern α
  | 0 => empty
  | n + 1 => opt (seq f (starFuel f n))

/-- `f*` of a pattern that consumes something. -/
def star (f : Pattern α) : Pattern α := fun as => starFuel f as.length as

/-- `f(g)`: the matches of the group. -/
def captured (f g : Pattern α) : Pattern α := fun as => (f as).flatMap fun x => g x.2

/-- The preferred match. -/
def first (f : Pattern α) (as : List α) : Option (List α × List α) := (f as).head?

/-- The preferred match at the first place that has one. -/
def search (f : Pattern α) : List α → Option (List α × List α)
  | [] => first f []
  | a :: as => (first f (a :: as)).or (search f as)

theorem first_alt (f g : Pattern α) (as : List α) :
    first (alt f g) as = (first f as).or (first g as) := List.head?_append

theorem first_opt (f : Pattern α) (as : List α) :
    first (opt f) as = some ((first f as).getD ([], as)) := by
  unfold opt
  rw [first_alt]
  cases first f as with
  | none => rfl
  | some x => rfl

theorem first_seq_one (p : α → Bool) (g : Pattern α) (a : α) (as : List α) :
    first (seq (one p) g) (a :: as) =
      if p a then (first g as).map fun y => (a :: y.1, y.2) else none := by
  show ((if p a then [([a], as)] else []).flatMap
    fun x => (g x.2).map fun y => (x.1 ++ y.1, y.2)).head? = _
  split
  · rw [List.flatMap_singleton, List.head?_map]
    rfl
  · rfl

/-! ### What a pattern takes -/

/-- A pattern that always matches, and what it takes of a text. -/
def Takes (f : Pattern α) (k : List α → List α) : Prop :=
  ∀ as, first f as = some (k as, as.drop (k as).length)

variable {k l : List α → List α}

/-- A sequence begins with the preferred match of its first part, if its second part can go on. -/
theorem first_seq {f g : Pattern α} {as : List α} {x y : List α × List α}
    (hf : first f as = some x) (hg : first g x.2 = some y) :
    first (seq f g) as = some (x.1 ++ y.1, y.2) := by
  obtain ⟨xs, hxs⟩ := List.head?_eq_some_iff.mp hf
  obtain ⟨ys, hys⟩ := List.head?_eq_some_iff.mp hg
  unfold first seq
  rw [hxs, List.flatMap_cons, hys]
  rfl

theorem first_seq_none {f g : Pattern α} {as : List α} (hf : first f as = none) :
    first (seq f g) as = none := by
  have hnil : f as = [] := List.head?_eq_none_iff.mp hf
  unfold first seq
  rw [hnil]
  rfl

/-- Each part takes of what the part before it leaves. -/
theorem Takes.seq {f g : Pattern α} (hf : Takes f k) (hg : Takes g l) :
    Takes (seq f g) fun as => k as ++ l (as.drop (k as).length) := by
  intro as
  rw [first_seq (hf as) (hg _), List.drop_drop, List.length_append]

/-- A class so many times. -/
theorem first_times_one (p : α → Bool) (n : ℕ) (as : List α) :
    first (times (one p) n) as =
      if (as.take n).length = n ∧ (as.take n).all p then some (as.take n, as.drop n) else none := by
  induction n generalizing as with
  | zero => rfl
  | succ n ih =>
    rw [times]
    cases as with
    | nil => rfl
    | cons a as =>
      rw [first_seq_one, ih, List.take_succ_cons, List.drop_succ_cons, List.length_cons,
        List.all_cons]
      cases p a with
      | true =>
        simp only [if_true, Bool.true_and, Nat.add_right_cancel_iff]
        split
        · rfl
        · rfl
      | false => simp

/-- **A class is repeated as often as it goes.** -/
theorem takes_starFuel_one (p : α → Bool) {n : ℕ} {as : List α} (h : as.length ≤ n) :
    first (starFuel (one p) n) as =
      some (as.takeWhile p, as.drop (as.takeWhile p).length) := by
  induction n generalizing as with
  | zero =>
    rw [List.length_eq_zero_iff.mp (Nat.le_zero.mp h)]
    rfl
  | succ n ih =>
    rw [starFuel, first_opt]
    cases as with
    | nil => rfl
    | cons a as =>
      rw [first_seq_one, List.takeWhile_cons, ih (Nat.le_of_succ_le_succ h)]
      cases p a with
      | true => rfl
      | false => rfl

theorem takes_star_one (p : α → Bool) : Takes (star (one p)) (List.takeWhile p) := fun as =>
  takes_starFuel_one p (le_refl as.length)

theorem takes_upTo_one (p : α → Bool) (n : ℕ) :
    Takes (upTo (one p) n) fun as => (as.takeWhile p).take n := by
  induction n with
  | zero => exact fun as => rfl
  | succ n ih =>
    intro as
    dsimp only
    rw [upTo, first_opt]
    cases as with
    | nil => rfl
    | cons a as =>
      rw [first_seq_one, List.takeWhile_cons, ih]
      cases p a with
      | true => rfl
      | false => rfl

/-! ### Searching -/

/-- What a pattern consumes and leaves is the text, and it consumes no element of a class. -/
def Skips (d : α → Bool) (f : Pattern α) : Prop :=
  ∀ as, ∀ x ∈ f as, x.1 ++ x.2 = as ∧ ∀ a ∈ x.1, d a = false

variable {d p : α → Bool} {f g : Pattern α} {as : List α}

theorem skips_empty : Skips d (empty : Pattern α) := by
  intro as x hx
  have hx : x = ([], as) := List.mem_singleton.mp hx
  subst hx
  exact ⟨rfl, fun a ha => absurd ha List.not_mem_nil⟩

theorem skips_one (h : ∀ a, p a = true → d a = false) : Skips d (one p) := by
  intro as x hx
  cases as with
  | nil => cases hx
  | cons b as =>
    have hx : x ∈ if p b then [([b], as)] else [] := hx
    split at hx
    · rename_i hb
      rw [List.mem_singleton.mp hx]
      refine ⟨rfl, fun a ha => ?_⟩
      rw [List.mem_singleton.mp ha]
      exact h b hb
    · cases hx

theorem Skips.seq (hf : Skips d f) (hg : Skips d g) : Skips d (seq f g) := by
  intro as x hx
  obtain ⟨y, hy, hx⟩ := List.mem_flatMap.mp hx
  obtain ⟨z, hz, rfl⟩ := List.mem_map.mp hx
  obtain ⟨hconsumed, hskipped⟩ := hf as y hy
  obtain ⟨hconsumed', hskipped'⟩ := hg y.2 z hz
  refine ⟨?_, fun a ha => ?_⟩
  · rw [List.append_assoc, hconsumed', hconsumed]
  · exact (List.mem_append.mp ha).elim (hskipped a) (hskipped' a)

theorem Skips.alt (hf : Skips d f) (hg : Skips d g) : Skips d (alt f g) := fun as x hx =>
  (List.mem_append.mp hx).elim (hf as x) (hg as x)

theorem Skips.opt (hf : Skips d f) : Skips d (opt f) := hf.alt skips_empty

theorem Skips.starFuel (hf : Skips d f) (n : ℕ) : Skips d (starFuel f n) := by
  induction n with
  | zero => exact skips_empty
  | succ n ih => exact (hf.seq ih).opt

theorem Skips.star (hf : Skips d f) : Skips d (star f) := fun as => hf.starFuel as.length as

/-- An optional pattern may consume nothing. -/
theorem mem_opt (f : Pattern α) (as : List α) : ([], as) ∈ opt f as :=
  List.mem_append_right _ (List.mem_singleton_self _)

theorem mem_star (f : Pattern α) (as : List α) : ([], as) ∈ star f as := by
  unfold star
  cases as.length with
  | zero => exact List.mem_singleton_self _
  | succ n => exact mem_opt _ as

theorem mem_seq (hf : ([], as) ∈ f as) (hg : ([], as) ∈ g as) : ([], as) ∈ seq f g as :=
  List.mem_flatMap.mpr ⟨_, hf, List.mem_map.mpr ⟨_, hg, rfl⟩⟩

/-- The first element of lists of which those that are not empty are the same. -/
theorem head?_flatMap_of_same {β γ : Type*} {xs : List β} {k : β → List γ} {ys : List γ}
    (hsame : ∀ x ∈ xs, k x = [] ∨ k x = ys) :
    (xs.flatMap k).head? = none ∨ (xs.flatMap k).head? = ys.head? := by
  induction xs with
  | nil => exact .inl rfl
  | cons x xs ih =>
    have htail := ih fun x hx => hsame x (List.mem_cons_of_mem _ hx)
    rw [List.flatMap_cons, List.head?_append]
    rcases hsame x List.mem_cons_self with hnil | hys
    · rw [hnil]
      exact htail
    · rw [hys]
      cases ys with
      | nil => exact htail
      | cons y ys => exact .inr rfl

section Search

variable (hskips : Skips d f) (hnil : g [] = []) (hother : ∀ a as, d a = false → g (a :: as) = [])

include hskips hnil hother

/-- A group that begins with an element of the class begins with the first one. -/
theorem first_captured (as : List α) :
    first (captured f g) as = none ∨
      first (captured f g) as = first g (as.dropWhile fun a => !d a) := by
  refine head?_flatMap_of_same fun x hx => ?_
  obtain ⟨hconsumed, hskipped⟩ := hskips as x hx
  have hdrop : as.dropWhile (fun a => !d a) = x.2.dropWhile fun a => !d a := by
    rw [← hconsumed, List.dropWhile_append_of_pos]
    intro a ha
    rw [hskipped a ha]
    rfl
  cases hx2 : x.2 with
  | nil => exact .inl hnil
  | cons b bs =>
    cases hb : d b with
    | false => exact .inl (hother b bs hb)
    | true =>
      right
      rw [hdrop, hx2, List.dropWhile_cons_of_neg (by simp [hb])]

/-- **A search finds the group at the first element of the class**, whatever a pattern before it
skips. -/
theorem search_captured (hnothing : ∀ as, ([], as) ∈ f as)
    (hsome : ∀ a as, d a = true → g (a :: as) ≠ []) (as : List α) :
    search (captured f g) as = first g (as.dropWhile fun a => !d a) := by
  have hgroup : first g [] = none := by
    rw [first, hnil]
    rfl
  induction as with
  | nil =>
    rw [search, List.dropWhile_nil]
    rcases first_captured hskips hnil hother [] with hnone | hsame
    · rw [hnone, hgroup]
    · exact hsame
  | cons a as ih =>
    have hhere := first_captured hskips hnil hother (a :: as)
    rw [search]
    cases ha : d a with
    | true =>
      -- there is a match here, the one that skips nothing
      obtain ⟨y, hy⟩ := List.exists_mem_of_ne_nil _ (hsome a as ha)
      have hmem : y ∈ captured f g (a :: as) :=
        List.mem_flatMap.mpr ⟨_, hnothing (a :: as), hy⟩
      rcases hhere with hnone | hsame
      · rw [List.head?_eq_none_iff.mp hnone] at hmem
        cases hmem
      · rw [hsame, List.dropWhile_cons_of_neg (by simp [ha])]
        cases hfirst : first g (a :: as) with
        | none => exact absurd (List.head?_eq_none_iff.mp hfirst) (hsome a as ha)
        | some x => rfl
    | false =>
      rw [List.dropWhile_cons_of_pos (by simp [ha])] at hhere ⊢
      rw [ih]
      rcases hhere with hnone | hsame
      · rw [hnone]
        rfl
      · rw [hsame, Option.or_self]

end Search

end Pattern

end MandatePlane.TextPatterns
