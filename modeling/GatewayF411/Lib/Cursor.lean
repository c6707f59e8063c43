import Mathlib.Data.Fintype.Card
import Mathlib.Logic.Relation

/-!
A cursor over a buffer: at each place it stops, moves on, or takes what stands there and moves
on. Which places it visits, and when it comes to an end having taken only pieces that are good
and do not overlap.
-/

set_option autoImplicit false

namespace Cursor

/-- What the cursor does at a place; `next` is the place it looks at then. -/
inductive Look where
  | stop
  | skip (next : Nat)
  | take (next : Nat)
  deriving DecidableEq, Repr

variable {look : Nat → Look} {p q : Nat}

/-- The places taken and the place at which the cursor stops. Each move uses up fuel; `none`
means that it ran out. -/
def scan (look : Nat → Look) : (fuel : Nat) → Nat → Option (List Nat × Nat)
  | 0, _ => none
  | fuel+1, p =>
    match look p with
    | .stop => some ([],p)
    | .skip next => scan look fuel next
    | .take next => (scan look fuel next).map fun r => (p :: r.1,r.2)

def Moves (look : Nat → Look) (p q : Nat) : Prop := look p = .skip q ∨ look p = .take q

def Visits (look : Nat → Look) : Nat → Nat → Prop := Relation.ReflTransGen (Moves look)

theorem scan_stop {fuel : Nat} (h : look p = .stop) : scan look (fuel+1) p = some ([],p) := by
  rw [scan,h]

theorem scan_skip {fuel : Nat} (h : look p = .skip q) : scan look (fuel+1) p = scan look fuel q := by
  rw [scan,h]

theorem scan_take {fuel : Nat} (h : look p = .take q) :
    scan look (fuel+1) p = (scan look fuel q).map fun r => (p :: r.1,r.2) := by
  rw [scan,h]

/-- A cursor that comes to an end has taken every place that it visits and takes at all. -/
theorem taken_of_visits {o q : Nat} (hv : Visits look p o) (ho : look o = .take q) {fuel : Nat}
    {r : List Nat × Nat} (h : scan look fuel p = some r) : o ∈ r.1 := by
  induction hv using Relation.ReflTransGen.head_induction_on generalizing fuel r with
  | refl =>
    cases fuel with
    | zero => cases h
    | succ fuel =>
      rw [scan_take ho] at h
      obtain ⟨r',_,rfl⟩ := Option.map_eq_some_iff.mp h
      exact List.mem_cons_self
  | head hmove _ ih =>
    cases fuel with
    | zero => cases h
    | succ fuel =>
      rcases hmove with hmove | hmove
      · rw [scan_skip hmove] at h
        exact ih h
      · rw [scan_take hmove] at h
        obtain ⟨r',hr',rfl⟩ := Option.map_eq_some_iff.mp h
        exact List.mem_cons_of_mem _ (ih hr')

section Forward
variable {good : Nat → Prop} {stop : Nat → Nat} {limit : Nat}
  (hskip : ∀ p q, look p = .skip q → p < q ∧ q ≤ limit)
  (htake : ∀ p q, look p = .take q → good p → p < q ∧ q ≤ limit ∧ stop p = q)
include hskip htake

/-- As long as every place taken is good the cursor only goes forward. -/
theorem scan_forward (hgood : ∀ o q, Visits look p o → look o = .take q → good o) :
    ∃ r, (∀ fuel, limit-p < fuel → scan look fuel p = some r) ∧ (∀ o ∈ r.1, p ≤ o ∧ good o) ∧
      r.1.Pairwise fun o o' => stop o ≤ o' := by
  induction hn : limit-p using Nat.strongRecOn generalizing p with
  | ind n ih =>
    have hfuel : ∀ fuel, n < fuel → ∃ m, fuel = m+1 := fun fuel h => ⟨fuel-1,by omega⟩
    cases hlook : look p with
    | stop =>
      refine ⟨([],p),fun fuel h => ?_,by simp,.nil⟩
      obtain ⟨m,rfl⟩ := hfuel fuel h
      exact scan_stop hlook
    | skip q =>
      have hq := hskip p q hlook
      obtain ⟨r,hr,hall,hpair⟩ := ih (limit-q) (by omega)
        (fun o q hv => hgood o q (.head (.inl hlook) hv)) rfl
      refine ⟨r,fun fuel h => ?_,fun o ho => ⟨by have := (hall o ho).1; omega,(hall o ho).2⟩,hpair⟩
      obtain ⟨m,rfl⟩ := hfuel fuel h
      rw [scan_skip hlook]
      exact hr m (by omega)
    | take q =>
      have hp := hgood p q .refl hlook
      have hq := htake p q hlook hp
      obtain ⟨r,hr,hall,hpair⟩ := ih (limit-q) (by omega)
        (fun o q hv => hgood o q (.head (.inr hlook) hv)) rfl
      refine ⟨(p :: r.1,r.2),fun fuel h => ?_,fun o ho => ?_,.cons (fun o ho => ?_) hpair⟩
      · obtain ⟨m,rfl⟩ := hfuel fuel h
        rw [scan_take hlook,hr m (by omega)]
        rfl
      · rcases List.mem_cons.mp ho with rfl | ho
        · exact ⟨Nat.le_refl _,hp⟩
        · exact ⟨by have := (hall o ho).1; omega,(hall o ho).2⟩
      · rw [hq.2.2]
        exact (hall o ho).1

/-- The cursor comes to an end, having taken good pieces that do not overlap, exactly when
every place that it visits and takes is good. -/
theorem scan_good_iff :
    (∃ r, (∀ fuel, limit-p < fuel → scan look fuel p = some r) ∧ (∀ o ∈ r.1, good o) ∧
      r.1.Pairwise fun o o' => stop o ≤ o') ↔
      ∀ o q, Visits look p o → look o = .take q → good o := by
  constructor
  · rintro ⟨r,hr,hall,_⟩ o q hv ho
    exact hall o (taken_of_visits hv ho (hr _ (Nat.lt_succ_self _)))
  · intro hgood
    obtain ⟨r,hr,hall,hpair⟩ := scan_forward hskip htake hgood
    exact ⟨r,hr,fun o ho => (hall o ho).2,hpair⟩

end Forward

section Endless

/-- The cursor stops behind `k` moves. -/
inductive StopsIn (look : Nat → Look) : Nat → Nat → Prop where
  | stop {p : Nat} : look p = .stop → StopsIn look p 0
  | move {p q k : Nat} : Moves look p q → StopsIn look q k → StopsIn look p (k+1)

theorem scan_eq_none_iff {fuel : Nat} : scan look fuel p = none ↔ ∀ k < fuel, ¬ StopsIn look p k := by
  induction fuel generalizing p with
  | zero => simp [scan]
  | succ fuel ih =>
    have hnext : ∀ q, Moves look p q →
        ((∀ k < fuel+1, ¬ StopsIn look p k) ↔ ∀ k < fuel, ¬ StopsIn look q k) := by
      intro q hmove
      constructor
      · exact fun h k hk hstop => h (k+1) (by omega) (.move hmove hstop)
      · intro h k hk hstop
        cases hstop with
        | stop hs => rcases hmove with hm | hm <;> simp [hm] at hs
        | @move _ q' k hm hrest =>
          have heq : q' = q := by
            rcases hm with hm | hm <;> rcases hmove with hmove | hmove <;> simp_all
          exact h k (by omega) (heq ▸ hrest)
    cases hlook : look p with
    | stop =>
      rw [scan_stop hlook]
      exact iff_of_false (by simp) fun h => h 0 (Nat.succ_pos _) (.stop hlook)
    | skip q => rw [scan_skip hlook,ih,hnext q (.inl hlook)]
    | take q => rw [scan_take hlook,Option.map_eq_none_iff,ih,hnext q (.inr hlook)]

theorem StopsIn.unique {k k' : Nat} (h : StopsIn look p k) (h' : StopsIn look p k') : k = k' := by
  induction h generalizing k' with
  | stop hs =>
    cases h' with
    | stop _ => rfl
    | move hm _ => rcases hm with hm | hm <;> simp [hs] at hm
  | move hmove _ ih =>
    cases h' with
    | stop hs => rcases hmove with hm | hm <;> simp [hs] at hm
    | move hmove' hrest =>
      rcases hmove with hm | hm <;> rcases hmove' with hm' | hm' <;> rw [hm] at hm' <;> cases hm' <;>
        rw [ih hrest]

variable {limit : Nat} (hmoves : ∀ p q, Moves look p q → q < limit)
include hmoves

theorem StopsIn.places {k : Nat} (hp : p < limit) (h : StopsIn look p k) :
    ∀ j ≤ k, ∃ q < limit, StopsIn look q j := by
  induction h with
  | stop hs =>
    intro j hj
    obtain rfl : j = 0 := by omega
    exact ⟨_,hp,.stop hs⟩
  | @move p q k hmove hrest ih =>
    intro j hj
    rcases Nat.lt_or_eq_of_le hj with hlt | rfl
    · exact ih (hmoves p q hmove) j (by omega)
    · exact ⟨p,hp,.move hmove hrest⟩

theorem StopsIn.lt_limit {k : Nat} (hp : p < limit) (h : StopsIn look p k) : k < limit := by
  have hplaces : ∀ j : Fin (k+1), ∃ q : Fin limit, StopsIn look q j := by
    intro j
    obtain ⟨q,hq,hstop⟩ := h.places hmoves hp j (Nat.le_of_lt_succ j.isLt)
    exact ⟨⟨q,hq⟩,hstop⟩
  choose place hplace using hplaces
  have hinj : Function.Injective place := by
    intro i j hij
    have hi := hplace i
    rw [hij] at hi
    exact Fin.ext (hi.unique (hplace j))
  have hcard := Fintype.card_le_of_injective place hinj
  rwa [Fintype.card_fin,Fintype.card_fin] at hcard

/-- A cursor that has not stopped behind as many moves as there are places never stops. -/
theorem scan_endless (hp : p < limit) (h : scan look limit p = none) (fuel : Nat) :
    scan look fuel p = none :=
  scan_eq_none_iff.mpr fun _ _ hstop =>
    scan_eq_none_iff.mp h _ (hstop.lt_limit hmoves hp) hstop

end Endless

end Cursor
