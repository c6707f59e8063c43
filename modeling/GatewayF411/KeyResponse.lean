import Mathlib.Data.List.Nodup
import GatewayF411.KeyHold

/-!
`Key_Reponse_Callback` against the callbacks of the buttons. An iteration asks the five
semaphores one after the other and then acts once. The buttons run in another thread, so units
may be released between any two of its calls.
-/

set_option autoImplicit false

namespace GatewayF411
open Runs

def rtSemValueMax : Nat := 65535

/-- A semaphore that is full keeps its value. -/
def rtSemRelease (sems : KeySem → Nat) (k : KeySem) : KeySem → Nat := fun j =>
  if j = k ∧ sems k < rtSemValueMax then sems k+1 else sems j

/-- With no waiting time: whether there was a unit, and the values. -/
def rtSemTake (sems : KeySem → Nat) (k : KeySem) : Bool × (KeySem → Nat) :=
  if 0 < sems k then (true,fun j => if j = k then sems k-1 else sems j) else (false,sems)

inductive KeyAction where
  | factoryReset
  | startLearn
  | resetWiFi
  deriving DecidableEq, Repr

/-- The chain at the end of an iteration; `found` are the semaphores that gave a unit. -/
def keyReponse (found : List KeySem) : Option KeyAction :=
  if .k0 ∈ found then none
  else if .k1 ∈ found then none
  else if .k0K1Long ∈ found then some .factoryReset
  else if .k0Long ∈ found then some .startLearn
  else if .k1Long ∈ found then some .resetWiFi
  else none

def takeOrder : List KeySem := [.k0,.k0Long,.k1,.k1Long,.k0K1Long]

/-- Each semaphore is asked once, after the releases `before` it: those that gave a unit, and
the values. -/
def takeEach (before : KeySem → List KeySem) :
    List KeySem → (KeySem → Nat) → List KeySem × (KeySem → Nat)
  | [], sems => ([],sems)
  | k :: ks, sems =>
    let r := rtSemTake ((before k).foldl rtSemRelease sems) k
    let rest := takeEach before ks r.2
    (if r.1 then k :: rest.1 else rest.1,rest.2)

/-- The semaphores, with the units taken and the actions performed so far. -/
structure KeyThread where
  sems : KeySem → Nat
  taken : List KeySem
  performed : List KeyAction

inductive KeyEvent where
  | release (k : KeySem)
  | iteration (before : KeySem → List KeySem)

def keyStep (s : KeyThread) : KeyEvent → KeyThread
  | .release k => { s with sems := rtSemRelease s.sems k }
  | .iteration before =>
    let r := takeEach before takeOrder s.sems
    { sems := r.2, taken := s.taken ++ r.1, performed := s.performed ++ (keyReponse r.1).toList }

def KeyThread.init : KeyThread := ⟨fun _ => 0,[],[]⟩

def KeyAction.sem : KeyAction → KeySem
  | .factoryReset => .k0K1Long
  | .startLearn => .k0Long
  | .resetWiFi => .k1Long

def Answered (s : KeyThread) : Prop := ∀ a : KeyAction, s.performed.count a = s.taken.count a.sem

/-- `k` has a unit when its turn comes: from before the iteration, or released before that turn. -/
def PendingAt (before : KeySem → List KeySem) (sems : KeySem → Nat) (ks : List KeySem)
    (k : KeySem) : Prop :=
  0 < sems k ∨ ∃ j ∈ ks.take (ks.idxOf k+1), k ∈ before j

/-- An iteration that finds a unit of a long press finds no other unit. -/
def FindsAlone (s : KeyThread) : KeyEvent → Prop
  | .release _ => True
  | .iteration before => ∀ (a : KeyAction) (k : KeySem), PendingAt before s.sems takeOrder a.sem →
      PendingAt before s.sems takeOrder k → k = a.sem

theorem rtSemRelease_pos {sems : KeySem → Nat} {j k : KeySem} :
    0 < rtSemRelease sems k j ↔ 0 < sems j ∨ j = k := by
  by_cases hk : j = k
  · subst hk
    by_cases hmax : sems j < rtSemValueMax
    · simp [rtSemRelease,hmax]
    · have hpos : 0 < sems j := by
        unfold rtSemValueMax at hmax
        omega
      simp [rtSemRelease,hmax,hpos]
  · simp [rtSemRelease,hk]

theorem foldl_rtSemRelease_pos {sems : KeySem → Nat} {j : KeySem} (ks : List KeySem) :
    0 < ks.foldl rtSemRelease sems j ↔ 0 < sems j ∨ j ∈ ks := by
  induction ks generalizing sems with
  | nil => simp
  | cons k ks ih => rw [List.foldl_cons,ih,rtSemRelease_pos,List.mem_cons,or_assoc]

theorem rtSemTake_found {sems : KeySem → Nat} {k : KeySem} :
    (rtSemTake sems k).1 = true ↔ 0 < sems k := by
  unfold rtSemTake
  split <;> simp_all

theorem rtSemTake_other {sems : KeySem → Nat} {j k : KeySem} (h : j ≠ k) :
    (rtSemTake sems k).2 j = sems j := by
  unfold rtSemTake
  split
  · exact if_neg h
  · rfl

theorem mem_takeEach_cons {before : KeySem → List KeySem} {sems : KeySem → Nat} {j k : KeySem}
    {ks : List KeySem} :
    k ∈ (takeEach before (j :: ks) sems).1 ↔ (k = j ∧ (0 < sems j ∨ j ∈ before j)) ∨
      k ∈ (takeEach before ks (rtSemTake ((before j).foldl rtSemRelease sems) j).2).1 := by
  rw [takeEach,← foldl_rtSemRelease_pos,← rtSemTake_found]
  split
  · rename_i hfound
    simp [hfound]
  · rename_i hnone
    simp [hnone]

theorem takeEach_sublist (before : KeySem → List KeySem) (ks : List KeySem) (sems : KeySem → Nat) :
    (takeEach before ks sems).1.Sublist ks := by
  induction ks generalizing sems with
  | nil => exact .slnil
  | cons k ks ih =>
    rw [takeEach]
    split
    · exact (ih _).cons_cons k
    · exact (ih _).cons k

theorem mem_takeEach {before : KeySem → List KeySem} {sems : KeySem → Nat} {k : KeySem}
    {ks : List KeySem} (hnodup : ks.Nodup) (hk : k ∈ ks) :
    k ∈ (takeEach before ks sems).1 ↔ PendingAt before sems ks k := by
  induction ks generalizing sems with
  | nil => cases hk
  | cons j ks ih =>
    obtain ⟨hj,hnodup⟩ := List.nodup_cons.mp hnodup
    rw [mem_takeEach_cons]
    by_cases hkj : k = j
    · subst hkj
      have hrest : ∀ sems, k ∉ (takeEach before ks sems).1 := fun sems hmem =>
        hj ((takeEach_sublist before ks sems).subset hmem)
      simp [PendingAt,hrest]
    · have hmem : k ∈ ks := (List.mem_cons.mp hk).resolve_left hkj
      rw [ih hnodup hmem]
      unfold PendingAt
      rw [rtSemTake_other hkj,foldl_rtSemRelease_pos,List.idxOf_cons_ne _ (Ne.symm hkj),
        List.take_succ_cons]
      simp [hkj,or_assoc]

theorem keyReponse_sem {found : List KeySem} {a : KeyAction} (h : keyReponse found = some a) :
    a.sem ∈ found := by
  unfold keyReponse at h
  cases a <;> grind [KeyAction.sem]

theorem keyReponse_alone {found : List KeySem} {a : KeyAction} (ha : a.sem ∈ found)
    (hall : ∀ k ∈ found, k = a.sem) : keyReponse found = some a := by
  have hnone : ∀ k, k ≠ a.sem → k ∉ found := fun k hne hmem => hne (hall k hmem)
  unfold keyReponse
  cases a <;> simp_all [KeyAction.sem]

/-- The chain answers the units found exactly when a unit of a long press is found alone. -/
theorem keyReponse_answers_iff {found : List KeySem} (hnodup : found.Nodup) :
    (∀ a : KeyAction, (keyReponse found).toList.count a = found.count a.sem) ↔
      ∀ (a : KeyAction) (k : KeySem), a.sem ∈ found → k ∈ found → k = a.sem := by
  constructor
  · intro hall
    have hanswer : ∀ a : KeyAction, a.sem ∈ found → keyReponse found = some a := by
      intro a ha
      have hone := (hall a).trans (List.nodup_iff_count_eq_one.mp hnodup _ ha)
      rw [← Option.mem_toList,← List.count_pos_iff,hone]
      exact Nat.one_pos
    intro a k ha hk
    have hkey := hanswer a ha
    cases k with
    | k0 => simp [keyReponse,hk] at hkey
    | k1 => simp [keyReponse,hk] at hkey
    | k0Long =>
      have hlearn := hanswer .startLearn hk
      rw [hkey] at hlearn
      cases hlearn
      rfl
    | k1Long =>
      have hwifi := hanswer .resetWiFi hk
      rw [hkey] at hwifi
      cases hwifi
      rfl
    | k0K1Long =>
      have hreset := hanswer .factoryReset hk
      rw [hkey] at hreset
      cases hreset
      rfl
  · intro halone a
    by_cases ha : a.sem ∈ found
    · rw [keyReponse_alone ha fun k hk => halone a k ha hk,List.nodup_iff_count_eq_one.mp hnodup _ ha]
      exact List.count_singleton_self
    · rw [List.count_eq_zero_of_not_mem ha]
      refine List.count_eq_zero_of_not_mem fun hmem => ha ?_
      exact keyReponse_sem (Option.mem_toList.mp hmem)

theorem takeOrder_complete (k : KeySem) : k ∈ takeOrder := by
  cases k <;> decide

theorem mem_found (before : KeySem → List KeySem) (sems : KeySem → Nat) (k : KeySem) :
    k ∈ (takeEach before takeOrder sems).1 ↔ PendingAt before sems takeOrder k :=
  mem_takeEach (by decide) (takeOrder_complete k)

theorem answered_step_iff {s : KeyThread} (h : Answered s) (e : KeyEvent) :
    Answered (keyStep s e) ↔ FindsAlone s e := by
  cases e with
  | release k => exact iff_of_true h trivial
  | iteration before =>
    have hnodup : (takeEach before takeOrder s.sems).1.Nodup :=
      (takeEach_sublist before takeOrder s.sems).nodup (by decide)
    have hsplit : Answered (keyStep s (.iteration before)) ↔ ∀ a : KeyAction,
        (keyReponse (takeEach before takeOrder s.sems).1).toList.count a =
          (takeEach before takeOrder s.sems).1.count a.sem := by
      refine forall_congr' fun a => ?_
      simp only [keyStep,List.count_append,h a,Nat.add_left_cancel_iff]
    rw [hsplit,keyReponse_answers_iff hnodup]
    simp only [mem_found]
    rfl

/-- In every interleaving each unit taken is answered by its action exactly when no iteration
finds a unit of a long press together with another unit. -/
theorem key_response_iff (events : List KeyEvent) :
    AllCuts keyStep Answered .init events ↔ Along keyStep FindsAlone .init events :=
  allCuts_iff_along (fun _ e h => answered_step_iff h e) fun _ => rfl

/-- A short press of K1 while the long press of K0 waits for an answer. -/
def twoPending : List KeyEvent := [.release .k0Long,.release .k1,.iteration fun _ => []]

theorem key_response_counterexample :
    ¬ ∀ events : List KeyEvent, AllCuts keyStep Answered .init events := by
  intro hall
  have hlearn := hall twoPending twoPending (List.prefix_refl _) .startLearn
  exact absurd hlearn (by decide)

end GatewayF411
