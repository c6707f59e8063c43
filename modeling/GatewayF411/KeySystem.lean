import GatewayF411.KeyPins

set_option autoImplicit false

namespace GatewayF411
open Runs

structure KeySystem where
  pins : KeyPins
  thread : KeyThread
  past : List Sample

/-- The button task may run before each semaphore that an iteration asks. -/
inductive PinEvent where
  | sample (x : Sample)
  | iteration (before : KeySem → List Sample)

def releasedBefore (before : KeySem → List Sample) :
    List KeySem → KeyPins → (KeySem → List KeySem) × KeyPins
  | [], s => (fun _ => [],s)
  | k :: ks, s =>
    let rest := releasedBefore before ks ((before k).foldl pinsStep s)
    (fun j => if j = k then pinsReleases s (before k) else rest.1 j,rest.2)

def systemStep (s : KeySystem) : PinEvent → KeySystem
  | .sample x =>
    { pins := pinsStep s.pins x
      thread := (buttonProcess s.pins x).1.foldl (fun t k => keyStep t (.release k)) s.thread
      past := x :: s.past }
  | .iteration before =>
    let r := releasedBefore before takeOrder s.pins
    { pins := r.2
      thread := keyStep s.thread (.iteration r.1)
      past := (takeOrder.flatMap before).reverse ++ s.past }

def KeySystem.init : KeySystem := ⟨buttonInit,.init,[]⟩

/-- The units that were released and can have been taken, of one semaphore. -/
def Owed (t : KeyThread) (units : List KeySem) : Prop :=
  ∀ k, t.sems k+t.taken.count k ≤ units.count k

theorem rtSemRelease_le (sems : KeySem → Nat) (j k : KeySem) :
    rtSemRelease sems k j ≤ sems j+[k].count j := by
  unfold rtSemRelease
  by_cases hk : j = k
  · subst hk
    split <;> simp
  · simp [hk]

theorem foldl_rtSemRelease_le (sems : KeySem → Nat) (ks : List KeySem) (j : KeySem) :
    ks.foldl rtSemRelease sems j ≤ sems j+ks.count j := by
  induction ks generalizing sems with
  | nil => exact Nat.le_refl _
  | cons k ks ih =>
    have hone := rtSemRelease_le sems j k
    have hrest := ih (rtSemRelease sems k)
    rw [List.foldl_cons,← List.singleton_append,List.count_append]
    omega

theorem rtSemTake_balance (sems : KeySem → Nat) (j k : KeySem) :
    (rtSemTake sems k).2 j+(if (rtSemTake sems k).1 then [k] else []).count j = sems j := by
  unfold rtSemTake
  by_cases hpos : 0 < sems k
  · by_cases hj : j = k
    · subst hj
      simp [hpos]
      omega
    · have hne : ¬ k = j := fun heq => hj heq.symm
      simp [hpos,hj,hne]
  · simp [hpos]

/-- An iteration takes no more than was there and what is released while it asks. -/
theorem takeEach_le (before : KeySem → List KeySem) (ks : List KeySem) (sems : KeySem → Nat)
    (j : KeySem) : (takeEach before ks sems).2 j+(takeEach before ks sems).1.count j ≤
      sems j+(ks.flatMap before).count j := by
  induction ks generalizing sems with
  | nil => exact Nat.le_refl _
  | cons k ks ih =>
    have hreleased := foldl_rtSemRelease_le sems (before k) j
    have htake := rtSemTake_balance ((before k).foldl rtSemRelease sems) j k
    have hrest := ih (rtSemTake ((before k).foldl rtSemRelease sems) k).2
    rw [List.flatMap_cons,List.count_append]
    have hsplit : (takeEach before (k :: ks) sems).1 =
        (if (rtSemTake ((before k).foldl rtSemRelease sems) k).1 then [k] else []) ++
          (takeEach before ks (rtSemTake ((before k).foldl rtSemRelease sems) k).2).1 := by
      rw [takeEach]
      split <;> rfl
    rw [hsplit,List.count_append,takeEach]
    dsimp only
    omega

theorem releasedBefore_snd (before : KeySem → List Sample) (ks : List KeySem) (s : KeyPins) :
    (releasedBefore before ks s).2 = (ks.flatMap before).foldl pinsStep s := by
  induction ks generalizing s with
  | nil => rfl
  | cons k ks ih => rw [List.flatMap_cons,List.foldl_append,releasedBefore,ih]

theorem releasedBefore_flatMap (before : KeySem → List Sample) {ks : List KeySem} (hks : ks.Nodup)
    (s : KeyPins) :
    ks.flatMap (releasedBefore before ks s).1 = pinsReleases s (ks.flatMap before) := by
  induction ks generalizing s with
  | nil => rfl
  | cons k ks ih =>
    obtain ⟨hk,hks⟩ := List.nodup_cons.mp hks
    have hrest : ks.flatMap (releasedBefore before (k :: ks) s).1 =
        ks.flatMap (releasedBefore before ks ((before k).foldl pinsStep s)).1 := by
      refine List.flatMap_congr fun j hj => ?_
      have hne : j ≠ k := fun heq => hk (heq ▸ hj)
      exact if_neg hne
    have hfirst : (releasedBefore before (k :: ks) s).1 k = pinsReleases s (before k) := if_pos rfl
    rw [List.flatMap_cons,hrest,ih hks,List.flatMap_cons,hfirst]
    exact (trace_append _ _ s (before k) _).symm

theorem Owed.releases {t : KeyThread} {units : List KeySem} (h : Owed t units) (ks : List KeySem) :
    Owed (ks.foldl (fun t k => keyStep t (.release k)) t) (units ++ ks) ∧
      (ks.foldl (fun t k => keyStep t (.release k)) t).performed = t.performed ∧
      (ks.foldl (fun t k => keyStep t (.release k)) t).taken = t.taken := by
  induction ks generalizing t units with
  | nil => exact ⟨by rw [List.append_nil]; exact h,rfl,rfl⟩
  | cons k ks ih =>
    have hone : Owed (keyStep t (.release k)) (units ++ [k]) := by
      intro j
      have hle := rtSemRelease_le t.sems j k
      have howed := h j
      rw [List.count_append]
      change rtSemRelease t.sems k j+t.taken.count j ≤ _
      omega
    obtain ⟨hend,hperformed,htaken⟩ := ih hone
    rw [List.append_assoc] at hend
    exact ⟨hend,hperformed,htaken⟩

theorem Owed.iteration {t : KeyThread} {units : List KeySem} (h : Owed t units)
    (before : KeySem → List KeySem) :
    Owed (keyStep t (.iteration before)) (units ++ takeOrder.flatMap before) := by
  intro j
  have hle := takeEach_le before takeOrder t.sems j
  have howed := h j
  simp only [keyStep,List.count_append]
  omega

def Taken (t : KeyThread) : Prop := ∀ a : KeyAction, t.performed.count a ≤ t.taken.count a.sem

theorem Taken.iteration {t : KeyThread} (h : Taken t) (before : KeySem → List KeySem) :
    Taken (keyStep t (.iteration before)) := by
  intro a
  have hone : (keyReponse (takeEach before takeOrder t.sems).1).toList.count a ≤
      (takeEach before takeOrder t.sems).1.count a.sem := by
    cases hresp : keyReponse (takeEach before takeOrder t.sems).1 with
    | none => exact Nat.zero_le _
    | some b =>
      by_cases hb : b = a
      · subst hb
        simp only [Option.toList_some,List.count_singleton_self]
        exact List.count_pos_iff.mpr (keyReponse_sem hresp)
      · simp [hb]
  have htaken := h a
  simp only [keyStep,List.count_append]
  omega

structure KeySystemInv (units : List KeySem) (s : KeySystem) : Prop where
  holding : ∃ l0 l1, Holding s.past units l0 l1 s.pins
  owed : Owed s.thread units
  taken : Taken s.thread

theorem KeySystemInv.step {units : List KeySem} {s : KeySystem} (h : KeySystemInv units s)
    (e : PinEvent) : ∃ units', KeySystemInv units' (systemStep s e) := by
  obtain ⟨l0,l1,hholding⟩ := h.holding
  cases e with
  | sample x =>
    obtain ⟨howed,hperformed,htaken⟩ := h.owed.releases (buttonProcess s.pins x).1
    refine ⟨_,hholding.step x,howed,fun a => ?_⟩
    simp only [systemStep,hperformed,htaken]
    exact h.taken a
  | iteration before =>
    have hrun := hholding.run (takeOrder.flatMap before)
    rw [← releasedBefore_flatMap before (by decide),← releasedBefore_snd] at hrun
    exact ⟨_,hrun,h.owed.iteration _,h.taken.iteration _⟩

theorem KeySystemInv.init : KeySystemInv [] .init where
  holding := ⟨0,0,Holding.start⟩
  owed := fun _ => Nat.le_refl 0
  taken := fun _ => Nat.le_refl 0

/-- Over every interleaving of the samples and the iterations, an action is performed only after
its keys have been pressed for long enough, and each press of a key that lasts 176 samples pays
for one action. -/
theorem key_actions_held (events : List PinEvent) :
    let s := events.foldl systemStep .init
    (∀ a ∈ s.thread.performed, Earned s.past a.sem) ∧
      s.thread.performed.count .startLearn ≤ longHolds (s.past.map Sample.k0) ∧
      s.thread.performed.count .factoryReset+s.thread.performed.count .resetWiFi ≤
        longHolds (s.past.map Sample.k1) := by
  obtain ⟨units,hinv⟩ := foldl_inv (fun s => ∃ units, KeySystemInv units s)
    (fun s e ⟨_,h⟩ => h.step e) events ⟨[],KeySystemInv.init⟩
  obtain ⟨l0,l1,hholding⟩ := hinv.holding
  have hunits : ∀ a : KeyAction, (events.foldl systemStep .init).thread.performed.count a ≤
      units.count a.sem := by
    intro a
    have htaken := hinv.taken a
    have howed := hinv.owed a.sem
    omega
  refine ⟨fun a ha => hholding.earned _ ?_,?_,?_⟩
  · have hpos := List.count_pos_iff.mpr ha
    exact List.count_pos_iff.mp (Nat.lt_of_lt_of_le hpos (hunits a))
  · have hlearn := hunits .startLearn
    have hholds := hholding.holds0
    simp only [KeyAction.sem] at hlearn
    omega
  · have hreset := hunits .factoryReset
    have hwifi := hunits .resetWiFi
    have hholds := hholding.holds1
    simp only [KeyAction.sem] at hreset hwifi
    omega

end GatewayF411
