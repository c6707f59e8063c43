import GatewayF411.Button
import GatewayF411.KeyResponse

set_option autoImplicit false

namespace GatewayF411
open Runs

structure Sample where
  k0 : PinLevel
  k1 : PinLevel
  deriving DecidableEq, Repr

structure KeyPins where
  key0 : Button
  key1 : Button
  keys : Keys
  deriving DecidableEq, Repr

def buttonInit : KeyPins := ⟨buttonCreate .low,buttonCreate .low,⟨0,0,false,false,false⟩⟩

def key0Callback (s : Keys) : ButtonEvent → List KeySem × Keys
  | .dowm => ([.k0],s)
  | .long => k0LongSemRelease s
  | .longFree => k0LongFreeRelease s
  | _ => ([],s)

def key1Callback (s : Keys) : ButtonEvent → List KeySem × Keys
  | .dowm => ([.k1],s)
  | .long => k1LongSemRelease s
  | .longFree => k1LongFreeRelease s
  | _ => ([],s)

def callEach (f : Keys → ButtonEvent → List KeySem × Keys) : Keys → List ButtonEvent → List KeySem × Keys
  | s, [] => ([],s)
  | s, e :: es =>
    let rest := callEach f (f s e).2 es
    ((f s e).1 ++ rest.1,rest.2)

/-- `Button_Process`: Key1 was added to the list last, so it comes first. -/
def buttonProcess (s : KeyPins) (x : Sample) : List KeySem × KeyPins :=
  let p1 := buttonCycleProcess s.key1 x.k1
  let c1 := callEach key1Callback s.keys p1.1
  let p0 := buttonCycleProcess s.key0 x.k0
  let c0 := callEach key0Callback c1.2 p0.1
  (c1.1 ++ c0.1,⟨p0.2,p1.2,c0.2⟩)

def pinsStep (s : KeyPins) (x : Sample) : KeyPins := (buttonProcess s x).2

def pinsReleases (s : KeyPins) (xs : List Sample) : List KeySem :=
  trace (fun s x => (buttonProcess s x).1) pinsStep s xs

/-- How many samples the pin has been low for, the newest sample first. -/
def heldFor : List PinLevel → Nat
  | [] => 0
  | .low :: ls => heldFor ls+1
  | .high :: _ => 0

/-- The press that lasts has had `held` samples and `longs` callbacks of a long press. -/
def Tracked (held longs : Nat) (b : Button) : Prop :=
  (held = 0 ∧ longs = 0 ∧ ∃ r, AtRest r b) ∨ (0 < held ∧ ∃ r, Pressed r held b ∧ longs = r.longs held)

theorem Rest.longs_le_one (r : Rest) (n : Nat) : r.longs (n+1) = r.longs n ∨ r.longs (n+1) = r.longs n+1 := by
  by_cases hshort : r.carried+n+1 < buttonLongTime
  · have hlongs := Rest.longs_short hshort
    exact .inl (hlongs.2.trans hlongs.1.symm)
  · have hlongs := Rest.longs_succ (Nat.le_of_not_lt hshort)
    split at hlongs
    · exact .inr hlongs
    · exact .inl hlongs

theorem Tracked.low {held longs : Nat} {b : Button} (h : Tracked held longs b) :
    ((buttonCycleProcess b .low).1 = [] ∧ Tracked (held+1) longs (buttonCycleProcess b .low).2) ∨
    ((buttonCycleProcess b .low).1 = [.long] ∧ Tracked (held+1) (longs+1) (buttonCycleProcess b .low).2) := by
  have hpressed : ∃ r, Pressed r held (buttonDebounce .low b) ∧ longs = r.longs held := by
    rcases h with ⟨rfl,rfl,r,hr⟩ | ⟨_,r,hr,hlongs⟩
    · exact ⟨r,hr.pressed,r.longs_zero.symm⟩
    · exact ⟨r,hr.buttonDebounce_low.symm ▸ hr,hlongs⟩
  obtain ⟨r,hr,rfl⟩ := hpressed
  obtain ⟨hcalls,hnext⟩ := buttonCycleProcess_low hr
  rw [hcalls]
  rcases r.longs_le_one held with hsame | hmore
  · rw [hsame,Nat.sub_self]
    exact .inl ⟨rfl,.inr ⟨Nat.succ_pos _,r,hnext,hsame.symm⟩⟩
  · rw [hmore,Nat.add_sub_cancel_left]
    exact .inr ⟨rfl,.inr ⟨Nat.succ_pos _,r,hnext,hmore.symm⟩⟩

theorem Tracked.high {held longs : Nat} {b : Button} (h : Tracked held longs b) :
    Tracked 0 0 (buttonCycleProcess b .high).2 ∧
      (longs = 0 ∧ ((buttonCycleProcess b .high).1 = [] ∨ (buttonCycleProcess b .high).1 = [.double]) ∨
        longs = 0 ∧ 0 < held ∧ (buttonCycleProcess b .high).1 = [.dowm] ∨
        (buttonCycleProcess b .high).1 = [.longFree]) := by
  rcases h with ⟨rfl,rfl,r,hr⟩ | ⟨hpos,r,hr,rfl⟩
  · obtain ⟨hcalls,hnext⟩ := hr.wait
    exact ⟨.inl ⟨rfl,rfl,r.wait,hnext⟩,.inl ⟨rfl,.inl hcalls⟩⟩
  · obtain ⟨hcalls,hnext⟩ := hr.release hpos
    refine ⟨.inl ⟨rfl,rfl,r.next held 0,hnext⟩,?_⟩
    unfold Rest.press at hcalls
    by_cases hlong : 0 < r.longs held
    · rw [if_pos hlong] at hcalls
      exact .inr (.inr (List.append_cancel_left hcalls).symm)
    · have hnone : r.longs held = 0 := Nat.eq_zero_of_not_pos hlong
      rw [if_neg hlong,hnone,List.replicate_zero,List.nil_append] at hcalls
      split at hcalls
      · exact .inl ⟨hnone,.inr hcalls.symm⟩
      · exact .inr (.inl ⟨hnone,hpos,hcalls.symm⟩)

theorem Tracked.held_ge {held longs : Nat} {b : Button} (h : Tracked held longs b) :
    buttonLongCycle*longs ≤ held+(buttonLongCycle-1) := by
  rcases h with ⟨rfl,rfl,_⟩ | ⟨_,r,_,rfl⟩
  · exact Nat.zero_le _
  · have hresidue := r.residue_lt
    unfold Rest.longs Rest.longTicks buttonLongCycle at *
    omega

theorem Tracked.held_lt {held longs : Nat} {b : Button} (h : Tracked held longs b) :
    held < buttonLongTime-1+buttonLongCycle*(longs+1) := by
  rcases h with ⟨rfl,rfl,_⟩ | ⟨_,r,_,rfl⟩
  · decide
  · unfold Rest.longs Rest.longTicks buttonLongCycle
    omega

/-- The counter and the flag of a key, against the callbacks of the press that lasts. -/
def Counted (longs count : Nat) (once : Bool) : Prop := count = min 7 longs ∧ (once = true → 7 ≤ longs)

/-- The units that a sample of Key1 releases, with the flag that it leaves. -/
inductive Key1Released (s : Keys) (held longs : Nat) (l : PinLevel) (once : Bool) : List KeySem → Prop where
  | none : (l = .low → once = s.k1OnceFlag) → Key1Released s held longs l once []
  | click : 0 < held → l = .high → Key1Released s held longs l once [.k1]
  | alone : s.k1OnceFlag = false → once = true → l = .low → 8 ≤ longs → s.k0LongSemCounter ≤ 5 →
      Key1Released s held longs l once [.k1Long]
  | both : s.k1OnceFlag = false → once = true → l = .low → 8 ≤ longs → 6 ≤ s.k0LongSemCounter →
      Key1Released s held longs l once [.k0K1Long]

inductive Key0Released (s : Keys) (held longs : Nat) (l : PinLevel) (once : Bool) : List KeySem → Prop where
  | none : (l = .low → once = s.k0OnceFlag) → Key0Released s held longs l once []
  | click : 0 < held → l = .high → Key0Released s held longs l once [.k0]
  | alone : s.k0OnceFlag = false → once = true → l = .low → 8 ≤ longs → s.k1LongSemCounter = 0 →
      Key0Released s held longs l once [.k0Long]

theorem Tracked.key1 {ls : List PinLevel} {longs : Nat} {b : Button} (h : Tracked (heldFor ls) longs b)
    {s : Keys} (hs : Counted longs s.k1LongSemCounter s.k1OnceFlag) (l : PinLevel) :
    ∃ (longs' count : Nat) (once : Bool),
      Tracked (heldFor (l :: ls)) longs' (buttonCycleProcess b l).2 ∧ Counted longs' count once ∧
      (callEach key1Callback s (buttonCycleProcess b l).1).2 =
        { s with k1LongSemCounter := count, k1OnceFlag := once } ∧
      Key1Released s (heldFor ls) longs' l once (callEach key1Callback s (buttonCycleProcess b l).1).1 := by
  obtain ⟨hcount,honce⟩ := hs
  cases l with
  | low =>
    rcases h.low with ⟨hcalls,hnext⟩ | ⟨hcalls,hnext⟩
    · rw [hcalls]
      exact ⟨longs,_,_,hnext,⟨hcount,honce⟩,rfl,.none fun _ => rfl⟩
    · have heq : callEach key1Callback s [.long] = k1LongSemRelease s := by simp [callEach,key1Callback]
      rw [hcalls,heq,k1LongSemRelease]
      refine ⟨longs+1,?_⟩
      by_cases hfresh : s.k1OnceFlag = false
      · rw [if_pos hfresh]
        by_cases hlong : 6 < s.k1LongSemCounter
        · have hseven : 7 ≤ longs := by omega
          have hcount' : s.k1LongSemCounter = min 7 (longs+1) := by omega
          have height := Nat.succ_le_succ hseven
          rw [if_pos hlong]
          refine ⟨s.k1LongSemCounter,true,hnext,⟨hcount',fun _ => Nat.le_succ_of_le hseven⟩,?_⟩
          by_cases hother : 5 < s.k0LongSemCounter
          · rw [if_pos hother]
            exact ⟨rfl,.both hfresh rfl rfl height hother⟩
          · rw [if_neg hother]
            exact ⟨rfl,.alone hfresh rfl rfl height (Nat.le_of_not_lt hother)⟩
        · have hcount' : s.k1LongSemCounter+1 = min 7 (longs+1) := by omega
          rw [if_neg hlong]
          exact ⟨_,_,hnext,⟨hcount',fun hk => Nat.le_succ_of_le (honce hk)⟩,rfl,.none fun _ => rfl⟩
      · have hseven : 7 ≤ longs := honce ((Bool.not_eq_false _).mp hfresh)
        have hcount' : s.k1LongSemCounter = min 7 (longs+1) := by omega
        rw [if_neg hfresh]
        exact ⟨_,_,hnext,⟨hcount',fun _ => Nat.le_succ_of_le hseven⟩,rfl,.none fun _ => rfl⟩
  | high =>
    obtain ⟨hnext,⟨rfl,hcalls | hcalls⟩ | ⟨rfl,hheld,hcalls⟩ | hcalls⟩ := h.high
    · rw [hcalls]
      exact ⟨0,_,_,hnext,⟨hcount,honce⟩,rfl,.none (by rintro ⟨⟩)⟩
    · rw [hcalls]
      exact ⟨0,_,_,hnext,⟨hcount,honce⟩,rfl,.none (by rintro ⟨⟩)⟩
    · rw [hcalls]
      exact ⟨0,_,_,hnext,⟨hcount,honce⟩,rfl,.click hheld rfl⟩
    · rw [hcalls]
      exact ⟨0,_,_,hnext,⟨rfl,by rintro ⟨⟩⟩,rfl,.none (by rintro ⟨⟩)⟩

theorem Tracked.key0 {ls : List PinLevel} {longs : Nat} {b : Button} (h : Tracked (heldFor ls) longs b)
    {s : Keys} (hs : Counted longs s.k0LongSemCounter s.k0OnceFlag) (l : PinLevel) :
    ∃ (longs' count : Nat) (once both : Bool),
      Tracked (heldFor (l :: ls)) longs' (buttonCycleProcess b l).2 ∧ Counted longs' count once ∧
      (callEach key0Callback s (buttonCycleProcess b l).1).2 =
        { s with k0LongSemCounter := count, k0OnceFlag := once, k0K1OnceFlag := both } ∧
      Key0Released s (heldFor ls) longs' l once (callEach key0Callback s (buttonCycleProcess b l).1).1 := by
  obtain ⟨hcount,honce⟩ := hs
  cases l with
  | low =>
    rcases h.low with ⟨hcalls,hnext⟩ | ⟨hcalls,hnext⟩
    · rw [hcalls]
      exact ⟨longs,_,_,_,hnext,⟨hcount,honce⟩,rfl,.none fun _ => rfl⟩
    · have heq : callEach key0Callback s [.long] = k0LongSemRelease s := by simp [callEach,key0Callback]
      rw [hcalls,heq,k0LongSemRelease]
      refine ⟨longs+1,?_⟩
      by_cases hfresh : s.k0OnceFlag = false
      · rw [if_pos hfresh]
        by_cases hlong : 6 < s.k0LongSemCounter
        · have hseven : 7 ≤ longs := by omega
          have hcount' : s.k0LongSemCounter = min 7 (longs+1) := by omega
          rw [if_pos hlong]
          by_cases hother : s.k1LongSemCounter = 0
          · rw [if_pos hother]
            exact ⟨s.k0LongSemCounter,true,_,hnext,⟨hcount',fun _ => Nat.le_succ_of_le hseven⟩,rfl,
              .alone hfresh rfl rfl (Nat.succ_le_succ hseven) hother⟩
          · rw [if_neg hother]
            exact ⟨_,_,_,hnext,⟨hcount',fun hk => Nat.le_succ_of_le (honce hk)⟩,rfl,.none fun _ => rfl⟩
        · have hcount' : s.k0LongSemCounter+1 = min 7 (longs+1) := by omega
          rw [if_neg hlong]
          exact ⟨_,_,_,hnext,⟨hcount',fun hk => Nat.le_succ_of_le (honce hk)⟩,rfl,.none fun _ => rfl⟩
      · have hseven : 7 ≤ longs := honce ((Bool.not_eq_false _).mp hfresh)
        have hcount' : s.k0LongSemCounter = min 7 (longs+1) := by omega
        rw [if_neg hfresh]
        exact ⟨_,_,_,hnext,⟨hcount',fun _ => Nat.le_succ_of_le hseven⟩,rfl,.none fun _ => rfl⟩
  | high =>
    obtain ⟨hnext,⟨rfl,hcalls | hcalls⟩ | ⟨rfl,hheld,hcalls⟩ | hcalls⟩ := h.high
    · rw [hcalls]
      exact ⟨0,_,_,_,hnext,⟨hcount,honce⟩,rfl,.none (by rintro ⟨⟩)⟩
    · rw [hcalls]
      exact ⟨0,_,_,_,hnext,⟨hcount,honce⟩,rfl,.none (by rintro ⟨⟩)⟩
    · rw [hcalls]
      exact ⟨0,_,_,_,hnext,⟨hcount,honce⟩,rfl,.click hheld rfl⟩
    · rw [hcalls]
      exact ⟨0,_,_,_,hnext,⟨rfl,by rintro ⟨⟩⟩,rfl,.none (by rintro ⟨⟩)⟩

/-- What a unit says about the pins at the sample that released it: the eighth callback of a long
press needs 176 samples, the sixth needs 126. -/
def Earns (past : List Sample) (x : Sample) : KeySem → Prop
  | .k0 => 0 < heldFor (past.map Sample.k0) ∧ x.k0 = .high
  | .k1 => 0 < heldFor (past.map Sample.k1) ∧ x.k1 = .high
  | .k0Long => 176 ≤ heldFor ((x :: past).map Sample.k0) ∧ heldFor ((x :: past).map Sample.k1) < 224
  | .k1Long => 176 ≤ heldFor ((x :: past).map Sample.k1) ∧ heldFor (past.map Sample.k0) < 349
  | .k0K1Long => 176 ≤ heldFor ((x :: past).map Sample.k1) ∧ 126 ≤ heldFor (past.map Sample.k0)

def Earned (past : List Sample) (k : KeySem) : Prop := ∃ x p, x :: p <:+ past ∧ Earns p x k

/-- How many presses have lasted 176 samples. -/
def longHolds : List PinLevel → Nat
  | [] => 0
  | l :: ls => longHolds ls+if heldFor (l :: ls) = 176 then 1 else 0

/-- Whether the press that lasts has had its 176 samples and not yet its unit. -/
def unspent (ls : List PinLevel) (once : Bool) : Nat := if once = false ∧ 176 ≤ heldFor ls then 1 else 0

/-- The driver and the variables after the samples `past`, the newest first, and the units
released by them. -/
structure Holding (past : List Sample) (units : List KeySem) (l0 l1 : Nat) (s : KeyPins) : Prop where
  key0 : Tracked (heldFor (past.map Sample.k0)) l0 s.key0
  key1 : Tracked (heldFor (past.map Sample.k1)) l1 s.key1
  count0 : Counted l0 s.keys.k0LongSemCounter s.keys.k0OnceFlag
  count1 : Counted l1 s.keys.k1LongSemCounter s.keys.k1OnceFlag
  earned : ∀ k ∈ units, Earned past k
  holds0 : units.count .k0Long+unspent (past.map Sample.k0) s.keys.k0OnceFlag ≤
    longHolds (past.map Sample.k0)
  holds1 : units.count .k1Long+units.count .k0K1Long+
    unspent (past.map Sample.k1) s.keys.k1OnceFlag ≤ longHolds (past.map Sample.k1)

theorem Earned.mono {past past' : List Sample} {k : KeySem} (h : Earned past k) (hp : past <:+ past') :
    Earned past' k := by
  obtain ⟨x,p,hx,hearns⟩ := h
  exact ⟨x,p,hx.trans hp,hearns⟩

/-- A sample that releases nothing for the press keeps the count of the presses. -/
theorem unspent_keep {ls : List PinLevel} {l : PinLevel} {n : Nat} {once once' : Bool}
    (h : n+unspent ls once ≤ longHolds ls) (ho : l = .low → once' = once) :
    n+unspent (l :: ls) once' ≤ longHolds (l :: ls) := by
  cases l with
  | low =>
    rw [ho rfl]
    simp only [unspent,longHolds,heldFor] at *
    grind
  | high =>
    simp only [unspent,longHolds,heldFor] at *
    grind

theorem unspent_spend {ls : List PinLevel} {n : Nat} (h : n+unspent ls false ≤ longHolds ls)
    (hheld : 176 ≤ heldFor (.low :: ls)) :
    n+1+unspent (.low :: ls) true ≤ longHolds (.low :: ls) := by
  simp only [unspent,longHolds,heldFor] at *
  grind

theorem Tracked.held_of_eight {held longs : Nat} {b : Button} (h : Tracked held longs b)
    (hlongs : 8 ≤ longs) : 176 ≤ held := by
  have hge := h.held_ge
  unfold buttonLongCycle at hge
  omega

theorem Key1Released.holds {s : Keys} {ls : List PinLevel} {longs n : Nat} {l : PinLevel} {once : Bool}
    {units : List KeySem} {b : Button} (h : Key1Released s (heldFor ls) longs l once units)
    (ht : Tracked (heldFor (l :: ls)) longs b) (hn : n+unspent ls s.k1OnceFlag ≤ longHolds ls) :
    n+units.count .k1Long+units.count .k0K1Long+unspent (l :: ls) once ≤ longHolds (l :: ls) := by
  cases h with
  | none hsame => exact unspent_keep hn hsame
  | click _ hhigh => exact unspent_keep hn (by rw [hhigh]; rintro ⟨⟩)
  | alone hfresh honce hlow height _ =>
    subst hlow honce
    rw [hfresh] at hn
    exact unspent_spend hn (ht.held_of_eight height)
  | both hfresh honce hlow height _ =>
    subst hlow honce
    rw [hfresh] at hn
    exact unspent_spend hn (ht.held_of_eight height)

theorem Key0Released.holds {s : Keys} {ls : List PinLevel} {longs n : Nat} {l : PinLevel} {once : Bool}
    {units : List KeySem} {b : Button} (h : Key0Released s (heldFor ls) longs l once units)
    (ht : Tracked (heldFor (l :: ls)) longs b) (hn : n+unspent ls s.k0OnceFlag ≤ longHolds ls) :
    n+units.count .k0Long+unspent (l :: ls) once ≤ longHolds (l :: ls) := by
  cases h with
  | none hsame => exact unspent_keep hn hsame
  | click _ hhigh => exact unspent_keep hn (by rw [hhigh]; rintro ⟨⟩)
  | alone hfresh honce hlow height _ =>
    subst hlow honce
    rw [hfresh] at hn
    exact unspent_spend hn (ht.held_of_eight height)

theorem Key1Released.counts {s : Keys} {held longs : Nat} {l : PinLevel} {once : Bool}
    {units : List KeySem} (h : Key1Released s held longs l once units) : units.count .k0Long = 0 := by
  cases h <;> rfl

theorem Key0Released.counts {s : Keys} {held longs : Nat} {l : PinLevel} {once : Bool}
    {units : List KeySem} (h : Key0Released s held longs l once units) :
    units.count .k1Long = 0 ∧ units.count .k0K1Long = 0 := by
  cases h <;> exact ⟨rfl,rfl⟩

theorem Key1Released.earns {past : List Sample} {x : Sample} {s : Keys} {l0 longs : Nat}
    {once : Bool} {units : List KeySem} {b0 b1 : Button}
    (h : Key1Released s (heldFor (past.map Sample.k1)) longs x.k1 once units)
    (ht1 : Tracked (heldFor ((x :: past).map Sample.k1)) longs b1)
    (ht0 : Tracked (heldFor (past.map Sample.k0)) l0 b0)
    (hc : Counted l0 s.k0LongSemCounter s.k0OnceFlag) : ∀ k ∈ units, Earns past x k := by
  have hge := ht0.held_ge
  have hlt := ht0.held_lt
  have hcount := hc.1
  unfold buttonLongCycle at hge hlt
  unfold buttonLongTime at hlt
  intro k hk
  cases h with
  | none _ => cases hk
  | click hheld hhigh =>
    rw [List.mem_singleton.mp hk]
    exact ⟨hheld,hhigh⟩
  | alone _ _ _ height hfew =>
    rw [List.mem_singleton.mp hk]
    exact ⟨ht1.held_of_eight height,by omega⟩
  | both _ _ _ height hmany =>
    rw [List.mem_singleton.mp hk]
    exact ⟨ht1.held_of_eight height,by omega⟩

theorem Key0Released.earns {past : List Sample} {x : Sample} {s : Keys} {l1 longs : Nat}
    {once : Bool} {units : List KeySem} {b0 b1 : Button}
    (h : Key0Released s (heldFor (past.map Sample.k0)) longs x.k0 once units)
    (ht0 : Tracked (heldFor ((x :: past).map Sample.k0)) longs b0)
    (ht1 : Tracked (heldFor ((x :: past).map Sample.k1)) l1 b1)
    (hc : Counted l1 s.k1LongSemCounter s.k1OnceFlag) : ∀ k ∈ units, Earns past x k := by
  have hlt := ht1.held_lt
  have hcount := hc.1
  unfold buttonLongCycle buttonLongTime at hlt
  intro k hk
  cases h with
  | none _ => cases hk
  | click hheld hhigh =>
    rw [List.mem_singleton.mp hk]
    exact ⟨hheld,hhigh⟩
  | alone _ _ _ height hnone =>
    rw [List.mem_singleton.mp hk]
    exact ⟨ht0.held_of_eight height,by omega⟩

theorem Holding.step {past : List Sample} {units : List KeySem} {l0 l1 : Nat} {s : KeyPins}
    (h : Holding past units l0 l1 s) (x : Sample) :
    ∃ l0' l1', Holding (x :: past) (units ++ (buttonProcess s x).1) l0' l1' (pinsStep s x) := by
  obtain ⟨l1',c1,o1,ht1,hc1,hkeys1,hrel1⟩ := h.key1.key1 h.count1 x.k1
  obtain ⟨l0',c0,o0,both,ht0,hc0,hkeys0,hrel0⟩ := h.key0.key0
    (s := { s.keys with k1LongSemCounter := c1, k1OnceFlag := o1 }) h.count0 x.k0
  have hearns1 := hrel1.earns ht1 h.key0 h.count0
  have hearns0 := hrel0.earns ht0 ht1 hc1
  have hholds1 := hrel1.holds ht1 h.holds1
  have hholds0 := hrel0.holds ht0 h.holds0
  have hother1 := hrel1.counts
  have hother0 := hrel0.counts
  refine ⟨l0',l1',?_⟩
  simp only [pinsStep,buttonProcess,hkeys1,hkeys0]
  exact
    { key0 := ht0
      key1 := ht1
      count0 := hc0
      count1 := hc1
      earned := by
        intro k hk
        rcases List.mem_append.mp hk with hk | hk
        · exact (h.earned k hk).mono (List.suffix_cons _ _)
        · rcases List.mem_append.mp hk with hk | hk
          · exact ⟨x,past,List.suffix_refl _,hearns1 k hk⟩
          · exact ⟨x,past,List.suffix_refl _,hearns0 k hk⟩
      holds0 := by
        rw [List.count_append,List.count_append,hother1,Nat.zero_add]
        exact hholds0
      holds1 := by
        simp only [List.count_append,hother0.1,hother0.2,Nat.add_zero]
        refine Nat.le_trans (Nat.le_of_eq ?_) hholds1
        simp only [List.map_cons]
        omega }

theorem Holding.start : Holding [] [] 0 0 buttonInit where
  key0 := .inl ⟨rfl,rfl,_,AtRest.start⟩
  key1 := .inl ⟨rfl,rfl,_,AtRest.start⟩
  count0 := ⟨rfl,by rintro ⟨⟩⟩
  count1 := ⟨rfl,by rintro ⟨⟩⟩
  earned := by rintro k ⟨⟩
  holds0 := by decide
  holds1 := by decide

theorem Holding.run {past : List Sample} {units : List KeySem} {l0 l1 : Nat} {s : KeyPins}
    (h : Holding past units l0 l1 s) (xs : List Sample) :
    ∃ l0' l1', Holding (xs.reverse ++ past) (units ++ pinsReleases s xs) l0' l1' (xs.foldl pinsStep s) := by
  induction xs generalizing past units l0 l1 s with
  | nil => exact ⟨l0,l1,by rw [pinsReleases,trace,List.append_nil]; exact h⟩
  | cons x xs ih =>
    obtain ⟨l0',l1',hnext⟩ := h.step x
    obtain ⟨l0'',l1'',hend⟩ := ih hnext
    rw [List.append_assoc] at hend
    rw [List.reverse_cons,List.append_assoc]
    exact ⟨l0'',l1'',hend⟩

section AtRest

theorem Tracked.at_rest {held longs : Nat} {r : Rest} {b : Button} (h : Tracked held longs b)
    (hr : AtRest r b) : longs = 0 := by
  rcases h with ⟨_,hlongs,_⟩ | ⟨_,r',hpressed,_⟩
  · exact hlongs
  · exact absurd (hr.level.symm.trans hpressed.level) (by decide)

theorem Counted.zero {count : Nat} {once : Bool} (h : Counted 0 count once) : count = 0 ∧ once = false := by
  refine ⟨h.1,Bool.eq_false_iff.mpr fun honce => ?_⟩
  exact absurd (h.2 honce) (by decide)

theorem callEach_k0K1OnceFlag {f : Keys → ButtonEvent → List KeySem × Keys}
    (hf : ∀ s e, s.k0K1OnceFlag = false → (f s e).2.k0K1OnceFlag = false) (es : List ButtonEvent)
    {s : Keys} (h : s.k0K1OnceFlag = false) : (callEach f s es).2.k0K1OnceFlag = false := by
  induction es generalizing s with
  | nil => exact h
  | cons e es ih => exact ih (hf s e h)

theorem key0Callback_k0K1OnceFlag (s : Keys) (e : ButtonEvent) (h : s.k0K1OnceFlag = false) :
    (key0Callback s e).2.k0K1OnceFlag = false := by
  unfold key0Callback k0LongSemRelease k0LongFreeRelease
  repeat' split
  all_goals first
    | exact h
    | rfl

theorem key1Callback_k0K1OnceFlag (s : Keys) (e : ButtonEvent) (h : s.k0K1OnceFlag = false) :
    (key1Callback s e).2.k0K1OnceFlag = false := by
  unfold key1Callback k1LongSemRelease k1LongFreeRelease
  repeat' split
  all_goals exact h

theorem pinsRun_k0K1OnceFlag (xs : List Sample) {s : KeyPins} (h : s.keys.k0K1OnceFlag = false) :
    (xs.foldl pinsStep s).keys.k0K1OnceFlag = false := by
  induction xs generalizing s with
  | nil => exact h
  | cons x xs ih =>
    exact ih (callEach_k0K1OnceFlag key0Callback_k0K1OnceFlag _
      (callEach_k0K1OnceFlag key1Callback_k0K1OnceFlag _ h))

/-- In every state that is reached with both keys at rest the variables are clear. -/
theorem keys_at_rest (xs : List Sample) {r0 r1 : Rest} (h0 : AtRest r0 (xs.foldl pinsStep buttonInit).key0)
    (h1 : AtRest r1 (xs.foldl pinsStep buttonInit).key1) :
    (xs.foldl pinsStep buttonInit).keys = buttonInit.keys := by
  obtain ⟨l0,l1,hrun⟩ := Holding.start.run xs
  have hflag := pinsRun_k0K1OnceFlag xs (s := buttonInit) rfl
  have hcount0 := hrun.count0
  have hcount1 := hrun.count1
  rw [hrun.key0.at_rest h0] at hcount0
  rw [hrun.key1.at_rest h1] at hcount1
  generalize (xs.foldl pinsStep buttonInit).keys = keys at hflag hcount0 hcount1
  obtain ⟨count0,count1,once0,once1,both⟩ := keys
  obtain ⟨rfl,rfl⟩ := hcount0.zero
  obtain ⟨rfl,rfl⟩ := hcount1.zero
  cases hflag
  rfl

end AtRest

structure BothPressed (r0 r1 : Rest) (n : Nat) (s : KeyPins) : Prop where
  key0 : Pressed r0 n (buttonDebounce .low s.key0)
  key1 : Pressed r1 n (buttonDebounce .low s.key1)
  keys : s.keys = ⟨min 7 (r0.longs n),min 7 (r1.longs n),false,decide (8 ≤ r1.longs n),false⟩

/-- A sample of Key1 while both are held: its eighth callback finds the other key counted. -/
theorem key1_bothPressed {longs longs' other : Nat} (hnext : longs' = longs ∨ longs' = longs+1)
    (hother : longs = 7 → longs' = 8 → 6 ≤ other) :
    callEach key1Callback ⟨min 7 other,min 7 longs,false,decide (8 ≤ longs),false⟩
        (List.replicate (longs'-longs) .long) =
      (if longs = 7 ∧ longs' = 8 then [.k0K1Long] else [],
        ⟨min 7 other,min 7 longs',false,decide (8 ≤ longs'),false⟩) := by
  rcases hnext with rfl | rfl
  · have hnot : ¬ (longs' = 7 ∧ longs' = 8) := by omega
    rw [Nat.sub_self,if_neg hnot]
    rfl
  · rw [Nat.add_sub_cancel_left]
    have heq : ∀ s : Keys, callEach key1Callback s (List.replicate 1 .long) = k1LongSemRelease s := by
      intro s
      simp [callEach,key1Callback]
    rw [heq,k1LongSemRelease]
    rcases Nat.lt_trichotomy longs 7 with hlt | rfl | hgt
    · have hcount : ¬ 6 < min 7 longs := by omega
      have hless : ¬ 8 ≤ longs := by omega
      have hless' : ¬ 8 ≤ longs+1 := by omega
      have hmin : min 7 longs+1 = min 7 (longs+1) := by omega
      simp [hcount,hless,hless',hmin]
      omega
    · have hmany : 5 < min 7 other := by
        have hsix := hother rfl rfl
        omega
      simp [hmany]
    · have height : 8 ≤ longs := hgt
      have height' : 8 ≤ longs+1 := by omega
      have hmin : min 7 longs = min 7 (longs+1) := by omega
      simp [height,height',hmin]
      omega

/-- A sample of Key0 while both are held: it never acts alone. -/
theorem key0_bothPressed {longs longs' other : Nat} (once : Bool)
    (hnext : longs' = longs ∨ longs' = longs+1)
    (hother : 7 ≤ longs → longs' = longs+1 → 0 < other) :
    callEach key0Callback ⟨min 7 longs,min 7 other,false,once,false⟩
        (List.replicate (longs'-longs) .long) =
      ([],⟨min 7 longs',min 7 other,false,once,false⟩) := by
  rcases hnext with rfl | rfl
  · rw [Nat.sub_self]
    rfl
  · rw [Nat.add_sub_cancel_left]
    have heq : ∀ s : Keys, callEach key0Callback s (List.replicate 1 .long) = k0LongSemRelease s := by
      intro s
      simp [callEach,key0Callback]
    rw [heq,k0LongSemRelease]
    by_cases hlong : 7 ≤ longs
    · have hpos := hother hlong rfl
      have hcount : 6 < min 7 longs := by omega
      have hne : min 7 other ≠ 0 := by omega
      have hmin : min 7 (longs+1) = min 7 longs := by omega
      simp [hcount,hne,hmin]
    · have hcount : ¬ 6 < min 7 longs := by omega
      have hmin : min 7 longs+1 = min 7 (longs+1) := by omega
      simp [hcount,hmin]

theorem Rest.longs_fresh {r : Rest} (h : r.carried = 0) (n : Nat) :
    r.longs n = (r.residue+(n-199))/25 := by
  unfold longs longTicks
  rw [h]
  rfl

theorem BothPressed.step {r0 r1 : Rest} {n : Nat} {s : KeyPins} (h : BothPressed r0 r1 n s)
    (hc0 : r0.carried = 0) (hc1 : r1.carried = 0) :
    (buttonProcess s ⟨.low,.low⟩).1 =
        (if r1.longs n = 7 ∧ r1.longs (n+1) = 8 then [.k0K1Long] else []) ∧
      BothPressed r0 r1 (n+1) (pinsStep s ⟨.low,.low⟩) := by
  obtain ⟨hcalls0,hnext0⟩ := buttonCycleProcess_low h.key0
  obtain ⟨hcalls1,hnext1⟩ := buttonCycleProcess_low h.key1
  have hr1 : r1.residue < 25 := r1.residue_lt
  have hr0 : r0.residue < 25 := r0.residue_lt
  have hmany : r1.longs n = 7 → r1.longs (n+1) = 8 → 6 ≤ r0.longs n := by
    rw [Rest.longs_fresh hc0,Rest.longs_fresh hc1,Rest.longs_fresh hc1]
    omega
  have hsome : 7 ≤ r0.longs n → r0.longs (n+1) = r0.longs n+1 → 0 < r1.longs (n+1) := by
    rw [Rest.longs_fresh hc0,Rest.longs_fresh hc0,Rest.longs_fresh hc1]
    omega
  have hkey1 := key1_bothPressed (r1.longs_le_one n) hmany
  have hkey0 := key0_bothPressed (decide (8 ≤ r1.longs (n+1))) (r0.longs_le_one n) hsome
  simp only [pinsStep,buttonProcess,h.keys,hcalls0,hcalls1,hkey1,hkey0,List.append_nil]
  refine ⟨trivial,?_,?_,rfl⟩
  · exact hnext0.buttonDebounce_low.symm ▸ hnext0
  · exact hnext1.buttonDebounce_low.symm ▸ hnext1

/-- Both keys pressed together and held release one unit of `K0_K1_Long_Sem`, 399 samples after
the press less what the last long press of K1 has left over, and no other unit. -/
theorem both_keys_held {s : KeyPins} {r0 r1 : Rest} (h0 : AtRest r0 s.key0) (h1 : AtRest r1 s.key1)
    (hc0 : r0.carried = 0) (hc1 : r1.carried = 0) (hkeys : s.keys = buttonInit.keys) (n : Nat) :
    pinsReleases s (List.replicate n ⟨.low,.low⟩) = if 399 ≤ r1.residue+n then [.k0K1Long] else [] := by
  have hstart : BothPressed r0 r1 0 s :=
    ⟨h0.pressed,h1.pressed,by rw [hkeys,r0.longs_zero,r1.longs_zero]; rfl⟩
  have hrun : pinsReleases s (List.replicate n ⟨.low,.low⟩) =
        (if 8 ≤ r1.longs n then [.k0K1Long] else []) ∧
      BothPressed r0 r1 n ((List.replicate n ⟨.low,.low⟩).foldl pinsStep s) := by
    induction n with
    | zero =>
      rw [r1.longs_zero]
      exact ⟨rfl,hstart⟩
    | succ n ih =>
      obtain ⟨hunits,hheld⟩ := ih
      obtain ⟨hnew,hnext⟩ := hheld.step hc0 hc1
      rw [List.replicate_succ',List.foldl_append,pinsReleases,trace_append,← pinsReleases,hunits]
      refine ⟨?_,hnext⟩
      simp only [trace,hnew,List.append_nil]
      rcases r1.longs_le_one n with hsame | hmore
      · have hnot : ¬ (r1.longs n = 7 ∧ r1.longs n = 8) := by omega
        rw [hsame,if_neg hnot,List.append_nil]
      · rw [hmore]
        by_cases hseven : r1.longs n = 7
        · simp [hseven]
        · have hmany : 8 ≤ r1.longs n+1 ↔ 8 ≤ r1.longs n := by omega
          simp only [hseven,hmany,false_and,if_false,List.append_nil]
  have height : 8 ≤ r1.longs n ↔ 399 ≤ r1.residue+n := by
    have hr1 : r1.residue < 25 := r1.residue_lt
    rw [Rest.longs_fresh hc1]
    omega
  rw [hrun.1]
  simp only [height]

/-- K1 is pressed for 210 samples, which ends in a click and leaves a residue of 11. -/
def clickedK1 : List Sample := List.replicate 210 ⟨.high,.low⟩ ++ List.replicate 17 ⟨.high,.high⟩

def residueEleven : Rest := ⟨0,11,none,by decide,by decide,Rest.start.window_lt⟩

theorem clickedK1_key0 : AtRest .start (clickedK1.foldl pinsStep buttonInit).key0 where
  level := by decide +kernel
  trigger := by decide +kernel
  debounce := by decide +kernel
  flag := by decide +kernel
  duration := by decide +kernel
  cycle := by decide +kernel
  closed := fun _ => ⟨by decide +kernel,by decide +kernel⟩
  opened := by rintro _ ⟨⟩

theorem clickedK1_key1 : AtRest residueEleven (clickedK1.foldl pinsStep buttonInit).key1 where
  level := by decide +kernel
  trigger := by decide +kernel
  debounce := by decide +kernel
  flag := by decide +kernel
  duration := by decide +kernel
  cycle := by decide +kernel
  closed := fun _ => ⟨by decide +kernel,by decide +kernel⟩
  opened := by rintro _ ⟨⟩

theorem both_keys_held_clicked :
    pinsReleases (clickedK1.foldl pinsStep buttonInit) (List.replicate 388 ⟨.low,.low⟩) = [.k0K1Long] := by
  have hheld := both_keys_held clickedK1_key0 clickedK1_key1 rfl rfl
    (keys_at_rest clickedK1 clickedK1_key0 clickedK1_key1) 388
  rw [if_pos (show 399 ≤ residueEleven.residue+388 by decide)] at hheld
  exact hheld

end GatewayF411
