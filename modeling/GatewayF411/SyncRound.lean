import GatewayF411.SyncPass

set_option autoImplicit false

namespace GatewayF411
open CText SlotScan

/-- Before a pass: the thread is about to address slot `c`, which has `r` failures. -/
structure AtSlot (d : DeviceInfo) (c r : Nat) (g : Gateway) : Prop where
  num : g.globalDevice.num = d.num
  id : g.globalDevice.id = d.id
  bindId : g.globalDevice.bindId = d.bindId
  counter : g.sync.counter = c
  onceSem : g.sync.onceSem = 1
  timeoutT : g.sync.timeoutT = false
  pc : g.sync.pc = .take
  retry : g.globalDevice.syncRetry c = UInt8.ofNat r
  below : ∀ n, n < c → g.globalDevice.syncRetry n = 0

def MovedOn (d : DeviceInfo) (c : Nat) (g : Gateway) : Prop :=
  (∃ c', c' < c ∧ MainSlot d c' ∧ (∀ j, c' < j → j < c → ¬ MainSlot d j) ∧ AtSlot d c' 0 g) ∨
  ((∀ j, j < c → ¬ MainSlot d j) ∧ SyncIdle g)

theorem retry_lt {r : Nat} (hr : r ≤ 3) : UInt8.ofNat r < 3 ↔ r < 3 := by
  rw [UInt8.lt_iff_toNat_lt]
  simp only [UInt8.toNat_ofNat',UInt8.reduceToNat]
  omega

section Pass
variable {d : DeviceInfo} {c r : Nat} {g : Gateway}

theorem AtSlot.addressing (h : AtSlot d c r g) : Addressing d g.globalDevice.syncRetry c g :=
  ⟨⟨h.num,h.id,h.bindId,rfl⟩,h.counter,h.onceSem,h.timeoutT,h.pc⟩

theorem Addressing.atSlot {ρ : Nat → UInt8} (h : Addressing d ρ c g) (hr : ρ c = UInt8.ofNat r)
    (hbelow : ∀ n, n < c → ρ n = 0) : AtSlot d c r g := by
  refine ⟨h.num,h.id,h.bindId,h.counter,h.onceSem,h.timeoutT,h.pc,?_,fun n hn => ?_⟩
  · rw [h.syncRetry,hr]
  · rw [h.syncRetry,hbelow n hn]

theorem movedOn_next {ρ : Nat → UInt8} (hbelow : ∀ n, n < c → ρ n = 0) {c' : Nat}
    (hnext : NextMain d c c') (hat : Addressing d ρ c' g) : MovedOn d c g := by
  refine .inl ⟨c',hnext.lt,hnext.main,hnext.gap,hat.atSlot (hbelow c' hnext.lt) fun n hn => ?_⟩
  exact hbelow n (hn.trans hnext.lt)

/-- One pass: below the limit the device is asked once and is asked again or left
behind; at the limit it is left behind without a request. -/
theorem AtSlot.pass (h : AtSlot d c r g) (h1 : 1 ≤ c) (hc : c ≤ d.num) (hid : d.id c ≠ 0)
    (hr : r ≤ 3) (a : Answer) :
    (r < 3 ∧ (syncPass a g).1 = [d.id c] ∧
      (AtSlot d c (r+1) (syncPass a g).2 ∨ MovedOn d c (syncPass a g).2)) ∨
    (r = 3 ∧ (syncPass a g).1 = [] ∧ MovedOn d c (syncPass a g).2) := by
  have hbelow : ∀ v n, n < c → Function.update g.globalDevice.syncRetry c v n = 0 := by
    intro v n hn
    rw [Function.update_of_ne (by omega)]
    exact h.below n hn
  by_cases hlt : r < 3
  · have hretry : g.globalDevice.syncRetry c < 3 := by
      rw [h.retry,retry_lt hr]
      exact hlt
    cases a with
    | silent =>
      obtain ⟨hcalls,hat⟩ := h.addressing.pass_silent h1 hc hid hretry
      refine .inl ⟨hlt,hcalls,.inl (hat.atSlot ?_ (hbelow _))⟩
      rw [Function.update_self,h.retry,UInt8.ofNat_add]
      rfl
    | answered b =>
      obtain ⟨hcalls,hmoved⟩ := h.addressing.pass_answered h1 hc hid hretry b
      refine .inl ⟨hlt,hcalls,.inr ?_⟩
      rcases hmoved with ⟨c',hnext,hat⟩ | ⟨hnone,hrest⟩
      · exact movedOn_next (hbelow 0) hnext hat
      · exact .inr ⟨hnone,hrest.toSyncIdle⟩
  · have hretry : ¬ g.globalDevice.syncRetry c < 3 := by
      rw [h.retry,retry_lt hr]
      exact hlt
    obtain ⟨hcalls,hmoved⟩ := h.addressing.pass_exhausted h1 hc hid hretry a
    refine .inr ⟨by omega,hcalls,?_⟩
    rcases hmoved with ⟨c',hnext,hat⟩ | ⟨hnone,hrest⟩
    · exact movedOn_next h.below hnext hat
    · exact .inr ⟨hnone,hrest.toSyncIdle⟩

end Pass

theorem SyncIdle.round {g : Gateway} (h : SyncIdle g) (answers : Nat → Answer) (fuel k : Nat) :
    syncRound answers fuel k g = ([],g) := by
  cases fuel with
  | zero => rfl
  | succ fuel => simp [syncRound,h.onceSem]

/-- What a round asks from slot `c` on: slot `c`, unless its retries are used up, and
every main below it. -/
def RoundFrom (d : DeviceInfo) (answers : Nat → Answer) (fuel : Nat) : Prop :=
  ∀ (k c r : Nat) (g : Gateway), AtSlot d c r g → 1 ≤ c → c ≤ d.num → d.id c ≠ 0 → r ≤ 3 →
    4*c+4-r ≤ fuel → SyncIdle (syncRound answers fuel k g).2 ∧
    ∀ id, id ∈ (syncRound answers fuel k g).1 ↔
      (r < 3 ∧ id = d.id c) ∨ ∃ n, n < c ∧ MainSlot d n ∧ d.id n = id

theorem MovedOn.round {d : DeviceInfo} {answers : Nat → Answer} {fuel c : Nat} {g : Gateway}
    (h : MovedOn d c g) (hzero : d.id 0 = 0) (hfrom : RoundFrom d answers fuel) (hc : c ≤ d.num)
    (hf : 4*c ≤ fuel) (k : Nat) :
    SyncIdle (syncRound answers fuel k g).2 ∧
    ∀ id, id ∈ (syncRound answers fuel k g).1 ↔ ∃ n, n < c ∧ MainSlot d n ∧ d.id n = id := by
  rcases h with ⟨c',hlt,hm,hgap,hat⟩ | ⟨hnone,hidle⟩
  · have hne := mainSlot_ne_zero hm
    have h1 : 1 ≤ c' := by
      rcases Nat.eq_zero_or_pos c' with rfl | hpos
      · exact absurd hzero hne
      · exact hpos
    obtain ⟨hi,hmem⟩ := hfrom k c' 0 g hat h1 (by omega) hne (by omega) (by omega)
    refine ⟨hi,fun id => (hmem id).trans ?_⟩
    constructor
    · rintro (⟨_,rfl⟩ | ⟨n,hn,hs,hid⟩)
      · exact ⟨c',hlt,hm,rfl⟩
      · exact ⟨n,by omega,hs,hid⟩
    · rintro ⟨n,hn,hs,rfl⟩
      rcases Nat.lt_trichotomy n c' with hlow | rfl | hhigh
      · exact .inr ⟨n,hlow,hs,rfl⟩
      · exact .inl ⟨by omega,rfl⟩
      · exact absurd hs (hgap n hhigh hn)
  · rw [hidle.round]
    refine ⟨hidle,fun id => ?_⟩
    constructor
    · intro hid
      simp at hid
    · rintro ⟨n,hn,hs,_⟩
      exact absurd hs (hnone n hn)

theorem roundFrom {d : DeviceInfo} (hzero : d.id 0 = 0) (answers : Nat → Answer) (fuel : Nat) :
    RoundFrom d answers fuel := by
  induction fuel with
  | zero =>
    intro k c r g _ h1 _ _ hr hf
    omega
  | succ fuel ih =>
    intro k c r g h h1 hc hid hr hf
    have hsem : g.sync.onceSem ≠ 0 := by simp [h.onceSem]
    simp only [syncRound,hsem,if_false]
    rcases h.pass h1 hc hid hr (answers k) with ⟨hlt,hcalls,hat | hmoved⟩ | ⟨heq,hcalls,hmoved⟩
    · obtain ⟨hi,hmem⟩ := ih (k+1) c (r+1) _ hat h1 hc hid (by omega) (by omega)
      refine ⟨hi,fun id => ?_⟩
      rw [hcalls,List.mem_append,List.mem_singleton,hmem id]
      constructor
      · rintro (rfl | ⟨_,rfl⟩ | hbelow)
        · exact .inl ⟨hlt,rfl⟩
        · exact .inl ⟨hlt,rfl⟩
        · exact .inr hbelow
      · rintro (⟨_,rfl⟩ | hbelow)
        · exact .inl rfl
        · exact .inr (.inr hbelow)
    · obtain ⟨hi,hmem⟩ := hmoved.round hzero ih hc (by omega) (k+1)
      refine ⟨hi,fun id => ?_⟩
      rw [hcalls,List.mem_append,List.mem_singleton,hmem id]
      simp [hlt]
    · obtain ⟨hi,hmem⟩ := hmoved.round hzero ih hc (by omega) (k+1)
      refine ⟨hi,fun id => ?_⟩
      rw [hcalls,List.nil_append,hmem id]
      simp [heq]

/-- The registered mains: ids in the main range that are bound to nothing. -/
def registeredMains (d : DeviceInfo) : Set UInt32 :=
  {id | ∃ n, 1 ≤ n ∧ n ≤ d.num ∧ d.id n = id ∧ isMain id = true ∧ d.bindId n = 0}

def requestedIds (answers : Nat → Answer) (fuel : Nat) (g : Gateway) : Set UInt32 :=
  {id | id ∈ (syncRound answers fuel 0 (syncRequest g)).1}

def mainAt (d : DeviceInfo) (n : Nat) : Prop := isMain (d.id n) = true ∧ d.bindId n = 0

theorem mainSlot_iff {d : DeviceInfo} (hkinds : KnownKinds d) {n : Nat} :
    MainSlot d n ↔ mainAt d n := by
  have hvalid : getMainValid (d.id n) (d.bindId n) = .eok ↔
      0 < d.id n ∧ d.id n < 20000000 ∧ d.bindId n = 0 := by
    unfold getMainValid
    split <;> simp_all
  rw [MainSlot,hvalid,mainAt]
  have hk := hkinds n
  generalize d.id n = id at hk ⊢
  simp only [inRange,isMain,isSlave,isDoor,Bool.or_eq_true,Bool.and_eq_true,decide_eq_true_eq,ne_eq,
    UInt32.le_iff_toNat_le,UInt32.lt_iff_toNat_lt,UInt32.reduceToNat,← UInt32.toNat_inj] at hk ⊢
  constructor
  · rintro ⟨hpos,hlt,hb⟩
    have hr := hk (by omega)
    exact ⟨by omega,hb⟩
  · rintro ⟨hm,hb⟩
    exact ⟨by omega,by omega,hb⟩

/-- `Sync_Request` starts at the highest main below `Num`, and at `Num` itself if there is none. -/
theorem syncRequest_atSlot {g : Gateway} (hsem : g.sync.onceSem = 0) (hpc : g.sync.pc = .take)
    (hretry : ∀ n, g.globalDevice.syncRetry n = 0) :
    (∃ c, c < g.globalDevice.num ∧ MainSlot g.globalDevice c ∧
      (∀ j, c < j → j < g.globalDevice.num → ¬ MainSlot g.globalDevice j) ∧
      AtSlot g.globalDevice c 0 (syncRequest g)) ∨
    ((∀ j, j < g.globalDevice.num → ¬ MainSlot g.globalDevice j) ∧
      AtSlot g.globalDevice g.globalDevice.num 0 (syncRequest g)) := by
  rcases syncRequest_addressing ⟨rfl,rfl,rfl,rfl⟩ hsem hpc with ⟨c,hnext,hat⟩ | ⟨hnone,hat⟩
  · exact .inl ⟨c,hnext.lt,hnext.main,hnext.gap,hat.atSlot (hretry c) fun n _ => hretry n⟩
  · exact .inr ⟨hnone,hat.atSlot (hretry _) fun n _ => hretry n⟩

theorem AtSlot.round_free {d : DeviceInfo} {c r : Nat} {g : Gateway} (h : AtSlot d c r g)
    (hid : d.id c = 0) (answers : Nat → Answer) (fuel k : Nat) :
    (syncRound answers (fuel+1) k g).1 = [] ∧ SyncIdle (syncRound answers (fuel+1) k g).2 := by
  have hsem : g.sync.onceSem ≠ 0 := by simp [h.onceSem]
  obtain ⟨hcalls,hrest⟩ := h.addressing.pass_free hid (answers k)
  simp only [syncRound,hsem,if_false,hrest.toSyncIdle.round,hcalls,List.append_nil]
  exact ⟨trivial,hrest.toSyncIdle⟩

/-- The condition on the table: if a main stands below slot `Num`, slot `Num` holds
none; otherwise slot `Num` holds a main or is free. -/
def NumSlotFits (d : DeviceInfo) : Prop :=
  ((∃ n, n < d.num ∧ mainAt d n) → ¬ mainAt d d.num) ∧
  ((∀ n, n < d.num → ¬ mainAt d n) → mainAt d d.num ∨ d.id d.num = 0)

theorem mem_registeredMains {d : DeviceInfo} (h : d.Inv) {id : UInt32} :
    id ∈ registeredMains d ↔ ∃ n, n ≤ d.num ∧ mainAt d n ∧ d.id n = id := by
  constructor
  · rintro ⟨n,_,hn,rfl,hm,hb⟩
    exact ⟨n,hn,⟨hm,hb⟩,rfl⟩
  · rintro ⟨n,hn,⟨hm,hb⟩,rfl⟩
    have hbound := h.keyed.bounded n (isMain_ne_zero hm)
    exact ⟨n,hbound.1,hn,rfl,hm,hb⟩

/-- With no main below slot `Num`, the only one can stand in slot `Num`. -/
theorem mem_registeredMains_num {d : DeviceInfo} (h : d.Inv)
    (hbelow : ∀ n, n < d.num → ¬ mainAt d n) {id : UInt32} :
    id ∈ registeredMains d ↔ mainAt d d.num ∧ d.id d.num = id := by
  rw [mem_registeredMains h]
  constructor
  · rintro ⟨n,hn,hs,hid⟩
    rcases Nat.lt_or_eq_of_le hn with hn | rfl
    · exact absurd hs (hbelow n hn)
    · exact ⟨hs,hid⟩
  · rintro ⟨hs,hid⟩
    exact ⟨_,Nat.le_refl _,hs,hid⟩

theorem requestedIds_from_main {g : Gateway} (hinv : g.globalDevice.Inv)
    (hkinds : KnownKinds g.globalDevice) (hzero : g.globalDevice.id 0 = 0)
    (answers : Nat → Answer) {fuel c : Nat} (hfuel : 4*g.globalDevice.num+4 ≤ fuel)
    (hlt : c < g.globalDevice.num) (hm : MainSlot g.globalDevice c)
    (hgap : ∀ j, c < j → j < g.globalDevice.num → ¬ MainSlot g.globalDevice j)
    (hat : AtSlot g.globalDevice c 0 (syncRequest g)) :
    SyncIdle (syncRound answers fuel 0 (syncRequest g)).2 ∧
    ∀ id, id ∈ requestedIds answers fuel g ↔
      ∃ n, n < g.globalDevice.num ∧ mainAt g.globalDevice n ∧ g.globalDevice.id n = id := by
  have hslot := fun n => @mainSlot_iff g.globalDevice hkinds n
  have hne := mainSlot_ne_zero hm
  have hb := hinv.keyed.bounded c hne
  obtain ⟨hi,hmem⟩ := roundFrom hzero answers fuel 0 c 0 _ hat hb.1 hb.2 hne (by omega) (by omega)
  refine ⟨hi,fun id => (hmem id).trans ⟨?_,?_⟩⟩
  · rintro (⟨_,rfl⟩ | ⟨n,hn,hs,hid⟩)
    · exact ⟨c,hlt,(hslot c).mp hm,rfl⟩
    · exact ⟨n,by omega,(hslot n).mp hs,hid⟩
  · rintro ⟨n,hn,hs,rfl⟩
    rcases Nat.lt_trichotomy n c with hlow | rfl | hhigh
    · exact .inr ⟨n,hlow,(hslot n).mpr hs,rfl⟩
    · exact .inl ⟨by omega,rfl⟩
    · exact absurd ((hslot n).mpr hs) (hgap n hhigh hn)

/-- Then the round is complete exactly when slot `Num` holds no main. -/
theorem round_from_main {g : Gateway} (hinv : g.globalDevice.Inv) (hkinds : KnownKinds g.globalDevice)
    (hzero : g.globalDevice.id 0 = 0) (answers : Nat → Answer) {fuel c : Nat}
    (hfuel : 4*g.globalDevice.num+4 ≤ fuel) (hlt : c < g.globalDevice.num)
    (hm : MainSlot g.globalDevice c)
    (hgap : ∀ j, c < j → j < g.globalDevice.num → ¬ MainSlot g.globalDevice j)
    (hat : AtSlot g.globalDevice c 0 (syncRequest g)) :
    SyncIdle (syncRound answers fuel 0 (syncRequest g)).2 ∧
    (requestedIds answers fuel g = registeredMains g.globalDevice ↔
      NumSlotFits g.globalDevice) := by
  have hslot := fun n => @mainSlot_iff g.globalDevice hkinds n
  obtain ⟨hi,hreq⟩ := requestedIds_from_main hinv hkinds hzero answers hfuel hlt hm hgap hat
  refine ⟨hi,?_⟩
  constructor
  · intro heq
    refine ⟨fun _ htop => ?_,fun hall => absurd ((hslot c).mp hm) (hall c hlt)⟩
    have hin : g.globalDevice.id g.globalDevice.num ∈ requestedIds answers fuel g := by
      rw [heq]
      exact (mem_registeredMains hinv).mpr ⟨_,Nat.le_refl _,htop,rfl⟩
    obtain ⟨n,hn,_,hid⟩ := (hreq _).mp hin
    have hsame := hinv.keyed.distinct _ n (isMain_ne_zero htop.1) hid.symm
    omega
  · intro hfits
    ext id
    rw [hreq,mem_registeredMains hinv]
    constructor
    · rintro ⟨n,hn,hs,hid⟩
      exact ⟨n,by omega,hs,hid⟩
    · rintro ⟨n,hn,hs,hid⟩
      rcases Nat.lt_or_eq_of_le hn with hn | rfl
      · exact ⟨n,hn,hs,hid⟩
      · exact absurd hs (hfits.1 ⟨c,hlt,(hslot c).mp hm⟩)

/-- Without one, the ignored result of `Get_Next_Main` leaves the round at slot `Num`. -/
theorem round_from_num {g : Gateway} (hinv : g.globalDevice.Inv) (hkinds : KnownKinds g.globalDevice)
    (hzero : g.globalDevice.id 0 = 0) (answers : Nat → Answer) {fuel : Nat}
    (hfuel : 4*g.globalDevice.num+4 ≤ fuel)
    (hnone : ∀ j, j < g.globalDevice.num → ¬ MainSlot g.globalDevice j)
    (hat : AtSlot g.globalDevice g.globalDevice.num 0 (syncRequest g)) :
    SyncIdle (syncRound answers fuel 0 (syncRequest g)).2 ∧
    (requestedIds answers fuel g = registeredMains g.globalDevice ↔
      NumSlotFits g.globalDevice) := by
  have hbelow : ∀ n, n < g.globalDevice.num → ¬ mainAt g.globalDevice n := by
    intro n hn hs
    exact hnone n hn ((mainSlot_iff hkinds).mpr hs)
  have honly := fun id => @mem_registeredMains_num g.globalDevice hinv hbelow id
  by_cases hz : g.globalDevice.id g.globalDevice.num = 0
  · obtain ⟨fuel,rfl⟩ : ∃ f, fuel = f+1 := ⟨fuel-1,by omega⟩
    obtain ⟨hcalls,hi⟩ := hat.round_free hz answers fuel 0
    refine ⟨hi,iff_of_true ?_ ⟨fun ⟨n,hn,hs⟩ => absurd hs (hbelow n hn),fun _ => .inr hz⟩⟩
    ext id
    have hnot : ¬ mainAt g.globalDevice g.globalDevice.num := fun hs => isMain_ne_zero hs.1 hz
    simp [requestedIds,hcalls,honly,hnot]
  · have hpos : 1 ≤ g.globalDevice.num := (hinv.keyed.bounded _ hz).1
    obtain ⟨hi,hmem⟩ := roundFrom hzero answers fuel 0 _ 0 _ hat hpos (Nat.le_refl _) hz (by omega)
      (by omega)
    have hreq : ∀ id, id ∈ requestedIds answers fuel g ↔
        id = g.globalDevice.id g.globalDevice.num := by
      intro id
      refine (hmem id).trans ⟨?_,fun hid => .inl ⟨by omega,hid⟩⟩
      rintro (⟨_,hid⟩ | ⟨n,hn,hs,_⟩)
      · exact hid
      · exact absurd hs (hnone n hn)
    refine ⟨hi,?_⟩
    constructor
    · intro heq
      refine ⟨fun ⟨n,hn,hs⟩ => absurd hs (hbelow n hn),fun _ => .inl ?_⟩
      have hin : g.globalDevice.id g.globalDevice.num ∈ registeredMains g.globalDevice := by
        rw [← heq]
        exact (hreq _).mpr rfl
      exact ((honly _).mp hin).1
    · intro hfits
      have htop := (hfits.2 hbelow).resolve_right hz
      ext id
      rw [hreq,honly]
      exact ⟨fun hid => ⟨htop,hid.symm⟩,fun hid => hid.2.symm⟩

/-- A round ends whatever the devices answer, it enqueues the requests it makes and nothing else,
and it asks exactly the registered mains if and only if the slot at `Num` fits. -/
theorem sync_round_covers_mains_iff (g : Gateway) (hinv : g.globalDevice.Inv)
    (hkinds : KnownKinds g.globalDevice) (hretry : ∀ n, g.globalDevice.syncRetry n = 0)
    (hsem : g.sync.onceSem = 0) (hpc : g.sync.pc = .take) (answers : Nat → Answer) (fuel : Nat)
    (hfuel : 4*g.globalDevice.num+4 ≤ fuel) :
    SyncIdle (syncRound answers fuel 0 (syncRequest g)).2 ∧
    (syncRound answers fuel 0 (syncRequest g)).2.queue433 =
      g.queue433.requestSync (syncRound answers fuel 0 (syncRequest g)).1 ∧
    (requestedIds answers fuel g = registeredMains g.globalDevice ↔
      NumSlotFits g.globalDevice) := by
  have hrequest := syncRequest_queue433 g
  have hqueue := syncRound_queue433 answers fuel 0 (hrequest.2.trans hpc)
  rw [hrequest.1] at hqueue
  have hzero : g.globalDevice.id 0 = 0 := by
    by_contra hne
    have hb := hinv.keyed.bounded 0 hne
    omega
  rcases syncRequest_atSlot hsem hpc hretry with ⟨c,hlt,hm,hgap,hat⟩ | ⟨hnone,hat⟩
  · have hround := round_from_main hinv hkinds hzero answers hfuel hlt hm hgap hat
    exact ⟨hround.1,hqueue,hround.2⟩
  · have hround := round_from_num hinv hkinds hzero answers hfuel hnone hat
    exact ⟨hround.1,hqueue,hround.2⟩

/-- The gateway after mains 10000001 and 10000002 have been registered, in slots 1 and 2. -/
def twoMains : Gateway :=
  deviceAdd2FlashWifi 10000002 0 (deviceAdd2FlashWifi 10000001 0 (powerOn 40000000 []))

theorem twoMains_wellKept : WellKept twoMains :=
  (powerOn_wellKept 40000000).edits (.trans (.add 10000001 0 _) (.add 10000002 0 _))

theorem twoMains_grows : Grows (powerOn 40000000 []) twoMains :=
  (deviceAdd2FlashWifi_grows _ _ _).trans (deviceAdd2FlashWifi_grows _ _ _)

theorem twoMains_retry (n : Nat) : twoMains.globalDevice.syncRetry n = 0 := by
  rw [twoMains_grows.syncRetry]
  rfl

theorem sync_round_two_mains :
    SyncIdle (syncRound (fun _ => .silent) 12 0 (syncRequest twoMains)).2 ∧
    (syncRound (fun _ => .silent) 12 0 (syncRequest twoMains)).2.queue433 =
      twoMains.queue433.requestSync (syncRound (fun _ => .silent) 12 0 (syncRequest twoMains)).1 ∧
    (requestedIds (fun _ => .silent) 12 twoMains = registeredMains twoMains.globalDevice ↔
      NumSlotFits twoMains.globalDevice) :=
  sync_round_covers_mains_iff twoMains twoMains_wellKept.inv twoMains_wellKept.kinds twoMains_retry
    (by rw [twoMains_grows.sync]; rfl) (by rw [twoMains_grows.sync]; rfl) (fun _ => .silent) 12
    (by decide)

/-- Of two mains in slots 1 and 2, the one at slot `Num` is never asked. -/
theorem sync_round_counterexample :
    ¬ ∀ g : Gateway, g.globalDevice.Inv → KnownKinds g.globalDevice →
      (∀ n, g.globalDevice.syncRetry n = 0) → g.sync.onceSem = 0 → g.sync.pc = .take →
      ∀ (answers : Nat → Answer) (fuel : Nat), 4*g.globalDevice.num+4 ≤ fuel →
        requestedIds answers fuel g = registeredMains g.globalDevice := by
  intro h
  have heq := h twoMains twoMains_wellKept.inv twoMains_wellKept.kinds twoMains_retry
    (by rw [twoMains_grows.sync]; rfl) (by rw [twoMains_grows.sync]; rfl)
    (fun _ => .answered false) 12 (by decide)
  have hin : (10000002 : UInt32) ∈ registeredMains twoMains.globalDevice :=
    ⟨2,by decide,by decide,by decide,by decide,by decide⟩
  rw [← heq] at hin
  have hnot : (10000002 : UInt32) ∉
      (syncRound (fun _ => .answered false) 12 0 (syncRequest twoMains)).1 := by decide
  exact hnot hin

end GatewayF411
