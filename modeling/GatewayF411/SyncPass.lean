import GatewayF411.Registry

/-!
One pass of the sync thread. `Sync_Request` starts a round; the thread then addresses one
slot after another, downwards, and moves on when the addressed device has answered or has
used up its retries.
-/

set_option autoImplicit false

namespace GatewayF411
open CText SlotScan

/-- The targets of the sync requests (`GatewayDataEnqueue` with control 4) that the
next step of the sync thread makes. -/
def syncCalls (g : Gateway) : List UInt32 :=
  if g.sync.pc = .settle ∧ g.globalDevice.id g.sync.counter ≠ 0 then
    let g1 := deviceAdd2FlashWifi (g.globalDevice.id g.sync.counter) 0 g
    if g1.globalDevice.syncRetry g.sync.counter < 3 then [g1.globalDevice.id g.sync.counter] else []
  else []

def RadioQueue.requestSync (ids : List UInt32) (q : RadioQueue) : RadioQueue :=
  ids.foldl (fun q id => q.gatewayDataEnqueue id 0 0 4 0) q

@[simp] theorem RadioQueue.requestSync_nil (q : RadioQueue) : q.requestSync [] = q := rfl

theorem RadioQueue.requestSync_append (ids ids' : List UInt32) (q : RadioQueue) :
    q.requestSync (ids ++ ids') = (q.requestSync ids).requestSync ids' := List.foldl_append

theorem deviceAdd2FlashWifi_queue433 (id b : UInt32) (g : Gateway) :
    (deviceAdd2FlashWifi id b g).queue433 = g.queue433 := by
  have hreg := registerDevice_silent id b g
  have hflag := hreg.trans (flashSetUploadFlag_silent id 0 _)
  rw [deviceAdd2FlashWifi_eq]
  split
  · unfold announceDevice
    split
    · obtain ⟨fs,hfs⟩ := addWiFi_onlyEmits
        (flashSetUploadFlag id 0 (registerDevice id b g)).2 (devicePid id) id
      rw [hfs]
      exact hflag.queue433
    · exact hreg.queue433
  · rfl

theorem getNextMain_queue433 (g : Gateway) : (getNextMain g).2.queue433 = g.queue433 := by
  unfold getNextMain
  dsimp only
  split <;> rfl

/-- The calls listed are exactly what a step of the thread does to the radio queue. -/
theorem syncThread_queue433 (g : Gateway) :
    (syncThread g).queue433 = g.queue433.requestSync (syncCalls g) := by
  unfold syncThread syncCalls
  cases hpc : g.sync.pc with
  | take =>
    dsimp only
    split <;> simp
  | wait =>
    unfold syncWait
    dsimp only
    split <;> simp [releaseOnceSem,setSyncRetry,Gateway.setTable]
  | settle =>
    have hq := deviceAdd2FlashWifi_queue433 (g.globalDevice.id g.sync.counter) 0 g
    unfold syncSettle
    dsimp only
    by_cases hid : g.globalDevice.id g.sync.counter = 0
    · simp [hid]
    · simp only [hid,if_false,ne_eq,not_false_eq_true,and_self,if_true]
      generalize deviceAdd2FlashWifi (g.globalDevice.id g.sync.counter) 0 g = g1 at hq ⊢
      by_cases hr : g1.globalDevice.syncRetry g.sync.counter < 3
      · simp [hr,gatewayDataEnqueue,hq,RadioQueue.requestSync]
      · have hn := getNextMain_queue433
          { g1 with sync := { g1.sync with timeoutT := false, pc := .take } }
        simp only [hr,if_false,RadioQueue.requestSync_nil]
        split
        · rename_i g2 hg2
          rw [hg2] at hn
          exact hn.trans hq
        · rename_i g2 hg2
          rw [hg2] at hn
          exact hn.trans hq

theorem syncRequest_queue433 (g : Gateway) :
    (syncRequest g).queue433 = g.queue433 ∧ (syncRequest g).sync.pc = g.sync.pc := by
  unfold syncRequest getNextMain
  dsimp only
  split <;> exact ⟨rfl,rfl⟩

theorem syncRefresh_queue433 (g : Gateway) :
    (syncRefresh g).queue433 = g.queue433 ∧ (syncRefresh g).sync.pc = g.sync.pc := by
  unfold syncRefresh
  split <;> exact ⟨rfl,rfl⟩

theorem syncTimeout_queue433 (g : Gateway) :
    (syncTimeout g).queue433 = g.queue433 ∧ (syncTimeout g).sync.pc = g.sync.pc := by
  unfold syncTimeout syncTimeoutCallback getNextMain
  dsimp only
  split
  · split <;> rename_i heq <;> split at heq <;> cases heq <;> exact ⟨rfl,rfl⟩
  · exact ⟨rfl,rfl⟩

theorem syncThread_settle_pc {g : Gateway} (h : g.sync.pc = .settle) :
    (syncThread g).sync.pc = .wait ∨ (syncThread g).sync.pc = .take := by
  unfold syncThread syncSettle getNextMain
  rw [h]
  dsimp only
  split
  · exact .inr rfl
  · split
    · exact .inl rfl
    · split <;> rename_i heq <;> split at heq <;> cases heq <;> exact .inr rfl

theorem syncThread_wait {g : Gateway} (h : g.sync.pc = .wait) :
    (syncThread g).queue433 = g.queue433 ∧ (syncThread g).sync.pc = .take := by
  have hcalls : syncCalls g = [] := by simp [syncCalls,h]
  refine ⟨by rw [syncThread_queue433,hcalls,RadioQueue.requestSync_nil],?_⟩
  unfold syncThread syncWait
  rw [h]
  dsimp only
  split <;> rfl

/-- How the device addressed by a request behaves: it stays silent, or it answers and
the timer expires before or after the thread looks at `Sync_Recv`. -/
inductive Answer where
  | silent
  | answered (timerFirst : Bool)
  deriving DecidableEq, Repr

def awaitAnswer : Answer → Gateway → Gateway
  | .silent, g => syncThread g
  | .answered true, g => syncThread (syncTimeout (syncRefresh g))
  | .answered false, g => syncTimeout (syncThread (syncRefresh g))

def syncPass (a : Answer) (g : Gateway) : List UInt32 × Gateway :=
  let g1 := syncThread g
  let g2 := syncThread g1
  (syncCalls g1,if g2.sync.pc = .wait then awaitAnswer a g2 else g2)

theorem awaitAnswer_queue433 {g : Gateway} (h : g.sync.pc = .wait) (a : Answer) :
    (awaitAnswer a g).queue433 = g.queue433 ∧ (awaitAnswer a g).sync.pc = .take := by
  have hrefresh := syncRefresh_queue433 g
  cases a with
  | silent => exact syncThread_wait h
  | answered timerFirst =>
    cases timerFirst with
    | true =>
      have htimer := syncTimeout_queue433 (syncRefresh g)
      have hwait := syncThread_wait (htimer.2.trans (hrefresh.2.trans h))
      exact ⟨hwait.1.trans (htimer.1.trans hrefresh.1),hwait.2⟩
    | false =>
      have hwait := syncThread_wait (hrefresh.2.trans h)
      have htimer := syncTimeout_queue433 (syncThread (syncRefresh g))
      exact ⟨htimer.1.trans (hwait.1.trans hrefresh.1),htimer.2.trans hwait.2⟩

theorem syncPass_queue433 {g : Gateway} (hsem : g.sync.onceSem ≠ 0) (hpc : g.sync.pc = .take)
    (a : Answer) :
    (syncPass a g).2.queue433 = g.queue433.requestSync (syncPass a g).1 ∧
      (syncPass a g).2.sync.pc = .take := by
  have htake : syncThread g =
      { g with sync := { g.sync with onceSem := g.sync.onceSem-1, start := true, pc := .settle } } := by
    rw [syncThread,hpc]
    exact if_pos (Nat.pos_of_ne_zero hsem)
  have hsettle : (syncThread g).sync.pc = .settle ∧ (syncThread g).queue433 = g.queue433 := by
    rw [htake]
    exact ⟨rfl,rfl⟩
  have hqueue := syncThread_queue433 (syncThread g)
  rw [hsettle.2] at hqueue
  unfold syncPass
  dsimp only
  rcases syncThread_settle_pc hsettle.1 with hwait | hidle
  · have hawait := awaitAnswer_queue433 hwait a
    rw [if_pos hwait]
    exact ⟨hawait.1.trans hqueue,hawait.2⟩
  · rw [if_neg (by simp [hidle])]
    exact ⟨hqueue,hidle⟩

def syncRound (answers : Nat → Answer) : (fuel k : Nat) → Gateway → List UInt32 × Gateway
  | 0, _, g => ([],g)
  | fuel+1, k, g =>
    if g.sync.onceSem = 0 then ([],g)
    else
      let r := syncPass (answers k) g
      let rest := syncRound answers fuel (k+1) r.2
      (r.1 ++ rest.1,rest.2)

/-- A round puts its requests into the radio queue, in their order, and nothing else. -/
theorem syncRound_queue433 (answers : Nat → Answer) (fuel k : Nat) {g : Gateway}
    (hpc : g.sync.pc = .take) : (syncRound answers fuel k g).2.queue433 =
      g.queue433.requestSync (syncRound answers fuel k g).1 := by
  induction fuel generalizing k g with
  | zero => rfl
  | succ fuel ih =>
    by_cases hsem : g.sync.onceSem = 0
    · simp [syncRound,hsem]
    · have hpass := syncPass_queue433 hsem hpc (answers k)
      simp only [syncRound,hsem,if_false]
      rw [ih (k+1) hpass.2,hpass.1,RadioQueue.requestSync_append]

/-- The thread waits for its semaphore and no timer runs: the round is over. -/
structure SyncIdle (g : Gateway) : Prop where
  onceSem : g.sync.onceSem = 0
  timeoutT : g.sync.timeoutT = false
  pc : g.sync.pc = .take

def MainSlot (d : DeviceInfo) (n : Nat) : Prop := getMainValid (d.id n) (d.bindId n) = .eok

theorem getNextMain_cases (g : Gateway) :
    (∃ c, c < g.sync.counter ∧ MainSlot g.globalDevice c ∧
      (∀ j, c < j → j < g.sync.counter → ¬ MainSlot g.globalDevice j) ∧
      getNextMain g = (.eok,{ g with sync := { g.sync with counter := c } })) ∨
    ((∀ j, j < g.sync.counter → ¬ MainSlot g.globalDevice j) ∧ getNextMain g = (.error,g)) := by
  unfold getNextMain
  dsimp only
  cases hs : scanDown (fun n => getMainValid (g.globalDevice.id (n-1)) (g.globalDevice.bindId (n-1))
      == .eok) g.sync.counter with
  | none =>
    refine .inr ⟨fun j hj hm => ?_,rfl⟩
    have hn := scanDown_eq_none.mp hs (j+1) (by omega) (by omega)
    simp only [Nat.add_sub_cancel,beq_eq_false_iff_ne] at hn
    exact hn hm
  | some k =>
    have hk := scanDown_sound hs
    simp only [beq_iff_eq] at hk
    refine .inl ⟨k-1,by omega,hk.2.2,fun j hj hlt hm => ?_,rfl⟩
    have hn := scanDown_highest hs (j+1) (by omega) (by omega)
    simp only [Nat.add_sub_cancel,beq_eq_false_iff_ne] at hn
    exact hn hm

theorem deviceAdd2FlashWifi_known {g : Gateway} {id : UInt32}
    (h : flashGetKeyValid g.globalDevice id = .eok) (b : UInt32) :
    Quiet g (deviceAdd2FlashWifi id b g) := by
  have hreg : registerDevice id b g = g := by simp [registerDevice,h]
  rw [deviceAdd2FlashWifi_eq,hreg]
  exact .iteLeft _ (announceDevice_quiet _ _ _)

/-- Once an answer is in, the timer and the thread's look at `Sync_Recv` commute. -/
theorem syncThread_syncTimeout {g : Gateway} (hpc : g.sync.pc = .wait) (hrecv : g.sync.recv = true) :
    syncThread (syncTimeout g) = syncTimeout (syncThread g) := by
  unfold syncTimeout syncTimeoutCallback getNextMain
  cases ht : g.sync.timeoutT with
  | false => simp [syncThread,syncWait,hpc,hrecv,ht]
  | true =>
    cases hs : scanDown (fun n => getMainValid (g.globalDevice.id (n-1))
        (g.globalDevice.bindId (n-1)) == .eok) g.sync.counter with
    | none => simp [syncThread,syncWait,hpc,hrecv,ht,hs]
    | some n => simp [syncThread,syncWait,hpc,hrecv,ht,hs,releaseOnceSem]

/-- `c'` is the main that `Get_Next_Main` finds below slot `c`. -/
structure NextMain (d : DeviceInfo) (c c' : Nat) : Prop where
  lt : c' < c
  main : MainSlot d c'
  gap : ∀ j, c' < j → j < c → ¬ MainSlot d j

def NoMain (d : DeviceInfo) (c : Nat) : Prop := ∀ j, j < c → ¬ MainSlot d j

/-- The registrations are those of `d`, and the retry counters are `ρ`. -/
structure Counts (d : DeviceInfo) (ρ : Nat → UInt8) (g : Gateway) : Prop where
  num : g.globalDevice.num = d.num
  id : g.globalDevice.id = d.id
  bindId : g.globalDevice.bindId = d.bindId
  syncRetry : g.globalDevice.syncRetry = ρ

theorem Quiet.counts {d : DeviceInfo} {ρ : Nat → UInt8} {g g' : Gateway} (hq : Quiet g g')
    (h : Counts d ρ g) : Counts d ρ g' :=
  ⟨hq.num.trans h.num,hq.id.trans h.id,hq.bindId.trans h.bindId,hq.syncRetry.trans h.syncRetry⟩

theorem Counts.set {d : DeviceInfo} {ρ : Nat → UInt8} {g : Gateway} (h : Counts d ρ g) (c : Nat)
    (v : UInt8) : Counts d (Function.update ρ c v) (setSyncRetry c v g) := by
  refine ⟨h.num,h.id,h.bindId,?_⟩
  rw [← h.syncRetry]
  rfl

structure Addressing (d : DeviceInfo) (ρ : Nat → UInt8) (c : Nat) (g : Gateway) : Prop
    extends Counts d ρ g where
  counter : g.sync.counter = c
  onceSem : g.sync.onceSem = 1
  timeoutT : g.sync.timeoutT = false
  pc : g.sync.pc = .take

structure Settling (d : DeviceInfo) (ρ : Nat → UInt8) (c : Nat) (g : Gateway) : Prop
    extends Counts d ρ g where
  counter : g.sync.counter = c
  onceSem : g.sync.onceSem = 0
  start : g.sync.start = true
  timeoutT : g.sync.timeoutT = false
  pc : g.sync.pc = .settle

structure Waiting (d : DeviceInfo) (ρ : Nat → UInt8) (c : Nat) (g : Gateway) : Prop
    extends Counts d ρ g where
  counter : g.sync.counter = c
  recv : g.sync.recv = false
  onceSem : g.sync.onceSem = 0
  start : g.sync.start = true
  timeoutT : g.sync.timeoutT = false
  pc : g.sync.pc = .wait

structure Resting (d : DeviceInfo) (ρ : Nat → UInt8) (g : Gateway) : Prop
    extends Counts d ρ g, SyncIdle g

/-- What a pass can leave behind once it is done with slot `c`. -/
def MovesOn (d : DeviceInfo) (ρ : Nat → UInt8) (c : Nat) (g : Gateway) : Prop :=
  (∃ c', NextMain d c c' ∧ Addressing d ρ c' g) ∨ (NoMain d c ∧ Resting d ρ g)

section Pass
variable {d : DeviceInfo} {ρ : Nat → UInt8} {c : Nat} {g : Gateway}

/-- The move to the next main, from a thread that has no unit left and no timer running. -/
theorem getNextMain_next (h : Counts d ρ g) (hcounter : g.sync.counter = c)
    (hsem : g.sync.onceSem = 0) (htimer : g.sync.timeoutT = false) (hpc : g.sync.pc = .take) :
    (∃ g' c', getNextMain g = (.eok,g') ∧ NextMain d c c' ∧
      Addressing d ρ c' (releaseOnceSem g')) ∨
    (getNextMain g = (.error,g) ∧ NoMain d c) := by
  have hslot : ∀ j, MainSlot g.globalDevice j ↔ MainSlot d j := by
    intro j
    simp only [MainSlot,h.id,h.bindId]
  rcases getNextMain_cases g with ⟨c',hlt,hm,hgap,hr⟩ | ⟨hnone,hr⟩
  · rw [hcounter] at hlt hgap
    refine .inl ⟨_,c',hr,⟨hlt,(hslot c').mp hm,
      fun j hj hjc hs => hgap j hj hjc ((hslot j).mpr hs)⟩,?_⟩
    exact ⟨⟨h.num,h.id,h.bindId,h.syncRetry⟩,rfl,by simp [releaseOnceSem,hsem],htimer,hpc⟩
  · rw [hcounter] at hnone
    exact .inr ⟨hr,fun j hj hs => hnone j hj ((hslot j).mpr hs)⟩

theorem Addressing.settling (h : Addressing d ρ c g) : Settling d ρ c (syncThread g) := by
  have htake : syncThread g =
      { g with sync := { g.sync with onceSem := 0, start := true, pc := .settle } } := by
    simp [syncThread,h.pc,h.onceSem]
  rw [htake]
  exact ⟨⟨h.num,h.id,h.bindId,h.syncRetry⟩,h.counter,rfl,rfl,h.timeoutT,rfl⟩

theorem Settling.known (h : Settling d ρ c g) (h1 : 1 ≤ c) (hc : c ≤ d.num) :
    flashGetKeyValid g.globalDevice (g.globalDevice.id c) = .eok :=
  flashGetKeyValid_eok.mpr ⟨c,h1,by rw [h.num]; exact hc,rfl⟩

theorem Settling.request (h : Settling d ρ c g) (h1 : 1 ≤ c) (hc : c ≤ d.num) (hid : d.id c ≠ 0)
    (hr : ρ c < 3) : syncCalls g = [d.id c] ∧ Waiting d ρ c (syncThread g) := by
  have hq := deviceAdd2FlashWifi_known (h.known h1 hc) 0
  have hne : g.globalDevice.id c ≠ 0 := by rw [h.id]; exact hid
  have hretry : (deviceAdd2FlashWifi (g.globalDevice.id c) 0 g).globalDevice.syncRetry c < 3 := by
    rw [hq.syncRetry,h.syncRetry]
    exact hr
  refine ⟨?_,?_⟩
  · simp only [syncCalls,h.pc,h.counter,ne_eq,hne,not_false_eq_true,and_self,if_true,hretry]
    rw [hq.id,h.id]
  · simp only [syncThread,h.pc,syncSettle,h.counter,hne,if_false,hretry,if_true]
    have hcounts := hq.counts h.toCounts
    exact ⟨⟨hcounts.num,hcounts.id,hcounts.bindId,hcounts.syncRetry⟩,
      (congrArg SyncState.counter hq.sync).trans h.counter,rfl,
      (congrArg SyncState.onceSem hq.sync).trans h.onceSem,
      (congrArg SyncState.start hq.sync).trans h.start,
      (congrArg SyncState.timeoutT hq.sync).trans h.timeoutT,rfl⟩

/-- At the limit no request is made. The counter of the device is cleared only if no other
main follows. -/
theorem Settling.exhausted (h : Settling d ρ c g) (h1 : 1 ≤ c) (hc : c ≤ d.num) (hid : d.id c ≠ 0)
    (hr : ¬ ρ c < 3) : syncCalls g = [] ∧
      ((∃ c', NextMain d c c' ∧ Addressing d ρ c' (syncThread g)) ∨
        (NoMain d c ∧ Resting d (Function.update ρ c 0) (syncThread g))) ∧
      (syncThread g).sync.pc = .take := by
  have hq := deviceAdd2FlashWifi_known (h.known h1 hc) 0
  have hne : g.globalDevice.id c ≠ 0 := by rw [h.id]; exact hid
  have hretry : ¬ (deviceAdd2FlashWifi (g.globalDevice.id c) 0 g).globalDevice.syncRetry c < 3 := by
    rw [hq.syncRetry,h.syncRetry]
    exact hr
  refine ⟨by simp [syncCalls,h.pc,h.counter,hne,hretry],?_⟩
  simp only [syncThread,h.pc,syncSettle,h.counter,hne,if_false,hretry]
  generalize deviceAdd2FlashWifi (g.globalDevice.id c) 0 g = g1 at hq ⊢
  have hcounts := hq.counts h.toCounts
  have hsem : g1.sync.onceSem = 0 := (congrArg SyncState.onceSem hq.sync).trans h.onceSem
  have hcounter : g1.sync.counter = c := (congrArg SyncState.counter hq.sync).trans h.counter
  have hmove := getNextMain_next (d := d) (ρ := ρ) (c := c)
    (g := { g1 with sync := { g1.sync with timeoutT := false, pc := .take } })
    ⟨hcounts.num,hcounts.id,hcounts.bindId,hcounts.syncRetry⟩ hcounter hsem rfl rfl
  rcases hmove with ⟨g',c',hr',hnext,hat⟩ | ⟨hr',hnone⟩
  · rw [hr']
    exact ⟨.inl ⟨c',hnext,hat⟩,hat.pc⟩
  · rw [hr']
    refine ⟨.inr ⟨hnone,?_,hsem,rfl,rfl⟩,rfl⟩
    have hset := hcounts.set c 0
    dsimp only
    rw [hcounter]
    exact ⟨hset.num,hset.id,hset.bindId,hset.syncRetry⟩

theorem Waiting.silent (h : Waiting d ρ c g) :
    Addressing d (Function.update ρ c (ρ c+1)) c (syncThread g) := by
  simp only [syncThread,h.pc,syncWait,h.recv,Bool.false_eq_true,if_false,h.counter]
  have hset := h.toCounts.set c (ρ c+1)
  have hretry := congrFun h.syncRetry c
  refine ⟨⟨hset.num,hset.id,hset.bindId,?_⟩,rfl,congrArg (· + 1) h.onceSem,h.timeoutT,rfl⟩
  rw [← hset.syncRetry,← hretry]
  rfl

theorem Waiting.answered (h : Waiting d ρ c g) (b : Bool) :
    MovesOn d (Function.update ρ c 0) c (awaitAnswer (.answered b) g) := by
  have hrefresh : syncRefresh g = { setSyncRetry c 0 g with
      sync := { g.sync with recv := true, timeoutT := true } } := by
    simp [syncRefresh,h.start,h.counter,setSyncRetry,Gateway.setTable]
  have hsame : awaitAnswer (.answered b) g = syncTimeout (syncThread (syncRefresh g)) := by
    cases b with
    | false => rfl
    | true =>
      refine syncThread_syncTimeout ?_ ?_
      · rw [hrefresh]
        exact h.pc
      · rw [hrefresh]
  have hthread : syncThread (syncRefresh g) = { setSyncRetry c 0 g with
      sync := { g.sync with recv := true, timeoutT := true, pc := .take } } := by
    rw [hrefresh]
    simp [syncThread,syncWait,setSyncRetry,Gateway.setTable,h.pc]
  rw [hsame,hthread]
  have hset := h.toCounts.set c 0
  have hmove := getNextMain_next (d := d) (ρ := Function.update ρ c 0) (c := c)
    (g := { setSyncRetry c 0 g with
      sync := { g.sync with recv := true, timeoutT := false, pc := .take } })
    ⟨hset.num,hset.id,hset.bindId,hset.syncRetry⟩ h.counter h.onceSem rfl rfl
  simp only [syncTimeout,syncTimeoutCallback,if_true]
  rcases hmove with ⟨g',c',hr',hnext,hat⟩ | ⟨hr',hnone⟩
  · rw [hr']
    exact .inl ⟨c',hnext,hat⟩
  · rw [hr']
    exact .inr ⟨hnone,⟨hset.num,hset.id,hset.bindId,hset.syncRetry⟩,h.onceSem,rfl,rfl⟩

section
variable (h : Addressing d ρ c g) (h1 : 1 ≤ c) (hc : c ≤ d.num) (hid : d.id c ≠ 0)
include h h1 hc hid

theorem Addressing.pass_silent (hr : ρ c < 3) :
    (syncPass .silent g).1 = [d.id c] ∧
    Addressing d (Function.update ρ c (ρ c+1)) c (syncPass .silent g).2 := by
  obtain ⟨hcalls,hwait⟩ := h.settling.request h1 hc hid hr
  refine ⟨hcalls,?_⟩
  simp only [syncPass,hwait.pc,if_true]
  exact hwait.silent

theorem Addressing.pass_answered (hr : ρ c < 3) (b : Bool) :
    (syncPass (.answered b) g).1 = [d.id c] ∧
    MovesOn d (Function.update ρ c 0) c (syncPass (.answered b) g).2 := by
  obtain ⟨hcalls,hwait⟩ := h.settling.request h1 hc hid hr
  refine ⟨hcalls,?_⟩
  simp only [syncPass,hwait.pc,if_true]
  exact hwait.answered b

theorem Addressing.pass_exhausted (hr : ¬ ρ c < 3) (a : Answer) :
    (syncPass a g).1 = [] ∧
    ((∃ c', NextMain d c c' ∧ Addressing d ρ c' (syncPass a g).2) ∨
      (NoMain d c ∧ Resting d (Function.update ρ c 0) (syncPass a g).2)) := by
  obtain ⟨hcalls,hmoved,hpc⟩ := h.settling.exhausted h1 hc hid hr
  refine ⟨hcalls,?_⟩
  simp only [syncPass,hpc,reduceCtorEq,if_false]
  exact hmoved

end

theorem Addressing.pass_free (h : Addressing d ρ c g) (hid : d.id c = 0) (a : Answer) :
    (syncPass a g).1 = [] ∧ Resting d ρ (syncPass a g).2 := by
  have hset := h.settling
  have hz : (syncThread g).globalDevice.id (syncThread g).sync.counter = 0 := by
    rw [hset.counter,hset.id,hid]
  have hcalls : syncCalls (syncThread g) = [] := by simp [syncCalls,hz]
  have hthread : syncThread (syncThread g) =
      { syncThread g with sync := { (syncThread g).sync with pc := .take } } := by
    rw [syncThread,hset.pc]
    simp [syncSettle,hz]
  have hpass : syncPass a g = ([],syncThread (syncThread g)) := by
    simp [syncPass,hcalls,hthread]
  rw [hpass,hthread]
  exact ⟨rfl,⟨hset.num,hset.id,hset.bindId,hset.syncRetry⟩,hset.onceSem,hset.timeoutT,rfl⟩

end Pass

theorem mainSlot_ne_zero {d : DeviceInfo} {n : Nat} (h : MainSlot d n) : d.id n ≠ 0 := by
  intro hz
  simp [MainSlot,getMainValid,hz] at h

/-- `Sync_Request` starts at the highest main below `Num`, and at `Num` itself if there is none. -/
theorem syncRequest_addressing {d : DeviceInfo} {ρ : Nat → UInt8} {g : Gateway} (h : Counts d ρ g)
    (hsem : g.sync.onceSem = 0) (hpc : g.sync.pc = .take) :
    (∃ c, NextMain d d.num c ∧ Addressing d ρ c (syncRequest g)) ∨
    (NoMain d d.num ∧ Addressing d ρ d.num (syncRequest g)) := by
  unfold syncRequest
  dsimp only
  rcases getNextMain_next (d := d) (ρ := ρ) (c := d.num) (g := { g with
      sync := { g.sync with timeoutT := false, counter := g.globalDevice.num } })
    ⟨h.num,h.id,h.bindId,h.syncRetry⟩ h.num hsem rfl hpc with ⟨g',c,hr,hnext,hat⟩ | ⟨hr,hnone⟩
  · rw [hr]
    exact .inl ⟨c,hnext,hat⟩
  · rw [hr]
    exact .inr ⟨hnone,⟨h.num,h.id,h.bindId,h.syncRetry⟩,h.num,congrArg (· + 1) hsem,rfl,hpc⟩

end GatewayF411
