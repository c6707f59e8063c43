import GatewayF411.Lib.Runs
import GatewayF411.SyncRound

/-!
Which main a reply is credited to. A run is watched from outside: the log keeps the
sync requests that were enqueued and the sync-data frames that were received, newest
first. The code itself never compares the sender with the main it waits for.
-/

set_option autoImplicit false

namespace GatewayF411
open CText SlotScan Runs

inductive Observed where
  | request (id : UInt32)
  | data (id : UInt32)
  deriving DecidableEq, Repr

/-- The sender of an accepted sync-data frame: sync type 3 or 5, or control command 5. -/
def dataFrom (g : Gateway) : Event → Option UInt32
  | .radio junk _ buffer len =>
    let m := parseSync (gatewayFields buffer) junk
    let c := parseReport (gatewayFields buffer) junk
    if SyncAccepted g junk buffer len ∧ (m.type = 3 ∨ m.type = 5) then some (u32 m.fromId)
    else if ControlAccepted g junk buffer len ∧ c.command = 5 then some (u32 c.fromId)
    else none
  | _ => none

def observe (g : Gateway) : Event → List Observed
  | .syncThread => (syncCalls g).map .request
  | e => (dataFrom g e).toList.map .data

structure Logged where
  gateway : Gateway
  log : List Observed

def loggedStep (s : Logged) (e : Event) : Logged :=
  ⟨step s.gateway e,observe s.gateway e ++ s.log⟩

/-- The requests in the log are those that the step put into the radio queue. -/
def LogsRequests (s s' : Logged) : Prop :=
  ∃ ids, s'.log = ids.map .request ++ s.log ∧
    s'.gateway.queue433 = s.gateway.queue433.requestSync ids

theorem loggedStep_logsRequests (s : Logged) : LogsRequests s (loggedStep s .syncThread) :=
  ⟨syncCalls s.gateway,rfl,syncThread_queue433 s.gateway⟩

def lastRequest : List Observed → Option UInt32
  | [] => none
  | .request id :: _ => some id
  | .data _ :: log => lastRequest log

def Gateway.syncTarget (g : Gateway) : UInt32 := g.globalDevice.id g.sync.counter

/-- The event leaves main `m` behind as answered: `Sync_Counter` points at it with
`Sync_Recv` set and its retries cleared, and either the timer expires or the thread
ends the wait that belongs to the request to `m`. -/
def LeavesAnswered (s : Logged) (e : Event) (m : UInt32) : Prop :=
  s.gateway.syncTarget = m ∧ isMain m = true ∧ s.gateway.sync.recv = true ∧
  s.gateway.globalDevice.syncRetry s.gateway.sync.counter = 0 ∧
  ((e = .syncTimeout ∧ s.gateway.sync.timeoutT = true) ∨
    (e = .syncThread ∧ s.gateway.sync.pc = .wait ∧ lastRequest s.log = some m))

/-- A sync-data frame of `m` was received after the latest sync request to `m`. -/
def AttributedTo (log : List Observed) (m : UInt32) : Prop :=
  ∃ newer older, log = newer ++ .data m :: older ∧ .request m ∈ older ∧ .request m ∉ newer

/-- The condition on one event: sync data that arrives while a round is on comes from
the main at `Sync_Counter`, which was also the last to be asked, and no frame is
handled while the timer runs over a slot that has been freed. -/
def RepliesInTurn (s : Logged) (e : Event) : Prop :=
  (∀ id, dataFrom s.gateway e = some id → s.gateway.sync.start = true →
    s.gateway.syncTarget = id ∧ lastRequest s.log = some id) ∧
  (∀ junk rssi buffer len, e = .radio junk rssi buffer len → s.gateway.sync.timeoutT = true →
    s.gateway.syncTarget ≠ 0)

def AnsweredLast (log : List Observed) (m : UInt32) : Prop :=
  ∃ newer older, log = newer ++ .data m :: older ∧ lastRequest older = some m ∧
    ∀ id, .request id ∉ newer

theorem mem_of_lastRequest {log : List Observed} {m : UInt32} (h : lastRequest log = some m) :
    .request m ∈ log := by
  induction log with
  | nil => simp [lastRequest] at h
  | cons o log ih =>
    cases o with
    | request id =>
      simp only [lastRequest,Option.some.injEq] at h
      simp [h]
    | data id => exact List.mem_cons_of_mem _ (ih h)

theorem lastRequest_append {newer older : List Observed} (h : ∀ id, .request id ∉ newer) :
    lastRequest (newer ++ older) = lastRequest older := by
  induction newer with
  | nil => rfl
  | cons o newer ih =>
    cases o with
    | request id => exact absurd List.mem_cons_self (h id)
    | data id => exact ih (fun x hx => h x (List.mem_cons_of_mem _ hx))

theorem AnsweredLast.lastRequest {log : List Observed} {m : UInt32} (h : AnsweredLast log m) :
    lastRequest log = some m := by
  obtain ⟨newer,older,rfl,hlast,hnone⟩ := h
  rw [lastRequest_append hnone]
  exact hlast

theorem AnsweredLast.attributedTo {log : List Observed} {m : UInt32} (h : AnsweredLast log m) :
    AttributedTo log m := by
  obtain ⟨newer,older,rfl,hlast,hnone⟩ := h
  exact ⟨newer,older,rfl,mem_of_lastRequest hlast,hnone m⟩

theorem AnsweredLast.data {log : List Observed} {m : UInt32} (h : AnsweredLast log m) (x : UInt32) :
    AnsweredLast (.data x :: log) m := by
  obtain ⟨newer,older,rfl,hlast,hnone⟩ := h
  refine ⟨.data x :: newer,older,rfl,hlast,fun id hid => ?_⟩
  rcases List.mem_cons.mp hid with heq | hmem
  · cases heq
  · exact hnone id hmem

structure ReplyInv (s : Logged) : Prop where
  recv : s.gateway.sync.recv = true → ∃ m, AnsweredLast s.log m
  timer : s.gateway.sync.timeoutT = true →
    s.gateway.syncTarget = 0 ∨ lastRequest s.log = some s.gateway.syncTarget
  asked : .request 0 ∉ s.log

theorem ReplyInv.attributed {s : Logged} (h : ReplyInv s) {e : Event} {m : UInt32}
    (hl : LeavesAnswered s e m) : AttributedTo s.log m := by
  obtain ⟨htarget,hmain,hrecv,_,hwho⟩ := hl
  obtain ⟨x,hx⟩ := h.recv hrecv
  have hlast : lastRequest s.log = some m := by
    rcases hwho with ⟨_,ht⟩ | ⟨_,_,hlast⟩
    · rw [← htarget]
      refine (h.timer ht).resolve_left ?_
      rw [htarget]
      exact isMain_ne_zero hmain
    · exact hlast
  have hxm : x = m := by
    have hsame := hx.lastRequest.symm.trans hlast
    simpa using hsame
  rw [hxm] at hx
  exact hx.attributedTo

section Slots
variable {n : Nat} {x : UInt32}

/-- Slot `n`, which held `x`, still holds `x` or has been freed. -/
def KeptOrFreed (n : Nat) (x : UInt32) (g : Gateway) : Prop :=
  g.globalDevice.id n = x ∨ g.globalDevice.id n = 0

theorem KeptOrFreed.same {g g' : Gateway} (h : KeptOrFreed n x g) (hs : SameRegistry g g') :
    KeptOrFreed n x g' := by
  unfold KeptOrFreed
  rw [hs.id]
  exact h

theorem KeptOrFreed.clear {g : Gateway} (h : KeptOrFreed n x g) {g' : Gateway} {y : UInt32} {k : Nat}
    (htable : g'.globalDevice = g.globalDevice.clear y k) : KeptOrFreed n x g' := by
  unfold KeptOrFreed
  rw [htable]
  by_cases hnk : n = k
  · simp [DeviceInfo.clear,hnk]
  · simpa [DeviceInfo.clear,KeptOrFreed,hnk] using h

theorem KeptOrFreed.delDevice {g : Gateway} (h : KeptOrFreed n x g) (id : UInt32) :
    KeptOrFreed n x (delDevice id g).2 := by
  cases hs : findSlot g.globalDevice id with
  | none =>
    rw [delDevice_none hs]
    exact h
  | some k => exact h.clear (delDevice_table hs)

theorem KeptOrFreed.delMainBind {g : Gateway} (h : KeptOrFreed n x g) (a : UInt32) :
    KeptOrFreed n x (delMainBind a g).2 := by
  refine foldDown_keeps (fun s => KeptOrFreed n x s) (fun k s hs => ?_) h
  by_cases hb : s.globalDevice.bindId k = a ∨ s.globalDevice.id k = a
  · exact hs.clear (delMainBindBody_table hb)
  · rw [delMainBindBody_skip hb]
    exact hs

theorem deviceAdd2FlashWifi_keptOrFreed {g : Gateway} (hx : x ≠ 0) (h : g.globalDevice.id n = x)
    (id b : UInt32) : KeptOrFreed n x (deviceAdd2FlashWifi id b g) := by
  rcases deviceAdd2FlashWifi_slot id b g n with hkeep | ⟨hz,_⟩
  · exact .inl (hkeep.trans h)
  · exact absurd (h.symm.trans hz) hx

/-- A device that is learned again returns to its slot or leaves it free. -/
theorem learnAgain_keptOrFreed {g : Gateway} (hx : x ≠ 0) (h : g.globalDevice.id n = x)
    (id : UInt32) : KeptOrFreed n x (deviceAdd2FlashWifi id 0 (delDevice id g).2) := by
  cases hs : findSlot g.globalDevice id with
  | none =>
    rw [delDevice_none hs]
    exact deviceAdd2FlashWifi_keptOrFreed hx h id 0
  | some k =>
    by_cases hnk : n = k
    · subst hnk
      have hid : id = x := (findSlot_sound hs).2.2.symm.trans h
      have hfreed : (delDevice id g).2.globalDevice.id n = 0 := by
        rw [delDevice_table hs]
        simp [DeviceInfo.clear]
      rcases deviceAdd2FlashWifi_slot id 0 (delDevice id g).2 n with hkeep | ⟨_,hnew⟩
      · exact .inr (hkeep.trans hfreed)
      · exact .inl (hnew.trans hid)
    · have hkeep : (delDevice id g).2.globalDevice.id n = x := by
        rw [delDevice_table hs]
        simpa [DeviceInfo.clear,hnk] using h
      exact deviceAdd2FlashWifi_keptOrFreed hx hkeep id 0

theorem deviceLearn_keptOrFreed {g : Gateway} (hx : x ≠ 0) (h : g.globalDevice.id n = x)
    (m : Message) : KeptOrFreed n x (deviceLearn m g) := by
  unfold deviceLearn
  split
  · exact .inl h
  · split
    · split
      · exact .inl h
      · exact learnAgain_keptOrFreed hx h _
      · exact .inl h
    · exact .inl h

theorem normalSolve_keptOrFreed {g : Gateway} (hx : x ≠ 0) (h : g.globalDevice.id n = x)
    (junk : Message) (buffer : List UInt8) (len : Nat) :
    KeptOrFreed n x (normalSolve junk buffer len g) := by
  unfold normalSolve
  dsimp only
  split
  · split
    · split
      · exact .inl h
      · refine KeptOrFreed.same ?_ (heartUpload_quiet _ _ _).sameRegistry
        split
        · exact deviceLearn_keptOrFreed hx h _
        · exact .inl h
    · exact .inl h
  · exact .inl h

theorem syncCommand_keptOrFreed {g : Gateway} (hx : x ≠ 0) (h : g.globalDevice.id n = x)
    (m : Message) : KeptOrFreed n x (syncCommand m g) := by
  have hrefresh : (syncRefresh g).globalDevice.id n = x := by
    rw [(syncRefresh_sameRegistry g).id]
    exact h
  have hkept : KeptOrFreed n x g := .inl h
  unfold syncCommand
  split
  · exact hkept.same (deviceSeen_quiet g m).sameRegistry
  · exact (hkept.same (localDelete_onlyEmits g _).quiet.sameRegistry).delDevice _
  · exact (deviceAdd2FlashWifi_keptOrFreed hx hrefresh _ _).same (syncOnline_quiet _ m).sameRegistry
  · exact hkept.delMainBind _
  · exact (deviceAdd2FlashWifi_keptOrFreed hx hrefresh _ _).same (syncOffline_quiet _ m).sameRegistry
  · exact (deviceAdd2FlashWifi_keptOrFreed hx h _ _).same (syncOnline_quiet _ m).sameRegistry
  · exact hkept

theorem gatewaySyncSolve_keptOrFreed {g : Gateway} (hx : x ≠ 0) (h : g.globalDevice.id n = x)
    (junk : Message) (rssi : Int) (buffer : List UInt8) (len : Nat) :
    KeptOrFreed n x (gatewaySyncSolve junk rssi buffer len g) := by
  unfold gatewaySyncSolve
  dsimp only
  split
  · split
    · refine syncCommand_keptOrFreed hx ?_ _
      rw [(heartUpload_quiet _ _ _).id,(mainRssiReport_onlyEmits _ _ _).quiet.id,
        (ackFrame_quiet _ _).id]
      exact h
    · exact .inl h
  · exact .inl h

theorem radio_keptOrFreed {g : Gateway} (hx : x ≠ 0) (h : g.globalDevice.id n = x) (junk : Message)
    (rssi : Int) (buffer : List UInt8) (len : Nat) :
    KeptOrFreed n x (rf433RxCallback junk rssi buffer len g) := by
  have hkept : KeptOrFreed n x g := .inl h
  unfold rf433RxCallback
  split
  · exact normalSolve_keptOrFreed hx h junk buffer len
  · exact gatewaySyncSolve_keptOrFreed hx h junk rssi buffer len
  · exact hkept.same (gatewayWarningSolve_sameRegistry g junk rssi buffer len)
  · exact hkept.same (gatewayControlSolve_sameRegistry g junk rssi buffer len)
  · exact hkept

theorem subdeviceDelete_keptOrFreed {g : Gateway} (h : g.globalDevice.id n = x) (subId : Text) :
    KeptOrFreed n x (subdeviceDelete subId g) := by
  have hkept : KeptOrFreed n x g := .inl h
  have hdel := (hkept.same (gatewayDataEnqueue_quiet g
    (getBindId g.globalDevice (u32 (atol subId))) (u32 (atol subId)) 0 6 0).sameRegistry).delDevice
    (u32 (atol subId))
  unfold subdeviceDelete remoteDelete
  dsimp only
  split
  · exact hdel.same ((reportValue_onlyEmits _ _ _ _).trans (.emit _ _)).quiet.sameRegistry
  · exact hdel.same (OnlyEmits.emit _ _).quiet.sameRegistry

end Slots

def refreshed (s : SyncState) : SyncState :=
  if s.start then { s with recv := true, timeoutT := true } else s

theorem syncRefresh_sync (g : Gateway) : (syncRefresh g).sync = refreshed g.sync := by
  unfold syncRefresh refreshed
  cases h : g.sync.start <;> simp [setSyncRetry,Gateway.setTable,h]

theorem syncCommand_sync (g : Gateway) (m : Message) :
    (syncCommand m g).sync = if m.type = 3 ∨ m.type = 5 then refreshed g.sync else g.sync := by
  by_cases h : m.type = 3 ∨ m.type = 5
  · rw [if_pos h,(syncCommand_data g m h).sync,syncRefresh_sync]
  · rw [if_neg h]
    simp only [not_or] at h
    exact (syncCommand_grows g m h.1 h.2).sync

theorem controlCommand_sync (g : Gateway) (m : Message) :
    (controlCommand m g).sync = if m.command = 5 then refreshed g.sync else g.sync := by
  by_cases h : m.command = 5
  · rw [if_pos h,(controlCommand_five g m h).sync,syncRefresh_sync]
  · rw [if_neg h]
    exact (controlCommand_quiet g m h).sync

theorem gatewaySyncSolve_sync (g : Gateway) (junk : Message) (rssi : Int) (buffer : List UInt8)
    (len : Nat) (hroute : charAt buffer 1 = 'A') :
    (gatewaySyncSolve junk rssi buffer len g).sync =
      if (dataFrom g (.radio junk rssi buffer len)).isSome then refreshed g.sync else g.sync := by
  have hc : ¬ ControlAccepted g junk buffer len := by
    intro hc
    have h := hroute.symm.trans hc.1
    simp at h
  have hpre : ∀ id, (heartUpload id 1 (mainRssiReport id rssi (ackFrame
      (parseSync (gatewayFields buffer) junk) g))).sync = g.sync := by
    intro id
    rw [(heartUpload_quiet _ _ _).sync,(mainRssiReport_onlyEmits _ _ _).quiet.sync,
      (ackFrame_quiet _ _).sync]
  unfold gatewaySyncSolve dataFrom
  dsimp only
  split
  · rename_i hend
    split
    · rename_i hacc
      have ha : SyncAccepted g junk buffer len := ⟨hroute,hend,hacc.1,hacc.2⟩
      rw [syncCommand_sync,hpre]
      by_cases ht : (parseSync (gatewayFields buffer) junk).type = 3 ∨
          (parseSync (gatewayFields buffer) junk).type = 5
      · simp [ha,ht]
      · simp [ht,hc]
    · rename_i hacc
      have ha : ¬ SyncAccepted g junk buffer len := fun ha => hacc ha.2.2
      simp [ha,hc]
  · rename_i hend
    have ha : ¬ SyncAccepted g junk buffer len := fun ha => hend ha.2.1
    simp [ha,hc]

theorem gatewayControlSolve_sync (g : Gateway) (junk : Message) (rssi : Int) (buffer : List UInt8)
    (len : Nat) (hroute : charAt buffer 1 = 'C') :
    (gatewayControlSolve junk rssi buffer len g).sync =
      if (dataFrom g (.radio junk rssi buffer len)).isSome then refreshed g.sync else g.sync := by
  have hs : ¬ SyncAccepted g junk buffer len := by
    intro hs
    have h := hroute.symm.trans hs.1
    simp at h
  have hpre : ∀ id, (heartUpload id 1 (mainRssiReport id rssi (ackFrame
      (parseReport (gatewayFields buffer) junk) g))).sync = g.sync := by
    intro id
    rw [(heartUpload_quiet _ _ _).sync,(mainRssiReport_onlyEmits _ _ _).quiet.sync,
      (ackFrame_quiet _ _).sync]
  unfold gatewayControlSolve dataFrom
  dsimp only
  split
  · rename_i hend
    split
    · rename_i hacc
      have ha : ControlAccepted g junk buffer len := ⟨hroute,hend,hacc.1,hacc.2⟩
      rw [controlCommand_sync,hpre]
      by_cases ht : (parseReport (gatewayFields buffer) junk).command = 5
      · simp [hs,ha,ht]
      · simp [hs,ht]
    · rename_i hacc
      have ha : ¬ ControlAccepted g junk buffer len := fun ha => hacc ha.2.2
      simp [ha,hs]
  · rename_i hend
    have ha : ¬ ControlAccepted g junk buffer len := fun ha => hend ha.2.1
    simp [ha,hs]

theorem gatewayWarningSolve_sync (g : Gateway) (junk : Message) (rssi : Int) (buffer : List UInt8)
    (len : Nat) : (gatewayWarningSolve junk rssi buffer len g).sync = g.sync := by
  unfold gatewayWarningSolve
  dsimp only
  split
  · split
    · rw [(warningCommand_quiet _ _).sync,(mainRssiReport_onlyEmits _ _ _).quiet.sync,
        (heartUpload_quiet _ _ _).sync,(ackFrame_quiet _ _).sync]
    · rfl
  · rfl

/-- Only accepted sync-data frames touch the synchronisation state. -/
theorem radio_sync (g : Gateway) (junk : Message) (rssi : Int) (buffer : List UInt8) (len : Nat) :
    (rf433RxCallback junk rssi buffer len g).sync =
      if (dataFrom g (.radio junk rssi buffer len)).isSome then refreshed g.sync else g.sync := by
  have hother : charAt buffer 1 ≠ 'A' → charAt buffer 1 ≠ 'C' →
      dataFrom g (.radio junk rssi buffer len) = none := by
    intro hA hC
    have ha : ¬ SyncAccepted g junk buffer len := fun ha => hA ha.1
    have hc : ¬ ControlAccepted g junk buffer len := fun hc => hC hc.1
    simp [dataFrom,ha,hc]
  unfold rf433RxCallback
  split
  · rename_i hroute
    rw [hother (by simp [hroute]) (by simp [hroute]),(normalSolve_grows g junk buffer len).sync]
    rfl
  · rename_i hroute
    exact gatewaySyncSolve_sync g junk rssi buffer len hroute
  · rename_i hroute
    rw [hother (by simp [hroute]) (by simp [hroute]),gatewayWarningSolve_sync]
    rfl
  · rename_i hroute
    exact gatewayControlSolve_sync g junk rssi buffer len hroute
  · rename_i _ hA _ hC
    rw [hother hA hC]
    rfl

structure NoReply (g g' : Gateway) : Prop where
  recv : g'.sync.recv = g.sync.recv
  timer : g'.sync.timeoutT = true → g.sync.timeoutT = true ∧ g'.sync.counter = g.sync.counter

theorem NoReply.of_sync {g g' : Gateway} (h : g'.sync = g.sync) : NoReply g g' :=
  ⟨by rw [h],fun ht => ⟨by rw [← h]; exact ht,by rw [h]⟩⟩

theorem ReplyInv.noReply {s : Logged} (h : ReplyInv s) {g' : Gateway} (hn : NoReply s.gateway g')
    (hslot : s.gateway.sync.timeoutT = true → g'.sync.timeoutT = true →
      KeptOrFreed s.gateway.sync.counter s.gateway.syncTarget g') : ReplyInv ⟨g',s.log⟩ := by
  refine ⟨fun hr => h.recv (hn.recv ▸ hr),fun ht' => ?_,h.asked⟩
  obtain ⟨ht,hcounter⟩ := hn.timer ht'
  have htarget : g'.syncTarget = g'.globalDevice.id s.gateway.sync.counter := by
    rw [Gateway.syncTarget,hcounter]
  rw [htarget]
  rcases hslot ht ht' with hkept | hfreed
  · rw [hkept]
    exact h.timer ht
  · exact .inl hfreed

theorem ReplyInv.stopped {s : Logged} (h : ReplyInv s) {g' : Gateway}
    (hrecv : g'.sync.recv = s.gateway.sync.recv) (ht : g'.sync.timeoutT = false) :
    ReplyInv ⟨g',s.log⟩ :=
  ⟨fun hr => h.recv (hrecv ▸ hr),fun ht' => absurd (ht.symm.trans ht') (by simp),h.asked⟩

theorem ReplyInv.data {s : Logged} (h : ReplyInv s) (x : UInt32) :
    ReplyInv ⟨s.gateway,.data x :: s.log⟩ := by
  refine ⟨fun hr => ?_,h.timer,?_⟩
  · obtain ⟨m,hm⟩ := h.recv hr
    exact ⟨m,hm.data x⟩
  · intro hmem
    rcases List.mem_cons.mp hmem with heq | hmem
    · cases heq
    · exact h.asked hmem

theorem ReplyInv.answered {s : Logged} (h : ReplyInv s) {g' : Gateway} {id : UInt32}
    (hlast : lastRequest s.log = some id) (hcounter : g'.sync.counter = s.gateway.sync.counter)
    (hslot : KeptOrFreed s.gateway.sync.counter id g') : ReplyInv ⟨g',.data id :: s.log⟩ := by
  refine ⟨fun _ => ⟨id,[],s.log,rfl,hlast,by simp⟩,fun _ => ?_,(h.data id).asked⟩
  have htarget : g'.syncTarget = g'.globalDevice.id s.gateway.sync.counter := by
    rw [Gateway.syncTarget,hcounter]
  rw [htarget]
  rcases hslot with hkept | hfreed
  · rw [hkept]
    exact .inr hlast
  · exact .inl hfreed

theorem radio_replyInv {s : Logged} (h : ReplyInv s) (junk : Message) (rssi : Int)
    (buffer : List UInt8) (len : Nat) (hc : RepliesInTurn s (.radio junk rssi buffer len)) :
    ReplyInv (loggedStep s (.radio junk rssi buffer len)) := by
  have hsync := radio_sync s.gateway junk rssi buffer len
  have hslot : s.gateway.syncTarget ≠ 0 → KeptOrFreed s.gateway.sync.counter s.gateway.syncTarget
      (rf433RxCallback junk rssi buffer len s.gateway) :=
    fun hne => radio_keptOrFreed hne rfl junk rssi buffer len
  cases hd : dataFrom s.gateway (.radio junk rssi buffer len) with
  | none =>
    simp only [hd,Option.isSome_none,Bool.false_eq_true,if_false] at hsync
    simp only [loggedStep,observe,hd,Option.toList_none,List.map_nil,List.nil_append]
    exact h.noReply (.of_sync hsync) (fun ht _ => hslot (hc.2 _ _ _ _ rfl ht))
  | some id =>
    simp only [hd,Option.isSome_some,if_true] at hsync
    simp only [loggedStep,observe,hd,Option.toList_some,List.map_cons,List.map_nil,
      List.cons_append,List.nil_append]
    cases hstart : s.gateway.sync.start with
    | false =>
      have hsame : (rf433RxCallback junk rssi buffer len s.gateway).sync = s.gateway.sync := by
        simpa [refreshed,hstart] using hsync
      exact (h.data id).noReply (.of_sync hsame) (fun ht _ => hslot (hc.2 _ _ _ _ rfl ht))
    | true =>
      obtain ⟨htarget,hlast⟩ := hc.1 id hd hstart
      have hne : s.gateway.syncTarget ≠ 0 := by
        intro hz
        rw [← htarget,hz] at hlast
        exact h.asked (mem_of_lastRequest hlast)
      have hcounter : (rf433RxCallback junk rssi buffer len s.gateway).sync.counter =
          s.gateway.sync.counter := by
        rw [hsync]
        simp [refreshed,hstart]
      refine h.answered hlast hcounter ?_
      rw [← htarget]
      exact hslot hne

theorem getNextMain_sync (g : Gateway) : (getNextMain g).2.sync.recv = g.sync.recv ∧
    (getNextMain g).2.sync.timeoutT = g.sync.timeoutT := by
  rcases getNextMain_cases g with ⟨c,_,_,_,hr⟩ | ⟨_,hr⟩ <;> rw [hr] <;> exact ⟨rfl,rfl⟩

theorem syncTimeout_noReply (g : Gateway) : NoReply g (syncTimeout g) := by
  have hn := getNextMain_sync { g with sync := { g.sync with timeoutT := false } }
  unfold syncTimeout syncTimeoutCallback
  split
  · split
    · rename_i g' hg'
      rw [hg'] at hn
      exact ⟨hn.1,fun ht => absurd (hn.2.symm.trans ht) (by simp)⟩
    · rename_i g' hg'
      rw [hg'] at hn
      exact ⟨hn.1,fun ht => absurd (hn.2.symm.trans ht) (by simp)⟩
  · exact .of_sync rfl

theorem syncRequest_noReply (g : Gateway) : NoReply g (syncRequest g) := by
  have hn := getNextMain_sync
    { g with sync := { g.sync with timeoutT := false, counter := g.globalDevice.num } }
  exact ⟨hn.1,fun ht => absurd (hn.2.symm.trans ht) (by simp)⟩

theorem subdevNodes_sync (packet : List UInt8) (count left offset : Nat) (nodes : Nat → UInt8)
    (g : Gateway) : (subdevNodes packet count left offset nodes g).sync = g.sync := by
  induction left generalizing offset nodes g with
  | zero => rfl
  | succ left ih =>
    rw [subdevNodes,ih]
    rfl

theorem localSubdevList_noReply (g : Gateway) (mallocOk : Bool) (packet : List UInt8) :
    NoReply g (localSubdevList mallocOk packet g) := by
  unfold localSubdevList
  dsimp only
  split
  · have hnodes := subdevNodes_sync packet (packet.getD 1 0).toNat (packet.getD 1 0).toNat 2
      (fun _ => 0) g
    split
    · have hr := syncRequest_noReply (subdevNodes packet (packet.getD 1 0).toNat
        (packet.getD 1 0).toNat 2 (fun _ => 0) g)
      exact ⟨hr.recv.trans (by rw [hnodes]),fun ht => by
        have ht := hr.timer ht
        rwa [hnodes] at ht⟩
    · exact .of_sync hnodes
  · exact syncRequest_noReply g

theorem ReplyInv.request {s : Logged} (h : ReplyInv s) {g' : Gateway} (hrecv : g'.sync.recv = false)
    (hid : g'.syncTarget ≠ 0) : ReplyInv ⟨g',.request g'.syncTarget :: s.log⟩ := by
  refine ⟨fun hr => ?_,fun _ => .inr rfl,fun hmem => ?_⟩
  · simp [hrecv] at hr
  · rcases List.mem_cons.mp hmem with heq | hmem
    · injection heq with heq
      exact hid heq.symm
    · exact h.asked hmem

theorem syncSettle_replyInv {s : Logged} (h : ReplyInv s) (hpc : s.gateway.sync.pc = .settle) :
    ReplyInv ⟨syncSettle s.gateway,(syncCalls s.gateway).map .request ++ s.log⟩ := by
  by_cases hid : s.gateway.globalDevice.id s.gateway.sync.counter = 0
  · simp only [syncSettle,syncCalls,hid,if_true,ne_eq,not_true_eq_false,and_false,if_false,
      List.map_nil,List.nil_append]
    exact h.noReply ⟨rfl,fun ht => ⟨ht,rfl⟩⟩ (fun _ _ => .inl rfl)
  · have hsync := (deviceAdd2FlashWifi_grows s.gateway
      (s.gateway.globalDevice.id s.gateway.sync.counter) 0).sync
    have hkeep : (deviceAdd2FlashWifi (s.gateway.globalDevice.id s.gateway.sync.counter) 0
        s.gateway).globalDevice.id s.gateway.sync.counter ≠ 0 := by
      rcases deviceAdd2FlashWifi_slot (s.gateway.globalDevice.id s.gateway.sync.counter) 0 s.gateway
        s.gateway.sync.counter with hsame | ⟨hz,_⟩
      · rw [hsame]
        exact hid
      · exact absurd hz hid
    simp only [syncSettle,syncCalls,hpc,hid,if_false,ne_eq,not_false_eq_true,and_self,if_true]
    generalize deviceAdd2FlashWifi (s.gateway.globalDevice.id s.gateway.sync.counter) 0 s.gateway =
      g1 at hsync hkeep ⊢
    by_cases hr : g1.globalDevice.syncRetry s.gateway.sync.counter < 3
    · simp only [hr,if_true,List.map_cons,List.map_nil,List.cons_append,List.nil_append]
      rw [← hsync] at hkeep ⊢
      exact ReplyInv.request h rfl hkeep
    · simp only [hr,if_false,List.map_nil,List.nil_append]
      have hn := getNextMain_sync
        { g1 with sync := { g1.sync with timeoutT := false, pc := .take } }
      have hrecv : g1.sync.recv = s.gateway.sync.recv := by rw [hsync]
      split
      · rename_i g2 hg2
        rw [hg2] at hn
        exact h.stopped (hn.1.trans hrecv) hn.2
      · rename_i g2 hg2
        rw [hg2] at hn
        exact h.stopped (hn.1.trans hrecv) hn.2

theorem syncThread_replyInv {s : Logged} (h : ReplyInv s) :
    ReplyInv (loggedStep s .syncThread) := by
  cases hpc : s.gateway.sync.pc with
  | take =>
    simp only [loggedStep,observe,step,syncThread,syncCalls,hpc,reduceCtorEq,false_and,if_false,
      List.map_nil,List.nil_append]
    split
    · exact h.noReply ⟨rfl,fun ht => ⟨ht,rfl⟩⟩ (fun _ _ => .inl rfl)
    · exact h
  | settle =>
    simp only [loggedStep,observe,step,syncThread,hpc]
    exact syncSettle_replyInv h hpc
  | wait =>
    simp only [loggedStep,observe,step,syncThread,syncCalls,hpc,reduceCtorEq,false_and,if_false,
      List.map_nil,List.nil_append]
    have hsync : NoReply s.gateway (syncWait s.gateway) := by
      unfold syncWait
      dsimp only
      split <;> exact ⟨rfl,fun ht => ⟨ht,rfl⟩⟩
    exact h.noReply hsync (fun _ _ => KeptOrFreed.same (.inl rfl) (syncWait_sameRegistry s.gateway))

theorem loggedStep_replyInv (s : Logged) (e : Event) (h : ReplyInv s) (hc : RepliesInTurn s e) :
    ReplyInv (loggedStep s e) := by
  have hkept : KeptOrFreed s.gateway.sync.counter s.gateway.syncTarget s.gateway := .inl rfl
  cases e with
  | radio junk rssi buffer len => exact radio_replyInv h junk rssi buffer len hc
  | subdeviceDelete subId =>
    have hsync : (subdeviceDelete subId s.gateway).sync = s.gateway.sync :=
      (remoteDelete_grows s.gateway (u32 (atol subId))).sync
    exact h.noReply (.of_sync hsync) (fun _ _ => subdeviceDelete_keptOrFreed rfl subId)
  | subdevList mallocOk packet =>
    exact h.noReply (localSubdevList_noReply s.gateway mallocOk packet)
      (fun _ _ => hkept.same (.of_table (localSubdevList_table s.gateway mallocOk packet)))
  | controlState value subId =>
    have hq := dpDownloadControlStateHandle_quiet s.gateway value subId
    exact h.noReply (.of_sync hq.sync) (fun _ _ => hkept.same hq.sameRegistry)
  | syncThread => exact syncThread_replyInv h
  | syncTimeout =>
    exact h.noReply (syncTimeout_noReply s.gateway)
      (fun _ _ => hkept.same (.of_table (syncTimeout_table s.gateway)))
  | radioDequeue => exact h.noReply (.of_sync rfl) (fun _ _ => hkept)

theorem powerOn_replyInv (selfId : UInt32) (env : EnvLog) : ReplyInv ⟨powerOn selfId env,[]⟩ :=
  ⟨fun h => absurd h (by simp [powerOn]),fun h => absurd h (by simp [powerOn]),by simp⟩

/-- In a run whose sync data always comes from the main in turn, a main is left behind
as answered only after its own answer. The requests logged are those that the thread enqueues. -/
theorem sync_reply_attributed (selfId : UInt32) (env : EnvLog) (es : List Event) (e : Event)
    (m : UInt32) (hrun : Along loggedStep RepliesInTurn ⟨powerOn selfId env,[]⟩ es)
    (hl : LeavesAnswered (es.foldl loggedStep ⟨powerOn selfId env,[]⟩) e m) :
    AttributedTo (es.foldl loggedStep ⟨powerOn selfId env,[]⟩).log m ∧
    ∀ p, p ++ [.syncThread] <+: es → LogsRequests (p.foldl loggedStep ⟨powerOn selfId env,[]⟩)
      ((p ++ [.syncThread]).foldl loggedStep ⟨powerOn selfId env,[]⟩) := by
  have hinv := foldl_along ReplyInv loggedStep_replyInv (powerOn_replyInv selfId env) hrun
  refine ⟨hinv.attributed hl,fun p _ => ?_⟩
  rw [List.foldl_append]
  exact loggedStep_logsRequests _

/-- A sync frame of type 3 in which main 10000001 reports the slave 20000001. -/
def syncDataText : Text :=
  ['A','{','0',',','3',',','4','0','0','0','0','0','0','0',',','1','0','0','0','0','0','0','1',',',
    '2','0','0','0','0','0','0','1',',','1',',','0','}','A']

/-- The cloud list arrives, the round starts and the thread asks the first main. -/
def roundStart : List Event := [.subdevList true [0,0],.syncThread,.syncThread]

/-- With two mains the one in slot 1 is asked, and answers. -/
def answeredRun : List Event :=
  [learnMain '1',learnMain '2'] ++ roundStart ++ [radioText syncDataText]

theorem repliesInTurn_of_none {s : Logged} {e : Event} (hd : dataFrom s.gateway e = none)
    (ht : s.gateway.sync.timeoutT = false) : RepliesInTurn s e :=
  ⟨fun id h => absurd (hd.symm.trans h) (by simp),fun _ _ _ _ _ h => absurd (ht.symm.trans h) (by simp)⟩

theorem sync_reply_attributed_run :
    Along loggedStep RepliesInTurn ⟨powerOn 40000000 [],[]⟩ answeredRun ∧
    LeavesAnswered (answeredRun.foldl loggedStep ⟨powerOn 40000000 [],[]⟩) .syncTimeout 10000001 ∧
    AttributedTo (answeredRun.foldl loggedStep ⟨powerOn 40000000 [],[]⟩).log 10000001 := by
  have hdata : RepliesInTurn (([learnMain '1',learnMain '2'] ++ roundStart).foldl loggedStep
      ⟨powerOn 40000000 [],[]⟩) (radioText syncDataText) := by
    refine ⟨fun id hid _ => ?_,fun _ _ _ _ _ h => absurd h (by decide)⟩
    have hfrom : id = 10000001 := by
      have h : dataFrom (([learnMain '1',learnMain '2'] ++ roundStart).foldl loggedStep
        ⟨powerOn 40000000 [],[]⟩).gateway (radioText syncDataText) = some 10000001 := by decide
      simpa using hid.symm.trans h
    subst hfrom
    decide
  have hrun : Along loggedStep RepliesInTurn ⟨powerOn 40000000 [],[]⟩ answeredRun :=
    ⟨repliesInTurn_of_none (by decide) (by decide),repliesInTurn_of_none (by decide) (by decide),
      repliesInTurn_of_none (by decide) (by decide),repliesInTurn_of_none (by decide) (by decide),
      repliesInTurn_of_none (by decide) (by decide),hdata,trivial⟩
  have hl : LeavesAnswered (answeredRun.foldl loggedStep ⟨powerOn 40000000 [],[]⟩) .syncTimeout
      10000001 :=
    ⟨by decide,by decide,by decide,by decide,.inl ⟨rfl,by decide⟩⟩
  exact ⟨hrun,hl,(sync_reply_attributed 40000000 [] answeredRun .syncTimeout 10000001 hrun hl).1⟩

/-- With three mains 10000002 is asked, but main 10000001 sends the data. -/
def strayReplyRun : List Event :=
  [learnMain '1',learnMain '2',learnMain '3'] ++ roundStart ++ [radioText syncDataText]

theorem sync_reply_counterexample :
    ¬ ∀ (selfId : UInt32) (env : EnvLog) (es : List Event) (e : Event) (m : UInt32),
      LeavesAnswered (es.foldl loggedStep ⟨powerOn selfId env,[]⟩) e m →
      AttributedTo (es.foldl loggedStep ⟨powerOn selfId env,[]⟩).log m := by
  intro h
  have hl : LeavesAnswered (strayReplyRun.foldl loggedStep ⟨powerOn 40000000 [],[]⟩) .syncTimeout
      10000002 :=
    ⟨by decide,by decide,by decide,by decide,.inl ⟨rfl,by decide⟩⟩
  obtain ⟨newer,older,hlog,_⟩ := h 40000000 [] strayReplyRun .syncTimeout 10000002 hl
  have hmem : Observed.data 10000002 ∈
      (strayReplyRun.foldl loggedStep ⟨powerOn 40000000 [],[]⟩).log := by
    rw [hlog]
    simp
  exact absurd hmem (by decide)

end GatewayF411
