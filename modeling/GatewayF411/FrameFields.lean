import GatewayF411.SenderCheck

/-!
The solvers parse into a local `Message` that is not initialised, so a field that `sscanf`
does not convert keeps whatever the stack held. Two runs on one frame that start from
different contents are compared here.
-/

set_option autoImplicit false

namespace GatewayF411
open CText

def Message.IsWords (m : Message) : Prop :=
  ∀ x ∈ [m.ack,m.type,m.targetId,m.fromId,m.deviceId,m.counter,m.command,m.data,m.rssi],
    -2^31 ≤ x ∧ x < 2^31

structure SameEffect (g g' : Gateway) : Prop where
  globalDevice : g'.globalDevice = g.globalDevice
  env : ∀ key, efGetEnvBlob key g'.env = efGetEnvBlob key g.env
  queue433 : g'.queue433 = g.queue433
  sync : g'.sync = g.sync
  cloud : g'.cloud = g.cloud

theorem SameEffect.refl (g : Gateway) : SameEffect g g := ⟨rfl,fun _ => rfl,rfl,rfl,rfl⟩

theorem SameEffect.unchanged {g g' : Gateway} (h : SameEffect g g') : Unchanged g g' :=
  ⟨h.globalDevice,h.env,h.queue433,h.cloud⟩

/-- The solver to which the frame is routed finds fewer fields than its format lists. -/
def FieldsMissing (buffer : List UInt8) : Prop :=
  (charAt buffer 1 = '{' ∧ (normalFields buffer).length < 5) ∨
  (GatewayRouted buffer ∧ (gatewayFields buffer).length < 7)

def FrameDetermined (g : Gateway) (rssi : Int) (buffer : List UInt8) (len : Nat) : Prop :=
  (∀ junk junk', junk.IsWords → junk'.IsWords → SameEffect (rf433RxCallback junk rssi buffer len g)
    (rf433RxCallback junk' rssi buffer len g)) ∧
  (FieldsMissing buffer → ∀ junk, junk.IsWords →
    SameEffect g (rf433RxCallback junk rssi buffer len g))

/-- The target or the sender was converted and is refused, or no sender is accepted at all. -/
def SenderRefused (g : Gateway) (vs : List Int) (target sender : Nat) : Prop :=
  (∃ v, vs[target]? = some v ∧ u32 v ≠ g.selfId) ∨
  (∃ v, vs[sender]? = some v ∧ checkValid g.globalDevice (u32 v) ≠ .eok) ∨ g.globalDevice.num = 0

/-- A frame with missing fields is refused by what it does hold: its route, its end, or the
fields that were converted. -/
def FrameRefused (g : Gateway) (buffer : List UInt8) (len : Nat) : Prop :=
  (charAt buffer 1 = '{' → charAt buffer len = '\n' ∧ 1 ≤ len ∧ charAt buffer (len-1) = '\r' →
    (∃ v, (normalFields buffer)[0]? = some v ∧ u32 v ≠ g.selfId) ∨
    (normalFields buffer)[1]? = some 98989898) ∧
  (charAt buffer 1 = 'A' → charAt buffer len = 'A' → SenderRefused g (gatewayFields buffer) 2 3) ∧
  (charAt buffer 1 = 'B' → charAt buffer len = 'B' → SenderRefused g (gatewayFields buffer) 1 2) ∧
  (charAt buffer 1 = 'C' → charAt buffer len = 'C' → SenderRefused g (gatewayFields buffer) 1 2)

/-- The frames on which the solver goes on past its checks. -/
def Accepts (g : Gateway) (junk : Message) (buffer : List UInt8) (len : Nat) : Prop :=
  (charAt buffer 1 = '{' ∧ (charAt buffer len = '\n' ∧ 1 ≤ len ∧ charAt buffer (len-1) = '\r') ∧
    u32 (parseNormal (normalFields buffer) junk).targetId = g.selfId ∧
    (parseNormal (normalFields buffer) junk).fromId ≠ 98989898) ∨
  SyncAccepted g junk buffer len ∨
  (charAt buffer 1 = 'B' ∧ charAt buffer len = 'B' ∧
    u32 (parseReport (gatewayFields buffer) junk).targetId = g.selfId ∧
    checkValid g.globalDevice (u32 (parseReport (gatewayFields buffer) junk).fromId) = .eok) ∨
  ControlAccepted g junk buffer len

theorem normalSolve_unchanged (junk : Message) (buffer : List UInt8) (len : Nat) (g : Gateway) :
    Unchanged g (normalSolve junk buffer len g) ↔
      ¬ ((charAt buffer len = '\n' ∧ 1 ≤ len ∧ charAt buffer (len-1) = '\r') ∧
        u32 (parseNormal (normalFields buffer) junk).targetId = g.selfId ∧
        (parseNormal (normalFields buffer) junk).fromId ≠ 98989898) := by
  generalize hm : parseNormal (normalFields buffer) junk = m
  have hlearn := (Grows.iteLeft (m.command = 3) (deviceLearn_grows g m)).length_le
  have hheart := heartUpload_length (u32 m.fromId) 1
    (if m.command = 3 then deviceLearn m g else g)
  have hlong : g.cloud.length < (heartUpload (u32 m.fromId) 1
      (if m.command = 3 then deviceLearn m g else g)).cloud.length := by omega
  simp only [normalSolve,hm]
  by_cases hend : charAt buffer len = '\n' ∧ 1 ≤ len ∧ charAt buffer (len-1) = '\r'
  · by_cases htarget : u32 m.targetId = g.selfId
    · by_cases hfrom : m.fromId = 98989898
      · simp [hend,htarget,hfrom,Unchanged.refl]
      · simp [hend,htarget,hfrom,not_unchanged hlong]
    · simp [htarget,Unchanged.refl]
  · simp [hend,Unchanged.refl]

theorem Accepts.effect {g : Gateway} {junk : Message} {buffer : List UInt8} {len : Nat}
    (h : Accepts g junk buffer len) (rssi : Int) :
    ¬ Unchanged g (rf433RxCallback junk rssi buffer len g) := by
  rcases h with ⟨hroute,hacc⟩ | ⟨hroute,hacc⟩ | ⟨hroute,hacc⟩ | ⟨hroute,hacc⟩
  · simp only [rf433RxCallback,hroute,normalSolve_unchanged]
    exact fun hno => hno hacc
  · simp only [rf433RxCallback,hroute,gatewaySyncSolve_unchanged]
    exact fun hno => hno hacc
  · simp only [rf433RxCallback,hroute,gatewayWarningSolve_unchanged]
    exact fun hno => hno hacc
  · simp only [rf433RxCallback,hroute,gatewayControlSolve_unchanged]
    exact fun hno => hno hacc

theorem rf433RxCallback_refused {g : Gateway} {junk : Message} {buffer : List UInt8} {len : Nat}
    (h : ¬ Accepts g junk buffer len) (rssi : Int) : rf433RxCallback junk rssi buffer len g = g := by
  unfold rf433RxCallback
  split
  · rename_i hroute
    simp only [normalSolve]
    split
    · rename_i hend
      split
      · rename_i htarget
        split
        · rfl
        · rename_i hfrom
          exact absurd (.inl ⟨hroute,hend,htarget,hfrom⟩) h
      · rfl
    · rfl
  · rename_i hroute
    simp only [gatewaySyncSolve]
    split
    · rename_i hend
      exact if_neg fun hacc => h (.inr (.inl ⟨hroute,hend,hacc⟩))
    · rfl
  · rename_i hroute
    simp only [gatewayWarningSolve]
    split
    · rename_i hend
      exact if_neg fun hacc => h (.inr (.inr (.inl ⟨hroute,hend,hacc⟩)))
    · rfl
  · rename_i hroute
    simp only [gatewayControlSolve]
    split
    · rename_i hend
      exact if_neg fun hacc => h (.inr (.inr (.inr ⟨hroute,hend,hacc⟩)))
    · rfl
  · rfl

section Complete
variable {buffer : List UInt8}

theorem getD_present {vs : List Int} {i : Nat} (h : i < vs.length) (x y : Int) :
    vs.getD i x = vs.getD i y := by
  simp [List.getD_eq_getElem?_getD,h]

theorem parseNormal_complete {vs : List Int} (h : 5 ≤ vs.length) (junk junk' : Message) :
    parseNormal vs junk' = { parseNormal vs junk with
      ack := junk'.ack, type := junk'.type, deviceId := junk'.deviceId, rssi := junk'.rssi } := by
  simp only [parseNormal,getD_present (show 0 < vs.length by omega) junk'.targetId junk.targetId,
    getD_present (show 1 < vs.length by omega) junk'.fromId junk.fromId,
    getD_present (show 2 < vs.length by omega) junk'.counter junk.counter,
    getD_present (show 3 < vs.length by omega) junk'.command junk.command,
    getD_present (show 4 < vs.length by omega) junk'.data junk.data]

theorem parseSync_complete {vs : List Int} (h : 7 ≤ vs.length) (junk junk' : Message) :
    parseSync vs junk' = { parseSync vs junk with
      counter := junk'.counter, command := junk'.command } := by
  simp only [parseSync,getD_present (show 0 < vs.length by omega) junk'.ack junk.ack,
    getD_present (show 1 < vs.length by omega) junk'.type junk.type,
    getD_present (show 2 < vs.length by omega) junk'.targetId junk.targetId,
    getD_present (show 3 < vs.length by omega) junk'.fromId junk.fromId,
    getD_present (show 4 < vs.length by omega) junk'.deviceId junk.deviceId,
    getD_present (show 5 < vs.length by omega) junk'.rssi junk.rssi,
    getD_present (show 6 < vs.length by omega) junk'.data junk.data]

theorem parseReport_complete {vs : List Int} (h : 7 ≤ vs.length) (junk junk' : Message) :
    parseReport vs junk' = { parseReport vs junk with
      type := junk'.type, counter := junk'.counter } := by
  simp only [parseReport,getD_present (show 0 < vs.length by omega) junk'.ack junk.ack,
    getD_present (show 1 < vs.length by omega) junk'.targetId junk.targetId,
    getD_present (show 2 < vs.length by omega) junk'.fromId junk.fromId,
    getD_present (show 3 < vs.length by omega) junk'.deviceId junk.deviceId,
    getD_present (show 4 < vs.length by omega) junk'.rssi junk.rssi,
    getD_present (show 5 < vs.length by omega) junk'.command junk.command,
    getD_present (show 6 < vs.length by omega) junk'.data junk.data]

theorem rf433RxCallback_complete (h : ¬ FieldsMissing buffer) (junk junk' : Message) (rssi : Int)
    (len : Nat) (g : Gateway) :
    rf433RxCallback junk' rssi buffer len g = rf433RxCallback junk rssi buffer len g := by
  simp only [FieldsMissing,not_or,not_and,Nat.not_lt] at h
  unfold rf433RxCallback
  split
  · rename_i hroute
    simp only [normalSolve,parseNormal_complete (h.1 hroute) junk junk']
    rfl
  · rename_i hroute
    simp only [gatewaySyncSolve,parseSync_complete (h.2 (.inl hroute)) junk junk']
    rfl
  · rename_i hroute
    simp only [gatewayWarningSolve,parseReport_complete (h.2 (.inr (.inl hroute))) junk junk']
    rfl
  · rename_i hroute
    simp only [gatewayControlSolve,parseReport_complete (h.2 (.inr (.inr hroute))) junk junk']
    rfl
  · rfl

end Complete

/-- The local as the stack may hold it, with the given target and sender. -/
def strayMessage (target sender : UInt32) : Message :=
  { Message.zero with targetId := asLong target, fromId := asLong sender }

theorem strayMessage_isWords (target sender : UInt32) : (strayMessage target sender).IsWords := by
  have ht := asLong_range target
  have hs := asLong_range sender
  simp only [Message.IsWords,strayMessage,Message.zero,List.mem_cons,List.not_mem_nil,or_false,
    forall_eq_or_imp,forall_eq]
  omega

/-- Whatever the stack holds, a converted field that is refused stays refused. -/
theorem SenderRefused.refuses {g : Gateway} {vs : List Int} {t f : Nat}
    (h : SenderRefused g vs t f) (x y : Int) :
    ¬ (u32 (vs.getD t x) = g.selfId ∧ checkValid g.globalDevice (u32 (vs.getD f y)) = .eok) := by
  rintro ⟨htarget,hsender⟩
  rcases h with ⟨v,hv,hne⟩ | ⟨v,hv,hne⟩ | hnum
  · rw [List.getD_eq_getElem?_getD,hv] at htarget
    exact hne htarget
  · rw [List.getD_eq_getElem?_getD,hv] at hsender
    exact hne hsender
  · obtain ⟨n,h1,hn,_⟩ := flashGetKeyValid_eok.mp hsender
    omega

/-- A stray target and sender are accepted unless a converted field is refused. -/
theorem senderRefused_of_stray {g : Gateway} {vs : List Int} {t f : Nat}
    (h : ¬ (u32 (vs.getD t (asLong g.selfId)) = g.selfId ∧
      checkValid g.globalDevice (u32 (vs.getD f (asLong (g.globalDevice.id 1)))) = .eok)) :
    SenderRefused g vs t f := by
  by_contra hno
  simp only [SenderRefused,not_or,not_exists,not_and,not_not] at hno
  obtain ⟨htarget,hsender,hnum⟩ := hno
  refine h ⟨?_,?_⟩
  · cases hv : vs[t]? with
    | none => simp [List.getD_eq_getElem?_getD,hv,u32,ofInt_asLong]
    | some v => simpa [List.getD_eq_getElem?_getD,hv] using htarget v hv
  · cases hv : vs[f]? with
    | none =>
      have hfirst : checkValid g.globalDevice (g.globalDevice.id 1) = .eok :=
        flashGetKeyValid_eok.mpr ⟨1,Nat.le_refl 1,by omega,rfl⟩
      simpa [List.getD_eq_getElem?_getD,hv,u32,ofInt_asLong] using hfirst
    | some v => simpa [List.getD_eq_getElem?_getD,hv] using hsender v hv

theorem frameRefused_iff {g : Gateway} {buffer : List UInt8} {len : Nat} :
    FrameRefused g buffer len ↔ ∀ junk, junk.IsWords → ¬ Accepts g junk buffer len := by
  constructor
  · rintro ⟨hnormal,hsync,hwarn,hcontrol⟩ junk _ hacc
    rcases hacc with ⟨hroute,hend,htarget,hfrom⟩ | ⟨hroute,hend,hacc⟩ | ⟨hroute,hend,hacc⟩ |
      ⟨hroute,hend,hacc⟩
    · rcases hnormal hroute hend with ⟨v,hv,hne⟩ | hv
      · exact hne (by simpa [parseNormal,List.getD_eq_getElem?_getD,hv] using htarget)
      · exact hfrom (by simp [parseNormal,List.getD_eq_getElem?_getD,hv])
    · exact (hsync hroute hend).refuses _ _ hacc
    · exact (hwarn hroute hend).refuses _ _ hacc
    · exact (hcontrol hroute hend).refuses _ _ hacc
  · intro hall
    have hstray := hall _ (strayMessage_isWords g.selfId (g.globalDevice.id 1))
    have hzero := hall _ (strayMessage_isWords g.selfId 0)
    refine ⟨fun hroute hend => ?_,fun hroute hend => ?_,fun hroute hend => ?_,fun hroute hend => ?_⟩
    · by_contra hno
      simp only [not_or,not_exists,not_and,not_not] at hno
      refine hzero (.inl ⟨hroute,hend,?_,?_⟩)
      · cases hv : (normalFields buffer)[0]? with
        | none => simp [parseNormal,List.getD_eq_getElem?_getD,hv,strayMessage,u32,ofInt_asLong]
        | some v => simpa [parseNormal,List.getD_eq_getElem?_getD,hv] using hno.1 v hv
      · cases hv : (normalFields buffer)[1]? with
        | none => simp [parseNormal,List.getD_eq_getElem?_getD,hv,strayMessage,asLong]
        | some v =>
          simp only [parseNormal,List.getD_eq_getElem?_getD,hv,Option.getD_some]
          intro heq
          exact hno.2 (by rw [hv,heq])
    · exact senderRefused_of_stray fun hacc => hstray (.inr (.inl ⟨hroute,hend,hacc⟩))
    · exact senderRefused_of_stray fun hacc => hstray (.inr (.inr (.inl ⟨hroute,hend,hacc⟩)))
    · exact senderRefused_of_stray fun hacc => hstray (.inr (.inr (.inr ⟨hroute,hend,hacc⟩)))

/-- The effect of a frame depends on the frame alone exactly when all its fields were
converted, or the frame is refused by what was converted. -/
theorem frame_determined_iff (g : Gateway) (rssi : Int) (buffer : List UInt8) (len : Nat) :
    FrameDetermined g rssi buffer len ↔ (FieldsMissing buffer → FrameRefused g buffer len) := by
  constructor
  · intro hd hmiss
    refine frameRefused_iff.mpr fun junk hwords hacc => ?_
    exact hacc.effect rssi (hd.2 hmiss junk hwords).unchanged
  · intro hcond
    by_cases hmiss : FieldsMissing buffer
    · have hskip : ∀ junk : Message, junk.IsWords → rf433RxCallback junk rssi buffer len g = g :=
        fun junk hwords => rf433RxCallback_refused
          (frameRefused_iff.mp (hcond hmiss) junk hwords) rssi
      refine ⟨fun junk junk' hw hw' => ?_,fun _ junk hw => ?_⟩
      · rw [hskip junk hw,hskip junk' hw']
        exact .refl g
      · rw [hskip junk hw]
        exact .refl g
    · refine ⟨fun junk junk' _ _ => ?_,fun hm => absurd hm hmiss⟩
      rw [rf433RxCallback_complete hmiss junk junk']
      exact .refl _

def cutFrame : List UInt8 :=
  radioBuffer ['{','4','0','0','0','0','0','0','0','\r','\n']

theorem frame_determined_counterexample :
    ¬ ∀ (g : Gateway) (rssi : Int) (buffer : List UInt8) (len : Nat),
      FrameDetermined g rssi buffer len := by
  intro hall
  have hsame := (hall (powerOn 40000000 []) (-60) cutFrame 11).1 (strayMessage 0 10000001)
    (strayMessage 0 10000002) (strayMessage_isWords _ _) (strayMessage_isWords _ _)
  exact absurd hsame.cloud (by decide +kernel)

end GatewayF411
