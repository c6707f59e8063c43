import GatewayF411.Lib.Runs
import GatewayF411.Heartbeat
import GatewayF411.HeartCalls
import GatewayF411.Registry

set_option autoImplicit false

namespace GatewayF411
open CText SlotScan Runs

theorem uploadDoorId_reports (id b : UInt32) (g : Gateway) : Reports g (uploadDoorId id b g) :=
  (reportValue_reports g _ _ _).trans <| (reportValue_reports _ _ _ _).trans
    (reportEnum_reports _ _ _ _)

theorem selfBindUpload_still (id : UInt32) (g : Gateway) : Still g (selfBindUpload id g) := by
  unfold selfBindUpload
  dsimp only
  split
  · refine (flashSetUploadFlag_still g id 1).trans ?_
    generalize (flashSetUploadFlag id 1 g).2 = g1
    split
    · have hmain : Reports g1 (uploadMainId id g1) :=
        (reportValue_reports g1 _ _ _).trans (reportBool_reports _ _ _ _)
      have hwarn : ∀ g', Reports g' (resetMainWarn id g') := fun g' =>
        (reportBool_reports g' _ _ _).trans <| (reportBool_reports _ _ _ _).trans
          (reportBool_reports _ _ _ _)
      exact (hmain.trans ((uploadDoorId_reports _ _ _).trans (hwarn _))).still
    · split
      · have hwarn : Reports g1 (resetSlaveWarn id g1) :=
          (reportEnum_reports g1 _ _ _).trans (reportBool_reports _ _ _ _)
        have hslave : ∀ b g', Reports g' (uploadSlaveId id b g') := fun b g' =>
          (reportValue_reports g' _ _ _).trans (reportEnum_reports _ _ _ _)
        exact (hwarn.trans (hslave _ _)).still
      · split
        · exact (uploadDoorId_reports _ _ _).still
        · exact .refl g1
  · exact .refl g

theorem heartRequest_onlyEmits (idBuf : Text) (g : Gateway) :
    OnlyEmits (if flashGetUploadFlag g.globalDevice (u32 (atol idBuf)) = 0 then
      (flashSetUploadFlag (u32 (atol idBuf)) 1 g).2 else g) (heartRequest idBuf g) := by
  have hupload : OnlyEmits (if flashGetUploadFlag g.globalDevice (u32 (atol idBuf)) = 0 then
      (flashSetUploadFlag (u32 (atol idBuf)) 1 g).2 else g) (selfBindUpload (u32 (atol idBuf)) g) := by
    unfold selfBindUpload
    dsimp only
    split
    · generalize (flashSetUploadFlag (u32 (atol idBuf)) 1 g).2 = g1
      split
      · have hmain : OnlyEmits g1 (uploadMainId (u32 (atol idBuf)) g1) :=
          (reportValue_onlyEmits g1 _ _ _).trans (reportBool_onlyEmits _ _ _ _)
        have hwarn : ∀ g', OnlyEmits g' (resetMainWarn (u32 (atol idBuf)) g') := fun g' =>
          (reportBool_onlyEmits g' _ _ _).trans <| (reportBool_onlyEmits _ _ _ _).trans
            (reportBool_onlyEmits _ _ _ _)
        exact hmain.trans ((uploadDoorId_reports _ _ _).onlyEmits.trans (hwarn _))
      · split
        · have hwarn : OnlyEmits g1 (resetSlaveWarn (u32 (atol idBuf)) g1) :=
            (reportEnum_onlyEmits g1 _ _ _).trans (reportBool_onlyEmits _ _ _ _)
          have hslave : ∀ b g', OnlyEmits g' (uploadSlaveId (u32 (atol idBuf)) b g') := fun b g' =>
            (reportValue_onlyEmits g' _ _ _).trans (reportEnum_onlyEmits _ _ _ _)
          exact hwarn.trans (hslave _ _)
        · split
          · exact (uploadDoorId_reports _ _ _).onlyEmits
          · exact .refl g1
    · exact .refl g
  refine hupload.trans ?_
  unfold heartRequest
  dsimp only
  generalize selfBindUpload (u32 (atol idBuf)) g = g1
  split
  · split
    · split
      · exact deviceUp_onlyEmits g1 _
      · exact deviceDown_onlyEmits g1 _
    · exact .refl g1
  · split
    · exact deviceUp_onlyEmits g1 _
    · exact deviceDown_onlyEmits g1 _

theorem heartLook_still (num : Nat) (s : Station) :
    Still s.gateway (heartLook num s).gateway := by
  unfold heartLook
  dsimp only
  split
  · exact .of_silent rfl rfl rfl rfl rfl rfl rfl
  · exact .refl s.gateway

theorem heartRequest_sameRegistry (idBuf : Text) (g : Gateway) :
    SameRegistry g (heartRequest idBuf g) :=
  (Quiet.iteLeft _ (flashSetUploadFlag_quiet g _ _)).sameRegistry.trans
    (heartRequest_onlyEmits idBuf g).quiet.sameRegistry

theorem setHeartCounts_sameRegistry (n : Nat) (retry count : UInt8) (g : Gateway) :
    SameRegistry g (setHeartCounts n retry count g) := ⟨rfl,rfl,rfl,rfl⟩

theorem heartOutcome_sameRegistry (n : Nat) (g : Gateway) :
    SameRegistry g (heartOutcome n g).1 := by
  unfold heartOutcome
  dsimp only
  split
  · exact (setHeartCounts_sameRegistry n 0 0 g).trans (heartUpload_quiet _ _ _).sameRegistry
  · split
    · exact setHeartCounts_sameRegistry _ _ _ g
    · split
      · exact setHeartCounts_sameRegistry _ _ _ g
      · exact (flashSetHeart_quiet g _ _).sameRegistry.trans (setHeartCounts_sameRegistry _ _ _ _)

theorem heartThread_sameRegistry (s : Station) :
    SameRegistry s.gateway (heartThread s).gateway := by
  unfold heartThread
  split
  · exact (heartLook_still 1 s).sameRegistry
  · exact (heartLook_still _ s).sameRegistry
  · exact heartOutcome_sameRegistry _ _

theorem stationStep_edits (s : Station) (e : StationEvent) :
    Edits s.gateway (stationStep s e).gateway := by
  cases e with
  | event e => exact step_edits s.gateway e
  | heartRequest idBuf => exact .same (heartRequest_sameRegistry idBuf s.gateway)
  | heartThread => exact .same (heartThread_sameRegistry s)

/-- Every table that a station can come to have is well kept. -/
theorem station_wellKept (selfId : UInt32) (es : List StationEvent) :
    WellKept (es.foldl stationStep (stationOn selfId)).gateway :=
  foldl_inv (fun s : Station => WellKept s.gateway)
    (fun s e h => h.edits (stationStep_edits s e)) es (powerOn_wellKept selfId)

end GatewayF411
