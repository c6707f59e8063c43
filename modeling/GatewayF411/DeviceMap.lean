import GatewayF411.Lib.Runs
import GatewayF411.Table

/-!
The device table as a finite map from ids to their attributes. The abstract
machine below says what the operations of `flashwork.c` are for; the table with
its holes, its growing mark and its downward scans simulates it.
-/

set_option autoImplicit false

namespace GatewayF411
open CText SlotScan SlotMap Runs

structure DeviceRecord where
  bind : UInt32
  heart : UInt8
  uploadFlag : UInt8
  deriving DecidableEq, Repr

abbrev DeviceMap := UInt32 → Option DeviceRecord

noncomputable def DeviceMap.size (m : DeviceMap) : Nat := Set.ncard {id | m id ≠ none}

def DeviceInfo.record (d : DeviceInfo) (n : Nat) : DeviceRecord :=
  ⟨d.bindId n,d.heart n,d.uploadFlag n⟩

def DeviceInfo.toDeviceMap (d : DeviceInfo) : DeviceMap := toMap 0 d.num d.id d.record

inductive TableOp where
  | mainAddFlash (deviceId : UInt32)
  | slaveAddFlash (deviceId fromId : UInt32)
  | doorAddFlash (deviceId fromId : UInt32)
  | delDevice (deviceId : UInt32)
  | delMainBind (deviceId : UInt32)
  | flashSetHeart (deviceId : UInt32) (heart : UInt8)
  | flashSetUploadFlag (deviceId : UInt32) (flag : UInt8)
  | flashGetKeyValid (deviceId : UInt32)
  | getBindId (deviceId : UInt32)
  | flashGetHeart (deviceId : UInt32)
  | flashGetUploadFlag (deviceId : UInt32)
  | getDoorId (mainId : UInt32)

inductive TableRet where
  | err (e : RtErr)
  | id (v : UInt32)
  | byte (v : UInt8)
  deriving DecidableEq, Repr

def tableExec (g : Gateway) : TableOp → TableRet × Gateway
  | .mainAddFlash id => (.err (mainAddFlash id g).1,(mainAddFlash id g).2)
  | .slaveAddFlash id b => (.err (slaveAddFlash id b g).1,(slaveAddFlash id b g).2)
  | .doorAddFlash id b => (.err (doorAddFlash id b g).1,(doorAddFlash id b g).2)
  | .delDevice id => (.err (delDevice id g).1,(delDevice id g).2)
  | .delMainBind id => (.err (delMainBind id g).1,(delMainBind id g).2)
  | .flashSetHeart id v => (.err (flashSetHeart id v g).1,(flashSetHeart id v g).2)
  | .flashSetUploadFlag id v => (.err (flashSetUploadFlag id v g).1,(flashSetUploadFlag id v g).2)
  | .flashGetKeyValid id => (.err (flashGetKeyValid g.globalDevice id),g)
  | .getBindId id => (.id (getBindId g.globalDevice id),g)
  | .flashGetHeart id => (.byte (flashGetHeart g.globalDevice id),g)
  | .flashGetUploadFlag id => (.byte (flashGetUploadFlag g.globalDevice id),g)
  | .getDoorId id => (.id (getDoorId g.globalDevice id),g)

def TableOp.deviceId : TableOp → UInt32
  | .mainAddFlash id => id
  | .slaveAddFlash id _ => id
  | .doorAddFlash id _ => id
  | .delDevice id => id
  | .delMainBind id => id
  | .flashSetHeart id _ => id
  | .flashSetUploadFlag id _ => id
  | .flashGetKeyValid id => id
  | .getBindId id => id
  | .flashGetHeart id => id
  | .flashGetUploadFlag id => id
  | .getDoorId id => id

def TableOp.isAdd : TableOp → Bool
  | .mainAddFlash _ => true
  | .slaveAddFlash _ _ => true
  | .doorAddFlash _ _ => true
  | _ => false

def TableAllowed (g : Gateway) (op : TableOp) : Prop :=
  op.deviceId ≠ 0 ∧ (op.isAdd = true → flashGetKeyValid g.globalDevice op.deviceId ≠ .eok)

instance (g : Gateway) (op : TableOp) : Decidable (TableAllowed g op) :=
  inferInstanceAs (Decidable (_ ∧ _))

def DeviceMap.Inserts (m : DeviceMap) (id bind : UInt32) (ret : TableRet) (m' : DeviceMap) : Prop :=
  (m.size < 49 → ret = .err .eok ∧ m' = Function.update m id (some ⟨bind,1,0⟩)) ∧
  (¬ m.size < 49 → ret = .err .error ∧ m' = m)

def DeviceMap.Modifies (m : DeviceMap) (id : UInt32) (f : DeviceRecord → DeviceRecord)
    (ret : TableRet) (m' : DeviceMap) : Prop :=
  match m id with
  | some r => ret = .err .eok ∧ m' = Function.update m id (some (f r))
  | none => ret = .err .error ∧ m' = m

/-- The abstract machine. Both deletions return `RT_ERROR`, found or not. -/
def DeviceMap.Step (m : DeviceMap) : TableOp → TableRet → DeviceMap → Prop
  | .mainAddFlash id, ret, m' => m.Inserts id 0 ret m'
  | .slaveAddFlash id b, ret, m' => m.Inserts id b ret m'
  | .doorAddFlash id b, ret, m' => m.Inserts id b ret m'
  | .delDevice id, ret, m' => ret = .err .error ∧ m' = Function.update m id none
  | .delMainBind a, ret, m' => ret = .err .error ∧
      ∀ id r, m' id = some r ↔ m id = some r ∧ id ≠ a ∧ r.bind ≠ a
  | .flashSetHeart id v, ret, m' =>
      m.Modifies id (fun r => { r with heart := if v = 0 then 0 else 1 }) ret m'
  | .flashSetUploadFlag id v, ret, m' => m.Modifies id (fun r => { r with uploadFlag := v }) ret m'
  | .flashGetKeyValid id, ret, m' => m' = m ∧ ret = .err (if m id = none then .error else .eok)
  | .getBindId id, ret, m' => m' = m ∧ ret = .id ((m id).elim 0 DeviceRecord.bind)
  | .flashGetHeart id, ret, m' => m' = m ∧ ret = .byte ((m id).elim 0 DeviceRecord.heart)
  | .flashGetUploadFlag id, ret, m' => m' = m ∧ ret = .byte ((m id).elim 0 DeviceRecord.uploadFlag)
  | .getDoorId a, ret, m' => m' = m ∧ ∃ v, ret = .id v ∧
      ((∃ r, m v = some r ∧ r.bind = a ∧ 30000000 ≤ v) ∨
        (v = 0 ∧ ∀ id r, m id = some r → r.bind = a → ¬ 30000000 ≤ id))

/-- The simulation relation: the table is well formed, its free slots are cleared,
its hearts are 0 or 1, and it stands for the map. -/
structure DeviceInfo.Refines (d : DeviceInfo) (m : DeviceMap) : Prop where
  inv : d.Inv
  freeUpload : ∀ n, d.id n = 0 → d.uploadFlag n = 0
  heart : ∀ n, d.heart n = 0 ∨ d.heart n = 1
  map : m = d.toDeviceMap

theorem DeviceInfo.Refines.congr {d d' : DeviceInfo} {m : DeviceMap} (h : d.Refines m)
    (hnum : d'.num = d.num) (hid : d'.id = d.id) (hbind : d'.bindId = d.bindId)
    (hheart : d'.heart = d.heart) (hflag : d'.uploadFlag = d.uploadFlag) : d'.Refines m := by
  have hrec : d'.record = d.record := by
    funext n
    simp [DeviceInfo.record,hbind,hheart,hflag]
  refine ⟨h.inv.congr hnum hid hbind,?_,?_,?_⟩
  · simpa [hid,hflag] using h.freeUpload
  · simpa [hheart] using h.heart
  · simp [h.map,DeviceInfo.toDeviceMap,hnum,hid,hrec]

theorem DeviceInfo.refines_zero : DeviceInfo.zero.Refines (fun _ => none) := by
  refine ⟨DeviceInfo.inv_zero,fun _ _ => rfl,fun _ => .inl rfl,?_⟩
  funext id
  simp [DeviceInfo.toDeviceMap,toMap,DeviceInfo.zero,scanDown]

section Refines
variable {d : DeviceInfo} {m : DeviceMap} (h : d.Refines m)
include h

theorem DeviceInfo.Refines.eq_some {id : UInt32} {r : DeviceRecord} :
    m id = some r ↔ id ≠ 0 ∧ ∃ n, d.id n = id ∧ d.record n = r := by
  rw [h.map]
  exact h.inv.keyed.toMap_eq_some

theorem DeviceInfo.Refines.slot {n : Nat} (hn : d.id n ≠ 0) : m (d.id n) = some (d.record n) :=
  h.eq_some.mpr ⟨hn,n,rfl,rfl⟩

theorem DeviceInfo.Refines.eq_none {id : UInt32} (hid : id ≠ 0) :
    m id = none ↔ ∀ n, d.id n ≠ id := by
  rw [h.map]
  exact h.inv.keyed.toMap_eq_none hid

/-- Either the id is known and all searches stop at its slot, or no slot holds it. -/
theorem DeviceInfo.Refines.lookup {id : UInt32} (hid : id ≠ 0) :
    (∃ n, d.id n = id ∧ findSlot d id = some n ∧ m id = some (d.record n)) ∨
      ((∀ n, d.id n ≠ id) ∧ findSlot d id = none ∧ m id = none) := by
  cases hm : m id with
  | some r =>
    obtain ⟨_,n,rfl,rfl⟩ := h.eq_some.mp hm
    exact .inl ⟨n,rfl,h.inv.findSlot_id hid,rfl⟩
  | none =>
    have hfresh := (h.eq_none hid).mp hm
    exact .inr ⟨hfresh,findSlot_eq_none.mpr ((h.inv.fresh_iff hid).mpr hfresh),rfl⟩

theorem DeviceInfo.Refines.size_lt : m.size < 49 ↔ ∃ n, 1 ≤ n ∧ n ≤ 49 ∧ d.id n = 0 := by
  rw [h.map]
  exact h.inv.keyed.ncard_lt_iff h.inv.num_le

end Refines

theorem addFlash_refines {g : Gateway} {m : DeviceMap} (h : g.globalDevice.Refines m)
    {id b : UInt32} (hid : id ≠ 0) (hnew : flashGetKeyValid g.globalDevice id ≠ .eok) :
    ∃ m', m.Inserts id b (.err (addFlash id b g).1) m' ∧
      (addFlash id b g).2.globalDevice.Refines m' := by
  have hfresh : ∀ n, g.globalDevice.id n ≠ id := by
    intro n hn
    exact hnew ((h.inv.valid_iff hid).mpr ⟨n,hn⟩)
  rcases addFlash_cases id b g with ⟨hr,hfull⟩ | ⟨n,h1,hn,hz,hr⟩
  · have hsize : ¬ m.size < 49 := by
      rw [h.size_lt]
      rintro ⟨n,h1,hn,hz⟩
      exact hfull n h1 hn hz
    refine ⟨m,⟨fun hs => absurd hs hsize,fun _ => ⟨by rw [hr],rfl⟩⟩,?_⟩
    rw [hr]
    exact h
  · have hsize : m.size < 49 := h.size_lt.mpr ⟨n,h1,hn,hz⟩
    refine ⟨Function.update m id (some ⟨b,1,0⟩),
      ⟨fun _ => ⟨by rw [hr],rfl⟩,fun hs => absurd hsize hs⟩,?_⟩
    rw [hr]
    refine ⟨placeDevice_inv h.inv h1 hn hid hfresh,?_,?_,?_⟩
    · intro j hj
      by_cases hjn : j = n
      · simp [placeDevice,growNum,hjn,hid] at hj
      · exact h.freeUpload j (by simpa [placeDevice,growNum,hjn] using hj)
    · intro j
      by_cases hjn : j = n
      · simp [placeDevice,growNum,hjn]
      · simpa [placeDevice,growNum,hjn] using h.heart j
    · have hflag : g.globalDevice.uploadFlag n = 0 := h.freeUpload n hz
      have hrec : (placeDevice n id b (growNum n g)).globalDevice.record n = ⟨b,1,0⟩ := by
        simp [DeviceInfo.record,placeDevice,growNum,hflag]
      have hkeep : ∀ j, j ≠ n → (placeDevice n id b (growNum n g)).globalDevice.record j =
          g.globalDevice.record j := by
        intro j hj
        simp [DeviceInfo.record,placeDevice,growNum,hj]
      rw [h.map,← hrec]
      exact (h.inv.keyed.toMap_insert h1 (Nat.le_max_right _ n) (Nat.le_max_left _ _) hid hz
        hfresh hkeep).symm

theorem mainAddFlash_fst (id : UInt32) (g : Gateway) :
    (mainAddFlash id g).1 = (addFlash id 0 g).1 := by
  unfold mainAddFlash
  cases hr : (addFlash id 0 g).1 <;> simp [hr]

theorem mainAddFlash_refines {g : Gateway} {m : DeviceMap} (h : g.globalDevice.Refines m)
    {id : UInt32} (hid : id ≠ 0) (hnew : flashGetKeyValid g.globalDevice id ≠ .eok) :
    ∃ m', m.Inserts id 0 (.err (mainAddFlash id g).1) m' ∧
      (mainAddFlash id g).2.globalDevice.Refines m' := by
  obtain ⟨m',hins,hr⟩ := addFlash_refines (b := 0) h hid hnew
  refine ⟨m',by rw [mainAddFlash_fst]; exact hins,?_⟩
  rw [mainAddFlash_snd]
  split
  · rw [addMainNums_table]
    exact hr.congr rfl rfl rfl rfl rfl
  · exact hr

/-- The table in which the selected slots have been freed, whatever became of `MainNum`. -/
structure DeviceInfo.Masked (d d' : DeviceInfo) (sel : Nat → Prop) [DecidablePred sel] : Prop where
  num : d'.num = d.num
  id : d'.id = fun n => if sel n then 0 else d.id n
  bindId : d'.bindId = fun n => if sel n then 0 else d.bindId n
  heart : d'.heart = d.heart
  uploadFlag : d'.uploadFlag = fun n => if sel n then 0 else d.uploadFlag n

theorem DeviceInfo.masked_clear (d : DeviceInfo) (id : UInt32) (n : Nat) :
    d.Masked (d.clear id n) (fun j => j = n) := by
  constructor <;> simp [DeviceInfo.clear] <;> funext j <;> simp [Function.update_apply]

theorem DeviceInfo.Masked.congr {d d' : DeviceInfo} {sel sel' : Nat → Prop} [DecidablePred sel]
    [DecidablePred sel'] (h : d.Masked d' sel) (hsel : ∀ n, sel n ↔ sel' n) : d.Masked d' sel' :=
  ⟨h.num,by simpa [hsel] using h.id,by simpa [hsel] using h.bindId,h.heart,
    by simpa [hsel] using h.uploadFlag⟩

theorem DeviceInfo.Masked.refines {d d' : DeviceInfo} {m : DeviceMap} {sel : Nat → Prop}
    [DecidablePred sel] (hd : d.Masked d' sel) (h : d.Refines m) :
    d'.Refines d'.toDeviceMap ∧
      ∀ id r, d'.toDeviceMap id = some r ↔ m id = some r ∧ ∀ n, d.id n = id → ¬ sel n := by
  have hkeyed : Keyed 0 d'.num d'.id := by
    rw [hd.num,hd.id]
    exact h.inv.keyed.mask sel
  have hrec : ∀ j, ¬ sel j → d'.record j = d.record j := by
    intro j hj
    simp [DeviceInfo.record,hd.bindId,hd.heart,hd.uploadFlag,hj]
  refine ⟨⟨⟨hd.num ▸ h.inv.num_le,hkeyed,?_⟩,?_,?_,rfl⟩,?_⟩
  · intro n hn
    by_cases hs : sel n
    · simp [hd.bindId,hs]
    · have hz : d.id n = 0 := by simpa [hd.id,hs] using hn
      simp [hd.bindId,hs,h.inv.freeBind n hz]
  · intro n hn
    by_cases hs : sel n
    · simp [hd.uploadFlag,hs]
    · have hz : d.id n = 0 := by simpa [hd.id,hs] using hn
      simp [hd.uploadFlag,hs,h.freeUpload n hz]
  · simpa [hd.heart] using h.heart
  · intro id r
    have hmask := h.inv.keyed.toMap_mask sel hrec id r
    rw [h.map]
    simpa [DeviceInfo.toDeviceMap,hd.num,hd.id] using hmask

theorem delDevice_refines {g : Gateway} {m : DeviceMap} (h : g.globalDevice.Refines m)
    {id : UInt32} (hid : id ≠ 0) :
    (delDevice id g).2.globalDevice.Refines (Function.update m id none) := by
  rcases h.lookup hid with ⟨n,hn,hs,hm⟩ | ⟨_,hs,hm⟩
  · have hmask := (g.globalDevice.masked_clear id n).refines h
    rw [delDevice_table hs]
    convert hmask.1 using 1
    funext a
    refine Option.ext fun r => ?_
    rw [hmask.2]
    by_cases ha : a = id
    · subst ha
      have hsel : ¬ ∀ j, g.globalDevice.id j = a → ¬ j = n := fun hall => hall n hn rfl
      simp [hsel]
    · have hsel : ∀ j, g.globalDevice.id j = a → ¬ j = n := by
        rintro j rfl rfl
        exact ha hn
      rw [Function.update_of_ne ha]
      exact ⟨fun hr => ⟨hr,hsel⟩,fun hr => hr.1⟩
  · rw [delDevice_none hs,← hm,Function.update_eq_self]
    exact h

/-- A slot that `Del_MainBind` frees: it holds the device or is bound to it. -/
def DeviceInfo.BoundTo (d : DeviceInfo) (a : UInt32) (n : Nat) : Prop :=
  d.bindId n = a ∨ d.id n = a

instance (d : DeviceInfo) (a : UInt32) (n : Nat) : Decidable (d.BoundTo a n) :=
  inferInstanceAs (Decidable (_ ∨ _))

theorem delMainBindBody_masked {d : DeviceInfo} {a : UInt32} {n : Nat} {g : Gateway}
    (h : d.Masked g.globalDevice (fun j => n+1 < j ∧ d.BoundTo a j)) :
    d.Masked (delMainBindBody a (n+1) g).globalDevice (fun j => n < j ∧ d.BoundTo a j) := by
  have hsame : g.globalDevice.BoundTo a (n+1) ↔ d.BoundTo a (n+1) := by
    simp [DeviceInfo.BoundTo,h.bindId,h.id]
  have hsel : ∀ j, j ≠ n+1 → ((n < j ∧ d.BoundTo a j) ↔ (n+1 < j ∧ d.BoundTo a j)) := by
    intro j hj
    have hlt : n < j ↔ n+1 < j := by omega
    rw [hlt]
  by_cases hb : g.globalDevice.BoundTo a (n+1)
  · have hd := hsame.mp hb
    rw [delMainBindBody_table hb]
    refine ⟨h.num,?_,?_,h.heart,?_⟩
    all_goals
      funext j
      by_cases hj : j = n+1
      · subst hj
        simp [DeviceInfo.clear,hd]
      · simp [DeviceInfo.clear,hj,h.id,h.bindId,h.uploadFlag,hsel j hj]
  · have hd : ¬ d.BoundTo a (n+1) := fun hd => hb (hsame.mpr hd)
    rw [delMainBindBody_skip hb]
    have hall : ∀ j, (n < j ∧ d.BoundTo a j) ↔ (n+1 < j ∧ d.BoundTo a j) := by
      intro j
      by_cases hj : j = n+1
      · subst hj
        simp [hd]
      · exact hsel j hj
    exact h.congr (fun j => (hall j).symm)

/-- The loop that deletes while it scans frees exactly the bound slots. -/
theorem delMainBind_masked {g : Gateway} (h : g.globalDevice.Inv) {a : UInt32} (ha : a ≠ 0) :
    g.globalDevice.Masked (delMainBind a g).2.globalDevice (fun j => g.globalDevice.BoundTo a j) := by
  have hpos : ∀ j, (0 < j ∧ g.globalDevice.BoundTo a j) ↔ g.globalDevice.BoundTo a j := by
    intro j
    refine and_iff_right_of_imp fun hb => ?_
    have hn := h.keyed.bounded j (h.bound_occupied ha hb)
    omega
  have hstart : g.globalDevice.Masked g.globalDevice
      (fun j => g.globalDevice.num < j ∧ g.globalDevice.BoundTo a j) := by
    have hnone : ∀ j, ¬ (g.globalDevice.num < j ∧ g.globalDevice.BoundTo a j) := by
      rintro j ⟨hj,hb⟩
      have hn := h.keyed.bounded j (h.bound_occupied ha hb)
      omega
    constructor <;> simp [hnone]
  have hloop := foldDown_invariant
    (fun n (s : Gateway) => g.globalDevice.Masked s.globalDevice
      (fun j => n < j ∧ g.globalDevice.BoundTo a j))
    (fun n s hs => delMainBindBody_masked hs) hstart
  exact hloop.congr hpos

theorem delMainBind_refines {g : Gateway} {m : DeviceMap} (h : g.globalDevice.Refines m)
    {a : UInt32} (ha : a ≠ 0) :
    ∃ m', (∀ id r, m' id = some r ↔ m id = some r ∧ id ≠ a ∧ r.bind ≠ a) ∧
      (delMainBind a g).2.globalDevice.Refines m' := by
  have hmask := (delMainBind_masked h.inv ha).refines h
  refine ⟨_,?_,hmask.1⟩
  intro id r
  rw [hmask.2]
  refine and_congr_right fun hm => ?_
  obtain ⟨hid,n,rfl,rfl⟩ := h.eq_some.mp hm
  constructor
  · intro hall
    have hn := hall n rfl
    simp only [DeviceInfo.BoundTo,not_or] at hn
    exact ⟨hn.2,hn.1⟩
  · rintro ⟨hna,hnb⟩ j hj hb
    have hjn := h.inv.keyed.distinct n j hid hj.symm
    subst hjn
    rcases hb with hb | hb
    · exact hnb hb
    · exact hna hb

theorem DeviceInfo.Refines.set {d d' : DeviceInfo} {m : DeviceMap} (h : d.Refines m) {n : Nat}
    (hn : d.id n ≠ 0) (hnum : d'.num = d.num) (hid : d'.id = d.id) (hbind : d'.bindId = d.bindId)
    (hheart : ∀ j, d'.heart j = if j = n then d'.heart n else d.heart j)
    (hflag : ∀ j, d'.uploadFlag j = if j = n then d'.uploadFlag n else d.uploadFlag j)
    (hbool : d'.heart n = 0 ∨ d'.heart n = 1) :
    d'.Refines (Function.update m (d.id n) (some (d'.record n))) := by
  have hrec : ∀ j, j ≠ n → d'.record j = d.record j := by
    intro j hj
    have hh := hheart j
    have hf := hflag j
    simp only [hj,if_false] at hh hf
    simp [DeviceInfo.record,hbind,hh,hf]
  refine ⟨h.inv.congr hnum hid hbind,?_,?_,?_⟩
  · intro j hj
    have hjn : j ≠ n := by
      rintro rfl
      exact hn (by simpa [hid] using hj)
    rw [hflag j,if_neg hjn]
    exact h.freeUpload j (by simpa [hid] using hj)
  · intro j
    by_cases hj : j = n
    · rw [hj]
      exact hbool
    · rw [hheart j,if_neg hj]
      exact h.heart j
  · rw [h.map]
    have hset := h.inv.keyed.toMap_set hn hrec
    simpa [DeviceInfo.toDeviceMap,hnum,hid] using hset.symm

theorem DeviceMap.modifies_some {m : DeviceMap} {id : UInt32} {r : DeviceRecord}
    (f : DeviceRecord → DeviceRecord) (hm : m id = some r) :
    m.Modifies id f (.err .eok) (Function.update m id (some (f r))) := by
  simp [DeviceMap.Modifies,hm]

theorem DeviceMap.modifies_none {m : DeviceMap} {id : UInt32} (f : DeviceRecord → DeviceRecord)
    (hm : m id = none) : m.Modifies id f (.err .error) m := by
  simp [DeviceMap.Modifies,hm]

theorem flashSetUploadFlag_refines {g : Gateway} {m : DeviceMap} (h : g.globalDevice.Refines m)
    {id : UInt32} (hid : id ≠ 0) (v : UInt8) :
    ∃ m', m.Modifies id (fun r => { r with uploadFlag := v }) (.err (flashSetUploadFlag id v g).1) m' ∧
      (flashSetUploadFlag id v g).2.globalDevice.Refines m' := by
  rcases h.lookup hid with ⟨n,rfl,hs,hm⟩ | ⟨_,hs,hm⟩
  · simp only [flashSetUploadFlag,hs]
    refine ⟨_,DeviceMap.modifies_some _ hm,?_⟩
    have hset : DeviceInfo.Refines { g.globalDevice with
        uploadFlag := Function.update g.globalDevice.uploadFlag n v } _ :=
      h.set hid rfl rfl rfl (by simp) (by simp [Function.update_apply]) (h.heart n)
    simpa [DeviceInfo.record] using hset
  · simp only [flashSetUploadFlag,hs]
    exact ⟨m,DeviceMap.modifies_none _ hm,h⟩

theorem changeHeart_table (n : Nat) (id : UInt32) (v : UInt8) (g : Gateway) :
    (changeHeart n id v g).globalDevice =
      { g.globalDevice with heart := Function.update g.globalDevice.heart n v } := by
  obtain ⟨fs,hfs⟩ := setSlaveHeart_onlyEmits g id v
  simp only [changeHeart,hfs]

theorem flashSetHeart_table {g : Gateway} {id : UInt32} {n : Nat}
    (hheart : g.globalDevice.heart n = 0 ∨ g.globalDevice.heart n = 1)
    (hs : findSlot g.globalDevice id = some n) (v : UInt8) :
    (flashSetHeart id v g).1 = .eok ∧
    (flashSetHeart id v g).2.globalDevice.heart =
      Function.update g.globalDevice.heart n (if v = 0 then 0 else 1) ∧
    (flashSetHeart id v g).2.globalDevice.uploadFlag = g.globalDevice.uploadFlag := by
  simp only [flashSetHeart,hs]
  by_cases hv : v = 0
  · rcases hheart with h0 | h1
    · have hself : Function.update g.globalDevice.heart n 0 = g.globalDevice.heart := by
        rw [← h0,Function.update_eq_self]
      simp [hv,h0,hself]
    · simp [hv,h1,changeHeart_table]
  · rcases hheart with h0 | h1
    · simp [hv,h0,setHeartRecv,Gateway.setTable,changeHeart_table]
    · have hself : Function.update g.globalDevice.heart n 1 = g.globalDevice.heart := by
        rw [← h1,Function.update_eq_self]
      simp [hv,h1,setHeartRecv,Gateway.setTable,hself]

theorem flashSetHeart_refines {g : Gateway} {m : DeviceMap} (h : g.globalDevice.Refines m)
    {id : UInt32} (hid : id ≠ 0) (v : UInt8) :
    ∃ m', m.Modifies id (fun r => { r with heart := if v = 0 then 0 else 1 })
        (.err (flashSetHeart id v g).1) m' ∧ (flashSetHeart id v g).2.globalDevice.Refines m' := by
  rcases h.lookup hid with ⟨n,rfl,hs,hm⟩ | ⟨_,hs,hm⟩
  · obtain ⟨hret,hheart,hflag⟩ := flashSetHeart_table (h.heart n) hs v
    have hq := flashSetHeart_quiet g (g.globalDevice.id n) v
    rw [hret]
    refine ⟨_,DeviceMap.modifies_some _ hm,?_⟩
    have hbool : (if v = 0 then 0 else 1 : UInt8) = 0 ∨ (if v = 0 then 0 else 1 : UInt8) = 1 := by
      by_cases hv : v = 0 <;> simp [hv]
    have hset := h.set hid hq.num hq.id hq.bindId (by simp [hheart,Function.update_apply])
      (by simp [hflag]) (by simpa [hheart] using hbool)
    simpa [DeviceInfo.record,hheart,hflag,hq.bindId] using hset
  · simp only [flashSetHeart,hs]
    exact ⟨m,DeviceMap.modifies_none _ hm,h⟩

theorem getDoorId_refines {d : DeviceInfo} {m : DeviceMap} (h : d.Refines m) {a : UInt32} :
    (∃ r, m (getDoorId d a) = some r ∧ r.bind = a ∧ 30000000 ≤ getDoorId d a) ∨
      (getDoorId d a = 0 ∧ ∀ id r, m id = some r → r.bind = a → ¬ 30000000 ≤ id) := by
  unfold getDoorId
  cases hs : scanDown (fun n => d.bindId n == a && decide (30000000 ≤ d.id n)) d.num with
  | some n =>
    have hn := (scanDown_sound hs).2.2
    simp only [Bool.and_eq_true,beq_iff_eq,decide_eq_true_eq] at hn
    have hne : d.id n ≠ 0 := by
      intro hz
      rw [hz] at hn
      exact absurd hn.2 (by decide)
    exact .inl ⟨d.record n,h.slot hne,hn.1,hn.2⟩
  | none =>
    refine .inr ⟨rfl,fun id r hm hb hle => ?_⟩
    obtain ⟨hid,n,rfl,rfl⟩ := h.eq_some.mp hm
    have hbound := h.inv.keyed.bounded n hid
    have hn := scanDown_eq_none.mp hs n hbound.1 hbound.2
    have hbn : d.bindId n = a := hb
    simp [hbn,hle] at hn

theorem slotValue_refines {β : Type} {d : DeviceInfo} {m : DeviceMap} (h : d.Refines m)
    {id : UInt32} (hid : id ≠ 0) (f : DeviceRecord → β) (absent : β) :
    slotValue d (fun n => f (d.record n)) id absent = (m id).elim absent f := by
  rcases h.lookup hid with ⟨n,_,hs,hm⟩ | ⟨_,hs,hm⟩ <;> simp [slotValue,hs,hm]

theorem flashGetKeyValid_refines {d : DeviceInfo} {m : DeviceMap} (h : d.Refines m)
    {id : UInt32} (hid : id ≠ 0) :
    flashGetKeyValid d id = if m id = none then .error else .eok := by
  rcases h.lookup hid with ⟨n,_,hs,hm⟩ | ⟨_,hs,hm⟩ <;> simp [flashGetKeyValid,hs,hm]

theorem tableExec_refines (g : Gateway) (op : TableOp) (m : DeviceMap)
    (h : g.globalDevice.Refines m) (hop : TableAllowed g op) :
    ∃ m', m.Step op (tableExec g op).1 m' ∧ (tableExec g op).2.globalDevice.Refines m' := by
  cases op with
  | mainAddFlash id => exact mainAddFlash_refines h hop.1 (hop.2 rfl)
  | slaveAddFlash id b => exact addFlash_refines h hop.1 (hop.2 rfl)
  | doorAddFlash id b => exact addFlash_refines h hop.1 (hop.2 rfl)
  | delDevice id =>
    have hret : (delDevice id g).1 = .error := by
      unfold delDevice
      split <;> rfl
    exact ⟨_,⟨congrArg TableRet.err hret,rfl⟩,delDevice_refines h hop.1⟩
  | delMainBind a =>
    obtain ⟨m',hm',hr⟩ := delMainBind_refines h hop.1
    exact ⟨m',⟨rfl,hm'⟩,hr⟩
  | flashSetHeart id v => exact flashSetHeart_refines h hop.1 v
  | flashSetUploadFlag id v => exact flashSetUploadFlag_refines h hop.1 v
  | flashGetKeyValid id =>
    exact ⟨m,⟨rfl,congrArg TableRet.err (flashGetKeyValid_refines h hop.1)⟩,h⟩
  | getBindId id =>
    exact ⟨m,⟨rfl,congrArg TableRet.id (slotValue_refines h hop.1 DeviceRecord.bind 0)⟩,h⟩
  | flashGetHeart id =>
    exact ⟨m,⟨rfl,congrArg TableRet.byte (slotValue_refines h hop.1 DeviceRecord.heart 0)⟩,h⟩
  | flashGetUploadFlag id =>
    exact ⟨m,⟨rfl,congrArg TableRet.byte (slotValue_refines h hop.1 DeviceRecord.uploadFlag 0)⟩,h⟩
  | getDoorId a => exact ⟨m,⟨rfl,_,rfl,getDoorId_refines h⟩,h⟩

/-- Every run of table operations on an empty table is a run of the map, with the same results. -/
theorem device_table_refines_map (g : Gateway) (hempty : g.globalDevice = .zero)
    (ops : List TableOp)
    (hallowed : Along (fun g op => (tableExec g op).2) TableAllowed g ops) :
    ∃ m, Spec DeviceMap.Step (fun _ => none) ops (outputs tableExec g ops) m ∧
      (ops.foldl (fun g op => (tableExec g op).2) g).globalDevice.Refines m := by
  refine simulation (fun g m => g.globalDevice.Refines m)
    (fun g op m h hop => tableExec_refines g op m h hop) ?_ hallowed
  rw [hempty]
  exact DeviceInfo.refines_zero

/-- A slave is bound to a main; deleting all that is bound to the main frees both slots. -/
theorem device_table_refines_map_run :
    Along (fun g op => (tableExec g op).2) TableAllowed (powerOn 40000000 [])
      [.mainAddFlash 10000001,.slaveAddFlash 20000001 10000001,.delMainBind 10000001,
        .getBindId 20000001] ∧
    ∃ m, Spec DeviceMap.Step (fun _ => none)
        [.mainAddFlash 10000001,.slaveAddFlash 20000001 10000001,.delMainBind 10000001,
          .getBindId 20000001]
        [.err .eok,.err .eok,.err .error,.id 0] m := by
  have hallowed : Along (fun g op => (tableExec g op).2) TableAllowed (powerOn 40000000 [])
      [.mainAddFlash 10000001,.slaveAddFlash 20000001 10000001,.delMainBind 10000001,
        .getBindId 20000001] :=
    ⟨by decide,by decide,by decide,by decide,trivial⟩
  obtain ⟨m,hm,_⟩ := device_table_refines_map (powerOn 40000000 []) rfl _ hallowed
  exact ⟨hallowed,m,hm⟩

end GatewayF411
