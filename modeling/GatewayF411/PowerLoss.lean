import GatewayF411.Lib.Runs
import GatewayF411.Storage

/-!
Power loss. The journal of a run lists every environment write in order, with a mark
where a registration starts, where it is complete and where a deletion starts. A
power loss cuts the journal anywhere; the table rebuilt from the writes before the
cut must hold every device whose last mark says that it is registered.
-/

set_option autoImplicit false

namespace GatewayF411
open CText SlotScan SlotMap Runs

inductive JournalEntry where
  | wrote (key value : Text)
  | registering (id : UInt32)
  | registered (id : UInt32) (slot : Nat)
  | deleting (id : UInt32)

/-- The writes that turned the environment `e` into `e'`, oldest first. -/
def newWrites (e e' : EnvLog) : List JournalEntry :=
  (e'.take (e'.length-e.length)).reverse.map (fun w => .wrote w.1 w.2)

def delMainBindJournal (a : UInt32) : Nat → Gateway → List JournalEntry
  | 0, _ => []
  | n+1, g =>
    (if g.globalDevice.bindId (n+1) = a ∨ g.globalDevice.id (n+1) = a
      then [.deleting (g.globalDevice.id (n+1))] else []) ++
    newWrites g.env (delMainBindBody a (n+1) g).env ++
    delMainBindJournal a n (delMainBindBody a (n+1) g)

def opJournal (g : Gateway) : StoreOp → List JournalEntry
  | .deviceAdd2FlashWifi id fromId =>
    [.registering id] ++ newWrites g.env (deviceAdd2FlashWifi id fromId g).env ++
    (match findSlot (deviceAdd2FlashWifi id fromId g).globalDevice id with
      | some n => [.registered id n]
      | none => [])
  | .delDevice id =>
    (if flashGetKeyValid g.globalDevice id = .eok then [.deleting id] else []) ++
    newWrites g.env (delDevice id g).2.env
  | .delMainBind a => delMainBindJournal a g.globalDevice.num g
  | .flashSetHeart id v => newWrites g.env (flashSetHeart id v g).2.env
  | .flashSetUploadFlag id v => newWrites g.env (flashSetUploadFlag id v g).2.env
  | .remoteList _ => []

def journal : Gateway → List StoreOp → List JournalEntry
  | _, [] => []
  | g, op :: ops => opJournal g op ++ journal (storeStep g op) ops

/-- What is known at a cut: the writes so far, the slot of every device whose
registration is complete and whose deletion has not started, and the ids whose
registration has started. -/
structure PowerView where
  env : EnvLog
  alive : UInt32 → Option Nat
  seen : List UInt32

def PowerView.apply (v : PowerView) : JournalEntry → PowerView
  | .wrote key value => { v with env := efSetEnv key value v.env }
  | .registering id => { v with seen := id :: v.seen }
  | .registered id slot => { v with alive := Function.update v.alive id (some slot) }
  | .deleting id => { v with alive := Function.update v.alive id none }

def PowerView.boot (e : EnvLog) : PowerView where
  env := e
  alive id := if id = 0 then none else findSlot (loadDevice2Memory e) id
  seen := (List.range 50).map (loadDevice2Memory e).id

/-- The table rebuilt after a power loss at this cut is sound and complete. -/
structure PowerView.Recovers (v : PowerView) : Prop where
  num_le : (loadDevice2Memory v.env).num ≤ 49
  distinct : ∀ n m, 1 ≤ n → n ≤ (loadDevice2Memory v.env).num → 1 ≤ m →
    m ≤ (loadDevice2Memory v.env).num → (loadDevice2Memory v.env).id n ≠ 0 →
    (loadDevice2Memory v.env).id n = (loadDevice2Memory v.env).id m → n = m
  alive : ∀ id n, v.alive id = some n →
    1 ≤ n ∧ n ≤ (loadDevice2Memory v.env).num ∧ (loadDevice2Memory v.env).id n = id
  seen : ∀ n, 1 ≤ n → n ≤ (loadDevice2Memory v.env).num →
    (loadDevice2Memory v.env).id n ≠ 0 → (loadDevice2Memory v.env).id n ∈ v.seen

structure PowerView.Ok (v : PowerView) : Prop where
  env : EnvOk v.env
  alive : ∀ id n, v.alive id = some n → id ≠ 0 ∧ storedId v.env n = id
  seen : ∀ n, storedId v.env n ≠ 0 → storedId v.env n ∈ v.seen

theorem PowerView.Ok.recovers {v : PowerView} (h : v.Ok) : v.Recovers := by
  have hid := h.env.load_id
  have hkeyed := h.env.keyed
  refine ⟨?_,?_,?_,?_⟩
  · rw [loadDevice2Memory_num]
    exact h.env.num_le
  · intro n m _ _ _ _ hn hnm
    rw [hid] at hn hnm
    exact hkeyed.distinct n m hn hnm
  · intro id n ha
    obtain ⟨hne,hn⟩ := h.alive id n ha
    have hb := hkeyed.bounded n (by rw [hn]; exact hne)
    rw [loadDevice2Memory_num,hid]
    exact ⟨hb.1,hb.2,hn⟩
  · intro n _ _ hn
    rw [hid] at hn ⊢
    exact h.seen n hn

/-- A view is judged by the stored mark and the stored ids of its environment. -/
theorem PowerView.ok_of_stored {v : PowerView} {e : EnvLog} {num : Nat} {ids : Nat → UInt32}
    (hnum : storedNum e = num) (hid : storedId e = ids) (hle : num ≤ 49) (hkeyed : Keyed 0 num ids)
    (halive : ∀ id n, v.alive id = some n → id ≠ 0 ∧ ids n = id)
    (hseen : ∀ n, ids n ≠ 0 → ids n ∈ v.seen) : PowerView.Ok { v with env := e } := by
  subst hnum
  subst hid
  exact ⟨⟨hle,hkeyed⟩,halive,hseen⟩

theorem PowerView.Ok.congr {v : PowerView} {e : EnvLog} (h : v.Ok)
    (hnum : storedNum e = storedNum v.env) (hid : storedId e = storedId v.env) :
    PowerView.Ok { v with env := e } :=
  PowerView.ok_of_stored hnum hid h.env.num_le h.env.keyed h.alive h.seen

theorem newWrites_append (ws e : EnvLog) :
    newWrites e (ws ++ e) = ws.reverse.map (fun w => .wrote w.1 w.2) := by
  simp [newWrites]

theorem newWrites_cons {e e' : EnvLog} (h : e <:+ e') (key value : Text) :
    newWrites e ((key,value) :: e') = newWrites e e' ++ [.wrote key value] := by
  obtain ⟨ws,rfl⟩ := h
  rw [newWrites_append,← List.cons_append,newWrites_append]
  simp

theorem newWrites_foldl {v : PowerView} {e : EnvLog} (h : v.env <:+ e) :
    (newWrites v.env e).foldl PowerView.apply v = { v with env := e } := by
  obtain ⟨ws,rfl⟩ := h
  rw [newWrites_append]
  induction ws with
  | nil => rfl
  | cons w ws ih =>
    rw [List.reverse_cons,List.map_append,List.foldl_append,ih]
    rfl

/-- From the view `v` the environment grows to `e` and every cut on the way is sound. -/
structure PowerView.Reaches (v : PowerView) (e : EnvLog) : Prop where
  extends_ : v.env <:+ e
  cuts : AllCuts PowerView.apply PowerView.Ok v (newWrites v.env e)

theorem PowerView.Ok.reaches {v : PowerView} (h : v.Ok) : v.Reaches v.env := by
  refine ⟨List.suffix_refl _,?_⟩
  have hw : newWrites v.env v.env = [] := by simp [newWrites]
  rw [hw]
  exact allCuts_nil h

theorem PowerView.Reaches.ok {v : PowerView} {e : EnvLog} (h : v.Reaches e) :
    PowerView.Ok { v with env := e } := by
  have hok := h.cuts _ (List.prefix_refl _)
  rwa [newWrites_foldl h.extends_] at hok

theorem PowerView.Reaches.write {v : PowerView} {e : EnvLog} (h : v.Reaches e) {key value : Text}
    (hok : PowerView.Ok { v with env := efSetEnv key value e }) :
    v.Reaches (efSetEnv key value e) := by
  refine ⟨h.extends_.trans (List.suffix_cons _ _),?_⟩
  rw [efSetEnv,newWrites_cons h.extends_]
  refine h.cuts.snoc ?_
  rw [newWrites_foldl h.extends_]
  exact hok

/-- Writes that change neither the stored mark nor a stored id. -/
inductive Quietly (e : EnvLog) : EnvLog → Prop where
  | refl : Quietly e e
  | write {e' : EnvLog} (key value : Text) : Quietly e e' →
      storedNum (efSetEnv key value e') = storedNum e' →
      storedId (efSetEnv key value e') = storedId e' → Quietly e (efSetEnv key value e')

theorem Quietly.stored {e e' : EnvLog} (h : Quietly e e') :
    storedNum e' = storedNum e ∧ storedId e' = storedId e := by
  induction h with
  | refl => exact ⟨rfl,rfl⟩
  | write key value _ hnum hid ih => exact ⟨hnum.trans ih.1,hid.trans ih.2⟩

theorem Quietly.trans {e e' e'' : EnvLog} (h : Quietly e e') (h' : Quietly e' e'') :
    Quietly e e'' := by
  induction h' with
  | refl => exact h
  | write key value _ hnum hid ih => exact .write key value ih hnum hid

theorem Quietly.change (e : EnvLog) {t : EnvType} (ht : t ≠ .id) (k v : UInt32) :
    Quietly e (flashChange t k v e) :=
  .write _ _ .refl (storedNum_flashChange e t k v) (storedId_flashChange e ht k v)

theorem Quietly.mainNums (e : EnvLog) (v : UInt32) : Quietly e (flashMainNumsChange v e) :=
  .write _ _ .refl (storedNum_flashMainNumsChange e v) (storedId_flashMainNumsChange e v)

theorem PowerView.Reaches.quietly {v : PowerView} {e e' : EnvLog} (h : v.Reaches e)
    (hq : Quietly e e') : v.Reaches e' := by
  induction hq with
  | refl => exact h
  | write key value _ hnum hid ih => exact ih.write (ih.ok.congr hnum hid)

section Quietly
variable (g : Gateway)

theorem addMainNums_quietly : Quietly g.env (addMainNums g).2.env := by
  unfold addMainNums
  dsimp only
  split
  · exact .mainNums _ _
  · exact .refl

theorem ifDelMainNums_quietly (id : UInt32) :
    Quietly g.env (if isMain id then (delMainNums g).2 else g).env := by
  unfold delMainNums
  dsimp only
  split
  · split
    · exact .mainNums _ _
    · exact .refl
  · exact .refl

theorem flashSetUploadFlag_quietly (id : UInt32) (v : UInt8) :
    Quietly g.env (flashSetUploadFlag id v g).2.env := by
  unfold flashSetUploadFlag
  split
  · exact .change _ (by decide) _ _
  · exact .refl

theorem changeHeart_quietly (n : Nat) (id : UInt32) (v : UInt8) :
    Quietly g.env (changeHeart n id v g).env := by
  obtain ⟨fs,hfs⟩ := setSlaveHeart_onlyEmits g id v
  simp only [changeHeart,hfs]
  exact .change _ (by decide) _ _

theorem flashSetHeart_quietly (id : UInt32) (v : UInt8) :
    Quietly g.env (flashSetHeart id v g).2.env := by
  unfold flashSetHeart
  split
  · rename_i n hs
    split
    · dsimp only
      split
      · exact changeHeart_quietly (setHeartRecv n g) n id 1
      · exact .refl
    · dsimp only
      split
      · exact changeHeart_quietly g n id 0
      · exact .refl
  · exact .refl

theorem announceDevice_quietly (pid : Text) (id : UInt32) :
    Quietly g.env (announceDevice pid id g).env := by
  unfold announceDevice
  split
  · exact flashSetUploadFlag_quietly g id 0
  · exact .refl

end Quietly

/-- Between two operations the table in memory, the stored ids and the marks agree. -/
structure Synced (g : Gateway) (v : PowerView) : Prop where
  env : v.env = g.env
  inv : g.globalDevice.Inv
  num : storedNum g.env = g.globalDevice.num
  ids : storedId g.env = g.globalDevice.id
  alive : ∀ id n, v.alive id = some n → id ≠ 0 ∧ g.globalDevice.id n = id
  seen : ∀ n, g.globalDevice.id n ≠ 0 → g.globalDevice.id n ∈ v.seen

theorem Synced.ok {g : Gateway} {v : PowerView} (h : Synced g v) : v.Ok := by
  refine ⟨⟨?_,?_⟩,?_,?_⟩
  · rw [h.env,h.num]
    exact h.inv.num_le
  · rw [h.env,h.num,h.ids]
    exact h.inv.keyed
  · rw [h.env,h.ids]
    exact h.alive
  · rw [h.env,h.ids]
    exact h.seen

structure SameSlots (g g' : Gateway) : Prop where
  num : g'.globalDevice.num = g.globalDevice.num
  id : g'.globalDevice.id = g.globalDevice.id
  bindId : g'.globalDevice.bindId = g.globalDevice.bindId

theorem SameRegistry.sameSlots {g g' : Gateway} (h : SameRegistry g g') : SameSlots g g' :=
  ⟨h.num,h.id,h.bindId⟩

theorem Synced.quietly {g g' : Gateway} {v : PowerView} (h : Synced g v) (hs : SameSlots g g')
    (hq : Quietly g.env g'.env) :
    v.Reaches g'.env ∧ Synced g' { v with env := g'.env } := by
  have hstored := hq.stored
  have hreach := h.ok.reaches
  rw [h.env] at hreach
  refine ⟨hreach.quietly hq,rfl,h.inv.congr hs.num hs.id hs.bindId,?_,?_,?_,?_⟩
  · rw [hstored.1,hs.num,h.num]
  · rw [hstored.2,hs.id,h.ids]
  · rw [hs.id]
    exact h.alive
  · rw [hs.id]
    exact h.seen

theorem clear_reaches {v : PowerView} {e : EnvLog} (h : v.Reaches e) {n : Nat} (h1 : 1 ≤ n)
    (hn : n ≤ 49) (hdead : ∀ id, v.alive id ≠ some n) :
    v.Reaches (flashIdChange (UInt32.ofNat n) 0 e) := by
  have hok := h.ok
  have hids := storedId_flashIdChange e h1 hn 0
  have hmask : Function.update (storedId e) n 0 = fun j => if j = n then 0 else storedId e j := by
    funext j
    simp [Function.update_apply]
  refine h.write (PowerView.ok_of_stored (storedNum_flashChange e .id _ _) hids hok.env.num_le
    ?_ (fun id j hj => ?_) (fun j hj => ?_))
  · rw [hmask]
    exact hok.env.keyed.mask (fun j => j = n)
  · have hjn : j ≠ n := fun hjn => hdead id (hjn ▸ hj)
    rw [Function.update_of_ne hjn]
    exact hok.alive id j hj
  · by_cases hjn : j = n
    · simp [hjn] at hj
    · rw [Function.update_of_ne hjn] at hj ⊢
      exact hok.seen j hj

theorem clearSlot_reaches {v : PowerView} {g : Gateway} (h : v.Reaches g.env) {n : Nat} (h1 : 1 ≤ n)
    (hn : n ≤ 49) (hdead : ∀ id, v.alive id ≠ some n) (key : UInt32) :
    v.Reaches (clearSlot n key g).env ∧ storedNum (clearSlot n key g).env = storedNum g.env ∧
    storedId (clearSlot n key g).env = Function.update (storedId g.env) n 0 := by
  have hq : Quietly (flashIdChange (UInt32.ofNat n) 0 g.env) (clearSlot n key g).env :=
    (Quietly.change _ (by decide) _ _).trans (.change _ (by decide) _ _)
  refine ⟨(clear_reaches h h1 hn hdead).quietly hq,?_,?_⟩
  · rw [hq.stored.1,flashIdChange,storedNum_flashChange]
  · rw [hq.stored.2,storedId_flashIdChange g.env h1 hn]

/-- A part of the journal that is sound at every cut and ends in step with the table. -/
def Covers (g' : Gateway) (v : PowerView) (j : List JournalEntry) : Prop :=
  AllCuts PowerView.apply PowerView.Ok v j ∧ Synced g' (j.foldl PowerView.apply v)

theorem Synced.deleting {g : Gateway} {v : PowerView} (h : Synced g v) (x : UInt32) :
    Synced g (v.apply (.deleting x)) := by
  refine ⟨h.env,h.inv,h.num,h.ids,fun id n ha => ?_,h.seen⟩
  by_cases hid : id = x
  · simp [PowerView.apply,hid] at ha
  · exact h.alive id n (by simpa [PowerView.apply,hid] using ha)

/-- The deletion of the device in slot `n`: the mark first, then writes of other
keys, then the slot itself. -/
theorem Synced.delete {g g' gq : Gateway} {v : PowerView} (h : Synced g v) {n : Nat}
    (hn : g.globalDevice.id n ≠ 0) {y key : UInt32}
    (htable : g'.globalDevice = g.globalDevice.clear y n) (hq : Quietly g.env gq.env)
    (henv : g'.env = (clearSlot n key gq).env) :
    Covers g' v ([.deleting (g.globalDevice.id n)] ++ newWrites g.env g'.env) := by
  have hd := h.deleting (g.globalDevice.id n)
  have hb := h.inv.keyed.bounded n hn
  have hle := h.inv.num_le
  have hdead : ∀ id, (v.apply (.deleting (g.globalDevice.id n))).alive id ≠ some n := by
    intro id ha
    have hid := (hd.alive id n ha).2
    rw [hid] at ha
    simp [PowerView.apply] at ha
  have hreach := hd.ok.reaches
  rw [hd.env] at hreach
  obtain ⟨hreach,hnum,hids⟩ := clearSlot_reaches (hreach.quietly hq) hb.1 (by omega) hdead key
  rw [← henv] at hreach hnum hids
  have hcuts : AllCuts PowerView.apply PowerView.Ok (v.apply (.deleting (g.globalDevice.id n)))
      (newWrites g.env g'.env) := by
    rw [← hd.env]
    exact hreach.cuts
  have hfold : List.foldl PowerView.apply (v.apply (.deleting (g.globalDevice.id n)))
      (newWrites g.env g'.env) =
      { v.apply (.deleting (g.globalDevice.id n)) with env := g'.env } := by
    rw [← hd.env]
    exact newWrites_foldl hreach.extends_
  refine ⟨((allCuts_nil h.ok).snoc hd.ok).append hcuts,?_⟩
  rw [List.foldl_append]
  simp only [List.foldl_cons,List.foldl_nil,hfold]
  refine ⟨rfl,htable ▸ h.inv.clear y n,?_,?_,fun id j ha => ?_,fun j hj => ?_⟩
  · rw [hnum,hq.stored.1,h.num,htable]
    rfl
  · rw [hids,hq.stored.2,h.ids,htable]
    rfl
  · have hjn : j ≠ n := fun hjn => hdead id (hjn ▸ ha)
    have hold := hd.alive id j ha
    rw [htable]
    exact ⟨hold.1,by simpa [DeviceInfo.clear,hjn] using hold.2⟩
  · rw [htable] at hj ⊢
    by_cases hjn : j = n
    · simp [DeviceInfo.clear,hjn] at hj
    · simp only [DeviceInfo.clear,Function.update_of_ne hjn] at hj ⊢
      exact h.seen j hj

theorem Synced.writes {g g' : Gateway} {v : PowerView} (h : Synced g v)
    (hr : v.Reaches g'.env ∧ Synced g' { v with env := g'.env }) :
    Covers g' v (newWrites g.env g'.env) := by
  rw [← h.env,Covers,newWrites_foldl hr.1.extends_]
  exact ⟨hr.1.cuts,hr.2⟩

theorem growNum_reaches {g : Gateway} {v : PowerView} (h : Synced g v) {n : Nat} (hn : n ≤ 49) :
    v.Reaches (growNum n g).env ∧ storedNum (growNum n g).env = max g.globalDevice.num n ∧
    storedId (growNum n g).env = storedId g.env := by
  have hreach := h.ok.reaches
  rw [h.env] at hreach
  by_cases hlt : g.globalDevice.num < n
  · have hnum := storedNum_flashLearnNumsChange g.env hn
    have henv : (growNum n g).env = flashLearnNumsChange (UInt32.ofNat n) g.env := by
      simp [growNum,hlt]
    rw [henv]
    have hkeyed : Keyed 0 n (storedId g.env) := by
      refine ⟨fun j hj => ?_,hreach.ok.env.keyed.distinct⟩
      have hb : 1 ≤ j ∧ j ≤ storedNum g.env := hreach.ok.env.keyed.bounded j hj
      rw [h.num] at hb
      exact ⟨hb.1,by omega⟩
    exact ⟨hreach.write (PowerView.ok_of_stored hnum (storedId_flashLearnNumsChange _ _) hn hkeyed
      hreach.ok.alive hreach.ok.seen),by omega,storedId_flashLearnNumsChange _ _⟩
  · have henv : (growNum n g).env = g.env := by simp [growNum,hlt]
    rw [henv]
    exact ⟨hreach,by rw [h.num]; omega,rfl⟩

/-- A new device in a free slot: every cut shows the old table or the new one. -/
theorem placeDevice_reaches {g : Gateway} {v : PowerView} (h : Synced g v) {n : Nat} (h1 : 1 ≤ n)
    (hn : n ≤ 49) {id b : UInt32} (hid : id ≠ 0) (hfree : g.globalDevice.id n = 0)
    (hfresh : ∀ j, g.globalDevice.id j ≠ id) (hseen : id ∈ v.seen) :
    v.Reaches (placeDevice n id b (growNum n g)).env ∧
    Synced (placeDevice n id b (growNum n g))
      { v with env := (placeDevice n id b (growNum n g)).env } := by
  obtain ⟨hreach,hnum,hids⟩ := growNum_reaches h hn
  have hinv := placeDevice_inv (b := b) h.inv h1 hn hid hfresh
  have hstored : storedId (flashIdChange (UInt32.ofNat n) id (growNum n g).env) =
      Function.update g.globalDevice.id n id := by
    rw [storedId_flashIdChange _ h1 hn,hids,h.ids]
  have halive : ∀ x j, v.alive x = some j →
      x ≠ 0 ∧ Function.update g.globalDevice.id n id j = x := by
    intro x j hx
    obtain ⟨hne,hj⟩ := h.alive x j hx
    have hjn : j ≠ n := by
      rintro rfl
      exact hne (hj.symm.trans hfree)
    exact ⟨hne,by rw [Function.update_of_ne hjn,hj]⟩
  have hall : ∀ j, Function.update g.globalDevice.id n id j ≠ 0 →
      Function.update g.globalDevice.id n id j ∈ v.seen := by
    intro j hj
    by_cases hjn : j = n
    · simpa [hjn] using hseen
    · rw [Function.update_of_ne hjn] at hj ⊢
      exact h.seen j hj
  have hwrite : v.Reaches (flashIdChange (UInt32.ofNat n) id (growNum n g).env) :=
    hreach.write (PowerView.ok_of_stored
      ((storedNum_flashChange _ .id _ _).trans hnum) hstored hinv.num_le hinv.keyed halive hall)
  have hq : Quietly (flashIdChange (UInt32.ofNat n) id (growNum n g).env)
      (placeDevice n id b (growNum n g)).env :=
    (Quietly.change _ (by decide) _ _).trans (.change _ (by decide) _ _)
  refine ⟨hwrite.quietly hq,rfl,hinv,?_,?_,halive,hall⟩
  · rw [hq.stored.1,flashIdChange,storedNum_flashChange,hnum]
    rfl
  · rw [hq.stored.2,hstored]
    rfl

theorem Synced.reaches_self {g : Gateway} {v : PowerView} (h : Synced g v) :
    v.Reaches g.env ∧ Synced g { v with env := g.env } := h.quietly ⟨rfl,rfl,rfl⟩ .refl

theorem Synced.then_quietly {g g' : Gateway} {v : PowerView}
    (h : v.Reaches g.env ∧ Synced g { v with env := g.env }) (hs : SameSlots g g')
    (hq : Quietly g.env g'.env) : v.Reaches g'.env ∧ Synced g' { v with env := g'.env } :=
  ⟨h.1.quietly hq,(h.2.quietly hs hq).2⟩

theorem registerDevice_reaches {g : Gateway} {v : PowerView} (h : Synced g v) {id b : UInt32}
    (hid : id ≠ 0) (hseen : id ∈ v.seen) :
    v.Reaches (registerDevice id b g).env ∧
    Synced (registerDevice id b g) { v with env := (registerDevice id b g).env } := by
  unfold registerDevice
  split
  · rename_i hnew
    have hfresh := (h.inv.fresh_iff hid).mp hnew
    split
    · rw [mainAddFlash_snd]
      rcases addFlash_cases id 0 g with ⟨hr,_⟩ | ⟨n,h1,hn,hz,hr⟩
      · simpa [hr] using h.reaches_self
      · have hp := placeDevice_reaches (b := 0) h h1 hn hid hz hfresh hseen
        have hs : SameSlots (placeDevice n id 0 (growNum n g))
            (addMainNums (placeDevice n id 0 (growNum n g))).2 := by
          constructor <;> rw [addMainNums_table]
        simp only [hr,if_true]
        exact Synced.then_quietly hp hs (addMainNums_quietly _)
    · rcases addFlash_cases id b g with ⟨hr,_⟩ | ⟨n,h1,hn,hz,hr⟩
      · simpa [hr] using h.reaches_self
      · simpa [hr] using placeDevice_reaches (b := b) h h1 hn hid hz hfresh hseen
  · exact h.reaches_self

theorem deviceAdd2FlashWifi_reaches {g : Gateway} {v : PowerView} (h : Synced g v) {id b : UInt32}
    (hseen : id ∈ v.seen) :
    v.Reaches (deviceAdd2FlashWifi id b g).env ∧
    Synced (deviceAdd2FlashWifi id b g) { v with env := (deviceAdd2FlashWifi id b g).env } := by
  rw [deviceAdd2FlashWifi_eq]
  split
  · rename_i hr
    exact Synced.then_quietly (registerDevice_reaches h (inRange_ne_zero hr) hseen)
      (announceDevice_quiet _ _ _).sameRegistry.sameSlots (announceDevice_quietly _ _ _)
  · exact h.reaches_self

theorem Synced.registering {g : Gateway} {v : PowerView} (h : Synced g v) (id : UInt32) :
    Synced g (v.apply (.registering id)) :=
  ⟨h.env,h.inv,h.num,h.ids,h.alive,fun n hn => List.mem_cons_of_mem _ (h.seen n hn)⟩

theorem Synced.registered {g : Gateway} {v : PowerView} (h : Synced g v) {id : UInt32} {n : Nat}
    (hid : id ≠ 0) (hn : g.globalDevice.id n = id) : Synced g (v.apply (.registered id n)) := by
  refine ⟨h.env,h.inv,h.num,h.ids,fun x j hx => ?_,h.seen⟩
  by_cases hxid : x = id
  · simp only [PowerView.apply,hxid,Function.update_self,Option.some.injEq] at hx
    rw [hxid,← hx]
    exact ⟨hid,hn⟩
  · exact h.alive x j (by simpa [PowerView.apply,hxid] using hx)

theorem Covers.append {g' g'' : Gateway} {v : PowerView} {j k : List JournalEntry}
    (h : Covers g' v j) (h' : Covers g'' (j.foldl PowerView.apply v) k) : Covers g'' v (j ++ k) := by
  refine ⟨h.1.append h'.1,?_⟩
  rw [List.foldl_append]
  exact h'.2

theorem Synced.covers_nil {g : Gateway} {v : PowerView} (h : Synced g v) : Covers g v [] :=
  ⟨allCuts_nil h.ok,h⟩

theorem Covers.mark {g g' : Gateway} {v : PowerView} {j : List JournalEntry} (h : Covers g v j)
    (m : JournalEntry) (hm : Synced g' ((j.foldl PowerView.apply v).apply m)) :
    Covers g' v (j ++ [m]) := by
  refine ⟨h.1.snoc hm.ok,?_⟩
  rw [List.foldl_append]
  exact hm

theorem register_covers {g : Gateway} {v : PowerView} (h : Synced g v) {id : UInt32} (b : UInt32)
    (hid : id ≠ 0) :
    Covers (deviceAdd2FlashWifi id b g) v (opJournal g (.deviceAdd2FlashWifi id b)) := by
  have hstart : Covers g v ([] ++ [.registering id]) := h.covers_nil.mark _ (h.registering id)
  have hwrites := (h.registering id).writes (deviceAdd2FlashWifi_reaches (b := b) (h.registering id)
    (List.mem_cons_self (a := id)))
  have hdone : Covers (deviceAdd2FlashWifi id b g) v
      ([.registering id] ++ newWrites g.env (deviceAdd2FlashWifi id b g).env) :=
    hstart.append hwrites
  unfold opJournal
  dsimp only
  split
  · rename_i n hs
    exact hdone.mark _ (hdone.2.registered hid (findSlot_sound hs).2.2)
  · rw [List.append_nil]
    exact hdone

theorem delDevice_covers {g : Gateway} {v : PowerView} (h : Synced g v) {id : UInt32}
    (hid : id ≠ 0) : Covers (delDevice id g).2 v (opJournal g (.delDevice id)) := by
  unfold opJournal
  cases hs : findSlot g.globalDevice id with
  | none =>
    have hv : flashGetKeyValid g.globalDevice id = .error := findSlot_eq_none.mp hs
    simpa [hv,delDevice_none hs] using h.writes h.reaches_self
  | some n =>
    obtain ⟨h1,hn,hidn⟩ := findSlot_sound hs
    have hv : flashGetKeyValid g.globalDevice id = .eok :=
      flashGetKeyValid_eok.mpr ⟨n,h1,hn,hidn⟩
    have hne : g.globalDevice.id n ≠ 0 := by rw [hidn]; exact hid
    have henv : (delDevice id g).2.env = (clearSlot n id
        (remoteDeviceDelete id (if isMain id then (delMainNums g).2 else g)).2).env := by
      simp [delDevice,hs]
    have hq : Quietly g.env
        (remoteDeviceDelete id (if isMain id then (delMainNums g).2 else g)).2.env := by
      rw [remoteDeviceDelete_env]
      exact ifDelMainNums_quietly g id
    have hdel := h.delete hne (delDevice_table hs) hq henv
    rw [hidn] at hdel
    simpa [hv] using hdel

theorem delMainBindBody_covers {g : Gateway} {v : PowerView} (h : Synced g v) {a : UInt32}
    (ha : a ≠ 0) (n : Nat) :
    Covers (delMainBindBody a n g) v
      ((if g.globalDevice.bindId n = a ∨ g.globalDevice.id n = a
        then [.deleting (g.globalDevice.id n)] else []) ++
        newWrites g.env (delMainBindBody a n g).env) := by
  by_cases hb : g.globalDevice.bindId n = a ∨ g.globalDevice.id n = a
  · have hne := h.inv.bound_occupied ha hb
    have hq : Quietly g.env (localDelete
        ((if isMain a then (delMainNums g).2 else g).globalDevice.id n)
        (if isMain a then (delMainNums g).2 else g)).env := by
      rw [localDelete_env]
      exact ifDelMainNums_quietly g a
    have henv : (delMainBindBody a n g).env = (clearSlot n a (localDelete
        ((if isMain a then (delMainNums g).2 else g).globalDevice.id n)
        (if isMain a then (delMainNums g).2 else g))).env := by
      simp [delMainBindBody,hb]
    have hdel := h.delete hne (delMainBindBody_table hb) hq henv
    simpa [hb] using hdel
  · simpa [hb,delMainBindBody_skip hb] using h.writes h.reaches_self

theorem delMainBind_covers {v : PowerView} {a : UInt32} (ha : a ≠ 0) (n : Nat) {g : Gateway}
    (h : Synced g v) :
    Covers (foldDown (delMainBindBody a) n g) v (delMainBindJournal a n g) := by
  induction n generalizing g v with
  | zero => exact h.covers_nil
  | succ n ih =>
    have hbody := delMainBindBody_covers h ha (n+1)
    exact hbody.append (ih hbody.2)

theorem opJournal_covers {g : Gateway} {v : PowerView} (h : Synced g v) {op : StoreOp}
    (hop : op.NonZero) : Covers (storeStep g op) v (opJournal g op) := by
  cases op with
  | deviceAdd2FlashWifi id b => exact register_covers h b hop
  | delDevice id => exact delDevice_covers h hop
  | delMainBind a => exact delMainBind_covers hop _ h
  | flashSetHeart id x =>
    exact h.writes (h.quietly (flashSetHeart_quiet g id x).sameRegistry.sameSlots
      (flashSetHeart_quietly g id x))
  | flashSetUploadFlag id x =>
    exact h.writes (h.quietly (flashSetUploadFlag_quiet g id x).sameRegistry.sameSlots
      (flashSetUploadFlag_quietly g id x))
  | remoteList remote =>
    exact ⟨allCuts_nil h.ok,h.env,h.inv,h.num,h.ids,h.alive,h.seen⟩

theorem journal_covers {g : Gateway} {v : PowerView} (h : Synced g v) {ops : List StoreOp}
    (hops : ∀ op ∈ ops, op.NonZero) : Covers (ops.foldl storeStep g) v (journal g ops) := by
  induction ops generalizing g v with
  | nil => exact h.covers_nil
  | cons op ops ih =>
    have hop := opJournal_covers h (hops op List.mem_cons_self)
    exact hop.append (ih hop.2 (fun o ho => hops o (List.mem_cons_of_mem _ ho)))

def Booted (g : Gateway) : Prop := g.globalDevice = loadDevice2Memory g.env

/-- What runs of the operations above leave behind, each from a boot and cut at any write. -/
inductive FirmwareEnv : EnvLog → Prop where
  | blank : FirmwareEnv []
  | powerLoss {g : Gateway} {ops : List StoreOp} {p : List JournalEntry} : FirmwareEnv g.env →
      Booted g → (∀ op ∈ ops, op.NonZero) → p <+: journal g ops →
      FirmwareEnv (p.foldl PowerView.apply (PowerView.boot g.env)).env

theorem boot_synced {g : Gateway} (henv : EnvOk g.env) (hboot : Booted g) :
    Synced g (PowerView.boot g.env) := by
  refine ⟨rfl,?_,?_,?_,fun id n ha => ?_,fun n hn => ?_⟩
  · rw [hboot]
    exact henv.load_inv
  · rw [hboot,loadDevice2Memory_num]
  · rw [hboot,henv.load_id]
  · by_cases hid : id = 0
    · simp [PowerView.boot,hid] at ha
    · simp only [PowerView.boot,hid,if_false] at ha
      rw [hboot]
      exact ⟨hid,(findSlot_sound ha).2.2⟩
  · rw [hboot] at hn ⊢
    have hb := henv.load_inv.keyed.bounded n hn
    have hle := henv.load_inv.num_le
    exact List.mem_map.mpr ⟨n,List.mem_range.mpr (by omega),rfl⟩

theorem FirmwareEnv.envOk {e : EnvLog} (h : FirmwareEnv e) : EnvOk e := by
  induction h with
  | blank => exact envOk_nil
  | powerLoss _ hboot hops hp ih =>
    exact ((journal_covers (boot_synced ih hboot) hops).1 _ hp).env

theorem foldl_env_suffix (v : PowerView) (j : List JournalEntry) :
    v.env <:+ (j.foldl PowerView.apply v).env := by
  induction j generalizing v with
  | nil => exact List.suffix_refl _
  | cons m j ih =>
    refine List.IsSuffix.trans ?_ (ih (v.apply m))
    cases m with
    | wrote key value => exact List.suffix_cons _ _
    | registering id => exact List.suffix_refl _
    | registered id n => exact List.suffix_refl _
    | deleting id => exact List.suffix_refl _

/-- Every stage of the environment is the environment at some cut of the journal. -/
theorem cut_of_suffix (v : PowerView) (j : List JournalEntry) {e : EnvLog} (h : v.env <:+ e)
    (he : e <:+ (j.foldl PowerView.apply v).env) :
    ∃ p, p <+: j ∧ (p.foldl PowerView.apply v).env = e := by
  induction j generalizing v with
  | nil => exact ⟨[],List.nil_prefix,h.eq_of_length_le he.length_le⟩
  | cons m j ih =>
    by_cases heq : v.env = e
    · exact ⟨[],List.nil_prefix,heq⟩
    · have hlt : v.env.length < e.length := by
        have hle := h.length_le
        have hne : v.env.length ≠ e.length := fun hl => heq (h.eq_of_length hl)
        omega
      have hlen : (v.apply m).env.length ≤ v.env.length+1 := by
        cases m <;> simp [PowerView.apply,efSetEnv]
      have hsuf : (v.apply m).env <:+ e :=
        List.suffix_of_suffix_length_le (foldl_env_suffix (v.apply m) j) he (by omega)
      obtain ⟨p,hp,hpe⟩ := ih (v.apply m) hsuf he
      exact ⟨m :: p,List.prefix_cons_iff.mpr (.inr ⟨p,rfl,hp⟩),hpe⟩

/-- Wherever a power loss cuts the run, the rebuilt table is sound and complete; and
the cuts of the journal include every single write of the run. -/
theorem power_loss_recovers (g : Gateway) (henv : FirmwareEnv g.env) (hboot : Booted g)
    (ops : List StoreOp) (hops : ∀ op ∈ ops, op.NonZero) :
    (∀ p, p <+: journal g ops → (p.foldl PowerView.apply (PowerView.boot g.env)).Recovers) ∧
    ∀ e, g.env <:+ e → e <:+ (ops.foldl storeStep g).env →
      ∃ p, p <+: journal g ops ∧ (p.foldl PowerView.apply (PowerView.boot g.env)).env = e := by
  have hc := journal_covers (boot_synced henv.envOk hboot) hops
  refine ⟨fun p hp => (hc.1 p hp).recovers,fun e he hfinal => ?_⟩
  refine cut_of_suffix (PowerView.boot g.env) (journal g ops) he ?_
  rw [hc.2.env]
  exact hfinal

/-- A main and a slave bound to it are registered, then the main is deleted with all it holds. -/
def bindAndDelete : List StoreOp :=
  [.deviceAdd2FlashWifi 10000001 0,.deviceAdd2FlashWifi 20000001 10000001,.delMainBind 10000001]

/-- After 17 entries the slave is being deleted while the main still counts as registered. -/
theorem power_loss_recovers_midway :
    FirmwareEnv (powerOn 40000000 []).env ∧
    (List.foldl PowerView.apply (PowerView.boot [])
      ((journal (powerOn 40000000 []) bindAndDelete).take 17)).Recovers ∧
    (List.foldl PowerView.apply (PowerView.boot [])
      ((journal (powerOn 40000000 []) bindAndDelete).take 17)).alive 10000001 = some 1 ∧
    (List.foldl PowerView.apply (PowerView.boot [])
      ((journal (powerOn 40000000 []) bindAndDelete).take 17)).alive 20000001 = none := by
  refine ⟨.blank,?_,by decide,by decide⟩
  refine (power_loss_recovers (powerOn 40000000 []) .blank rfl bindAndDelete ?_).1 _
    (List.take_prefix _ _)
  intro op hop
  simp only [bindAndDelete,List.mem_cons,List.not_mem_nil,or_false] at hop
  rcases hop with rfl | rfl | rfl <;> simp [StoreOp.NonZero]

end GatewayF411
