import GatewayF411.Lib.CText
import GatewayF411.Lib.Runs

/-!
The persisted environment of `flashwork.c`. EasyFlash appends every `ef_set_env`
to its log, so the environment is the list of writes, newest first; a power loss
keeps a tail of that list. Values and keys are decimal texts.
-/

set_option autoImplicit false

namespace GatewayF411
open CText Runs

abbrev EnvLog := List (Text × Text)

def efSetEnv (key value : Text) (e : EnvLog) : EnvLog := (key,value) :: e

def efGetEnvBlob (key : Text) (e : EnvLog) : Option Text := e.lookup key

inductive EnvType where
  | id | type | bind | heart | upload
  deriving DecidableEq, Repr

def EnvType.tag : EnvType → Text
  | .id => []
  | .type => ['t','y','p','e',':']
  | .bind => ['b','i','n','d',':']
  | .heart => ['h','e','a','r','t',':']
  | .upload => ['u','p','l','o','a','d',':']

def envKey (t : EnvType) (key : UInt32) : Text := t.tag ++ fmtLd key

def learnNumsKey : Text := ['L','e','a','r','n','_','N','u','m','s']

def mainNumsKey : Text := ['M','a','i','n','_','N','u','m','s']

/-- The common body of the readers: an absent or empty value reads as 0. -/
def readValue (keybuf : Text) (e : EnvLog) : UInt32 :=
  match efGetEnvBlob keybuf e with
  | some value => if 0 < value.length then UInt32.ofInt (atol value) else 0
  | none => 0

def flashGetLearnNums (e : EnvLog) : UInt32 := readValue learnNumsKey e

def flashGetMainNums (e : EnvLog) : UInt32 := readValue mainNumsKey e

def flashGetKeyValue (t : EnvType) (key : UInt32) (e : EnvLog) : UInt32 :=
  readValue (envKey t key) e

def flashLearnNumsChange (value : UInt32) (e : EnvLog) : EnvLog :=
  efSetEnv learnNumsKey (fmtLd value) e

def flashMainNumsChange (value : UInt32) (e : EnvLog) : EnvLog :=
  efSetEnv mainNumsKey (fmtLd value) e

/-- The five `Flash_*_Change` writers differ only in the tag of their key. -/
def flashChange (t : EnvType) (key value : UInt32) (e : EnvLog) : EnvLog :=
  efSetEnv (envKey t key) (fmtLd value) e

def flashIdChange : UInt32 → UInt32 → EnvLog → EnvLog := flashChange .id
def flashTypeChange : UInt32 → UInt32 → EnvLog → EnvLog := flashChange .type
def flashBindChange : UInt32 → UInt32 → EnvLog → EnvLog := flashChange .bind
def flashHeartChange : UInt32 → UInt32 → EnvLog → EnvLog := flashChange .heart
def flashUploadFlagChange : UInt32 → UInt32 → EnvLog → EnvLog := flashChange .upload

theorem fmtLd_ne_nil (v : UInt32) : fmtLd v ≠ [] := by
  unfold fmtLd printLong
  split
  · simp
  · exact Nat.toDigits_ne_nil

theorem fmtLd_ne_letter (v : UInt32) (c : Char) (rest : Text)
    (h1 : c ≠ '-') (h2 : c.isDigit = false) : fmtLd v ≠ c :: rest := by
  intro h
  rcases fmtLd_head v (show c ∈ (fmtLd v).head? by simp [h]) with hc | hc
  · exact h1 hc
  · simp [h2] at hc

theorem envKey_inj {t t' : EnvType} {k k' : UInt32} :
    envKey t k = envKey t' k' ↔ t = t' ∧ k = k' := by
  constructor
  · intro h
    have hne : ∀ (v : UInt32) (c : Char) (rest : Text), c ≠ '-' → c.isDigit = false →
        ¬ (c :: rest = fmtLd v) := fun v c rest h1 h2 he => fmtLd_ne_letter v c rest h1 h2 he.symm
    cases t <;> cases t' <;>
      simp_all [envKey,EnvType.tag,fmtLd_ne_letter] <;>
      exact fmtLd_injective h
  · rintro ⟨rfl,rfl⟩
    rfl

theorem envKey_ne_learnNumsKey (t : EnvType) (k : UInt32) : envKey t k ≠ learnNumsKey := by
  cases t <;> simp [envKey,EnvType.tag,learnNumsKey,fmtLd_ne_letter]

theorem envKey_ne_mainNumsKey (t : EnvType) (k : UInt32) : envKey t k ≠ mainNumsKey := by
  cases t <;> simp [envKey,EnvType.tag,mainNumsKey,fmtLd_ne_letter]

theorem readValue_efSetEnv (key key' : Text) (v : UInt32) (e : EnvLog) :
    readValue key (efSetEnv key' (fmtLd v) e) = if key = key' then v else readValue key e := by
  have hl : 0 < (fmtLd v).length := List.length_pos_iff.mpr (fmtLd_ne_nil v)
  by_cases h : key = key'
  · subst h
    simp [readValue,efSetEnv,efGetEnvBlob,hl,atol_fmtLd]
  · have hb : (key == key') = false := by simpa using h
    simp [readValue,efSetEnv,efGetEnvBlob,List.lookup_cons,hb,h]

@[simp] theorem flashGetKeyValue_flashChange (t t' : EnvType) (k k' v : UInt32) (e : EnvLog) :
    flashGetKeyValue t k (flashChange t' k' v e) =
      if t = t' ∧ k = k' then v else flashGetKeyValue t k e := by
  simp [flashGetKeyValue,flashChange,readValue_efSetEnv,envKey_inj]

@[simp] theorem flashGetKeyValue_flashLearnNumsChange (t : EnvType) (k v : UInt32) (e : EnvLog) :
    flashGetKeyValue t k (flashLearnNumsChange v e) = flashGetKeyValue t k e := by
  simp [flashGetKeyValue,flashLearnNumsChange,readValue_efSetEnv,envKey_ne_learnNumsKey]

@[simp] theorem flashGetKeyValue_flashMainNumsChange (t : EnvType) (k v : UInt32) (e : EnvLog) :
    flashGetKeyValue t k (flashMainNumsChange v e) = flashGetKeyValue t k e := by
  simp [flashGetKeyValue,flashMainNumsChange,readValue_efSetEnv,envKey_ne_mainNumsKey]

@[simp] theorem flashGetLearnNums_flashChange (t : EnvType) (k v : UInt32) (e : EnvLog) :
    flashGetLearnNums (flashChange t k v e) = flashGetLearnNums e := by
  simp [flashGetLearnNums,flashChange,readValue_efSetEnv,(envKey_ne_learnNumsKey t k).symm]

@[simp] theorem flashGetMainNums_flashChange (t : EnvType) (k v : UInt32) (e : EnvLog) :
    flashGetMainNums (flashChange t k v e) = flashGetMainNums e := by
  simp [flashGetMainNums,flashChange,readValue_efSetEnv,(envKey_ne_mainNumsKey t k).symm]

@[simp] theorem flashGetLearnNums_flashLearnNumsChange (v : UInt32) (e : EnvLog) :
    flashGetLearnNums (flashLearnNumsChange v e) = v := by
  simp [flashGetLearnNums,flashLearnNumsChange,readValue_efSetEnv]

@[simp] theorem flashGetLearnNums_flashMainNumsChange (v : UInt32) (e : EnvLog) :
    flashGetLearnNums (flashMainNumsChange v e) = flashGetLearnNums e := by
  simp [flashGetLearnNums,flashMainNumsChange,readValue_efSetEnv,learnNumsKey,mainNumsKey]

@[simp] theorem flashGetMainNums_flashMainNumsChange (v : UInt32) (e : EnvLog) :
    flashGetMainNums (flashMainNumsChange v e) = v := by
  simp [flashGetMainNums,flashMainNumsChange,readValue_efSetEnv]

@[simp] theorem flashGetMainNums_flashLearnNumsChange (v : UInt32) (e : EnvLog) :
    flashGetMainNums (flashLearnNumsChange v e) = flashGetMainNums e := by
  simp [flashGetMainNums,flashLearnNumsChange,readValue_efSetEnv,learnNumsKey,mainNumsKey]

inductive EnvCell where
  | device (t : EnvType) (key : UInt32)
  | learnNums
  | mainNums
  deriving DecidableEq, Repr

structure EnvWrite where
  cell : EnvCell
  value : UInt32

def envWrite (e : EnvLog) (w : EnvWrite) : EnvLog :=
  match w.cell with
  | .device .id key => flashIdChange key w.value e
  | .device .type key => flashTypeChange key w.value e
  | .device .bind key => flashBindChange key w.value e
  | .device .heart key => flashHeartChange key w.value e
  | .device .upload key => flashUploadFlagChange key w.value e
  | .learnNums => flashLearnNumsChange w.value e
  | .mainNums => flashMainNumsChange w.value e

def envRead (e : EnvLog) : EnvCell → UInt32
  | .device t key => flashGetKeyValue t key e
  | .learnNums => flashGetLearnNums e
  | .mainNums => flashGetMainNums e

theorem envWrite_device (e : EnvLog) (t : EnvType) (key value : UInt32) :
    envWrite e ⟨.device t key,value⟩ = flashChange t key value e := by
  cases t <;> rfl

theorem envRead_envWrite (c : EnvCell) (e : EnvLog) (w : EnvWrite) :
    envRead (envWrite e w) c = if w.cell = c then w.value else envRead e c := by
  obtain ⟨cell,value⟩ := w
  cases cell with
  | device t key =>
    rw [envWrite_device]
    cases c with
    | device t' key' => simp [envRead,eq_comm]
    | learnNums => simp [envRead]
    | mainNums => simp [envRead]
  | learnNums => cases c <;> simp [envWrite,envRead]
  | mainNums => cases c <;> simp [envWrite,envRead]

/-- After any writes to any cells, each cell holds the value last written to it, or what it
held before if there was none. -/
theorem env_roundTrip (c : EnvCell) (e : EnvLog) (writes : List EnvWrite) :
    envRead (writes.foldl envWrite e) c =
      (writes.filter fun w => w.cell = c).getLast?.elim (envRead e c) EnvWrite.value := by
  refine foldl_lastSet (fun e => envRead e c) (fun w => decide (w.cell = c)) EnvWrite.value
    (fun e w => ?_) e writes
  rw [envRead_envWrite]
  simp only [decide_eq_true_eq]

end GatewayF411
