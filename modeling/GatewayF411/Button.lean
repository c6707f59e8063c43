import Mathlib.Data.List.Induction
import GatewayF411.Lib.Runs

/-!
The button driver: `Button_Cycle_Process` is called with one sample of the pin every 10 ms and
calls back on a click, a double click, every 25 samples of a long press and its end. Between two
presses the driver remembers three numbers, and with them the callbacks of a press depend on
nothing but its length.
-/

set_option autoImplicit false

namespace GatewayF411
open Runs

/-- What `rt_pin_read` returns. -/
inductive PinLevel where
  | low
  | high
  deriving DecidableEq, Repr

/-- `Button_Event`, without the continuous triggers, which are not compiled. -/
inductive ButtonEvent where
  | dowm
  | up
  | double
  | long
  | longFree
  | noneTrigger
  deriving DecidableEq, Repr

def buttonDebounceTime : Nat := 1
def buttonLongCycle : Nat := 25
def buttonDoubleTime : Nat := 15
def buttonLongTime : Nat := 200

structure Button where
  buttonState : ButtonEvent
  buttonLastState : ButtonEvent
  buttonTriggerLevel : PinLevel
  buttonLastLevel : PinLevel
  buttonTriggerEvent : ButtonEvent
  buttonCycle : Nat
  timerCount : Nat
  debounceTime : Nat
  longTime : Nat
  longFlag : Bool
  deriving DecidableEq, Repr

def buttonCreate (btnTriggerLevel : PinLevel) : Button where
  buttonState := .noneTrigger
  buttonLastState := .noneTrigger
  buttonTriggerLevel := btnTriggerLevel
  buttonLastLevel := .high
  buttonTriggerEvent := .noneTrigger
  buttonCycle := 0
  timerCount := 0
  debounceTime := 0
  longTime := 0
  longFlag := false

def buttonDebounce (level : PinLevel) (b : Button) : Button :=
  if level ≠ b.buttonLastLevel then
    if buttonDebounceTime ≤ (b.debounceTime+1)%256 then
      { b with
        buttonLastLevel := level
        debounceTime := 0
        buttonState :=
          if b.buttonState = .noneTrigger ∨ b.buttonState = .double then .dowm
          else if b.buttonState = .dowm then .up
          else b.buttonState }
    else { b with debounceTime := (b.debounceTime+1)%256 }
  else b

def buttonLong (b : Button) : List ButtonEvent × Button :=
  let r := if buttonLongCycle ≤ (b.buttonCycle+1)%256 then
      ([ButtonEvent.long],{ b with buttonCycle := 0, buttonTriggerEvent := .long, longFlag := true })
    else ([],{ b with buttonCycle := (b.buttonCycle+1)%256 })
  (r.1,if r.2.longTime = 0xFF then { r.2 with longTime := buttonLongTime } else r.2)

def buttonDowm (b : Button) : List ButtonEvent × Button :=
  if b.buttonLastLevel = b.buttonTriggerLevel then
    if buttonLongTime ≤ (b.longTime+1)%256 then
      buttonLong { b with buttonTriggerEvent := .dowm, longTime := (b.longTime+1)%256 }
    else ([],{ b with buttonTriggerEvent := .dowm, longTime := (b.longTime+1)%256 })
  else ([],b)

def buttonUp (b : Button) : List ButtonEvent × Button :=
  if b.longFlag then
    ([.longFree],{ b with
      longFlag := false, longTime := 0, buttonState := .noneTrigger, buttonLastState := .long })
  else if b.buttonTriggerEvent = .dowm then
    if b.timerCount ≤ buttonDoubleTime ∧ b.buttonLastState = .double then
      ([.double],{ b with
        buttonTriggerEvent := .double, buttonState := .noneTrigger,
        buttonLastState := .noneTrigger })
    else ([.dowm],{ b with
      timerCount := 0, longTime := 0, buttonState := .double, buttonLastState := .double })
  else ([],b)

def buttonDouble (b : Button) : List ButtonEvent × Button :=
  if buttonDoubleTime ≤ (b.timerCount+1)%256 then
    ([],{ b with
      timerCount := (b.timerCount+1)%256, buttonState := .noneTrigger,
      buttonLastState := .noneTrigger })
  else ([],{ b with timerCount := (b.timerCount+1)%256 })

/-- The callbacks triggered, and the button. -/
def buttonCycleProcess (b : Button) (level : PinLevel) : List ButtonEvent × Button :=
  let b := buttonDebounce level b
  match b.buttonState with
  | .dowm => buttonDowm b
  | .up => buttonUp b
  | .double => buttonDouble b
  | _ => ([],b)

def buttonStep (b : Button) (level : PinLevel) : Button := (buttonCycleProcess b level).2

def buttonCalls (b : Button) (levels : List PinLevel) : List ButtonEvent :=
  trace (fun b l => (buttonCycleProcess b l).1) buttonStep b levels

/-- What the driver remembers between two presses: the duration that a double click leaves
behind, the samples counted towards the next callback of a long press, and the time since a
click. -/
@[ext] structure Rest where
  carried : Nat
  residue : Nat
  window : Option Nat
  residue_lt : residue < buttonLongCycle
  carried_le : carried ≤ buttonLongTime-1+residue
  window_lt : ∀ t ∈ window, t < buttonDoubleTime

def Rest.longTicks (r : Rest) (n : Nat) : Nat := n-(buttonLongTime-1-r.carried)

def Rest.longs (r : Rest) (n : Nat) : Nat := (r.residue+r.longTicks n)/buttonLongCycle

def Rest.press (r : Rest) (n : Nat) : List ButtonEvent :=
  if 0 < r.longs n then List.replicate (r.longs n) .long ++ [.longFree]
  else if r.window.isSome then [.double]
  else [.dowm]

/-- The driver after a press of `n` samples and `m` further samples of the released pin. -/
def Rest.next (r : Rest) (n m : Nat) : Rest where
  carried := if r.longs n = 0 ∧ r.window.isSome then r.carried+n else 0
  residue := (r.residue+r.longTicks n)%buttonLongCycle
  window := if r.longs n = 0 ∧ r.window.isNone ∧ m < buttonDoubleTime then some m else none
  residue_lt := Nat.mod_lt _ (by decide)
  carried_le := by
    split
    · rename_i h
      have hshort := h.1
      have hcarried := r.carried_le
      unfold longs buttonLongCycle at hshort
      unfold longTicks buttonLongTime at *
      unfold buttonLongCycle
      omega
    · exact Nat.zero_le _
  window_lt := by
    intro t ht
    split at ht
    · rename_i h
      cases ht
      exact h.2.2
    · cases ht

/-- One more sample of the released pin: 15 of them end the time for a double click. -/
def Rest.wait (r : Rest) : Rest :=
  { r with
    window := r.window.bind fun t => if buttonDoubleTime ≤ t+1 then none else some (t+1)
    window_lt := by
      intro t ht
      obtain ⟨u,_,hu⟩ := Option.bind_eq_some_iff.mp ht
      split at hu
      · cases hu
      · rename_i hlt
        cases hu
        exact Nat.lt_of_not_le hlt }

theorem Rest.next_wait (r : Rest) (n m : Nat) : (r.next n m).wait = r.next n (m+1) := by
  have hwindow : (r.next n m).wait.window = (r.next n (m+1)).window := by
    unfold wait next
    by_cases hopen : r.longs n = 0 ∧ r.window.isNone ∧ m < buttonDoubleTime
    · by_cases hend : buttonDoubleTime ≤ m+1
      · simp [hopen,hend,Nat.not_lt.mpr hend]
      · simp [hopen,hend,Nat.lt_of_not_le hend]
    · have hclosed : ¬ (r.longs n = 0 ∧ r.window.isNone ∧ m+1 < buttonDoubleTime) :=
        fun hc => hopen ⟨hc.1,hc.2.1,by omega⟩
      simp only [if_neg hopen,if_neg hclosed,Option.bind_none]
  exact Rest.ext rfl rfl hwindow

/-- The pin is released and the driver remembers `r`. -/
structure AtRest (r : Rest) (b : Button) : Prop where
  level : b.buttonLastLevel = .high
  trigger : b.buttonTriggerLevel = .low
  debounce : b.debounceTime = 0
  flag : b.longFlag = false
  duration : b.longTime = r.carried
  cycle : b.buttonCycle = r.residue
  closed : r.window = none → b.buttonState = .noneTrigger ∧ b.buttonLastState ≠ .double
  opened : ∀ t, r.window = some t →
    b.buttonState = .double ∧ b.buttonLastState = .double ∧ b.timerCount = t

/-- `n` samples of a press that began with `r` have been processed. -/
structure Pressed (r : Rest) (n : Nat) (b : Button) : Prop where
  level : b.buttonLastLevel = .low
  trigger : b.buttonTriggerLevel = .low
  debounce : b.debounceTime = 0
  state : b.buttonState = .dowm
  flag : b.longFlag = decide (0 < r.longs n)
  event : r.longs n = 0 → 0 < n → b.buttonTriggerEvent = .dowm
  cycle : b.buttonCycle = (r.residue+r.longTicks n)%buttonLongCycle
  short : r.longs n = 0 → b.longTime = r.carried+n
  long : 0 < r.longs n → buttonLongTime ≤ b.longTime ∧ b.longTime < 255
  closed : r.window = none → b.buttonLastState ≠ .double
  opened : ∀ t, r.window = some t → b.buttonLastState = .double ∧ b.timerCount = t

theorem Rest.longs_zero (r : Rest) : r.longs 0 = 0 := by
  have hlt := r.residue_lt
  unfold longs longTicks
  rw [Nat.zero_sub,Nat.add_zero]
  exact Nat.div_eq_of_lt hlt

theorem Rest.longTicks_short {r : Rest} {n : Nat} (h : r.carried+n+1 < buttonLongTime) :
    r.longTicks n = 0 ∧ r.longTicks (n+1) = 0 := by
  unfold longTicks
  omega

theorem Rest.longTicks_succ {r : Rest} {n : Nat} (h : buttonLongTime ≤ r.carried+n+1) :
    r.longTicks (n+1) = r.longTicks n+1 := by
  unfold longTicks buttonLongTime at *
  omega

theorem Rest.longs_short {r : Rest} {n : Nat} (h : r.carried+n+1 < buttonLongTime) :
    r.longs n = 0 ∧ r.longs (n+1) = 0 := by
  have hlt := r.residue_lt
  unfold longs
  rw [(longTicks_short h).1,(longTicks_short h).2,Nat.add_zero]
  exact ⟨Nat.div_eq_of_lt hlt,Nat.div_eq_of_lt hlt⟩

theorem Rest.longs_succ {r : Rest} {n : Nat} (h : buttonLongTime ≤ r.carried+n+1) :
    r.longs (n+1) = r.longs n+
      if (r.residue+r.longTicks n)%buttonLongCycle+1 = buttonLongCycle then 1 else 0 := by
  unfold longs
  rw [longTicks_succ h]
  unfold buttonLongCycle
  split <;> omega

theorem Rest.cycle_succ {r : Rest} {n : Nat} (h : buttonLongTime ≤ r.carried+n+1) :
    (r.residue+r.longTicks (n+1))%buttonLongCycle =
      if (r.residue+r.longTicks n)%buttonLongCycle+1 = buttonLongCycle then 0
      else (r.residue+r.longTicks n)%buttonLongCycle+1 := by
  rw [longTicks_succ h]
  unfold buttonLongCycle
  split <;> omega

theorem Rest.carried_of_short {r : Rest} {n : Nat} (h : r.longs n = 0) :
    r.carried+n < buttonLongTime+buttonLongCycle := by
  have hcarried := r.carried_le
  unfold longs longTicks at h
  unfold buttonLongTime buttonLongCycle at *
  omega

theorem Pressed.longTime_lt {r : Rest} {n : Nat} {b : Button} (h : Pressed r n b) :
    b.longTime < 255 := by
  by_cases hlong : r.longs n = 0
  · have hlt := Rest.carried_of_short hlong
    rw [h.short hlong]
    unfold buttonLongTime buttonLongCycle at hlt
    omega
  · exact (h.long (Nat.pos_of_ne_zero hlong)).2

theorem AtRest.pressed {r : Rest} {b : Button} (h : AtRest r b) :
    Pressed r 0 (buttonDebounce .low b) := by
  have hne : PinLevel.low ≠ b.buttonLastLevel := by simp [h.level]
  have hdown : b.buttonState = .noneTrigger ∨ b.buttonState = .double := by
    cases hw : r.window with
    | none => exact .inl (h.closed hw).1
    | some t => exact .inr (h.opened t hw).1
  have heq : buttonDebounce .low b =
      { b with buttonLastLevel := .low, debounceTime := 0, buttonState := .dowm } := by
    simp [buttonDebounce,hne,h.debounce,buttonDebounceTime,hdown]
  rw [heq]
  exact
    { level := rfl
      trigger := h.trigger
      debounce := rfl
      state := rfl
      flag := by rw [h.flag,r.longs_zero]; rfl
      event := fun _ hn => absurd hn (Nat.lt_irrefl 0)
      cycle := by
        rw [h.cycle,Rest.longTicks,Nat.zero_sub,Nat.add_zero,Nat.mod_eq_of_lt r.residue_lt]
      short := fun _ => h.duration
      long := fun hpos => absurd hpos (by rw [r.longs_zero]; exact Nat.lt_irrefl 0)
      closed := fun hw => (h.closed hw).2
      opened := fun t hw => (h.opened t hw).2 }

theorem Pressed.buttonDebounce_low {r : Rest} {n : Nat} {b : Button} (h : Pressed r n b) :
    buttonDebounce .low b = b := by
  simp [buttonDebounce,h.level]

theorem buttonLong_eq {b : Button} (h : b.buttonCycle < buttonLongCycle) :
    buttonLong b = if b.buttonCycle+1 = buttonLongCycle then
      ([.long],{ b with
        buttonCycle := 0, buttonTriggerEvent := .long, longFlag := true,
        longTime := if b.longTime = 0xFF then buttonLongTime else b.longTime })
    else ([],{ b with
      buttonCycle := b.buttonCycle+1,
      longTime := if b.longTime = 0xFF then buttonLongTime else b.longTime }) := by
  have hmod : (b.buttonCycle+1)%256 = b.buttonCycle+1 := by
    unfold buttonLongCycle at h
    omega
  have hle : buttonLongCycle ≤ b.buttonCycle+1 ↔ b.buttonCycle+1 = buttonLongCycle := by omega
  unfold buttonLong
  simp only [hmod,hle]
  by_cases hfire : b.buttonCycle+1 = buttonLongCycle
  · by_cases hmax : b.longTime = 0xFF <;> simp [hfire,hmax]
  · by_cases hmax : b.longTime = 0xFF <;> simp [hfire,hmax]

theorem Pressed.buttonDowm {r : Rest} {n : Nat} {b : Button} (h : Pressed r n b) :
    (buttonDowm b).1 = List.replicate (r.longs (n+1)-r.longs n) .long ∧
      Pressed r (n+1) (buttonDowm b).2 := by
  have hbound := h.longTime_lt
  have hmod : (b.longTime+1)%256 = b.longTime+1 := Nat.mod_eq_of_lt (by omega)
  by_cases hshort : r.carried+n+1 < buttonLongTime
  · have hlongs := Rest.longs_short hshort
    have hticks := Rest.longTicks_short hshort
    have htime := h.short hlongs.1
    have heq : GatewayF411.buttonDowm b =
        ([],{ b with buttonTriggerEvent := .dowm, longTime := b.longTime+1 }) := by
      have hmore : ¬ buttonLongTime ≤ b.longTime+1 := by
        rw [htime]
        exact Nat.not_le.mpr hshort
      simp [GatewayF411.buttonDowm,h.level,h.trigger,hmod,hmore]
    rw [heq,hlongs.1,hlongs.2]
    exact ⟨rfl,
      { level := h.level
        trigger := h.trigger
        debounce := h.debounce
        state := h.state
        flag := by rw [h.flag,hlongs.1,hlongs.2]
        event := fun _ _ => rfl
        cycle := by rw [h.cycle,hticks.1,hticks.2]
        short := fun _ => congrArg Nat.succ htime
        long := fun hpos => absurd hlongs.2 (Nat.ne_of_gt hpos)
        closed := h.closed
        opened := h.opened }⟩
  · have hlong : buttonLongTime ≤ r.carried+n+1 := Nat.le_of_not_lt hshort
    have hcycle : b.buttonCycle < buttonLongCycle := by
      rw [h.cycle]
      exact Nat.mod_lt _ (by decide)
    have hmore : buttonLongTime ≤ b.longTime+1 := by
      by_cases hnone : r.longs n = 0
      · rw [h.short hnone]
        exact hlong
      · exact Nat.le_succ_of_le (h.long (Nat.pos_of_ne_zero hnone)).1
    have heq : GatewayF411.buttonDowm b =
        buttonLong { b with buttonTriggerEvent := .dowm, longTime := b.longTime+1 } := by
      simp [GatewayF411.buttonDowm,h.level,h.trigger,hmod,hmore]
    have hlongs := Rest.longs_succ hlong
    rw [← h.cycle] at hlongs
    have hnext := Rest.cycle_succ hlong
    rw [← h.cycle] at hnext
    rw [heq,buttonLong_eq (b := { b with buttonTriggerEvent := .dowm, longTime := b.longTime+1 }) hcycle]
    dsimp only
    have hwrap : buttonLongTime ≤ (if b.longTime+1 = 0xFF then buttonLongTime else b.longTime+1) ∧
        (if b.longTime+1 = 0xFF then buttonLongTime else b.longTime+1) < 255 := by
      unfold buttonLongTime at *
      split <;> omega
    by_cases hfire : b.buttonCycle+1 = buttonLongCycle
    · rw [if_pos hfire] at hlongs hnext ⊢
      have hpos : 0 < r.longs (n+1) := by omega
      refine ⟨by rw [hlongs,Nat.add_sub_cancel_left]; rfl,?_⟩
      exact
        { level := h.level
          trigger := h.trigger
          debounce := h.debounce
          state := h.state
          flag := (decide_eq_true hpos).symm
          event := fun hnone => absurd hnone (Nat.ne_of_gt hpos)
          cycle := hnext.symm
          short := fun hnone => absurd hnone (Nat.ne_of_gt hpos)
          long := fun _ => hwrap
          closed := h.closed
          opened := h.opened }
    · rw [if_neg hfire] at hlongs hnext ⊢
      replace hlongs : r.longs (n+1) = r.longs n := hlongs
      refine ⟨by rw [hlongs,Nat.sub_self]; rfl,?_⟩
      exact
        { level := h.level
          trigger := h.trigger
          debounce := h.debounce
          state := h.state
          flag := by rw [h.flag,hlongs]
          event := fun _ _ => rfl
          cycle := hnext.symm
          short := fun hnone => by
            have htime := h.short (hlongs ▸ hnone)
            have hlt := Rest.carried_of_short hnone
            have hmax : b.longTime+1 ≠ 0xFF := by
              unfold buttonLongTime buttonLongCycle at hlt
              omega
            exact (if_neg hmax).trans (congrArg Nat.succ htime)
          long := fun _ => hwrap
          closed := h.closed
          opened := h.opened }

theorem buttonCycleProcess_low {r : Rest} {n : Nat} {b : Button}
    (h : Pressed r n (buttonDebounce .low b)) :
    (buttonCycleProcess b .low).1 = List.replicate (r.longs (n+1)-r.longs n) .long ∧
      Pressed r (n+1) (buttonStep b .low) := by
  have heq : buttonCycleProcess b .low = buttonDowm (buttonDebounce .low b) := by
    simp only [buttonCycleProcess,h.state]
  unfold buttonStep
  rw [heq]
  exact h.buttonDowm

theorem Rest.longs_mono (r : Rest) {n m : Nat} (h : n ≤ m) : r.longs n ≤ r.longs m :=
  Nat.div_le_div_right (Nat.add_le_add_left (Nat.sub_le_sub_right h _) _)

theorem buttonCalls_low {r : Rest} {n : Nat} {b : Button} (k : Nat)
    (h : Pressed r n (buttonDebounce .low b)) (hk : 0 < k) :
    buttonCalls b (List.replicate k .low) = List.replicate (r.longs (n+k)-r.longs n) .long ∧
      Pressed r (n+k) ((List.replicate k PinLevel.low).foldl buttonStep b) := by
  induction k generalizing n b with
  | zero => exact absurd hk (Nat.lt_irrefl 0)
  | succ k ih =>
    obtain ⟨hcalls,hnext⟩ := buttonCycleProcess_low h
    rw [List.replicate_succ,buttonCalls,trace,List.foldl_cons,hcalls]
    by_cases hlast : k = 0
    · subst hlast
      exact ⟨List.append_nil _,hnext⟩
    · rw [← hnext.buttonDebounce_low] at hnext
      obtain ⟨hrest,hend⟩ := ih hnext (Nat.pos_of_ne_zero hlast)
      rw [show n+(k+1) = n+1+k by omega]
      refine ⟨?_,hend⟩
      rw [← buttonCalls,hrest,List.replicate_append_replicate]
      have hle := r.longs_mono (Nat.le_add_right n 1)
      have hle' := r.longs_mono (Nat.le_add_right (n+1) k)
      congr 1
      omega

theorem buttonUp_long {b : Button} (h : b.longFlag = true) :
    buttonUp b = ([.longFree],{ b with
      longFlag := false, longTime := 0, buttonState := .noneTrigger, buttonLastState := .long }) := by
  rw [buttonUp,if_pos h]

theorem buttonUp_double {b : Button} (h : b.longFlag = false) (he : b.buttonTriggerEvent = .dowm)
    (hl : b.buttonLastState = .double) (ht : b.timerCount ≤ buttonDoubleTime) :
    buttonUp b = ([.double],{ b with
      buttonTriggerEvent := .double, buttonState := .noneTrigger,
      buttonLastState := .noneTrigger }) := by
  rw [buttonUp,if_neg (by simp [h]),if_pos he,if_pos ⟨ht,hl⟩]

theorem buttonUp_click {b : Button} (h : b.longFlag = false) (he : b.buttonTriggerEvent = .dowm)
    (hl : b.buttonLastState ≠ .double) :
    buttonUp b = ([.dowm],{ b with
      timerCount := 0, longTime := 0, buttonState := .double, buttonLastState := .double }) := by
  rw [buttonUp,if_neg (by simp [h]),if_pos he,if_neg fun hd => hl hd.2]

def Button.raised (b : Button) : Button :=
  { b with buttonLastLevel := .high, debounceTime := 0, buttonState := .up }

theorem Pressed.release {r : Rest} {n : Nat} {b : Button} (h : Pressed r n b) (hn : 0 < n) :
    r.press n = List.replicate (r.longs n) .long ++ (buttonCycleProcess b .high).1 ∧
      AtRest (r.next n 0) (buttonStep b .high) := by
  have hup : buttonDebounce .high b = b.raised := by
    simp [buttonDebounce,h.level,h.debounce,h.state,buttonDebounceTime,Button.raised]
  have heq : buttonCycleProcess b .high = buttonUp b.raised := by
    rw [buttonCycleProcess,hup]
    rfl
  unfold buttonStep
  rw [heq]
  by_cases hlong : 0 < r.longs n
  · have hflag : b.longFlag = true := by rw [h.flag,decide_eq_true hlong]
    have hne : r.longs n ≠ 0 := Nat.ne_of_gt hlong
    rw [buttonUp_long (b := b.raised) hflag]
    refine ⟨by simp [Rest.press,hlong],?_⟩
    exact
      { level := rfl
        trigger := h.trigger
        debounce := rfl
        flag := rfl
        duration := by simp [Rest.next,hne]
        cycle := h.cycle
        closed := fun _ => ⟨rfl,by simp⟩
        opened := fun t ht => by simp [Rest.next,hne] at ht }
  · have hnone : r.longs n = 0 := Nat.eq_zero_of_not_pos hlong
    have hflag : b.longFlag = false := by rw [h.flag,decide_eq_false hlong]
    have hevent := h.event hnone hn
    cases hw : r.window with
    | some t =>
      obtain ⟨hlast,htimer⟩ := h.opened t hw
      have htime : b.timerCount ≤ buttonDoubleTime := by
        rw [htimer]
        exact Nat.le_of_lt (r.window_lt t hw)
      rw [buttonUp_double (b := b.raised) hflag hevent hlast htime]
      refine ⟨by simp [Rest.press,hnone,hw],?_⟩
      exact
        { level := rfl
          trigger := h.trigger
          debounce := rfl
          flag := hflag
          duration := (h.short hnone).trans (by simp [Rest.next,hnone,hw])
          cycle := h.cycle
          closed := fun _ => ⟨rfl,by simp⟩
          opened := fun t ht => by simp [Rest.next,hnone,hw] at ht }
    | none =>
      have hlast := h.closed hw
      rw [buttonUp_click (b := b.raised) hflag hevent hlast]
      refine ⟨by simp [Rest.press,hnone,hw],?_⟩
      exact
        { level := rfl
          trigger := h.trigger
          debounce := rfl
          flag := hflag
          duration := by simp [Rest.next,hnone,hw]
          cycle := h.cycle
          closed := fun ht => by simp [Rest.next,hnone,hw,buttonDoubleTime] at ht
          opened := fun t ht => by
            simp [Rest.next,hnone,hw,buttonDoubleTime] at ht
            exact ⟨rfl,rfl,ht⟩ }

theorem AtRest.idle {r : Rest} {b : Button} (h : AtRest r b) (hw : r.window = none) :
    buttonCycleProcess b .high = ([],b) := by
  have hsame : buttonDebounce .high b = b := by simp [buttonDebounce,h.level]
  rw [buttonCycleProcess,hsame]
  simp only [(h.closed hw).1]

theorem AtRest.wait {r : Rest} {b : Button} (h : AtRest r b) :
    (buttonCycleProcess b .high).1 = [] ∧ AtRest r.wait (buttonStep b .high) := by
  unfold buttonStep
  cases hw : r.window with
  | none =>
    have hw' : r.wait.window = none := by simp [Rest.wait,hw]
    rw [h.idle hw]
    exact ⟨rfl,h.level,h.trigger,h.debounce,h.flag,h.duration,h.cycle,fun _ => h.closed hw,
      fun t ht => by rw [hw'] at ht; cases ht⟩
  | some t =>
    obtain ⟨hstate,hlast,htimer⟩ := h.opened t hw
    have hlt := r.window_lt t hw
    have heq : buttonCycleProcess b .high = buttonDouble b := by
      have hsame : buttonDebounce .high b = b := by simp [buttonDebounce,h.level]
      rw [buttonCycleProcess,hsame]
      simp only [hstate]
    have hmod : (b.timerCount+1)%256 = t+1 := by
      unfold buttonDoubleTime at hlt
      omega
    rw [heq,buttonDouble,hmod]
    by_cases hend : buttonDoubleTime ≤ t+1
    · have hw' : r.wait.window = none := by simp [Rest.wait,hw,hend]
      rw [if_pos hend]
      exact ⟨rfl,h.level,h.trigger,h.debounce,h.flag,h.duration,h.cycle,fun _ => ⟨rfl,by simp⟩,
        fun t ht => by rw [hw'] at ht; cases ht⟩
    · have hw' : r.wait.window = some (t+1) := by simp [Rest.wait,hw,hend]
      rw [if_neg hend]
      exact ⟨rfl,h.level,h.trigger,h.debounce,h.flag,h.duration,h.cycle,
        fun ht => absurd (hw'.symm.trans ht) (by simp),
        fun t ht => ⟨hstate,hlast,Option.some.inj (hw'.symm.trans ht)⟩⟩

theorem buttonCalls_high {r : Rest} {n m : Nat} {b : Button} (k : Nat)
    (h : AtRest (r.next n m) b) :
    buttonCalls b (List.replicate k .high) = [] ∧
      AtRest (r.next n (m+k)) ((List.replicate k PinLevel.high).foldl buttonStep b) := by
  induction k generalizing m b with
  | zero => exact ⟨rfl,h⟩
  | succ k ih =>
    obtain ⟨hcalls,hnext⟩ := h.wait
    rw [Rest.next_wait] at hnext
    obtain ⟨hrest,hend⟩ := ih hnext
    rw [List.replicate_succ,buttonCalls,trace,List.foldl_cons,hcalls]
    rw [show m+(k+1) = m+1+k by omega]
    exact ⟨hrest,hend⟩

structure Press where
  n : Nat
  m : Nat
  deriving DecidableEq, Repr

def Press.levels (p : Press) : List PinLevel :=
  List.replicate (p.n+1) .low ++ .high :: List.replicate p.m .high

def Rest.presses : Rest → List Press → List ButtonEvent
  | _, [] => []
  | r, p :: ps => r.press (p.n+1) ++ (r.next (p.n+1) p.m).presses ps

def Rest.after (r : Rest) (ps : List Press) : Rest :=
  ps.foldl (fun r p => r.next (p.n+1) p.m) r

theorem AtRest.press {r : Rest} {b : Button} (h : AtRest r b) (p : Press) :
    buttonCalls b p.levels = r.press (p.n+1) ∧
      AtRest (r.next (p.n+1) p.m) (p.levels.foldl buttonStep b) := by
  obtain ⟨hlow,hpressed⟩ := buttonCalls_low (p.n+1) h.pressed (Nat.succ_pos _)
  rw [Nat.zero_add,r.longs_zero,Nat.sub_zero] at hlow
  rw [Nat.zero_add] at hpressed
  obtain ⟨hrelease,hrest⟩ := hpressed.release (Nat.succ_pos _)
  obtain ⟨hhigh,hend⟩ := buttonCalls_high p.m hrest
  rw [Nat.zero_add] at hend
  unfold Press.levels
  rw [buttonCalls,trace_append,← buttonCalls,hlow,List.foldl_append,hrelease,trace,List.foldl_cons]
  refine ⟨?_,hend⟩
  rw [← buttonCalls,hhigh,List.append_nil]

/-- The driver refines the press machine: over any sequence of presses the callbacks are those
that the lengths of the presses and of the pauses give. -/
theorem buttonCalls_presses {r : Rest} {b : Button} (h : AtRest r b) (ps : List Press) :
    buttonCalls b (ps.flatMap Press.levels) = r.presses ps ∧
      AtRest (r.after ps) ((ps.flatMap Press.levels).foldl buttonStep b) := by
  induction ps generalizing r b with
  | nil => exact ⟨rfl,h⟩
  | cons p ps ih =>
    obtain ⟨hcalls,hrest⟩ := h.press p
    obtain ⟨hcalls',hend⟩ := ih hrest
    rw [List.flatMap_cons,List.foldl_append,buttonCalls,trace_append,← buttonCalls,hcalls]
    exact ⟨congrArg _ hcalls',hend⟩

def Rest.start : Rest where
  carried := 0
  residue := 0
  window := none
  residue_lt := by decide
  carried_le := by decide
  window_lt := by simp

theorem AtRest.start : AtRest .start (buttonCreate .low) where
  level := rfl
  trigger := rfl
  debounce := rfl
  flag := rfl
  duration := rfl
  cycle := rfl
  closed := fun _ => ⟨rfl,by decide⟩
  opened := by rintro t ⟨⟩

theorem buttonCalls_idle (k : Nat) :
    buttonCalls (buttonCreate .low) (List.replicate k .high) = [] ∧
      (List.replicate k PinLevel.high).foldl buttonStep (buttonCreate .low) = buttonCreate .low := by
  have hidle := AtRest.start.idle rfl
  induction k with
  | zero => exact ⟨rfl,rfl⟩
  | succ k ih =>
    have hstep : buttonStep (buttonCreate .low) .high = buttonCreate .low := congrArg Prod.snd hidle
    rw [List.replicate_succ,buttonCalls,trace,List.foldl_cons,hstep,hidle]
    exact ih

/-- A list of samples as a pause, whole presses and the samples of a press that still lasts. -/
theorem levels_split (levels : List PinLevel) : ∃ (k : Nat) (ps : List Press) (j : Nat),
    levels = List.replicate k .high ++ ps.flatMap Press.levels ++ List.replicate j .low := by
  induction levels using List.reverseRecOn with
  | nil => exact ⟨0,[],0,rfl⟩
  | append_singleton levels l ih =>
    obtain ⟨k,ps,j,rfl⟩ := ih
    cases l with
    | low => exact ⟨k,ps,j+1,by rw [List.replicate_succ',List.append_assoc]⟩
    | high =>
      cases j with
      | succ j =>
        refine ⟨k,ps ++ [⟨j,0⟩],0,?_⟩
        simp [Press.levels]
      | zero =>
        rcases List.eq_nil_or_concat ps with rfl | ⟨qs,q,rfl⟩
        · refine ⟨k+1,[],0,?_⟩
          simp [List.replicate_succ']
        · refine ⟨k,qs ++ [⟨q.n,q.m+1⟩],0,?_⟩
          simp [Press.levels,List.replicate_succ']

/-- The driver refines the press machine: whatever the pin is sampled as from power on, the
callbacks are those that the lengths of the presses and of the pauses give. -/
theorem button_presses (levels : List PinLevel) : ∃ (k : Nat) (ps : List Press) (j : Nat),
    levels = List.replicate k .high ++ ps.flatMap Press.levels ++ List.replicate j .low ∧
    buttonCalls (buttonCreate .low) levels =
      Rest.start.presses ps ++ List.replicate ((Rest.start.after ps).longs j) .long := by
  obtain ⟨k,ps,j,hlevels⟩ := levels_split levels
  refine ⟨k,ps,j,hlevels,?_⟩
  obtain ⟨hidle,hstart⟩ := buttonCalls_idle k
  obtain ⟨hcalls,hrest⟩ := buttonCalls_presses AtRest.start ps
  rw [hlevels,buttonCalls,trace_append,trace_append,List.foldl_append,hstart,← buttonCalls,hidle,
    ← buttonCalls,hcalls,← buttonCalls,List.nil_append]
  cases j with
  | zero => rw [Rest.longs_zero]; rfl
  | succ j =>
    obtain ⟨hlow,_⟩ := buttonCalls_low (j+1) hrest.pressed (Nat.succ_pos _)
    rw [Nat.zero_add,Rest.longs_zero,Nat.sub_zero] at hlow
    rw [hlow]

end GatewayF411
