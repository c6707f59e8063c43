import Mathlib.Logic.Function.Basic
import Mathlib.Algebra.Group.Int.Defs
import Mathlib.Algebra.Group.Nat.Defs

/-!
Decimal text as the C library writes and reads it on a target whose `long` has
32 bits: `sprintf("%ld")`, `atol` and `sscanf` with integer directives.
-/

set_option autoImplicit false

namespace CText

abbrev Text := List Char

/-- The bits of an unsigned 32-bit value, read as a signed `long`. -/
def asLong (v : UInt32) : Int :=
  if v.toNat < 2^31 then (v.toNat : Int) else (v.toNat : Int)-2^32

def printLong (x : Int) : Text :=
  if x < 0 then '-' :: Nat.toDigits 10 x.natAbs else Nat.toDigits 10 x.natAbs

def fmtLd (v : UInt32) : Text := printLong (asLong v)

def isSpace (c : Char) : Bool := c == ' ' || (9 ≤ c.toNat && c.toNat ≤ 13)

def clampLong (x : Int) : Int := max (-2^31) (min x (2^31-1))

def readDigits (cs : Text) : Option (Nat × Text) :=
  match cs.takeWhile Char.isDigit with
  | [] => none
  | ds => some (Nat.ofDigitChars 10 ds 0,cs.dropWhile Char.isDigit)

def readSigned (cs : Text) : Option (Int × Text) :=
  match cs with
  | '-' :: cs => (readDigits cs).map (fun r => (-(r.1 : Int),r.2))
  | '+' :: cs => (readDigits cs).map (fun r => ((r.1 : Int),r.2))
  | cs => (readDigits cs).map (fun r => ((r.1 : Int),r.2))

/-- One `%d` or `%ld` conversion: white space, a sign, at least one digit. -/
def scanLong (cs : Text) : Option (Int × Text) :=
  (readSigned (cs.dropWhile isSpace)).map (fun r => (clampLong r.1,r.2))

def atol (cs : Text) : Int :=
  match scanLong cs with
  | some r => r.1
  | none => 0

theorem asLong_range (v : UInt32) : -2^31 ≤ asLong v ∧ asLong v ≤ 2^31-1 := by
  have hv := v.toNat_lt
  unfold asLong
  split <;> omega

theorem ofInt_asLong (v : UInt32) : UInt32.ofInt (asLong v) = v := by
  have hv := v.toNat_lt
  apply UInt32.toNat_inj.mp
  unfold UInt32.ofInt asLong
  split
  · have h : ((v.toNat : Int) % 2^32).toNat = v.toNat := by omega
    rw [h,UInt32.toNat_ofNat']
    omega
  · have h : (((v.toNat : Int)-2^32) % 2^32).toNat = v.toNat := by omega
    rw [h,UInt32.toNat_ofNat']
    omega

theorem clampLong_asLong (v : UInt32) : clampLong (asLong v) = asLong v := by
  have h := asLong_range v
  unfold clampLong
  omega

theorem toDigits_all_isDigit (n : Nat) : ∀ c ∈ Nat.toDigits 10 n, c.isDigit = true :=
  fun _ hc => Nat.isDigit_of_mem_toDigits (by omega) (by omega) hc

theorem isDigit_not_isSpace {c : Char} (h : c.isDigit = true) : isSpace c = false := by
  have hr := Char.isDigit_iff_toNat.mp h
  change 48 ≤ c.toNat ∧ c.toNat ≤ 57 at hr
  have hs : c ≠ ' ' := by
    rintro rfl
    exact absurd h (by decide)
  simp [isSpace,hs]
  omega

theorem readDigits_append {ds rest : Text} (hne : ds ≠ [])
    (hd : ∀ c ∈ ds, c.isDigit = true)
    (hr : ∀ c ∈ rest.head?, c.isDigit = false) :
    readDigits (ds ++ rest) = some (Nat.ofDigitChars 10 ds 0,rest) := by
  have ht : (ds ++ rest).takeWhile Char.isDigit = ds := by
    rw [List.takeWhile_append_of_pos hd]
    cases rest with
    | nil => simp
    | cons c rest => simp [hr c (by simp)]
  have hw : (ds ++ rest).dropWhile Char.isDigit = rest := by
    rw [List.dropWhile_append_of_pos hd]
    cases rest with
    | nil => simp
    | cons c rest => simp [hr c (by simp)]
  unfold readDigits
  rw [ht,hw]
  cases ds with
  | nil => exact absurd rfl hne
  | cons d ds => rfl

theorem readSigned_digits {ds rest : Text} (hne : ds ≠ [])
    (hd : ∀ c ∈ ds, c.isDigit = true)
    (hr : ∀ c ∈ rest.head?, c.isDigit = false) :
    readSigned (ds ++ rest) = some ((Nat.ofDigitChars 10 ds 0 : Int),rest) := by
  have h := readDigits_append hne hd hr
  cases ds with
  | nil => exact absurd rfl hne
  | cons d ds =>
    have hdig := hd d (by simp)
    unfold readSigned
    split
    · rename_i he
      simp only [List.cons_append,List.cons.injEq] at he
      rw [he.1] at hdig
      exact absurd hdig (by decide)
    · rename_i he
      simp only [List.cons_append,List.cons.injEq] at he
      rw [he.1] at hdig
      exact absurd hdig (by decide)
    · rw [h]
      rfl

theorem scanLong_signed {x : Int} {ds : Text} (hne : ds ≠ []) (hd : ∀ c ∈ ds, c.isDigit = true)
    (hval : Nat.ofDigitChars 10 ds 0 = x.natAbs) (hx : clampLong x = x) (rest : Text)
    (hr : ∀ c ∈ rest.head?, c.isDigit = false) :
    scanLong ((if x < 0 then '-' :: ds else ds) ++ rest) = some (x,rest) := by
  by_cases hneg : x < 0
  · have hsp : isSpace '-' = false := by decide
    have hs : ((if x < 0 then '-' :: ds else ds) ++ rest).dropWhile isSpace =
        '-' :: (ds ++ rest) := by
      simp [hneg,hsp]
    have hx' : -(x.natAbs : Int) = x := by omega
    unfold scanLong
    rw [hs]
    simp only [readSigned,readDigits_append hne hd hr,hval,Option.map_some,hx',hx]
  · have hs : ((if x < 0 then '-' :: ds else ds) ++ rest).dropWhile isSpace = ds ++ rest := by
      simp only [hneg,if_false]
      cases hl : ds with
      | nil => exact absurd hl hne
      | cons d ds =>
        have hsp := isDigit_not_isSpace (hd d (by simp [hl]))
        simp [hsp]
    have hx' : (x.natAbs : Int) = x := by omega
    unfold scanLong
    rw [hs,readSigned_digits hne hd hr,hval,hx']
    simp [hx]

theorem scanLong_printLong {x : Int} (hx : clampLong x = x) (rest : Text)
    (hr : ∀ c ∈ rest.head?, c.isDigit = false) :
    scanLong (printLong x ++ rest) = some (x,rest) :=
  scanLong_signed Nat.toDigits_ne_nil (toDigits_all_isDigit x.natAbs) Nat.ofDigitChars_ten_toDigits
    hx rest hr

theorem atol_fmtLd (v : UInt32) : UInt32.ofInt (atol (fmtLd v)) = v := by
  have h := scanLong_printLong (clampLong_asLong v) [] (by simp)
  rw [List.append_nil] at h
  unfold atol fmtLd
  rw [h]
  exact ofInt_asLong v

theorem fmtLd_injective {v w : UInt32} (h : fmtLd v = fmtLd w) : v = w := by
  have he := congrArg (fun t => UInt32.ofInt (atol t)) h
  simpa only [atol_fmtLd] using he

theorem fmtLd_head (v : UInt32) {c : Char} (hc : c ∈ (fmtLd v).head?) :
    c = '-' ∨ c.isDigit = true := by
  unfold fmtLd printLong at hc
  split at hc
  · exact .inl (by simpa using hc.symm)
  · exact .inr (toDigits_all_isDigit _ c (List.mem_of_mem_head? hc))

inductive Directive where
  | lit : Char → Directive
  | int : Directive
  deriving DecidableEq, Repr

/-- The values converted before the first mismatch. -/
def sscanf : List Directive → Text → List Int
  | [], _ => []
  | .lit _ :: _, [] => []
  | .lit c :: ds, d :: cs => if c = d then sscanf ds cs else []
  | .int :: ds, cs =>
    match scanLong cs with
    | some r => r.1 :: sscanf ds r.2
    | none => []

end CText
