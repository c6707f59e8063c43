import GatewayF411.Lib.CText

/-!
The JSON parser and printer of the WiFi protocol. A text ends at its NUL, so it is the list of
the characters before it. The parser counts braces inside a string and goes on past a quote
while they are not balanced.
-/

set_option autoImplicit false

namespace GatewayF411
open CText

/-- The decimal that a number spells: `mant*10^exp`, with its sign. -/
structure CNumber where
  neg : Bool
  mant : Nat
  exp : Int
  deriving DecidableEq, Repr

inductive CJson where
  | null
  | false
  | true
  | number (n : CNumber)
  | string (s : Text)
  | array (items : List CJson)
  | object (members : List (Text × CJson))
  deriving Repr

/-- Why a parse gives no item: the text is refused, or the parser leaves the text or the buffer it
has allocated for a string. -/
inductive ParseError where
  | malformed
  | overrun
  | overflow
  | fuel
  deriving DecidableEq, Repr

def skip (t : Text) : Text := t.dropWhile fun c => c.toNat ≤ 32

def digitRun (t : Text) : Text := t.takeWhile Char.isDigit

def afterRun (t : Text) : Text := t.dropWhile Char.isDigit

def exponentSign : Text → Int × Text
  | '+' :: t => (1,t)
  | '-' :: t => (-1,t)
  | t => (1,t)

def parseExponent : Text → Int × Text
  | c :: t =>
    if c = 'e' ∨ c = 'E' then
      let r := exponentSign t
      (r.1*(Nat.ofDigitChars 10 (digitRun r.2) 0 : Int),afterRun r.2)
    else (0,c :: t)
  | [] => (0,[])

def parseFraction : Text → Text × Text
  | '.' :: t => if digitRun t = [] then ([],'.' :: t) else (digitRun t,afterRun t)
  | t => ([],t)

def parseNumber (num : Text) : CNumber × Text :=
  let neg := num.head? = some '-'
  let num := if neg then num.tail else num
  let num := if num.head? = some '0' then num.tail else num
  let digits := if num.head? = some '0' then [] else digitRun num
  let frac := parseFraction (num.drop digits.length)
  let exp := parseExponent frac.2
  (⟨neg,Nat.ofDigitChars 10 (digits ++ frac.1) 0,exp.1-(frac.1.length : Int)⟩,exp.2)

def hexValue (c : Char) : Option Nat :=
  if '0' ≤ c ∧ c ≤ '9' then some (c.toNat - '0'.toNat)
  else if 'A' ≤ c ∧ c ≤ 'F' then some (10+c.toNat - 'A'.toNat)
  else if 'a' ≤ c ∧ c ≤ 'f' then some (10+c.toNat - 'a'.toNat)
  else none

def parseHex4 (a b c d : Char) : Nat :=
  match hexValue a, hexValue b, hexValue c, hexValue d with
  | some a, some b, some c, some d => ((a*16+b)*16+c)*16+d
  | _, _, _, _ => 0

def utf8 (uc : Nat) : Text :=
  let low := fun n => Char.ofNat ((n ||| 0x80) &&& 0xBF)
  if uc < 0x80 then [Char.ofNat uc]
  else if uc < 0x800 then [Char.ofNat ((uc >>> 6) ||| 0xC0),low uc]
  else if uc < 0x10000 then [Char.ofNat ((uc >>> 12) ||| 0xE0),low (uc >>> 6),low uc]
  else [Char.ofNat ((uc >>> 18) ||| 0xF0),low (uc >>> 12),low (uc >>> 6),low uc]

def unescapeChar (e : Char) : Char :=
  if e = 'b' then '\x08'
  else if e = 'f' then '\x0c'
  else if e = 'n' then '\n'
  else if e = 'r' then '\x0d'
  else if e = 't' then '\t'
  else e

def nestOf (c : Char) : Int := if c = '{' then 1 else if c = '}' then -1 else 0

def prepend (s : Text) : Except ParseError (Text × Text) → Except ParseError (Text × Text)
  | .ok r => .ok (s ++ r.1,r.2)
  | .error e => .error e

/-- The second scan of `parse_string`: the characters stored, and the text after the string. -/
def unescape : Int → Text → Except ParseError (Text × Text)
  | _, [] => .ok ([],[])
  | nest, '\\' :: 'u' :: a :: b :: c :: d :: t =>
    let uc := parseHex4 a b c d
    if (0xDC00 ≤ uc ∧ uc ≤ 0xDFFF) ∨ uc = 0 then unescape nest t
    else if 0xD800 ≤ uc ∧ uc ≤ 0xDBFF then
      match t with
      | '\\' :: 'u' :: e :: f :: g :: h :: t =>
        let uc2 := parseHex4 e f g h
        if uc2 < 0xDC00 ∨ 0xDFFF < uc2 then unescape nest t
        else prepend (utf8 (0x10000+(((uc &&& 0x3FF) <<< 10) ||| (uc2 &&& 0x3FF)))) (unescape nest t)
      | '\\' :: 'u' :: _ => .error .overrun
      | t => unescape nest t
    else prepend (utf8 uc) (unescape nest t)
  | _, '\\' :: 'u' :: _ => .error .overrun
  | nest, '\\' :: e :: t => prepend [unescapeChar e] (unescape nest t)
  | _, ['\\'] => .error .overrun
  | nest, c :: t =>
    if c = '"' ∧ nest = 0 then .ok ([],t) else prepend [c] (unescape (nest+nestOf c) t)

def scanLen : Text → Except ParseError Nat
  | [] => .ok 0
  | '"' :: _ => .ok 0
  | ['\\'] => .error .overrun
  | '\\' :: _ :: t => (scanLen t).map (·+1)
  | _ :: t => (scanLen t).map (·+1)

def parseString : Text → Except ParseError (Text × Text)
  | '"' :: t =>
    match scanLen t, unescape 0 t with
    | .ok len, .ok r => if len < r.1.length then .error .overflow else .ok r
    | .error e, _ => .error e
    | _, .error e => .error e
  | _ => .error .malformed

mutual

def parseValue : Nat → Text → Except ParseError (CJson × Text)
  | 0, _ => .error .fuel
  | fuel+1, t =>
    match t with
    | 'n' :: 'u' :: 'l' :: 'l' :: t => .ok (.null,t)
    | 'f' :: 'a' :: 'l' :: 's' :: 'e' :: t => .ok (.false,t)
    | 't' :: 'r' :: 'u' :: 'e' :: t => .ok (.true,t)
    | '"' :: t => (parseString ('"' :: t)).map fun r => (.string r.1,r.2)
    | '[' :: t => (parseArray fuel t).map fun r => (.array r.1,r.2)
    | '\x7b' :: t => (parseObject fuel t).map fun r => (.object r.1,r.2)
    | c :: t =>
      if c = '-' ∨ c.isDigit then .ok (.number (parseNumber (c :: t)).1,(parseNumber (c :: t)).2)
      else .error .malformed
    | [] => .error .malformed

def parseArray : Nat → Text → Except ParseError (List CJson × Text)
  | 0, _ => .error .fuel
  | fuel+1, t =>
    match skip t with
    | ']' :: t => .ok ([],t)
    | t => parseItems fuel t

def parseItems : Nat → Text → Except ParseError (List CJson × Text)
  | 0, _ => .error .fuel
  | fuel+1, t =>
    match parseValue fuel (skip t) with
    | .error e => .error e
    | .ok r =>
      match skip r.2 with
      | ',' :: t => (parseItems fuel t).map fun rest => (r.1 :: rest.1,rest.2)
      | ']' :: t => .ok ([r.1],t)
      | _ => .error .malformed

def parseObject : Nat → Text → Except ParseError (List (Text × CJson) × Text)
  | 0, _ => .error .fuel
  | fuel+1, t =>
    match skip t with
    | '\x7d' :: t => .ok ([],t)
    | t => parseMembers fuel t

def parseMembers : Nat → Text → Except ParseError (List (Text × CJson) × Text)
  | 0, _ => .error .fuel
  | fuel+1, t =>
    match parseString (skip t) with
    | .error e => .error e
    | .ok key =>
      match skip key.2 with
      | ':' :: t =>
        match parseValue fuel (skip t) with
        | .error e => .error e
        | .ok r =>
          match skip r.2 with
          | ',' :: t => (parseMembers fuel t).map fun rest => ((key.1,r.1) :: rest.1,rest.2)
          | '\x7d' :: t => .ok ([(key.1,r.1)],t)
          | _ => .error .malformed
      | _ => .error .malformed

end

/-- `cJSON_Parse`; the fuel covers every nesting that the text can have. -/
def cJSONParse (value : Text) : Except ParseError CJson :=
  (parseValue (3*value.length+3) (skip value)).map Prod.fst

/-- `valueint`, for a number that is spelled as an `int`. -/
def CNumber.intValue (n : CNumber) : Option Int :=
  if n.mant = 0 then some 0
  else if n.exp < 0 then none
  else
    let v : Int := (n.mant*10^n.exp.toNat : Nat)
    let v := if n.neg then -v else v
    if -2^31 ≤ v ∧ v ≤ 2^31-1 then some v else none

def CNumber.ofInt (v : Int) : CNumber := ⟨decide (v < 0),v.natAbs,0⟩

def hexDigitLower (n : Nat) : Char := if n < 10 then Char.ofNat (48+n) else Char.ofNat (87+n)

def hex4 (n : Nat) : Text :=
  [hexDigitLower (n/4096%16),hexDigitLower (n/256%16),hexDigitLower (n/16%16),hexDigitLower (n%16)]

def escapeChar (c : Char) : Text :=
  if 31 < c.toNat ∧ c ≠ '"' ∧ c ≠ '\\' then [c]
  else if c = '\\' then ['\\','\\']
  else if c = '"' then ['\\','"']
  else if c = '\x08' then ['\\','b']
  else if c = '\x0c' then ['\\','f']
  else if c = '\n' then ['\\','n']
  else if c = '\x0d' then ['\\','r']
  else if c = '\t' then ['\\','t']
  else '\\' :: 'u' :: hex4 c.toNat

/-- Texts without a special character are copied. -/
def printStringPtr (s : Text) : Text :=
  if s.any fun c => c.toNat < 32 || c == '"' || c == '\\' then '"' :: s.flatMap escapeChar ++ ['"']
  else '"' :: s ++ ['"']

/-- `fmtDouble` is the text of a number that is no `int`. -/
def printNumber (fmtDouble : CNumber → Text) (n : CNumber) : Text :=
  match n.intValue with
  | some v => if v = 0 then ['0'] else printLong v
  | none => fmtDouble n

mutual

def printValue (fmtDouble : CNumber → Text) : CJson → Text
  | .null => ['n','u','l','l']
  | .false => ['f','a','l','s','e']
  | .true => ['t','r','u','e']
  | .number n => printNumber fmtDouble n
  | .string s => printStringPtr s
  | .array [] => ['[',']']
  | .array (x :: xs) => '[' :: printValue fmtDouble x ++ printItems fmtDouble xs ++ [']']
  | .object [] => ['\x7b','\x7d']
  | .object ((k,x) :: ms) =>
    '\x7b' :: printStringPtr k ++ ':' :: printValue fmtDouble x ++ printMembers fmtDouble ms ++ ['\x7d']

def printItems (fmtDouble : CNumber → Text) : List CJson → Text
  | [] => []
  | x :: xs => ',' :: printValue fmtDouble x ++ printItems fmtDouble xs

def printMembers (fmtDouble : CNumber → Text) : List (Text × CJson) → Text
  | [] => []
  | (k,x) :: ms =>
    ',' :: printStringPtr k ++ ':' :: printValue fmtDouble x ++ printMembers fmtDouble ms

end

def cJSONPrintUnformatted (fmtDouble : CNumber → Text) (item : CJson) : Text := printValue fmtDouble item

def toLower (c : Char) : Char := if 'A' ≤ c ∧ c ≤ 'Z' then Char.ofNat (c.toNat+32) else c

/-- `cJSON_GetObjectItem`: the first member with the name, in any case. -/
def cJSONGetObjectItem (item : CJson) (string : Text) : Option CJson :=
  match item with
  | .object members =>
    (members.find? fun m => m.1.map toLower = string.map toLower).map Prod.snd
  | _ => none

def Leaves {α : Type} (n : Nat) : Except ParseError (α × Text) → Prop
  | .ok r => r.2.length < n
  | .error e => e ≠ .fuel

theorem Leaves.mono {α : Type} {n m : Nat} {r : Except ParseError (α × Text)} (h : Leaves n r)
    (hle : n ≤ m) : Leaves m r := by
  cases r with
  | ok r => exact Nat.lt_of_lt_of_le h hle
  | error e => exact h

theorem Leaves.map {α β : Type} {n : Nat} {r : Except ParseError (α × Text)} (h : Leaves n r)
    (f : α → β) : Leaves n (r.map fun r => (f r.1,r.2)) := by
  cases r with
  | ok r => exact h
  | error e => exact h

theorem Leaves.prepend {n : Nat} {r : Except ParseError (Text × Text)} (h : Leaves n r) (s : Text) :
    Leaves n (prepend s r) := by
  cases r with
  | ok r => exact h
  | error e => exact h

theorem skip_length (t : Text) : (skip t).length ≤ t.length := (List.dropWhile_suffix _).length_le

theorem unescape_leaves (nest : Int) (t : Text) : Leaves (t.length+1) (unescape nest t) := by
  fun_induction unescape nest t with
  | case1 => exact Nat.lt_succ_self 0
  | case2 _ _ _ _ _ _ _ _ ih => exact ih.mono (by simp)
  | case3 _ _ _ _ _ _ _ _ _ _ _ _ _ _ _ ih => exact ih.mono (by simp)
  | case4 _ _ _ _ _ _ _ _ _ _ _ _ _ _ _ ih => exact (ih.prepend _).mono (by simp)
  | case5 => exact ParseError.noConfusion
  | case6 _ _ _ _ _ _ _ _ _ _ _ ih => exact ih.mono (by simp)
  | case7 _ _ _ _ _ _ _ _ _ ih => exact (ih.prepend _).mono (by simp)
  | case8 => exact ParseError.noConfusion
  | case9 _ _ _ _ _ ih => exact (ih.prepend _).mono (by simp)
  | case10 => exact ParseError.noConfusion
  | case11 => exact Nat.lt_succ_of_lt (Nat.lt_succ_self _)
  | case12 _ _ _ _ _ _ _ _ ih => exact (ih.prepend _).mono (by simp)

theorem scanLen_ne_fuel (t : Text) : scanLen t ≠ .error .fuel := by
  fun_induction scanLen t with
  | case1 => simp
  | case2 => simp
  | case3 => simp
  | case4 _ t ih => cases hr : scanLen t <;> simp_all [Except.map]
  | case5 _ t _ _ _ ih => cases hr : scanLen t <;> simp_all [Except.map]

theorem parseString_leaves (t : Text) : Leaves t.length (parseString t) := by
  unfold parseString
  split
  · rename_i t
    have hrest := unescape_leaves 0 t
    cases hlen : scanLen t with
    | error e =>
      intro he
      exact scanLen_ne_fuel t (hlen.trans (congrArg _ he))
    | ok len =>
      cases hr : unescape 0 t with
      | error e =>
        rw [hr] at hrest
        exact hrest
      | ok r =>
        rw [hr] at hrest
        dsimp only
        split
        · exact ParseError.noConfusion
        · exact hrest
  · exact ParseError.noConfusion

theorem afterRun_length (t : Text) : (afterRun t).length ≤ t.length :=
  (List.dropWhile_suffix _).length_le

theorem parseFraction_length (t : Text) : (parseFraction t).2.length ≤ t.length := by
  unfold parseFraction
  split
  · split
    · exact Nat.le_refl _
    · exact Nat.le_succ_of_le (afterRun_length _)
  · exact Nat.le_refl _

theorem parseExponent_length (t : Text) : (parseExponent t).2.length ≤ t.length := by
  unfold parseExponent
  split
  · rename_i c t
    split
    · have hsign : (exponentSign t).2.length ≤ t.length := by
        unfold exponentSign
        split
        · exact Nat.le_succ _
        · exact Nat.le_succ _
        · exact Nat.le_refl _
      exact Nat.le_succ_of_le (Nat.le_trans (afterRun_length _) hsign)
    · exact Nat.le_refl _
  · exact Nat.le_refl _

theorem parseNumber_length {c : Char} (t : Text) (h : c = '-' ∨ c.isDigit) :
    (parseNumber (c :: t)).2.length < (c :: t).length := by
  unfold parseNumber
  dsimp only
  refine Nat.lt_of_le_of_lt (Nat.le_trans (parseExponent_length _) (parseFraction_length _)) ?_
  rw [List.length_drop]
  rcases h with rfl | hd
  · simp only [List.head?_cons,if_true,List.tail_cons,List.length_cons]
    split
    · rw [List.length_tail]
      omega
    · omega
  · have hminus : c ≠ '-' := by
      rintro rfl
      exact absurd hd (by decide)
    simp only [List.head?_cons,Option.some.injEq,if_neg hminus]
    split
    · simp only [List.tail_cons,List.length_cons]
      omega
    · rename_i hzero
      rw [if_neg (by simpa using hzero),digitRun,List.takeWhile_cons_of_pos hd]
      simp only [List.length_cons]
      omega

mutual

/-- Every character of a text costs the parser at most three calls. -/
theorem parseValue_leaves (fuel : Nat) (t : Text) (h : 3*t.length+1 ≤ fuel) :
    Leaves t.length (parseValue fuel t) := by
  cases fuel with
  | zero => omega
  | succ fuel =>
    rw [parseValue.eq_def]
    dsimp only
    split
    · simp only [Leaves,List.length_cons]
      omega
    · simp only [Leaves,List.length_cons]
      omega
    · simp only [Leaves,List.length_cons]
      omega
    · exact (parseString_leaves _).map _
    · simp only [List.length_cons] at h
      exact ((parseArray_leaves fuel _ (by omega)).map _).mono (Nat.le_refl _)
    · simp only [List.length_cons] at h
      exact ((parseObject_leaves fuel _ (by omega)).map _).mono (Nat.le_refl _)
    · split
      · rename_i hnum
        exact parseNumber_length _ hnum
      · exact ParseError.noConfusion
    · exact ParseError.noConfusion
termination_by fuel

theorem parseArray_leaves (fuel : Nat) (t : Text) (h : 3*t.length+3 ≤ fuel) :
    Leaves (t.length+1) (parseArray fuel t) := by
  cases fuel with
  | zero => omega
  | succ fuel =>
    have hskip := skip_length t
    rw [parseArray]
    split
    · rename_i u hu
      rw [hu,List.length_cons] at hskip
      show u.length < _
      omega
    · exact (parseItems_leaves fuel (skip t) (by omega)).mono (by omega)
termination_by fuel

theorem parseItems_leaves (fuel : Nat) (t : Text) (h : 3*t.length+2 ≤ fuel) :
    Leaves t.length (parseItems fuel t) := by
  cases fuel with
  | zero => omega
  | succ fuel =>
    have hskip := skip_length t
    have hvalue := parseValue_leaves fuel (skip t) (by omega)
    rw [parseItems]
    split
    · rename_i e he
      rwa [he] at hvalue
    · rename_i r hr
      rw [hr] at hvalue
      have hrest := skip_length r.2
      have hshort : r.2.length < (skip t).length := hvalue
      split
      · rename_i u hu
        rw [hu,List.length_cons] at hrest
        exact ((parseItems_leaves fuel u (by omega)).map (r.1 :: ·)).mono (by omega)
      · rename_i u hu
        rw [hu,List.length_cons] at hrest
        show u.length < _
        omega
      · exact ParseError.noConfusion
termination_by fuel

theorem parseObject_leaves (fuel : Nat) (t : Text) (h : 3*t.length+3 ≤ fuel) :
    Leaves (t.length+1) (parseObject fuel t) := by
  cases fuel with
  | zero => omega
  | succ fuel =>
    have hskip := skip_length t
    rw [parseObject]
    split
    · rename_i u hu
      rw [hu,List.length_cons] at hskip
      show u.length < _
      omega
    · exact (parseMembers_leaves fuel (skip t) (by omega)).mono (by omega)
termination_by fuel

theorem parseMembers_leaves (fuel : Nat) (t : Text) (h : 3*t.length+2 ≤ fuel) :
    Leaves t.length (parseMembers fuel t) := by
  cases fuel with
  | zero => omega
  | succ fuel =>
    have hskip := skip_length t
    have hname := parseString_leaves (skip t)
    rw [parseMembers]
    split
    · rename_i e he
      rwa [he] at hname
    · rename_i key hkey
      rw [hkey] at hname
      have hcolon := skip_length key.2
      have hshort : key.2.length < (skip t).length := hname
      split
      · rename_i u hu
        rw [hu,List.length_cons] at hcolon
        have hafter := skip_length u
        have hvalue := parseValue_leaves fuel (skip u) (by omega)
        split
        · rename_i e he
          rwa [he] at hvalue
        · rename_i r hr
          rw [hr] at hvalue
          have hrest := skip_length r.2
          have hless : r.2.length < (skip u).length := hvalue
          split
          · rename_i w hw
            rw [hw,List.length_cons] at hrest
            exact ((parseMembers_leaves fuel w (by omega)).map ((key.1,r.1) :: ·)).mono (by omega)
          · rename_i w hw
            rw [hw,List.length_cons] at hrest
            show w.length < _
            omega
          · exact ParseError.noConfusion
      · exact ParseError.noConfusion
termination_by fuel

end

theorem cJSONParse_ne_fuel (value : Text) : cJSONParse value ≠ .error .fuel := by
  have hskip := skip_length value
  have hvalue := parseValue_leaves (3*value.length+3) (skip value) (by omega)
  unfold cJSONParse
  intro he
  cases hr : parseValue (3*value.length+3) (skip value) with
  | ok r =>
    rw [hr] at he
    cases he
  | error e =>
    rw [hr] at he hvalue
    exact hvalue (Except.error.inj he)

end GatewayF411
