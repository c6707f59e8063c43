set_option autoImplicit false

namespace Runs

variable {σ ι ο α : Type}

/-- Every step of the run meets `cond` in the state in which it is taken. -/
def Along (step : σ → ι → σ) (cond : σ → ι → Prop) : σ → List ι → Prop
  | _, [] => True
  | s, i :: is => cond s i ∧ Along step cond (step s i) is

theorem along_congr {step : σ → ι → σ} {cond cond' : σ → ι → Prop} (P : σ → Prop)
    (hstep : ∀ s i, P s → P (step s i)) (h : ∀ s i, P s → (cond s i ↔ cond' s i)) {s : σ}
    {is : List ι} (hs : P s) : Along step cond s is ↔ Along step cond' s is := by
  induction is generalizing s with
  | nil => exact Iff.rfl
  | cons i is ih => exact and_congr (h s i hs) (ih (hstep s i hs))

/-- What every step that meets the condition preserves, the run preserves. -/
theorem foldl_along {step : σ → ι → σ} {cond : σ → ι → Prop} (P : σ → Prop)
    (hstep : ∀ s i, P s → cond s i → P (step s i)) {s : σ} {is : List ι} (hs : P s)
    (ha : Along step cond s is) : P (is.foldl step s) := by
  induction is generalizing s with
  | nil => exact hs
  | cons i is ih => exact ih (hstep s i hs ha.1) ha.2

theorem foldl_inv {step : σ → ι → σ} (P : σ → Prop) (hstep : ∀ s i, P s → P (step s i)) {s : σ}
    (is : List ι) (hs : P s) : P (is.foldl step s) := by
  induction is generalizing s with
  | nil => exact hs
  | cons i is ih => exact ih (hstep s i hs)

/-- What every step that does not fail preserves, a run that does not fail preserves. -/
theorem foldlM_ok_inv {ε : Type} {step : σ → ι → Except ε σ} (P : σ → Prop)
    (hstep : ∀ s i s', P s → step s i = .ok s' → P s') {s s' : σ} (is : List ι) (hs : P s)
    (hrun : is.foldlM step s = .ok s') : P s' := by
  induction is generalizing s with
  | nil =>
    cases hrun
    exact hs
  | cons i is ih =>
    rw [List.foldlM_cons] at hrun
    cases hs1 : step s i with
    | error e =>
      rw [hs1] at hrun
      cases hrun
    | ok s1 =>
      rw [hs1] at hrun
      exact ih (hstep s i s1 hs hs1) hrun

theorem along_of_inv {step : σ → ι → σ} {cond : σ → ι → Prop} (P : σ → Prop)
    (hstep : ∀ s i, P s → P (step s i)) (h : ∀ s i, P s → cond s i) {s : σ} (is : List ι)
    (hs : P s) : Along step cond s is := by
  induction is generalizing s with
  | nil => trivial
  | cons i is ih => exact ⟨h s i hs,ih (hstep s i hs)⟩

/-- Along a run whose steps meet `cond` an invariant is kept, and with it what each of these
steps gives. -/
theorem Along.imp {step : σ → ι → σ} {cond cond' : σ → ι → Prop} (P : σ → Prop)
    (hstep : ∀ s i, P s → cond s i → P (step s i)) (h : ∀ s i, P s → cond s i → cond' s i) {s : σ}
    {is : List ι} (hs : P s) (ha : Along step cond s is) : Along step cond' s is := by
  induction is generalizing s with
  | nil => trivial
  | cons i is ih => exact ⟨h s i hs ha.1,ih (hstep s i hs ha.1) ha.2⟩

/-- A condition along a run, said for each step with the inputs that came before it. -/
theorem along_iff_steps {step : σ → ι → σ} {cond : σ → ι → Prop} {s : σ} {is : List ι} :
    Along step cond s is ↔ ∀ p i, p ++ [i] <+: is → cond (p.foldl step s) i := by
  induction is generalizing s with
  | nil =>
    refine iff_of_true trivial fun p i hp => ?_
    simp at hp
  | cons j is ih =>
    constructor
    · intro ha p i hp
      cases p with
      | nil =>
        rw [List.nil_append,List.cons_prefix_cons] at hp
        rw [hp.1]
        exact ha.1
      | cons k p =>
        rw [List.cons_append,List.cons_prefix_cons] at hp
        rw [hp.1]
        exact ih.mp ha.2 p i hp.2
    · intro h
      refine ⟨h [] j (List.cons_prefix_cons.mpr ⟨rfl,List.nil_prefix⟩),ih.mpr fun p i hp => ?_⟩
      exact h (j :: p) i (List.cons_prefix_cons.mpr ⟨rfl,hp⟩)

theorem Along.of_prefix {step : σ → ι → σ} {cond : σ → ι → Prop} {s : σ} {p is : List ι}
    (h : Along step cond s is) (hp : p <+: is) : Along step cond s p :=
  along_iff_steps.mpr fun q i hq => along_iff_steps.mp h q i (hq.trans hp)

/-- `P` holds wherever the run is cut off. -/
def AllCuts (step : σ → ι → σ) (P : σ → Prop) (s : σ) (is : List ι) : Prop :=
  ∀ p, p <+: is → P (p.foldl step s)

theorem allCuts_nil {step : σ → ι → σ} {P : σ → Prop} {s : σ} (h : P s) :
    AllCuts step P s [] := by
  intro p hp
  rw [List.prefix_nil.mp hp]
  exact h

theorem AllCuts.start {step : σ → ι → σ} {P : σ → Prop} {s : σ} {is : List ι}
    (h : AllCuts step P s is) : P s := h [] List.nil_prefix

theorem allCuts_cons {step : σ → ι → σ} {P : σ → Prop} {s : σ} {i : ι} {is : List ι} :
    AllCuts step P s (i :: is) ↔ P s ∧ AllCuts step P (step s i) is := by
  constructor
  · intro h
    exact ⟨h.start,fun p hp => h (i :: p) (List.cons_prefix_cons.mpr ⟨rfl,hp⟩)⟩
  · rintro ⟨hs,hrest⟩ p hp
    rcases List.prefix_cons_iff.mp hp with rfl | ⟨q,rfl,hq⟩
    · exact hs
    · exact hrest q hq

theorem AllCuts.append {step : σ → ι → σ} {P : σ → Prop} {s : σ} {is js : List ι}
    (h : AllCuts step P s is) (h' : AllCuts step P (is.foldl step s) js) :
    AllCuts step P s (is ++ js) := by
  induction is generalizing s with
  | nil => exact h'
  | cons i is ih =>
    obtain ⟨hs,hrest⟩ := allCuts_cons.mp h
    exact allCuts_cons.mpr ⟨hs,ih hrest h'⟩

theorem AllCuts.snoc {step : σ → ι → σ} {P : σ → Prop} {s : σ} {is : List ι} {i : ι}
    (h : AllCuts step P s is) (h' : P (step (is.foldl step s) i)) :
    AllCuts step P s (is ++ [i]) :=
  h.append (allCuts_cons.mpr ⟨h is (List.prefix_refl is),allCuts_nil h'⟩)

theorem AllCuts.along {step : σ → ι → σ} {P : σ → Prop} {s : σ} {is : List ι}
    (h : AllCuts step P s is) : Along step (fun s i => P (step s i)) s is := by
  induction is generalizing s with
  | nil => trivial
  | cons i is ih =>
    have hrest := (allCuts_cons.mp h).2
    exact ⟨hrest.start,ih hrest⟩

/-- A run is good wherever it is cut exactly when every step meets the condition under
which that step keeps a good state good. The steps may be confined to `dom`, and an
invariant `I` of these steps may be used. -/
theorem allCuts_iff_along_within {step : σ → ι → σ} {dom cond : σ → ι → Prop} {I P : σ → Prop}
    (hI : ∀ s i, I s → dom s i → I (step s i))
    (h : ∀ s i, I s → P s → dom s i → (P (step s i) ↔ cond s i)) {s : σ} {is : List ι} (hi : I s)
    (hs : P s) (hd : Along step dom s is) : AllCuts step P s is ↔ Along step cond s is := by
  induction is generalizing s with
  | nil => exact iff_of_true (allCuts_nil hs) trivial
  | cons i is ih =>
    have hstep := h s i hi hs hd.1
    have hinv := hI s i hi hd.1
    rw [allCuts_cons]
    constructor
    · rintro ⟨_,hrest⟩
      exact ⟨hstep.mp hrest.start,(ih hinv hrest.start hd.2).mp hrest⟩
    · rintro ⟨hcond,halong⟩
      exact ⟨hs,(ih hinv (hstep.mpr hcond) hd.2).mpr halong⟩

theorem along_of_mem {step : σ → ι → σ} {cond : ι → Prop} {s : σ} {is : List ι}
    (h : ∀ i ∈ is, cond i) : Along step (fun _ i => cond i) s is := by
  induction is generalizing s with
  | nil => trivial
  | cons i is ih =>
    exact ⟨h i List.mem_cons_self,ih fun j hj => h j (List.mem_cons_of_mem i hj)⟩

theorem along_true {step : σ → ι → σ} (s : σ) (is : List ι) : Along step (fun _ _ => True) s is := by
  induction is generalizing s with
  | nil => trivial
  | cons i is ih => exact ⟨trivial,ih (step s i)⟩

theorem allCuts_iff_along {step : σ → ι → σ} {cond : σ → ι → Prop} {P : σ → Prop}
    (h : ∀ s i, P s → (P (step s i) ↔ cond s i)) {s : σ} {is : List ι} (hs : P s) :
    AllCuts step P s is ↔ Along step cond s is :=
  allCuts_iff_along_within (I := fun _ => True) (fun _ _ _ _ => trivial) (fun s i _ hp _ => h s i hp)
    trivial hs (along_true s is)

/-- Where the good states stay good under `cond'`, a run is good wherever it is cut and meets
`cond`, which says the same there, exactly when it meets `cond'`. -/
theorem allCuts_and_along_iff_within {step : σ → ι → σ} {dom cond cond' : σ → ι → Prop}
    {I P : σ → Prop} (hI : ∀ s i, I s → dom s i → I (step s i))
    (h : ∀ s i, I s → P s → dom s i → (cond s i ↔ cond' s i))
    (hstep : ∀ s i, I s → P s → dom s i → cond' s i → P (step s i)) {s : σ} {is : List ι}
    (hi : I s) (hs : P s) (hd : Along step dom s is) :
    AllCuts step P s is ∧ Along step cond s is ↔ Along step cond' s is := by
  induction is generalizing s with
  | nil => exact iff_of_true ⟨allCuts_nil hs,trivial⟩ trivial
  | cons i is ih =>
    have hinv := hI s i hi hd.1
    rw [allCuts_cons]
    constructor
    · rintro ⟨⟨_,hcuts⟩,hfirst,hrest⟩
      have hfirst' := (h s i hi hs hd.1).mp hfirst
      exact ⟨hfirst',(ih hinv (hstep s i hi hs hd.1 hfirst') hd.2).mp ⟨hcuts,hrest⟩⟩
    · rintro ⟨hfirst,hrest⟩
      obtain ⟨hcuts,halong⟩ := (ih hinv (hstep s i hi hs hd.1 hfirst) hd.2).mpr hrest
      exact ⟨⟨hs,hcuts⟩,(h s i hi hs hd.1).mpr hfirst,halong⟩

theorem allCuts_and_along_iff {step : σ → ι → σ} {cond cond' : σ → ι → Prop} {P : σ → Prop}
    (h : ∀ s i, P s → (cond s i ↔ cond' s i)) (hstep : ∀ s i, P s → cond' s i → P (step s i))
    {s : σ} {is : List ι} (hs : P s) :
    AllCuts step P s is ∧ Along step cond s is ↔ Along step cond' s is :=
  allCuts_and_along_iff_within (I := fun _ => True) (fun _ _ _ _ => trivial)
    (fun s i _ hp _ => h s i hp) (fun s i _ hp _ => hstep s i hp) trivial hs (along_true s is)

/-- A part of the state that the inputs of one kind set holds what the last of them set. -/
theorem foldl_lastSet {β : Type} {step : σ → ι → σ} (get : σ → β) (sets : ι → Bool) (val : ι → β)
    (h : ∀ s i, get (step s i) = if sets i then val i else get s) (s : σ) (is : List ι) :
    get (is.foldl step s) = (is.filter sets).getLast?.elim (get s) val := by
  induction is generalizing s with
  | nil => rfl
  | cons i is ih =>
    rw [List.foldl_cons,ih,h]
    by_cases hset : sets i = true
    · rw [List.filter_cons_of_pos hset,List.getLast?_cons,if_pos hset]
      cases (is.filter sets).getLast? <;> rfl
    · rw [List.filter_cons_of_neg hset,if_neg hset]

def trace (out : σ → ι → List ο) (step : σ → ι → σ) : σ → List ι → List ο
  | _, [] => []
  | s, i :: is => out s i ++ trace out step (step s i) is

theorem trace_append (out : σ → ι → List ο) (step : σ → ι → σ) (s : σ) (is js : List ι) :
    trace out step s (is ++ js) = trace out step s is ++ trace out step (is.foldl step s) js := by
  induction is generalizing s with
  | nil => rfl
  | cons i is ih => rw [List.cons_append,trace,trace,ih,List.append_assoc,List.foldl_cons]

/-- An invariant of the state and of what has been put down so far. -/
theorem trace_along {out : σ → ι → List ο} {step : σ → ι → σ} {cond : σ → ι → Prop}
    (P : List ο → σ → Prop)
    (hstep : ∀ t s i, P t s → cond s i → P (t ++ out s i) (step s i)) {t : List ο} {s : σ}
    {is : List ι} (hs : P t s) (ha : Along step cond s is) :
    P (t ++ trace out step s is) (is.foldl step s) := by
  induction is generalizing t s with
  | nil =>
    rw [trace,List.append_nil]
    exact hs
  | cons i is ih =>
    rw [trace,← List.append_assoc]
    exact ih (hstep t s i hs ha.1) ha.2

def outputs (exec : σ → ι → ο × σ) : σ → List ι → List ο
  | _, [] => []
  | s, i :: is => (exec s i).1 :: outputs exec (exec s i).2 is

/-- The runs of a machine given by a relation between state, operation, result and state. -/
inductive Spec (spec : α → ι → ο → α → Prop) : α → List ι → List ο → α → Prop where
  | nil (a : α) : Spec spec a [] [] a
  | cons {a a' a'' : α} {i : ι} {o : ο} {is : List ι} {os : List ο} :
      spec a i o a' → Spec spec a' is os a'' → Spec spec a (i :: is) (o :: os) a''

/-- A step-wise simulation extends to whole runs, results included. -/
theorem simulation {exec : σ → ι → ο × σ} {cond : σ → ι → Prop}
    {spec : α → ι → ο → α → Prop} (R : σ → α → Prop)
    (hstep : ∀ s i a, R s a → cond s i → ∃ a', spec a i (exec s i).1 a' ∧ R (exec s i).2 a')
    {s : σ} {is : List ι} {a : α} (hs : R s a)
    (ha : Along (fun s i => (exec s i).2) cond s is) :
    ∃ a', Spec spec a is (outputs exec s is) a' ∧
      R (is.foldl (fun s i => (exec s i).2) s) a' := by
  induction is generalizing s a with
  | nil => exact ⟨a,.nil a,hs⟩
  | cons i is ih =>
    obtain ⟨a',hspec,hr⟩ := hstep s i a hs ha.1
    obtain ⟨a'',hspecs,hr'⟩ := ih hr ha.2
    exact ⟨a'',.cons hspec hspecs,hr'⟩

end Runs
