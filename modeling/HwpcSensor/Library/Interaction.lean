import Mathlib.Logic.Relation

namespace HwpcSensor.Interaction

-- A finite program over an operation signature. It returns a value, or performs
-- an operation and goes on with the answer.
inductive Prog (Op : Type) (Ans : Op → Type) (α : Type) where
  | ret (value : α) : Prog Op Ans α
  | call (op : Op) (next : Ans op → Prog Op Ans α) : Prog Op Ans α

variable {Op : Type} {Ans : Op → Type} {α β σ τ : Type}

namespace Prog

def bind : Prog Op Ans α → (α → Prog Op Ans β) → Prog Op Ans β
  | .ret value, f => f value
  | .call op next, f => .call op fun answer => (next answer).bind f

instance : Monad (Prog Op Ans) where
  pure := .ret
  bind := .bind

-- Answer every operation with a handler that threads a state.
def run (handler : σ → (op : Op) → Ans op × σ) : Prog Op Ans α → σ → α × σ
  | .ret value, state => (value, state)
  | .call op next, state =>
      (next (handler state op).1).run handler (handler state op).2

theorem run_pure (handler : σ → (op : Op) → Ans op × σ) (value : α) (state : σ) :
    (pure value : Prog Op Ans α).run handler state = (value, state) :=
  rfl

theorem run_bind (handler : σ → (op : Op) → Ans op × σ) (program : Prog Op Ans α)
    (f : α → Prog Op Ans β) (state : σ) :
    (program >>= f).run handler state =
      (f (program.run handler state).1).run handler (program.run handler state).2 := by
  induction program generalizing state with
  | ret value => rfl
  | call op next ih => exact ih _ _

theorem bind_ret (program : Prog Op Ans α) : program >>= (.ret : α → Prog Op Ans α) = program := by
  induction program with
  | ret value => rfl
  | call op next ih => exact congrArg (Prog.call op) (funext ih)

theorem bind_assoc (program : Prog Op Ans α) (f : α → Prog Op Ans β) (g : β → Prog Op Ans σ) :
    program >>= f >>= g = program >>= fun value => f value >>= g := by
  induction program with
  | ret value => rfl
  | call op next ih => exact congrArg (Prog.call op) (funext fun answer => ih answer)

end Prog

def perform (op : Op) : Prog Op Ans (Ans op) :=
  .call op .ret

variable {ι : Type}

-- A loop that ends early when its body reports an error.
def for_each (body : ι → σ → Prog Op Ans (Int × σ)) : List ι → σ → Prog Op Ans (Int × σ)
  | [], s => pure (0, s)
  | item :: rest, s => do
      let result ← body item s
      if result.1 ≠ 0 then pure (-1, result.2) else for_each body rest result.2

-- A loop whose state is seen through a function.
theorem for_each_project {f : σ → τ} {body : ι → σ → Prog Op Ans (Int × σ)}
    {body' : ι → τ → Prog Op Ans (Int × τ)} (items : List ι)
    (h : ∀ item ∈ items, ∀ s, (body item s >>= fun result => pure (result.1, f result.2)) =
      body' item (f s)) (s : σ) :
    (for_each body items s >>= fun result => pure (result.1, f result.2)) =
      for_each body' items (f s) := by
  induction items generalizing s with
  | nil => rfl
  | cons item rest ih =>
      have hrest := ih fun item hitem => h item (List.mem_cons_of_mem _ hitem)
      simp only [for_each]
      rw [← h item List.mem_cons_self s, Prog.bind_assoc, Prog.bind_assoc]
      refine congrArg _ (funext fun result => ?_)
      by_cases hzero : result.1 ≠ 0
      · rw [if_pos hzero]
        exact (if_pos hzero).symm
      · rw [if_neg hzero, hrest result.2]
        exact (if_neg hzero).symm

-- The same with what follows a loop that ends well.
theorem for_each_then_project (f : σ → τ) (finish : σ → σ) (finish' : τ → τ)
    {body : ι → σ → Prog Op Ans (Int × σ)} {body' : ι → τ → Prog Op Ans (Int × τ)} (items : List ι)
    (h : ∀ item ∈ items, ∀ s, (body item s >>= fun result => pure (result.1, f result.2)) =
      body' item (f s)) (hfinish : ∀ s, f (finish s) = finish' (f s)) (s : σ) :
    (for_each body items s >>= fun result =>
        if result.1 ≠ 0 then pure (-1, result.2) else pure (0, finish result.2)) >>=
        (fun result => pure (result.1, f result.2)) =
      for_each body' items (f s) >>= fun result =>
        if result.1 ≠ 0 then pure (-1, result.2) else pure (0, finish' result.2) := by
  rw [← for_each_project items h s, Prog.bind_assoc, Prog.bind_assoc]
  refine congrArg _ (funext fun result => ?_)
  by_cases hzero : result.1 ≠ 0
  · rw [if_pos hzero]
    exact (if_pos hzero).symm
  · rw [if_neg hzero]
    refine Eq.trans ?_ (if_neg hzero).symm
    rw [← hfinish]
    rfl

-- A loop without errors.
def for_all (body : ι → Prog Op Ans Unit) : List ι → Prog Op Ans Unit
  | [] => pure ()
  | item :: rest => do
      body item
      for_all body rest

theorem for_all_append (body : ι → Prog Op Ans Unit) (items more : List ι) :
    for_all body (items ++ more) = for_all body items >>= fun _ => for_all body more := by
  induction items with
  | nil => rfl
  | cons item rest ih =>
      simp only [List.cons_append, for_all, ih]
      exact (Prog.bind_assoc _ _ _).symm

-- Nested loops are one loop over all the items.
theorem for_all_flatMap {κ : Type} (body : ι → Prog Op Ans Unit) (f : κ → List ι)
    (items : List κ) :
    for_all (fun item => for_all body (f item)) items = for_all body (items.flatMap f) := by
  induction items with
  | nil => rfl
  | cons item rest ih =>
      rw [List.flatMap_cons, for_all_append, ← ih]
      rfl

-- A way to judge what a program leads to from a state, that follows the program.
structure Judgement (Op : Type) (Ans : Op → Type) (τ : Type) where
  judges : ∀ {α : Type}, Prog Op Ans α → (α → τ → Prop) → τ → Prop
  ret : ∀ {α : Type} {value : α} {Q : α → τ → Prop} {t : τ}, Q value t →
    judges (.ret value) Q t
  bind : ∀ {α β : Type} {program : Prog Op Ans α} {f : α → Prog Op Ans β} {Q : α → τ → Prop}
    {R : β → τ → Prop} {t : τ}, judges program Q t →
      (∀ value t', Q value t' → judges (f value) R t') → judges (program >>= f) R t

-- What a program that may report an error leaves when it ends well, and when not.
def Ended (R F : σ → τ → Prop) (result : Int × σ) (t : τ) : Prop :=
  (result.1 = 0 → R result.2 t) ∧ (result.1 ≠ 0 → F result.2 t)

theorem ended_ok {R F : σ → τ → Prop} {s : σ} {t : τ} (h : R s t) : Ended R F (0, s) t :=
  ⟨fun _ => h, fun hne => absurd rfl hne⟩

theorem ended_error {R F : σ → τ → Prop} {s : σ} {t : τ} (h : F s t) : Ended R F (-1, s) t :=
  ⟨fun hzero => absurd hzero (by simp), fun _ => h⟩

namespace Judgement

variable {J : Judgement Op Ans τ} {R F : σ → τ → Prop} {t : τ}

theorem mono {program : Prog Op Ans α} {Q Q' : α → τ → Prop} (h : J.judges program Q t)
    (hle : ∀ value t', Q value t' → Q' value t') : J.judges program Q' t := by
  rw [← Prog.bind_ret program]
  exact J.bind h fun value t' hvalue => J.ret (hle value t' hvalue)

-- What is done at the end of a program that ends well.
theorem finish {program : Prog Op Ans (Int × σ)} {finish : σ → σ} {R' : σ → τ → Prop}
    (h : J.judges program (Ended R F) t) (hfinish : ∀ s t, R s t → R' (finish s) t) :
    J.judges (program >>= fun result =>
      if result.1 ≠ 0 then pure (-1, result.2) else pure (0, finish result.2)) (Ended R' F) t := by
  refine J.bind h fun result t' hended => ?_
  by_cases hzero : result.1 ≠ 0
  · rw [if_pos hzero]
    exact J.ret (ended_error (hended.2 hzero))
  · rw [if_neg hzero]
    exact J.ret (ended_ok (hfinish _ _ (hended.1 (Classical.not_not.mp hzero))))

-- The rule for loops with an early end: an invariant over what has been done, and
-- what is left behind by an error.
theorem for_each {body : ι → σ → Prog Op Ans (Int × σ)} {items : List ι} {s : σ}
    (Inv : List ι → σ → τ → Prop) (hstart : Inv [] s t)
    (hbody : ∀ done item rest s t, items = done ++ item :: rest → Inv done s t →
      J.judges (body item s) (Ended (Inv (done ++ [item])) F) t) :
    J.judges (for_each body items s) (Ended (Inv items) F) t := by
  have hgen : ∀ (todo done : List ι) (s : σ) (t : τ), items = done ++ todo → Inv done s t →
      J.judges (Interaction.for_each body todo s) (Ended (Inv items) F) t := by
    intro todo
    induction todo with
    | nil =>
        intro done s t hitems hinv
        rw [List.append_nil] at hitems
        exact J.ret (ended_ok (hitems ▸ hinv))
    | cons item rest ih =>
        intro done s t hitems hinv
        refine J.bind (hbody done item rest s t hitems hinv) fun first t' hfirst => ?_
        by_cases hzero : first.1 ≠ 0
        · rw [if_pos hzero]
          exact J.ret (ended_error (hfirst.2 hzero))
        · rw [if_neg hzero]
          exact ih (done ++ [item]) first.2 t' (by rw [hitems, List.append_assoc]; rfl)
            (hfirst.1 (Classical.not_not.mp hzero))
  exact hgen items [] s t rfl hstart

end Judgement

-- What an operation may answer in a state, and the state it leaves.
abbrev Semantics (Op : Type) (Ans : Op → Type) (σ : Type) :=
  σ → (op : Op) → Ans op → σ → Prop

-- Big-step execution. The semantics need not be deterministic.
inductive Exec (step : Semantics Op Ans σ) : Prog Op Ans α → σ → α → σ → Prop
  | ret {value : α} {state : σ} : Exec step (.ret value) state value state
  | call {op : Op} {next : Ans op → Prog Op Ans α} {answer : Ans op} {value : α}
      {before middle after : σ} : step before op answer middle →
      Exec step (next answer) middle value after → Exec step (.call op next) before value after

variable {step : Semantics Op Ans σ}

@[simp] theorem exec_ret {value result : α} {before after : σ} :
    Exec step (.ret value) before result after ↔ result = value ∧ after = before := by
  constructor
  · rintro ⟨⟩
    exact ⟨rfl, rfl⟩
  · rintro ⟨rfl, rfl⟩
    exact .ret

@[simp] theorem exec_pure {value result : α} {before after : σ} :
    Exec step (pure value) before result after ↔ result = value ∧ after = before :=
  exec_ret

theorem exec_call {op : Op} {next : Ans op → Prog Op Ans α} {result : α} {before after : σ} :
    Exec step (.call op next) before result after ↔
      ∃ answer middle, step before op answer middle ∧
        Exec step (next answer) middle result after := by
  constructor
  · rintro (_ | ⟨hstep, hrest⟩)
    exact ⟨_, _, hstep, hrest⟩
  · rintro ⟨answer, middle, hstep, hrest⟩
    exact .call hstep hrest

theorem exec_bind {program : Prog Op Ans α} {f : α → Prog Op Ans β} {result : β}
    {before after : σ} :
    Exec step (program >>= f) before result after ↔
      ∃ value middle, Exec step program before value middle ∧
        Exec step (f value) middle result after := by
  constructor
  · intro h
    induction program generalizing before with
    | ret value => exact ⟨value, before, .ret, h⟩
    | call op next ih =>
        obtain ⟨answer, middle, hstep, hrest⟩ := exec_call.mp h
        obtain ⟨value, state, hfirst, hsecond⟩ := ih answer hrest
        exact ⟨value, state, .call hstep hfirst, hsecond⟩
  · rintro ⟨value, middle, hfirst, hsecond⟩
    induction hfirst with
    | ret => exact hsecond
    | call hstep _ ih => exact .call hstep (ih hsecond)

theorem exec_perform {op : Op} {answer : Ans op} {before after : σ} :
    Exec step (perform op) before answer after ↔ step before op answer after := by
  simp [perform, exec_call]

theorem exec_perform_bind {op : Op} {f : Ans op → Prog Op Ans β} {result : β}
    {before after : σ} :
    Exec step (perform op >>= f) before result after ↔
      ∃ answer middle, step before op answer middle ∧
        Exec step (f answer) middle result after := by
  simp only [exec_bind, exec_perform]

-- The invariant rule.
theorem Exec.preserves {program : Prog Op Ans α} {result : α} {before after : σ}
    (h : Exec step program before result after) (Inv : σ → Prop)
    (hstep : ∀ s op answer s', Inv s → step s op answer s' → Inv s')
    (hbefore : Inv before) : Inv after := by
  induction h with
  | ret => exact hbefore
  | call h _ ih => exact ih (hstep _ _ _ _ hbefore h)

-- The operations that a program can come to perform.
def Prog.Uses (P : Op → Prop) : Prog Op Ans α → Prop
  | .ret _ => True
  | .call op next => P op ∧ ∀ answer, (next answer).Uses P

namespace Prog.Uses

variable {P : Op → Prop}

theorem pure (value : α) : (pure value : Prog Op Ans α).Uses P :=
  trivial

theorem perform {op : Op} (h : P op) : (perform op : Prog Op Ans (Ans op)).Uses P :=
  ⟨h, fun _ => trivial⟩

theorem bind {program : Prog Op Ans α} {f : α → Prog Op Ans β} (hprogram : program.Uses P)
    (hf : ∀ value, (f value).Uses P) : (program >>= f).Uses P := by
  induction program with
  | ret value => exact hf value
  | call op next ih => exact ⟨hprogram.1, fun answer => ih answer (hprogram.2 answer)⟩

theorem for_all {body : ι → Prog Op Ans Unit} {items : List ι}
    (h : ∀ item ∈ items, (body item).Uses P) : (for_all body items).Uses P := by
  induction items with
  | nil => exact pure _
  | cons item rest ih =>
      exact bind (h item List.mem_cons_self) fun _ =>
        ih fun item hitem => h item (List.mem_cons_of_mem _ hitem)

theorem mono {Q : Op → Prop} {program : Prog Op Ans α} (h : program.Uses P)
    (hle : ∀ op, P op → Q op) : program.Uses Q := by
  induction program with
  | ret value => trivial
  | call op next ih => exact ⟨hle op h.1, fun answer => ih answer (h.2 answer)⟩

end Prog.Uses

-- What a program can return, whatever its operations answer.
def Prog.Yields (Q : α → Prop) : Prog Op Ans α → Prop
  | .ret value => Q value
  | .call _ next => ∀ answer, (next answer).Yields Q

namespace Prog.Yields

variable {P : α → Prop} {Q : β → Prop}

theorem pure {value : α} (h : P value) : (pure value : Prog Op Ans α).Yields P :=
  h

theorem mono {R : α → Prop} {program : Prog Op Ans α} (h : program.Yields P)
    (hle : ∀ value, P value → R value) : program.Yields R := by
  induction program with
  | ret value => exact hle value h
  | call op next ih => exact fun answer => ih answer (h answer)

theorem anything (program : Prog Op Ans α) : program.Yields fun _ => True := by
  induction program with
  | ret value => trivial
  | call op next ih => exact ih

theorem bind {program : Prog Op Ans α} {f : α → Prog Op Ans β} (h : program.Yields P)
    (hf : ∀ value, P value → (f value).Yields Q) : (program >>= f).Yields Q := by
  induction program with
  | ret value => exact hf value h
  | call op next ih => exact fun answer => ih answer (h answer)

-- What does not depend on the values in between.
theorem ignore {program : Prog Op Ans α} {f : α → Prog Op Ans β}
    (hf : ∀ value, (f value).Yields Q) : (program >>= f).Yields Q :=
  bind (anything program) fun value _ => hf value

theorem uses {R : Op → Prop} {program : Prog Op Ans α} {f : α → Prog Op Ans β}
    (h : program.Yields P) (hprogram : program.Uses R)
    (hf : ∀ value, P value → (f value).Uses R) : (program >>= f).Uses R := by
  induction program with
  | ret value => exact hf value h
  | call op next ih => exact ⟨hprogram.1, fun answer => ih answer (h answer) (hprogram.2 answer)⟩

theorem exec {program : Prog Op Ans α} {result : α} {before after : σ}
    {step : Semantics Op Ans σ} (h : program.Yields P)
    (hexec : Exec step program before result after) : P result := by
  induction hexec with
  | ret => exact h
  | call _ _ ih => exact ih (h _)

end Prog.Yields

-- The operations of a program with what it can return.
def Judgement.uses (P : Op → Prop) : Judgement Op Ans Unit where
  judges program Q _ := program.Uses P ∧ program.Yields (Q · ())
  ret h := ⟨trivial, h⟩
  bind h hf := ⟨h.2.uses h.1 fun value hvalue => (hf value () hvalue).1,
    h.2.bind fun value hvalue => (hf value () hvalue).2⟩

def Judgement.yields : Judgement Op Ans Unit where
  judges program Q _ := program.Yields (Q · ())
  ret h := h
  bind h hf := h.bind fun value hvalue => hf value () hvalue

-- What some answers make a program return.
def Prog.Can (Q : α → Prop) : Prog Op Ans α → Prop
  | .ret value => Q value
  | .call _ next => ∃ answer, (next answer).Can Q

namespace Prog.Can

variable {P : α → Prop} {Q : β → Prop}

theorem pure {value : α} (h : P value) : (pure value : Prog Op Ans α).Can P :=
  h

theorem bind {program : Prog Op Ans α} {f : α → Prog Op Ans β} (h : program.Can P)
    (hf : ∀ value, P value → (f value).Can Q) : (program >>= f).Can Q := by
  induction program with
  | ret value => exact hf value h
  | call op next ih =>
      obtain ⟨answer, hnext⟩ := h
      exact ⟨answer, ih answer hnext⟩

theorem answer {op : Op} {f : Ans op → Prog Op Ans β} (answer : Ans op)
    (h : (f answer).Can Q) : (Interaction.perform op >>= f).Can Q :=
  ⟨answer, h⟩

-- A loop ends well when its body can for each item.
theorem for_each {body : ι → σ → Prog Op Ans (Int × σ)} {items : List ι}
    (h : ∀ item ∈ items, ∀ s, (body item s).Can fun result => result.1 = 0) (s : σ) :
    (for_each body items s).Can fun result => result.1 = 0 := by
  induction items generalizing s with
  | nil => exact rfl
  | cons item rest ih =>
      refine bind (h item List.mem_cons_self s) fun result hzero => ?_
      rw [if_neg (by simpa using hzero)]
      exact ih (fun item hitem => h item (List.mem_cons_of_mem _ hitem)) result.2

-- And it fails at an item when the body can, and could go on until there.
theorem for_each_fails {R : σ → Prop} {body : ι → σ → Prog Op Ans (Int × σ)} {items : List ι}
    {item : ι} (hitem : item ∈ items)
    (h : ∀ item ∈ items, ∀ s, (body item s).Can fun result => result.1 = 0)
    (hfail : ∀ s, (body item s).Can fun result => result.1 ≠ 0 ∧ R result.2) (s : σ) :
    (Interaction.for_each body items s).Can fun result => result.1 ≠ 0 ∧ R result.2 := by
  induction items generalizing s with
  | nil => exact absurd hitem List.not_mem_nil
  | cons first rest ih =>
      rcases List.mem_cons.mp hitem with rfl | hrest
      · refine bind (hfail s) fun result hresult => ?_
        rw [if_pos hresult.1]
        exact pure ⟨by simp, hresult.2⟩
      · refine bind (h first List.mem_cons_self s) fun result hzero => ?_
        rw [if_neg (by simpa using hzero)]
        exact ih hrest (fun item hitem => h item (List.mem_cons_of_mem _ hitem)) result.2

theorem exec {program : Prog Op Ans α} (h : program.Can P) :
    ∃ result, Exec (fun _ _ _ _ => True) program () result () ∧ P result := by
  induction program with
  | ret value => exact ⟨value, .ret, h⟩
  | call op next ih =>
      obtain ⟨answer, hnext⟩ := h
      obtain ⟨result, hexec, hresult⟩ := ih answer hnext
      exact ⟨result, .call trivial hexec, hresult⟩

end Prog.Can

-- The invariant rule for the operations that a program uses.
theorem Exec.preserves_uses {P : Op → Prop} {program : Prog Op Ans α} {result : α}
    {before after : σ} (h : Exec step program before result after) (huses : program.Uses P)
    (Inv : σ → Prop)
    (hstep : ∀ s op answer s', P op → Inv s → step s op answer s' → Inv s')
    (hbefore : Inv before) : Inv after := by
  induction h with
  | ret => exact hbefore
  | call h _ ih => exact ih (huses.2 _) (hstep _ _ _ _ huses.1 hbefore h)

-- A semantics seen through a function of its states.
theorem Exec.project {step' : Semantics Op Ans τ} (f : σ → τ) {program : Prog Op Ans α}
    {result : α} {before after : σ} (h : Exec step program before result after)
    (hle : ∀ s op answer s', step s op answer s' → step' (f s) op answer (f s')) :
    Exec step' program (f before) result (f after) := by
  induction h with
  | ret => exact .ret
  | call h _ ih => exact .call (hle _ _ _ _ h) ih

-- Executions are monotone in the semantics.
theorem Exec.mono {step' : Semantics Op Ans σ} {program : Prog Op Ans α} {result : α}
    {before after : σ} (h : Exec step program before result after)
    (hle : ∀ s op answer s', step s op answer s' → step' s op answer s') :
    Exec step' program before result after :=
  h.project id hle

-- All executions from a state.
def Judgement.executions (step : Semantics Op Ans τ) : Judgement Op Ans τ where
  judges program Q before := ∀ result after, Exec step program before result after →
    Q result after
  ret h _ _ hexec := by
    obtain ⟨rfl, rfl⟩ := exec_ret.mp hexec
    exact h
  bind h hf _ _ hexec := by
    obtain ⟨value, middle, hfirst, hrest⟩ := exec_bind.mp hexec
    exact hf value middle (h value middle hfirst) _ _ hrest

theorem exec_for_each {body : ι → σ → Prog Op Ans (Int × σ)} {items : List ι} {s : σ}
    {result : Int × σ} {before after : τ} {step : Semantics Op Ans τ}
    (h : Exec step (for_each body items s) before result after)
    (Inv : List ι → σ → τ → Prop) (Fail : σ → τ → Prop) (hstart : Inv [] s before)
    (hbody : ∀ done item rest s t result t', items = done ++ item :: rest → Inv done s t →
      Exec step (body item s) t result t' →
      (result.1 = 0 → Inv (done ++ [item]) result.2 t') ∧
        (result.1 ≠ 0 → Fail result.2 t')) :
    (result.1 = 0 → Inv items result.2 after) ∧ (result.1 ≠ 0 → Fail result.2 after) :=
  Judgement.for_each (J := .executions step) Inv hstart
    (fun done item rest s t hitems hinv result t' hexec =>
      hbody done item rest s t result t' hitems hinv hexec) result after h

theorem exec_for_all {body : ι → Prog Op Ans Unit} {items : List ι} {before after : τ}
    {step : Semantics Op Ans τ} (h : Exec step (for_all body items) before () after)
    (Inv : List ι → τ → Prop) (hstart : Inv items before)
    (hbody : ∀ item rest t t', Inv (item :: rest) t → Exec step (body item) t () t' →
      Inv rest t') : Inv [] after := by
  induction items generalizing before with
  | nil =>
      obtain ⟨-, rfl⟩ := exec_pure.mp h
      exact hstart
  | cons item rest ih =>
      obtain ⟨_, middle, hfirst, hrest⟩ := exec_bind.mp h
      exact ih hrest (hbody item rest before middle hstart hfirst)

-- A semantics that always has an answer never blocks a program.
theorem exec_exists (Inv : σ → Prop)
    (htotal : ∀ s op, Inv s → ∃ answer s', step s op answer s' ∧ Inv s')
    (program : Prog Op Ans α) {before : σ} (hbefore : Inv before) :
    ∃ result after, Exec step program before result after := by
  induction program generalizing before with
  | ret value => exact ⟨value, before, .ret⟩
  | call op next ih =>
      obtain ⟨answer, middle, hstep, hmiddle⟩ := htotal before op hbefore
      obtain ⟨result, after, hrest⟩ := ih answer hmiddle
      exact ⟨result, after, .call hstep hrest⟩

-- A handler that stays within the semantics gives one of the executions.
theorem exec_run (handler : σ → (op : Op) → Ans op × σ)
    (hstep : ∀ s op, step s op (handler s op).1 (handler s op).2)
    (program : Prog Op Ans α) (before : σ) :
    Exec step program before (program.run handler before).1 (program.run handler before).2 := by
  induction program generalizing before with
  | ret value => exact .ret
  | call op next ih => exact .call (hstep before op) (ih _ _)

theorem exec_run_ok (handler : σ → (op : Op) → Ans op × σ)
    (hstep : ∀ s op, step s op (handler s op).1 (handler s op).2)
    (program : Prog Op Ans (Int × β)) (before : σ)
    (hok : (program.run handler before).1.1 = 0) :
    Exec step program before (0, (program.run handler before).1.2)
      (program.run handler before).2 := by
  have hexec := exec_run handler hstep program before
  rwa [show (program.run handler before).1 = (0, (program.run handler before).1.2) by
    rw [← hok]] at hexec

-- Total correctness: there is an execution, and every execution ends as it should.
def Returns (step : Semantics Op Ans σ) (program : Prog Op Ans α) (before : σ)
    (Q : α → σ → Prop) : Prop :=
  (∃ result after, Exec step program before result after) ∧
    ∀ result after, Exec step program before result after → Q result after

theorem returns_of_exists {program : Prog Op Ans α} {before : σ} {Q : α → σ → Prop}
    (Inv : σ → Prop)
    (htotal : ∀ s op, Inv s → ∃ answer s', step s op answer s' ∧ Inv s') (hbefore : Inv before)
    (h : ∀ result after, Exec step program before result after → Q result after) :
    Returns step program before Q :=
  ⟨exec_exists Inv htotal program hbefore, h⟩

-- The states that an execution passes through, from the first on.
inductive Reaches (step : Semantics Op Ans σ) : Prog Op Ans α → σ → σ → Prop
  | here {program : Prog Op Ans α} {state : σ} : Reaches step program state state
  | call {op : Op} {next : Ans op → Prog Op Ans α} {answer : Ans op} {before middle state : σ} :
      step before op answer middle → Reaches step (next answer) middle state →
      Reaches step (.call op next) before state

theorem Exec.reaches {program : Prog Op Ans α} {result : α} {before after : σ}
    (h : Exec step program before result after) : Reaches step program before after := by
  induction h with
  | ret => exact .here
  | call hstep _ ih => exact .call hstep ih

-- All states passed through satisfy the invariant, and what is returned satisfies
-- the postcondition.
def Prog.Always (step : Semantics Op Ans σ) (Inv : σ → Prop) (Q : α → σ → Prop) :
    Prog Op Ans α → σ → Prop
  | .ret value, state => Inv state ∧ Q value state
  | .call op next, state =>
      Inv state ∧ ∀ answer state', step state op answer state' →
        (next answer).Always step Inv Q state'

namespace Prog.Always

variable {Inv : σ → Prop} {Q : α → σ → Prop} {program : Prog Op Ans α} {state : σ}

theorem pure {value : α} (hinv : Inv state) (hvalue : Q value state) :
    (pure value : Prog Op Ans α).Always step Inv Q state :=
  ⟨hinv, hvalue⟩

theorem inv (h : program.Always step Inv Q state) : Inv state := by
  cases program with
  | ret value => exact h.1
  | call op next => exact h.1

theorem mono {R : α → σ → Prop} (h : program.Always step Inv Q state)
    (hle : ∀ value s, Inv s → Q value s → R value s) : program.Always step Inv R state := by
  induction program generalizing state with
  | ret value => exact ⟨h.1, hle value state h.1 h.2⟩
  | call op next ih => exact ⟨h.1, fun answer s hstep => ih answer (h.2 answer s hstep)⟩

theorem bind {f : α → Prog Op Ans β} {R : β → σ → Prop} (h : program.Always step Inv Q state)
    (hf : ∀ value s, Inv s → Q value s → (f value).Always step Inv R s) :
    (program >>= f).Always step Inv R state := by
  induction program generalizing state with
  | ret value => exact hf value state h.1 h.2
  | call op next ih => exact ⟨h.1, fun answer s hstep => ih answer (h.2 answer s hstep)⟩

theorem reaches {s : σ} (h : program.Always step Inv Q state)
    (hreaches : Reaches step program state s) : Inv s := by
  induction hreaches with
  | here => exact h.inv
  | call hstep _ ih => exact ih (h.2 _ _ hstep)

theorem exec {result : α} {after : σ} (h : program.Always step Inv Q state)
    (hexec : Exec step program state result after) : Q result after := by
  induction hexec with
  | ret => exact h.2
  | call hstep _ ih => exact ih (h.2 _ _ hstep)

end Prog.Always

-- What holds when a program is done, whatever its operations answer, when an
-- operation and its answer say what becomes of the state.
def Prog.Ends (effect : (op : Op) → Ans op → σ → σ) (Q : α → σ → Prop) : Prog Op Ans α → σ → Prop
  | .ret value, state => Q value state
  | .call op next, state => ∀ answer, (next answer).Ends effect Q (effect op answer state)

namespace Prog.Ends

variable {effect : (op : Op) → Ans op → σ → σ} {Q : α → σ → Prop} {R : β → σ → Prop}
  {program : Prog Op Ans α} {state : σ}

theorem pure {value : α} (h : Q value state) :
    (pure value : Prog Op Ans α).Ends effect Q state :=
  h

theorem mono {Q' : α → σ → Prop} (h : program.Ends effect Q state)
    (hle : ∀ value s, Q value s → Q' value s) : program.Ends effect Q' state := by
  induction program generalizing state with
  | ret value => exact hle value state h
  | call op next ih => exact fun answer => ih answer (h answer)

theorem bind {f : α → Prog Op Ans β} (h : program.Ends effect Q state)
    (hf : ∀ value s, Q value s → (f value).Ends effect R s) :
    (program >>= f).Ends effect R state := by
  induction program generalizing state with
  | ret value => exact hf value state h
  | call op next ih => exact fun answer => ih answer (h answer)

theorem perform {op : Op} {f : Ans op → Prog Op Ans β}
    (h : ∀ answer, (f answer).Ends effect R (effect op answer state)) :
    (Interaction.perform op >>= f).Ends effect R state :=
  h

-- Operations without an effect leave the state alone.
theorem of_uses {P : Op → Prop} {Y : α → Prop} (huses : program.Uses P) (hyields : program.Yields Y)
    (hkeep : ∀ op answer s, P op → effect op answer s = s) :
    program.Ends effect (fun value s => Y value ∧ s = state) state := by
  induction program with
  | ret value => exact ⟨hyields, rfl⟩
  | call op next ih =>
      intro answer
      rw [hkeep op answer state huses.1]
      exact ih answer (huses.2 answer) (hyields answer)

theorem exec {result : α} {after : σ} (h : program.Ends effect Q state)
    (hexec : Exec (fun s op answer s' => s' = effect op answer s) program state result after) :
    Q result after := by
  induction hexec with
  | ret => exact h
  | call hstep _ ih =>
      subst hstep
      exact ih (h _)

-- Something can be returned when every operation has an answer.
theorem possible (hanswers : ∀ op, Nonempty (Ans op)) (h : program.Ends effect Q state) :
    ∃ value s, Q value s := by
  induction program generalizing state with
  | ret value => exact ⟨value, state, h⟩
  | call op next ih =>
      obtain ⟨answer⟩ := hanswers op
      exact ih answer (h answer)

-- Operations that add to a list do so behind whatever stands there before.
theorem behind {ε : Type} {effect : (op : Op) → Ans op → List ε → List ε}
    {emits : Op → Option ε} {Q : α → List ε → Prop} {first s : List ε}
    (heffect : ∀ op answer s, effect op answer s = s ++ (emits op).toList)
    (h : program.Ends effect Q (first ++ s)) :
    program.Ends effect (fun value s' => Q value (first ++ s')) s := by
  induction program generalizing s with
  | ret value => exact h
  | call op next ih =>
      intro answer
      refine ih answer ?_
      have hanswer := h answer
      rw [heffect] at hanswer ⊢
      rwa [List.append_assoc] at hanswer

-- The first operation adds nothing, or the first element of the list.
theorem after_call {ε : Type} {effect : (op : Op) → Ans op → List ε → List ε}
    {emits : Op → Option ε} {Q : α → List ε → Prop} {op : Op} {next : Ans op → Prog Op Ans α}
    (heffect : ∀ op answer s, effect op answer s = s ++ (emits op).toList)
    (hanswers : ∀ op, Nonempty (Ans op)) (h : (Prog.call op next).Ends effect Q [])
    (answer : Ans op) :
    emits op = none ∧ (next answer).Ends effect Q [] ∨
      ∃ first, emits op = some first ∧ (∃ value rest, Q value (first :: rest)) ∧
        (next answer).Ends effect (fun value rest => Q value (first :: rest)) [] := by
  have hanswer := h answer
  rw [heffect] at hanswer
  cases hemits : emits op with
  | none =>
      rw [hemits] at hanswer
      exact .inl ⟨rfl, hanswer⟩
  | some first =>
      rw [hemits] at hanswer
      have hfirst : (next answer).Ends effect Q ([first] ++ []) := hanswer
      have hbehind := hfirst.behind heffect
      exact .inr ⟨first, rfl, hbehind.possible hanswers, hbehind⟩

end Prog.Ends

-- What holds of a value and of all the operations on the way to it with what they
-- answered, in order, whatever they answer.
def Prog.Records : Prog Op Ans α → (α → List (Σ op, Ans op) → Prop) → Prop
  | .ret value, Q => Q value []
  | .call op next, Q => ∀ answer,
      (next answer).Records fun value calls => Q value (⟨op, answer⟩ :: calls)

namespace Prog.Records

variable {Q : α → List (Σ op, Ans op) → Prop} {R : β → List (Σ op, Ans op) → Prop}
  {program : Prog Op Ans α}

theorem pure {value : α} (h : Q value []) : (pure value : Prog Op Ans α).Records Q :=
  h

theorem mono {Q' : α → List (Σ op, Ans op) → Prop} (h : program.Records Q)
    (hle : ∀ value calls, Q value calls → Q' value calls) : program.Records Q' := by
  induction program generalizing Q Q' with
  | ret value => exact hle value [] h
  | call op next ih =>
      exact fun answer => ih answer (h answer) fun value calls => hle value (⟨op, answer⟩ :: calls)

theorem bind {f : α → Prog Op Ans β} (h : program.Records Q)
    (hf : ∀ value calls, Q value calls →
      (f value).Records fun result more => R result (calls ++ more)) :
    (program >>= f).Records R := by
  induction program generalizing Q R with
  | ret value => exact hf value [] h
  | call op next ih =>
      exact fun answer => ih answer (h answer) fun value calls => hf value (⟨op, answer⟩ :: calls)

theorem perform {op : Op} {f : Ans op → Prog Op Ans β}
    (h : ∀ answer, (f answer).Records fun result more => R result (⟨op, answer⟩ :: more)) :
    (Interaction.perform op >>= f).Records R :=
  h

theorem for_all {body : ι → Prog Op Ans Unit} {f : ι → Σ op, Ans op}
    (h : ∀ item, (body item).Records fun _ calls => calls = [f item]) (items : List ι) :
    (Interaction.for_all body items).Records fun _ calls => calls = items.map f := by
  induction items with
  | nil => exact rfl
  | cons item rest ih =>
      refine (h item).bind fun _ calls hcalls => ih.mono fun _ more hmore => ?_
      rw [hcalls, hmore]
      rfl

theorem of_uses {P : Op → Prop} {Y : α → Prop} (huses : program.Uses P)
    (hyields : program.Yields Y) :
    program.Records fun value calls => Y value ∧ ∀ call ∈ calls, P call.1 := by
  induction program with
  | ret value => exact ⟨hyields, List.forall_mem_nil _⟩
  | call op next ih =>
      exact fun answer => (ih answer (huses.2 answer) (hyields answer)).mono fun _ _ h =>
        ⟨h.1, List.forall_mem_cons.mpr ⟨huses.1, h.2⟩⟩

theorem exec {before calls : List (Σ op, Ans op)} {result : α} (h : program.Records Q)
    (hexec : Exec (fun calls op answer calls' => calls' = calls ++ [⟨op, answer⟩]) program before
      result calls) : ∃ more, calls = before ++ more ∧ Q result more := by
  induction hexec generalizing Q with
  | ret => exact ⟨[], (List.append_nil _).symm, h⟩
  | @call op next answer _ _ _ _ hstep _ ih =>
      obtain ⟨more, rfl, hmore⟩ := ih (h _)
      rw [hstep]
      exact ⟨⟨op, answer⟩ :: more, List.append_assoc _ _ _, hmore⟩

end Prog.Records

end HwpcSensor.Interaction
