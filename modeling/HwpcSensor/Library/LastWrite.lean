import Mathlib.Data.List.Basic

namespace HwpcSensor.LastWrite

variable {σ ι α : Type} {put : α → σ → σ} {writes : ι → Option α} {step : σ → ι → Option σ}

-- A field that some of the items write and that none of them reads.
def Writes (put : α → σ → σ) (writes : ι → Option α) (step : σ → ι → Option σ) : Prop :=
  ∀ state item value,
    step (put value state) item = (step state item).map (put ((writes item).getD value))

-- A loop over items, each of which can fail.
structure Runs (step : σ → ι → Option σ) (run : List ι → σ → Option σ) : Prop where
  nil : ∀ state, run [] state = some state
  cons : ∀ item rest state, run (item :: rest) state = (step state item).bind (run rest)

def last_written (writes : ι → Option α) (items : List ι) : Option α :=
  (items.filterMap writes).getLast?

theorem last_written_cons (item : ι) (rest : List ι) :
    last_written writes (item :: rest) = (last_written writes rest).or (writes item) := by
  unfold last_written
  rw [List.filterMap_cons]
  cases writes item with
  | none => rw [Option.or_none]
  | some value =>
      rw [List.getLast?_cons]
      cases (rest.filterMap writes).getLast? <;> rfl

-- After the loop, the field is what the last item to write it wrote.
theorem Writes.run {run : List ι → σ → Option σ} (h : Writes put writes step)
    (hrun : Runs step run) (items : List ι) (state : σ) (value : α) :
    run items (put value state) =
      (run items state).map (put ((last_written writes items).getD value)) := by
  induction items generalizing state value with
  | nil =>
      rw [hrun.nil, hrun.nil]
      rfl
  | cons item rest ih =>
      rw [hrun.cons, hrun.cons, h, last_written_cons]
      cases step state item with
      | none => rfl
      | some next =>
          refine (ih next _).trans ?_
          cases last_written writes rest <;> rfl

theorem last_written_map {β : Type} (f : α → β) (items : List ι) :
    last_written (fun item => (writes item).map f) items = (last_written writes items).map f := by
  unfold last_written
  rw [← List.map_filterMap, List.getLast?_map]

theorem mem_of_last_written {items : List ι} {value : α}
    (h : last_written writes items = some value) : ∃ item ∈ items, writes item = some value :=
  List.mem_filterMap.mp (List.mem_of_getLast? h)

-- A loop that ends well took each of the items.
theorem Runs.exists_step {run : List ι → σ → Option σ} (hrun : Runs step run) {items : List ι}
    {state state' : σ} (h : run items state = some state') {item : ι} (hitem : item ∈ items) :
    ∃ before after, step before item = some after := by
  induction items generalizing state with
  | nil => exact absurd hitem List.not_mem_nil
  | cons first rest ih =>
      rw [hrun.cons] at h
      obtain ⟨next, hfirst, hrest⟩ := Option.bind_eq_some_iff.mp h
      rcases List.mem_cons.mp hitem with rfl | hitem
      · exact ⟨state, next, hfirst⟩
      · exact ih hrest hitem

end HwpcSensor.LastWrite
