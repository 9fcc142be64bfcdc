/-
Every rendering request gets an answer with one picture for each of its sizes.

Whatever the provider does with a task — it makes too few or too many pictures, it fails, it breaks
down — the answer has the shape of the request:

* **`Serves`** — the provider makes one picture for each size it is asked for;
* **`result_process_of_not_serves`** — all that can go wrong ends in one of two ways;
* **`exists_answer_respond`** — the answer says that all is well just if the provider serves the
  task, and it has a picture, maybe an empty one, in the place of each size.
-/
import Thumbnailer.Proofs.Rendering.Order

namespace Thumbnailer.Provider

variable {p : Provider} {task : Task} {sorted : List Size}

/-- A task that asks for something gets one picture for each of its sizes, which the provider is
given in the order `sorted`. -/
def Serves (p : Provider) (task : Task) (sorted : List Size) : Prop :=
  task.sizes ≠ [] ∧ ∃ images,
    p.render task.path sorted = .images images ∧ images.length = task.sizes.length

/-! ### What becomes of a task -/

theorem asked_process (p : Provider) (task : Task) :
    (p.process task).asked =
      if task.sizes = [] then [] else [(byWidth task.sizes).map Prod.fst] := by
  by_cases hsizes : task.sizes = []
  · have hempty : task.sizes.isEmpty = true := List.isEmpty_iff.mpr hsizes
    rw [process, if_pos hempty, if_pos hsizes]
  · rw [process_of_ne_nil hsizes, if_neg hsizes]

theorem exists_success_of_serves (h : p.Serves task ((byWidth task.sizes).map Prod.fst)) :
    ∃ row, (p.process task).result = .ok (.success row) ∧ row.length = task.sizes.length := by
  obtain ⟨hsizes, images, himages, hlength⟩ := h
  obtain ⟨row, hrow, hrowlength, -⟩ := exists_success_of_images hsizes himages hlength
  exact ⟨row, hrow, hrowlength⟩

theorem result_process_of_not_serves
    (h : ¬ p.Serves task ((byWidth task.sizes).map Prod.fst)) :
    (p.process task).result = .ok (.failure task.sizes.length) ∨
      ∃ cause, (p.process task).result = .error cause := by
  by_cases hsizes : task.sizes = []
  · have hempty : task.sizes.isEmpty = true := List.isEmpty_iff.mpr hsizes
    rw [process, if_pos hempty, hsizes]
    exact .inl rfl
  · rw [process_of_ne_nil hsizes]
    cases hattempt : p.render task.path ((byWidth task.sizes).map Prod.fst) with
    | panicked cause => exact .inr ⟨cause, rfl⟩
    | failed cause => exact .inl rfl
    | images images =>
      have hcount : images.length ≠ (widestFirst task.sizes).length := by
        intro hlength
        exact h ⟨hsizes, images, hattempt, by rw [hlength, length_widestFirst]⟩
      rw [judge, if_neg hcount]
      exact .inl rfl

/-! ### The answer -/

theorem asked_respond (p : Provider) (task : Task) :
    (p.respond (.render task)).asked = (p.process task).asked := by
  rw [respond]
  cases (p.process task).result with
  | ok outcome => rfl
  | error cause => rfl

theorem response_respond_of_ok {outcome : Outcome} (h : (p.process task).result = .ok outcome) :
    (p.respond (.render task)).response = .render (.ofOutcome outcome) := by
  simp only [respond, h]

theorem response_respond_of_not_serves
    (h : ¬ p.Serves task ((byWidth task.sizes).map Prod.fst)) :
    (p.respond (.render task)).response
      = .render (.ofOutcome (.failure task.sizes.length)) := by
  obtain hfailed | ⟨cause, hpanic⟩ := result_process_of_not_serves h
  · exact response_respond_of_ok hfailed
  · -- the breakdown is caught, and the pictures that are missing are counted by the task
    simp only [respond, hpanic]

/-- **Every rendering request is answered in its own shape.**  The answer has as many pictures as
the task has sizes.  It says that all is well just if the task asks for something and the provider,
given the sizes of the task, makes as many pictures as there are; in all other cases it says that
something went wrong, and none of its pictures has any bytes.  A task without sizes does not reach
the provider, and any other does so once. -/
theorem exists_answer_respond (p : Provider) (task : Task) :
    ∃ (answer : Wire.Rendered) (sorted : List Size),
      (p.respond (.render task)).response = .render answer ∧
      answer.images.length = task.sizes.length ∧
      sorted.Perm task.sizes ∧
      (p.respond (.render task)).asked = (if task.sizes = [] then [] else [sorted]) ∧
      (p.Serves task sorted ∧ answer.code = 0 ∧ answer.text = "OK" ∨
        ¬ p.Serves task sorted ∧ answer.code = 1 ∧ answer.text = "ERROR" ∧
          ∀ image ∈ answer.images, image = []) := by
  have hsorted : ((byWidth task.sizes).map Prod.fst).Perm task.sizes := by
    have hperm := (byWidth_perm task.sizes).map Prod.fst
    rwa [List.zipIdx_map_fst] at hperm
  have hasked : (p.respond (.render task)).asked =
      if task.sizes = [] then [] else [(byWidth task.sizes).map Prod.fst] := by
    rw [asked_respond, asked_process]
  by_cases hserves : p.Serves task ((byWidth task.sizes).map Prod.fst)
  · obtain ⟨row, hrow, hlength⟩ := exists_success_of_serves hserves
    exact ⟨.ofOutcome (.success row), _, response_respond_of_ok hrow, hlength, hsorted, hasked,
      .inl ⟨hserves, rfl, rfl⟩⟩
  · refine ⟨.ofOutcome (.failure task.sizes.length), _, response_respond_of_not_serves hserves,
      List.length_replicate, hsorted, hasked, .inr ⟨hserves, rfl, rfl, ?_⟩⟩
    intro image himage
    exact List.eq_of_mem_replicate himage

end Thumbnailer.Provider
