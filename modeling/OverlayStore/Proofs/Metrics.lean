import Mathlib.Algebra.BigOperators.Group.List.Basic
import Mathlib.Algebra.Ring.Nat
import OverlayStore.Metrics

/-!
# The figures of a recorder

The figure of a counter is the sum of all amounts that it was told. The figure of a gauge is what it
was set to last.
-/

namespace OverlayStore.Recorder

variable {metric : Metric}

theorem recordAll_append (recorder : Recorder) (updates more : List Metric.Update) :
    recorder.recordAll (updates ++ more) = (recorder.recordAll updates).recordAll more :=
  List.foldl_append

/-- An update adds its amount to its own counter. -/
theorem figure_record (hcounter : metric.kind = .counter) (recorder : Recorder)
    (update : Metric.Update) :
    (recorder.record update).figure metric =
      recorder.figure metric + if update.metric = metric then update.amount else 0 := by
  obtain ⟨other, amount⟩ := update
  by_cases hsame : other = metric
  · subst hsame
    simp [record, figure, hcounter]
  · simp [record, figure, hsame, Ne.symm hsame]

/-- What a counter shows after several updates. -/
theorem figure_recordAll (hcounter : metric.kind = .counter) (recorder : Recorder)
    (updates : List Metric.Update) :
    (recorder.recordAll updates).figure metric =
      recorder.figure metric +
        (updates.map fun update => if update.metric = metric then update.amount else 0).sum := by
  induction updates generalizing recorder with
  | nil => rfl
  | cons update updates ih =>
    -- the first update is recorded before all others, so the sum grows at its front
    have hcons : recorder.recordAll (update :: updates) =
        (recorder.record update).recordAll updates := rfl
    rw [hcons, ih, figure_record hcounter, List.map_cons, List.sum_cons, Nat.add_assoc]

/-- An update sets its own gauge. -/
theorem figure_record_gauge (hgauge : metric.kind = .gauge) (recorder : Recorder)
    (update : Metric.Update) :
    (recorder.record update).figure metric =
      if update.metric = metric then update.amount else recorder.figure metric := by
  obtain ⟨other, amount⟩ := update
  by_cases hsame : other = metric
  · subst hsame
    simp [record, figure, hgauge]
  · simp [record, figure, hsame, Ne.symm hsame]

end OverlayStore.Recorder
