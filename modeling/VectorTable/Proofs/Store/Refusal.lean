import VectorTable.Metric.Sample
import VectorTable.Proofs.Store.Course

/-!
# Requests that are refused

A request that cannot be made into statements never reaches the server. Whatever is wrong with it, the call fails before a connection is acquired or a span is entered, and all metrics are as they were. Nothing is refused later on, and nothing is sent that was not built before.
-/

namespace VectorTable

open Program

theorem IsUntouched.samples_append {h : History} (hh : IsUntouched h) (before : History) :
    Metric.samples (Metric.measurements (before ++ h)) =
      Metric.samples (Metric.measurements before) := by
  rw [Metric.measurements_append, hh.measurements, List.append_nil]

/-- Failures for which an argument was refused. -/
def Failure.isRefusal : Failure → Bool
  | misconfigured .. | unsupportedFilter _ => true
  | _ => false

theorem Failure.isLate_of_isRefusal {failure : Failure} (h : failure.isRefusal = true) :
    failure.isLate = false := by
  cases failure <;> first | rfl | cases h

section Course

variable {built : Except Failure (List Statement)} {name? : Option String} {h : History}
  {ending : Option Failure} {failure : Failure} {sent : List Statement}

theorem Course.of_built_error (hcourse : Course (.error failure) name? h ending) :
    ending = some failure ∧ IsUntouched h := by
  cases hcourse with
  | refused hbuilt huntouched =>
    cases hbuilt
    exact ⟨rfl, huntouched⟩
  | idle hbuilt => cases hbuilt
  | worked hbuilt => cases hbuilt

theorem Course.of_refusal (hcourse : Course built name? h ending) (hending : ending = some failure)
    (hrefusal : failure.isRefusal = true) : built = .error failure ∧ IsUntouched h := by
  cases hcourse with
  | refused hbuilt huntouched =>
    cases hending
    exact ⟨hbuilt, huntouched⟩
  | idle => cases hending
  | worked _ _ _ hlate =>
    have hearly := failure.isLate_of_isRefusal hrefusal
    rw [hlate failure hending] at hearly
    cases hearly

theorem Course.asked_sublist (hcourse : Course (.ok sent) name? h ending) :
    (asked h).Sublist sent := by
  cases hcourse with
  | refused hbuilt => cases hbuilt
  | idle _ huntouched =>
    rw [asked_of_exchanges_eq_nil huntouched.contacts]
    exact List.nil_sublist sent
  | worked hbuilt huntouched hsent =>
    cases hbuilt
    rwa [asked_append, asked_of_exchanges_eq_nil huntouched.contacts, List.nil_append]

end Course

/-- If the statements of a call cannot be built, the call fails for just that reason; and if it fails because an argument is refused, the statements could not be built. In both cases the server has not been contacted, no span has been entered and all metrics are as before. Otherwise only statements are sent that were built beforehand. -/
theorem Call.refusal_run {σ : Type} (c : Call) (server : Server σ) (state : σ) (m : Memory)
    (before : History) :
    let run := c.program.run server state m
    let built := c.statements m.issued
    (∀ failure, built = .error failure → run.result = .error failure ∧
      IsUntouched run.history ∧ Metric.samples (Metric.measurements (before ++ run.history)) =
        Metric.samples (Metric.measurements before)) ∧
    (∀ failure, run.result = .error failure → failure.isRefusal = true →
      built = .error failure ∧ IsUntouched run.history ∧
        Metric.samples (Metric.measurements (before ++ run.history)) =
          Metric.samples (Metric.measurements before)) ∧
    ∀ sent, built = .ok sent → (asked run.history).Sublist sent := by
  intro run built
  have hcourse : Course built c.operation? run.history (failure? run.result) :=
    c.course_run server state m
  refine ⟨fun failure hbuilt => ?_, fun failure hfailed hrefusal => ?_, fun sent hbuilt => ?_⟩
  · rw [hbuilt] at hcourse
    obtain ⟨hending, huntouched⟩ := hcourse.of_built_error
    exact ⟨failure?_eq_some_iff.mp hending, huntouched, huntouched.samples_append before⟩
  · obtain ⟨hbuilt, huntouched⟩ :=
      hcourse.of_refusal (failure?_eq_some_iff.mpr hfailed) hrefusal
    exact ⟨hbuilt, huntouched, huntouched.samples_append before⟩
  · rw [hbuilt] at hcourse
    exact hcourse.asked_sublist

/-- The last component of the last vector is no number, and a filter holds a plain value deep inside. -/
theorem Call.refusal_run_lastVector :
    let s : Store := ⟨⟨Draft.ofTable "t", by decide⟩, .cosine, none,
      ⟨⟨4, by decide⟩, none, ⟨2, by decide⟩⟩⟩
    let server : Server Unit := fun _ _ => (.ok .null, ())
    let addition : Call := .addAll s ⟨[.list [.float 0], .list [.float 0, .text "x"]], none, none,
      some [.text "a", .text "b"]⟩
    let lookup : Call := .findRelevant s (.list [.float 0]) .null .null
      (some (.not (.or (.leaf (.compare .equal ⟨"k", by decide⟩ ⟨.int 1, rfl⟩)) (.plain .null))))
    let added := addition.program.run server () ⟨true, 0, true⟩
    let found := lookup.program.run server () ⟨true, 0, true⟩
    (added.result = .error (.misfit (.notNumeral "'x'")) ∧ IsUntouched added.history) ∧
      found.result = .error (.unsupportedFilter "NoneType") ∧ IsUntouched found.history := by
  intro s server addition lookup added found
  have hvector : addition.statements 0 = .error (.misfit (.notNumeral "'x'")) := by
    with_unfolding_all rfl
  have hfilter : found.result = .error (.unsupportedFilter "NoneType") := by with_unfolding_all rfl
  obtain ⟨hrefused, -, -⟩ := addition.refusal_run server () ⟨true, 0, true⟩ []
  obtain ⟨-, hunsupported, -⟩ := lookup.refusal_run server () ⟨true, 0, true⟩ []
  obtain ⟨hadded, huntouched, -⟩ := hrefused _ hvector
  exact ⟨⟨hadded, huntouched⟩, hfilter, (hunsupported _ hfilter rfl).2.1⟩

end VectorTable
