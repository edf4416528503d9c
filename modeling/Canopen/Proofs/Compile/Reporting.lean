import Mathlib.Data.List.Nodup
import Canopen.Image.Compile

/-!
# Findings reported once

Of the findings in an array, those that come from comparing its elements are reported once, however
many elements differ.  All others are reported as often as they are found.
-/

namespace Canopen

namespace Compile

/-- The findings that are reported once. -/
def singleFindings : List Finding := [.arrayTypes, .arrayValues, .arrayAttributes]

theorem isReportedOnce_iff (finding : Finding) :
    isReportedOnce finding = true ↔ finding ∈ singleFindings := by
  cases finding <;> simp [isReportedOnce, singleFindings]

/-- Where nothing is reported, nothing is found. -/
theorem eq_nil_of_reportOnce {findings : List Finding} (silent : reportOnce [] findings = []) :
    findings = [] := by
  cases findings with
  | nil => rfl
  | cons finding rest =>
      unfold reportOnce at silent
      split at silent
      · rw [if_neg (List.not_mem_nil)] at silent
        cases silent
      · cases silent

/-- Leaving out some findings does not change which of the others are reported. -/
theorem filter_reportOnce (keep : Finding → Bool) (reported found : List Finding) :
    (reportOnce reported found).filter keep =
      reportOnce (reported.filter keep) (found.filter keep) := by
  induction found generalizing reported with
  | nil => rfl
  | cons finding rest ih =>
      cases kept : keep finding <;> cases once : isReportedOnce finding <;>
        by_cases known : finding ∈ reported <;>
          simp [reportOnce, once, known, kept, ih]

/-- Other findings are reported as often as they are found. -/
theorem reportOnce_of_several (reported : List Finding) {findings : List Finding}
    (several : ∀ finding ∈ findings, isReportedOnce finding = false) :
    reportOnce reported findings = findings := by
  induction findings with
  | nil => rfl
  | cons finding rest ih =>
      obtain ⟨first, others⟩ := List.forall_mem_cons.1 several
      rw [reportOnce, first, if_neg Bool.false_ne_true, ih others]

/-- A finding of such a kind is reported when it is found and has not been reported before. -/
theorem mem_reportOnce {reported findings : List Finding} {single : Finding}
    (once : isReportedOnce single = true) :
    single ∈ reportOnce reported findings ↔ single ∈ findings ∧ single ∉ reported := by
  induction findings generalizing reported with
  | nil => simp [reportOnce]
  | cons finding rest ih =>
      rw [reportOnce]
      split
      · split
        · next before =>
          rw [ih, List.mem_cons]
          constructor
          · exact fun ⟨later, fresh⟩ => ⟨.inr later, fresh⟩
          · rintro ⟨rfl | later, fresh⟩
            · exact absurd before fresh
            · exact ⟨later, fresh⟩
        · next fresh =>
          rw [List.mem_cons, List.mem_cons, ih, List.mem_cons, not_or]
          by_cases same : single = finding
          · subst same
            simp [fresh]
          · simp [same]
      · next several =>
        have other : single ≠ finding := by
          rintro rfl
          exact several once
        rw [List.mem_cons, List.mem_cons, ih]
        simp [other]

theorem nodup_reportOnce (reported findings : List Finding) :
    ((reportOnce reported findings).filter isReportedOnce).Nodup := by
  induction findings generalizing reported with
  | nil => exact List.nodup_nil
  | cons finding rest ih =>
      rw [reportOnce]
      split
      · next single =>
        split
        · exact ih reported
        · rw [List.filter_cons_of_pos single, List.nodup_cons]
          refine ⟨fun again => ?_, ih (finding :: reported)⟩
          have later := (List.mem_filter.1 again).1
          exact ((mem_reportOnce single).1 later).2 List.mem_cons_self
      · next several =>
        rw [List.filter_cons_of_neg several]
        exact ih reported

/-- What is reported: each finding of some kinds once, and all others. -/
theorem reportOnce_perm (findings : List Finding) :
    (reportOnce [] findings).Perm
      (findings.filter (!isReportedOnce ·) ++ singleFindings.filter (· ∈ findings)) := by
  have singles : ((reportOnce [] findings).filter isReportedOnce).Perm
      (singleFindings.filter (· ∈ findings)) := by
    have distinct : singleFindings.Nodup := by decide
    refine (List.perm_ext_iff_of_nodup (nodup_reportOnce _ _) (distinct.filter _)).2 fun single => ?_
    rw [List.mem_filter, List.mem_filter, isReportedOnce_iff, decide_eq_true_eq, and_comm]
    refine and_congr_right fun once => ?_
    rw [mem_reportOnce ((isReportedOnce_iff single).2 once)]
    simp
  have several : (reportOnce [] findings).filter (!isReportedOnce ·) =
      findings.filter (!isReportedOnce ·) := by
    rw [filter_reportOnce]
    refine reportOnce_of_several _ fun finding among => ?_
    simpa using (List.mem_filter.1 among).2
  have split := (List.filter_append_perm isReportedOnce (reportOnce [] findings)).symm
  rw [several] at split
  exact split.trans ((singles.append_right _).trans List.perm_append_comm)

end Compile

end Canopen
