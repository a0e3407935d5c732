import ScreenKeyboard.Proofs.ByteOrder
import ScreenKeyboard.Proofs.CheckedDefinition
/-!
# The order of reports

Issues are compared by severity and in one severity by the bytes of the paths (`Issue.order`).  What is found is reported
in that order, and issues that compare as equal stay as they were found (`Issue.Report`).  There is exactly one such
report (`Issue.sort_eq_iff_report`), so nothing hangs on how the issues are sorted, and what is in order already stays as
it is (`Issue.sort_makes_report`).
-/
namespace ScreenKeyboard.Issue

variable {a b : Issue} {reported : List Issue}

/-! ## Comparing issues -/

/-- How an issue stands to another one in a report. -/
def order (a b : Issue) : Ordering :=
  match a.severity, b.severity with
  | .error, .warning => .lt
  | .warning, .error => .gt
  | _, _ => Ord.compare (Text.bytes a.field) (Text.bytes b.field)

theorem isLE_order (a b : Issue) : (a.order b).isLE = a.le b := by
  have paths : (Ord.compare (Text.bytes a.field) (Text.bytes b.field)).isLE = decide (a.field ≤ b.field) := by
    rw [Bool.eq_iff_iff, Text.isLE_compare_bytes, Text.bytes_le_bytes_iff, decide_eq_true_eq]
  unfold order le
  cases a.severity <;> cases b.severity
  case error.warning | warning.error => rfl
  case error.error | warning.warning => exact paths

instance : Std.TransCmp order where
  eq_swap {a b} := by
    unfold order
    cases a.severity <;> cases b.severity
    case error.warning | warning.error => rfl
    case error.error | warning.warning => exact Std.OrientedCmp.eq_swap
  isLE_trans {a b c} before after := by
    rw [isLE_order] at before after ⊢
    exact le_trans a b c before after

theorem order_eq_eq_iff (a b : Issue) : a.order b = .eq ↔ a.severity = b.severity ∧ a.field = b.field := by
  have paths : Ord.compare (Text.bytes a.field) (Text.bytes b.field) = .eq ↔ a.field = b.field := by
    rw [Text.compare_bytes]
    exact Std.LawfulEqCmp.compare_eq_iff_eq
  unfold order
  cases a.severity <;> cases b.severity <;> simp [paths]

theorem le_iff (a b : Issue) : a.le b = true ↔
    (b.severity = .error → a.severity = .error) ∧
      (a.severity = b.severity → Text.bytes a.field ≤ Text.bytes b.field) := by
  rw [Text.bytes_le_bytes_iff]
  unfold le
  cases a.severity <;> cases b.severity <;> simp

theorem eq_place_of_le (before : a.le b = true) (after : b.le a = true) :
    a.severity = b.severity ∧ a.field = b.field := by
  rw [← isLE_order] at before after
  exact (order_eq_eq_iff a b).1 (Std.OrientedCmp.isLE_antisymm before after)

/-! ## Reports -/

def isAt (severity : Severity) (field : String) (issue : Issue) : Bool :=
  issue.severity == severity && issue.field == field

theorem isAt_iff (severity : Severity) (field : String) (issue : Issue) :
    issue.isAt severity field = true ↔ issue.severity = severity ∧ issue.field = field := by
  unfold isAt
  rw [Bool.and_eq_true, beq_iff_eq, beq_iff_eq]

/-- **The report of what was found**: each finding as often as it was found, errors before warnings, in one severity by
the bytes of the paths, and for one severity and path as it was found. -/
structure Report (found reported : List Issue) : Prop where
  held : reported.Perm found
  errors_first : reported.Pairwise fun a b => b.severity = .error → a.severity = .error
  by_path : reported.Pairwise fun a b => a.severity = b.severity → Text.bytes a.field ≤ Text.bytes b.field
  as_found : ∀ severity field, reported.filter (isAt severity field) = found.filter (isAt severity field)

theorem pairwise_le_iff : reported.Pairwise (fun a b => a.le b = true) ↔
    (reported.Pairwise fun a b => b.severity = .error → a.severity = .error) ∧
      reported.Pairwise fun a b => a.severity = b.severity → Text.bytes a.field ≤ Text.bytes b.field := by
  simp only [le_iff, List.pairwise_and_iff]

theorem filter_isAt_sort (found : List Issue) (severity : Severity) (field : String) :
    (sort found).filter (isAt severity field) = found.filter (isAt severity field) := by
  have equal : (found.filter (isAt severity field)).Pairwise fun a b => a.le b = true := by
    refine List.pairwise_of_forall_mem_list fun a ha b hb => ?_
    obtain ⟨grave, there⟩ := (isAt_iff _ _ _).1 (List.mem_filter.1 ha).2
    obtain ⟨grave', there'⟩ := (isAt_iff _ _ _).1 (List.mem_filter.1 hb).2
    have same := (order_eq_eq_iff a b).2 ⟨grave.trans grave'.symm, there.trans there'.symm⟩
    rw [← isLE_order, same]
    rfl
  -- The sort keeps what stands in order already, and it is all of that severity and path that there is.
  have kept := (List.sublist_mergeSort le_trans le_total equal List.filter_sublist).filter (isAt severity field)
  rw [List.filter_filter] at kept
  simp only [Bool.and_self] at kept
  exact (kept.eq_of_length ((perm_sort found).filter _).length_eq.symm).symm

theorem report_sort (found : List Issue) : Report found (sort found) where
  held := perm_sort found
  errors_first := (pairwise_le_iff.1 (pairwise_sort found)).1
  by_path := (pairwise_le_iff.1 (pairwise_sort found)).2
  as_found := filter_isAt_sort found

theorem mem_of_filter_isAt_eq {l m : List Issue}
    (same : ∀ severity field, l.filter (isAt severity field) = m.filter (isAt severity field)) {issue : Issue}
    (there : issue ∈ l) : issue ∈ m := by
  have own : issue ∈ l.filter (isAt issue.severity issue.field) :=
    List.mem_filter.2 ⟨there, (isAt_iff _ _ _).2 ⟨rfl, rfl⟩⟩
  rw [same] at own
  exact (List.mem_filter.1 own).1

theorem eq_of_filter_isAt_eq : ∀ {l m : List Issue}, l.Pairwise (fun a b => a.le b = true) →
    m.Pairwise (fun a b => a.le b = true) →
    (∀ severity field, l.filter (isAt severity field) = m.filter (isAt severity field)) → l = m
  | [], [], _, _, _ => rfl
  | [], _ :: _, _, _, same =>
    absurd (mem_of_filter_isAt_eq (fun s f => (same s f).symm) List.mem_cons_self) List.not_mem_nil
  | _ :: _, [], _, _, same => absurd (mem_of_filter_isAt_eq same List.mem_cons_self) List.not_mem_nil
  | a :: l, b :: m, sorted, sorted', same => by
    obtain ⟨first, tail⟩ := List.pairwise_cons.1 sorted
    obtain ⟨first', tail'⟩ := List.pairwise_cons.1 sorted'
    -- Each of the two issues is first in one list and somewhere in the other, so neither comes before the other.
    have place : a.severity = b.severity ∧ a.field = b.field := by
      rcases List.mem_cons.1 (mem_of_filter_isAt_eq same List.mem_cons_self) with rfl | later
      · exact ⟨rfl, rfl⟩
      · rcases List.mem_cons.1 (mem_of_filter_isAt_eq (fun s f => (same s f).symm) List.mem_cons_self) with rfl | later'
        · exact ⟨rfl, rfl⟩
        · exact eq_place_of_le (first b later') (first' a later)
    have heads := same b.severity b.field
    rw [List.filter_cons_of_pos ((isAt_iff _ _ _).2 place), List.filter_cons_of_pos ((isAt_iff _ _ _).2 ⟨rfl, rfl⟩)]
      at heads
    obtain ⟨rfl, -⟩ := List.cons.inj heads
    refine congrArg _ (eq_of_filter_isAt_eq tail tail' fun severity field => ?_)
    have rest := same severity field
    rw [List.filter_cons, List.filter_cons] at rest
    split at rest
    · exact (List.cons.inj rest).2
    · exact rest

/-- **There is one report of what was found.** -/
theorem sort_eq_iff_report (found reported : List Issue) : sort found = reported ↔ Report found reported := by
  constructor
  · rintro rfl
    exact report_sort found
  · intro report
    refine eq_of_filter_isAt_eq (pairwise_sort found)
      (pairwise_le_iff.2 ⟨report.errors_first, report.by_path⟩) fun severity field => ?_
    rw [filter_isAt_sort, report.as_found]

theorem sort_sort (found : List Issue) : sort (sort found) = sort found :=
  List.mergeSort_of_pairwise (pairwise_sort found)

theorem check_eq_map_sort (d : Definition) :
    d.check = (fun warnings => ⟨d, sort warnings⟩) <$> settle d.issues := by
  unfold Definition.check
  cases settled : settle d.issues with
  | error fault => rfl
  | ok warnings =>
    obtain ⟨-, rfl⟩ := (settle_eq_ok_iff _ _).1 settled
    change Except.ok (⟨d, sort d.issues⟩ : Checked) = .ok ⟨d, sort (sort d.issues)⟩
    rw [sort_sort]

/-- **Whatever is found is sorted into its one report.**  Issues compare consistently, and as equal exactly if they have
the same severity and path.  A report is no longer changed by sorting, so a check of a definition may sort its warnings
once more. -/
theorem sort_makes_report :
    Std.TransCmp order ∧
    (∀ a b : Issue, a.order b = .eq ↔ a.severity = b.severity ∧ a.field = b.field) ∧
    (∀ a b : Issue, a.le b = (a.order b).isLE) ∧
    (∀ found reported, sort found = reported ↔ Report found reported) ∧
    (∀ found, sort (sort found) = sort found) ∧
    ∀ d : Definition, d.check = (fun warnings => ⟨d, sort warnings⟩) <$> settle d.issues :=
  ⟨inferInstance, order_eq_eq_iff, fun a b => (isLE_order a b).symm, sort_eq_iff_report, sort_sort, check_eq_map_sort⟩

/-- Warnings and errors in turn, two of them with the same severity and path. -/
def mixed : List Issue :=
  [.warning "few rows" "phone_rows" none, .error "empty row" "tablet_rows[0]" none, .warning "no name" "name" none,
    .error "empty label" "phone_rows[1][0]" none, .warning "small grid" "phone_rows" none]

theorem sort_makes_report_of_mixed : ∃ reported, Report mixed reported ∧ sort reported = reported ∧
    reported.map message = ["empty label", "empty row", "no name", "few rows", "small grid"] := by
  obtain ⟨-, -, -, unique, again, -⟩ := sort_makes_report
  refine ⟨sort mixed, (unique _ _).1 rfl, again mixed, ?_⟩
  simp [sort, mixed, List.mergeSort, List.merge, le, warning, error]

end ScreenKeyboard.Issue
