import ScreenKeyboard.Proofs.ByteOrder
import ScreenKeyboard.Proofs.RepeatedLetters
import ScreenKeyboard.Proofs.Warnings
/-!
# Oddities of a grid

A usable page can still look wrong: it has a fourth row, which makes way for the space bar, or few rows, or a key repeats
a letter of the page (`Page.Shows`).  A check that passes warns of each of these once, and of the accented letters that
are missing for some form factor, and of nothing else.  Its warnings are in the order of the bytes of their paths
(`Grid.check_warns_of_oddities`).
-/
namespace ScreenKeyboard

theorem Grid.letter?_eq_label? {key : Key} (lettered : (letter? key).isSome = true) : letter? key = key.label? := by
  obtain ⟨letter, shown⟩ := Option.isSome_iff_exists.1 lettered
  rw [shown, Key.label?, ((letter?_eq_some_iff key letter).1 shown).1]
  rfl

theorem Issue.field_le_of_le {a b : Issue} (ha : a.isError = false) (hb : b.isError = false) (before : a.le b = true) :
    a.field ≤ b.field := by
  obtain ⟨_ | _, _, _, _⟩ := a
  · cases ha
  · obtain ⟨_ | _, _, _, _⟩ := b
    · cases hb
    · exact of_decide_eq_true before

/-- What looks wrong on a page that can be used. -/
inductive Oddity where
  | replacedRow
  | fewRows (count : Nat)
  | again (place : Place)
deriving DecidableEq

namespace Oddity

def issue (field : String) : Oddity → Issue
  | .replacedRow => Grid.replacedRowWarning field
  | .fewRows count =>
    .warning ("Grid has " ++ toString count ++ " letter rows, " ++ toString usualLetterRows ++ " are usual") field none
  | .again place =>
    .warning ("Duplicate letter '" ++ place.label ++ "'") (Grid.placePath field [place.row, place.column]) none

def isAgain : Oddity → Bool
  | .again _ => true
  | _ => false

end Oddity

namespace Page

/-- **The oddities of a page.** -/
inductive Shows (page : Page) : Oddity → Prop
  | replacedRow (four : page.rowCount = 4) : Shows page .replacedRow
  | fewRows (few : page.rowCount < 3) : Shows page (.fewRows page.rowCount)
  | again {row column row' column' : Nat} {letter : String} (drawn : page.labelAt? row column = some letter)
    (earlier : row' < row ∨ row' = row ∧ column' < column) (before : page.labelAt? row' column' = some letter) :
    Shows page (.again ⟨row, column, letter⟩)

def countOddities (page : Page) : List Oddity :=
  if page.rowCount = spaceBarRow.val then [.replacedRow]
  else if page.rowCount < usualLetterRows then [.fewRows page.rowCount] else []

def oddities (page : Page) : List Oddity := page.countOddities ++ page.repeats.map .again

theorem mem_countOddities_iff {page : Page} {oddity : Oddity} : oddity ∈ page.countOddities ↔
    (page.rowCount = 4 ∧ oddity = .replacedRow) ∨ (page.rowCount < 3 ∧ oddity = .fewRows page.rowCount) := by
  have four : spaceBarRow.val = 4 := rfl
  have usual : usualLetterRows = 3 := rfl
  unfold countOddities
  rw [four, usual]
  by_cases replaced : page.rowCount = 4
  · simp [replaced]
  · by_cases few : page.rowCount < 3 <;> simp [replaced, few]

/-- **The oddities that are listed are those that the page shows.** -/
theorem mem_oddities_iff (page : Page) (oddity : Oddity) : oddity ∈ page.oddities ↔ page.Shows oddity := by
  unfold oddities
  rw [List.mem_append, mem_countOddities_iff, List.mem_map]
  constructor
  · rintro ((⟨four, rfl⟩ | ⟨few, rfl⟩) | ⟨place, repeated, rfl⟩)
    · exact .replacedRow four
    · exact .fewRows few
    · obtain ⟨drawn, row, column, earlier, before⟩ := (page.mem_repeats_iff place).1 repeated
      exact .again drawn earlier before
  · intro shown
    cases shown with
    | replacedRow four => exact .inl (.inl ⟨four, rfl⟩)
    | fewRows few => exact .inl (.inr ⟨few, rfl⟩)
    | again drawn earlier before =>
      exact .inr ⟨_, (page.mem_repeats_iff _).2 ⟨drawn, _, _, earlier, before⟩, rfl⟩

theorem nodup_oddities (page : Page) : page.oddities.Nodup := by
  have counted : page.countOddities.Nodup := by
    unfold countOddities
    split
    · exact List.nodup_singleton _
    · split
      · exact List.nodup_singleton _
      · exact List.nodup_nil
  have repeated : (page.repeats.map Oddity.again).Nodup :=
    page.nodup_repeats.map fun _ _ same => Oddity.again.inj same
  unfold oddities
  rw [List.nodup_append]
  refine ⟨counted, repeated, fun a ha b hb => ?_⟩
  obtain ⟨place, -, rfl⟩ := List.mem_map.1 hb
  rcases mem_countOddities_iff.1 ha with ⟨-, rfl⟩ | ⟨-, rfl⟩ <;> nofun

theorem countP_isAgain_oddities (page : Page) : page.oddities.countP Oddity.isAgain = page.repeats.length := by
  have counted : page.countOddities.countP Oddity.isAgain = 0 := by
    rw [List.countP_eq_zero]
    intro oddity found
    rcases mem_countOddities_iff.1 found with ⟨-, rfl⟩ | ⟨-, rfl⟩ <;> nofun
  unfold oddities
  rw [List.countP_append, counted, Nat.zero_add, List.countP_map, List.countP_eq_length]
  exact fun _ _ => rfl

theorem hasLabel_iff_mem_labels (page : Page) (label : String) : page.hasLabel label = true ↔ label ∈ page.labels := by
  unfold hasLabel labels
  rw [List.any_eq_true, List.mem_filterMap]
  exact exists_congr fun key => and_congr_right fun _ => beq_iff_eq

theorem Usable.length_labels {page : Page} (usable : page.Usable) : page.labels.length = page.keyCount := by
  unfold labels keyCount
  rw [List.length_filterMap_eq_countP, List.countP_eq_length]
  intro key there
  obtain ⟨row, inPage, inRow⟩ := List.mem_flatten.1 there
  have lettered := usable.lettered row inPage key inRow
  rwa [← Grid.letter?_eq_label? lettered]

end Page

/-! ## Warnings of a page -/

namespace Grid

theorem keyIssues_eq (field : String) (row : Nat) : ∀ (keys : List Key) (seen : List String) (index : Nat),
    (∀ key ∈ keys, (letter? key).isSome = true) →
    keyIssues (itemPath field row) seen index keys =
      ((Place.repeats seen (Page.placesOfRow row (keys.zipIdx index))).map .again).map (Oddity.issue field)
  | [], _, _, _ => rfl
  | key :: keys, seen, index, lettered => by
    obtain ⟨own, others⟩ := List.forall_mem_cons.1 lettered
    obtain ⟨letter, shown⟩ := Option.isSome_iff_exists.1 own
    have drawn : key.label? = some letter := by rw [← letter?_eq_label? own, shown]
    have places : Page.placesOfRow row ((key :: keys).zipIdx index) =
        ⟨row, index, letter⟩ :: Page.placesOfRow row (keys.zipIdx (index + 1)) := by
      unfold Page.placesOfRow
      rw [List.zipIdx_cons, List.filterMap_cons]
      simp only [drawn, Option.map_some]
    rw [keyIssues, shown, places, Place.repeats, List.map_append, List.map_append,
      ← keyIssues_eq field row keys _ _ others]
    dsimp only
    split <;> rfl

theorem rowIssues_eq (field : String) : ∀ (rows : List Row) (seen : List String) (index : Nat),
    (∀ row ∈ rows, row ≠ []) → (∀ row ∈ rows, ∀ key ∈ row, (letter? key).isSome = true) →
    rowIssues field seen index rows =
      ((Place.repeats seen ((rows.zipIdx index).flatMap fun row => Page.placesOfRow row.2 row.1.zipIdx)).map
        .again).map (Oddity.issue field)
  | [], _, _, _, _ => rfl
  | row :: rows, seen, index, keyed, lettered => by
    obtain ⟨own, others⟩ := List.forall_mem_cons.1 keyed
    obtain ⟨shown, others'⟩ := List.forall_mem_cons.1 lettered
    -- What the next row is read with are the labels of this one.
    have letters : row.filterMap letter? = row.filterMap Key.label? :=
      List.filterMap_congr fun key there => letter?_eq_label? (shown key there)
    rw [rowIssues, if_neg own, keyIssues_eq field index row seen 0 shown, rowIssues_eq field rows _ _ others others',
      List.zipIdx_cons, List.flatMap_cons, Place.repeats_append, List.map_append, List.map_append,
      Page.map_label_placesOfRow, letters]

/-- **The issues of a usable page are the warnings of its oddities.** -/
theorem pageIssues_eq (field : String) {page : Page} (usable : page.Usable) :
    pageIssues field page = page.oddities.map (Oddity.issue field) := by
  have counted : countIssues field page.rowCount = page.countOddities.map (Oddity.issue field) := by
    unfold countIssues Page.countOddities
    rw [if_neg (Nat.not_lt.2 usable.few_rows)]
    split
    · rfl
    · split <;> rfl
  unfold pageIssues Page.oddities
  rw [if_neg usable.has_rows, counted, rowIssues_eq field page.rows [] 0 usable.has_keys usable.lettered,
    List.map_append]
  rfl

/-! ## Warnings of a grid -/

/-- The warnings of the pages of a grid: those of phones, and those of tablets if these have rows of their own. -/
def oddityIssues (grid : Grid) : List Issue :=
  grid.phone.oddities.map (Oddity.issue "phone_rows") ++
    ((grid.tablet.map Page.oddities).getD []).map (Oddity.issue "tablet_rows")

/-- The letters that some form factor does not have. -/
def missing (grid : Grid) (letters : List String) : List String :=
  letters.filter fun letter => letter ∉ (grid.page .phone).labels ∨ letter ∉ (grid.page .tablet).labels

theorem accentIssues_eq (grid : Grid) (letter : String) : grid.accentIssues letter =
    if letter ∉ (grid.page .phone).labels ∨ letter ∉ (grid.page .tablet).labels then [accentWarning letter] else [] := by
  unfold accentIssues
  simp only [FormFactor.all, List.all_cons, List.all_nil, Bool.and_true, Bool.and_eq_true, Page.hasLabel_iff_mem_labels]
  by_cases both : letter ∈ (grid.page .phone).labels ∧ letter ∈ (grid.page .tablet).labels
  · rw [if_pos both, if_neg fun missing => Classical.not_and_iff_not_or_not.2 missing both]
  · rw [if_neg both, if_pos (Classical.not_and_iff_not_or_not.1 both)]
    rfl

theorem flatMap_accentIssues (grid : Grid) : ∀ accented : List String,
    accented.flatMap grid.accentIssues = (grid.missing accented).map accentWarning
  | [] => rfl
  | letter :: accented => by
    have rest := flatMap_accentIssues grid accented
    unfold missing at rest ⊢
    rw [List.flatMap_cons, rest, accentIssues_eq, List.filter_cons]
    simp only [decide_eq_true_eq]
    split <;> rfl

theorem usable_of_given {grid : Grid} (usable : ∀ form, (grid.page form).Usable) {page : Page}
    (given : page = grid.phone ∨ grid.tablet = some page) : page.Usable := by
  rcases given with rfl | own
  · exact usable .phone
  · simpa [Grid.page, own] using usable .tablet

theorem issues_eq (grid : Grid) (accented : List String) (usable : ∀ form, (grid.page form).Usable) :
    grid.issues accented = grid.oddityIssues ++ (grid.missing accented).map accentWarning := by
  unfold issues oddityIssues
  rw [flatMap_accentIssues, pageIssues_eq "phone_rows" (usable_of_given usable (.inl rfl))]
  cases own : grid.tablet with
  | none => rfl
  | some page =>
    dsimp only
    rw [pageIssues_eq "tablet_rows" (usable_of_given usable (.inr own))]
    rfl

/-- **A check of a grid that can be used warns of its oddities and of accented letters that are missing**, each as often
as it is there, and of nothing else.  The warnings are in the order of the bytes of their paths.  On every page of the
grid each oddity is listed once, the letters that are repeated are as many as its keys less its different letters, and
there are none exactly when all letters are different. -/
theorem check_warns_of_oddities (grid : Grid) (accented : List String) (usable : ∀ form, (grid.page form).Usable) :
    ∃ warnings, grid.check accented = .ok warnings ∧
      warnings.Perm (grid.oddityIssues ++ (grid.missing accented).map accentWarning) ∧
      warnings.Pairwise (fun a b => Text.bytes a.field ≤ Text.bytes b.field) ∧
      ∀ page, (page = grid.phone ∨ grid.tablet = some page) →
        (∀ oddity, oddity ∈ page.oddities ↔ page.Shows oddity) ∧ page.oddities.Nodup ∧
        page.oddities.countP Oddity.isAgain + page.labels.dedup.length = page.keyCount ∧
        (page.oddities.countP Oddity.isAgain = 0 ↔ page.labels.Nodup) := by
  have sound := (noError_issues grid accented).2 usable
  have listed := Issue.perm_sort (grid.issues accented)
  refine ⟨_, (Issue.settle_eq_ok_iff _ _).2 ⟨sound, rfl⟩, ?_, ?_, fun page given => ?_⟩
  · rw [← issues_eq grid accented usable]
    exact listed
  · refine (Issue.pairwise_sort _).imp_of_mem fun {a b} ha hb before => ?_
    rw [Text.bytes_le_bytes_iff]
    exact Issue.field_le_of_le (sound a (listed.mem_iff.1 ha)) (sound b (listed.mem_iff.1 hb)) before
  · rw [page.countP_isAgain_oddities, page.length_repeats_add_dedup, List.length_eq_zero_iff]
    exact ⟨page.mem_oddities_iff, page.nodup_oddities, (usable_of_given usable given).length_labels,
      page.repeats_eq_nil_iff⟩

/-- Four rows for phones and two for tablets, with letters that come up again in a row and below it. -/
def withOddities : Grid where
  phone := ⟨[[.label "a", .label "b"], [.label "b"], [.label "c"], [.label "a"]]⟩
  tablet := some ⟨[[.label "a", .label "a"], [.label "d"]]⟩
  caseless := false

theorem check_warns_of_oddities_of_both_pages : ∃ warnings, withOddities.check ["a", "b", "d", "x"] = .ok warnings ∧
    warnings.Perm
      [.warning "Row 4 is replaced by the spacebar row" "phone_rows[3]" (some "Move these keys to a letter row"),
        .warning "Duplicate letter 'b'" "phone_rows[1][0]" none,
        .warning "Duplicate letter 'a'" "phone_rows[3][0]" none,
        .warning "Grid has 2 letter rows, 3 are usual" "tablet_rows" none,
        .warning "Duplicate letter 'a'" "tablet_rows[0][1]" none, accentWarning "b", accentWarning "d",
        accentWarning "x"] ∧
    withOddities.phone.oddities.countP Oddity.isAgain + 3 = withOddities.phone.keyCount := by
  have usable : ∀ form, (withOddities.page form).Usable := by
    intro form
    cases form <;> decide +kernel
  obtain ⟨warnings, passed, held, -, pages⟩ := check_warns_of_oddities withOddities ["a", "b", "d", "x"] usable
  obtain ⟨-, -, counted, -⟩ := pages _ (.inl rfl)
  exact ⟨warnings, passed, held, counted⟩

end Grid

end ScreenKeyboard
