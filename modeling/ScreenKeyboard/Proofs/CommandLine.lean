import Mathlib.Data.List.Forall2
import ScreenKeyboard.Command
import ScreenKeyboard.Proofs.DumpedPage
import ScreenKeyboard.Proofs.PrintedDump
import ScreenKeyboard.Proofs.Steps
import ScreenKeyboard.Proofs.WrittenConfig
/-!
# The command line

A run of the program is all or nothing.  It lists the locales, or it prints a complete dump, or it prints nothing at all
and fails.  What is decided before anything is printed is this: where the configuration comes from (`StartsFrom`), what
the options change in it (`Overrides`), and whether its locales are registered; nothing that comes later can fail
(`run_all_or_nothing`).  This holds of everything that can be asked for, whatever paths are; that both form factors are
not asked for at once is seen to before (`Command.not_both_of_invocation`).
-/
namespace ScreenKeyboard

theorem DumpConfig.loadFile_eq_ok_iff {Path : Type} {files : FileAccess Path} {path : Path} {c : DumpConfig} :
    loadFile files path = .ok c ↔ ∃ text, files.read path = .ok text ∧ ofText text = .ok c ∧ c.check = .ok () := by
  unfold loadFile
  cases files.read path with
  | error reason => simp
  | ok text =>
    simp only [Except.ok.injEq, exists_eq_left', load, mapError_eq_ok_iff, bind_eq_ok_iff]
    constructor
    · rintro ⟨c', decoded, ⟨⟩, accepted, same⟩
      cases same
      exact ⟨decoded, accepted⟩
    · rintro ⟨decoded, accepted⟩
      exact ⟨c, decoded, (), accepted, rfl⟩

/-! ## What is printed -/

/-- **A dump as it is printed**: one JSON text in the layout that is asked for, a list of the entries as they are
written, and a line break. -/
def Prints (pretty : Bool) (entries : List DumpEntry) (output : String) : Prop :=
  ∃ items : List Json, List.Forall₂ DumpEntry.Written entries items ∧
    output = (if pretty then (Json.list items).pretty else (Json.list items).compact) ++ "\n" ∧
    (Json.tokens 1 output.toList).map Json.Token.lexeme = Json.lexemes (.list items) ++ [.stop]

theorem prints_answers (pretty : Bool) (requests : List DumpRequest) :
    Prints pretty (requests.filterMap DumpRequest.answer?)
      (dumpText pretty (requests.filterMap DumpRequest.answer?) ++ "\n") := by
  refine ⟨_, ?_, rfl, lexemes_of_dumpText rfl pretty⟩
  exact List.forall₂_map_right_iff.2 (List.forall₂_same.2 fun e _ => e.written_toJson)

/-- The first entry begins with what was asked for. -/
theorem take_lexemes_of_prints {pretty : Bool} {e : DumpEntry} {entries : List DumpEntry} {output : String}
    (prints : Prints pretty (e :: entries) output) :
    ((Json.tokens 1 output.toList).map Json.Token.lexeme).take 16 = [.openList, .openObject,
      .scalar (.text "locale"), .colon, .scalar (.text e.request.locale.tag), .comma,
      .scalar (.text "form_factor"), .colon, .scalar (.text e.request.form.name), .comma,
      .scalar (.text "element"), .colon, .scalar (.text e.request.element.name), .comma,
      .scalar (.text "layout"), .colon] := by
  obtain ⟨items, written, -, whole⟩ := prints
  cases written with
  | cons first =>
    cases first
    rw [whole]
    rfl

/-! ## What is asked for -/

theorem Command.not_both_of_invocation {args : List String} {i : Invocation String} (parsed : invocation args = .ok i) :
    ¬ (i.tablet = true ∧ i.phone = true) := by
  unfold invocation at parsed
  split at parsed
  · cases parsed
  · split at parsed
    · cases parsed
    · rename_i one
      cases parsed
      simpa using one

namespace Invocation

variable {Path : Type} {files : FileAccess Path} {i : Invocation Path} {base c : DumpConfig}

/-! ## The configuration in effect -/

/-- **The configuration that a command line starts from**: everything, or that of a file that can be read, that holds a
configuration, and that passes its check by itself. -/
inductive StartsFrom (files : FileAccess Path) (i : Invocation Path) : DumpConfig → Prop
  | everything (unnamed : i.config = none) : StartsFrom files i .everything
  | file {path : Path} {text : String} {base : DumpConfig} (named : i.config = some path)
    (readable : files.read path = .ok text) (decoded : DumpConfig.ofText text = .ok base)
    (accepted : base.check = .ok ()) : StartsFrom files i base

/-- **A configuration with the options put over it**, field by field. -/
structure Overrides (i : Invocation Path) (base c : DumpConfig) : Prop where
  locales : c.locales = if i.locales = [] then base.locales else i.locales
  elements : c.elements = if i.elements = [] then base.elements else i.elements
  phone : i.phone = true → c.forms = [.phone]
  tablet : i.tablet = true → c.forms = [.tablet]
  forms : i.phone = false → i.tablet = false → c.forms = base.forms
  pretty : c.pretty = true ↔ base.pretty = true ∨ i.pretty = true

/-- The program puts the options over a configuration, unless they ask for both form factors. -/
theorem overrides_iff (one : ¬ (i.tablet = true ∧ i.phone = true)) : i.Overrides base c ↔ c = i.override base := by
  have forms : ∀ fs, fs = i.forms?.getD base.forms ↔ (i.phone = true → fs = [.phone]) ∧
      (i.tablet = true → fs = [.tablet]) ∧ (i.phone = false → i.tablet = false → fs = base.forms) := by
    intro fs
    unfold forms?
    cases phone : i.phone <;> cases tablet : i.tablet <;> simp [phone, tablet] at one ⊢
  have lists : ∀ {α : Type} (own others : List α),
      (if own = [] then others else own) = if own.isEmpty then others else own := by
    intro α own others
    cases own <;> rfl
  have pretty : c.pretty = (base.pretty || i.pretty) ↔ (c.pretty = true ↔ base.pretty = true ∨ i.pretty = true) := by
    rw [Bool.eq_iff_iff, Bool.or_eq_true]
  constructor
  · intro h
    have same : c.forms = i.forms?.getD base.forms := (forms _).2 ⟨h.phone, h.tablet, h.forms⟩
    rw [override, ← lists, ← lists, ← h.locales, ← h.elements, ← same, ← pretty.2 h.pretty]
  · rintro rfl
    obtain ⟨phone, tablet, neither⟩ := (forms (i.override base).forms).1 rfl
    exact ⟨(lists _ _).symm, (lists _ _).symm, phone, tablet, neither, pretty.1 rfl⟩

/-- No list is empty in what a command line starts from, and none becomes empty. -/
theorem check_override_iff (start : i.StartsFrom files base) :
    (i.override base).check = .ok () ↔ ∀ l ∈ (i.override base).locales, l.tag ∈ Registry.tags := by
  have filled : base.locales ≠ [] ∧ base.forms ≠ [] ∧ base.elements ≠ [] := by
    cases start with
    | everything => decide +kernel
    | file _ _ _ accepted => exact (base.check_eq_ok_iff.1 accepted).1
  obtain ⟨locales, forms, elements⟩ := filled
  rw [DumpConfig.check_eq_ok_iff, and_iff_right]
  refine ⟨?_, ?_, ?_⟩
  · unfold override
    cases i.locales <;> simp [locales]
  · unfold override forms?
    cases i.phone <;> cases i.tablet <;> simp [forms]
  · unfold override
    cases i.elements <;> simp [elements]

theorem startsFrom_everything_iff (unnamed : i.config = none) : i.StartsFrom files base ↔ .everything = base := by
  constructor
  · rintro (- | ⟨named, -, -, -⟩)
    · rfl
    · cases named.symm.trans unnamed
  · rintro rfl
    exact .everything unnamed

theorem startsFrom_file_iff {path : Path} (named : i.config = some path) :
    i.StartsFrom files base ↔ DumpConfig.loadFile files path = .ok base := by
  rw [DumpConfig.loadFile_eq_ok_iff]
  constructor
  · rintro (unnamed | ⟨other, readable, decoded, accepted⟩)
    · cases unnamed.symm.trans named
    · cases other.symm.trans named
      exact ⟨_, readable, decoded, accepted⟩
  · rintro ⟨text, readable, decoded, accepted⟩
    exact .file named readable decoded accepted

theorem effective_eq_ok_iff : i.effective files = .ok c ↔
    ∃ base, i.StartsFrom files base ∧ c = i.override base ∧ ∀ l ∈ c.locales, l.tag ∈ Registry.tags := by
  -- What is left to do once the configuration to start from is there.
  have rest : ∀ base, i.StartsFrom files base → ((do (i.override base).check; return i.override base) = .ok c ↔
      c = i.override base ∧ ∀ l ∈ c.locales, l.tag ∈ Registry.tags) := by
    intro base start
    rw [bind_eq_ok_iff]
    constructor
    · rintro ⟨⟨⟩, accepted, same⟩
      cases same
      exact ⟨rfl, (check_override_iff start).1 accepted⟩
    · rintro ⟨rfl, registered⟩
      exact ⟨(), (check_override_iff start).2 registered, rfl⟩
  unfold effective
  cases config : i.config with
  | none =>
    rw [bind_eq_ok_iff]
    refine exists_congr fun base => ?_
    rw [Except.ok.injEq, ← startsFrom_everything_iff config]
    exact and_congr_right (rest base)
  | some path =>
    rw [bind_eq_ok_iff]
    refine exists_congr fun base => ?_
    rw [← startsFrom_file_iff config]
    exact and_congr_right (rest base)

/-- **Nothing fails once the configuration is there.** -/
theorem dump_eq_ok_iff {output : String} : i.dump files = .ok output ↔ ∃ c, i.effective files = .ok c ∧
    output = dumpText c.pretty (c.requests.filterMap DumpRequest.answer?) ++ "\n" := by
  unfold dump
  rw [bind_eq_ok_iff]
  refine exists_congr fun c => and_congr_right fun effective => ?_
  obtain ⟨base, -, -, registered⟩ := effective_eq_ok_iff.1 effective
  rw [DumpConfig.entries_of_registered registered, bind_eq_ok_iff]
  constructor
  · rintro ⟨entries, ⟨⟩, ⟨⟩⟩
    rfl
  · rintro rfl
    exact ⟨_, rfl, rfl⟩

/-- **What is asked for is done completely or not at all.**  To list the locales, nothing else matters.  To dump, all
that matters is that there is a configuration to start from and that all locales are registered that it selects once the
options are put over it.  Then the program prints the entries of the dump.  Otherwise it fails, and prints nothing. -/
theorem run_all_or_nothing (one : ¬ (i.tablet = true ∧ i.phone = true)) (files : FileAccess Path) :
    (i.list = true → i.run files = ⟨0, String.join (Registry.tags.map (· ++ "\n"))⟩) ∧
    (i.list = false →
      ((i.run files).exit = 0 ↔
        ∃ base c, i.StartsFrom files base ∧ i.Overrides base c ∧ ∀ l ∈ c.locales, l.tag ∈ Registry.tags) ∧
      (∀ base c, i.StartsFrom files base → i.Overrides base c → (∀ l ∈ c.locales, l.tag ∈ Registry.tags) →
        ∃ entries output, c.entries = .ok entries ∧ i.run files = ⟨0, output⟩ ∧ Prints c.pretty entries output) ∧
      ((i.run files).exit ≠ 0 → i.run files = ⟨1, ""⟩)) := by
  -- The outcome of a dump, whatever it is.
  have dumps : ∀ base c, i.StartsFrom files base → i.Overrides base c → (∀ l ∈ c.locales, l.tag ∈ Registry.tags) →
      i.dump files = .ok (dumpText c.pretty (c.requests.filterMap DumpRequest.answer?) ++ "\n") :=
    fun base c start options registered => dump_eq_ok_iff.2
      ⟨c, effective_eq_ok_iff.2 ⟨base, start, (overrides_iff one).1 options, registered⟩, rfl⟩
  have printed : ∀ output, i.list = false → i.dump files = .ok output → i.run files = ⟨0, output⟩ := by
    intro output dumping h
    rw [run, dumping, h]
    rfl
  have failed : ∀ fault, i.list = false → i.dump files = .error fault → i.run files = ⟨1, ""⟩ := by
    intro fault dumping h
    rw [run, dumping, h]
    rfl
  refine ⟨fun listing => ?_, fun dumping => ⟨⟨fun success => ?_, ?_⟩, ?_, fun failure => ?_⟩⟩
  · rw [run, listing]
    rfl
  · cases dumped : i.dump files with
    | error fault => simp [failed fault dumping dumped] at success
    | ok output =>
      obtain ⟨c, effective, -⟩ := dump_eq_ok_iff.1 dumped
      obtain ⟨base, start, options, registered⟩ := effective_eq_ok_iff.1 effective
      exact ⟨base, c, start, (overrides_iff one).2 options, registered⟩
  · rintro ⟨base, c, start, options, registered⟩
    rw [printed _ dumping (dumps base c start options registered)]
  · intro base c start options registered
    exact ⟨_, _, DumpConfig.entries_of_registered registered, printed _ dumping (dumps base c start options registered),
      prints_answers c.pretty c.requests⟩
  · cases dumped : i.dump files with
    | error fault => exact failed fault dumping dumped
    | ok output => simp [printed output dumping dumped] at failure

/-- A configuration in a file whose path is no text: an option replaces its locales, but does not save a file that lists
a locale without a keyboard.  When the locales are listed, a file that cannot be read does not matter. -/
theorem run_all_or_nothing_of_replaced_locale :
    ∃ (dutch german breton : Locale) (i : Invocation (List UInt8)) (file : List Locale → FileAccess (List UInt8))
      (entries : List DumpEntry) (output : String),
      [dutch, german, breton].map Locale.tag = ["nl_NL", "de_DE", "br_FR"] ∧
      i = ⟨[dutch], [], false, true, some [0x63, 0xFF], true, false⟩ ∧
      (∀ ls, ∃ text, (file ls).read [0x63, 0xFF] = .ok text ∧
        DumpConfig.ofText text = .ok ⟨ls, FormFactor.all, [.symbols], false⟩) ∧
      DumpConfig.entries ⟨[dutch], [.phone], [.symbols], true⟩ = .ok entries ∧
      i.run (file [german]) = ⟨0, output⟩ ∧ Prints true entries output ∧
      ((Json.tokens 1 output.toList).map Json.Token.lexeme).take 16 = [.openList, .openObject,
        .scalar (.text "locale"), .colon, .scalar (.text "nl_NL"), .comma,
        .scalar (.text "form_factor"), .colon, .scalar (.text "phone"), .comma,
        .scalar (.text "element"), .colon, .scalar (.text "symbols"), .comma, .scalar (.text "layout"), .colon] ∧
      i.run (file [breton]) = ⟨1, ""⟩ ∧
      Command.run ⟨fun _ => .error .missing, id⟩ ["--list", "--config=c.json"] =
        ⟨0, "en_US\nnl_NL\nde_DE\nfr_FR\nes_ES\ntr_TR\n"⟩ := by
  let dutch : Locale := ⟨"nl", some "NL", by decide +kernel, by decide +kernel⟩
  let german : Locale := ⟨"de", some "DE", by decide +kernel, by decide +kernel⟩
  let breton : Locale := ⟨"br", some "FR", by decide +kernel, by decide +kernel⟩
  let kept (ls : List Locale) : DumpConfig := ⟨ls, FormFactor.all, [.symbols], false⟩
  let file (ls : List Locale) : FileAccess (List UInt8) := ⟨fun _ => .ok (kept ls).toJson.compact, fun _ => ""⟩
  let c : DumpConfig := ⟨[dutch], [.phone], [.symbols], true⟩
  let i : Invocation (List UInt8) := ⟨[dutch], [], false, true, some [0x63, 0xFF], true, false⟩
  have decoded : ∀ ls, DumpConfig.ofText (kept ls).toJson.compact = .ok (kept ls) := fun ls => (kept ls).ofText_compact
  have accepted : (kept [german]).check = .ok () := (kept [german]).check_eq_ok_iff.2 ⟨by decide, by decide +kernel⟩
  have one : ¬ (i.tablet = true ∧ i.phone = true) := by decide
  have overrides : i.Overrides (kept [german]) c := (overrides_iff one).2 rfl
  obtain ⟨-, dumps⟩ := run_all_or_nothing one (file [german])
  obtain ⟨entries, output, dumped, ran, prints⟩ :=
    (dumps rfl).2.1 (kept [german]) c (.file rfl rfl (decoded _) accepted) overrides (by decide +kernel)
  obtain ⟨-, fails⟩ := run_all_or_nothing one (file [breton])
  obtain ⟨succeeds, -, failure⟩ := fails rfl
  have refused : ¬ ∃ base c, i.StartsFrom (file [breton]) base ∧ i.Overrides base c ∧
      ∀ l ∈ c.locales, l.tag ∈ Registry.tags := by
    rintro ⟨base, -, start, -⟩
    cases start with
    | everything unnamed => cases unnamed
    | file named readable read accepted =>
      cases readable
      cases (decoded _).symm.trans read
      exact absurd ((kept [breton]).check_eq_ok_iff.1 accepted).2 (by decide +kernel)
  have listed : Command.invocation ["--list", "--config=c.json"] =
      .ok ⟨[], [], false, false, some "c.json", false, true⟩ := by decide +kernel
  have lists : Command.run ⟨fun _ => .error .missing, id⟩ ["--list", "--config=c.json"] =
      ⟨0, String.join (Registry.tags.map (· ++ "\n"))⟩ := by
    rw [Command.run, listed]
    exact (run_all_or_nothing (Command.not_both_of_invocation listed) _).1 rfl
  obtain ⟨page, rfl⟩ : ∃ page, entries = [⟨⟨dutch, .phone, .symbols⟩, page⟩] := by
    have asked : (c.entries.toOption.map (List.map DumpEntry.request)) = some [⟨dutch, .phone, .symbols⟩] := by
      decide +kernel
    rw [dumped] at asked
    obtain ⟨⟨request, page⟩, rfl, rfl⟩ := List.map_eq_singleton_iff.1 (Option.some.inj asked)
    exact ⟨page, rfl⟩
  exact ⟨dutch, german, breton, i, file, _, output, by decide, rfl, fun ls => ⟨_, rfl, decoded ls⟩, dumped, ran,
    prints, take_lexemes_of_prints prints, failure fun success => refused (succeeds.1 success),
    lists.trans (by decide +kernel)⟩

end Invocation

end ScreenKeyboard
