import ScreenKeyboard.Dump
import ScreenKeyboard.Proofs.WrittenDefinition
/-!
# Written configurations

The configuration of a dump is a record like a definition, but every field is always written, also one that selects
nothing.  So what a field is before it is read plays no part, and a configuration is read back as it was.  With
definitions these are all the formats that are both written and read (`definitions_and_configs_read_back`).
-/
namespace ScreenKeyboard

open Json.Node

/-! ## Names -/

theorem FormFactor.lookup_name (form : FormFactor) : (all.map fun f => (f.name, f)).lookup form.name = some form := by
  cases form <;> decide

theorem Element.lookup_name (element : Element) :
    (all.map fun e => (e.name, e)).lookup element.name = some element := by
  cases element with
  | shifted state => cases state <;> decide
  | _ => decide

/-! ## Configurations -/

namespace DumpConfig

/-- No field is left out. -/
theorem toJson_eq_ofMembers (c : DumpConfig) : c.toJson = .ofMembers [
    some ("locales", .list (c.locales.map fun l => .text l.tag)),
    some ("form_factors", .list (c.forms.map fun f => .text f.name)),
    some ("elements", .list (c.elements.map fun e => .text e.name)),
    some ("pretty", .bool c.pretty)] := rfl

theorem exists_fills {room : Nat} (c : DumpConfig) :
    ∃ members, c.toJson = .ofMembers members ∧ Fills (room + 1) shape set shape.fields everything members c := by
  have locales : Faithful (room + 1) (asList Locale.ofNode) (fun ls => .list (ls.map fun l => .text l.tag)) :=
    Locale.faithful.list
  have forms : Faithful (room + 1) (asList FormFactor.ofNode) (fun fs => .list (fs.map fun f => .text f.name)) :=
    (faithful_choice FormFactor.lookup_name).list
  have elements : Faithful (room + 1) (asList Element.ofNode) (fun es => .list (es.map fun e => .text e.name)) :=
    (faithful_choice Element.lookup_name).list
  refine ⟨_, c.toJson_eq_ofMembers, ?_⟩
  refine .always (fun c v => { c with locales := v }) locales (fun _ => rfl) _ ?_
  refine .always (fun c v => { c with forms := v }) forms (fun _ => rfl) _ ?_
  refine .always (fun c v => { c with elements := v }) elements (fun _ => rfl) _ ?_
  refine .always (fun c v => { c with pretty := v }) faithful_bool (fun _ => rfl) _ ?_
  exact .done c

/-- **A configuration is read back.** -/
theorem faithful {room : Nat} : Faithful (room + 2) ofNode toJson :=
  faithful_record (by decide) nofun exists_fills

theorem ofText_compact (c : DumpConfig) : ofText c.toJson.compact = .ok c := by
  have read := Json.decodeText_compact ofNode ((@faithful 125).nests c)
  rw [ofText, read, (@faithful 0).reads c]
  rfl

end DumpConfig

/-- **Every definition and every configuration is read back as it was written**, from its JSON value and from the text
of that value. -/
theorem definitions_and_configs_read_back :
    (∀ d : Definition,
      Definition.ofNode (ofJson d.toJson) = .ok d ∧ Definition.ofText d.toJson.compact = .ok d) ∧
    ∀ c : DumpConfig,
      DumpConfig.ofNode (ofJson c.toJson) = .ok c ∧ DumpConfig.ofText c.toJson.compact = .ok c := by
  constructor
  · intro d
    exact ⟨(@Definition.faithful 0).reads d, d.ofText_compact⟩
  · intro c
    exact ⟨(@DumpConfig.faithful 0).reads c, c.ofText_compact⟩

end ScreenKeyboard
