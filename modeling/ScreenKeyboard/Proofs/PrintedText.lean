import ScreenKeyboard.Proofs.PrintedNumber
/-!
# Tokens of a printed value

A value can be printed in two layouts, which differ in the blanks between the lexemes of the value and in nothing else
(`text_dense`, `text_indented`).  Blanks are passed over, so whatever the layout, what is printed is one JSON text, and
it has the value that was meant (`lexemes_of_printed`).
-/
namespace ScreenKeyboard.Json

/-! ## Reading on -/

/-- Whether some characters are read as some lexemes and the rest, from whatever line. -/
def Reads (cs : List Char) (ls : List Lexeme) (rest : List Char) : Prop :=
  ∀ line, ∃ line', (tokens line cs).map Token.lexeme = ls ++ (tokens line' rest).map Token.lexeme

namespace Reads

variable {a b c : List Char} {ls ls' : List Lexeme}

theorem refl (cs : List Char) : Reads cs [] cs := fun line => ⟨line, rfl⟩

theorem trans (first : Reads a ls b) (second : Reads b ls' c) : Reads a (ls ++ ls') c := by
  intro line
  obtain ⟨line', h⟩ := first line
  obtain ⟨line'', h'⟩ := second line'
  exact ⟨line'', by rw [h, h', List.append_assoc]⟩

theorem token {cs : List Char} {l : Lexeme} (h : ∀ line, tokens line cs = ⟨line, l⟩ :: tokens line a)
    (rest : Reads a ls b) : Reads cs (l :: ls) b := by
  intro line
  obtain ⟨line', same⟩ := rest line
  exact ⟨line', by rw [h, List.map_cons, same, List.cons_append]⟩

theorem mark {m : Char} {l : Lexeme} (h : (m, l) ∈ marks) (rest : Reads a ls b) : Reads (m :: a) (l :: ls) b :=
  .token (fun line => tokens_mark line m l h a) rest

theorem blank {m : Char} (h : isSpacing m = true) (rest : Reads a ls b) : Reads (m :: a) ls b := by
  intro line
  obtain ⟨line', same⟩ := rest (lineAfter line m)
  exact ⟨line', by rw [tokens, if_pos h, same]⟩

theorem blanks : ∀ {cs : List Char}, (∀ c ∈ cs, isSpacing c = true) → Reads a ls b → Reads (cs ++ a) ls b
  | [], _, rest => rest
  | _ :: _, h, rest => .blank (List.forall_mem_cons.1 h).1 (.blanks (List.forall_mem_cons.1 h).2 rest)

end Reads

/-! ## Layouts -/

/-- A way to put blanks between the lexemes of a value: those at the start of a line, and those behind a colon. -/
structure Layout where
  newLine : Nat → String
  gap : String
  newLine_blank : ∀ level, ∀ c ∈ (newLine level).toList, isSpacing c = true
  gap_blank : ∀ c ∈ gap.toList, isSpacing c = true

namespace Layout

mutual

def text (layout : Layout) (level : Nat) : Json → String
  | .list (x :: xs) => "[" ++ layout.newLine (level + 1) ++ layout.text (level + 1) x ++ layout.items level xs
  | .object ((k, x) :: rest) =>
    "\x7b" ++ layout.newLine (level + 1) ++ escaped k ++ ":" ++ layout.gap ++ layout.text (level + 1) x
      ++ layout.members level rest
  | x => scalarText x

def items (layout : Layout) (level : Nat) : List Json → String
  | [] => layout.newLine level ++ "]"
  | x :: xs => "," ++ layout.newLine (level + 1) ++ layout.text (level + 1) x ++ layout.items level xs

def members (layout : Layout) (level : Nat) : List (String × Json) → String
  | [] => layout.newLine level ++ "\x7d"
  | (k, x) :: rest =>
    "," ++ layout.newLine (level + 1) ++ escaped k ++ ":" ++ layout.gap ++ layout.text (level + 1) x
      ++ layout.members level rest

end

def dense : Layout := ⟨fun _ => "", "", nofun, nofun⟩

def indented : Layout where
  newLine := Json.newLine
  gap := " "
  newLine_blank level c h := by
    rw [Json.newLine, String.toList_append] at h
    rcases List.mem_append.1 h with h | h
    · obtain rfl : c = '\n' := List.mem_singleton.1 h
      rfl
    · rw [String.toList_ofList] at h
      rw [List.eq_of_mem_replicate h]
      rfl
  gap_blank c h := by
    obtain rfl : c = ' ' := List.mem_singleton.1 h
    rfl

mutual

theorem text_dense (level : Nat) : ∀ v : Json, dense.text level v = v.compact
  | .null => rfl
  | .bool _ => rfl
  | .int _ => rfl
  | .text _ => rfl
  | .list [] => rfl
  | .list (x :: xs) => by
    rw [text, compact, text_dense (level + 1) x, items_dense level xs, dense, String.append_empty]
  | .object [] => rfl
  | .object ((k, x) :: rest) => by
    rw [text, compact, text_dense (level + 1) x, members_dense level rest, dense, String.append_empty,
      String.append_empty]

theorem items_dense (level : Nat) : ∀ xs : List Json, dense.items level xs = compactItems xs
  | [] => rfl
  | x :: xs => by
    rw [items, compactItems, text_dense (level + 1) x, items_dense level xs, dense, String.append_empty]

theorem members_dense (level : Nat) : ∀ ms : List (String × Json), dense.members level ms = compactMembers ms
  | [] => rfl
  | (k, x) :: rest => by
    rw [members, compactMembers, text_dense (level + 1) x, members_dense level rest, dense, String.append_empty,
      String.append_empty]

end

theorem append_colon (s : String) : s ++ ": " = s ++ ":" ++ indented.gap := by
  rw [String.append_assoc]
  rfl

mutual

theorem text_indented (level : Nat) : ∀ v : Json, indented.text level v = prettyAt level v
  | .null => rfl
  | .bool _ => rfl
  | .int _ => rfl
  | .text _ => rfl
  | .list [] => rfl
  | .list (x :: xs) => by
    rw [text, prettyAt, text_indented (level + 1) x, items_indented level xs]
    rfl
  | .object [] => rfl
  | .object ((k, x) :: rest) => by
    rw [text, prettyAt, text_indented (level + 1) x, members_indented level rest, append_colon]
    rfl

theorem items_indented (level : Nat) : ∀ xs : List Json, indented.items level xs = prettyItems level xs
  | [] => rfl
  | x :: xs => by
    rw [items, prettyItems, text_indented (level + 1) x, items_indented level xs]
    rfl

theorem members_indented (level : Nat) : ∀ ms : List (String × Json), indented.members level ms = prettyMembers level ms
  | [] => rfl
  | (k, x) :: rest => by
    rw [members, prettyMembers, text_indented (level + 1) x, members_indented level rest, append_colon]
    rfl

end

end Layout

/-! ## Reading a layout -/

/-- **A value whose numbers all fit 64 bits**, however deep it is. -/
inductive Fits : Json → Prop
  | null : Fits .null
  | bool (b : Bool) : Fits (.bool b)
  | int {n : Int} (small : n.natAbs < Nat.pow 2 63) : Fits (.int n)
  | text (s : String) : Fits (.text s)
  | list {items : List Json} (h : ∀ x ∈ items, Fits x) : Fits (.list items)
  | object {members : List (String × Json)} (h : ∀ m ∈ members, Fits m.2) : Fits (.object members)

namespace Layout

/-- Whether a value is read from its text at every level, wherever no number can go on behind it. -/
def Readable (layout : Layout) (v : Json) : Prop :=
  ∀ level rest, Fresh rest → Reads ((layout.text level v).toList ++ rest) (lexemes v) rest

variable (layout : Layout)

theorem fresh_items (level : Nat) (xs : List Json) (rest : List Char) :
    Fresh ((layout.items level xs).toList ++ rest) := by
  cases xs with
  | nil =>
    have close : "]".toList = [']'] := rfl
    rw [items, String.toList_append, close, List.append_assoc]
    exact fresh_blanks (layout.newLine_blank level) (fresh_mark .closeList (by decide) _)
  | cons x xs =>
    have comma : ",".toList = [','] := rfl
    rw [items]
    simp only [String.toList_append, comma, List.cons_append, List.nil_append]
    exact fresh_mark .comma (by decide) _

theorem fresh_members (level : Nat) (ms : List (String × Json)) (rest : List Char) :
    Fresh ((layout.members level ms).toList ++ rest) := by
  cases ms with
  | nil =>
    have close : "\x7d".toList = ['}'] := rfl
    rw [members, String.toList_append, close, List.append_assoc]
    exact fresh_blanks (layout.newLine_blank level) (fresh_mark .closeObject (by decide) _)
  | cons m ms =>
    have comma : ",".toList = [','] := rfl
    rw [members]
    simp only [String.toList_append, comma, List.cons_append, List.nil_append]
    exact fresh_mark .comma (by decide) _

theorem reads_items (level : Nat) (rest : List Char) : ∀ xs : List Json, (∀ x ∈ xs, layout.Readable x) →
    Reads ((layout.items level xs).toList ++ rest) (lexemesAfterItem xs) rest
  | [], _ => by
    have close : "]".toList = [']'] := rfl
    rw [items, String.toList_append, close, List.append_assoc]
    exact .blanks (layout.newLine_blank level) (.mark (by decide) (.refl rest))
  | x :: xs, h => by
    obtain ⟨hx, hxs⟩ := List.forall_mem_cons.1 h
    have comma : ",".toList = [','] := rfl
    rw [items]
    simp only [String.toList_append, comma, List.append_assoc, List.cons_append, List.nil_append]
    have first := hx (level + 1) _ (layout.fresh_items level xs rest)
    exact .mark (by decide) (.blanks (layout.newLine_blank _) (first.trans (reads_items level rest xs hxs)))

/-- The key of a member, its colon and its value. -/
theorem reads_member (level : Nat) (k : String) {x : Json} (readable : layout.Readable x) {a rest : List Char}
    {ls : List Lexeme} (fresh : Fresh a) (following : Reads a ls rest) :
    Reads ((escaped k).toList ++ ':' :: (layout.gap.toList ++ ((layout.text level x).toList ++ a)))
      (.scalar (.text k) :: .colon :: (lexemes x ++ ls)) rest :=
  .token (fun line => tokens_escaped line k _)
    (.mark (by decide) (.blanks layout.gap_blank ((readable level a fresh).trans following)))

theorem reads_members (level : Nat) (rest : List Char) : ∀ ms : List (String × Json), (∀ m ∈ ms, layout.Readable m.2) →
    Reads ((layout.members level ms).toList ++ rest) (lexemesAfterMember ms) rest
  | [], _ => by
    have close : "\x7d".toList = ['}'] := rfl
    rw [members, String.toList_append, close, List.append_assoc]
    exact .blanks (layout.newLine_blank level) (.mark (by decide) (.refl rest))
  | (k, x) :: ms, h => by
    obtain ⟨hx, hms⟩ := List.forall_mem_cons.1 h
    have comma : ",".toList = [','] := rfl
    have colon : ":".toList = [':'] := rfl
    rw [members]
    simp only [String.toList_append, comma, colon, List.append_assoc, List.cons_append, List.nil_append]
    have member := layout.reads_member (level + 1) k hx (layout.fresh_members level ms rest)
      (reads_members level rest ms hms)
    exact .mark (by decide) (.blanks (layout.newLine_blank _) member)

/-- **Every layout of a value is read as the lexemes of the value.** -/
theorem readable {v : Json} (fits : Fits v) : layout.Readable v := by
  induction fits with
  | null =>
    intro _ rest _
    show Reads ("null".toList ++ rest) [.scalar .null] rest
    refine .token (fun line => ?_) (.refl rest)
    exact tokens_of_lexeme line rfl rfl nofun
  | bool b =>
    intro _ rest _
    cases b with
    | true =>
      show Reads ("true".toList ++ rest) [.scalar (.bool true)] rest
      refine .token (fun line => ?_) (.refl rest)
      exact tokens_of_lexeme line rfl rfl nofun
    | false =>
      show Reads ("false".toList ++ rest) [.scalar (.bool false)] rest
      refine .token (fun line => ?_) (.refl rest)
      exact tokens_of_lexeme line rfl rfl nofun
  | int small => exact fun _ rest fresh => .token (fun line => tokens_int line small fresh) (.refl rest)
  | text s => exact fun _ rest _ => .token (fun line => tokens_escaped line s rest) (.refl rest)
  | @list xs _ ih =>
    intro level rest _
    cases xs with
    | nil =>
      show Reads ("[]".toList ++ rest) [.openList, .closeList] rest
      exact .mark (by decide) (.mark (by decide) (.refl rest))
    | cons x xs =>
      obtain ⟨hx, hxs⟩ := List.forall_mem_cons.1 ih
      have opening : "[".toList = ['['] := rfl
      rw [text]
      simp only [String.toList_append, opening, List.append_assoc, List.cons_append, List.nil_append]
      have first := hx (level + 1) _ (layout.fresh_items level xs rest)
      exact .mark (by decide) (.blanks (layout.newLine_blank _) (first.trans (layout.reads_items level rest xs hxs)))
  | @object ms _ ih =>
    intro level rest _
    cases ms with
    | nil =>
      show Reads ("\x7b\x7d".toList ++ rest) [.openObject, .closeObject] rest
      exact .mark (by decide) (.mark (by decide) (.refl rest))
    | cons m ms =>
      obtain ⟨k, x⟩ := m
      obtain ⟨hx, hms⟩ := List.forall_mem_cons.1 ih
      have opening : "\x7b".toList = ['{'] := rfl
      have colon : ":".toList = [':'] := rfl
      rw [text]
      simp only [String.toList_append, opening, colon, List.append_assoc, List.cons_append, List.nil_append]
      have member := layout.reads_member (level + 1) k hx (layout.fresh_members level ms rest)
        (layout.reads_members level rest ms hms)
      exact .mark (by decide) (.blanks (layout.newLine_blank _) member)

end Layout

/-- **A printed value is one JSON text**: in either layout, with a line break behind it, its tokens are those of the
value and nothing more. -/
theorem lexemes_of_printed {v : Json} (fits : Fits v) (indent : Bool) :
    (tokens 1 ((if indent then v.pretty else v.compact) ++ "\n").toList).map Token.lexeme = lexemes v ++ [.stop] := by
  have either : ∃ layout : Layout, (if indent then v.pretty else v.compact) = layout.text 0 v := by
    cases indent with
    | true => exact ⟨.indented, (Layout.text_indented 0 v).symm⟩
    | false => exact ⟨.dense, (Layout.text_dense 0 v).symm⟩
  obtain ⟨layout, printed⟩ := either
  have lineBreak : "\n".toList = ['\n'] := rfl
  obtain ⟨line, read⟩ := layout.readable fits 0 ['\n'] (fresh_blank rfl _) 1
  have ended : (tokens line ['\n']).map Token.lexeme = [.stop] := by
    rw [tokens, if_pos (by decide), tokens]
    rfl
  rw [printed, String.toList_append, lineBreak, read, ended]

end ScreenKeyboard.Json
