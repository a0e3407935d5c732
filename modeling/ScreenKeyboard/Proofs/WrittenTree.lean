import ScreenKeyboard.Json.Decode
import ScreenKeyboard.Proofs.WrittenText
/-!
# Trees of written values

The lexemes of a value build the tree of the value: reading starts where a value is called for, and when the last lexeme
of the value is read the tree goes where it was waited for (`build_lexemes`).  With the cut of the text into lexemes this
makes writing and reading inverse (`ofText_compact`), for values that are not nested too deep.
-/
namespace ScreenKeyboard.Json.Node

/-- The tokens of a text that all stand on the first line; there is always one, for a text ends in a token. -/
def OnFirstLine (ts : List Token) : Prop := ts ≠ [] ∧ ∀ t ∈ ts, t.line = 1

theorem onFirstLine_append (ls : List Lexeme) {rest : List Token} (h : OnFirstLine rest) :
    OnFirstLine (onLine 1 ls ++ rest) := by
  refine ⟨fun e => h.1 (List.append_eq_nil_iff.1 e).2, fun t ht => ?_⟩
  rcases List.mem_append.1 ht with ht | ht
  · obtain ⟨l, -, rfl⟩ := List.mem_map.1 ht
    rfl
  · exact h.2 t ht

theorem nextLine_eq_one {ts : List Token} (h : OnFirstLine ts) : nextLine ts = 1 := by
  cases ts with
  | nil => exact absurd rfl h.1
  | cons t ts => exact h.2 t List.mem_cons_self

theorem lineAfterComma_eq_one {ts : List Token} (h : OnFirstLine ts) : lineAfterComma ts = 1 := by
  unfold lineAfterComma
  split
  · rename_i t _
    exact h.2 t (by simp)
  · exact nextLine_eq_one h

/-- Going on after a value, which goes where it was waited for. -/
def goOn (node : Node) (rest : List Token) (stack : List Frame) : Document :=
  build (put node rest stack).1 (put node rest stack).2 rest

theorem goOn_list {rest : List Token} (h : OnFirstLine rest) (node : Node) (done : List (Item Node))
    (stack : List Frame) :
    goOn node rest (.list 1 done :: stack) = build (.listRest 1 (⟨node, 1⟩ :: done)) stack rest := by
  rw [goOn, put, lineAfterComma_eq_one h]

theorem goOn_member {rest : List Token} (h : OnFirstLine rest) (node : Node) (done : List (Member Node)) (key : String)
    (stack : List Frame) :
    goOn node rest (.member 1 done 1 key 1 :: stack) =
      build (.objectRest 1 (⟨1, key, 1, node, 1⟩ :: done)) stack rest := by
  rw [goOn, put, nextLine_eq_one h]

/-- The first lexeme of a value neither closes a list nor ends the text. -/
theorem exists_lexemes_eq_cons : ∀ v : Json, ∃ l ls, lexemes v = l :: ls ∧ l ≠ .closeList ∧ l ≠ .stop
  | .null => ⟨_, _, rfl, nofun, nofun⟩
  | .bool _ => ⟨_, _, rfl, nofun, nofun⟩
  | .int _ => ⟨_, _, rfl, nofun, nofun⟩
  | .text _ => ⟨_, _, rfl, nofun, nofun⟩
  | .list [] => ⟨_, _, rfl, nofun, nofun⟩
  | .list (_ :: _) => ⟨_, _, rfl, nofun, nofun⟩
  | .object [] => ⟨_, _, rfl, nofun, nofun⟩
  | .object (_ :: _) => ⟨_, _, rfl, nofun, nofun⟩

theorem build_item (v : Json) (done : List (Item Node)) (stack : List Frame) (rest : List Token) :
    build (.item 1 done) stack (onLine 1 (lexemes v) ++ rest) =
      build .value (.list 1 done :: stack) (onLine 1 (lexemes v) ++ rest) := by
  obtain ⟨l, ls, hl, notClose, notStop⟩ := exists_lexemes_eq_cons v
  rw [hl, onLine_cons, List.cons_append, build, build]
  have same : step (.item 1 done) stack ⟨1, l⟩ (onLine 1 ls ++ rest) =
      step .value (.list 1 done :: stack) ⟨1, l⟩ (onLine 1 ls ++ rest) := by
    unfold step
    dsimp only
    split
    · exact absurd rfl notClose
    · exact absurd rfl notClose
    · exact absurd rfl notStop
    · rfl
  rw [same]

/-! ## Lists and objects -/

/-- Whether the lexemes of a value build the tree of the value, wherever so many more lists and objects may be open. -/
def Builds (room : Nat) (v : Json) : Prop :=
  ∀ stack rest, stack.length + room ≤ maxOpen → OnFirstLine rest →
    build .value stack (onLine 1 (lexemes v) ++ rest) = goOn (ofJson v) rest stack

theorem build_items {room : Nat} {stack : List Frame} {rest : List Token} (shallow : stack.length + 1 + room ≤ maxOpen)
    (h : OnFirstLine rest) : ∀ (items : List Json) (done : List (Item Node)), (∀ x ∈ items, Builds room x) →
      build (.listRest 1 done) stack (onLine 1 (lexemesAfterItem items) ++ rest) =
        goOn (.list 1 (done.reverse ++ ofItems items) (.closed 1)) rest stack
  | [], done, _ => by
    rw [ofItems, List.append_nil]
    rfl
  | x :: xs, done, builds => by
    obtain ⟨hx, hxs⟩ := List.forall_mem_cons.1 builds
    have following := onFirstLine_append (lexemesAfterItem xs) h
    have comma : ∀ ts, build (.listRest 1 done) stack (⟨1, .comma⟩ :: ts) = build (.item 1 done) stack ts := fun _ => rfl
    rw [lexemesAfterItem, onLine_cons, onLine_append, List.cons_append, List.append_assoc, comma, build_item,
      hx (.list 1 done :: stack) _ shallow following, goOn_list following, build_items shallow h xs _ hxs,
      List.reverse_cons, List.append_assoc, ofItems]
    rfl

theorem build_members {room : Nat} {stack : List Frame} {rest : List Token}
    (shallow : stack.length + 1 + room ≤ maxOpen) (h : OnFirstLine rest) :
    ∀ (members : List (String × Json)) (done : List (Member Node)), (∀ m ∈ members, Builds room m.2) →
      build (.objectRest 1 done) stack (onLine 1 (lexemesAfterMember members) ++ rest) =
        goOn (.object 1 (done.reverse ++ ofMembers members) (.closed 1)) rest stack
  | [], done, _ => by
    rw [ofMembers, List.append_nil]
    rfl
  | (key, x) :: ms, done, builds => by
    obtain ⟨hx, hms⟩ := List.forall_mem_cons.1 builds
    have following := onFirstLine_append (lexemesAfterMember ms) h
    have named : ∀ ts, build (.objectRest 1 done) stack (⟨1, .comma⟩ :: ⟨1, .scalar (.text key)⟩ :: ⟨1, .colon⟩ :: ts) =
        build .value (.member 1 done 1 key 1 :: stack) ts := fun _ => rfl
    rw [lexemesAfterMember]
    simp only [onLine_cons, onLine_append, List.cons_append, List.append_assoc]
    rw [named, hx (.member 1 done 1 key 1 :: stack) _ shallow following, goOn_member following,
      build_members shallow h ms _ hms, List.reverse_cons, List.append_assoc, ofMembers]
    rfl

/-- **The lexemes of a value build the tree of the value.** -/
theorem build_lexemes {room : Nat} {v : Json} (nests : Nests room v) : Builds room v := by
  induction nests with
  | null => exact fun _ _ _ _ => rfl
  | bool b => exact fun _ _ _ _ => rfl
  | text s => exact fun _ _ _ _ => rfl
  | @list room items h ih =>
    intro stack rest shallow first
    have opens : stack.length < maxOpen := by omega
    have opening : ∀ ts, build .value stack (⟨1, .openList⟩ :: ts) = build (.item 1 []) stack ts := by
      intro ts
      rw [build, step, startValue]
      simp only [opens, if_true]
    cases items with
    | nil =>
      show build .value stack (⟨1, .openList⟩ :: ⟨1, .closeList⟩ :: rest) = _
      rw [opening]
      rfl
    | cons x xs =>
      obtain ⟨hx, hxs⟩ := List.forall_mem_cons.1 ih
      have following := onFirstLine_append (lexemesAfterItem xs) first
      have deeper : stack.length + 1 + room ≤ maxOpen := by omega
      rw [lexemes, onLine_cons, onLine_append, List.cons_append, List.append_assoc, opening, build_item,
        hx (.list 1 [] :: stack) _ deeper following, goOn_list following, build_items deeper first xs _ hxs, ofJson,
        ofItems]
      rfl
  | @object room members h ih =>
    intro stack rest shallow first
    have opens : stack.length < maxOpen := by omega
    have opening : ∀ ts, build .value stack (⟨1, .openObject⟩ :: ts) = build (.firstKey 1) stack ts := by
      intro ts
      rw [build, step, startValue]
      simp only [opens, if_true]
    cases members with
    | nil =>
      show build .value stack (⟨1, .openObject⟩ :: ⟨1, .closeObject⟩ :: rest) = _
      rw [opening]
      rfl
    | cons m ms =>
      obtain ⟨key, x⟩ := m
      obtain ⟨hx, hms⟩ := List.forall_mem_cons.1 ih
      have following := onFirstLine_append (lexemesAfterMember ms) first
      have deeper : stack.length + 1 + room ≤ maxOpen := by omega
      have named : ∀ ts, build (.firstKey 1) stack (⟨1, .scalar (.text key)⟩ :: ⟨1, .colon⟩ :: ts) =
          build .value (.member 1 [] 1 key 1 :: stack) ts := fun _ => rfl
      rw [lexemes]
      simp only [onLine_cons, onLine_append, List.cons_append, List.append_assoc]
      rw [opening, named, hx (.member 1 [] 1 key 1 :: stack) _ deeper following, goOn_member following,
        build_members deeper first ms _ hms, ofJson, ofMembers]
      rfl

end ScreenKeyboard.Json.Node

namespace ScreenKeyboard.Json

/-- **The tree of the text of a value is the tree of the value**, if its lists and objects are not nested too deep. -/
theorem Document.ofText_compact {v : Json} (nests : Nests Node.maxOpen v) :
    Document.ofText (compact v) = ⟨Node.ofJson v, none⟩ := by
  have last : Node.OnFirstLine (tokens 1 []) := by
    rw [tokens]
    exact ⟨List.cons_ne_nil _ _, by simp⟩
  have cut := tokens_compact nests 1 []
  rw [List.append_nil] at cut
  rw [Document.ofText, cut, Node.build_lexemes nests [] _ (Nat.le_of_eq (Nat.zero_add _)) last, tokens]
  rfl

theorem decodeText_compact {α : Type} (read : Node → Decoded α) {v : Json} (nests : Nests Node.maxOpen v) :
    decodeText read (compact v) = read (Node.ofJson v) := by
  rw [decodeText, Document.ofText_compact nests, Document.read]
  cases read (Node.ofJson v) <;> rfl

end ScreenKeyboard.Json
