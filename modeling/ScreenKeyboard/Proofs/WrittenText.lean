import ScreenKeyboard.Json.Node
/-!
# Tokens of a written value

The text of a value is cut into tokens again as it was put together: each mark, each word and each escaped text is one
token, and what comes after it does not matter (`tokens_compact`).  So the text of a value can be replaced by its
lexemes.  Numbers are not looked at, for no format that is read back has any.
-/
namespace ScreenKeyboard.Json

/-! ## Escaped texts -/

theorem readHexWord_digits (line : Nat) {n : Nat} (h : n < 0x20) (rest : List Char) :
    readHexWord line ('0' :: '0' :: Nat.digitChar (n / 16) :: Nat.digitChar (n % 16) :: rest) = (.ok n, rest) := by
  have digits : ∀ n < 0x20, hexWord? '0' '0' (Nat.digitChar (n / 16)) (Nat.digitChar (n % 16)) = some n ∧
      byteCount ['0', '0', Nat.digitChar (n / 16), Nat.digitChar (n % 16)] = 4 := by decide +kernel
  obtain ⟨word, size⟩ := digits n h
  unfold readHexWord
  simp only [List.take_succ_cons, List.take_zero, size, word, Nat.lt_irrefl, if_false]

theorem readEscape_control (line : Nat) {c : Char} (h : c.toNat < 0x20) (rest : List Char) :
    readEscape line ('u' :: '0' :: '0' :: Nat.digitChar (c.toNat / 16) :: Nat.digitChar (c.toNat % 16) :: rest) =
      (.ok c, rest) := by
  have single : isTrailing c.toNat = false ∧ isLeading c.toNat = false := by
    constructor
    · simp only [isTrailing, Bool.and_eq_false_iff, decide_eq_false_iff_not]
      omega
    · simp only [isLeading, Bool.and_eq_false_iff, decide_eq_false_iff_not]
      omega
  rw [readEscape, if_pos rfl, readByNumber, readHexWord_digits line h]
  simp only [single, Bool.false_eq_true, if_false, Char.ofNat_toNat]

/-- **A character that was escaped is read as itself**, and reading goes on behind it. -/
theorem readText_escapedChar (line : Nat) (done : List Char) (c : Char) (rest : List Char) :
    readText line done (escapedChar c ++ rest) = readText line (c :: done) rest := by
  have escape : ∀ (letter d : Char) (cs : List Char), readEscape line (letter :: cs) = (.ok d, rest) →
      readText line done ('\\' :: letter :: cs) = readText line (d :: done) rest := by
    intro letter d cs h
    rw [readText, if_neg (by decide), if_pos rfl]
    simp only [h]
  have short : ∀ n : Nat, ∀ d : Char, c.toNat = n → d.toNat = n → c = d := by
    intro n d hc hd
    rw [← Char.ofNat_toNat c, hc, ← hd, Char.ofNat_toNat]
  unfold escapedChar
  split
  · subst c
    exact escape '"' '"' rest rfl
  split
  · subst c
    exact escape '\\' '\\' rest rfl
  split
  · rename_i h
    rw [short _ '\x08' h rfl]
    exact escape 'b' '\x08' rest rfl
  split
  · rename_i h
    rw [short _ '\t' h rfl]
    exact escape 't' '\t' rest rfl
  split
  · rename_i h
    rw [short _ '\n' h rfl]
    exact escape 'n' '\n' rest rfl
  split
  · rename_i h
    rw [short _ '\x0C' h rfl]
    exact escape 'f' '\x0C' rest rfl
  split
  · rename_i h
    rw [short _ '\r' h rfl]
    exact escape 'r' '\r' rest rfl
  split
  · rename_i h
    exact escape 'u' c _ (readEscape_control line h rest)
  · rename_i quote backslash _ _ _ _ _ printable
    rw [List.singleton_append, readText, if_neg quote, if_neg backslash, if_neg printable]

theorem readText_escapedChars (line : Nat) (rest : List Char) : ∀ (s done : List Char),
    readText line done (s.flatMap escapedChar ++ '"' :: rest) =
      (.ok (.text (String.ofList (done.reverse ++ s))), rest)
  | [], done => by
    rw [List.flatMap_nil, List.nil_append, readText, if_pos rfl, List.append_nil]
  | c :: s, done => by
    rw [List.flatMap_cons, List.append_assoc, readText_escapedChar, readText_escapedChars line rest s,
      List.reverse_cons, List.append_assoc, List.singleton_append]

/-! ## Tokens -/

theorem tokens_of_lexeme (line : Nat) {c : Char} {cs rest : List Char} {lexeme : Lexeme} (notBlank : isSpacing c = false)
    (reading : readLexeme line c cs = (lexeme, rest)) (sound : ∀ lead fault, lexeme ≠ .bad lead fault) :
    tokens line (c :: cs) = ⟨line, lexeme⟩ :: tokens line rest := by
  rw [tokens, notBlank]
  simp only [Bool.false_eq_true, if_false, reading]

theorem tokens_mark (line : Nat) (c : Char) (mark : Lexeme) (h : (c, mark) ∈ marks) (cs : List Char) :
    tokens line (c :: cs) = ⟨line, mark⟩ :: tokens line cs := by
  have looked : ∀ m ∈ marks, marks.lookup m.1 = some m.2 ∧ isSpacing m.1 = false := by decide +kernel
  have sound : ∀ m ∈ marks, ∀ lead fault, m.2 ≠ .bad lead fault := by simp [marks]
  have reading : readLexeme line c cs = (mark, cs) := by rw [readLexeme, (looked _ h).1]
  exact tokens_of_lexeme line (looked _ h).2 reading (sound _ h)

/-- An escaped text is one token, which holds the text. -/
theorem tokens_escaped (line : Nat) (s : String) (rest : List Char) :
    tokens line ((escaped s).toList ++ rest) = ⟨line, .scalar (.text s)⟩ :: tokens line rest := by
  have reading : readLexeme line '"' (s.toList.flatMap escapedChar ++ '"' :: rest) = (.scalar (.text s), rest) := by
    have noMark : marks.lookup '"' = none := rfl
    simp only [readLexeme, noMark, readScalar, if_true, readText_escapedChars, List.reverse_nil, List.nil_append,
      String.ofList_toList]
  rw [escaped, String.toList_ofList]
  simp only [List.cons_append, List.append_assoc, List.nil_append]
  exact tokens_of_lexeme line rfl reading nofun

/-! ## Lexemes of a value -/

mutual

/-- What the text of a value consists of, in order. -/
def lexemes : Json → List Lexeme
  | .null => [.scalar .null]
  | .bool b => [.scalar (.bool b)]
  | .int n => [.scalar (.int n)]
  | .text s => [.scalar (.text s)]
  | .list [] => [.openList, .closeList]
  | .list (x :: xs) => .openList :: (lexemes x ++ lexemesAfterItem xs)
  | .object [] => [.openObject, .closeObject]
  | .object ((k, x) :: rest) =>
    .openObject :: .scalar (.text k) :: .colon :: (lexemes x ++ lexemesAfterMember rest)

def lexemesAfterItem : List Json → List Lexeme
  | [] => [.closeList]
  | x :: xs => .comma :: (lexemes x ++ lexemesAfterItem xs)

def lexemesAfterMember : List (String × Json) → List Lexeme
  | [] => [.closeObject]
  | (k, x) :: rest => .comma :: .scalar (.text k) :: .colon :: (lexemes x ++ lexemesAfterMember rest)

end

/-- **A value without numbers** whose lists and objects are nested no deeper than so many levels. -/
inductive Nests : Nat → Json → Prop
  | null {room : Nat} : Nests room .null
  | bool {room : Nat} (b : Bool) : Nests room (.bool b)
  | text {room : Nat} (s : String) : Nests room (.text s)
  | list {room : Nat} {items : List Json} (h : ∀ x ∈ items, Nests room x) : Nests (room + 1) (.list items)
  | object {room : Nat} {members : List (String × Json)} (h : ∀ m ∈ members, Nests room m.2) :
    Nests (room + 1) (.object members)

/-- Lexemes that all stand on one line. -/
def onLine (line : Nat) (ls : List Lexeme) : List Token := ls.map (Token.mk line)

theorem onLine_cons (line : Nat) (l : Lexeme) (ls : List Lexeme) : onLine line (l :: ls) = ⟨line, l⟩ :: onLine line ls :=
  rfl

theorem onLine_append (line : Nat) (a b : List Lexeme) : onLine line (a ++ b) = onLine line a ++ onLine line b :=
  List.map_append

/-! ## Texts of values -/

/-- Whether the text of a value is cut into its lexemes, whatever comes after it. -/
def Cut (line : Nat) (x : Json) : Prop :=
  ∀ rest, tokens line ((compact x).toList ++ rest) = onLine line (lexemes x) ++ tokens line rest

theorem tokens_compactItems (line : Nat) : ∀ (items : List Json), (∀ x ∈ items, Cut line x) → ∀ rest,
    tokens line ((compactItems items).toList ++ rest) = onLine line (lexemesAfterItem items) ++ tokens line rest
  | [], _, rest => tokens_mark line _ _ (by decide) rest
  | x :: xs, h, rest => by
    obtain ⟨hx, hxs⟩ := List.forall_mem_cons.1 h
    have comma : ",".toList = [','] := rfl
    rw [compactItems, String.toList_append, String.toList_append, comma]
    simp only [List.append_assoc, List.cons_append, List.nil_append]
    rw [tokens_mark line ',' .comma (by decide), hx, tokens_compactItems line xs hxs rest, lexemesAfterItem,
      onLine_cons, onLine_append, List.cons_append, List.append_assoc]

theorem tokens_compactMembers (line : Nat) : ∀ (members : List (String × Json)), (∀ m ∈ members, Cut line m.2) → ∀ rest,
    tokens line ((compactMembers members).toList ++ rest) = onLine line (lexemesAfterMember members) ++ tokens line rest
  | [], _, rest => tokens_mark line _ _ (by decide) rest
  | (k, x) :: ms, h, rest => by
    obtain ⟨hx, hms⟩ := List.forall_mem_cons.1 h
    have comma : ",".toList = [','] := rfl
    have colon : ":".toList = [':'] := rfl
    rw [compactMembers]
    simp only [String.toList_append, comma, colon, List.append_assoc, List.cons_append, List.nil_append]
    rw [tokens_mark line ',' .comma (by decide), tokens_escaped, tokens_mark line ':' .colon (by decide), hx,
      tokens_compactMembers line ms hms rest, lexemesAfterMember, onLine_cons, onLine_cons, onLine_cons, onLine_append]
    simp only [List.cons_append, List.append_assoc]

/-- **The text of a value is cut into the lexemes of the value**, whatever comes after it. -/
theorem tokens_compact {room : Nat} {v : Json} (nests : Nests room v) (line : Nat) : Cut line v := by
  induction nests with
  | null => exact fun rest => tokens_of_lexeme line rfl rfl nofun
  | bool b =>
    intro rest
    cases b with
    | true => exact tokens_of_lexeme line rfl rfl nofun
    | false => exact tokens_of_lexeme line rfl rfl nofun
  | text s => exact fun rest => tokens_escaped line s rest
  | @list room items h ih =>
    intro rest
    cases items with
    | nil =>
      have text : (compact (.list [])).toList = ['[', ']'] := rfl
      rw [text, List.cons_append, List.singleton_append, tokens_mark line '[' .openList (by decide),
        tokens_mark line ']' .closeList (by decide)]
      rfl
    | cons x xs =>
      obtain ⟨hx, hxs⟩ := List.forall_mem_cons.1 ih
      have opening : "[".toList = ['['] := rfl
      rw [compact, String.toList_append, String.toList_append, opening]
      simp only [List.append_assoc, List.cons_append, List.nil_append]
      rw [tokens_mark line '[' .openList (by decide), hx, tokens_compactItems line xs hxs, lexemes, onLine_cons,
        onLine_append, List.cons_append, List.append_assoc]
  | @object room members h ih =>
    intro rest
    cases members with
    | nil =>
      have text : (compact (.object [])).toList = ['{', '}'] := rfl
      rw [text, List.cons_append, List.singleton_append, tokens_mark line '{' .openObject (by decide),
        tokens_mark line '}' .closeObject (by decide)]
      rfl
    | cons m ms =>
      obtain ⟨k, x⟩ := m
      obtain ⟨hx, hms⟩ := List.forall_mem_cons.1 ih
      have opening : "\x7b".toList = ['{'] := rfl
      have colon : ":".toList = [':'] := rfl
      rw [compact]
      simp only [String.toList_append, opening, colon, List.append_assoc, List.cons_append, List.nil_append]
      rw [tokens_mark line '{' .openObject (by decide), tokens_escaped,
        tokens_mark line ':' .colon (by decide), hx, tokens_compactMembers line ms hms, lexemes]
      simp only [onLine_cons, onLine_append, List.cons_append, List.append_assoc]

end ScreenKeyboard.Json
