import ScreenKeyboard.Proofs.WrittenText
/-!
# Tokens of a printed number

A number runs on as long as digits follow, so unlike other texts its text is not one token whatever comes after it.  But
behind each number that is printed there is a mark, a blank or nothing more (`Fresh`), and then it is one token, which
holds the number, as long as that fits 64 bits (`tokens_int`).
-/
namespace ScreenKeyboard.Json

/-- Whether no number can go on here: there is a blank or a mark, or the text is over. -/
def Fresh (cs : List Char) : Prop := ∀ c ∈ cs.head?, isSpacing c = true ∨ c ∈ marks.map Prod.fst

theorem fresh_mark {c : Char} (mark : Lexeme) (h : (c, mark) ∈ marks) (cs : List Char) : Fresh (c :: cs) := by
  intro d hd
  cases hd
  exact .inr (List.mem_map_of_mem h)

theorem fresh_blank {c : Char} (h : isSpacing c = true) (cs : List Char) : Fresh (c :: cs) := by
  intro d hd
  cases hd
  exact .inl h

theorem fresh_blanks {cs rest : List Char} (h : ∀ c ∈ cs, isSpacing c = true) (fresh : Fresh rest) :
    Fresh (cs ++ rest) := by
  cases cs with
  | nil => exact fresh
  | cons c cs => exact fresh_blank (h c List.mem_cons_self) _

theorem Fresh.ends_number {c : Char} {cs : List Char} (fresh : Fresh (c :: cs)) :
    c.isDigit = false ∧ c ≠ '.' ∧ c ≠ 'e' ∧ c ≠ 'E' := by
  have blank : isSpacing c = true → c ∈ [' ', '\n', '\t', '\r'] := by
    intro h
    simpa [isSpacing, or_assoc] using h
  have all : ∀ c ∈ [' ', '\n', '\t', '\r'] ++ marks.map Prod.fst, c.isDigit = false ∧ c ≠ '.' ∧ c ≠ 'e' ∧ c ≠ 'E' := by
    simp [marks]
  exact all c (List.mem_append.2 ((fresh c rfl).imp_left blank))

theorem readRest_of_fresh (line : Nat) (negative : Bool) (value : Nat) {rest : List Char} (fresh : Fresh rest) :
    readRest line negative value 0 rest = (.ok (whole negative value), rest) := by
  cases rest with
  | nil => rfl
  | cons c cs =>
    obtain ⟨-, point, small, capital⟩ := fresh.ends_number
    unfold readRest
    split
    · rename_i same
      exact absurd (List.cons.inj same).1 point
    · rename_i same
      exact absurd (List.cons.inj same).1 small
    · rename_i same
      exact absurd (List.cons.inj same).1 capital
    · rfl

theorem le_ofDigitChars (ds : List Char) (value : Nat) : value ≤ Nat.ofDigitChars 10 ds value := by
  rw [Nat.ofDigitChars_eq_ofDigitChars_zero]
  exact Nat.le_add_right_of_le (Nat.le_mul_of_pos_left value (Nat.pow_pos (by decide)))

/-- Digits are gathered up to the last one when what they write is small enough. -/
theorem gather_of_le : ∀ (ds : List Char) (value : Nat), Nat.ofDigitChars 10 ds value ≤ maxWord →
    gather value ds = (Nat.ofDigitChars 10 ds value, ds.length)
  | [], value, _ => rfl
  | d :: ds, value, small => by
    have next : 10 * value + (d.toNat - '0'.toNat) = value * 10 + digitValue d := by rw [digitValue, Nat.mul_comm]
    rw [Nat.ofDigitChars_cons, next] at small ⊢
    rw [gather, if_pos (Nat.le_trans (le_ofDigitChars ds _) small), gather_of_le ds _ small]
    rfl

/-- The digits of a number start with no zero, unless the number is zero. -/
theorem exists_toDigits_eq_cons (n : Nat) (pos : 0 < n) : ∃ d ds, Nat.toDigits 10 n = d :: ds ∧ d ≠ '0' := by
  by_cases one : n < 10
  · have all : ∀ m < 10, 0 < m → Nat.digitChar m ≠ '0' := by decide
    exact ⟨_, [], Nat.toDigits_of_lt_base one, all n one pos⟩
  · obtain ⟨d, ds, first, nonzero⟩ := exists_toDigits_eq_cons (n / 10) (by omega)
    refine ⟨d, ds ++ [Nat.digitChar (n % 10)], ?_, nonzero⟩
    rw [Nat.toDigits_of_base_le (by decide) (Nat.le_of_not_lt one), first, List.cons_append]
termination_by n
decreasing_by omega

/-- **The digits of a number are read as the number**, and reading stops behind them. -/
theorem readDigits_toDigits (line : Nat) (negative : Bool) {n : Nat} (small : n ≤ maxWord) {rest : List Char}
    (fresh : Fresh rest) :
    readDigits line negative (Nat.toDigits 10 n ++ rest) = (.ok (whole negative n), rest) := by
  have stops : ∀ c cs, rest = c :: cs → c.isDigit = false := by
    rintro c cs rfl
    exact fresh.ends_number.1
  rcases Nat.eq_zero_or_pos n with rfl | pos
  · have ended : (rest.head?.map Char.isDigit).getD false = false := by
      cases rest with
      | nil => rfl
      | cons c cs => exact stops c cs rfl
    change readDigits line negative ('0' :: rest) = _
    rw [readDigits, if_pos rfl, ended]
    exact readRest_of_fresh line negative 0 fresh
  · obtain ⟨d, ds, digits, nonzero⟩ := exists_toDigits_eq_cons n pos
    have digit : ∀ c ∈ d :: ds, c.isDigit = true := by
      intro c hc
      rw [← digits] at hc
      exact Nat.isDigit_of_mem_toDigits (by decide) (by decide) hc
    obtain ⟨hd, hds⟩ := List.forall_mem_cons.1 digit
    have taken : (ds ++ rest).takeWhile Char.isDigit = ds := by
      rw [List.takeWhile_append_of_pos hds]
      cases rest with
      | nil => rw [List.takeWhile_nil, List.append_nil]
      | cons c cs => rw [List.takeWhile_cons, stops c cs rfl]; simp
    have dropped : (ds ++ rest).dropWhile Char.isDigit = rest := by
      rw [List.dropWhile_append_of_pos hds]
      cases rest with
      | nil => rfl
      | cons c cs => rw [List.dropWhile_cons, stops c cs rfl]; simp
    have value : Nat.ofDigitChars 10 (d :: ds) 0 = n := by rw [← digits, Nat.ofDigitChars_ten_toDigits]
    have gathered := gather_of_le (d :: ds) 0 (by rwa [value])
    rw [digits, List.cons_append, readDigits, if_neg nonzero, if_pos hd, taken, dropped]
    simp only [gathered, value, Nat.sub_self]
    exact readRest_of_fresh line negative n fresh

/-- A digit or a sign starts a number, for no blank, mark, text or word starts with one. -/
theorem readLexeme_numeral (line : Nat) {c : Char} (h : c = '-' ∨ c.isDigit = true) {cs rest : List Char}
    {value : Scalar} (reading : readNumeral line c cs = (.ok value, rest)) :
    isSpacing c = false ∧ readLexeme line c cs = (.scalar value, rest) := by
  have others : ∀ x ∈ [' ', '\n', '\t', '\r', '"', 'n', 't', 'f'] ++ marks.map Prod.fst,
      x ≠ '-' ∧ x.isDigit = false := by
    simp [marks]
  have differs : ∀ x ∈ [' ', '\n', '\t', '\r', '"', 'n', 't', 'f'] ++ marks.map Prod.fst, c ≠ x := by
    rintro x hx rfl
    obtain ⟨noSign, noDigit⟩ := others c hx
    rcases h with sign | digit
    · exact noSign sign
    · rw [noDigit] at digit
      cases digit
  have noMark : marks.lookup c = none := by
    rw [List.lookup_eq_none_iff]
    intro m hm
    exact bne_iff_ne.2 (differs m.1 (List.mem_append_right _ (List.mem_map_of_mem hm)))
  have starts : (decide (c = '-') || c.isDigit) = true := by simpa using h
  constructor
  · simp [isSpacing, differs]
  · simp only [readLexeme, noMark, readScalar, differs '"' (by decide), differs 'n' (by decide),
      differs 't' (by decide), differs 'f' (by decide), if_false, starts, if_true, reading]

/-- **A number is one token** if it fits 64 bits, and if what comes after it is no part of a number. -/
theorem tokens_int (line : Nat) {n : Int} (small : n.natAbs < Nat.pow 2 63) {rest : List Char} (fresh : Fresh rest) :
    tokens line ((toString n).toList ++ rest) = ⟨line, .scalar (.int n)⟩ :: tokens line rest := by
  have word : n.natAbs ≤ maxWord := Nat.le_trans (Nat.le_of_lt small) (by decide)
  cases n with
  | ofNat m =>
    have text : (toString (Int.ofNat m)).toList = Nat.toDigits 10 m := Nat.toList_repr
    have reading := readDigits_toDigits line false word fresh
    rw [text]
    change readDigits line false (Nat.toDigits 10 m ++ rest) = _ at reading
    cases digits : Nat.toDigits 10 m with
    | nil => exact absurd digits Nat.toDigits_ne_nil
    | cons d ds =>
      rw [digits] at reading
      have member : d ∈ Nat.toDigits 10 m := by
        rw [digits]
        exact List.mem_cons_self
      have digit : d.isDigit = true := Nat.isDigit_of_mem_toDigits (by decide) (by decide) member
      have noSign : d ≠ '-' := by
        rintro rfl
        cases digit
      have numeral : readNumeral line d (ds ++ rest) = (.ok (whole false m), rest) := by
        rw [readNumeral, if_neg noSign]
        exact reading
      obtain ⟨notBlank, lexeme⟩ := readLexeme_numeral line (.inr digit) numeral
      exact tokens_of_lexeme line notBlank lexeme nofun
  | negSucc m =>
    have text : (toString (Int.negSucc m)).toList = '-' :: Nat.toDigits 10 (m + 1) := by
      change ("-" ++ Nat.repr (m + 1)).toList = _
      rw [String.toList_append, Nat.toList_repr]
      rfl
    have value : whole true (m + 1) = .int (Int.negSucc m) := by
      have bounds : 0 < m + 1 ∧ m + 1 ≤ Nat.pow 2 63 := ⟨Nat.succ_pos m, Nat.le_of_lt small⟩
      simp only [whole, bounds, Bool.not_true, Bool.false_eq_true, if_false, and_self, if_true]
      rfl
    have numeral : readNumeral line '-' (Nat.toDigits 10 (m + 1) ++ rest) = (.ok (.int (Int.negSucc m)), rest) := by
      rw [readNumeral, if_pos rfl, ← value]
      exact readDigits_toDigits line true word fresh
    obtain ⟨notBlank, lexeme⟩ := readLexeme_numeral line (.inl rfl) numeral
    rw [text]
    exact tokens_of_lexeme line notBlank lexeme nofun

end ScreenKeyboard.Json
