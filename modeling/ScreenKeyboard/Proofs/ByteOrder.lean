import Mathlib.Algebra.Group.Nat.Defs
/-!
# The order of bytes

Texts are in the order of their characters, and as well in the order of the bytes that they are written with.  A
character is written as a first byte, which tells how many bytes follow, and then its last places in base 64.  So of two
characters the smaller one has the smaller first byte, or as many bytes of which the first that differs is smaller
(`encoded_lt`), and with that the two orders are the same (`bytes_le_bytes_iff`, `compare_bytes`).
-/
namespace ScreenKeyboard.Text

def bytes (text : String) : List UInt8 := text.toByteArray.data.toList

theorem bytes_eq_flatMap (text : String) : bytes text = text.toList.flatMap String.utf8EncodeChar := by
  unfold bytes
  rw [← String.utf8Encode_toList, List.utf8Encode, List.toList_data_toByteArray]

/-! ## One character -/

theorem ofNat_lt_ofNat {m n : Nat} (h : m < n) (small : n < 256) : UInt8.ofNat m < UInt8.ofNat n := by
  rw [UInt8.lt_iff_toNat_lt, UInt8.toNat_ofNat_of_lt' (Nat.lt_trans h small), UInt8.toNat_ofNat_of_lt' small]
  exact h

theorem append_lt_append (same : List UInt8) {a b : List UInt8} (h : a < b) : same ++ a < same ++ b := by
  induction same with
  | nil => exact h
  | cons x same ih => exact List.cons_lt_cons_iff.2 (.inr ⟨rfl, ih⟩)

/-- The last places of a number in base 64, as bytes that follow another one. -/
def following : Nat → Nat → List UInt8
  | 0, _ => []
  | places + 1, n => following places (n / 64) ++ [UInt8.ofNat (n % 64 + 128)]

/-- The smaller of two numbers is smaller before its last places, or it is the same there and smaller in them. -/
theorem following_lt : ∀ (places : Nat) {m n : Nat} (r s : List UInt8), m < n →
    m / 64 ^ places < n / 64 ^ places ∨
      m / 64 ^ places = n / 64 ^ places ∧ following places m ++ r < following places n ++ s
  | 0, m, n, r, s, h => .inl (by simpa using h)
  | places + 1, m, n, r, s, h => by
    have shift : ∀ k, k / 64 ^ (places + 1) = k / 64 / 64 ^ places := fun k => by
      rw [Nat.div_div_eq_div_mul, Nat.pow_succ']
    rw [shift, shift]
    simp only [following, List.append_assoc, List.cons_append, List.nil_append]
    rcases Nat.lt_or_ge (m / 64) (n / 64) with less | notLess
    · exact following_lt places _ _ less
    · have same : m / 64 = n / 64 := Nat.le_antisymm (Nat.div_le_div_right (Nat.le_of_lt h)) notLess
      rw [same]
      refine .inr ⟨rfl, append_lt_append _ (List.cons_lt_cons_iff.2 (.inl (ofNat_lt_ofNat ?_ ?_)))⟩
      · omega
      · omega

def followers (n : Nat) : Nat := if n ≤ 127 then 0 else if n ≤ 2047 then 1 else if n ≤ 65535 then 2 else 3

/-- What marks a first byte that so many others follow. -/
def mark : Nat → Nat
  | 0 => 0
  | 1 => 192
  | 2 => 224
  | _ => 240

def lead (n : Nat) : Nat := mark (followers n) + n / 64 ^ followers n

theorem followers_cases (n : Nat) :
    followers n = 0 ∧ n ≤ 127 ∨ followers n = 1 ∧ 127 < n ∧ n ≤ 2047 ∨ followers n = 2 ∧ 2047 < n ∧ n ≤ 65535 ∨
      followers n = 3 ∧ 65535 < n := by
  unfold followers
  split
  · omega
  · split
    · omega
    · split <;> omega

theorem lead_lt_256 {n : Nat} (valid : n < 1114112) : lead n < 256 := by
  unfold lead
  rcases followers_cases n with ⟨count, _⟩ | ⟨count, _⟩ | ⟨count, _⟩ | ⟨count, _⟩
  all_goals
    rw [count]
    simp only [mark, Nat.reducePow]
    omega

/-- A smaller character that takes another number of bytes has a smaller first byte. -/
theorem lead_lt_of_followers_ne {m n : Nat} (h : m < n) (valid : n < 1114112) (differ : followers m ≠ followers n) :
    lead m < lead n := by
  unfold lead
  rcases followers_cases m with ⟨few, _⟩ | ⟨few, _⟩ | ⟨few, _⟩ | ⟨few, _⟩
  all_goals
    rcases followers_cases n with ⟨many, _⟩ | ⟨many, _⟩ | ⟨many, _⟩ | ⟨many, _⟩
    all_goals
      rw [few, many] at differ ⊢
      simp only [mark, Nat.reducePow]
      omega

theorem toNat_lt (c : Char) : c.toNat < 1114112 := by
  have valid : c.toNat.isValidChar := c.valid
  unfold Nat.isValidChar at valid
  omega

theorem utf8EncodeChar_eq (c : Char) :
    String.utf8EncodeChar c = UInt8.ofNat (lead c.toNat) :: following (followers c.toNat) c.toNat := by
  have valid := toNat_lt c
  have number : c.val.toNat = c.toNat := rfl
  unfold String.utf8EncodeChar lead
  rw [number]
  generalize c.toNat = n at valid
  dsimp only
  rcases followers_cases n with ⟨count, low⟩ | ⟨count, low, high⟩ | ⟨count, low, high⟩ | ⟨count, low⟩
  · rw [count, if_pos low]
    simp [mark, following]
  · have first : n / 64 % 32 + 192 = 192 + n / 64 := by omega
    rw [count, if_neg (by omega), if_pos high, first]
    simp [mark, following]
  · have first : n / 4096 % 16 + 224 = 224 + n / 4096 := by omega
    rw [count, if_neg (by omega), if_neg (by omega), if_pos high, first]
    simp [mark, following]
  · have first : n / 262144 % 8 + 240 = 240 + n / 262144 := by omega
    rw [count, if_neg (by omega), if_neg (by omega), if_neg (by omega), first]
    simp [mark, following, Nat.div_div_eq_div_mul]

theorem utf8EncodeChar_of_le {c : Char} (ascii : c.toNat ≤ 127) : String.utf8EncodeChar c = [UInt8.ofNat c.toNat] := by
  have count : followers c.toNat = 0 := if_pos ascii
  rw [utf8EncodeChar_eq, lead, count, mark, following]
  simp

/-- **A smaller character is written with smaller bytes**, whatever comes after it. -/
theorem encoded_lt {c d : Char} (h : c < d) (r s : List UInt8) :
    String.utf8EncodeChar c ++ r < String.utf8EncodeChar d ++ s := by
  have less : c.toNat < d.toNat := h
  have small := lead_lt_256 (toNat_lt d)
  rw [utf8EncodeChar_eq, utf8EncodeChar_eq, List.cons_append, List.cons_append, List.cons_lt_cons_iff]
  by_cases count : followers c.toNat = followers d.toNat
  · unfold lead at small ⊢
    rw [count]
    rcases following_lt (followers d.toNat) r s less with first | ⟨same, later⟩
    · exact .inl (ofNat_lt_ofNat (Nat.add_lt_add_left first _) small)
    · exact .inr ⟨by rw [same], later⟩
  · exact .inl (ofNat_lt_ofNat (lead_lt_of_followers_ne less (toNat_lt d) count) small)

/-! ## Texts -/

theorem flatMap_encoded_lt {a b : List Char} (h : a < b) :
    a.flatMap String.utf8EncodeChar < b.flatMap String.utf8EncodeChar := by
  induction h with
  | nil =>
    rw [List.flatMap_cons, utf8EncodeChar_eq]
    exact List.nil_lt_cons _ _
  | rel less => exact encoded_lt less _ _
  | cons _ ih => exact append_lt_append _ ih

theorem bytes_lt_bytes {a b : String} (h : a < b) : bytes a < bytes b := by
  rw [bytes_eq_flatMap, bytes_eq_flatMap]
  exact flatMap_encoded_lt (String.lt_iff.1 h)

theorem bytes_lt_bytes_iff (a b : String) : bytes a < bytes b ↔ a < b := by
  refine ⟨fun less => ?_, bytes_lt_bytes⟩
  by_cases same : a = b
  · rw [same] at less
    exact absurd less (List.lt_irrefl _)
  · rcases String.le_total a b with le | ge
    · exact String.not_le.1 fun ge => same (String.le_antisymm le ge)
    · have more : b < a := String.not_le.1 fun le => same (String.le_antisymm le ge)
      exact absurd less (List.lt_asymm (bytes_lt_bytes more))

/-- **The order of texts is the order of their bytes.** -/
theorem bytes_le_bytes_iff (a b : String) : bytes a ≤ bytes b ↔ a ≤ b := by
  rw [← List.not_lt, ← String.not_lt, bytes_lt_bytes_iff]

theorem bytes_append (a b : String) : bytes (a ++ b) = bytes a ++ bytes b := by
  rw [bytes_eq_flatMap, bytes_eq_flatMap, bytes_eq_flatMap, String.toList_append, List.flatMap_append]

/-! ## Comparing -/

theorem compare_of_lt {a b : List UInt8} (h : a < b) : compare a b = .lt := by
  induction h with
  | nil => rfl
  | @rel x a y b less =>
    have first : compare x y = .lt := compareOfLessAndEq_eq_lt.2 less
    rw [List.compare_cons_cons, first, Ordering.lt_then]
  | cons _ ih => rw [List.compare_cons_cons, Std.ReflOrd.compare_self, ih, Ordering.eq_then]

theorem compare_eq_lt_iff (a b : String) : compare a b = .lt ↔ bytes a < bytes b := by
  rw [bytes_lt_bytes_iff]
  exact compareOfLessAndEq_eq_lt

/-- **Texts compare as their bytes do.** -/
theorem compare_bytes (a b : String) : compare (bytes a) (bytes b) = compare a b := by
  have less : ∀ {a b : String}, compare a b = .lt → compare (bytes a) (bytes b) = .lt := fun h =>
    compare_of_lt ((compare_eq_lt_iff _ _).1 h)
  cases order : compare a b with
  | lt => exact less order
  | eq =>
    rw [Std.LawfulEqCmp.eq_of_compare order]
    exact Std.ReflOrd.compare_self
  | gt => exact Std.OrientedCmp.gt_iff_lt.2 (less (Std.OrientedCmp.gt_iff_lt.1 order))

theorem isLE_compare_bytes (a b : String) : (compare (bytes a) (bytes b)).isLE = true ↔ bytes a ≤ bytes b := by
  rw [compare_bytes, Ordering.isLE_iff_ne_gt, Std.OrientedCmp.gt_iff_lt, compare_eq_lt_iff, List.not_lt]

end ScreenKeyboard.Text
