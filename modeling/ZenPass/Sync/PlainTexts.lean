import ZenPass.Lib.TextEncoding
import ZenPass.Sync.Mutation

set_option autoImplicit false

namespace ZenPass.Sync

open Wire JsonText TextEncoding

theorem plain_alphanum {c : Char} (known : c.isAlphanum = true) : PlainChar c := by
  change (decide (65 ≤ c.val ∧ c.val ≤ 90) || (decide (97 ≤ c.val) && decide (c.val ≤ 122)) ||
    (decide (48 ≤ c.val) && decide (c.val ≤ 57))) = true at known
  simp only [Bool.or_eq_true, Bool.and_eq_true, decide_eq_true_eq, UInt32.le_iff_toNat_le] at known
  change (((65 ≤ c.toNat ∧ c.toNat ≤ 90) ∨ (97 ≤ c.toNat ∧ c.toNat ≤ 122)) ∨
    (48 ≤ c.toNat ∧ c.toNat ≤ 57)) at known
  simp only [PlainChar]
  omega

theorem plain_isValidId {id : Id} (valid : isValidId id = true) : PlainText id := by
  rw [isValidId] at valid
  split at valid
  · cases valid
  · rename_i first rest chars
    simp only [Bool.and_eq_true, List.all_eq_true, Bool.or_eq_true, beq_iff_eq] at valid
    rw [PlainText, chars, List.forall_mem_cons]
    refine ⟨plain_alphanum valid.1.1, fun c member => ?_⟩
    rcases valid.2 c member with (letter | rfl) | rfl
    · exact plain_alphanum letter
    · decide
    · decide

theorem plain_sextetChar (sextet : Nat) : PlainChar (sextetChar sextet) := by
  by_cases bound : sextet < 64
  · have each : ∀ i : Fin 64, PlainChar (sextetChar i) := by decide +kernel
    exact each ⟨sextet, bound⟩
  · have size : alphabet.length = 64 := by decide +kernel
    rw [sextetChar, List.getD_eq_getElem?_getD, List.getElem?_eq_none (by omega)]
    decide

theorem plain_encodeBase64 (bytes : Bytes) : ∀ c ∈ encodeBase64 bytes, PlainChar c := by
  have pad : PlainChar '=' := by decide
  fun_induction encodeBase64 bytes with
  | case1 => simp
  | case2 a => simp [plain_sextetChar, pad]
  | case3 a b => simp [plain_sextetChar, pad]
  | case4 a b c rest ih => simpa [plain_sextetChar] using ih

theorem length_encodeBase64 (bytes : Bytes) :
    (encodeBase64 bytes).length = 4 * ((bytes.length + 2) / 3) := by
  fun_induction encodeBase64 bytes with
  | case1 => simp
  | case2 a => simp
  | case3 a b => simp
  | case4 a b c rest ih =>
      simp only [List.length_cons, ih]
      omega

theorem plain_encodeB64 (bytes : Bytes) : PlainText (encodeB64 bytes) := by
  intro c member
  rw [encodeB64, String.toList_append, List.mem_append] at member
  rcases member with mark | body
  · have marks : PlainText "b64:" := by decide
    exact marks c mark
  · rw [String.toList_ofList] at body
    exact plain_encodeBase64 bytes c body

theorem length_encodeB64 (bytes : Bytes) :
    (encodeB64 bytes).length = 4 + 4 * ((bytes.length + 2) / 3) := by
  rw [← String.length_toList, encodeB64, String.toList_append, List.length_append]
  simp only [String.toList_ofList, length_encodeBase64]
  rfl

theorem plain_isValidCiphertext {value : String} (valid : isValidCiphertext value = true) :
    PlainText value := by
  have mark : PlainChar 'b' ∧ PlainChar '6' ∧ PlainChar '4' ∧ PlainChar ':' ∧ PlainChar '=' ∧
      PlainChar '+' ∧ PlainChar '/' := by decide
  rw [isValidCiphertext] at valid
  split at valid
  · rename_i body chars
    simp only [Bool.and_eq_true, List.all_eq_true, Bool.or_eq_true, beq_iff_eq] at valid
    simp only [PlainText, chars, List.forall_mem_cons, mark, true_and]
    intro c member
    rw [← List.rdropWhile_append_rtakeWhile (p := (· == '=')) (l := body),
      List.mem_append] at member
    rcases member with core | pad
    · rcases valid.2 c core with (letter | rfl) | rfl
      · exact plain_alphanum letter
      · decide
      · decide
    · have same := List.mem_rtakeWhile_imp pad
      rw [beq_iff_eq] at same
      rw [same]
      decide
  · cases valid

end ZenPass.Sync
