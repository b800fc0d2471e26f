import ZenPass.Lib.Utf16
import ZenPass.Wire.B64

set_option autoImplicit false

namespace ZenPass.Wire

def urlAlphabet : List Char :=
  "ABCDEFGHIJKLMNOPQRSTUVWXYZabcdefghijklmnopqrstuvwxyz0123456789-_".toList

def urlChar (sextet : Nat) : Char := urlAlphabet.getD sextet 'A'

def urlSextet (c : Char) : Option Nat := urlAlphabet.idxOf? c

-- `Buffer.from` of Node looks the low byte of a UTF-16 unit up, in both alphabets.
def anySextet (unit : Nat) : Option Nat :=
  let letter := Char.ofNat (unit % 256)
  (urlSextet letter).or (charSextet letter)

def sextetsOf : Bytes → List Nat
  | [] => []
  | [a] => [a.toNat / 4, a.toNat % 4 * 16]
  | [a, b] => [a.toNat / 4, a.toNat % 4 * 16 + b.toNat / 16, b.toNat % 16 * 4]
  | a :: b :: c :: rest =>
      a.toNat / 4 :: (a.toNat % 4 * 16 + b.toNat / 16) :: (b.toNat % 16 * 4 + c.toNat / 64) ::
        c.toNat % 64 :: sextetsOf rest

def bytesOf (strict : Bool) : List Nat → Option Bytes
  | [] => some []
  | [_] => if strict then none else some []
  | [w, x] => if strict && x % 16 ≠ 0 then none else some [UInt8.ofNat (w * 4 + x / 16)]
  | [w, x, y] =>
      if strict && y % 4 ≠ 0 then none
      else some [UInt8.ofNat (w * 4 + x / 16), UInt8.ofNat (x % 16 * 16 + y / 4)]
  | w :: x :: y :: z :: rest =>
      (bytesOf strict rest).map fun later =>
        UInt8.ofNat (w * 4 + x / 16) :: UInt8.ofNat (x % 16 * 16 + y / 4) ::
          UInt8.ofNat (y % 4 * 64 + z) :: later

-- `Buffer.from(text, "base64url")`, and with "base64" as well: what is no letter is skipped, up to the
-- first unit with the low byte of `=`.
def Node.bufferFrom (text : List Char) : Option Bytes :=
  bytesOf false
    (((text.flatMap Utf16.unitsOfChar).takeWhile fun unit => unit % 256 != 61).filterMap anySextet)

def encodeBase64Url (bytes : Bytes) : String := String.ofList ((sextetsOf bytes).map urlChar)

def decodeBase64Url (strict : Bool) (text : String) : Option Bytes :=
  if strict then (text.toList.mapM urlSextet).bind (bytesOf true)
  else Node.bufferFrom text.toList

theorem urlSextet_urlChar {sextet : Nat} (bound : sextet < 64) :
    urlSextet (urlChar sextet) = some sextet := by
  have each : ∀ i : Fin 64, urlSextet (urlChar i) = some i.val := by decide +kernel
  exact each ⟨sextet, bound⟩

theorem sextetsOf_lt (bytes : Bytes) : ∀ sextet ∈ sextetsOf bytes, sextet < 64 := by
  fun_induction sextetsOf bytes with
  | case1 => simp
  | case2 a =>
      have ha := a.toNat_lt
      simp only [List.mem_cons, List.not_mem_nil, or_false, forall_eq_or_imp, forall_eq]
      omega
  | case3 a b =>
      have ha := a.toNat_lt
      have hb := b.toNat_lt
      simp only [List.mem_cons, List.not_mem_nil, or_false, forall_eq_or_imp, forall_eq]
      omega
  | case4 a b c rest ih =>
      have ha := a.toNat_lt
      have hb := b.toNat_lt
      have hc := c.toNat_lt
      simp only [List.mem_cons, forall_eq_or_imp]
      exact ⟨by omega, by omega, by omega, by omega, ih⟩

theorem bytesOf_isSome (sextets : List Nat) : (bytesOf false sextets).isSome = true := by
  fun_induction bytesOf false sextets <;> simp_all

theorem Node.bufferFrom_isSome (text : List Char) : (Node.bufferFrom text).isSome = true :=
  bytesOf_isSome _

theorem bytesOf_sextetsOf (strict : Bool) (bytes : Bytes) :
    bytesOf strict (sextetsOf bytes) = some bytes := by
  fun_induction sextetsOf bytes with
  | case1 => rfl
  | case2 a =>
      have ha := a.toNat_lt
      have trailing : a.toNat % 4 * 16 % 16 = 0 := by omega
      simp only [bytesOf, trailing, ne_eq, not_true_eq_false, decide_false, Bool.and_false,
        Bool.false_eq_true, if_false]
      rw [ofNat_toNat a _ (by omega)]
  | case3 a b =>
      have ha := a.toNat_lt
      have hb := b.toNat_lt
      have trailing : b.toNat % 16 * 4 % 4 = 0 := by omega
      simp only [bytesOf, trailing, ne_eq, not_true_eq_false, decide_false, Bool.and_false,
        Bool.false_eq_true, if_false]
      rw [ofNat_toNat a _ (by omega), ofNat_toNat b _ (by omega)]
  | case4 a b c rest ih =>
      have ha := a.toNat_lt
      have hb := b.toNat_lt
      have hc := c.toNat_lt
      simp only [bytesOf, ih, Option.map_some]
      rw [ofNat_toNat a _ (by omega), ofNat_toNat b _ (by omega), ofNat_toNat c _ (by omega)]

theorem sextetsOf_bytesOf {sextets : List Nat} {bytes : Bytes}
    (bound : ∀ sextet ∈ sextets, sextet < 64) (decoded : bytesOf true sextets = some bytes) :
    sextetsOf bytes = sextets := by
  fun_induction bytesOf true sextets generalizing bytes with
  | case1 =>
      cases decoded
      rfl
  | case2 => cases decoded
  | case3 x lenient => exact absurd rfl lenient
  | case4 => cases decoded
  | case5 w x whole =>
      cases decoded
      simp only [List.mem_cons, List.not_mem_nil, or_false, forall_eq_or_imp, forall_eq] at bound
      simp only [Bool.true_and, decide_eq_true_eq, ne_eq, not_not] at whole
      have first : (UInt8.ofNat (w * 4 + x / 16)).toNat = w * 4 + x / 16 :=
        toNat_ofNat (by omega)
      simp only [sextetsOf, first, List.cons.injEq, and_true]
      omega
  | case6 => cases decoded
  | case7 w x y whole =>
      cases decoded
      simp only [List.mem_cons, List.not_mem_nil, or_false, forall_eq_or_imp, forall_eq] at bound
      simp only [Bool.true_and, decide_eq_true_eq, ne_eq, not_not] at whole
      have first : (UInt8.ofNat (w * 4 + x / 16)).toNat = w * 4 + x / 16 :=
        toNat_ofNat (by omega)
      have second : (UInt8.ofNat (x % 16 * 16 + y / 4)).toNat = x % 16 * 16 + y / 4 :=
        toNat_ofNat (by omega)
      simp only [sextetsOf, first, second, List.cons.injEq, and_true]
      omega
  | case8 w x y z rest ih =>
      obtain ⟨later, decodedLater, rfl⟩ := Option.map_eq_some_iff.mp decoded
      simp only [List.mem_cons, forall_eq_or_imp] at bound
      obtain ⟨hw, hx, hy, hz, hrest⟩ := bound
      have first : (UInt8.ofNat (w * 4 + x / 16)).toNat = w * 4 + x / 16 :=
        toNat_ofNat (by omega)
      have second : (UInt8.ofNat (x % 16 * 16 + y / 4)).toNat = x % 16 * 16 + y / 4 :=
        toNat_ofNat (by omega)
      have third : (UInt8.ofNat (y % 4 * 64 + z)).toNat = y % 4 * 64 + z :=
        toNat_ofNat (by omega)
      simp only [sextetsOf, first, second, third, ih hrest decodedLater, List.cons.injEq, and_true]
      omega

theorem Node.bufferFrom_letters {letter : Nat → Char} (plain : ∀ sextet < 64,
      (letter sextet).toNat < 256 ∧ letter sextet ≠ '=' ∧
        anySextet (letter sextet).toNat = some sextet)
    {sextets : List Nat} (bound : ∀ sextet ∈ sextets, sextet < 64) (pads : Nat) :
    Node.bufferFrom (sextets.map letter ++ List.replicate pads '=') = bytesOf false sextets := by
  have pad : Utf16.unitsOfChar '=' = [61] := by decide
  have stops : ((List.replicate pads '=').flatMap Utf16.unitsOfChar).takeWhile
      (fun unit => unit % 256 != 61) = [] := by
    cases pads with
    | zero => rfl
    | succ pads => rw [List.replicate_succ, List.flatMap_cons, pad]; rfl
  rw [Node.bufferFrom]
  congr 1
  induction sextets with
  | nil => rw [List.map_nil, List.nil_append, stops, List.filterMap_nil]
  | cons sextet rest ih =>
      obtain ⟨small, other, known⟩ := plain sextet (bound sextet List.mem_cons_self)
      have units : Utf16.unitsOfChar (letter sextet) = [(letter sextet).toNat] :=
        if_pos (by omega)
      have passes : ((letter sextet).toNat % 256 != 61) = true := by
        rw [Nat.mod_eq_of_lt small, bne_iff_ne]
        exact fun same => other (Char.toNat_inj.mp same)
      rw [List.map_cons, List.cons_append, List.flatMap_cons, units, List.singleton_append,
        List.takeWhile_cons, passes, if_pos rfl, List.filterMap_cons, known,
        ih fun later member => bound later (List.mem_cons_of_mem _ member)]

theorem urlSextet_eq_some {c : Char} {sextet : Nat} :
    urlSextet c = some sextet ↔ sextet < 64 ∧ urlChar sextet = c := by
  constructor
  · intro known
    exact getD_of_idxOf? known 'A'
  · rintro ⟨bound, rfl⟩
    exact urlSextet_urlChar bound

theorem decodeBase64Url_encode (strict : Bool) (bytes : Bytes) :
    decodeBase64Url strict (encodeBase64Url bytes) = some bytes := by
  have bound := sextetsOf_lt bytes
  cases strict with
  | true =>
      have known := (mapM_letters fun _ _ => urlSextet_eq_some).mpr ⟨bound, rfl⟩
      simp only [decodeBase64Url, encodeBase64Url, if_true, String.toList_ofList, known,
        Option.bind_some, bytesOf_sextetsOf]
  | false =>
      have plain : ∀ i : Fin 64, (urlChar i).toNat < 256 ∧ urlChar i ≠ '=' ∧
          anySextet (urlChar i).toNat = some i.val := by decide +kernel
      have letters := Node.bufferFrom_letters (fun sextet small => plain ⟨sextet, small⟩) bound 0
      rw [List.replicate_zero, List.append_nil, bytesOf_sextetsOf] at letters
      simp only [decodeBase64Url, encodeBase64Url, Bool.false_eq_true, if_false,
        String.toList_ofList, letters]

theorem encodeBase64Url_decode {text : String} {bytes : Bytes}
    (decoded : decodeBase64Url true text = some bytes) : encodeBase64Url bytes = text := by
  simp only [decodeBase64Url, if_true, Option.bind_eq_some_iff] at decoded
  obtain ⟨sextets, known, whole⟩ := decoded
  obtain ⟨bound, same⟩ := (mapM_letters fun _ _ => urlSextet_eq_some).mp known
  rw [encodeBase64Url, sextetsOf_bytesOf bound whole, ← same, String.ofList_toList]

def digitByte (c : Char) : UInt8 := UInt8.ofNat c.toNat

def isDigitByte (byte : UInt8) : Bool := 48 ≤ byte && byte ≤ 57

def encodeCursor (sequence : Nat) : String :=
  encodeBase64Url ((Nat.toDigits 10 sequence).map digitByte)

/-- `decodeCursor` of Node and `decode_cursor` of Rust, up to the range of the number. -/
def decodeCursor (strict : Bool) (cursor : String) : Option Nat :=
  if cursor.isEmpty then none
  else
    (decodeBase64Url strict cursor).bind fun bytes =>
      if bytes.isEmpty || !bytes.all isDigitByte then none
      else some (Nat.ofDigitChars 10 (bytes.map fun byte => Char.ofNat byte.toNat) 0)

theorem digit_cases {c : Char} (digit : c.isDigit = true) :
    isDigitByte (digitByte c) = true ∧ Char.ofNat (digitByte c).toNat = c := by
  have range : 48 ≤ c.toNat ∧ c.toNat ≤ 57 := by
    simp only [Char.isDigit, Bool.and_eq_true, decide_eq_true_eq, ge_iff_le,
      UInt32.le_iff_toNat_le] at digit
    exact digit
  have each : ∀ i : Fin 10, isDigitByte (UInt8.ofNat (48 + i.val)) = true ∧
      (UInt8.ofNat (48 + i.val)).toNat = 48 + i.val := by decide
  obtain ⟨known, same⟩ := each ⟨c.toNat - 48, by omega⟩
  have back : 48 + (c.toNat - 48) = c.toNat := by omega
  dsimp only at known same
  rw [back] at known same
  refine ⟨known, ?_⟩
  rw [digitByte, same]
  exact Char.ofNat_toNat c

theorem decodeCursor_encodeCursor (strict : Bool) (sequence : Nat) :
    decodeCursor strict (encodeCursor sequence) = some sequence := by
  have digits {c : Char} (member : c ∈ Nat.toDigits 10 sequence) : c.isDigit = true :=
    Nat.isDigit_of_mem_toDigits (by decide) (by decide) member
  have nonempty : Nat.toDigits 10 sequence ≠ [] := Nat.toDigits_ne_nil
  have present : (encodeCursor sequence).isEmpty = false := by
    have shape : sextetsOf ((Nat.toDigits 10 sequence).map digitByte) ≠ [] := by
      intro none
      have bytes := bytesOf_sextetsOf true ((Nat.toDigits 10 sequence).map digitByte)
      rw [none, bytesOf, Option.some.injEq] at bytes
      exact nonempty (List.map_eq_nil_iff.mp bytes.symm)
    rw [← Bool.not_eq_true, String.isEmpty_iff, encodeCursor, encodeBase64Url]
    intro empty
    have chars := congrArg String.toList empty
    rw [String.toList_ofList] at chars
    exact shape (List.map_eq_nil_iff.mp chars)
  have back : ((Nat.toDigits 10 sequence).map digitByte).map (fun byte => Char.ofNat byte.toNat) =
      Nat.toDigits 10 sequence := by
    rw [List.map_map]
    refine (List.map_congr_left fun c member => ?_).trans (List.map_id _)
    exact (digit_cases (digits member)).2
  have all : ((Nat.toDigits 10 sequence).map digitByte).all isDigitByte = true := by
    rw [List.all_map, List.all_eq_true]
    exact fun c member => (digit_cases (digits member)).1
  have filled : ((Nat.toDigits 10 sequence).map digitByte).isEmpty = false := by
    rw [List.isEmpty_map, List.isEmpty_eq_false_iff]
    exact nonempty
  rw [decodeCursor, present, encodeCursor, decodeBase64Url_encode]
  simp only [Bool.false_eq_true, if_false, Option.bind_some, filled, all, back, Bool.not_true,
    Bool.or_self, Nat.ofDigitChars_ten_toDigits]

theorem encodeCursor_injective : Function.Injective encodeCursor := by
  intro first second same
  have decoded := congrArg (decodeCursor true) same
  rw [decodeCursor_encodeCursor, decodeCursor_encodeCursor] at decoded
  exact Option.some.inj decoded

end ZenPass.Wire
