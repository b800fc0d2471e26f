import Mathlib.Data.List.TakeWhile
import ZenPass.Wire.Cursor

set_option autoImplicit false

namespace ZenPass.Wire

def bodyOf (value : String) : Option (List Char) :=
  match value.toList with
  | 'b' :: '6' :: '4' :: ':' :: body => some body
  | _ => none

namespace Node

def isPadded (body : List Char) : Bool :=
  let pads := body.dropWhile fun c => (charSextet c).isSome
  (pads == [] || pads == ['='] || pads == ['=', '=']) && body.length % 4 == 0

def decodeB64 (value : String) : Option Bytes :=
  (bodyOf value).bind fun body => if isPadded body then bufferFrom body else none

def encodeB64 (bytes : Bytes) : String := "b64:" ++ String.ofList (encodeBase64 bytes)

end Node

namespace Rust

def trimEnd (body : List Char) : List Char := (body.reverse.dropWhile (· == '=')).reverse

/-- The length is that of the UTF-8 text in Rust; whatever is not ASCII fails the check of the
alphabet. -/
def decodeB64 (value : String) : Option Bytes :=
  (bodyOf value).bind fun body =>
    let core := trimEnd body
    if body.length % 4 ≠ 0 then none
    else if body.length - core.length > 2 then none
    else if core.all fun c => (charSextet c).isSome then decodeBase64 true body
    else none

def encodeB64 (bytes : Bytes) : String := "b64:" ++ String.ofList (encodeBase64 bytes)

end Rust

namespace Sdk

def binaryString (bytes : Bytes) : List Char := bytes.map fun byte => Char.ofNat byte.toNat

def charCodes (binary : List Char) : Bytes := binary.map fun c => UInt8.ofNat c.toNat

def isAsciiWhitespace (c : Char) : Bool :=
  c == '\t' || c == '\n' || c == '\x0c' || c == '\r' || c == ' '

def dropFirstPads : List Char → List Char
  | '=' :: '=' :: core => core
  | '=' :: core => core
  | core => core

def dropPads (text : List Char) : List Char := (dropFirstPads text.reverse).reverse

def atob (text : List Char) : Option (List Char) :=
  let data := text.filter fun c => !isAsciiWhitespace c
  let data := if data.length % 4 = 0 then dropPads data else data
  if data.length % 4 = 1 then none
  else ((data.mapM charSextet).bind (bytesOf false)).map binaryString

def btoa (binary : List Char) : List Char := encodeBase64 (charCodes binary)

def decodeB64 (value : String) : Option Bytes :=
  (bodyOf value).bind fun body => (atob body).map charCodes

def encodeB64 (bytes : Bytes) : String := "b64:" ++ String.ofList (btoa (binaryString bytes))

end Sdk

namespace Kotlin

/-- `java.util.Base64.getDecoder().decode`: padding may be absent, but what there is of it must be
right. -/
def basicDecode (text : List Char) : Option Bytes :=
  let core := text.takeWhile (· != '=')
  let pads := text.dropWhile (· != '=')
  if pads = [] ∧ core.length % 4 ≠ 1 ∨ pads = ['='] ∧ core.length % 4 = 3 ∨
      pads = ['=', '='] ∧ core.length % 4 = 2 then
    (core.mapM charSextet).bind (bytesOf false)
  else none

def decodeB64 (value : String) : Option Bytes := (bodyOf value).bind basicDecode

def encodeB64 (bytes : Bytes) : String := "b64:" ++ String.ofList (encodeBase64 bytes)

end Kotlin

def letters (sextets : List Nat) : List Char := sextets.map sextetChar

def padding (count : Nat) : List Char := List.replicate ((4 - count % 4) % 4) '='

structure Sextets (sextets : List Nat) : Prop where
  bound : ∀ sextet ∈ sextets, sextet < 64
  whole : sextets.length % 4 ≠ 1

theorem padding_add_four (count : Nat) : padding (count + 4) = padding count := by
  rw [padding, padding, Nat.add_mod_right]

theorem Sextets.cons_four {w x y z : Nat} {rest : List Nat} (text : Sextets rest) (hw : w < 64)
    (hx : x < 64) (hy : y < 64) (hz : z < 64) : Sextets (w :: x :: y :: z :: rest) where
  bound := by
    simp only [List.mem_cons, forall_eq_or_imp]
    exact ⟨hw, hx, hy, hz, text.bound⟩
  whole := by
    have whole := text.whole
    simp only [List.length_cons]
    omega

theorem decodeBase64_letters {strict : Bool} : ∀ {sextets : List Nat}, Sextets sextets →
    decodeBase64 strict (letters sextets ++ padding sextets.length) = bytesOf strict sextets
  | [], _ => rfl
  | [_], text => absurd rfl text.whole
  | [w, x], text => by
      have hw := text.bound w (by simp)
      have hx := text.bound x (by simp)
      change decodeBase64 strict [sextetChar w, sextetChar x, '=', '='] = _
      simp only [decodeBase64, charSextet_sextetChar _ hw, charSextet_sextetChar _ hx,
        Option.bind_eq_bind, Option.bind_some, bytesOf]
  | [w, x, y], text => by
      have hw := text.bound w (by simp)
      have hx := text.bound x (by simp)
      have hy := text.bound y (by simp)
      change decodeBase64 strict [sextetChar w, sextetChar x, sextetChar y, '='] = _
      rw [decodeBase64.eq_3 _ _ _ _ (by simpa using sextetChar_ne_pad y hy)]
      simp only [charSextet_sextetChar _ hw, charSextet_sextetChar _ hx,
        charSextet_sextetChar _ hy, Option.bind_eq_bind, Option.bind_some, bytesOf]
  | w :: x :: y :: z :: rest, text => by
      have hw := text.bound w (by simp)
      have hx := text.bound x (by simp)
      have hy := text.bound y (by simp)
      have hz := text.bound z (by simp)
      have later : Sextets rest :=
        ⟨fun sextet member => text.bound sextet (by simp [member]), by
          have whole := text.whole
          simp only [List.length_cons] at whole
          omega⟩
      have pads : padding (w :: x :: y :: z :: rest).length = padding rest.length :=
        padding_add_four rest.length
      rw [pads]
      change decodeBase64 strict (sextetChar w :: sextetChar x :: sextetChar y :: sextetChar z ::
        (letters rest ++ padding rest.length)) = _
      have unpadded := sextetChar_ne_pad z hz
      rw [decodeBase64.eq_4 _ _ _ _ _ _ (by intros; simp_all) (by intros; simp_all)]
      simp only [charSextet_sextetChar _ hw, charSextet_sextetChar _ hx,
        charSextet_sextetChar _ hy, charSextet_sextetChar _ hz, decodeBase64_letters later,
        Option.bind_eq_bind, Option.bind_some, bytesOf]
      cases bytesOf strict rest <;> rfl

theorem decodeBase64_eq_some {strict : Bool} {body : List Char} {bytes : Bytes} :
    decodeBase64 strict body = some bytes ↔
      ∃ sextets, Sextets sextets ∧ body = letters sextets ++ padding sextets.length ∧
        bytesOf strict sextets = some bytes := by
  constructor
  · intro decoded
    fun_induction decodeBase64 strict body generalizing bytes with
    | case1 => exact ⟨[], ⟨by simp, by decide⟩, rfl, decoded⟩
    | case2 w x =>
        simp only [Option.bind_eq_bind, Option.bind_eq_some_iff, charSextet_eq_some] at decoded
        obtain ⟨first, ⟨hw, rfl⟩, second, ⟨hx, rfl⟩, decoded⟩ := decoded
        exact ⟨[first, second], ⟨by simp [hw, hx], by simp⟩, rfl, decoded⟩
    | case3 w x y unpadded =>
        simp only [Option.bind_eq_bind, Option.bind_eq_some_iff, charSextet_eq_some] at decoded
        obtain ⟨first, ⟨hw, rfl⟩, second, ⟨hx, rfl⟩, third, ⟨hy, rfl⟩, decoded⟩ := decoded
        exact ⟨[first, second, third], ⟨by simp [hw, hx, hy], by simp⟩, rfl, decoded⟩
    | case4 w x y z rest _ _ ih =>
        simp only [Option.bind_eq_bind, Option.bind_eq_some_iff, charSextet_eq_some] at decoded
        obtain ⟨first, ⟨hw, rfl⟩, second, ⟨hx, rfl⟩, third, ⟨hy, rfl⟩, fourth, ⟨hz, rfl⟩, later,
          decodedLater, decoded⟩ := decoded
        obtain ⟨sextets, text, rfl, whole⟩ := ih decodedLater
        refine ⟨first :: second :: third :: fourth :: sextets, text.cons_four hw hx hy hz, ?_, ?_⟩
        · rw [List.length_cons, List.length_cons, List.length_cons, List.length_cons,
            padding_add_four]
          rfl
        · rw [bytesOf, whole]
          exact decoded
    | case5 => cases decoded
  · rintro ⟨sextets, text, rfl, decoded⟩
    rw [decodeBase64_letters text, decoded]

theorem encodeBase64_eq (bytes : Bytes) :
    Sextets (sextetsOf bytes) ∧
      encodeBase64 bytes = letters (sextetsOf bytes) ++ padding (sextetsOf bytes).length := by
  obtain ⟨sextets, text, spelled, decoded⟩ :=
    decodeBase64_eq_some.mp (decodeBase64_encodeBase64 true bytes)
  rw [sextetsOf_bytesOf text.bound decoded]
  exact ⟨text, spelled⟩

theorem bytesOf_lenient {sextets : List Nat} {bytes : Bytes} (bound : ∀ sextet ∈ sextets, sextet < 64)
    (strict : bytesOf true sextets = some bytes) : bytesOf false sextets = some bytes := by
  rw [← sextetsOf_bytesOf bound strict, bytesOf_sextetsOf]

theorem mapM_charSextet {chars : List Char} {sextets : List Nat} :
    chars.mapM charSextet = some sextets ↔
      (∀ sextet ∈ sextets, sextet < 64) ∧ chars = letters sextets :=
  mapM_letters fun _ _ => charSextet_eq_some

theorem letters_of_known (chars : List Char)
    (known : ∀ c ∈ chars, (charSextet c).isSome = true) :
    ∃ sextets, (∀ sextet ∈ sextets, sextet < 64) ∧ chars = letters sextets := by
  induction chars with
  | nil => exact ⟨[], by simp, rfl⟩
  | cons c rest ih =>
      obtain ⟨sextet, read⟩ := Option.isSome_iff_exists.mp (known c List.mem_cons_self)
      obtain ⟨bound, rfl⟩ := charSextet_eq_some.mp read
      obtain ⟨sextets, bounds, rfl⟩ := ih fun c member => known c (List.mem_cons_of_mem _ member)
      refine ⟨sextet :: sextets, ?_, rfl⟩
      simp only [List.mem_cons, forall_eq_or_imp]
      exact ⟨bound, bounds⟩

@[simp] theorem length_letters (sextets : List Nat) : (letters sextets).length = sextets.length :=
  List.length_map _

theorem mem_letters {sextets : List Nat} (bound : ∀ sextet ∈ sextets, sextet < 64) {c : Char}
    (member : c ∈ letters sextets) : c ≠ '=' ∧ (charSextet c).isSome = true := by
  obtain ⟨sextet, inside, rfl⟩ := List.mem_map.mp member
  have small := bound sextet inside
  rw [charSextet_sextetChar sextet small]
  exact ⟨sextetChar_ne_pad sextet small, rfl⟩

theorem padding_cases (count : Nat) (whole : count % 4 ≠ 1) :
    count % 4 = 0 ∧ padding count = [] ∨ count % 4 = 3 ∧ padding count = ['='] ∨
      count % 4 = 2 ∧ padding count = ['=', '='] := by
  have cases : count % 4 = 0 ∨ count % 4 = 2 ∨ count % 4 = 3 := by omega
  rcases cases with rest | rest | rest <;> simp [padding, rest, List.replicate]

theorem mem_padding {count : Nat} {c : Char} (member : c ∈ padding count) : c = '=' :=
  List.eq_of_mem_replicate member

theorem span_letters {sextets : List Nat} (pads : List Char) {p : Char → Bool}
    (bound : ∀ sextet ∈ sextets, sextet < 64)
    (letter : ∀ c, c ≠ '=' → (charSextet c).isSome = true → p c = true) (pad : p '=' = false)
    (padded : ∀ c ∈ pads, c = '=') :
    (letters sextets ++ pads).takeWhile p = letters sextets ∧
      (letters sextets ++ pads).dropWhile p = pads := by
  have all (c : Char) (member : c ∈ letters sextets) : p c = true :=
    letter c (mem_letters bound member).1 (mem_letters bound member).2
  rw [List.takeWhile_append_of_pos all, List.dropWhile_append_of_pos all]
  cases pads with
  | nil => simp
  | cons c rest =>
      obtain rfl := padded c List.mem_cons_self
      simp [pad]

/-- Letters and then padding, which may be left out. -/
def Spelled (text : List Char) (sextets : List Nat) : Prop :=
  Sextets sextets ∧ (text = letters sextets ∨ text = letters sextets ++ padding sextets.length)

theorem basicDecode_eq_some {text : List Char} {bytes : Bytes} :
    Kotlin.basicDecode text = some bytes ↔
      ∃ sextets, Spelled text sextets ∧ bytesOf false sextets = some bytes := by
  have apart := List.takeWhile_append_dropWhile (p := (· != '=')) (l := text)
  constructor
  · intro decoded
    simp only [Kotlin.basicDecode] at decoded
    generalize text.takeWhile (· != '=') = core at apart decoded
    generalize text.dropWhile (· != '=') = pads at apart decoded
    split at decoded
    · rename_i shape
      obtain ⟨sextets, known, read⟩ := Option.bind_eq_some_iff.mp decoded
      obtain ⟨bound, rfl⟩ := mapM_charSextet.mp known
      simp only [length_letters] at shape
      refine ⟨sextets, ⟨⟨bound, by omega⟩, ?_⟩, read⟩
      rcases shape with ⟨rfl, rest⟩ | ⟨rfl, rest⟩ | ⟨rfl, rest⟩
      · left
        rw [← apart, List.append_nil]
      · right
        rw [← apart, padding, rest]
        rfl
      · right
        rw [← apart, padding, rest]
        rfl
    · cases decoded
  · rintro ⟨sextets, ⟨⟨bound, whole⟩, shape⟩, decoded⟩
    have known := mapM_charSextet.mpr ⟨bound, rfl⟩
    have letter (c : Char) (other : c ≠ '=') (_ : (charSextet c).isSome = true) :
        (c != '=') = true := by simpa using other
    rcases shape with rfl | rfl
    · have span := span_letters [] bound letter (by decide) (by simp)
      rw [List.append_nil] at span
      rw [Kotlin.basicDecode, span.1, span.2, if_pos (.inl ⟨rfl, by simpa using whole⟩), known]
      exact decoded
    · have span := span_letters (padding sextets.length) bound letter (by decide)
        fun c => mem_padding
      rw [Kotlin.basicDecode, span.1, span.2, length_letters, known]
      rcases padding_cases sextets.length whole with ⟨rest, pads⟩ | ⟨rest, pads⟩ | ⟨rest, pads⟩ <;>
        simpa [pads, rest] using decoded

theorem charCodes_binaryString (bytes : Bytes) :
    Sdk.charCodes (Sdk.binaryString bytes) = bytes := by
  rw [Sdk.charCodes, Sdk.binaryString, List.map_map]
  refine (List.map_congr_left fun byte _ => ?_).trans (List.map_id _)
  have each : ∀ code : Fin 256, (Char.ofNat code.val).toNat = code.val := by
    decide +kernel
  have code : (Char.ofNat byte.toNat).toNat = byte.toNat := each ⟨byte.toNat, byte.toNat_lt⟩
  rw [Function.comp_apply, code]
  exact UInt8.ofNat_toNat

theorem dropFirstPads_plain {core : List Char} (plain : ∀ rest, core ≠ '=' :: rest) :
    Sdk.dropFirstPads core = core ∧ Sdk.dropFirstPads ('=' :: core) = core := by
  cases core with
  | nil => exact ⟨rfl, rfl⟩
  | cons c rest =>
      have other : c ≠ '=' := by
        rintro rfl
        exact plain rest rfl
      constructor
      · unfold Sdk.dropFirstPads
        split <;> simp_all
      · unfold Sdk.dropFirstPads
        split <;> simp_all

theorem dropPads_letters {sextets : List Nat} (text : Sextets sextets) :
    Sdk.dropPads (letters sextets ++ padding sextets.length) = letters sextets := by
  have plain (rest : List Char) : (letters sextets).reverse ≠ '=' :: rest := by
    intro same
    have member : '=' ∈ letters sextets := by
      rw [← List.mem_reverse, same]
      exact List.mem_cons_self
    exact (mem_letters text.bound member).1 rfl
  obtain ⟨none, one⟩ := dropFirstPads_plain plain
  rw [Sdk.dropPads, List.reverse_append]
  rcases padding_cases sextets.length text.whole with ⟨-, pads⟩ | ⟨-, pads⟩ | ⟨-, pads⟩
  · rw [pads, List.reverse_nil, List.nil_append, none, List.reverse_reverse]
  · rw [pads, List.reverse_singleton, List.singleton_append, one, List.reverse_reverse]
  · rw [pads]
    exact List.reverse_reverse _

theorem dropPads_cases (data : List Char) :
    data = Sdk.dropPads data ∨ data = Sdk.dropPads data ++ ['='] ∨
      data = Sdk.dropPads data ++ ['=', '='] := by
  have back := data.reverse_reverse
  rw [Sdk.dropPads]
  unfold Sdk.dropFirstPads
  split
  · rename_i core same
    right; right
    rw [← back, same]
    simp
  · rename_i core other same
    right; left
    rw [← back, same]
    simp
  · exact .inl back.symm

theorem atob_eq_some {text : List Char} {bytes : Bytes} :
    (Sdk.atob text).map Sdk.charCodes = some bytes ↔
      ∃ sextets, Spelled (text.filter fun c => !Sdk.isAsciiWhitespace c) sextets ∧
        bytesOf false sextets = some bytes := by
  have read (data : List Char) (whole : data.length % 4 ≠ 1) :
      (((data.mapM charSextet).bind (bytesOf false)).map Sdk.binaryString).map Sdk.charCodes =
          some bytes ↔
        ∃ sextets, Sextets sextets ∧ data = letters sextets ∧ bytesOf false sextets = some bytes := by
    rw [Option.map_map]
    have same : Sdk.charCodes ∘ Sdk.binaryString = id := funext charCodes_binaryString
    rw [same, Option.map_id, id, Option.bind_eq_some_iff]
    constructor
    · rintro ⟨sextets, known, decoded⟩
      obtain ⟨bound, rfl⟩ := mapM_charSextet.mp known
      exact ⟨sextets, ⟨bound, by simpa using whole⟩, rfl, decoded⟩
    · rintro ⟨sextets, text, rfl, decoded⟩
      exact ⟨sextets, mapM_charSextet.mpr ⟨text.bound, rfl⟩, decoded⟩
  simp only [Sdk.atob]
  generalize (text.filter fun c => !Sdk.isAsciiWhitespace c) = data
  constructor
  · intro decoded
    by_cases four : data.length % 4 = 0
    · rw [if_pos four] at decoded
      by_cases lone : (Sdk.dropPads data).length % 4 = 1
      · rw [if_pos lone] at decoded
        cases decoded
      · rw [if_neg lone] at decoded
        obtain ⟨sextets, spelled, core, bytes⟩ := (read _ lone).mp decoded
        refine ⟨sextets, ⟨spelled, ?_⟩, bytes⟩
        -- the length tells how many pads there were
        have lengths : (Sdk.dropPads data).length = sextets.length := by rw [core, length_letters]
        rcases dropPads_cases data with none | one | two
        · left
          rw [none, core]
        · right
          have count := congrArg List.length one
          rw [List.length_append, lengths, List.length_singleton] at count
          rw [one, core, padding, show sextets.length % 4 = 3 by omega]
          rfl
        · right
          have count := congrArg List.length two
          simp only [List.length_append, lengths, List.length_cons, List.length_nil] at count
          rw [two, core, padding, show sextets.length % 4 = 2 by omega]
          rfl
    · rw [if_neg four] at decoded
      by_cases lone : data.length % 4 = 1
      · rw [if_pos lone] at decoded
        cases decoded
      · rw [if_neg lone] at decoded
        obtain ⟨sextets, spelled, core, bytes⟩ := (read _ lone).mp decoded
        exact ⟨sextets, ⟨spelled, .inl core⟩, bytes⟩
  · rintro ⟨sextets, ⟨spelled, shape⟩, decoded⟩
    have lone : ¬ (letters sextets).length % 4 = 1 := by
      rw [length_letters]
      exact spelled.whole
    have result := (read _ lone).mpr ⟨sextets, spelled, rfl, decoded⟩
    have dropped := dropPads_letters spelled
    have cut : (if data.length % 4 = 0 then Sdk.dropPads data else data) = letters sextets := by
      rcases shape with rfl | rfl
      · split
        · rename_i four
          rw [length_letters] at four
          rw [padding, four] at dropped
          simpa using dropped
        · rfl
      · rw [dropped, if_pos]
        rw [List.length_append, length_letters, padding, List.length_replicate]
        omega
    rw [cut, if_neg lone]
    exact result

theorem bufferFrom_padded {sextets : List Nat} (text : Sextets sextets) :
    Node.bufferFrom (letters sextets ++ padding sextets.length) = bytesOf false sextets := by
  have plain : ∀ i : Fin 64, (sextetChar i).toNat < 256 ∧ sextetChar i ≠ '=' ∧
      anySextet (sextetChar i).toNat = some i.val := by decide +kernel
  exact Node.bufferFrom_letters (fun sextet small => plain ⟨sextet, small⟩) text.bound _

theorem isPadded_iff {body : List Char} :
    Node.isPadded body = true ↔
      ∃ sextets, Sextets sextets ∧ body = letters sextets ++ padding sextets.length := by
  have apart := List.takeWhile_append_dropWhile (p := fun c => (charSextet c).isSome) (l := body)
  simp only [Node.isPadded, Bool.and_eq_true, Bool.or_eq_true, beq_iff_eq]
  constructor
  · rintro ⟨shape, four⟩
    obtain ⟨sextets, bound, core⟩ := letters_of_known
      (body.takeWhile fun c => (charSextet c).isSome) fun c member =>
        List.mem_takeWhile_imp (p := fun c => (charSextet c).isSome) member
    rw [core] at apart
    have count := congrArg List.length apart
    rw [List.length_append, length_letters] at count
    refine ⟨sextets, ⟨bound, ?_⟩, ?_⟩
    · rcases shape with (none | one) | two
      · rw [none, List.length_nil] at count
        omega
      · rw [one, List.length_singleton] at count
        omega
      · rw [two, List.length_cons, List.length_singleton] at count
        omega
    · rw [← apart]
      congr 1
      rcases shape with (none | one) | two
      · rw [none, List.length_nil] at count
        rw [none, padding, show sextets.length % 4 = 0 by omega]
        rfl
      · rw [one, List.length_singleton] at count
        rw [one, padding, show sextets.length % 4 = 3 by omega]
        rfl
      · rw [two, List.length_cons, List.length_singleton] at count
        rw [two, padding, show sextets.length % 4 = 2 by omega]
        rfl
  · rintro ⟨sextets, text, rfl⟩
    have span := span_letters (padding sextets.length)
      (p := fun c => (charSextet c).isSome) text.bound (fun _ _ known => known) (by decide)
      fun c => mem_padding
    rw [span.2, List.length_append, length_letters]
    rcases padding_cases sextets.length text.whole with ⟨rest, pads⟩ | ⟨rest, pads⟩ | ⟨rest, pads⟩ <;>
      rw [pads] <;> simp <;> omega

theorem bodyOf_eq_some {value : String} {body : List Char} :
    bodyOf value = some body ↔ value = "b64:" ++ String.ofList body := by
  rw [← String.toList_inj]
  have chars : ("b64:" ++ String.ofList body).toList = 'b' :: '6' :: '4' :: ':' :: body := by simp
  rw [chars, bodyOf]
  constructor
  · intro found
    split at found
    · rename_i same
      rw [same, Option.some.inj found]
    · cases found
  · intro same
    simp only [same]

theorem visible_letters {sextets : List Nat} (bound : ∀ sextet ∈ sextets, sextet < 64) :
    ∀ c ∈ letters sextets, Sdk.isAsciiWhitespace c = false := by
  have each : ∀ i : Fin 64, Sdk.isAsciiWhitespace (sextetChar i) = false := by decide +kernel
  intro c member
  obtain ⟨sextet, inside, rfl⟩ := List.mem_map.mp member
  exact each ⟨sextet, bound sextet inside⟩

theorem decodeB64_eq (strict : Bool) (value : String) :
    Wire.decodeB64 strict value = (bodyOf value).bind (decodeBase64 strict) := by
  cases found : bodyOf value with
  | some body =>
    rw [bodyOf_eq_some.mp found]
    simp [Wire.decodeB64]
  | none =>
    have other (body : List Char) : value.toList ≠ 'b' :: '6' :: '4' :: ':' :: body := by
      intro same
      simp only [bodyOf, same] at found
      cases found
    unfold Wire.decodeB64
    split
    · rename_i same
      exact absurd same (other _)
    · rfl

theorem Node.decodeB64_eq (value : String) : Node.decodeB64 value = Wire.decodeB64 false value := by
  rw [Wire.decodeB64_eq, Node.decodeB64]
  congr 1
  funext body
  by_cases padded : Node.isPadded body = true
  · obtain ⟨sextets, text, rfl⟩ := isPadded_iff.mp padded
    rw [if_pos padded, bufferFrom_padded text, decodeBase64_letters text]
  · rw [if_neg padded]
    cases decoded : decodeBase64 false body with
    | none => rfl
    | some bytes =>
        obtain ⟨sextets, text, spelled, -⟩ := decodeBase64_eq_some.mp decoded
        exact absurd (isPadded_iff.mpr ⟨sextets, text, spelled⟩) padded

theorem trimEnd_letters {sextets : List Nat} (text : Sextets sextets) :
    Rust.trimEnd (letters sextets ++ padding sextets.length) = letters sextets := by
  have pads : ∀ c ∈ (padding sextets.length).reverse, (c == '=') = true := by
    intro c member
    rw [beq_iff_eq]
    exact mem_padding (List.mem_reverse.mp member)
  have kept : (letters sextets).reverse.dropWhile (· == '=') = (letters sextets).reverse := by
    rw [List.dropWhile_eq_self_iff]
    intro inside
    have member := List.mem_reverse.mp (List.getElem_mem inside)
    simpa using (mem_letters text.bound member).1
  rw [Rust.trimEnd, List.reverse_append, List.dropWhile_append_of_pos pads, kept,
    List.reverse_reverse]

theorem Rust.decodeB64_eq (value : String) : Rust.decodeB64 value = Wire.decodeB64 true value := by
  rw [Wire.decodeB64_eq, Rust.decodeB64]
  congr 1
  funext body
  cases decoded : decodeBase64 true body with
  | none =>
      dsimp only
      split
      · rfl
      · split
        · rfl
        · split <;> rfl
  | some bytes =>
      -- what the engine takes passes the checks before it
      obtain ⟨sextets, text, rfl, -⟩ := decodeBase64_eq_some.mp decoded
      have whole := text.whole
      have all : ((letters sextets).all fun c => (charSextet c).isSome) = true :=
        List.all_eq_true.mpr fun c member => (mem_letters text.bound member).2
      have pads : (padding sextets.length).length = (4 - sextets.length % 4) % 4 :=
        List.length_replicate
      simp only [trimEnd_letters text, List.length_append, length_letters, pads, all, if_true]
      rw [if_neg (by omega), if_neg (by omega)]

/-- A text that the most lenient of the decoders takes: white space anywhere, padding or none, any
last bits. -/
def Forgiven (value : String) : Prop :=
  ∃ body sextets, bodyOf value = some body ∧
    Spelled (body.filter fun c => !Sdk.isAsciiWhitespace c) sextets

/-- The base64 of some bytes: no white space, padded, the last bits zero. -/
def Canonical (value : String) : Prop := ∃ bytes, value = encodeB64 bytes

/-- The decoders take the text alike, and only as the encoders write it. -/
def OneCodec (value : String) : Prop :=
  (Rust.decodeB64 value = Node.decodeB64 value ∧ Sdk.decodeB64 value = Node.decodeB64 value ∧
      Kotlin.decodeB64 value = Node.decodeB64 value) ∧
    ∀ bytes, Node.decodeB64 value = some bytes → encodeB64 bytes = value

theorem Sdk.decodeB64_eq_some {value : String} {bytes : Bytes} :
    Sdk.decodeB64 value = some bytes ↔
      ∃ body, bodyOf value = some body ∧ ∃ sextets,
        Spelled (body.filter fun c => !Sdk.isAsciiWhitespace c) sextets ∧
          bytesOf false sextets = some bytes := by
  simp only [Sdk.decodeB64, Option.bind_eq_some_iff, atob_eq_some]

theorem Kotlin.decodeB64_eq_some {value : String} {bytes : Bytes} :
    Kotlin.decodeB64 value = some bytes ↔
      ∃ body, bodyOf value = some body ∧ ∃ sextets,
        Spelled body sextets ∧ bytesOf false sextets = some bytes := by
  simp only [Kotlin.decodeB64, Option.bind_eq_some_iff, basicDecode_eq_some]

theorem bytesOf_false (sextets : List Nat) : ∃ bytes, bytesOf false sextets = some bytes := by
  fun_induction bytesOf false sextets with
  | case8 w x y z rest ih =>
      obtain ⟨later, decoded⟩ := ih
      exact ⟨_, by rw [decoded, Option.map_some]⟩
  | _ => simp_all

theorem Sdk.decodeB64_isSome (value : String) :
    (Sdk.decodeB64 value).isSome = true ↔ Forgiven value := by
  rw [Option.isSome_iff_exists]
  constructor
  · rintro ⟨bytes, decoded⟩
    obtain ⟨body, found, sextets, spelled, -⟩ := Sdk.decodeB64_eq_some.mp decoded
    exact ⟨body, sextets, found, spelled⟩
  · rintro ⟨body, sextets, found, spelled⟩
    obtain ⟨bytes, decoded⟩ := bytesOf_false sextets
    exact ⟨bytes, Sdk.decodeB64_eq_some.mpr ⟨body, found, sextets, spelled, decoded⟩⟩

/-- Rust takes nothing that Node refuses, Node nothing that Kotlin refuses, and Kotlin nothing that
the SDK refuses. -/
theorem Rust.decodeB64_node {value : String} {bytes : Bytes}
    (decoded : Rust.decodeB64 value = some bytes) :
    Node.decodeB64 value = some bytes ∧ encodeB64 bytes = value := by
  rw [Rust.decodeB64_eq, Wire.decodeB64_eq, Option.bind_eq_some_iff] at decoded
  obtain ⟨body, found, decoded⟩ := decoded
  obtain ⟨sextets, text, rfl, strict⟩ := decodeBase64_eq_some.mp decoded
  constructor
  · rw [Node.decodeB64_eq, Wire.decodeB64_eq, found, Option.bind_some, decodeBase64_letters text,
      bytesOf_lenient text.bound strict]
  · obtain ⟨-, spelled⟩ := encodeBase64_eq bytes
    rw [sextetsOf_bytesOf text.bound strict] at spelled
    rw [encodeB64, spelled, bodyOf_eq_some.mp found]

theorem Node.decodeB64_kotlin {value : String} {bytes : Bytes}
    (decoded : Node.decodeB64 value = some bytes) : Kotlin.decodeB64 value = some bytes := by
  rw [Node.decodeB64_eq, Wire.decodeB64_eq, Option.bind_eq_some_iff] at decoded
  obtain ⟨body, found, decoded⟩ := decoded
  obtain ⟨sextets, text, spelled, read⟩ := decodeBase64_eq_some.mp decoded
  exact Kotlin.decodeB64_eq_some.mpr ⟨body, found, sextets, ⟨text, .inr spelled⟩, read⟩

theorem Kotlin.decodeB64_sdk {value : String} {bytes : Bytes}
    (decoded : Kotlin.decodeB64 value = some bytes) : Sdk.decodeB64 value = some bytes := by
  obtain ⟨body, found, sextets, ⟨text, shape⟩, read⟩ := Kotlin.decodeB64_eq_some.mp decoded
  have visible : (body.filter fun c => !Sdk.isAsciiWhitespace c) = body := by
    rw [List.filter_eq_self]
    intro c member
    rw [Bool.not_eq_true']
    rcases shape with rfl | rfl
    · exact visible_letters text.bound c member
    · rcases List.mem_append.mp member with letter | pad
      · exact visible_letters text.bound c letter
      · rw [mem_padding pad]
        decide
  refine Sdk.decodeB64_eq_some.mpr ⟨body, found, sextets, ?_, read⟩
  rw [visible]
  exact ⟨text, shape⟩

theorem canonical_decodes (bytes : Bytes) : Rust.decodeB64 (encodeB64 bytes) = some bytes := by
  rw [Rust.decodeB64_eq, decodeB64_encodeB64]

theorem Sdk.encodeB64_eq (bytes : Bytes) : Sdk.encodeB64 bytes = Wire.encodeB64 bytes := by
  rw [Sdk.encodeB64, Sdk.btoa, charCodes_binaryString, Wire.encodeB64]

/-- Every encoding is read back by every decoder, and a text is taken alike and spelled only once
exactly when it is no other spelling of a base64 text than the canonical one. -/
theorem one_b64_codec (bytes : Bytes) (value : String) :
    ((Node.encodeB64 bytes = encodeB64 bytes ∧ Rust.encodeB64 bytes = encodeB64 bytes ∧
        Sdk.encodeB64 bytes = encodeB64 bytes ∧ Kotlin.encodeB64 bytes = encodeB64 bytes) ∧
      Node.decodeB64 (encodeB64 bytes) = some bytes ∧
      Rust.decodeB64 (encodeB64 bytes) = some bytes ∧
      Sdk.decodeB64 (encodeB64 bytes) = some bytes ∧
      Kotlin.decodeB64 (encodeB64 bytes) = some bytes) ∧
    (OneCodec value ↔ (Forgiven value → Canonical value)) := by
  have all {value : String} {bytes : Bytes} (decoded : Rust.decodeB64 value = some bytes) :
      Node.decodeB64 value = some bytes ∧ Kotlin.decodeB64 value = some bytes ∧
        Sdk.decodeB64 value = some bytes := by
    have node := (Rust.decodeB64_node decoded).1
    have kotlin := Node.decodeB64_kotlin node
    exact ⟨node, kotlin, Kotlin.decodeB64_sdk kotlin⟩
  constructor
  · have rust := canonical_decodes bytes
    obtain ⟨node, kotlin, sdk⟩ := all rust
    exact ⟨⟨rfl, rfl, Sdk.encodeB64_eq bytes, rfl⟩, node, rust, sdk, kotlin⟩
  · constructor
    · rintro ⟨⟨rust, sdk, kotlin⟩, once⟩ forgiven
      obtain ⟨bytes, decoded⟩ := Option.isSome_iff_exists.mp
        ((Sdk.decodeB64_isSome value).mpr forgiven)
      rw [sdk] at decoded
      exact ⟨bytes, (once bytes decoded).symm⟩
    · intro condition
      by_cases forgiven : Forgiven value
      · obtain ⟨bytes, rfl⟩ := condition forgiven
        have rust := canonical_decodes bytes
        obtain ⟨node, kotlin, sdk⟩ := all rust
        refine ⟨⟨by rw [rust, node], by rw [sdk, node], by rw [kotlin, node]⟩, ?_⟩
        intro other decoded
        rw [node, Option.some.injEq] at decoded
        rw [decoded]
      · -- what the SDK refuses is refused by the others
        have refused : Sdk.decodeB64 value = none := by
          rw [← Option.not_isSome_iff_eq_none, Sdk.decodeB64_isSome]
          exact forgiven
        have kotlin : Kotlin.decodeB64 value = none := by
          cases decoded : Kotlin.decodeB64 value with
          | none => rfl
          | some bytes =>
              rw [Kotlin.decodeB64_sdk decoded] at refused
              cases refused
        have node : Node.decodeB64 value = none := by
          cases decoded : Node.decodeB64 value with
          | none => rfl
          | some bytes =>
              rw [Node.decodeB64_kotlin decoded] at kotlin
              cases kotlin
        have rust : Rust.decodeB64 value = none := by
          cases decoded : Rust.decodeB64 value with
          | none => rfl
          | some bytes =>
              rw [(Rust.decodeB64_node decoded).1] at node
              cases node
        rw [OneCodec, node, rust, refused, kotlin]
        exact ⟨⟨rfl, rfl, rfl⟩, nofun⟩

/-- `b64:QR==` has last bits that are not zero. -/
theorem second_spelling_taken : ¬ ∀ value, OneCodec value := by
  intro all
  have rust := (all "b64:QR==").1.1
  revert rust
  decide +kernel

example : Sdk.decodeB64 "b64:Q Q" = some [65] ∧ Kotlin.decodeB64 "b64:QQ" = some [65] ∧
    Kotlin.decodeB64 "b64:Q Q" = none ∧ Node.decodeB64 "b64:QQ" = none ∧
    Node.decodeB64 "b64:QR==" = some [65] ∧ Rust.decodeB64 "b64:QR==" = none := by
  decide +kernel

end ZenPass.Wire
