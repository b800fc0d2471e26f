import ZenPass.Lib.Draw
import Mathlib.Data.Int.CardIntervalMod
import Mathlib.Data.Set.Card

set_option autoImplicit false

namespace ZenPass.Web.Generator

open Draw

structure GeneratorOptions where
  length : Nat
  upper : Bool
  lower : Bool
  digits : Bool
  symbols : Bool

def defaultGeneratorOptions : GeneratorOptions where
  length := 20
  upper := true
  lower := true
  digits := true
  symbols := true

inductive CharClass where
  | upper | lower | digits | symbols
  deriving DecidableEq

def charsets : CharClass → List Char
  | .upper => "ABCDEFGHJKLMNPQRSTUVWXYZ".toList
  | .lower => "abcdefghijkmnopqrstuvwxyz".toList
  | .digits => "23456789".toList
  | .symbols => "!@#$%^&*()-_=+[]\x7b\x7d".toList

def GeneratorOptions.enabled (opts : GeneratorOptions) : CharClass → Bool
  | .upper => opts.upper
  | .lower => opts.lower
  | .digits => opts.digits
  | .symbols => opts.symbols

def GeneratorOptions.classes (opts : GeneratorOptions) : List CharClass :=
  [.upper, .lower, .digits, .symbols].filter opts.enabled

def GeneratorOptions.alphabet (opts : GeneratorOptions) : List Char :=
  opts.classes.flatMap charsets

-- A byte is read again while it is in the last, incomplete range of remainders.
def acceptIndex (max : Nat) (positive : 0 < max) (value : UInt8) : Option (Fin max) :=
  if value.toNat ≥ 256 - 256 % max then none
  else some ⟨value.toNat % max, Nat.mod_lt _ positive⟩

def randomIndex (max : Nat) : Drawing UInt8 String (Fin max) :=
  if positive : 0 < max then accepted (acceptIndex max positive)
  else throw (.thrown "randomIndex: max must be positive")

-- one character from each set
def drawEach : List (List Char) → Drawing UInt8 String (List Char)
  | [] => pure []
  | set :: sets => do
    let index ← randomIndex set.length
    let chars ← drawEach sets
    pure (set.get index :: chars)

def shuffle : Nat → Array Char → Drawing UInt8 String (Array Char)
  | 0, chars => pure chars
  | i + 1, chars => do
    let j ← randomIndex (i + 2)
    shuffle i (chars.swapIfInBounds (i + 1) j)

-- One of each class first, the rest from the alphabet.
def drawCharacters (opts : GeneratorOptions) : Drawing UInt8 String (List Char) := do
  let guaranteed ← drawEach (opts.classes.map charsets)
  let filled ← drawEach (List.replicate (opts.length - guaranteed.length) opts.alphabet)
  pure (guaranteed ++ filled)

def generatePassword (opts : GeneratorOptions) : Drawing UInt8 String String :=
  if opts.length < 1 then throw (.thrown "generatePassword: length must be at least 1")
  else if opts.classes.length = 0 then
    throw (.thrown "generatePassword: at least one character class must be enabled")
  else if opts.length < opts.classes.length then
    throw (.thrown
      "generatePassword: length must be at least the number of enabled character classes")
  else do
    let drawn ← drawCharacters opts
    let chars ← shuffle (drawn.length - 1) drawn.toArray
    pure (String.ofList chars.toList)

-- What the helper is asked for
inductive Asks (opts : GeneratorOptions) : Nat → Prop
  | guaranteed {cls : CharClass} : cls ∈ opts.classes → Asks opts (charsets cls).length
  | filled : opts.classes.length < opts.length → Asks opts opts.alphabet.length
  | swap {i : Nat} : 1 ≤ i → i < opts.length → Asks opts (i + 1)

/-- Every index is drawn by the same number of bytes, at least one. -/
def Uniform (max : Nat) : Prop :=
  ∃ count, 0 < count ∧
    ∀ index : Fin max, {value : UInt8 | (randomIndex max).run [value] = .ok (index, [])}.ncard = count

/-- What a password is promised to be, made of the characters drawn from these bytes. -/
structure Promised (opts : GeneratorOptions) (bytes : List UInt8) (password : String) : Prop where
  length : password.toList.length = opts.length
  alphabet : ∀ char ∈ password.toList, char ∈ opts.alphabet
  covers : ∀ cls ∈ opts.classes, ∃ char ∈ password.toList, char ∈ charsets cls
  permuted : ∃ drawn rest, (drawCharacters opts).run bytes = .ok (drawn, rest) ∧
    password.toList.Perm drawn

theorem charsets_length (cls : CharClass) : 8 ≤ (charsets cls).length ∧ (charsets cls).length ≤ 25 := by
  cases cls <;> decide

theorem classes_length_le (opts : GeneratorOptions) : opts.classes.length ≤ 4 :=
  List.length_filter_le _ _

theorem flatMap_charsets_length (classes : List CharClass) :
    8 * classes.length ≤ (classes.flatMap charsets).length ∧
      (classes.flatMap charsets).length ≤ 25 * classes.length := by
  induction classes with
  | nil => simp
  | cons cls classes ih =>
    have size := charsets_length cls
    rw [List.flatMap_cons, List.length_append, List.length_cons]
    omega

theorem alphabet_length (opts : GeneratorOptions) (chosen : opts.classes ≠ []) :
    1 ≤ opts.alphabet.length ∧ opts.alphabet.length ≤ 256 := by
  have sizes := flatMap_charsets_length opts.classes
  have few := classes_length_le opts
  have some := List.length_pos_iff.mpr chosen
  unfold GeneratorOptions.alphabet
  omega

theorem acceptIndex_eq_some {max : Nat} {positive : 0 < max} {value : UInt8} {index : Fin max} :
    acceptIndex max positive value = some index ↔
      value.toNat < 256 - 256 % max ∧ value.toNat % max = index := by
  unfold acceptIndex
  split_ifs with rejected
  · simp [Nat.not_lt.mpr rejected]
  · simp [Nat.lt_of_not_le rejected, Fin.ext_iff]

theorem randomIndex_ends {stream : Nat → UInt8} (fair : Fair stream) {max : Nat} (positive : 0 < max)
    (small : max ≤ 256) : Ends stream (randomIndex max) fun _ => True := by
  -- the byte 0 is below every range
  have zero : (acceptIndex max positive 0).isSome = true := by
    have remainder : 256 % max ≤ 256 - max := by
      have whole := Nat.div_add_mod 256 max
      have once : 1 ≤ 256 / max := Nat.div_pos small positive
      have part : max ≤ max * (256 / max) := Nat.le_mul_of_pos_right max once
      omega
    have below : ¬(0 : UInt8).toNat ≥ 256 - 256 % max := by
      rw [show (0 : UInt8).toNat = 0 from rfl]
      omega
    simp only [acceptIndex, if_neg below, Option.isSome_some]
  rw [randomIndex, dif_pos positive]
  exact (accepted_ends fair zero).imp fun _ _ => trivial

theorem randomIndex_never {max : Nat} (large : 256 < max) (bytes : List UInt8)
    (result : Fin max × List UInt8) : (randomIndex max).run bytes ≠ .ok result := by
  intro ran
  rw [randomIndex, dif_pos (by omega)] at ran
  obtain ⟨value, -, accepts⟩ := accepted_eq_ok ran
  have below := (acceptIndex_eq_some.mp accepts).1
  rw [Nat.mod_eq_of_lt large] at below
  omega

theorem randomIndex_run_singleton {max : Nat} (positive : 0 < max) (value : UInt8) (index : Fin max) :
    (randomIndex max).run [value] = .ok (index, []) ↔
      value.toNat < 256 - 256 % max ∧ value.toNat % max = index := by
  rw [← @acceptIndex_eq_some max positive, randomIndex, dif_pos positive]
  simp only [StateT.run, accepted]
  cases acceptIndex max positive value with
  | none => simp
  | some found => simp

theorem randomIndex_uniform {max : Nat} (positive : 0 < max) (small : max ≤ 256) : Uniform max := by
  refine ⟨256 / max, Nat.div_pos small positive, ?_⟩
  intro index
  simp only [randomIndex_run_singleton positive]
  -- counted as numbers instead of bytes
  have numbers : UInt8.toNat '' {value : UInt8 | value.toNat < 256 - 256 % max ∧
      value.toNat % max = index}
      = ↑((Finset.range (256 - 256 % max)).filter fun value => value ≡ (index : Nat) [MOD max]) := by
    ext number
    simp only [Set.mem_image, Set.mem_ofPred_eq, Finset.coe_filter, Finset.mem_range, Nat.ModEq,
      Nat.mod_eq_of_lt index.isLt]
    constructor
    · rintro ⟨value, counted, rfl⟩
      exact counted
    · intro counted
      have byte : (UInt8.ofNat number).toNat = number :=
        UInt8.toNat_ofNat_of_lt' (Nat.lt_of_lt_of_le counted.1 (Nat.sub_le _ _))
      exact ⟨UInt8.ofNat number, byte.symm ▸ counted, byte⟩
  have injective : Function.Injective UInt8.toNat := fun _ _ same => UInt8.toNat_inj.mp same
  have whole : 256 - 256 % max = max * (256 / max) := by
    have division := Nat.div_add_mod 256 max
    omega
  rw [← Set.ncard_image_of_injective _ injective, numbers, Set.ncard_coe_finset,
    ← Nat.count_eq_card_filter_range, Nat.count_modEq_card _ positive, whole,
    Nat.mul_div_cancel_left _ positive, Nat.mul_mod_right]
  simp

theorem drawEach_ends {stream : Nat → UInt8} (fair : Fair stream) {sets : List (List Char)}
    (sizes : ∀ set ∈ sets, 1 ≤ set.length ∧ set.length ≤ 256) :
    Ends stream (drawEach sets) fun chars => chars.length = sets.length := by
  induction sets with
  | nil => exact .pure rfl
  | cons set sets ih =>
    obtain ⟨here, later⟩ := List.forall_mem_cons.mp sizes
    refine (randomIndex_ends fair here.1 here.2).bind fun index _ => ?_
    refine (ih later).bind fun chars length => ?_
    exact .pure (congrArg Nat.succ length)

theorem drawEach_eq_ok {sets : List (List Char)} {bytes rest : List UInt8} {chars : List Char}
    (ran : (drawEach sets).run bytes = .ok (chars, rest)) : List.Forall₂ (· ∈ ·) chars sets := by
  induction sets generalizing bytes chars with
  | nil =>
    cases ran
    exact .nil
  | cons set sets ih =>
    obtain ⟨index, middle, -, ran⟩ := run_bind_eq_ok.mp ran
    obtain ⟨later, after, ranLater, ran⟩ := run_bind_eq_ok.mp ran
    cases ran
    exact .cons (List.get_mem set index) (ih ranLater)

theorem swapIfInBounds_perm (chars : Array Char) (i j : Nat) : (chars.swapIfInBounds i j).Perm chars := by
  rw [Array.swapIfInBounds_def]
  split_ifs with first second
  · exact Array.swap_perm first second
  · exact .refl _
  · exact .refl _

theorem shuffle_perm {i : Nat} {chars shuffled : Array Char} {bytes rest : List UInt8}
    (ran : (shuffle i chars).run bytes = .ok (shuffled, rest)) : shuffled.Perm chars := by
  induction i generalizing chars bytes with
  | zero =>
    cases ran
    exact .refl _
  | succ i ih =>
    obtain ⟨j, middle, -, ran⟩ := run_bind_eq_ok.mp ran
    exact (ih ran).trans (swapIfInBounds_perm chars _ _)

theorem shuffle_ends {stream : Nat → UInt8} (fair : Fair stream) {i : Nat} (small : i < 256)
    (chars : Array Char) : Ends stream (shuffle i chars) fun _ => True := by
  induction i generalizing chars with
  | zero => exact .pure trivial
  | succ i ih =>
    refine (randomIndex_ends fair (by omega) (by omega)).bind fun j _ => ?_
    exact ih (by omega) _

-- The first swap asks for an index below the length.
theorem shuffle_never {i : Nat} (large : 256 ≤ i) (chars : Array Char) (bytes : List UInt8)
    (result : Array Char × List UInt8) : (shuffle i chars).run bytes ≠ .ok result := by
  intro ran
  obtain ⟨i, rfl⟩ : ∃ before, i = before + 1 := ⟨i - 1, by omega⟩
  obtain ⟨j, middle, drawn, -⟩ := run_bind_eq_ok.mp ran
  exact randomIndex_never (by omega) bytes _ drawn

theorem mem_of_forall₂ {chars : List Char} {sets : List (List Char)}
    (drawn : List.Forall₂ (· ∈ ·) chars sets) :
    (∀ char ∈ chars, ∃ set ∈ sets, char ∈ set) ∧ ∀ set ∈ sets, ∃ char ∈ chars, char ∈ set := by
  induction drawn with
  | nil => simp
  | cons here _ ih =>
    refine ⟨?_, ?_⟩
    · rw [List.forall_mem_cons]
      refine ⟨⟨_, List.mem_cons_self, here⟩, ?_⟩
      intro char member
      obtain ⟨set, there, inside⟩ := ih.1 char member
      exact ⟨set, List.mem_cons_of_mem _ there, inside⟩
    · rw [List.forall_mem_cons]
      refine ⟨⟨_, List.mem_cons_self, here⟩, ?_⟩
      intro set member
      obtain ⟨char, there, inside⟩ := ih.2 set member
      exact ⟨char, List.mem_cons_of_mem _ there, inside⟩

section Password

variable {opts : GeneratorOptions} (enough : opts.classes.length ≤ opts.length)

include enough

theorem drawCharacters_eq_ok {bytes rest : List UInt8} {drawn : List Char}
    (ran : (drawCharacters opts).run bytes = .ok (drawn, rest)) :
    drawn.length = opts.length ∧ (∀ char ∈ drawn, char ∈ opts.alphabet) ∧
      ∀ cls ∈ opts.classes, ∃ char ∈ drawn, char ∈ charsets cls := by
  obtain ⟨guaranteed, middle, first, ran⟩ := run_bind_eq_ok.mp ran
  obtain ⟨filled, after, second, ran⟩ := run_bind_eq_ok.mp ran
  cases ran
  have each := drawEach_eq_ok first
  have others := drawEach_eq_ok second
  have lengthEach := each.length_eq
  have lengthOthers := others.length_eq
  rw [List.length_map] at lengthEach
  rw [List.length_replicate] at lengthOthers
  refine ⟨?_, ?_, ?_⟩
  · rw [List.length_append]
    omega
  · intro char member
    rcases List.mem_append.mp member with member | member
    · obtain ⟨set, there, inside⟩ := (mem_of_forall₂ each).1 char member
      obtain ⟨cls, chosen, rfl⟩ := List.mem_map.mp there
      exact List.mem_flatMap.mpr ⟨cls, chosen, inside⟩
    · obtain ⟨set, there, inside⟩ := (mem_of_forall₂ others).1 char member
      rw [List.eq_of_mem_replicate there] at inside
      exact inside
  · intro cls there
    obtain ⟨char, member, inside⟩ := (mem_of_forall₂ each).2 _ (List.mem_map_of_mem there)
    exact ⟨char, List.mem_append_left _ member, inside⟩

variable (chosen : opts.classes ≠ [])

include chosen

theorem generatePassword_eq : generatePassword opts = (do
    let drawn ← drawCharacters opts
    let chars ← shuffle (drawn.length - 1) drawn.toArray
    pure (String.ofList chars.toList)) := by
  have some := List.length_pos_iff.mpr chosen
  rw [generatePassword, if_neg (by omega), if_neg (by omega), if_neg (by omega)]

theorem promised_of_generatePassword {bytes rest : List UInt8} {password : String}
    (ran : (generatePassword opts).run bytes = .ok (password, rest)) :
    Promised opts bytes password := by
  rw [generatePassword_eq enough chosen] at ran
  obtain ⟨drawn, middle, first, ran⟩ := run_bind_eq_ok.mp ran
  obtain ⟨chars, after, second, ran⟩ := run_bind_eq_ok.mp ran
  cases ran
  obtain ⟨length, alphabet, covers⟩ := drawCharacters_eq_ok enough first
  have perm : (String.ofList chars.toList).toList.Perm drawn := by
    rw [String.toList_ofList]
    exact (shuffle_perm second).toList
  refine ⟨perm.length_eq.trans length, ?_, ?_, drawn, middle, first, perm⟩
  · intro char member
    exact alphabet char (perm.mem_iff.mp member)
  · intro cls there
    obtain ⟨char, member, inside⟩ := covers cls there
    exact ⟨char, perm.mem_iff.mpr member, inside⟩

theorem generatePassword_ends {stream : Nat → UInt8} (fair : Fair stream) (short : opts.length ≤ 256) :
    Ends stream (generatePassword opts) fun _ => True := by
  have classSizes : ∀ set ∈ opts.classes.map charsets, 1 ≤ set.length ∧ set.length ≤ 256 := by
    intro set member
    obtain ⟨cls, -, rfl⟩ := List.mem_map.mp member
    have size := charsets_length cls
    omega
  have alphabetSizes : ∀ n, ∀ set ∈ List.replicate n opts.alphabet, 1 ≤ set.length ∧ set.length ≤ 256 := by
    intro n set member
    rw [List.eq_of_mem_replicate member]
    exact alphabet_length opts chosen
  rw [generatePassword_eq enough chosen]
  have drawnEnds : Ends stream (drawCharacters opts) fun drawn => drawn.length = opts.length := by
    refine (drawEach_ends fair classSizes).bind fun guaranteed length => ?_
    refine (drawEach_ends fair (alphabetSizes _)).bind fun filled length' => ?_
    rw [List.length_map] at length
    rw [List.length_replicate] at length'
    apply Ends.pure
    rw [List.length_append]
    omega
  refine drawnEnds.bind fun drawn length => ?_
  have some := List.length_pos_iff.mpr chosen
  refine (shuffle_ends fair (by omega) drawn.toArray).bind fun chars _ => ?_
  exact .pure trivial

theorem generatePassword_never (long : 256 < opts.length) (bytes : List UInt8)
    (result : String × List UInt8) : (generatePassword opts).run bytes ≠ .ok result := by
  intro ran
  rw [generatePassword_eq enough chosen] at ran
  obtain ⟨drawn, middle, first, ran⟩ := run_bind_eq_ok.mp ran
  obtain ⟨chars, after, second, -⟩ := run_bind_eq_ok.mp ran
  have length := (drawCharacters_eq_ok enough first).1
  exact shuffle_never (by omega) _ _ _ second

omit enough in
theorem Asks.bounds (short : opts.length ≤ 256) {max : Nat} (asked : Asks opts max) :
    0 < max ∧ max ≤ 256 := by
  cases asked with
  | @guaranteed cls _ =>
    have size := charsets_length cls
    omega
  | filled _ => exact alphabet_length opts chosen
  | swap _ _ => omega

end Password

-- a stream that counts
def counting (n : Nat) : UInt8 := UInt8.ofNat n

theorem counting_fair : Fair counting := by
  intro value start
  refine ⟨256 * start + value.toNat, by omega, ?_⟩
  apply UInt8.toNat_inj.mp
  rw [counting, UInt8.toNat_ofNat']
  have small := value.toNat_lt
  omega

/-- Every stream in which no byte is withheld for ever makes a password as promised, exactly up to 256
characters; beyond, no stream makes one. -/
theorem generatePassword_promised_iff (opts : GeneratorOptions) (chosen : opts.classes ≠ [])
    (enough : opts.classes.length ≤ opts.length) :
    ((∀ stream, Fair stream → ∃ n password,
        (∀ rest, (generatePassword opts).run (segment stream 0 n ++ rest) = .ok (password, rest)) ∧
        Promised opts (segment stream 0 n) password) ∧
      ∀ max, Asks opts max → Uniform max) ↔
    opts.length ≤ 256 := by
  constructor
  · rintro ⟨terminates, -⟩
    obtain ⟨n, password, ran, -⟩ := terminates counting counting_fair
    by_contra long
    exact generatePassword_never enough chosen (Nat.lt_of_not_le long) _ _ (ran [])
  · intro short
    refine ⟨?_, ?_⟩
    · intro stream fair
      obtain ⟨password, n, -, -, ran⟩ := generatePassword_ends enough chosen fair short 0
      refine ⟨n, password, ran, ?_⟩
      have returned := ran []
      rw [List.append_nil] at returned
      exact promised_of_generatePassword enough chosen returned
    · intro max asked
      obtain ⟨positive, small⟩ := asked.bounds chosen short
      exact randomIndex_uniform positive small

-- the defaults with a length of 257
def longOptions : GeneratorOptions := { defaultGeneratorOptions with length := 257 }

/-- 257 characters are never made from the stream that counts. -/
theorem generatePassword_hangs :
    Fair counting ∧ ∀ bytes result, (generatePassword longOptions).run bytes ≠ .ok result :=
  ⟨counting_fair, generatePassword_never (by decide) (by decide) (by decide)⟩

theorem generatePassword_promised_default :
    ∃ n password, Promised defaultGeneratorOptions (segment counting 0 n) password := by
  obtain ⟨n, password, -, promised⟩ := ((generatePassword_promised_iff defaultGeneratorOptions (by decide)
    (by decide)).mpr (by decide)).1 counting counting_fair
  exact ⟨n, password, promised⟩

end ZenPass.Web.Generator
