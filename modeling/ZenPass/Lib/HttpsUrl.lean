import Mathlib.Data.List.DropRight
import Mathlib.Tactic.Ring
import ZenPass.Lib.JsonText

set_option autoImplicit false

namespace ZenPass.HttpsUrl

open JsonText (Units units)

structure Url where
  protocol : Units
  username : Units
  password : Units
  host : Units
  -- `none` for the default port
  port : Option Nat
  pathname : Units
  search : Units
  hash : Units
  deriving DecidableEq

def colon : UInt16 := 0x3A
def commercialAt : UInt16 := 0x40
def leftBracket : UInt16 := 0x5B
def rightBracket : UInt16 := 0x5D

def isControlOrSpace (c : UInt16) : Bool := c ≤ 0x20
def isTabOrNewline (c : UInt16) : Bool := c == 0x09 || c == 0x0A || c == 0x0D
def isSlash (c : UInt16) : Bool := c == 0x2F || c == 0x5C
def isTerminator (c : UInt16) : Bool := isSlash c || c == 0x3F || c == 0x23
def isDigit (c : UInt16) : Bool := 0x30 ≤ c && c ≤ 0x39

def withoutTail (text : Units) : Units :=
  (text.rdropWhile isControlOrSpace).filter fun c => !isTabOrNewline c

def clean (text : Units) : Units := withoutTail (text.dropWhile isControlOrSpace)

def afterScheme (text : Units) : Option Units :=
  let lower (c : UInt16) : UInt16 := if 0x41 ≤ c ∧ c ≤ 0x5A then c + 0x20 else c
  if (text.take 6).map lower = units "https:" then some (text.drop 6) else none

def splitPort : Bool → Units → Units × Option Units
  | _, [] => ([], none)
  | inside, c :: rest =>
    if c = colon ∧ inside = false then ([], some rest)
    else
      let inside := if c = leftBracket then true else if c = rightBracket then false else inside
      (c :: (splitPort inside rest).1, (splitPort inside rest).2)

def portValue (digits : Units) : Nat := digits.foldl (fun n c => 10 * n + (c.toNat - 0x30)) 0

def portNumber (text : Option Units) : Option Nat :=
  let digits := text.getD []
  if digits = [] then some 443
  else if digits.all isDigit ∧ portValue digits ≤ 65535 then some (portValue digits)
  else none

def portOf (number : Nat) : Option Nat := if number = 443 then none else some number

structure HostShape (host : Units) : Prop where
  nonempty : host ≠ []
  plain : ∀ c ∈ host, isControlOrSpace c = false ∧ isTerminator c = false ∧ c ≠ commercialAt
  colons : (∀ c ∈ host, c ≠ colon ∧ c ≠ leftBracket ∧ c ≠ rightBracket) ∨
    ∃ inner, host = leftBracket :: (inner ++ [rightBracket]) ∧
      ∀ c ∈ inner, c ≠ leftBracket ∧ c ≠ rightBracket

/-- What the standard has besides: the host parser with its serializer, the path with query and fragment,
which never fail, and the other schemes. -/
structure UrlStandard where
  hostParser : Units → Option Units
  pathParser : Units → Units × Units × Units
  otherParser : Units → Option Url
  host_normal : ∀ text host, hostParser text = some host → hostParser host = some host
  host_shape : ∀ text host, hostParser text = some host → HostShape host
  other_protocol : ∀ text url, otherParser text = some url → url.protocol ≠ units "https:"

def userinfo (authority : Units) : Option Units :=
  if commercialAt ∈ authority then some (authority.rdropWhile (· ≠ commercialAt)).dropLast else none

namespace UrlStandard

variable (standard : UrlStandard)

def parseHost (text : Units) : Option Units := if text = [] then none else standard.hostParser text

def parseAuthority (authority : Units) : Option (Units × Units × Units × Option Nat) :=
  let user := (userinfo authority).getD []
  let split := splitPort false (authority.rtakeWhile (· ≠ commercialAt))
  (standard.parseHost split.1).bind fun host =>
    (portNumber split.2).map fun number =>
      (user.takeWhile (· ≠ colon), (user.dropWhile (· ≠ colon)).tail, host, portOf number)

/-- `new URL(text)`; the user info is kept as it is written, where the standard encodes it. -/
def parse (text : Units) : Option Url :=
  match afterScheme (clean text) with
  | none => standard.otherParser text
  | some rest =>
    let body := rest.dropWhile isSlash
    (standard.parseAuthority (body.takeWhile fun c => !isTerminator c)).map
      fun (username, password, host, port) =>
        let (pathname, search, hash) := standard.pathParser (body.dropWhile fun c => !isTerminator c)
        { protocol := units "https:", username, password, host, port, pathname, search, hash }

end UrlStandard

def decimal (n : Nat) : Units := (Nat.toDigits 10 n).map fun c => UInt16.ofNat c.toNat

def portText (port : Option Nat) : Units :=
  match port with
  | none => []
  | some number => colon :: decimal number

def Url.origin (url : Url) : Units := url.protocol ++ units "//" ++ url.host ++ portText url.port

def continuation (rest : Units) : Units := (withoutTail rest).takeWhile fun c => !isTerminator c

theorem splitPort_cons (inside : Bool) {c : UInt16} (notColon : c ≠ colon) (rest : Units) :
    splitPort inside (c :: rest) =
      let inside := if c = leftBracket then true else if c = rightBracket then false else inside
      (c :: (splitPort inside rest).1, (splitPort inside rest).2) := by
  rw [splitPort, if_neg fun split => notColon split.1]

theorem splitPort_plain {text : Units} (plain : ∀ c ∈ text, c ≠ colon ∧ c ≠ leftBracket ∧ c ≠ rightBracket)
    (rest : Units) :
    splitPort false (text ++ rest) = (text ++ (splitPort false rest).1, (splitPort false rest).2) := by
  induction text with
  | nil => rfl
  | cons c text ih =>
    obtain ⟨⟨notColon, notLeft, notRight⟩, later⟩ := List.forall_mem_cons.mp plain
    rw [List.cons_append, splitPort_cons false notColon]
    dsimp only
    rw [if_neg notLeft, if_neg notRight, ih later]
    rfl

theorem splitPort_inside {inner : Units} (plain : ∀ c ∈ inner, c ≠ leftBracket ∧ c ≠ rightBracket)
    (rest : Units) :
    splitPort true (inner ++ rightBracket :: rest) =
      (inner ++ rightBracket :: (splitPort false rest).1, (splitPort false rest).2) := by
  induction inner with
  | nil => rfl
  | cons c inner ih =>
    obtain ⟨⟨notLeft, notRight⟩, later⟩ := List.forall_mem_cons.mp plain
    rw [List.cons_append, splitPort, if_neg (by simp)]
    dsimp only
    rw [if_neg notLeft, if_neg notRight, ih later]
    rfl

theorem HostShape.splitPort {host : Units} (shape : HostShape host) (rest : Units) :
    HttpsUrl.splitPort false (host ++ rest) =
      (host ++ (HttpsUrl.splitPort false rest).1, (HttpsUrl.splitPort false rest).2) := by
  obtain plain | ⟨inner, rfl, plain⟩ := shape.colons
  · exact splitPort_plain plain rest
  · have whole := splitPort_inside plain rest
    rw [List.cons_append, List.append_assoc, List.singleton_append, splitPort_cons false (by decide)]
    dsimp only
    rw [if_pos rfl, whole]
    simp

theorem HostShape.head {host : Units} (shape : HostShape host) :
    ∃ c rest, host = c :: rest ∧ c ≠ colon ∧ isSlash c = false := by
  cases whole : host with
  | nil => exact absurd whole shape.nonempty
  | cons c rest =>
    refine ⟨c, rest, rfl, ?_, ?_⟩
    · obtain plain | ⟨inner, same, -⟩ := shape.colons
      · exact (plain c (by rw [whole]; exact List.mem_cons_self)).1
      · rw [whole] at same
        cases same
        decide
    · have first := (shape.plain c (by rw [whole]; exact List.mem_cons_self)).2.1
      simp only [isTerminator, Bool.or_eq_false_iff] at first
      exact first.1.1

theorem rdropWhile_append {p : UInt16 → Bool} {text : Units} {last : UInt16} (stays : p last = false)
    (ends : text.getLast? = some last) (rest : Units) :
    (text ++ rest).rdropWhile p = text ++ rest.rdropWhile p := by
  induction rest using List.reverseRecOn with
  | nil =>
    obtain ⟨init, rfl⟩ := List.getLast?_eq_some_iff.mp ends
    rw [List.append_nil, List.rdropWhile_nil, List.append_nil, List.rdropWhile_concat_neg _ _ _ (by simp [stays])]
  | append_singleton rest c ih =>
    rw [← List.append_assoc, List.rdropWhile_concat, List.rdropWhile_concat]
    split_ifs
    · exact ih
    · rw [List.append_assoc]

theorem clean_append {text : Units} (kept : ∀ c ∈ text, isControlOrSpace c = false) (some' : text ≠ [])
    (rest : Units) : clean (text ++ rest) = text ++ withoutTail rest := by
  have start : (text ++ rest).dropWhile isControlOrSpace = text ++ rest := by
    cases text with
    | nil => exact absurd rfl some'
    | cons c text => rw [List.cons_append, List.dropWhile_cons, kept c List.mem_cons_self, if_neg (by decide)]
  have ends : text.getLast? = some (text.getLast some') := List.getLast?_eq_some_getLast some'
  have visible : ∀ c ∈ text, (!isTabOrNewline c) = true := by
    intro c mem
    have high := kept c mem
    by_contra removed
    simp only [isTabOrNewline, Bool.not_eq_true', Bool.not_eq_false, Bool.or_eq_true, beq_iff_eq] at removed
    obtain (rfl | rfl) | rfl := removed
    all_goals exact absurd high (by decide)
  rw [clean, start, withoutTail, rdropWhile_append (kept _ (List.getLast_mem some')) ends, List.filter_append,
    List.filter_eq_self.mpr visible]
  rfl

theorem digit_plain {c : UInt16} (digit : isDigit c = true) :
    isControlOrSpace c = false ∧ isTerminator c = false ∧ c ≠ commercialAt := by
  simp only [isDigit, Bool.and_eq_true, decide_eq_true_eq, UInt16.le_iff_toNat_le, UInt16.reduceToNat] at digit
  refine ⟨?_, ?_, ?_⟩
  · simp only [isControlOrSpace, decide_eq_false_iff_not, UInt16.le_iff_toNat_le, UInt16.reduceToNat]
    omega
  · simp only [isTerminator, isSlash, Bool.or_eq_false_iff, beq_eq_false_iff_ne, ne_eq, ← UInt16.toNat_inj,
      UInt16.reduceToNat]
    omega
  · simp only [commercialAt, ne_eq, ← UInt16.toNat_inj, UInt16.reduceToNat]
    omega

theorem decimal_unit {n : Nat} {d : Char} (mem : d ∈ Nat.toDigits 10 n) :
    (UInt16.ofNat d.toNat).toNat = d.toNat ∧ isDigit (UInt16.ofNat d.toNat) = true := by
  have digit := @Nat.isDigit_of_mem_toDigits 10 n d (by decide) (by decide) mem
  simp only [Char.isDigit, Bool.and_eq_true, decide_eq_true_eq, UInt32.le_iff_toNat_le] at digit
  have low : 0x30 ≤ d.toNat := digit.1
  have high : d.toNat ≤ 0x39 := digit.2
  have value : (UInt16.ofNat d.toNat).toNat = d.toNat :=
    UInt16.toNat_ofNat_of_lt' (show d.toNat < 0x10000 by omega)
  refine ⟨value, ?_⟩
  simp only [isDigit, Bool.and_eq_true, decide_eq_true_eq, UInt16.le_iff_toNat_le, value, UInt16.reduceToNat]
  exact ⟨low, high⟩

theorem isDigit_decimal {n : Nat} {c : UInt16} (mem : c ∈ decimal n) : isDigit c = true := by
  obtain ⟨d, digit, rfl⟩ := List.mem_map.mp mem
  exact (decimal_unit digit).2

theorem foldl_units {digits : List Char} (small : ∀ d ∈ digits, (UInt16.ofNat d.toNat).toNat = d.toNat)
    (n : Nat) :
    (digits.map fun c => UInt16.ofNat c.toNat).foldl (fun n c => 10 * n + (c.toNat - 0x30)) n =
      Nat.ofDigitChars 10 digits n := by
  induction digits generalizing n with
  | nil => rfl
  | cons d digits ih =>
    obtain ⟨first, later⟩ := List.forall_mem_cons.mp small
    rw [List.map_cons, List.foldl_cons, ih later, first, Nat.ofDigitChars_cons]
    rfl

theorem portValue_decimal (n : Nat) : portValue (decimal n) = n := by
  rw [portValue, decimal, foldl_units fun d mem => (decimal_unit mem).1]
  exact Nat.ofDigitChars_ten_toDigits

theorem authority_plain {host : Units} (shape : HostShape host) (port : Option Nat) {c : UInt16}
    (mem : c ∈ host ++ portText port) :
    isControlOrSpace c = false ∧ isTerminator c = false ∧ c ≠ commercialAt := by
  obtain mem | mem := List.mem_append.mp mem
  · exact shape.plain c mem
  · cases port with
    | none => cases mem
    | some number =>
      obtain rfl | mem := List.mem_cons.mp mem
      · decide
      · exact digit_plain (isDigit_decimal mem)

theorem takeWhile_authority {text : Units} (plain : ∀ c ∈ text, isTerminator c = false) (rest : Units) :
    (text ++ rest).takeWhile (fun c => !isTerminator c) = text ++ rest.takeWhile fun c => !isTerminator c := by
  rw [List.takeWhile_append_of_pos]
  intro c mem
  simp [plain c mem]

theorem parse_origin (standard : UrlStandard) {url : Url} (https : url.protocol = units "https:")
    (shape : HostShape url.host) (rest : Units) :
    ∃ pathname search hash, standard.parse (url.origin ++ rest) =
      (standard.parseAuthority (url.host ++ portText url.port ++ continuation rest)).map
        fun (username, password, host, port) =>
          { protocol := units "https:", username, password, host, port, pathname, search, hash } := by
  have word : units "https:" = [0x68, 0x74, 0x74, 0x70, 0x73, 0x3A] := by decide
  have slashes : units "//" = [0x2F, 0x2F] := by decide
  have plain : ∀ c ∈ url.host ++ portText url.port,
      isControlOrSpace c = false ∧ isTerminator c = false ∧ c ≠ commercialAt := fun c mem =>
    authority_plain shape url.port mem
  have whole : url.origin ++ rest =
      (units "https:" ++ units "//" ++ (url.host ++ portText url.port)) ++ rest := by
    simp [Url.origin, https]
  have kept : ∀ c ∈ units "https:" ++ units "//" ++ (url.host ++ portText url.port),
      isControlOrSpace c = false := by
    intro c mem
    obtain mem | mem := List.mem_append.mp mem
    · have all : (units "https:" ++ units "//").all (fun c => !isControlOrSpace c) = true := by decide +kernel
      simpa using List.all_eq_true.mp all c mem
    · exact (plain c mem).1
  have cleaned := clean_append kept (by simp [word]) rest
  have scheme : afterScheme (units "https:" ++ units "//" ++ (url.host ++ portText url.port) ++ withoutTail rest) =
      some (units "//" ++ (url.host ++ portText url.port ++ withoutTail rest)) := by
    simp [afterScheme, word]
  obtain ⟨c, later, host, -, notSlash⟩ := shape.head
  have body : (units "//" ++ (url.host ++ portText url.port ++ withoutTail rest)).dropWhile isSlash =
      url.host ++ portText url.port ++ withoutTail rest := by
    have slash : isSlash 0x2F = true := by decide
    simp [slashes, host, slash, notSlash]
  have authority := takeWhile_authority (fun c mem => (plain c mem).2.1) (withoutTail rest)
  rw [whole, UrlStandard.parse, cleaned, scheme]
  simp only [body, authority]
  exact ⟨_, _, _, rfl⟩

theorem userinfo_split {front back : Units} (last : commercialAt ∉ back) :
    userinfo (front ++ commercialAt :: back) = some front := by
  have dropped : back.rdropWhile (· ≠ commercialAt) = [] := by
    rw [List.rdropWhile_eq_nil_iff]
    intro c mem
    exact decide_eq_true fun same => last (same ▸ mem)
  have kept := @rdropWhile_append (· ≠ commercialAt) (front ++ [commercialAt]) commercialAt (by simp) (by simp) back
  rw [List.append_assoc, List.singleton_append, dropped, List.append_nil] at kept
  rw [userinfo, if_pos (by simp), kept, List.dropLast_concat]

theorem userinfo_none {authority : Units} (plain : commercialAt ∉ authority) : userinfo authority = none :=
  if_neg plain

theorem not_mem_authority {host : Units} (shape : HostShape host) (port : Option Nat) {more : Units}
    (plain : commercialAt ∉ more) : commercialAt ∉ host ++ portText port ++ more := by
  intro mem
  obtain mem | mem := List.mem_append.mp mem
  · exact (authority_plain shape port mem).2.2 rfl
  · exact plain mem

theorem rtakeWhile_plain {authority : Units} (plain : commercialAt ∉ authority) :
    authority.rtakeWhile (· ≠ commercialAt) = authority := by
  rw [List.rtakeWhile_eq_self_iff]
  intro c mem
  exact decide_eq_true fun same => plain (same ▸ mem)

namespace UrlStandard

variable (standard : UrlStandard)

theorem parseAuthority_userinfo {host : Units} (shape : HostShape host) (port : Option Nat) {more : Units}
    (user : commercialAt ∈ more) {username password parsed : Units} {number : Option Nat}
    (read : standard.parseAuthority (host ++ portText port ++ more) = some (username, password, parsed, number)) :
    username ≠ [] := by
  obtain ⟨back, front, split, last⟩ := List.eq_append_cons_of_mem (List.mem_reverse.mpr user)
  have more_eq : more = front.reverse ++ commercialAt :: back.reverse := by
    rw [← List.reverse_reverse more, split]
    simp
  have info := @userinfo_split (host ++ portText port ++ front.reverse) back.reverse (by simpa using last)
  obtain ⟨c, later, begins, notColon, -⟩ := shape.head
  rw [more_eq, ← List.append_assoc] at read
  simp only [parseAuthority, info, Option.bind_eq_some_iff, Option.map_eq_some_iff, Option.getD_some] at read
  obtain ⟨parsed', -, number', -, same⟩ := read
  cases same
  simp [begins, notColon]

theorem parseAuthority_host {host : Units} (shape : HostShape host) {more : Units} (plain : commercialAt ∉ more) :
    standard.parseAuthority (host ++ portText none ++ more) =
      (standard.hostParser (host ++ (splitPort false more).1)).bind fun parsed =>
        (portNumber (splitPort false more).2).map fun number => ([], [], parsed, portOf number) := by
  have noUser := not_mem_authority shape none plain
  have some' : ¬host ++ (splitPort false more).1 = [] := fun empty =>
    shape.nonempty (List.append_eq_nil_iff.mp empty).1
  rw [parseAuthority, userinfo_none noUser, rtakeWhile_plain noUser, portText, List.append_nil, shape.splitPort,
    parseHost, if_neg some']
  rfl

theorem parseAuthority_port {host : Units} (shape : HostShape host) (normal : standard.hostParser host = some host)
    (port : Nat) {more : Units} (plain : commercialAt ∉ more) :
    standard.parseAuthority (host ++ portText (some port) ++ more) =
      (portNumber (some (decimal port ++ more))).map fun number => ([], [], host, portOf number) := by
  have noUser := not_mem_authority shape (some port) plain
  have split : splitPort false (host ++ portText (some port) ++ more) = (host, some (decimal port ++ more)) := by
    rw [List.append_assoc, shape.splitPort, portText, List.cons_append, splitPort, if_pos ⟨rfl, rfl⟩]
    simp
  rw [parseAuthority, userinfo_none noUser, rtakeWhile_plain noUser, split, parseHost, if_neg shape.nonempty,
    normal]
  rfl

theorem portNumber_le {text : Option Units} {number : Nat} (read : portNumber text = some number) :
    number ≤ 65535 := by
  simp only [portNumber] at read
  split_ifs at read with empty digits
  · cases read
    decide
  · cases read
    exact digits.2

theorem parse_https {text : Units} {url : Url} (parsed : standard.parse text = some url)
    (https : url.protocol = units "https:") :
    standard.hostParser url.host = some url.host ∧ HostShape url.host ∧
      ∀ port, url.port = some port → port ≠ 443 ∧ port ≤ 65535 := by
  simp only [parse] at parsed
  cases scheme : afterScheme (clean text) with
  | none =>
    simp only [scheme] at parsed
    exact absurd https (standard.other_protocol text url parsed)
  | some rest =>
    simp only [scheme, parseAuthority, parseHost, Option.map_eq_some_iff, Option.bind_eq_some_iff] at parsed
    obtain ⟨_, ⟨host, found, number, read, rfl⟩, rfl⟩ := parsed
    split_ifs at found with empty
    refine ⟨standard.host_normal _ host found, standard.host_shape _ host found, ?_⟩
    intro port same
    simp only [portOf] at same
    split_ifs at same with default
    cases same
    exact ⟨default, portNumber_le read⟩

end UrlStandard

theorem portValue_append (first second : Units) :
    portValue (first ++ second) = portValue first * 10 ^ second.length + portValue second := by
  have fold : ∀ n, second.foldl (fun n c => 10 * n + (c.toNat - 0x30)) n =
      n * 10 ^ second.length + portValue second := by
    induction second with
    | nil => simp [portValue]
    | cons c second ih =>
      intro n
      have whole : portValue (c :: second) = (10 * 0 + (c.toNat - 0x30)) * 10 ^ second.length + portValue second :=
        ih _
      rw [List.foldl_cons, ih, whole, List.length_cons, Nat.pow_succ]
      ring
  rw [portValue, List.foldl_append, fold]
  rfl

theorem portValue_eq_zero {digits : Units} (all : ∀ c ∈ digits, isDigit c = true) :
    portValue digits = 0 ↔ ∀ c ∈ digits, c = 0x30 := by
  induction digits with
  | nil => simp [portValue]
  | cons c digits ih =>
    obtain ⟨first, later⟩ := List.forall_mem_cons.mp all
    simp only [isDigit, Bool.and_eq_true, decide_eq_true_eq, UInt16.le_iff_toNat_le, UInt16.reduceToNat] at first
    have zero : portValue [c] = 0 ↔ c = 0x30 := by
      simp only [portValue, List.foldl_cons, List.foldl_nil, ← UInt16.toNat_inj, UInt16.reduceToNat]
      omega
    rw [← List.singleton_append, portValue_append, List.forall_mem_append, ← ih later]
    have power : 0 < 10 ^ digits.length := Nat.pow_pos (by decide)
    simp only [List.mem_singleton, forall_eq, ← zero, Nat.add_eq_zero_iff, Nat.mul_eq_zero]
    constructor
    · rintro ⟨first | absurd', second⟩
      · exact ⟨first, second⟩
      · omega
    · rintro ⟨first, second⟩
      exact ⟨.inl first, second⟩

theorem portValue_decimal_append {port : Nat} {more : Units} (all : ∀ c ∈ more, isDigit c = true) :
    portValue (decimal port ++ more) = port ↔ more = [] ∨ port = 0 ∧ ∀ c ∈ more, c = 0x30 := by
  rw [portValue_append, portValue_decimal, ← portValue_eq_zero all]
  cases more with
  | nil => simp [portValue]
  | cons c more =>
    have power : 0 < 10 ^ more.length := Nat.pow_pos (by decide)
    have grows : port * 10 ^ (c :: more).length = 10 * (port * 10 ^ more.length) := by
      rw [List.length_cons, Nat.pow_succ]
      ring
    have least : port ≤ port * 10 ^ more.length := Nat.le_mul_of_pos_right port power
    rw [grows]
    constructor
    · intro same
      exact .inr ⟨by omega, by omega⟩
    · rintro (none' | ⟨rfl, value⟩)
      · cases none'
      · omega

theorem portNumber_decimal_append {port : Nat} {more : Units} {number : Nat} :
    portNumber (some (decimal port ++ more)) = some number ↔
      (∀ c ∈ more, isDigit c = true) ∧ number ≤ 65535 ∧ number = portValue (decimal port ++ more) := by
  have some' : ¬decimal port ++ more = [] := by simp [decimal]
  have digits : (decimal port ++ more).all isDigit = true ↔ ∀ c ∈ more, isDigit c = true := by
    rw [List.all_append, Bool.and_eq_true, List.all_eq_true, List.all_eq_true]
    exact ⟨fun all => all.2, fun all => ⟨fun c mem => isDigit_decimal mem, all⟩⟩
  simp only [portNumber, Option.getD_some, if_neg some']
  split_ifs with valid
  · rw [digits] at valid
    constructor
    · intro same
      cases same
      exact ⟨valid.1, valid.2, rfl⟩
    · rintro ⟨-, -, rfl⟩
      rfl
  · rw [digits] at valid
    constructor
    · intro same
      cases same
    · rintro ⟨all, small, rfl⟩
      exact absurd ⟨all, small⟩ valid

end ZenPass.HttpsUrl
