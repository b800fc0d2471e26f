import ZenPass.Lib.HttpsUrl

set_option autoImplicit false

namespace ZenPass.Extension.Origin

open HttpsUrl
open JsonText (Units units)

def maxOriginLength : Nat := 512

section

variable (standard : UrlStandard)

def confirmApiOrigin (input : Units) : Option Units :=
  if input.length = 0 ∨ input.length > maxOriginLength then none
  else
    match standard.parse input with
    | none => none
    | some url =>
      if url.protocol ≠ units "https:" then none
      else if url.username ≠ [] ∨ url.password ≠ [] then none
      else if url.search ≠ [] ∨ url.hash ≠ [] then none
      else if url.pathname ≠ [] ∧ url.pathname ≠ units "/" then none
      else if url.host = [] then none
      else some url.origin

structure Serialized where
  url : Url
  text : Units
  parses : standard.parse text = some url

end

def Bare (url : Url) : Prop := url.username = [] ∧ url.password = []

instance (url : Url) : Decidable (Bare url) := inferInstanceAs (Decidable (_ ∧ _))

section

variable (standard : UrlStandard)

/-- No request can be made of a URL with user info. -/
inductive FetchInput where
  | string (text : Units)
  | url (object : Serialized standard)
  | request (object : Serialized standard) (bare : Bare object.url)

end

section

variable {standard : UrlStandard}

-- `typeof input === "string" ? input : input instanceof URL ? input.toString() : input.url`
def FetchInput.urlText : FetchInput standard → Units
  | .string text => text
  | .url object => object.text
  | .request object _ => object.text

def fetch : FetchInput standard → Option Url
  | .string text => (standard.parse text).filter fun url => Bare url
  | .url object => (standard.parse object.text).filter fun url => Bare url
  | .request object _ => some object.url

/-- The URL that is fetched; what the response is, redirects included, comes to no further request. -/
def pinnedFetch (origin : Units) (input : FetchInput standard) : Option Url :=
  if origin.isPrefixOf input.urlText then fetch input else none

/-- Every request goes to the scheme, the host and the port of the pinned URL. -/
def StaysWithin (pinned : Url) (origin : Units) (input : FetchInput standard) : Prop :=
  ∀ url, pinnedFetch origin input = some url →
    url.protocol = pinned.protocol ∧ url.host = pinned.host ∧ url.port = pinned.port

end

section

variable (standard : UrlStandard)

/-- Behind the pinned origin the authority goes on, and what it makes together with it is another host
or port. -/
def OtherAuthority (pinned : Url) (more : Units) : Prop :=
  match pinned.port with
  | none => ∃ host number, standard.hostParser (pinned.host ++ (splitPort false more).1) = some host ∧
      portNumber (splitPort false more).2 = some number ∧ (host ≠ pinned.host ∨ number ≠ 443)
  | some port => more ≠ [] ∧ (∀ c ∈ more, isDigit c = true) ∧ portValue (decimal port ++ more) ≤ 65535 ∧
      ¬(port = 0 ∧ ∀ c ∈ more, c = 0x30)

def Harmless (pinned : Url) (text : Units) : Prop :=
  ∀ rest, text = pinned.origin ++ rest →
    commercialAt ∈ continuation rest ∨ ¬OtherAuthority standard pinned (continuation rest)

end

variable {standard : UrlStandard}

theorem fetch_eq (input : FetchInput standard) :
    fetch input = (standard.parse input.urlText).filter fun url => Bare url := by
  cases input with
  | string text => rfl
  | url object => rfl
  | request object bare => simp [fetch, FetchInput.urlText, object.parses, Option.filter_some, bare]

theorem confirmApiOrigin_eq_some {entered origin : Units} {pinned : Url}
    (parsed : standard.parse entered = some pinned) (confirmed : confirmApiOrigin standard entered = some origin) :
    pinned.protocol = units "https:" ∧ origin = pinned.origin := by
  simp only [confirmApiOrigin, parsed] at confirmed
  split_ifs at confirmed with length protocol user extra path host
  cases confirmed
  exact ⟨not_not.mp protocol, rfl⟩

theorem portOf_eq_none {number : Nat} : portOf number = none ↔ number = 443 := by
  simp [portOf]

theorem portOf_eq_some {number port : Nat} (other : port ≠ 443) : portOf number = some port ↔ number = port := by
  simp only [portOf]
  split_ifs with default
  · simp only [false_iff]
    omega
  · exact Option.some_inj

theorem otherAuthority_iff {pinned : Url} (normal : standard.hostParser pinned.host = some pinned.host)
    (shape : HostShape pinned.host) (ports : ∀ port, pinned.port = some port → port ≠ 443 ∧ port ≤ 65535)
    {more : Units} (plain : commercialAt ∉ more) :
    (∃ username password host port,
      standard.parseAuthority (pinned.host ++ portText pinned.port ++ more) =
        some (username, password, host, port) ∧ username = [] ∧ password = [] ∧
      ¬(host = pinned.host ∧ port = pinned.port)) ↔ OtherAuthority standard pinned more := by
  cases port : pinned.port with
  | none =>
    simp only [OtherAuthority, port, standard.parseAuthority_host shape plain, Option.bind_eq_some_iff,
      Option.map_eq_some_iff]
    constructor
    · rintro ⟨username, password, parsed, parsedPort, ⟨host, found, number, read, same⟩, -, -, other⟩
      simp only [Prod.mk.injEq] at same
      obtain ⟨-, -, rfl, rfl⟩ := same
      refine ⟨host, number, found, read, ?_⟩
      rw [portOf_eq_none, Decidable.not_and_iff_not_or_not] at other
      exact other
    · rintro ⟨host, number, found, read, other⟩
      refine ⟨[], [], host, portOf number, ⟨host, found, number, read, rfl⟩, rfl, rfl, ?_⟩
      rw [portOf_eq_none, Decidable.not_and_iff_not_or_not]
      exact other
  | some port' =>
    obtain ⟨notDefault, small⟩ := ports port' port
    simp only [OtherAuthority, port, standard.parseAuthority_port shape normal port' plain,
      Option.map_eq_some_iff]
    constructor
    · rintro ⟨_, _, _, _, ⟨number, read, same⟩, -, -, other⟩
      cases same
      obtain ⟨digits, within, rfl⟩ := portNumber_decimal_append.mp read
      rw [portOf_eq_some notDefault, portValue_decimal_append digits] at other
      simp only [true_and, not_or] at other
      exact ⟨other.1, digits, within, other.2⟩
    · rintro ⟨some', digits, within, other⟩
      refine ⟨[], [], pinned.host, _, ⟨_, portNumber_decimal_append.mpr ⟨digits, within, rfl⟩, rfl⟩, rfl, rfl, ?_⟩
      rw [portOf_eq_some notDefault, portValue_decimal_append digits]
      simp only [true_and, not_or]
      exact ⟨some', other⟩

theorem fetch_origin {pinned : Url} (https : pinned.protocol = units "https:")
    (normal : standard.hostParser pinned.host = some pinned.host) (shape : HostShape pinned.host)
    (ports : ∀ port, pinned.port = some port → port ≠ 443 ∧ port ≤ 65535) (rest : Units) :
    (∃ url, (standard.parse (pinned.origin ++ rest)).filter (fun url => Bare url) = some url ∧
      ¬(url.protocol = pinned.protocol ∧ url.host = pinned.host ∧ url.port = pinned.port)) ↔
      commercialAt ∉ continuation rest ∧ OtherAuthority standard pinned (continuation rest) := by
  obtain ⟨pathname, search, hash, parse⟩ := parse_origin standard https shape rest
  rw [parse]
  generalize continuation rest = more
  constructor
  · rintro ⟨url, fetched, leaves⟩
    obtain ⟨made, bare⟩ := Option.filter_eq_some_iff.mp fetched
    obtain ⟨⟨username, password, host, port⟩, read, rfl⟩ := Option.map_eq_some_iff.mp made
    obtain ⟨noName, noPassword⟩ : username = [] ∧ password = [] := of_decide_eq_true bare
    have plain : commercialAt ∉ more := fun user => standard.parseAuthority_userinfo shape _ user read noName
    refine ⟨plain, (otherAuthority_iff normal shape ports plain).mp
      ⟨username, password, host, port, read, noName, noPassword, ?_⟩⟩
    simpa [https] using leaves
  · rintro ⟨plain, other⟩
    obtain ⟨username, password, host, port, read, rfl, rfl, leaves⟩ :=
      (otherAuthority_iff normal shape ports plain).mpr other
    rw [read]
    refine ⟨_, Option.filter_eq_some_iff.mpr ⟨rfl, by simp [Bare]⟩, ?_⟩
    simpa [https] using leaves

/-- Every request through the pinned fetch goes to the pinned origin exactly if its text, where it begins
with that origin, goes on there with nothing that makes another host or port of it. -/
theorem pinnedFetch_stays_iff {entered origin : Units} {pinned : Url}
    (parsed : standard.parse entered = some pinned) (confirmed : confirmApiOrigin standard entered = some origin)
    (input : FetchInput standard) :
    StaysWithin pinned origin input ↔ Harmless standard pinned input.urlText := by
  obtain ⟨https, rfl⟩ := confirmApiOrigin_eq_some parsed confirmed
  obtain ⟨normal, shape, ports⟩ := standard.parse_https parsed https
  constructor
  · intro stays rest text
    by_contra harmful
    obtain ⟨url, fetched, leaves⟩ := (fetch_origin https normal shape ports rest).mpr (by tauto)
    have begins : pinned.origin.isPrefixOf input.urlText = true :=
      List.isPrefixOf_iff_prefix.mpr ⟨rest, text.symm⟩
    refine leaves (stays url ?_)
    rw [pinnedFetch, if_pos begins, fetch_eq, text, fetched]
  · intro harmless url fetched
    rw [pinnedFetch] at fetched
    split_ifs at fetched with begins
    obtain ⟨rest, text⟩ := List.isPrefixOf_iff_prefix.mp begins
    rw [fetch_eq, ← text] at fetched
    by_contra leaves
    have harmful := (fetch_origin https normal shape ports rest).mp ⟨url, fetched, leaves⟩
    have safe := harmless rest text.symm
    tauto

def sampleHost (text : Units) : Option Units :=
  let lower := text.map fun c => if 0x41 ≤ c ∧ c ≤ 0x5A then c + 0x20 else c
  if lower ≠ [] ∧ lower.all (fun c => 0x61 ≤ c && c ≤ 0x7A || c == 0x2E || c == 0x2D) then some lower else none

def samplePath (text : Units) : Units × Units × Units :=
  let front := text.takeWhile (· ≠ 0x23)
  let path := front.takeWhile (· ≠ 0x3F)
  let query := front.dropWhile (· ≠ 0x3F)
  let fragment := text.dropWhile (· ≠ 0x23)
  -- a lone question mark or hash is an empty query or fragment
  (if path = [] then units "/" else path, if query.length ≤ 1 then [] else query,
    if fragment.length ≤ 1 then [] else fragment)

theorem sampleHost_eq_some {text host : Units} (found : sampleHost text = some host) :
    host ≠ [] ∧ ∀ c ∈ host, 0x61 ≤ c ∧ c ≤ 0x7A ∨ c = 0x2E ∨ c = 0x2D := by
  simp only [sampleHost] at found
  split_ifs at found with valid
  cases found
  refine ⟨valid.1, ?_⟩
  intro c mem
  have letter := List.all_eq_true.mp valid.2 c mem
  simpa [or_assoc] using letter

theorem sampleHost_self {host : Units} (some' : host ≠ [])
    (letters : ∀ c ∈ host, 0x61 ≤ c ∧ c ≤ 0x7A ∨ c = 0x2E ∨ c = 0x2D) : sampleHost host = some host := by
  have lower : (host.map fun c => if 0x41 ≤ c ∧ c ≤ 0x5A then c + 0x20 else c) = host := by
    refine (List.map_congr_left ?_).trans (List.map_id host)
    intro c mem
    have letter := letters c mem
    simp only [UInt16.le_iff_toNat_le, ← UInt16.toNat_inj, UInt16.reduceToNat] at letter
    rw [if_neg (by simp only [UInt16.le_iff_toNat_le, UInt16.reduceToNat]; omega)]
    rfl
  simp only [sampleHost, lower]
  rw [if_pos]
  refine ⟨some', List.all_eq_true.mpr ?_⟩
  intro c mem
  simpa [or_assoc] using letters c mem

theorem sampleHost_shape {text host : Units} (found : sampleHost text = some host) : HostShape host := by
  obtain ⟨some', letters⟩ := sampleHost_eq_some found
  have other : ∀ c ∈ host, isControlOrSpace c = false ∧ isTerminator c = false ∧ c ≠ commercialAt ∧
      c ≠ colon ∧ c ≠ leftBracket ∧ c ≠ rightBracket := by
    intro c mem
    have letter := letters c mem
    simp only [UInt16.le_iff_toNat_le, ← UInt16.toNat_inj, UInt16.reduceToNat] at letter
    simp only [isControlOrSpace, isTerminator, isSlash, commercialAt, colon, leftBracket, rightBracket,
      decide_eq_false_iff_not, Bool.or_eq_false_iff, beq_eq_false_iff_ne, ne_eq, UInt16.le_iff_toNat_le,
      ← UInt16.toNat_inj, UInt16.reduceToNat]
    omega
  refine ⟨some', ?_, .inl ?_⟩
  · intro c mem
    obtain ⟨visible, inside, notAt, -⟩ := other c mem
    exact ⟨visible, inside, notAt⟩
  · intro c mem
    exact (other c mem).2.2.2

def sampleStandard : UrlStandard where
  hostParser := sampleHost
  pathParser := samplePath
  otherParser := fun _ => none
  host_normal := by
    intro text host found
    obtain ⟨some', letters⟩ := sampleHost_eq_some found
    exact sampleHost_self some' letters
  host_shape := by
    intro text host found
    exact sampleHost_shape found
  other_protocol := by
    intro text url found
    cases found

def sampleUrl (host : String) (port : Option Nat) (path : String) : Url :=
  { protocol := units "https:", username := [], password := [], host := units host, port,
    pathname := units path, search := [], hash := [] }

/-- A path behind the origin stays within it. -/
theorem pinnedFetch_stays_vaults :
    @pinnedFetch sampleStandard (units "https://api.test") (.string (units "https://api.test/vaults")) =
      some (sampleUrl "api.test" none "/vaults") ∧
    @StaysWithin sampleStandard (sampleUrl "api.test" none "/") (units "https://api.test")
      (.string (units "https://api.test/vaults")) := by
  have parsed : sampleStandard.parse (units "https://API.test/") = some (sampleUrl "api.test" none "/") := by
    decide +kernel
  have confirmed : confirmApiOrigin sampleStandard (units "https://API.test/") =
      some (units "https://api.test") := by
    decide +kernel
  refine ⟨by decide +kernel, (pinnedFetch_stays_iff parsed confirmed _).mpr ?_⟩
  intro rest text
  have origin : (sampleUrl "api.test" none "/").origin ++ units "/vaults" = units "https://api.test/vaults" := by
    decide +kernel
  obtain rfl : units "/vaults" = rest := List.append_cancel_left (origin.trans text)
  have ends : continuation (units "/vaults") = [] := by decide +kernel
  rw [ends]
  refine .inr ?_
  rintro ⟨host, number, found, read, other⟩
  have same : sampleStandard.hostParser (units "api.test" ++ (splitPort false []).1) = some (units "api.test") := by
    decide +kernel
  have default : portNumber (splitPort false []).2 = some 443 := by decide
  cases same.symm.trans found
  cases default.symm.trans read
  simp [sampleUrl] at other

/-- A longer host and another port pass the test of the text. -/
theorem pinnedFetch_leaves :
    sampleStandard.parse (units "https://api.test") = some (sampleUrl "api.test" none "/") ∧
    confirmApiOrigin sampleStandard (units "https://api.test") = some (units "https://api.test") ∧
    @pinnedFetch sampleStandard (units "https://api.test") (.string (units "https://api.test.evil.com/x")) =
      some (sampleUrl "api.test.evil.com" none "/x") ∧
    @pinnedFetch sampleStandard (units "https://api.test") (.string (units "https://api.test:444/x")) =
      some (sampleUrl "api.test" (some 444) "/x") ∧
    ¬@StaysWithin sampleStandard (sampleUrl "api.test" none "/") (units "https://api.test")
      (.string (units "https://api.test.evil.com/x")) ∧
    ¬@StaysWithin sampleStandard (sampleUrl "api.test" none "/") (units "https://api.test")
      (.string (units "https://api.test:444/x")) := by
  have longer : @pinnedFetch sampleStandard (units "https://api.test")
      (.string (units "https://api.test.evil.com/x")) = some (sampleUrl "api.test.evil.com" none "/x") := by
    decide +kernel
  have ported : @pinnedFetch sampleStandard (units "https://api.test") (.string (units "https://api.test:444/x")) =
      some (sampleUrl "api.test" (some 444) "/x") := by
    decide +kernel
  refine ⟨by decide +kernel, by decide +kernel, longer, ported, ?_, ?_⟩
  · intro stays
    have host := (stays _ longer).2.1
    exact absurd host (by decide +kernel)
  · intro stays
    have port := (stays _ ported).2.2
    exact absurd port (by decide +kernel)

end ZenPass.Extension.Origin
