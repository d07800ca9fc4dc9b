import MilterManager.Codec.Packet
import MilterManager.Core.Ascii

/-!
# Connection specifications

`milter_connection_parse_spec` and `milter_connection_address_to_spec`, from
`milter/core/milter-connection.c`. Host names are looked up outside.
-/

namespace MilterManager.Connection

open MilterManager.Core MilterManager.Codec

/-- `inet_pton`, `inet_ntop` and `getaddrinfo` for the two protocol families. -/
structure Resolver where
  addressText : AddressText
  getaddrinfo : CString → Option (BitVec 32)
  getaddrinfo6 : CString → Option (BitVec 128)

/-- The errors of `milter_connection_parse_spec`, with what they show next to the spec. -/
inductive SpecError where
  | specMissing
  | colonMissing
  | contentMissing
  | bracketMissing (host : Bytes)
  | invalidHostAddress (host : Bytes)
  | unresolvedHost (host : Bytes)
  | invalidPortCharacter (character : UInt8)
  | portTooLarge (portNumber : Int)
  | invalidProtocol (protocol : Bytes)
deriving DecidableEq, Repr

/-- The protocol families. -/
inductive Domain where
  | unix
  | inet
  | inet6
deriving DecidableEq, Repr

/-- What a call does: it fails, it stores a family and the address that is asked for, or `strcpy`
writes past the end of `sun_path`. -/
inductive SpecOutcome where
  | failed (error : SpecError)
  | parsed (domain : Domain) (address : Option SocketAddress)
  | overrun
deriving DecidableEq, Repr

/-- The size of `sun_path` in a `struct sockaddr_un`. -/
def sunPathSize : Nat := 108

/-- `"unix:"`. -/
def unixPrefix : Bytes := [117, 110, 105, 120, 58]

/-- `"local:"`. -/
def localPrefix : Bytes := [108, 111, 99, 97, 108, 58]

/-- `"inet:"`. -/
def inetPrefix : Bytes := [105, 110, 101, 116, 58]

/-- `"inet6:"`. -/
def inet6Prefix : Bytes := [105, 110, 101, 116, 54, 58]

section Family

variable {n : Nat} (pton getaddrinfo : CString → Option (BitVec n))

/-- `parse_connection_spec_host`, `milter/core/milter-connection.c:98`; the character before an
empty rest is the bracket. -/
def parseConnectionSpecHost (host : Bytes) : Except SpecError (BitVec n) :=
  match host with
  | 91 :: rest =>
      if (91 :: rest).getLast? ≠ some 93 then .error (.bracketMissing (91 :: rest))
      else
        match pton (.ofBytes rest.dropLast) with
        | some address => .ok address
        | none => .error (.invalidHostAddress rest.dropLast)
  | host =>
      match getaddrinfo (.ofBytes host) with
      | some address => .ok address
      | none => .error (.unresolvedHost host)

/-- The loop of `parse_connection_spec_port_and_host`: the address. -/
def parseConnectionSpecPort : Bytes → Except SpecError (BitVec n)
  | [] => .ok 0
  | c :: port =>
      if c = 64 then parseConnectionSpecHost pton getaddrinfo port
      else if !Ascii.isDigit c then .error (.invalidPortCharacter c)
      else parseConnectionSpecPort port

/-- `parse_connection_spec_port_and_host`, `milter/core/milter-connection.c:169`. -/
def parseConnectionSpecPortAndHost (port : Bytes) : Except SpecError (Int × BitVec n) := do
  let address ← parseConnectionSpecPort pton getaddrinfo port
  if 65535 < atoi port then .error (.portTooLarge (atoi port)) else .ok (atoi port, address)

/-- What `milter_connection_parse_spec` does with a port number and an address. -/
def storeAddress (asked : Bool) (domain : Domain) (toAddress : BitVec n → UInt16 → SocketAddress) :
    Except SpecError (Int × BitVec n) → SpecOutcome
  | .error error => .failed error
  | .ok (portNumber, address) =>
      .parsed domain (if asked then some (toAddress address (UInt16.ofInt portNumber)) else none)

end Family

variable (resolver : Resolver)

/-- `milter_connection_parse_spec`, `milter/core/milter-connection.c:216`; the address is asked for
with `address` and `address_size`. -/
def parseSpec (asked : Bool) : Option CString → SpecOutcome
  | none => .failed .specMissing
  | some spec =>
      match spec.bytes.dropWhile (· ≠ 58) with
      | [] => .failed .colonMissing
      | _ :: content =>
          if content = [] then .failed .contentMissing
          else if unixPrefix <+: spec.bytes ∨ localPrefix <+: spec.bytes then
            if !asked then .parsed .unix none
            else if sunPathSize ≤ content.length then .overrun
            else .parsed .unix (some (.unix (.ofBytes content)))
          else if inetPrefix <+: spec.bytes then
            storeAddress asked .inet .inet
              (parseConnectionSpecPortAndHost resolver.addressText.pton resolver.getaddrinfo
                content)
          else if inet6Prefix <+: spec.bytes then
            storeAddress asked .inet6 .inet6
              (parseConnectionSpecPortAndHost resolver.addressText.pton6 resolver.getaddrinfo6
                content)
          else .failed (.invalidProtocol (spec.bytes.takeWhile (· ≠ 58)))

/-- `milter_connection_address_to_spec`, `milter/core/milter-connection.c:46`. -/
def addressToSpec (addressText : AddressText) : SocketAddress → CString
  | .unix path => .ofBytes (unixPrefix ++ path.bytes)
  | .inet address port =>
      .ofBytes (inetPrefix ++ (decimal port.toNat ++
        64 :: 91 :: ((addressText.ntop address).bytes ++ [93])))
  | .inet6 address port =>
      .ofBytes (inet6Prefix ++ (decimal port.toNat ++
        64 :: 91 :: ((addressText.ntop6 address).bytes ++ [93])))
  | .unknown => .ofBytes [117, 110, 107, 110, 111, 119, 110]

/-- What stands behind the port, and the address that it names: nothing, a numeric address in
brackets or a host name. -/
inductive HasHost {n : Nat} (pton getaddrinfo : CString → Option (BitVec n)) :
    Bytes → BitVec n → Prop where
  | any : HasHost pton getaddrinfo [] 0
  | numeric {host : Bytes} {address : BitVec n} (h : pton (.ofBytes host) = some address) :
      HasHost pton getaddrinfo (64 :: 91 :: (host ++ [93])) address
  | named {host : Bytes} {address : BitVec n} (hname : host.head? ≠ some 91)
      (h : getaddrinfo (.ofBytes host) = some address) :
      HasHost pton getaddrinfo (64 :: host) address

/-- Digits that write a number of 16 bits. -/
def IsPort (digits : Bytes) (port : UInt16) : Prop :=
  digits ≠ [] ∧ (∀ c ∈ digits, Ascii.isDigit c = true) ∧ digitsValue digits = port.toNat

/-- The strings of the grammar, and the addresses that they stand for. -/
def Denotes (spec : Bytes) : SocketAddress → Prop
  | .unix path =>
      path.bytes ≠ [] ∧ path.bytes.length < sunPathSize ∧
        (spec = unixPrefix ++ path.bytes ∨ spec = localPrefix ++ path.bytes)
  | .inet address port =>
      ∃ digits host, spec = inetPrefix ++ (digits ++ host) ∧ IsPort digits port ∧
        HasHost resolver.addressText.pton resolver.getaddrinfo host address
  | .inet6 address port =>
      ∃ digits host, spec = inet6Prefix ++ (digits ++ host) ∧ IsPort digits port ∧
        HasHost resolver.addressText.pton6 resolver.getaddrinfo6 host address
  | .unknown => False

/-- The family of an address. -/
def domainOf : SocketAddress → Domain
  | .inet _ _ => .inet
  | .inet6 _ _ => .inet6
  | .unix _ | .unknown => .unix

/-- A string of the grammar is parsed to its address, and any other string is refused. -/
def Conforms (asked : Bool) (spec : CString) : Prop :=
  (∀ address, Denotes resolver spec.bytes address →
    parseSpec resolver asked (some spec) =
      .parsed (domainOf address) (if asked then some address else none)) ∧
  ((∀ address, ¬Denotes resolver spec.bytes address) →
    ∃ error, parseSpec resolver asked (some spec) = .failed error)

/-- The digits write a port, or a number that is still above the ports when `atoi` has cut it. -/
def Sized (digits : Bytes) : Prop :=
  digits ≠ [] ∧ digitsValue digits ≤ 65535 ∨
    65535 < min (digitsValue digits) longMax % 0x100000000 ∧
      min (digitsValue digits) longMax % 0x100000000 < 0x80000000

/-- A path fits `sun_path`, and the digits before a host that is found are sized. -/
def WellSized (spec : CString) : Prop :=
  (∀ path, spec.bytes = unixPrefix ++ path ∨ spec.bytes = localPrefix ++ path →
    path.length < sunPathSize) ∧
  (∀ digits host, digits ++ host ≠ [] → (∀ c ∈ digits, Ascii.isDigit c = true) →
    (spec.bytes = inetPrefix ++ (digits ++ host) ∧
        (∃ address, HasHost resolver.addressText.pton resolver.getaddrinfo host address) ∨
      spec.bytes = inet6Prefix ++ (digits ++ host) ∧
        ∃ address, HasHost resolver.addressText.pton6 resolver.getaddrinfo6 host address) →
    Sized digits)

section Number

/-- The number that `atoi` makes of digits is too large for a port only by its lower half. -/
theorem intOfLong_le_iff (value : Nat) :
    intOfLong value ≤ 65535 ↔
      ¬(65535 < value % 0x100000000 ∧ value % 0x100000000 < 0x80000000) := by
  rw [intOfLong, Int.bmod_def]
  split <;> omega

theorem natCast_min_longMax (value : Nat) :
    min (value : Int) longMax = (min value longMax : Nat) := by
  omega

theorem atoi_eq {digits host : Bytes} (hdigits : ∀ c ∈ digits, Ascii.isDigit c = true)
    (hhost : ∀ c, host.head? = some c → c = 64) :
    atoi (digits ++ host) = intOfLong (min (digitsValue digits) longMax : Nat) := by
  have hend (c : UInt8) (hc : host.head? = some c) : endsNumber c = true := by
    rw [hhost c hc]
    rfl
  rw [atoi, strtol_digits hdigits hend, natCast_min_longMax]

theorem atoi_of_le {digits host : Bytes} (hdigits : ∀ c ∈ digits, Ascii.isDigit c = true)
    (hhost : ∀ c, host.head? = some c → c = 64) (hvalue : digitsValue digits ≤ 65535) :
    atoi (digits ++ host) = digitsValue digits := by
  have hmin : min (digitsValue digits) longMax = digitsValue digits := by
    rw [longMax]
    omega
  rw [atoi_eq hdigits hhost, hmin]
  exact intOfLong_eq (by omega) (by omega)

theorem ofInt_toNat (port : UInt16) : UInt16.ofInt port.toNat = port := by
  have hbound := port.toNat_lt
  apply UInt16.toNat_inj.mp
  show (UInt16.ofNat ((port.toNat : Int) % 2 ^ 16).toNat).toNat = port.toNat
  rw [UInt16.toNat_ofNat']
  omega

end Number

section Host

variable {n : Nat} {pton getaddrinfo : CString → Option (BitVec n)} {content : Bytes}

theorem head_of_hasHost {host : Bytes} {address : BitVec n}
    (h : HasHost pton getaddrinfo host address) : ∀ c, host.head? = some c → c = 64 := by
  cases h with
  | any => simp
  | numeric _ => simp
  | named _ _ => simp

/-- The digits before a host are all of them. -/
theorem digits_of_hasHost {digits host : Bytes} {address : BitVec n}
    (hdigits : ∀ c ∈ digits, Ascii.isDigit c = true) (h : HasHost pton getaddrinfo host address) :
    (digits ++ host).takeWhile Ascii.isDigit = digits := by
  apply takeWhile_digits hdigits
  intro c hc
  rw [head_of_hasHost h c hc]
  rfl

theorem parseConnectionSpecHost_iff (host : Bytes) (address : BitVec n) :
    parseConnectionSpecHost pton getaddrinfo host = .ok address ↔
      HasHost pton getaddrinfo (64 :: host) address := by
  by_cases hbracket : host.head? = some 91
  · obtain ⟨rest, rfl⟩ := List.head?_eq_some_iff.mp hbracket
    have hinner : HasHost pton getaddrinfo (64 :: 91 :: rest) address ↔
        ∃ inner, rest = inner ++ [93] ∧ pton (.ofBytes inner) = some address := by
      constructor
      · intro h
        cases h with
        | numeric h => exact ⟨_, rfl, h⟩
        | named hname _ => exact absurd rfl hname
      · rintro ⟨inner, rfl, h⟩
        exact .numeric h
    rw [hinner, parseConnectionSpecHost]
    rcases List.eq_nil_or_concat' rest with rfl | ⟨inner, last, rfl⟩
    · simp
    · have hlast : (91 :: (inner ++ [last])).getLast? = some last := by
        rw [← List.cons_append, List.getLast?_concat]
      rw [hlast, List.dropLast_concat]
      by_cases hclosed : last = 93
      · subst hclosed
        cases hpton : pton (.ofBytes inner) with
        | none => simp [hpton]
        | some found => simp [hpton]
      · simp [hclosed]
  · have hnamed : HasHost pton getaddrinfo (64 :: host) address ↔
        getaddrinfo (.ofBytes host) = some address := by
      constructor
      · intro h
        cases h with
        | numeric _ => exact absurd rfl hbracket
        | named _ h => exact h
      · exact .named hbracket
    rw [hnamed, parseConnectionSpecHost.eq_def]
    split
    · exact absurd rfl hbracket
    · cases getaddrinfo (.ofBytes host) with
      | none => simp
      | some found => simp

/-- The loop accepts digits and a host behind them. -/
theorem parseConnectionSpecPort_iff (content : Bytes) (address : BitVec n) :
    parseConnectionSpecPort pton getaddrinfo content = .ok address ↔
      ∃ digits host, content = digits ++ host ∧ (∀ c ∈ digits, Ascii.isDigit c = true) ∧
        HasHost pton getaddrinfo host address := by
  induction content with
  | nil =>
      rw [parseConnectionSpecPort]
      constructor
      · intro h
        cases h
        exact ⟨[], [], rfl, by simp, .any⟩
      · rintro ⟨digits, host, hcontent, -, h⟩
        obtain ⟨rfl, rfl⟩ := List.append_eq_nil_iff.mp hcontent.symm
        cases h
        rfl
  | cons c content ih =>
      rw [parseConnectionSpecPort]
      by_cases hat : c = 64
      · rw [if_pos hat, hat, parseConnectionSpecHost_iff]
        constructor
        · intro h
          exact ⟨[], 64 :: content, rfl, by simp, h⟩
        · rintro ⟨digits, host, hcontent, hdigits, h⟩
          cases digits with
          | nil =>
              rw [List.nil_append] at hcontent
              rw [hcontent]
              exact h
          | cons d digits =>
              have hd := hdigits d List.mem_cons_self
              rw [← (List.cons.inj hcontent).1] at hd
              cases hd
      · rw [if_neg hat]
        cases hdigit : Ascii.isDigit c with
        | false =>
            rw [Bool.not_false, if_pos rfl]
            apply iff_of_false (fun h => by cases h)
            rintro ⟨digits, host, hcontent, hdigits, h⟩
            cases digits with
            | nil => exact hat (head_of_hasHost h c (congrArg List.head? hcontent.symm))
            | cons d digits =>
                have hd := hdigits d List.mem_cons_self
                rw [← (List.cons.inj hcontent).1, hdigit] at hd
                cases hd
        | true =>
            rw [Bool.not_true, if_neg Bool.false_ne_true, ih]
            constructor
            · rintro ⟨digits, host, rfl, hdigits, h⟩
              exact ⟨c :: digits, host, rfl, List.forall_mem_cons.mpr ⟨hdigit, hdigits⟩, h⟩
            · rintro ⟨digits, host, hcontent, hdigits, h⟩
              cases digits with
              | nil => exact absurd (head_of_hasHost h c (congrArg List.head? hcontent.symm)) hat
              | cons d digits =>
                  exact ⟨digits, host, (List.cons.inj hcontent).2,
                    (List.forall_mem_cons.mp hdigits).2, h⟩

/-- What the number after the loop decides. -/
theorem parseConnectionSpecPortAndHost_iff (content : Bytes) (portNumber : Int)
    (address : BitVec n) :
    parseConnectionSpecPortAndHost pton getaddrinfo content = .ok (portNumber, address) ↔
      portNumber = atoi content ∧ portNumber ≤ 65535 ∧
        ∃ digits host, content = digits ++ host ∧ (∀ c ∈ digits, Ascii.isDigit c = true) ∧
          HasHost pton getaddrinfo host address := by
  rw [← parseConnectionSpecPort_iff, parseConnectionSpecPortAndHost]
  cases parseConnectionSpecPort pton getaddrinfo content with
  | error error => simp [bind, Except.bind]
  | ok found =>
      by_cases hlarge : 65535 < atoi content
      · simp only [bind, Except.bind, if_pos hlarge]
        apply iff_of_false (fun h => by cases h)
        rintro ⟨rfl, hle, -⟩
        omega
      · simp only [bind, Except.bind, if_neg hlarge, Except.ok.injEq, Prod.mk.injEq]
        constructor
        · rintro ⟨rfl, rfl⟩
          exact ⟨rfl, by omega, rfl⟩
        · rintro ⟨rfl, -, rfl⟩
          exact ⟨rfl, rfl⟩

/-- A port and a host are parsed to what they say. -/
theorem parseConnectionSpecPortAndHost_of_isPort {digits host : Bytes} {port : UInt16}
    {address : BitVec n} (hport : IsPort digits port)
    (hhost : HasHost pton getaddrinfo host address) :
    ∃ portNumber, UInt16.ofInt portNumber = port ∧
      parseConnectionSpecPortAndHost pton getaddrinfo (digits ++ host) =
        .ok (portNumber, address) := by
  have hbound := port.toNat_lt
  have hvalue : digitsValue digits ≤ 65535 := by
    rw [hport.2.2]
    omega
  have hatoi := atoi_of_le hport.2.1 (head_of_hasHost hhost) hvalue
  refine ⟨digitsValue digits, ?_, ?_⟩
  · rw [hport.2.2]
    exact ofInt_toNat port
  · rw [parseConnectionSpecPortAndHost_iff, hatoi]
    exact ⟨rfl, by omega, digits, host, rfl, hport.2.1, hhost⟩

/-- What is no port and host is refused. -/
def Refuses (pton getaddrinfo : CString → Option (BitVec n)) (content : Bytes) : Prop :=
  (∀ digits host port address, content = digits ++ host → IsPort digits port →
      ¬HasHost pton getaddrinfo host address) →
    ∃ error, parseConnectionSpecPortAndHost pton getaddrinfo content = .error error

theorem refuses_iff :
    Refuses pton getaddrinfo content ↔
      ∀ digits host, content = digits ++ host → (∀ c ∈ digits, Ascii.isDigit c = true) →
        (∃ address, HasHost pton getaddrinfo host address) → Sized digits := by
  constructor
  · rintro h digits host rfl hdigits ⟨address, hhost⟩
    by_contra hsized
    rw [Sized, not_or] at hsized
    have hle : atoi (digits ++ host) ≤ 65535 := by
      rw [atoi_eq hdigits (head_of_hasHost hhost)]
      exact (intOfLong_le_iff _).mpr hsized.2
    have hok := (parseConnectionSpecPortAndHost_iff _ _ address).mpr
      ⟨rfl, hle, digits, host, rfl, hdigits, hhost⟩
    -- Every other way to read the content has the same digits.
    obtain ⟨error, herror⟩ := h fun digits' host' port' address' hsplit hport hhost' => by
      have hsame := digits_of_hasHost hport.2.1 hhost'
      rw [← hsplit, digits_of_hasHost hdigits hhost] at hsame
      have hbound := port'.toNat_lt
      rw [← hport.2.2, ← hsame] at hbound
      exact hsized.1 ⟨hsame ▸ hport.1, by omega⟩
    rw [hok] at herror
    cases herror
  · intro h hnone
    cases hparse : parseConnectionSpecPortAndHost pton getaddrinfo content with
    | error error => exact ⟨error, rfl⟩
    | ok parsed =>
        exfalso
        obtain ⟨hnumber, hle, digits, host, hsplit, hdigits, hhost⟩ :=
          (parseConnectionSpecPortAndHost_iff content parsed.1 parsed.2).mp hparse
        rcases h digits host hsplit hdigits ⟨_, hhost⟩ with ⟨hne, hvalue⟩ | hlarge
        · refine hnone digits host (UInt16.ofNat (digitsValue digits)) parsed.2 hsplit
            ⟨hne, hdigits, ?_⟩ hhost
          rw [UInt16.toNat_ofNat']
          omega
        · rw [hnumber, hsplit, atoi_eq hdigits (head_of_hasHost hhost)] at hle
          exact (intOfLong_le_iff _).mp hle hlarge

end Host

section Spec

variable {resolver : Resolver} {asked : Bool} {spec : CString} {content : Bytes}

theorem parseSpec_unix
    (h : spec.bytes = unixPrefix ++ content ∨ spec.bytes = localPrefix ++ content) :
    parseSpec resolver asked (some spec) =
      if content = [] then .failed .contentMissing
      else if !asked then .parsed .unix none
      else if sunPathSize ≤ content.length then .overrun
      else .parsed .unix (some (.unix (.ofBytes content))) := by
  have hcontent : spec.bytes.dropWhile (· ≠ 58) = 58 :: content := by
    rcases h with h | h <;> rw [h] <;> rfl
  have hprefix : unixPrefix <+: spec.bytes ∨ localPrefix <+: spec.bytes := by
    rcases h with h | h
    · exact .inl ⟨content, h.symm⟩
    · exact .inr ⟨content, h.symm⟩
  rw [parseSpec, hcontent]
  dsimp only
  rw [if_pos hprefix]

theorem parseSpec_inet (h : spec.bytes = inetPrefix ++ content) :
    parseSpec resolver asked (some spec) =
      if content = [] then .failed .contentMissing
      else
        storeAddress asked .inet .inet
          (parseConnectionSpecPortAndHost resolver.addressText.pton resolver.getaddrinfo
            content) := by
  have hcontent : spec.bytes.dropWhile (· ≠ 58) = 58 :: content := by
    rw [h]
    rfl
  have hunix : ¬(unixPrefix <+: spec.bytes ∨ localPrefix <+: spec.bytes) := by
    rw [h]
    simp [unixPrefix, localPrefix, inetPrefix]
  have hinet : inetPrefix <+: spec.bytes := ⟨content, h.symm⟩
  rw [parseSpec, hcontent]
  dsimp only
  rw [if_neg hunix, if_pos hinet]

theorem parseSpec_inet6 (h : spec.bytes = inet6Prefix ++ content) :
    parseSpec resolver asked (some spec) =
      if content = [] then .failed .contentMissing
      else
        storeAddress asked .inet6 .inet6
          (parseConnectionSpecPortAndHost resolver.addressText.pton6 resolver.getaddrinfo6
            content) := by
  have hcontent : spec.bytes.dropWhile (· ≠ 58) = 58 :: content := by
    rw [h]
    rfl
  have hunix : ¬(unixPrefix <+: spec.bytes ∨ localPrefix <+: spec.bytes) := by
    rw [h]
    simp [unixPrefix, localPrefix, inet6Prefix]
  have hinet : ¬inetPrefix <+: spec.bytes := by
    rw [h]
    simp [inetPrefix, inet6Prefix]
  have hinet6 : inet6Prefix <+: spec.bytes := ⟨content, h.symm⟩
  rw [parseSpec, hcontent]
  dsimp only
  rw [if_neg hunix, if_neg hinet, if_pos hinet6]

theorem parseSpec_other (hunix : ¬(unixPrefix <+: spec.bytes ∨ localPrefix <+: spec.bytes))
    (hinet : ¬inetPrefix <+: spec.bytes) (hinet6 : ¬inet6Prefix <+: spec.bytes) :
    ∃ error, parseSpec resolver asked (some spec) = .failed error := by
  rw [parseSpec]
  cases spec.bytes.dropWhile (· ≠ 58) with
  | nil => exact ⟨_, rfl⟩
  | cons colon content =>
      dsimp only
      rw [if_neg hunix, if_neg hinet, if_neg hinet6]
      by_cases hempty : content = []
      · rw [if_pos hempty]
        exact ⟨_, rfl⟩
      · rw [if_neg hempty]
        exact ⟨_, rfl⟩

theorem denotes_of_unix
    (h : spec.bytes = unixPrefix ++ content ∨ spec.bytes = localPrefix ++ content)
    (address : SocketAddress) :
    Denotes resolver spec.bytes address ↔
      ∃ path, address = .unix path ∧ path.bytes = content ∧ content ≠ [] ∧
        content.length < sunPathSize := by
  cases address with
  | unix path =>
      have hpath :
          (spec.bytes = unixPrefix ++ path.bytes ∨ spec.bytes = localPrefix ++ path.bytes) ↔
            path.bytes = content := by
        rcases h with h | h <;> rw [h] <;> simp [unixPrefix, localPrefix, eq_comm]
      rw [Denotes, hpath]
      constructor
      · rintro ⟨hne, hlength, rfl⟩
        exact ⟨path, rfl, rfl, hne, hlength⟩
      · rintro ⟨_, ⟨⟩, rfl, hne, hlength⟩
        exact ⟨hne, hlength, rfl⟩
  | inet ipAddress port =>
      apply iff_of_false
      · rintro ⟨digits, host, hspec, -⟩
        rw [hspec] at h
        simp [unixPrefix, localPrefix, inetPrefix] at h
      · rintro ⟨_, ⟨⟩, -⟩
  | inet6 ipAddress port =>
      apply iff_of_false
      · rintro ⟨digits, host, hspec, -⟩
        rw [hspec] at h
        simp [unixPrefix, localPrefix, inet6Prefix] at h
      · rintro ⟨_, ⟨⟩, -⟩
  | unknown =>
      apply iff_of_false
      · exact id
      · rintro ⟨_, ⟨⟩, -⟩

theorem denotes_of_inet (h : spec.bytes = inetPrefix ++ content) (address : SocketAddress) :
    Denotes resolver spec.bytes address ↔
      ∃ ipAddress port digits host, address = .inet ipAddress port ∧ content = digits ++ host ∧
        IsPort digits port ∧
        HasHost resolver.addressText.pton resolver.getaddrinfo host ipAddress := by
  rw [h]
  cases address with
  | inet ipAddress port => simp [Denotes]
  | inet6 ipAddress port => simp [Denotes, inetPrefix, inet6Prefix]
  | unix path => simp [Denotes, inetPrefix, unixPrefix, localPrefix]
  | unknown => simp [Denotes]

theorem denotes_of_inet6 (h : spec.bytes = inet6Prefix ++ content) (address : SocketAddress) :
    Denotes resolver spec.bytes address ↔
      ∃ ipAddress port digits host, address = .inet6 ipAddress port ∧ content = digits ++ host ∧
        IsPort digits port ∧
        HasHost resolver.addressText.pton6 resolver.getaddrinfo6 host ipAddress := by
  rw [h]
  cases address with
  | inet ipAddress port => simp [Denotes, inetPrefix, inet6Prefix]
  | inet6 ipAddress port => simp [Denotes]
  | unix path => simp [Denotes, inet6Prefix, unixPrefix, localPrefix]
  | unknown => simp [Denotes]

/-- A string of the grammar is parsed to its address. -/
theorem parseSpec_of_denotes {address : SocketAddress}
    (h : Denotes resolver spec.bytes address) :
    parseSpec resolver asked (some spec) =
      .parsed (domainOf address) (if asked then some address else none) := by
  cases address with
  | unix path =>
      obtain ⟨hne, hshort, hspec⟩ := h
      rw [parseSpec_unix hspec, if_neg hne, if_neg (Nat.not_le.mpr hshort), CString.ofBytes_bytes]
      cases asked <;> rfl
  | inet ipAddress port =>
      obtain ⟨digits, host, hspec, hport, hhost⟩ := h
      obtain ⟨portNumber, rfl, hresult⟩ := parseConnectionSpecPortAndHost_of_isPort hport hhost
      rw [parseSpec_inet hspec, if_neg (List.append_ne_nil_of_left_ne_nil hport.1 host), hresult]
      rfl
  | inet6 ipAddress port =>
      obtain ⟨digits, host, hspec, hport, hhost⟩ := h
      obtain ⟨portNumber, rfl, hresult⟩ := parseConnectionSpecPortAndHost_of_isPort hport hhost
      rw [parseSpec_inet6 hspec, if_neg (List.append_ne_nil_of_left_ne_nil hport.1 host), hresult]
      rfl
  | unknown => exact h.elim

theorem conforms_iff_refused :
    Conforms resolver asked spec ↔ ((∀ address, ¬Denotes resolver spec.bytes address) →
      ∃ error, parseSpec resolver asked (some spec) = .failed error) := by
  rw [Conforms]
  apply and_iff_right
  intro address h
  exact parseSpec_of_denotes h

theorem conforms_unix_iff
    (h : spec.bytes = unixPrefix ++ content ∨ spec.bytes = localPrefix ++ content) :
    Conforms resolver asked spec ↔ content.length < sunPathSize := by
  have hnull : 0 ∉ content := by
    intro hmem
    rcases h with h | h
    · exact spec.noNull (h ▸ List.mem_append_right _ hmem)
    · exact spec.noNull (h ▸ List.mem_append_right _ hmem)
  rw [conforms_iff_refused, parseSpec_unix h]
  simp only [denotes_of_unix h]
  by_cases hempty : content = []
  · rw [if_pos hempty]
    exact iff_of_true (fun _ => ⟨_, rfl⟩) (by rw [hempty]; decide)
  · rw [if_neg hempty]
    by_cases hshort : content.length < sunPathSize
    · apply iff_of_true _ hshort
      intro hnone
      exact absurd ⟨⟨content, hnull⟩, rfl, rfl, hempty, hshort⟩ (hnone _)
    · apply iff_of_false _ hshort
      intro hrefused
      obtain ⟨error, herror⟩ := hrefused fun address hdenotes => by
        obtain ⟨path, -, -, -, hlength⟩ := hdenotes
        exact hshort hlength
      rw [if_pos (Nat.not_lt.mp hshort)] at herror
      cases asked <;> cases herror

/-- For a family of addresses the grammar is met exactly when what is no port and host is
refused. -/
theorem conforms_family_iff {n : Nat} {pton getaddrinfo : CString → Option (BitVec n)}
    {domain : Domain} {toAddress : BitVec n → UInt16 → SocketAddress}
    (hdenotes : ∀ address, Denotes resolver spec.bytes address ↔
      ∃ ipAddress port digits host, address = toAddress ipAddress port ∧
        content = digits ++ host ∧ IsPort digits port ∧ HasHost pton getaddrinfo host ipAddress)
    (hparse : parseSpec resolver asked (some spec) =
      if content = [] then .failed .contentMissing
      else storeAddress asked domain toAddress
        (parseConnectionSpecPortAndHost pton getaddrinfo content)) :
    Conforms resolver asked spec ↔ (content ≠ [] → Refuses pton getaddrinfo content) := by
  rw [conforms_iff_refused, hparse]
  simp only [hdenotes]
  by_cases hempty : content = []
  · rw [if_pos hempty]
    exact iff_of_true (fun _ => ⟨_, rfl⟩) (fun hne => absurd hempty hne)
  · rw [if_neg hempty, imp_iff_right hempty]
    constructor
    · intro hrefused hnone
      obtain ⟨error, herror⟩ := hrefused fun address hdenotes => by
        obtain ⟨ipAddress, port, digits, host, -, hsplit, hport, hhost⟩ := hdenotes
        exact hnone digits host port ipAddress hsplit hport hhost
      cases hresult : parseConnectionSpecPortAndHost pton getaddrinfo content with
      | error error => exact ⟨error, rfl⟩
      | ok parsed =>
          rw [hresult] at herror
          cases herror
    · intro hrefuses hnone
      obtain ⟨error, herror⟩ := hrefuses fun digits host port ipAddress hsplit hport hhost =>
        hnone _ ⟨ipAddress, port, digits, host, rfl, hsplit, hport, hhost⟩
      rw [herror]
      exact ⟨error, rfl⟩

theorem conforms_inet_iff (h : spec.bytes = inetPrefix ++ content) :
    Conforms resolver asked spec ↔
      (content ≠ [] → Refuses resolver.addressText.pton resolver.getaddrinfo content) := by
  exact conforms_family_iff (denotes_of_inet h) (parseSpec_inet h)

theorem conforms_inet6_iff (h : spec.bytes = inet6Prefix ++ content) :
    Conforms resolver asked spec ↔
      (content ≠ [] → Refuses resolver.addressText.pton6 resolver.getaddrinfo6 content) := by
  exact conforms_family_iff (denotes_of_inet6 h) (parseSpec_inet6 h)

/-- The hosts of a family that stand behind digits in a spec. -/
theorem sized_iff_refuses {n : Nat} {pton getaddrinfo : CString → Option (BitVec n)} :
    (content ≠ [] → Refuses pton getaddrinfo content) ↔
      ∀ digits host, digits ++ host ≠ [] → (∀ c ∈ digits, Ascii.isDigit c = true) →
        content = digits ++ host → (∃ address, HasHost pton getaddrinfo host address) →
        Sized digits := by
  rw [refuses_iff]
  constructor
  · rintro h digits host hne hdigits rfl hhost
    exact h hne digits host rfl hdigits hhost
  · rintro h hne digits host rfl hdigits hhost
    exact h digits host hne hdigits rfl hhost

/-- A spec conforms exactly when it is well sized. -/
theorem conforms_iff_wellSized (resolver : Resolver) (asked : Bool) (spec : CString) :
    Conforms resolver asked spec ↔ WellSized resolver spec := by
  by_cases hunix : unixPrefix <+: spec.bytes ∨ localPrefix <+: spec.bytes
  · obtain ⟨content, h⟩ : ∃ content,
        spec.bytes = unixPrefix ++ content ∨ spec.bytes = localPrefix ++ content := by
      rcases hunix with ⟨content, h⟩ | ⟨content, h⟩
      · exact ⟨content, .inl h.symm⟩
      · exact ⟨content, .inr h.symm⟩
    have hpath (path : Bytes) : (spec.bytes = unixPrefix ++ path ∨
        spec.bytes = localPrefix ++ path) ↔ path = content := by
      rcases h with h | h <;> rw [h] <;> simp [unixPrefix, localPrefix, eq_comm]
    have hinet (rest : Bytes) : spec.bytes ≠ inetPrefix ++ rest := by
      rcases h with h | h <;> rw [h] <;> simp [unixPrefix, localPrefix, inetPrefix]
    have hinet6 (rest : Bytes) : spec.bytes ≠ inet6Prefix ++ rest := by
      rcases h with h | h <;> rw [h] <;> simp [unixPrefix, localPrefix, inet6Prefix]
    rw [conforms_unix_iff h, WellSized]
    simp [hpath, hinet, hinet6]
  · have hpath (path : Bytes) :
        ¬(spec.bytes = unixPrefix ++ path ∨ spec.bytes = localPrefix ++ path) := by
      rintro (h | h)
      · exact hunix (.inl ⟨path, h.symm⟩)
      · exact hunix (.inr ⟨path, h.symm⟩)
    rw [WellSized]
    simp only [hpath, false_implies, implies_true, true_and]
    by_cases hinet : inetPrefix <+: spec.bytes
    · obtain ⟨content, h⟩ := hinet
      have hinet6 (rest : Bytes) : spec.bytes ≠ inet6Prefix ++ rest := by
        rw [← h]
        simp [inetPrefix, inet6Prefix]
      rw [conforms_inet_iff h.symm, sized_iff_refuses]
      simp only [hinet6, false_and, or_false, and_imp]
      simp only [← h, List.append_cancel_left_eq]
    · have hinetNe (rest : Bytes) : spec.bytes ≠ inetPrefix ++ rest :=
        fun h => hinet ⟨rest, h.symm⟩
      by_cases hinet6 : inet6Prefix <+: spec.bytes
      · obtain ⟨content, h⟩ := hinet6
        rw [conforms_inet6_iff h.symm, sized_iff_refuses]
        simp only [hinetNe, false_and, false_or, and_imp]
        simp only [← h, List.append_cancel_left_eq]
      · have hinet6Ne (rest : Bytes) : spec.bytes ≠ inet6Prefix ++ rest :=
          fun h => hinet6 ⟨rest, h.symm⟩
        have hnone (address : SocketAddress) : ¬Denotes resolver spec.bytes address := by
          cases address with
          | unix path => exact fun h => hpath path.bytes h.2.2
          | inet ipAddress port => exact fun ⟨digits, host, h, _⟩ => hinetNe _ h
          | inet6 ipAddress port => exact fun ⟨digits, host, h, _⟩ => hinet6Ne _ h
          | unknown => exact id
        apply iff_of_true
        · exact ⟨fun address h => absurd h (hnone address),
            fun _ => parseSpec_other hunix hinet hinet6⟩
        · simp [hinetNe, hinet6Ne]

/-- An address that a spec can show: a path that is not empty, or a number that reads back. -/
def Shown (addressText : AddressText) : SocketAddress → Prop
  | .unix path => path.bytes ≠ [] ∧ path.bytes.length < sunPathSize
  | .inet address _ => addressText.pton (addressText.ntop address) = some address
  | .inet6 address _ => addressText.pton6 (addressText.ntop6 address) = some address
  | .unknown => False

theorem ofBytes_eq {bytes : Bytes} (h : 0 ∉ bytes) : (CString.ofBytes bytes).bytes = bytes :=
  congrArg CString.bytes (CString.ofBytes_bytes ⟨bytes, h⟩)

theorem isPort_decimal (port : UInt16) : IsPort (decimal port.toNat) port :=
  decimal_spec port.toNat

theorem null_notMem_decimal (n : Nat) : 0 ∉ decimal n := by
  intro hmem
  have hdigit := (decimal_spec n).2.1 0 hmem
  cases hdigit

/-- What is shown of an address is in the grammar and stands for that address. -/
theorem denotes_addressToSpec {address : SocketAddress}
    (h : Shown resolver.addressText address) :
    Denotes resolver (addressToSpec resolver.addressText address).bytes address := by
  cases address with
  | unix path =>
      have hnull : 0 ∉ unixPrefix ++ path.bytes := by
        simp [unixPrefix, path.noNull]
      rw [addressToSpec, ofBytes_eq hnull]
      exact ⟨h.1, h.2, .inl rfl⟩
  | inet ipAddress port =>
      have hnull : 0 ∉ inetPrefix ++ (decimal port.toNat ++
          64 :: 91 :: ((resolver.addressText.ntop ipAddress).bytes ++ [93])) := by
        simp [inetPrefix, null_notMem_decimal, (resolver.addressText.ntop ipAddress).noNull]
      rw [addressToSpec, ofBytes_eq hnull]
      refine ⟨_, _, rfl, isPort_decimal port, .numeric ?_⟩
      rw [CString.ofBytes_bytes]
      exact h
  | inet6 ipAddress port =>
      have hnull : 0 ∉ inet6Prefix ++ (decimal port.toNat ++
          64 :: 91 :: ((resolver.addressText.ntop6 ipAddress).bytes ++ [93])) := by
        simp [inet6Prefix, null_notMem_decimal, (resolver.addressText.ntop6 ipAddress).noNull]
      rw [addressToSpec, ofBytes_eq hnull]
      refine ⟨_, _, rfl, isPort_decimal port, .numeric ?_⟩
      rw [CString.ofBytes_bytes]
      exact h
  | unknown => exact h.elim

end Spec

/-- A spec conforms to the grammar exactly when it is well sized, and the spec of every address that
can be shown is parsed to that address. -/
theorem conforms_iff (resolver : Resolver) :
    (∀ asked spec, Conforms resolver asked spec ↔ WellSized resolver spec) ∧
      ∀ address, Shown resolver.addressText address →
        parseSpec resolver true (some (addressToSpec resolver.addressText address)) =
          .parsed (domainOf address) (some address) := by
  constructor
  · exact conforms_iff_wellSized resolver
  · intro address h
    exact parseSpec_of_denotes (denotes_addressToSpec h)

/-- `"127.0.0.1"`. -/
def loopbackText : CString := ⟨[49, 50, 55, 46, 48, 46, 48, 46, 49], by decide⟩

/-- The conversions for the loopback address alone. -/
def loopbackResolver : Resolver where
  addressText :=
    { pton := fun text => if text = loopbackText then some 0x7F000001 else none
      ntop := fun _ => loopbackText
      pton6 := fun _ => none
      ntop6 := fun _ => .empty }
  getaddrinfo _ := none
  getaddrinfo6 _ := none

theorem conforms_iff_loopback :
    parseSpec loopbackResolver true
        (some (addressToSpec loopbackResolver.addressText (.inet 0x7F000001 10025))) =
      .parsed .inet (some (.inet 0x7F000001 10025)) :=
  (conforms_iff loopbackResolver).2 _ rfl

/-- `"4294967297"`. -/
def longPort : CString := ⟨[52, 50, 57, 52, 57, 54, 55, 50, 57, 55], by decide⟩

/-- The port `4294967297` is taken for port 1. -/
theorem not_conforms_truncated :
    ¬∀ (resolver : Resolver) (asked : Bool) (spec : CString), Conforms resolver asked spec := by
  intro h
  have hnull : 0 ∉ inetPrefix ++ (longPort.bytes ++ []) := by
    simp [inetPrefix, longPort.noNull]
  have hconforms := h loopbackResolver true ⟨_, hnull⟩
  have hsized := ((conforms_iff_wellSized _ _ _).mp hconforms).2 longPort.bytes [] (by decide)
    (List.all_eq_true.mp rfl) (.inl ⟨rfl, 0, .any⟩)
  rcases hsized with ⟨-, hvalue⟩ | ⟨hlow, -⟩
  · exact absurd hvalue (by decide)
  · exact absurd hlow (by decide)

end MilterManager.Connection
