import NvidiaBuildLb.Foundation.Splitting
import NvidiaBuildLb.Gateway.SseValidator

namespace NvidiaBuildLb.Gateway

open Foundation NvidiaBuildLb.Core

/-! The host gate of the administration: which `Host` values pass, and what
host and port are read off them. -/

abbrev HeaderValue := List UInt8

/-- `HeaderValue::to_str`: visible ASCII and tabs. -/
def HeaderValue.toStr (value : HeaderValue) : Option (List Char) :=
  if value.all fun byte => (32 ≤ byte && byte < 127) || byte == 9 then
    some (value.map fun byte => Char.ofNat byte.toNat)
  else
    none

/-- The headers that the gate reads, in their order. -/
structure AdminRequest where
  hosts : List HeaderValue
  origins : List HeaderValue
  deriving DecidableEq, Repr

def toAsciiLowercase (text : List Char) : List Char :=
  text.map Char.toLower

def decimal (digits : List Char) : Nat :=
  digits.foldl (fun value digit => value * 10 + (digit.toNat - 48)) 0

/-- `parse::<u16>()`, which takes a leading plus sign. -/
def parseU16 (text : List Char) : Option Nat :=
  let digits := (stripPrefix ['+'] text).getD text
  if digits.isEmpty || !digits.all Char.isDigit || 65535 < decimal digits then
    none
  else
    some (decimal digits)

/-! `parse::<Ipv6Addr>()`: up to eight groups, the last two of which may be
written as an IPv4 address, and one `::` for at least one group. -/

def isHexDigit (character : Char) : Bool :=
  character.isDigit || ('a' ≤ character && character ≤ 'f') ||
    ('A' ≤ character && character ≤ 'F')

def isHexGroup (text : List Char) : Bool :=
  !text.isEmpty && text.length ≤ 4 && text.all isHexDigit

def isDecOctet (text : List Char) : Bool :=
  !text.isEmpty && text.all Char.isDigit && decimal text ≤ 255 &&
    (text.length == 1 || text.head? != some '0')

def isIpv4 (text : List Char) : Bool :=
  (text.splitOn '.').length == 4 && (text.splitOn '.').all isDecOctet

/-- The 16-bit groups of the parts between colons. -/
def groupCount : List (List Char) → Option Nat
  | [] => some 0
  | [last] =>
      if isHexGroup last then some 1
      else if isIpv4 last then some 2
      else none
  | part :: next :: rest =>
      if isHexGroup part then (groupCount (next :: rest)).map (· + 1) else none

def splitDoubleColon : List Char → Option (List Char × List Char)
  | [] => none
  | ':' :: ':' :: rest => some ([], rest)
  | character :: rest =>
      (splitDoubleColon rest).map fun cut => (character :: cut.1, cut.2)

def colonParts (text : List Char) : List (List Char) :=
  if text.isEmpty then [] else text.splitOn ':'

def isIpv6 (text : List Char) : Bool :=
  match splitDoubleColon text with
  | none => groupCount (text.splitOn ':') == some 8
  | some (head, tail) =>
      (colonParts head).all isHexGroup &&
        (groupCount (colonParts tail)).any fun groups =>
          (colonParts head).length + groups ≤ 7

def parseHostAuthority (raw : List Char) : List Char × Option Nat :=
  match (stripPrefix ['['] raw).bind (splitOnce ']') with
  | some (host, remainder) =>
      (toAsciiLowercase host, (stripPrefix [':'] remainder).bind parseU16)
  | none =>
      match rsplitOnce ':' raw with
      | some (host, port) =>
          match parseU16 port with
          | some port => (toAsciiLowercase host, some port)
          | none => (toAsciiLowercase raw, none)
      | none => (toAsciiLowercase raw, none)

def portWellFormed (remainder : List Char) : Bool :=
  match stripPrefix [':'] remainder with
  | some port => (parseU16 port).isSome
  | none => false

def hostAuthorityWellFormed (raw : List Char) : Bool :=
  match stripPrefix ['['] raw with
  | some value =>
      match splitOnce ']' value with
      | none => false
      | some (_, remainder) => remainder.isEmpty || portWellFormed remainder
  | none =>
      if raw.contains '[' || raw.contains ']' || raw.isEmpty then
        false
      else
        match raw.count ':' with
        | 0 => true
        | 1 =>
            match splitOnce ':' raw with
            | none => false
            | some (host, port) => !host.isEmpty && (parseU16 port).isSome
        | _ => isIpv6 raw

def formatOriginHost (host : List Char) : List Char :=
  if host.contains ':' then '[' :: host ++ [']'] else host

def equalsLoopback6 (text : List Char) : Bool :=
  toAsciiLowercase text == [':', ':', '1']

def isLoopbackName (host : List Char) : Bool :=
  [("localhost").toList, "127.0.0.1".toList, "::1".toList].contains host

def adminHostAllowed (rawHost : List Char) : Bool :=
  if rawHost.isEmpty || rawHost.contains ',' ||
      !hostAuthorityWellFormed rawHost then
    false
  else if equalsLoopback6 rawHost then
    true
  else
    match stripPrefix ['['] rawHost with
    | some value =>
        match splitOnce ']' value with
        | none => false
        | some (host, remainder) =>
            if remainder.isEmpty then
              equalsLoopback6 host
            else
              portWellFormed remainder && equalsLoopback6 host
    | none =>
        isLoopbackName (toAsciiLowercase (rawHost.takeWhile (· != ':')))

def originAllowed (host : List Char) (publicPort : Nat)
    (origin : List Char) : Bool :=
  let originHost := formatOriginHost host
  let port := ':' :: (toString publicPort).toList
  origin == "https://".toList ++ originHost ++ port ||
    origin == "http://".toList ++ originHost ++ port ||
    (publicPort == 80 && origin == "http://".toList ++ originHost) ||
    (publicPort == 443 && origin == "https://".toList ++ originHost)

def adminSurfaceAllowedForPort (request : AdminRequest) (publicPort : Nat) :
    Bool :=
  match request.hosts with
  | [value] =>
      match value.toStr with
      | none => false
      | some rawHost =>
          if rawHost.contains ',' || !hostAuthorityWellFormed rawHost then
            false
          else
            let (host, port) := parseHostAuthority rawHost
            if !adminHostAllowed host ||
                (port.any fun port => port != publicPort) ||
                (port.isNone && publicPort != 80 && publicPort != 443) then
              false
            else
              match request.origins.head? with
              | none => true
              | some origin =>
                  match HeaderValue.toStr origin with
                  | none => false
                  | some origin => originAllowed host publicPort origin
  | _ => false

/-! What an authority spells: a name or an IPv4 address, or an IPv6 address in
brackets, with or without a decimal port; or an IPv6 address alone. -/

def isUnreserved (character : Char) : Bool :=
  character.isAlphanum || "-._~".toList.contains character

def isSubDelim (character : Char) : Bool :=
  "!$&'()*+,;=".toList.contains character

/-- `reg-name` of RFC 3986, which contains the IPv4 addresses. -/
def isRegName : List Char → Bool
  | [] => true
  | '%' :: high :: low :: rest =>
      isHexDigit high && isHexDigit low && isRegName rest
  | character :: rest =>
      (isUnreserved character || isSubDelim character) && isRegName rest

/-- Hosts compare without regard to case. -/
structure Authority where
  host : List Char
  port : Option Nat
  deriving DecidableEq, Repr

inductive Spells : List Char → Authority → Prop
  | name {host : List Char} (isName : isRegName host = true) :
      Spells host ⟨toAsciiLowercase host, none⟩
  | nameWithPort {host port : List Char} (isName : isRegName host = true)
      (nonempty : port ≠ []) (digits : port.all Char.isDigit = true) :
      Spells (host ++ ':' :: port) ⟨toAsciiLowercase host, some (decimal port)⟩
  | literal {address : List Char} (isAddress : isIpv6 address = true) :
      Spells ('[' :: address ++ [']']) ⟨toAsciiLowercase address, none⟩
  | literalWithPort {address port : List Char}
      (isAddress : isIpv6 address = true) (nonempty : port ≠ [])
      (digits : port.all Char.isDigit = true) :
      Spells ('[' :: address ++ ']' :: ':' :: port)
        ⟨toAsciiLowercase address, some (decimal port)⟩
  | bare {address : List Char} (isAddress : isIpv6 address = true) :
      Spells address ⟨toAsciiLowercase address, none⟩

/-- The value spells a loopback host with the public port. -/
def SpellsLoopback (raw : List Char) (publicPort : Nat) : Prop :=
  ∃ authority, Spells raw authority ∧ isLoopbackName authority.host = true ∧
    (authority.port = some publicPort ∨
      authority.port = none ∧ (publicPort = 80 ∨ publicPort = 443))

theorem not_mem_of_isRegName {host : List Char} (isName : isRegName host = true)
    {character : Char} (excluded : character ≠ '%' ∧ isHexDigit character = false ∧
      isUnreserved character = false ∧ isSubDelim character = false) :
    character ∉ host := by
  obtain ⟨notPercent, notHex, notUnreserved, notDelim⟩ := excluded
  induction host using isRegName.induct with
  | case1 => exact List.not_mem_nil
  | case2 high low rest induction =>
      rw [isRegName, Bool.and_eq_true, Bool.and_eq_true] at isName
      intro member
      rcases List.mem_cons.mp member with rfl | member
      · exact notPercent rfl
      rcases List.mem_cons.mp member with rfl | member
      · simp [notHex] at isName
      rcases List.mem_cons.mp member with rfl | member
      · simp [notHex] at isName
      · exact induction isName.2 member
  | case3 head rest notEscape induction =>
      rw [isRegName, Bool.and_eq_true] at isName
      · intro member
        rcases List.mem_cons.mp member with rfl | member
        · simp [notUnreserved, notDelim] at isName
        · exact induction isName.2 member
      · exact notEscape

theorem colon_not_mem {host : List Char} (isName : isRegName host = true) :
    ':' ∉ host :=
  not_mem_of_isRegName isName (by decide)

private theorem isHexGroup_hex {text : List Char} (isGroup : isHexGroup text = true) :
    ∀ character ∈ text, isHexDigit character = true := by
  simp only [isHexGroup, Bool.and_eq_true, List.all_eq_true] at isGroup
  exact isGroup.2

private theorem isIpv4_characters {text : List Char} (isAddress : isIpv4 text = true) :
    ∀ character ∈ text, isHexDigit character = true ∨ character = '.' := by
  intro character member
  simp only [isIpv4, Bool.and_eq_true, List.all_eq_true] at isAddress
  rcases @mem_splitOn _ _ '.' _ _ member with isDot | ⟨part, isPart, inside⟩
  · exact .inr isDot
  · have octet := isAddress.2 part isPart
    simp only [isDecOctet, Bool.and_eq_true, List.all_eq_true] at octet
    left
    simp [isHexDigit, octet.1.1.2 character inside]

private theorem groupCount_parts {parts : List (List Char)} {groups : Nat}
    (counted : groupCount parts = some groups) :
    groups ≤ parts.length + 1 ∧
      (∀ part ∈ parts, ∀ character ∈ part,
        isHexDigit character = true ∨ character = '.') ∧
      ∀ part ∈ parts.dropLast, isHexGroup part = true := by
  induction parts using groupCount.induct generalizing groups with
  | case1 =>
      cases counted
      simp
  | case2 last isGroup =>
      rw [groupCount, if_pos isGroup] at counted
      cases counted
      refine ⟨by simp, ?_, by simp⟩
      intro part member character inside
      rw [List.mem_singleton.mp member] at inside
      exact .inl (isHexGroup_hex isGroup character inside)
  | case3 last notGroup isAddress =>
      rw [groupCount, if_neg notGroup, if_pos isAddress] at counted
      cases counted
      refine ⟨by simp, ?_, by simp⟩
      intro part member character inside
      rw [List.mem_singleton.mp member] at inside
      exact isIpv4_characters isAddress character inside
  | case4 last notGroup notAddress =>
      rw [groupCount, if_neg notGroup, if_neg notAddress] at counted
      cases counted
  | case5 part next rest isGroup induction =>
      rw [groupCount, if_pos isGroup, Option.map_eq_some_iff] at counted
      obtain ⟨others, counted, rfl⟩ := counted
      obtain ⟨few, characters, front⟩ := induction counted
      refine ⟨by simp only [List.length_cons] at few ⊢; omega, ?_, ?_⟩
      · intro some_ member character inside
        rcases List.mem_cons.mp member with rfl | later
        · exact .inl (isHexGroup_hex isGroup character inside)
        · exact characters some_ later character inside
      · intro some_ member
        rw [List.dropLast_cons_of_ne_nil (List.cons_ne_nil _ _)] at member
        rcases List.mem_cons.mp member with rfl | later
        · exact isGroup
        · exact front some_ later
  | case6 part next rest notGroup =>
      rw [groupCount, if_neg notGroup] at counted
      cases counted

theorem splitDoubleColon_eq_some {text head tail : List Char}
    (found : splitDoubleColon text = some (head, tail)) :
    text = head ++ ':' :: ':' :: tail := by
  induction text using splitDoubleColon.induct generalizing head with
  | case1 => cases found
  | case2 rest =>
      cases found
      rfl
  | case3 character rest notDouble induction =>
      rw [splitDoubleColon] at found
      · obtain ⟨cut, later, isCut⟩ := Option.map_eq_some_iff.mp found
        cases isCut
        exact congrArg (character :: ·) (induction later)
      · exact notDouble

private theorem colonParts_characters {text : List Char} {allowed : Char → Prop}
    (parts : ∀ part ∈ colonParts text, ∀ character ∈ part, allowed character) :
    ∀ character ∈ text, allowed character ∨ character = ':' := by
  intro character member
  cases text with
  | nil => cases member
  | cons head rest =>
      rcases @mem_splitOn _ _ ':' _ _ member with isColon | ⟨part, isPart, inside⟩
      · exact .inr isColon
      · exact .inl (parts part isPart character inside)

theorem isIpv6_characters {text : List Char} (isAddress : isIpv6 text = true) :
    ∀ character ∈ text, (isHexDigit character = true ∨ character = '.') ∨
      character = ':' := by
  rw [isIpv6] at isAddress
  split at isAddress
  · have counted := groupCount_parts (eq_of_beq isAddress)
    intro character member
    rcases @mem_splitOn _ _ ':' _ _ member with isColon | ⟨part, isPart, inside⟩
    · exact .inr isColon
    · exact .inl (counted.2.1 part isPart character inside)
  · rename_i head tail found
    rw [Bool.and_eq_true, Option.any_eq_true] at isAddress
    obtain ⟨inHead, groups, counted, few⟩ := isAddress
    rw [splitDoubleColon_eq_some found]
    intro character member
    rcases List.mem_append.mp member with front | back
    · apply colonParts_characters (fun part isPart character inside => ?_) character front
      exact .inl (isHexGroup_hex (List.all_eq_true.mp inHead part isPart)
        character inside)
    · rcases List.mem_cons.mp back with isColon | back
      · exact .inr isColon
      rcases List.mem_cons.mp back with isColon | back
      · exact .inr isColon
      · exact colonParts_characters (groupCount_parts counted).2.1 character back

theorem isIpv6_not_mem {text : List Char} (isAddress : isIpv6 text = true)
    {character : Char} (excluded : isHexDigit character = false ∧
      character ≠ '.' ∧ character ≠ ':') : character ∉ text := by
  intro member
  rcases isIpv6_characters isAddress character member with (isHex | isDot) | isColon
  · rw [excluded.1] at isHex
    cases isHex
  · exact excluded.2.1 isDot
  · exact excluded.2.2 isColon

theorem isIpv6_colons {text : List Char} (isAddress : isIpv6 text = true) :
    2 ≤ text.count ':' := by
  rw [isIpv6] at isAddress
  split at isAddress
  · have counted := groupCount_parts (eq_of_beq isAddress)
    rw [length_splitOn] at counted
    omega
  · rename_i head tail found
    rw [splitDoubleColon_eq_some found, List.count_append, List.count_cons_self,
      List.count_cons_self]
    omega

theorem isIpv6_front {front back : List Char}
    (isAddress : isIpv6 (front ++ ':' :: back) = true) (absent : ':' ∉ front) :
    ∀ character ∈ front, isHexDigit character = true := by
  have parts : (front ++ ':' :: back).splitOn ':' = front :: back.splitOn ':' :=
    List.splitOn_append_cons_self_of_not_mem absent ..
  rw [isIpv6] at isAddress
  split at isAddress
  · have counted := groupCount_parts (eq_of_beq isAddress)
    rw [parts] at counted
    apply isHexGroup_hex (counted.2.2 front ?_)
    rw [List.dropLast_cons_of_ne_nil (List.splitOn_ne_nil _ _)]
    exact List.mem_cons_self ..
  · rename_i head tail found
    rw [Bool.and_eq_true] at isAddress
    have inHead : ∀ character ∈ head, isHexDigit character = true ∨ character = ':' :=
      colonParts_characters fun part isPart =>
        isHexGroup_hex (List.all_eq_true.mp isAddress.1 part isPart)
    have within : ∀ character ∈ front, character ∈ head := by
      rcases List.append_eq_append_iff.mp (splitDoubleColon_eq_some found) with
        ⟨between, isHead, _⟩ | ⟨between, isFront, cut⟩
      · intro character member
        rw [isHead]
        exact List.mem_append_left _ member
      · cases between with
        | nil =>
            rw [isFront, List.append_nil]
            exact fun _ member => member
        | cons first others =>
            obtain ⟨rfl, _⟩ := List.cons.inj cut
            refine absurd ?_ absent
            rw [isFront]
            exact List.mem_append_right _ (List.mem_cons_self ..)
    intro character member
    rcases inHead character (within character member) with isHex | isColon
    · exact isHex
    · rw [isColon] at member
      exact absurd member absent

end NvidiaBuildLb.Gateway
