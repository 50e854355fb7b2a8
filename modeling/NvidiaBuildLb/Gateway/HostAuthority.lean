import Mathlib
import NvidiaBuildLb.Gateway.HostGate

namespace NvidiaBuildLb.Gateway

open Foundation

/-! When the host gate reads the authority that a value spells. -/

theorem stripPrefix_singleton {first : Char} {text rest : List Char} :
    stripPrefix [first] text = some rest ↔ text = first :: rest := by
  constructor
  · intro stripped
    cases text with
    | nil => cases stripped
    | cons head tail =>
        rw [stripPrefix] at stripped
        split at stripped
        · rename_i same
          simp only [List.isPrefixOf_cons_cons, List.isPrefixOf_nil_left, Bool.and_true] at same
          cases stripped
          rw [eq_of_beq same]
          rfl
        · cases stripped
  · rintro rfl
    exact stripPrefix_append [first] rest

theorem stripPrefix_singleton_none {first : Char} {text : List Char} :
    stripPrefix [first] text = none ↔ ∀ rest, text ≠ first :: rest := by
  constructor
  · rintro none_ rest rfl
    rw [stripPrefix_singleton.mpr rfl] at none_
    cases none_
  · intro different
    cases stripped : stripPrefix [first] text with
    | none => rfl
    | some rest => exact absurd (stripPrefix_singleton.mp stripped) (different rest)

theorem parseU16_eq_some {text : List Char} {number : Nat}
    (parsed : parseU16 text = some number) :
    ∃ digits, (text = digits ∨ text = '+' :: digits) ∧ digits ≠ [] ∧
      digits.all Char.isDigit = true ∧ number = decimal digits := by
  simp only [parseU16] at parsed
  split at parsed
  · cases parsed
  · rename_i accepted
    simp only [Bool.or_eq_true, not_or, Bool.not_eq_true, Bool.not_eq_false',
      List.isEmpty_eq_false_iff] at accepted
    refine ⟨_, ?_, accepted.1.1, accepted.1.2, (Option.some.inj parsed).symm⟩
    cases stripped : stripPrefix ['+'] text with
    | none => exact .inl rfl
    | some rest => exact .inr (stripPrefix_singleton.mp stripped)

theorem parseU16_unsigned {text : List Char} {number : Nat}
    (unsigned : ∀ rest, text ≠ '+' :: rest) (parsed : parseU16 text = some number) :
    text ≠ [] ∧ text.all Char.isDigit = true ∧ number = decimal text := by
  obtain ⟨digits, isText, nonempty, allDigits, isNumber⟩ := parseU16_eq_some parsed
  rcases isText with rfl | signed
  · exact ⟨nonempty, allDigits, isNumber⟩
  · exact absurd signed (unsigned digits)

theorem unsigned_of_digits {text rest : List Char}
    (digits : text.all Char.isDigit = true) : text ≠ '+' :: rest := by
  rintro rfl
  simp at digits

theorem count_colon_of_isRegName {host : List Char} (isName : isRegName host = true) :
    host.count ':' = 0 :=
  List.count_eq_zero.mpr (colon_not_mem isName)

theorem count_colon_of_digits {port : List Char}
    (digits : port.all Char.isDigit = true) : port.count ':' = 0 := by
  apply List.count_eq_zero.mpr
  intro member
  have isDigit := List.all_eq_true.mp digits ':' member
  cases isDigit

theorem Spells.bracketed {value : List Char} {authority : Authority}
    (spelled : Spells ('[' :: value) authority) :
    ∃ address remainder, value = address ++ ']' :: remainder ∧
      isIpv6 address = true ∧ authority.host = toAsciiLowercase address ∧
      (remainder = [] ∧ authority.port = none ∨
        ∃ port, remainder = ':' :: port ∧ port ≠ [] ∧
          port.all Char.isDigit = true ∧ authority.port = some (decimal port)) := by
  generalize isRaw : '[' :: value = raw at spelled
  cases spelled with
  | name isName =>
      subst isRaw
      exact absurd (List.mem_cons_self ..) (not_mem_of_isRegName isName (by decide))
  | @nameWithPort host port isName nonempty digits =>
      cases host with
      | nil => cases isRaw
      | cons head rest =>
          obtain ⟨rfl, _⟩ := List.cons.inj isRaw
          exact absurd (List.mem_cons_self ..) (not_mem_of_isRegName isName (by decide))
  | @literal address isAddress =>
      cases isRaw
      exact ⟨address, [], rfl, isAddress, rfl, .inl ⟨rfl, rfl⟩⟩
  | @literalWithPort address port isAddress nonempty digits =>
      cases isRaw
      exact ⟨address, ':' :: port, rfl, isAddress, rfl,
        .inr ⟨port, rfl, nonempty, digits, rfl⟩⟩
  | bare isAddress =>
      subst isRaw
      exact absurd (List.mem_cons_self ..) (isIpv6_not_mem isAddress (by decide))

theorem Spells.unbracketed {raw : List Char} {authority : Authority}
    (open_ : ∀ value, raw ≠ '[' :: value) (spelled : Spells raw authority) :
    (isRegName raw = true ∧ authority = ⟨toAsciiLowercase raw, none⟩) ∨
      (∃ host port, raw = host ++ ':' :: port ∧ isRegName host = true ∧
        port ≠ [] ∧ port.all Char.isDigit = true ∧
        authority = ⟨toAsciiLowercase host, some (decimal port)⟩) ∨
      (isIpv6 raw = true ∧ authority = ⟨toAsciiLowercase raw, none⟩) := by
  cases spelled with
  | name isName => exact .inl ⟨isName, rfl⟩
  | nameWithPort isName nonempty digits =>
      exact .inr (.inl ⟨_, _, rfl, isName, nonempty, digits, rfl⟩)
  | literal => exact absurd rfl (open_ _)
  | literalWithPort => exact absurd rfl (open_ _)
  | bare isAddress => exact .inr (.inr ⟨isAddress, rfl⟩)

theorem Spells.unique {raw : List Char} {first second : Authority}
    (spelled : Spells raw first) (again : Spells raw second) : first = second := by
  cases stripped : stripPrefix ['['] raw with
  | some value =>
      obtain rfl := stripPrefix_singleton.mp stripped
      obtain ⟨address, behind, split, isAddress, sameHost, ports⟩ := spelled.bracketed
      obtain ⟨other, rest, otherSplit, isOther, otherHost, otherPorts⟩ := again.bracketed
      have cut := splitOnce_eq_some.mpr
        ⟨split, isIpv6_not_mem isAddress (by decide : _ ∧ _ ∧ _)⟩
      rw [splitOnce_eq_some.mpr
        ⟨otherSplit, isIpv6_not_mem isOther (by decide : _ ∧ _ ∧ _)⟩] at cut
      cases cut
      have samePort : first.port = second.port := by
        rcases ports with ⟨rfl, none_⟩ | ⟨port, rfl, _, _, isPort⟩
        · rcases otherPorts with ⟨_, otherNone⟩ | ⟨_, impossible, _⟩
          · rw [none_, otherNone]
          · cases impossible
        · rcases otherPorts with ⟨impossible, _⟩ | ⟨_, same, _, _, isOtherPort⟩
          · cases impossible
          · cases same
            rw [isPort, isOtherPort]
      cases first
      cases second
      simp only [Authority.mk.injEq]
      exact ⟨sameHost.trans otherHost.symm, samePort⟩
  | none =>
      have open_ := stripPrefix_singleton_none.mp stripped
      rcases spelled.unbracketed open_ with
        ⟨isName, rfl⟩ | ⟨host, port, isRaw, isName, _, digits, rfl⟩ | ⟨isAddress, rfl⟩
      · rcases again.unbracketed open_ with
          ⟨_, rfl⟩ | ⟨_, _, rfl, _⟩ | ⟨_, rfl⟩
        · rfl
        · exact absurd (by simp) (colon_not_mem isName)
        · rfl
      · have cut := splitOnce_eq_some.mpr ⟨isRaw, colon_not_mem isName⟩
        rcases again.unbracketed open_ with
          ⟨other, _⟩ | ⟨_, _, otherRaw, other, _, _, rfl⟩ | ⟨other, _⟩
        · rw [isRaw] at other
          exact absurd (by simp) (colon_not_mem other)
        · rw [splitOnce_eq_some.mpr ⟨otherRaw, colon_not_mem other⟩] at cut
          cases cut
          rfl
        · have colons := isIpv6_colons other
          rw [isRaw, List.count_append, List.count_cons_self,
            count_colon_of_isRegName isName, count_colon_of_digits digits] at colons
          omega
      · rcases again.unbracketed open_ with
          ⟨_, rfl⟩ | ⟨_, _, isRaw, other, _, digits, _⟩ | ⟨_, rfl⟩
        · rfl
        · have colons := isIpv6_colons isAddress
          rw [isRaw, List.count_append, List.count_cons_self,
            count_colon_of_isRegName other, count_colon_of_digits digits] at colons
          omega
        · rfl

/-! Each shape of a well-formed value: its condition, and that the gate reads
the authority under it alone. -/

/-- The gate reads the authority that the value spells. -/
def ReadAsSpelled (raw : List Char) : Prop :=
  ∃ authority, Spells raw authority ∧
    parseHostAuthority raw = (authority.host, authority.port)

theorem read_bracketed_iff {host remainder : List Char} (closed : ']' ∉ host)
    (port : remainder.isEmpty = true ∨ portWellFormed remainder = true) :
    ReadAsSpelled ('[' :: (host ++ ']' :: remainder)) ↔
      isIpv6 host = true ∧ ∀ rest, remainder ≠ ':' :: '+' :: rest := by
  have cut : splitOnce ']' (host ++ ']' :: remainder) = some (host, remainder) :=
    splitOnce_eq_some.mpr ⟨rfl, closed⟩
  constructor
  · rintro ⟨authority, spelled, _⟩
    obtain ⟨address, behind, split, isAddress, _, ports⟩ := spelled.bracketed
    have same := splitOnce_eq_some.mpr
      ⟨split, isIpv6_not_mem isAddress (by decide : _ ∧ _ ∧ _)⟩
    rw [cut] at same
    cases same
    refine ⟨isAddress, ?_⟩
    rintro rest rfl
    rcases ports with ⟨empty, _⟩ | ⟨digits, isPort, _, allDigits, _⟩
    · cases empty
    · cases isPort
      exact unsigned_of_digits allDigits rfl
  · rintro ⟨isAddress, unsigned⟩
    have read : parseHostAuthority ('[' :: (host ++ ']' :: remainder)) =
        (toAsciiLowercase host, (stripPrefix [':'] remainder).bind parseU16) := by
      rw [parseHostAuthority, stripPrefix_singleton.mpr rfl, Option.bind_some, cut]
    cases stripped : stripPrefix [':'] remainder with
    | none =>
        have empty : remainder = [] := by
          rcases port with empty | wellFormed
          · exact List.isEmpty_iff.mp empty
          · rw [portWellFormed, stripped] at wellFormed
            cases wellFormed
        subst empty
        exact ⟨_, .literal isAddress, read⟩
    | some digits =>
        have isRemainder := stripPrefix_singleton.mp stripped
        subst isRemainder
        rcases port with empty | wellFormed
        · cases empty
        rw [portWellFormed, stripped] at wellFormed
        obtain ⟨number, parsed⟩ := Option.isSome_iff_exists.mp wellFormed
        obtain ⟨nonempty, allDigits, isNumber⟩ := parseU16_unsigned
          (fun rest signed => unsigned rest (congrArg (':' :: ·) signed)) parsed
        refine ⟨_, .literalWithPort isAddress nonempty allDigits, ?_⟩
        rw [read, stripped, Option.bind_some, parsed, isNumber]

theorem read_name_iff {raw : List Char} (open_ : ∀ value, raw ≠ '[' :: value)
    (noColon : raw.count ':' = 0) :
    ReadAsSpelled raw ↔ isRegName raw = true := by
  constructor
  · rintro ⟨authority, spelled, _⟩
    rcases spelled.unbracketed open_ with
      ⟨isName, _⟩ | ⟨host, port, rfl, _⟩ | ⟨isAddress, _⟩
    · exact isName
    · rw [List.count_append, List.count_cons_self] at noColon
      omega
    · have colons := isIpv6_colons isAddress
      omega
  · intro isName
    refine ⟨_, .name isName, ?_⟩
    rw [parseHostAuthority, stripPrefix_singleton_none.mpr open_, Option.bind_none,
      rsplitOnce_eq_none.mpr (List.count_eq_zero.mp noColon)]

theorem read_port_iff {host port : List Char} {number : Nat}
    (open_ : ∀ value, host ++ ':' :: port ≠ '[' :: value)
    (oneColon : (host ++ ':' :: port).count ':' = 1)
    (parsed : parseU16 port = some number) :
    ReadAsSpelled (host ++ ':' :: port) ↔
      isRegName host = true ∧ ∀ rest, port ≠ '+' :: rest := by
  have counts : host.count ':' = 0 ∧ port.count ':' = 0 := by
    rw [List.count_append, List.count_cons_self] at oneColon
    omega
  constructor
  · rintro ⟨authority, spelled, _⟩
    rcases spelled.unbracketed open_ with
      ⟨isName, _⟩ | ⟨name, digits, split, isName, _, allDigits, _⟩ | ⟨isAddress, _⟩
    · rw [count_colon_of_isRegName isName] at oneColon
      cases oneColon
    · have same := splitOnce_eq_some.mpr ⟨split, colon_not_mem isName⟩
      rw [splitOnce_eq_some.mpr ⟨rfl, List.count_eq_zero.mp counts.1⟩] at same
      cases same
      exact ⟨isName, fun _ => unsigned_of_digits allDigits⟩
    · have colons := isIpv6_colons isAddress
      omega
  · rintro ⟨isName, unsigned⟩
    obtain ⟨nonempty, allDigits, isNumber⟩ := parseU16_unsigned unsigned parsed
    refine ⟨_, .nameWithPort isName nonempty allDigits, ?_⟩
    rw [parseHostAuthority, stripPrefix_singleton_none.mpr open_, Option.bind_none,
      rsplitOnce_append (List.count_eq_zero.mp counts.2)]
    simp only [parsed, isNumber]

theorem parseHostAuthority_cut {raw front group : List Char}
    (open_ : ∀ value, raw ≠ '[' :: value)
    (cut : rsplitOnce ':' raw = some (front, group)) :
    parseHostAuthority raw =
      match parseU16 group with
      | some port => (toAsciiLowercase front, some port)
      | none => (toAsciiLowercase raw, none) := by
  cases isPort : parseU16 group <;>
    simp [parseHostAuthority, stripPrefix_singleton_none.mpr open_, cut, isPort]

theorem read_bare_iff {raw front group : List Char} (isAddress : isIpv6 raw = true)
    (cut : rsplitOnce ':' raw = some (front, group)) :
    ReadAsSpelled raw ↔ parseU16 group = none := by
  have open_ : ∀ value, raw ≠ '[' :: value := by
    rintro value rfl
    exact absurd (List.mem_cons_self ..) (isIpv6_not_mem isAddress (by decide))
  have read := parseHostAuthority_cut open_ cut
  constructor
  · rintro ⟨authority, spelled, isRead⟩
    have portless : authority.port = none := by
      have colons := isIpv6_colons isAddress
      rcases spelled.unbracketed open_ with
        ⟨isName, rfl⟩ | ⟨host, port, rfl, isName, _, digits, _⟩ | ⟨_, rfl⟩
      · rfl
      · rw [List.count_append, List.count_cons_self, count_colon_of_isRegName isName,
          count_colon_of_digits digits] at colons
        omega
      · rfl
    cases parsed : parseU16 group with
    | none => rfl
    | some port =>
        rw [isRead, parsed] at read
        cases portless.symm.trans (congrArg Prod.snd read)
  · intro unparsed
    refine ⟨_, .bare isAddress, ?_⟩
    rw [read, unparsed]

/-- Brackets stand around an IPv6 address, a name has no other characters than
names have, a port has no sign, and the last group of an address without
brackets does not read as a port. -/
def PlainlyWritten (raw : List Char) : Prop :=
  match stripPrefix ['['] raw with
  | some value =>
      ∃ host remainder, splitOnce ']' value = some (host, remainder) ∧
        isIpv6 host = true ∧ ∀ rest, remainder ≠ ':' :: '+' :: rest
  | none =>
      match raw.count ':' with
      | 0 => isRegName raw = true
      | 1 =>
          ∃ host port, splitOnce ':' raw = some (host, port) ∧
            isRegName host = true ∧ ∀ rest, port ≠ '+' :: rest
      | _ =>
          ∃ front group, rsplitOnce ':' raw = some (front, group) ∧
            parseU16 group = none

theorem readAsSpelled_iff {raw : List Char}
    (wellFormed : hostAuthorityWellFormed raw = true) :
    ReadAsSpelled raw ↔ PlainlyWritten raw := by
  rw [hostAuthorityWellFormed] at wellFormed
  rw [PlainlyWritten]
  cases stripped : stripPrefix ['['] raw with
  | some value =>
      simp only [stripped] at wellFormed
      have isRaw := stripPrefix_singleton.mp stripped
      cases cut : splitOnce ']' value with
      | none =>
          rw [cut] at wellFormed
          cases wellFormed
      | some parts =>
          obtain ⟨host, remainder⟩ := parts
          rw [cut, Bool.or_eq_true] at wellFormed
          obtain ⟨isValue, closed⟩ := splitOnce_eq_some.mp cut
          have bracketed := read_bracketed_iff closed wellFormed
          rw [← isValue, ← isRaw] at bracketed
          rw [bracketed]
          constructor
          · exact fun written => ⟨host, remainder, cut, written⟩
          · rintro ⟨_, _, same, written⟩
            rw [cut] at same
            cases same
            exact written
  | none =>
      have open_ := stripPrefix_singleton_none.mp stripped
      simp only [stripped] at wellFormed
      split at wellFormed
      · cases wellFormed
      generalize isColons : raw.count ':' = colons at wellFormed
      match colons with
      | 0 => exact read_name_iff open_ isColons
      | 1 =>
          cases cut : splitOnce ':' raw with
          | none =>
              simp only [cut] at wellFormed
              cases wellFormed
          | some parts =>
              obtain ⟨host, port⟩ := parts
              simp only [cut, Bool.and_eq_true] at wellFormed
              obtain ⟨number, parsed⟩ := Option.isSome_iff_exists.mp wellFormed.2
              obtain ⟨isRaw, _⟩ := splitOnce_eq_some.mp cut
              rw [isRaw] at open_ isColons ⊢
              rw [read_port_iff open_ isColons parsed]
              constructor
              · exact fun written => ⟨host, port, rfl, written⟩
              · rintro ⟨_, _, same, written⟩
                cases same
                exact written
      | colons + 2 =>
          cases cut : rsplitOnce ':' raw with
          | none =>
              have absent := List.count_eq_zero.mpr (rsplitOnce_eq_none.mp cut)
              omega
          | some parts =>
              obtain ⟨front, group⟩ := parts
              rw [read_bare_iff wellFormed cut]
              constructor
              · exact fun unparsed => ⟨front, group, rfl, unparsed⟩
              · rintro ⟨_, _, same, unparsed⟩
                cases same
                exact unparsed

theorem isHexDigit_toLower {character : Char} (isHex : isHexDigit character = true) :
    isHexDigit character.toLower = true := by
  by_cases upper : character.isUpper = true
  · have letter : 65 ≤ character.toNat ∧ character.toNat ≤ 70 := by
      simp only [isHexDigit, Char.isDigit, Char.isUpper, Bool.or_eq_true,
        Bool.and_eq_true, decide_eq_true_eq, Char.le_def, UInt32.le_iff_toNat_le,
        ge_iff_le] at isHex upper
      have isValue : character.toNat = character.val.toNat := rfl
      simp at isHex upper
      omega
    rw [Char.toLower_eq_of_isUpper upper]
    obtain ⟨low, high⟩ := letter
    interval_cases character.toNat <;> decide
  · rw [Char.toLower_eq_of_not_isUpper upper]
    exact isHex

theorem toLower_eq_imp {character fixed : Char} (notLower : fixed.isAlpha = false)
    (lowered : character.toLower = fixed) : character = fixed := by
  have notAlpha : character.isAlpha = false := by
    rw [← Char.isAlpha_toLower_eq_isAlpha, lowered]
    exact notLower
  rw [Char.isAlpha, Bool.or_eq_false_iff] at notAlpha
  rwa [Char.toLower_eq_of_not_isUpper (by simp [notAlpha.1])] at lowered

theorem toAsciiLowercase_idempotent (text : List Char) :
    toAsciiLowercase (toAsciiLowercase text) = toAsciiLowercase text := by
  simp [toAsciiLowercase, Function.comp_def]

theorem mem_toAsciiLowercase {text : List Char} {fixed : Char}
    (notLower : fixed.isAlpha = false) (member : fixed ∈ toAsciiLowercase text) :
    fixed ∈ text := by
  obtain ⟨character, inside, lowered⟩ := List.mem_map.mp member
  rw [← toLower_eq_imp notLower lowered]
  exact inside

theorem adminHostAllowed_cases {host : List Char}
    (open_ : '[' ∉ host) (allowed : adminHostAllowed host = true) :
    toAsciiLowercase host = [':', ':', '1'] ∨
      isLoopbackName (toAsciiLowercase (host.takeWhile (· != ':'))) = true := by
  rw [adminHostAllowed] at allowed
  split at allowed
  · cases allowed
  split at allowed
  · rename_i isLoopback
    exact .inl (eq_of_beq isLoopback)
  have unbracketed : stripPrefix ['['] host = none := by
    apply stripPrefix_singleton_none.mpr
    rintro value rfl
    exact open_ (List.mem_cons_self ..)
  rw [unbracketed] at allowed
  exact .inr allowed

theorem isLoopbackName_of_name {host : List Char} (isName : isRegName host = true)
    (allowed : adminHostAllowed (toAsciiLowercase host) = true) :
    isLoopbackName (toAsciiLowercase host) = true := by
  have noColon : ':' ∉ toAsciiLowercase host := fun member =>
    colon_not_mem isName (mem_toAsciiLowercase (by decide) member)
  have noBracket : '[' ∉ toAsciiLowercase host := fun member =>
    not_mem_of_isRegName isName (by decide) (mem_toAsciiLowercase (by decide) member)
  rcases adminHostAllowed_cases noBracket allowed with isLoopback | isLoopback
  · rw [toAsciiLowercase_idempotent] at isLoopback
    rw [isLoopback] at noColon
    simp at noColon
  · have whole : (toAsciiLowercase host).takeWhile (· != ':') = toAsciiLowercase host := by
      apply List.takeWhile_eq_self_iff.mpr
      intro character member
      rw [bne_iff_ne]
      rintro rfl
      exact noColon member
    rwa [whole, toAsciiLowercase_idempotent] at isLoopback

theorem isLoopbackName_hex {group : List Char}
    (isHex : ∀ character ∈ group, isHexDigit character = true) :
    isLoopbackName group = false := by
  by_contra loopback
  rw [Bool.not_eq_false, isLoopbackName, List.contains_iff_mem] at loopback
  simp only [List.mem_cons, List.not_mem_nil, or_false] at loopback
  rcases loopback with rfl | rfl | rfl
  · exact absurd (isHex 'l' (by decide)) (by decide)
  · exact absurd (isHex '.' (by decide)) (by decide)
  · exact absurd (isHex ':' (by decide)) (by decide)

theorem isLoopbackName_of_address {host : List Char} (isAddress : isIpv6 host = true)
    (allowed : adminHostAllowed (toAsciiLowercase host) = true) :
    isLoopbackName (toAsciiLowercase host) = true := by
  have noBracket : '[' ∉ toAsciiLowercase host := fun member =>
    isIpv6_not_mem isAddress (by decide) (mem_toAsciiLowercase (by decide) member)
  rcases adminHostAllowed_cases noBracket allowed with isLoopback | isLoopback
  · rw [toAsciiLowercase_idempotent] at isLoopback
    rw [isLoopback]
    decide
  · cases cut : splitOnce ':' host with
    | none =>
        have absent := List.count_eq_zero.mpr (splitOnce_eq_none.mp cut)
        have colons := isIpv6_colons isAddress
        omega
    | some parts =>
        obtain ⟨front, back⟩ := parts
        obtain ⟨isHost, absent⟩ := splitOnce_eq_some.mp cut
        rw [isHost] at isAddress
        have first : (toAsciiLowercase host).takeWhile (· != ':') =
            toAsciiLowercase front := by
          have noColon : ∀ character ∈ toAsciiLowercase front,
              (character != ':') = true := by
            intro character member
            rw [bne_iff_ne]
            rintro rfl
            exact absent (mem_toAsciiLowercase (by decide) member)
          rw [isHost, toAsciiLowercase, List.map_append, ← toAsciiLowercase,
            List.takeWhile_append_of_pos noColon, List.map_cons]
          simp
        rw [first, toAsciiLowercase_idempotent, isLoopbackName_hex] at isLoopback
        · cases isLoopback
        · intro character member
          obtain ⟨before, inside, rfl⟩ := List.mem_map.mp member
          exact isHexDigit_toLower (isIpv6_front isAddress absent before inside)

theorem isLoopbackName_of_spells {raw : List Char} {authority : Authority}
    (spelled : Spells raw authority)
    (allowed : adminHostAllowed authority.host = true) :
    isLoopbackName authority.host = true := by
  cases spelled with
  | name isName => exact isLoopbackName_of_name isName allowed
  | nameWithPort isName => exact isLoopbackName_of_name isName allowed
  | literal isAddress => exact isLoopbackName_of_address isAddress allowed
  | literalWithPort isAddress => exact isLoopbackName_of_address isAddress allowed
  | bare isAddress => exact isLoopbackName_of_address isAddress allowed

theorem admitted_reads {request : AdminRequest} {publicPort : Nat}
    (admitted : adminSurfaceAllowedForPort request publicPort = true) :
    ∃ value raw, request.hosts = [value] ∧ value.toStr = some raw ∧
      hostAuthorityWellFormed raw = true ∧
      adminHostAllowed (parseHostAuthority raw).1 = true ∧
      ((parseHostAuthority raw).2 = some publicPort ∨
        (parseHostAuthority raw).2 = none ∧ (publicPort = 80 ∨ publicPort = 443)) := by
  rw [adminSurfaceAllowedForPort] at admitted
  split at admitted
  · rename_i value isHosts
    cases decoded : value.toStr with
    | none =>
        rw [decoded] at admitted
        cases admitted
    | some raw =>
        simp only [decoded] at admitted
        split at admitted
        · cases admitted
        rename_i accepted
        split at admitted
        · cases admitted
        rename_i passes
        simp only [Bool.or_eq_true, Bool.not_eq_true', not_or, Bool.not_eq_false] at accepted
        simp only [Bool.or_eq_true, Bool.not_eq_true', not_or, Bool.not_eq_false,
          Bool.and_eq_true, not_and, bne_iff_ne] at passes
        obtain ⟨⟨allowed, portMatches⟩, portless⟩ := passes
        refine ⟨value, raw, isHosts, decoded, accepted.2, allowed, ?_⟩
        cases isPort : (parseHostAuthority raw).2 with
        | none =>
            right
            refine ⟨rfl, ?_⟩
            by_cases http : publicPort = 80
            · exact .inl http
            · exact .inr (by_contra fun https => portless ⟨by rw [isPort]; rfl, http⟩ https)
        | some port =>
            left
            rw [isPort] at portMatches
            simpa using portMatches
  · cases admitted

/-- The values of the `Host` headers that are text. -/
def AdminRequest.hostValues (request : AdminRequest) : List (List Char) :=
  request.hosts.filterMap HeaderValue.toStr

theorem host_gate_exact (request : AdminRequest) (publicPort : Nat) :
    ((∀ raw ∈ request.hostValues, hostAuthorityWellFormed raw = true →
        ReadAsSpelled raw) ∧
      (adminSurfaceAllowedForPort request publicPort = true →
        ∃ value raw, request.hosts = [value] ∧ value.toStr = some raw ∧
          SpellsLoopback raw publicPort)) ↔
      ∀ raw ∈ request.hostValues, hostAuthorityWellFormed raw = true →
        PlainlyWritten raw := by
  constructor
  · rintro ⟨reads, _⟩ raw isValue wellFormed
    exact (readAsSpelled_iff wellFormed).mp (reads raw isValue wellFormed)
  · intro written
    refine ⟨fun raw isValue wellFormed =>
      (readAsSpelled_iff wellFormed).mpr (written raw isValue wellFormed), ?_⟩
    intro admitted
    obtain ⟨value, raw, isHosts, decoded, wellFormed, allowed, port⟩ :=
      admitted_reads admitted
    have isValue : raw ∈ request.hostValues := by
      rw [AdminRequest.hostValues, isHosts]
      simp [decoded]
    obtain ⟨authority, spelled, read⟩ :=
      (readAsSpelled_iff wellFormed).mpr (written raw isValue wellFormed)
    rw [read] at allowed port
    exact ⟨value, raw, isHosts, decoded, authority, spelled,
      isLoopbackName_of_spells spelled allowed, port⟩

/-- The address `::1:2456` alone, which is not the loopback. -/
def unbracketedAddress : AdminRequest :=
  ⟨["::1:2456".toList.map fun character => character.toNat.toUInt8], []⟩

theorem host_gate_misreads_address :
    unbracketedAddress.hostValues = ["::1:2456".toList] ∧
      hostAuthorityWellFormed "::1:2456".toList = true ∧
      ¬ ReadAsSpelled "::1:2456".toList ∧
      adminSurfaceAllowedForPort unbracketedAddress 2456 = true ∧
      ¬ SpellsLoopback "::1:2456".toList 2456 := by
  have wellFormed : hostAuthorityWellFormed "::1:2456".toList = true := by decide
  have isAddress : isIpv6 "::1:2456".toList = true := by decide
  refine ⟨by decide, wellFormed, ?_, by decide, ?_⟩
  · rw [read_bare_iff isAddress (by decide : _ = some ("::1".toList, "2456".toList))]
    decide
  · rintro ⟨authority, spelled, loopback, _⟩
    have open_ : ∀ value, "::1:2456".toList ≠ '[' :: value := by
      intro value same
      cases same
    rcases spelled.unbracketed open_ with
      ⟨isName, _⟩ | ⟨host, port, split, isName, _, digits, _⟩ | ⟨_, rfl⟩
    · exact absurd isName (by decide)
    · have colons := congrArg (List.count ':') split
      rw [List.count_append, List.count_cons_self, count_colon_of_isRegName isName,
        count_colon_of_digits digits] at colons
      exact absurd colons (by decide)
    · exact absurd loopback (by decide)

end NvidiaBuildLb.Gateway
