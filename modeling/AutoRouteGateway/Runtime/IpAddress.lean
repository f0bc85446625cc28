import AutoRouteGateway.Runtime.JsonText

/-!
Owns the part of the `ipaddress` library that the security middleware uses:
addresses and networks from texts, equality, membership and the loopback test.

Every function that raises on a text returns `none` for it; the texts of these
exceptions reach nobody.
-/

namespace AutoRouteGateway.Runtime

/-- An address of one of the two versions; a version 6 address may carry a scope. -/
inductive IpAddress where
  | v4 (value : Nat)
  | v6 (value : Nat) (scope : Option (List Char))
deriving DecidableEq, Repr

/-! ## Addresses -/

/-- A decimal octet without leading zeros. -/
def parseOctet (octet : List Char) : Option Nat :=
  if octet = [] ∨ octet.all Char.isDigit = false then none
  else if 3 < octet.length then none
  else if octet ≠ ['0'] ∧ octet.head? = some '0' then none
  else if 255 < Nat.ofDigitChars 10 octet 0 then none
  else some (Nat.ofDigitChars 10 octet 0)

def parseV4 (chars : List Char) : Option Nat :=
  match (chars.splitOn '.').mapM parseOctet with
  | some [first, second, third, fourth] =>
      some (((first * 256 + second) * 256 + third) * 256 + fourth)
  | _ => none

/-- Up to four hexadecimal digits. -/
def parseHextet (part : List Char) : Option Nat :=
  if part = [] ∨ 4 < part.length then none
  else part.foldlM (fun value char => (hexValue char).map fun digit => value * 16 + digit) 0

/-- Hextets, the first one most significant. -/
def joinHextets (parts : List (List Char)) : Option Nat :=
  (parts.mapM parseHextet).map fun values =>
    values.foldl (fun value hextet => value * 0x10000 + hextet) 0

/-- A version 4 address at the end, as two hextets. -/
def expandV4Suffix (parts : List (List Char)) : Option (List (List Char)) :=
  match parts.getLast? with
  | none => some parts
  | some last =>
      if '.' ∈ last then
        match parseV4 last with
        | none => none
        | some value =>
            some (parts.dropLast ++
              [Nat.toDigits 16 (value / 0x10000), Nat.toDigits 16 (value % 0x10000)])
      else some parts

/-- The inner positions where `::` leaves nothing between two colons. -/
def skippedAt (parts : List (List Char)) : List Nat :=
  (List.range parts.length).filter fun index =>
    0 < index ∧ index + 1 < parts.length ∧ parts.getD index [] = []

/-- The parts on one side of `::`; an empty part at the end of the text is only
permitted alone. -/
def besideSkip (outer : Option (List Char)) (parts : List (List Char)) :
    Option (List (List Char)) :=
  if outer = some [] then if parts.length = 1 then some [] else none else some parts

/-- The parts of an address, with the run of zeros that `::` stands for. -/
def joinParts (parts : List (List Char)) : Option Nat :=
  match skippedAt parts with
  | [] => if parts.length = 8 then joinHextets parts else none
  | [skip] =>
      match besideSkip parts.head? (parts.take skip),
          besideSkip parts.getLast? (parts.drop (skip + 1)) with
      | some high, some low =>
          if 7 < high.length + low.length then none
          else
            match joinHextets high, joinHextets low with
            | some above, some below => some (above * 0x10000 ^ (8 - high.length) + below)
            | _, _ => none
      | _, _ => none
  | _ => none

def parseV6 (chars : List Char) : Option Nat :=
  let parts := chars.splitOn ':'
  if parts.length < 3 then none
  else
    match expandV4Suffix parts with
    | none => none
    | some parts => if 9 < parts.length then none else joinParts parts

/-- A version 6 address with the scope after its percent sign. -/
def parseScopedV6 (chars : List Char) : Option IpAddress :=
  let scope := (chars.dropWhile (· ≠ '%')).drop 1
  if '%' ∉ chars then (parseV6 chars).map fun value => .v6 value none
  else if scope = [] ∨ '%' ∈ scope then none
  else (parseV6 (chars.takeWhile (· ≠ '%'))).map fun value => .v6 value (some scope)

/-- `ipaddress.ip_address(text)`. -/
def ipAddress (text : String) : Option IpAddress :=
  if '/' ∈ text.toList then none
  else
    match parseV4 text.toList with
    | some value => some (.v4 value)
    | none => parseScopedV6 text.toList

/-- `address.is_loopback`. -/
def IpAddress.isLoopback : IpAddress → Bool
  | .v4 value => value / 2 ^ 24 == 127
  | .v6 value _ => value == 1

/-! ### The colons of an address -/

theorem length_splitOn (separator : Char) (chars : List Char) :
    (chars.splitOn separator).length = chars.count separator + 1 := by
  induction chars with
  | nil => rfl
  | cons char rest inductionHypothesis =>
      rw [List.splitOn_cons_eq_if_modifyHead, List.count_cons]
      by_cases same : (char == separator) = true
      · rw [if_pos same, if_pos same, List.length_cons, inductionHypothesis]
      · rw [if_neg same, if_neg same, List.length_modifyHead, inductionHypothesis, Nat.add_zero]

/-- Every other character is in one of the parts. -/
theorem exists_part_of_mem (separator : Char) {char : Char} (other : char ≠ separator)
    {chars : List Char} (member : char ∈ chars) :
    ∃ part ∈ chars.splitOn separator, char ∈ part := by
  induction chars with
  | nil => cases member
  | cons head rest inductionHypothesis =>
      rw [List.splitOn_cons_eq_if_modifyHead]
      obtain ⟨first, parts, split⟩ :=
        List.exists_cons_of_ne_nil (List.splitOn_ne_nil separator rest)
      rw [split] at inductionHypothesis ⊢
      by_cases separates : (head == separator) = true
      · rw [if_pos separates]
        have inRest : char ∈ rest := by
          refine (List.mem_cons.mp member).resolve_left ?_
          intro same
          exact other (same.trans (eq_of_beq separates))
        obtain ⟨part, isPart, inPart⟩ := inductionHypothesis inRest
        exact ⟨part, List.mem_cons_of_mem _ isPart, inPart⟩
      · rw [if_neg separates, List.modifyHead_cons]
        rcases List.mem_cons.mp member with same | inRest
        · exact ⟨head :: first, List.mem_cons_self, List.mem_cons.mpr (Or.inl same)⟩
        · obtain ⟨part, isPart, inPart⟩ := inductionHypothesis inRest
          rcases List.mem_cons.mp isPart with isFirst | isLater
          · exact ⟨head :: first, List.mem_cons_self,
              List.mem_cons_of_mem _ (isFirst ▸ inPart)⟩
          · exact ⟨part, List.mem_cons_of_mem _ isLater, inPart⟩

theorem isSome_of_mapM {α β : Type} {f : α → Option β} {elements : List α} {results : List β}
    (mapped : elements.mapM f = some results) : ∀ element ∈ elements, f element ≠ none := by
  induction elements generalizing results with
  | nil => exact List.forall_mem_nil _
  | cons head rest inductionHypothesis =>
      rw [List.mapM_cons] at mapped
      cases own : f head with
      | none =>
          rw [own] at mapped
          cases mapped
      | some value =>
          cases later : rest.mapM f with
          | none =>
              rw [own, later] at mapped
              cases mapped
          | some values =>
              refine List.forall_mem_cons.mpr ⟨?_, inductionHypothesis later⟩
              rw [own]
              exact Option.some_ne_none value

theorem colon_notMem_of_parseV4 {chars : List Char} {value : Nat}
    (parsed : parseV4 chars = some value) : ':' ∉ chars := by
  intro member
  obtain ⟨part, isPart, inPart⟩ := exists_part_of_mem '.' (by decide) member
  unfold parseV4 at parsed
  cases mapped : (chars.splitOn '.').mapM parseOctet with
  | none =>
      rw [mapped] at parsed
      cases parsed
  | some octets =>
      apply isSome_of_mapM mapped part isPart
      have notDigits : part.all Char.isDigit = false :=
        List.all_eq_false.mpr ⟨':', inPart, by decide⟩
      rw [parseOctet, if_pos (Or.inr notDigits)]

theorem count_colon_of_parseV6 {chars : List Char} {value : Nat}
    (parsed : parseV6 chars = some value) : 2 ≤ chars.count ':' := by
  unfold parseV6 at parsed
  simp only [length_splitOn] at parsed
  split at parsed
  · cases parsed
  · omega

/-- Version 4 has no colon and version 6 has several. -/
theorem count_colon_of_ipAddress {chars : List Char} {address : IpAddress}
    (parsed : ipAddress (String.ofList chars) = some address) : chars.count ':' ≠ 1 := by
  rw [ipAddress, String.toList_ofList] at parsed
  split at parsed
  · cases parsed
  · split at parsed
    · rename_i isV4
      rw [List.count_eq_zero.mpr (colon_notMem_of_parseV4 isV4)]
      exact Nat.zero_ne_one
    · have isV6 : ∃ value, parseV6 (chars.takeWhile (· ≠ '%')) = some value := by
        simp only [parseScopedV6] at parsed
        split at parsed
        · rename_i noScope
          have whole : chars.takeWhile (· ≠ '%') = chars := by
            rw [List.takeWhile_eq_self_iff]
            intro char member
            exact decide_eq_true fun same => noScope (same ▸ member)
          rw [whole]
          exact Option.isSome_iff_exists.mp (by simpa using congrArg Option.isSome parsed)
        · split at parsed
          · cases parsed
          · exact Option.isSome_iff_exists.mp (by simpa using congrArg Option.isSome parsed)
      obtain ⟨value, isV6⟩ := isV6
      have colons := count_colon_of_parseV6 isV6
      have fewer := (List.takeWhile_sublist (l := chars) (· ≠ '%')).count_le ':'
      omega

/-! ## Networks -/

/-- A network: the bits of an address, of which the first ones count. -/
inductive IpNetwork where
  | v4 (address length : Nat)
  | v6 (address length : Nat)
deriving DecidableEq, Repr

/-- A mask as a number of bits. -/
def parseLength (bits : Nat) (mask : List Char) : Option Nat :=
  if mask = [] ∨ mask.all Char.isDigit = false then none
  else if bits < Nat.ofDigitChars 10 mask 0 then none
  else some (Nat.ofDigitChars 10 mask 0)

/-- The length of a netmask given as an address. -/
def netmaskLength (value : Nat) : Option Nat :=
  (List.range 33).find? fun length => value = 2 ^ 32 - 2 ^ (32 - length)

/-- A mask of version 4: a number of bits, a netmask or a hostmask. -/
def parseV4Mask (mask : List Char) : Option Nat :=
  match parseLength 32 mask with
  | some length => some length
  | none =>
      match parseV4 mask with
      | none => none
      | some value =>
          match netmaskLength value with
          | some length => some length
          | none => netmaskLength (2 ^ 32 - 1 - value)

/-- `ipaddress.ip_network(text, strict=False)`, for a text with a slash. -/
def ipNetwork (text : String) : Option IpNetwork :=
  match text.toList.splitOn '/' with
  | [address, mask] =>
      match parseV4 address, parseV4Mask mask with
      | some value, some length => some (.v4 value length)
      | _, _ =>
          match parseScopedV6 address, parseLength 128 mask with
          | some (.v6 value _), some length => some (.v6 value length)
          | _, _ => none
  | _ => none

/-- `address in network`. -/
def IpNetwork.contains : IpNetwork → IpAddress → Bool
  | .v4 address length, .v4 value => value / 2 ^ (32 - length) == address / 2 ^ (32 - length)
  | .v6 address length, .v6 value _ => value / 2 ^ (128 - length) == address / 2 ^ (128 - length)
  | _, _ => false

example : ipAddress "127.0.0.1" = some (.v4 0x7f000001) := by decide +kernel

example : ipAddress "::ffff:10.0.0.1" = some (.v6 0xffff0a000001 none) := by decide +kernel

example : ipNetwork "10.1.0.0/255.255.0.0" = some (.v4 0x0a010000 16) := by decide +kernel

end AutoRouteGateway.Runtime
