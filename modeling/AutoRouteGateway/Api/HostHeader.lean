import AutoRouteGateway.Api.App
import AutoRouteGateway.Runtime.JsonRoundTrip

/-!
Contract: which `Host` headers the host test takes for loopback.

Owns: the well-formed headers of a loopback host, for any notion of a port, the
kinds of headers that the test accepts besides them, and that these are all;
what a request is like that reaches a handler when no token is configured.

Does not own: the verdict on a request, which is `Api.App`.
-/

namespace AutoRouteGateway.Api

open AutoRouteGateway.Runtime

/-! ## The headers of a loopback host -/

def localhost : List Char := "localhost".toList

def testclient : List Char := "testclient".toList

/-- `localhost`, or a literal that is a loopback address. -/
def RealHost (name : List Char) : Prop :=
  name = localhost ∨
    ∃ address, ipAddress (String.ofList name) = some address ∧ address.isLoopback = true

/-- A loopback literal of version 6, which a closing bracket can end. -/
def BracketHost (name : List Char) : Prop :=
  ']' ∉ name ∧ ∃ value scope, ipAddress (String.ofList name) = some (.v6 value scope) ∧
    (IpAddress.v6 value scope).isLoopback = true

/-- A host, or a host and a port; in brackets, a literal of version 6. -/
inductive WellFormedHost (isPort : List Char → Prop) : List Char → Prop where
  | bare (name : List Char) (plain : name.head? ≠ some '[') (isHost : RealHost name) :
      WellFormedHost isPort name
  | ported (name port : List Char) (plain : name.head? ≠ some '[') (noColon : ':' ∉ name)
      (isHost : RealHost name) (ends : isPort port) :
      WellFormedHost isPort (name ++ ':' :: port)
  | bracketed (name : List Char) (isHost : BracketHost name) :
      WellFormedHost isPort ('[' :: (name ++ [']']))
  | bracketedPorted (name port : List Char) (isHost : BracketHost name) (ends : isPort port) :
      WellFormedHost isPort ('[' :: (name ++ ']' :: ':' :: port))

/-- The text ends, or goes on with the character. -/
def EndsOrHas (char : Char) (tail : List Char) : Prop := tail = [] ∨ ∃ more, tail = char :: more

/-- The headers that are taken for loopback and are not well formed. -/
inductive Misread (isPort : List Char → Prop) : List Char → Prop where
  /-- The identity of the test client, which is no host. -/
  | client : Misread isPort testclient
  | clientPorted (more : List Char) (once : ':' ∉ more) : Misread isPort (testclient ++ ':' :: more)
  /-- What stands behind the only colon is not looked at. -/
  | noPort (name more : List Char) (plain : name.head? ≠ some '[') (noColon : ':' ∉ name)
      (once : ':' ∉ more) (isHost : RealHost name) (notPort : ¬ isPort more) :
      Misread isPort (name ++ ':' :: more)
  /-- Any name may stand in brackets. -/
  | notBracketed (name tail : List Char) (open' : ']' ∉ name) (closes : EndsOrHas ']' tail)
      (accepted : RealHost name ∨ name = testclient) (other : ¬ BracketHost name) :
      Misread isPort ('[' :: (name ++ tail))
  /-- The bracket need not be closed. -/
  | unclosed (name : List Char) (isHost : BracketHost name) : Misread isPort ('[' :: name)
  /-- What stands behind the closing bracket is not looked at. -/
  | trailing (name more : List Char) (isHost : BracketHost name) (isMore : more ≠ [])
      (notPort : ∀ port, more = ':' :: port → ¬ isPort port) :
      Misread isPort ('[' :: (name ++ ']' :: more))

theorem BracketHost.realHost {name : List Char} (isHost : BracketHost name) : RealHost name := by
  obtain ⟨-, value, scope, parsed, loopback⟩ := isHost
  exact Or.inr ⟨_, parsed, loopback⟩

/-- `hostIsLoopback` works on the header trimmed and in lower case. -/
def trimmedHost (hostHeader : String) : List Char := (lower (strip hostHeader)).toList

/-! ## What the test reads -/

/-- Up to the first occurrence of a character, and from there on. -/
theorem span_ne {char : Char} {name tail : List Char} (absent : char ∉ name)
    (ends : EndsOrHas char tail) :
    (name ++ tail).takeWhile (· ≠ char) = name ∧ (name ++ tail).dropWhile (· ≠ char) = tail := by
  have passes : ∀ other ∈ name, decide (other ≠ char) = true := by
    intro other member
    exact decide_eq_true fun same => absent (same ▸ member)
  have stops : tail.takeWhile (· ≠ char) = [] ∧ tail.dropWhile (· ≠ char) = tail := by
    rcases ends with rfl | ⟨more, rfl⟩
    · exact ⟨rfl, rfl⟩
    · simp
  constructor
  · rw [List.takeWhile_append_of_pos passes, stops.1, List.append_nil]
  · rw [List.dropWhile_append_of_pos passes, stops.2]

theorem span_unique {char : Char} {name name' tail tail' : List Char} (absent : char ∉ name)
    (absent' : char ∉ name') (ends : EndsOrHas char tail) (ends' : EndsOrHas char tail')
    (same : name ++ tail = name' ++ tail') : name = name' ∧ tail = tail' := by
  have here := span_ne absent ends
  have there := span_ne absent' ends'
  rw [same] at here
  exact ⟨here.1.symm.trans there.1, here.2.symm.trans there.2⟩

/-- Every text splits at the first occurrence of a character. -/
theorem exists_span (char : Char) (chars : List Char) :
    ∃ name tail, chars = name ++ tail ∧ char ∉ name ∧ EndsOrHas char tail := by
  refine ⟨chars.takeWhile (· ≠ char), chars.dropWhile (· ≠ char),
    List.takeWhile_append_dropWhile.symm, ?_, ?_⟩
  · intro member
    simpa using List.mem_takeWhile_imp member
  · cases rest : chars.dropWhile (· ≠ char) with
    | nil => exact Or.inl rfl
    | cons head more =>
        have isHead := List.head?_dropWhile_not (fun other => decide (other ≠ char)) chars
        rw [rest] at isHead
        refine Or.inr ⟨more, ?_⟩
        simpa using isHead

variable {hostHeader : String}

/-- The name of a bracketed text ends at the first closing bracket. -/
theorem hostName_bracket {name tail : List Char}
    (isText : trimmedHost hostHeader = '[' :: (name ++ tail)) (absent : ']' ∉ name)
    (ends : EndsOrHas ']' tail) : hostName hostHeader = String.ofList name := by
  unfold trimmedHost at isText
  simp only [hostName, isText, afterWord_self]
  rw [(span_ne absent ends).1]

/-- The name of another text ends at its colon, if there is just one. -/
theorem hostName_plain {text : List Char} (isText : trimmedHost hostHeader = text)
    (plain : text.head? ≠ some '[') :
    hostName hostHeader =
      String.ofList (if text.count ':' = 1 then text.takeWhile (· ≠ ':') else text) := by
  have unbracketed : afterWord ['['] text = none := by
    cases text with
    | nil => rfl
    | cons head rest => exact afterWord_of_ne (fun same => plain (congrArg some same.symm)) rest
  unfold trimmedHost at isText
  simp only [hostName, isText, unbracketed]
  split <;> rfl

theorem accepts_iff {name : List Char} (isName : hostName hostHeader = String.ofList name) :
    hostIsLoopback hostHeader = true ↔ RealHost name ∨ name = testclient := by
  have isText : ∀ own : List Char, String.ofList name = String.ofList own ↔ name = own :=
    fun own => String.ofList_inj
  have isLocal := isText localhost
  have isClient := isText testclient
  rw [show String.ofList localhost = "localhost" from String.ofList_toList] at isLocal
  rw [show String.ofList testclient = "testclient" from String.ofList_toList] at isClient
  rw [hostIsLoopback_iff, LoopbackPeer, isName, isLocal, isClient, RealHost,
    or_assoc]
  exact or_congr_right or_comm

/-! ## The well-formed headers of each shape -/

section Shapes

variable {isPort : List Char → Prop}

theorem head?_colon_ne {name : List Char} (plain : name.head? ≠ some '[') (more : List Char) :
    (name ++ ':' :: more).head? ≠ some '[' := by
  cases name with
  | nil =>
      intro same
      cases same
  | cons head rest => exact plain

theorem count_colon_of_realHost {name : List Char} (isHost : RealHost name) :
    name.count ':' ≠ 1 := by
  rcases isHost with isLocal | ⟨address, parsed, -⟩
  · rw [isLocal]
    decide
  · exact count_colon_of_ipAddress parsed

theorem wellFormed_bracket_iff {name tail : List Char} (absent : ']' ∉ name)
    (ends : EndsOrHas ']' tail) :
    WellFormedHost isPort ('[' :: (name ++ tail)) ↔
      BracketHost name ∧ (tail = [']'] ∨ ∃ port, tail = ']' :: ':' :: port ∧ isPort port) := by
  constructor
  · intro wellFormed
    generalize isText : '[' :: (name ++ tail) = text at wellFormed
    cases wellFormed with
    | bare own plain isHost =>
        rw [← isText] at plain
        exact absurd rfl plain
    | ported own port plain noColon isHost isPort =>
        have plainText := head?_colon_ne plain port
        rw [← isText] at plainText
        exact absurd rfl plainText
    | bracketed own isHost =>
        obtain ⟨rfl, rfl⟩ := span_unique absent isHost.1 ends (Or.inr ⟨[], rfl⟩)
          (List.cons.inj isText).2
        exact ⟨isHost, Or.inl rfl⟩
    | bracketedPorted own port isHost isPort =>
        obtain ⟨rfl, rfl⟩ := span_unique absent isHost.1 ends (Or.inr ⟨_, rfl⟩)
          (List.cons.inj isText).2
        exact ⟨isHost, Or.inr ⟨port, rfl, isPort⟩⟩
  · rintro ⟨isHost, rfl | ⟨port, rfl, isPort⟩⟩
    · exact .bracketed name isHost
    · exact .bracketedPorted name port isHost isPort

/-- A text with one colon, outside brackets. -/
theorem wellFormed_colon_iff {name more : List Char} (plain : name.head? ≠ some '[')
    (absent : ':' ∉ name) (once : ':' ∉ more) :
    WellFormedHost isPort (name ++ ':' :: more) ↔ RealHost name ∧ isPort more := by
  have oneColon : (name ++ ':' :: more).count ':' = 1 := by
    rw [List.count_append, List.count_cons_self, List.count_eq_zero.mpr absent,
      List.count_eq_zero.mpr once]
  have plainText := head?_colon_ne plain more
  constructor
  · intro wellFormed
    generalize isText : name ++ ':' :: more = text at wellFormed oneColon
    cases wellFormed with
    | bare own _ isHost => exact absurd oneColon (count_colon_of_realHost isHost)
    | ported own port _ noColon isHost isPort =>
        obtain ⟨rfl, same⟩ := span_unique absent noColon (Or.inr ⟨more, rfl⟩)
          (Or.inr ⟨port, rfl⟩) isText
        cases same
        exact ⟨isHost, isPort⟩
    | bracketed own isHost =>
        rw [isText] at plainText
        exact absurd rfl plainText
    | bracketedPorted own port isHost isPort =>
        rw [isText] at plainText
        exact absurd rfl plainText
  · rintro ⟨isHost, isPort⟩
    exact .ported name more plain absent isHost isPort

theorem not_wellFormed_testclient : ¬ WellFormedHost isPort testclient := by
  intro wellFormed
  generalize isText : testclient = text at wellFormed
  cases wellFormed with
  | bare own plain isHost =>
      rw [← isText] at isHost
      rcases isHost with isLocal | ⟨address, parsed, -⟩
      · exact absurd isLocal (by decide)
      · have unparsed : ipAddress (String.ofList testclient) = none := by decide +kernel
        rw [unparsed] at parsed
        cases parsed
  | ported own port _ _ _ _ =>
      have colon : ':' ∈ testclient := by
        rw [isText]
        exact List.mem_append_right _ List.mem_cons_self
      exact absurd colon (by decide)
  | bracketed own _ => cases isText
  | bracketedPorted own port _ _ => cases isText

end Shapes

/-! ## The headers taken for loopback -/

/-- A text with one colon, outside brackets, has the name before it. -/
theorem hostName_colon {name more : List Char}
    (isText : trimmedHost hostHeader = name ++ ':' :: more) (plain : name.head? ≠ some '[')
    (absent : ':' ∉ name) (once : ':' ∉ more) : hostName hostHeader = String.ofList name := by
  have oneColon : (name ++ ':' :: more).count ':' = 1 := by
    rw [List.count_append, List.count_cons_self, List.count_eq_zero.mpr absent,
      List.count_eq_zero.mpr once]
  rw [hostName_plain isText (head?_colon_ne plain more), if_pos oneColon,
    (span_ne absent (Or.inr ⟨more, rfl⟩)).1]

/-- A bracketed text is well formed if it is accepted and of no misread kind. -/
theorem wellFormed_of_bracket {isPort : List Char → Prop} {name tail : List Char}
    (absent : ']' ∉ name) (ends : EndsOrHas ']' tail) (accepted : RealHost name ∨ name = testclient)
    (noMisread : ¬ Misread isPort ('[' :: (name ++ tail))) :
    WellFormedHost isPort ('[' :: (name ++ tail)) := by
  have isHost : BracketHost name := by
    by_contra other
    exact noMisread (.notBracketed name tail absent ends accepted other)
  rcases ends with rfl | ⟨more, rfl⟩
  · rw [List.append_nil] at noMisread
    exact absurd (.unclosed name isHost) noMisread
  · by_cases ended : more = []
    · rw [ended]
      exact .bracketed name isHost
    · by_cases ported : ∃ port, more = ':' :: port ∧ isPort port
      · obtain ⟨port, rfl, isPort⟩ := ported
        exact .bracketedPorted name port isHost isPort
      · refine absurd (.trailing name more isHost ended ?_) noMisread
        intro port same isPort
        exact ported ⟨port, same, isPort⟩

/-- A text with one colon is well formed if it is accepted and of no misread kind. -/
theorem wellFormed_of_colon {isPort : List Char → Prop} {name more : List Char}
    (plain : name.head? ≠ some '[') (absent : ':' ∉ name) (once : ':' ∉ more)
    (accepted : RealHost name ∨ name = testclient)
    (noMisread : ¬ Misread isPort (name ++ ':' :: more)) :
    WellFormedHost isPort (name ++ ':' :: more) := by
  rcases accepted with isHost | rfl
  · by_cases ported : isPort more
    · exact .ported name more plain absent isHost ported
    · exact absurd (.noPort name more plain absent once isHost ported) noMisread
  · exact absurd (.clientPorted more once) noMisread

/-- A header that is well formed if it is taken for loopback is of no misread kind. -/
theorem not_misread_of_sound {isPort : List Char → Prop}
    (sound : hostIsLoopback hostHeader = true → WellFormedHost isPort (trimmedHost hostHeader)) :
    ¬ Misread isPort (trimmedHost hostHeader) := by
  intro misread
  generalize isText : trimmedHost hostHeader = text at sound misread
  cases misread with
  | client =>
      have isName := hostName_plain isText (by decide)
      exact not_wellFormed_testclient (sound ((accepts_iff isName).mpr (Or.inr (by decide))))
  | clientPorted more once =>
      have isName := hostName_colon isText (by decide) (by decide) once
      have wellFormed := sound ((accepts_iff isName).mpr (Or.inr rfl))
      rw [wellFormed_colon_iff (by decide) (by decide) once] at wellFormed
      have noHost : ¬ WellFormedHost isPort testclient := not_wellFormed_testclient
      exact noHost (.bare testclient (by decide) wellFormed.1)
  | noPort name more plain noColon once isHost notPort =>
      have isName := hostName_colon isText plain noColon once
      have wellFormed := sound ((accepts_iff isName).mpr (Or.inl isHost))
      exact notPort ((wellFormed_colon_iff plain noColon once).mp wellFormed).2
  | notBracketed name tail open' closes accepted other =>
      have isName := hostName_bracket isText open' closes
      have wellFormed := sound ((accepts_iff isName).mpr accepted)
      exact other ((wellFormed_bracket_iff open' closes).mp wellFormed).1
  | unclosed name isHost =>
      rw [← List.append_nil name] at isText sound
      have isName := hostName_bracket isText isHost.1 (Or.inl rfl)
      have wellFormed := sound ((accepts_iff isName).mpr (Or.inl isHost.realHost))
      rcases ((wellFormed_bracket_iff isHost.1 (Or.inl rfl)).mp wellFormed).2 with
        same | ⟨port, same, -⟩
      · cases same
      · cases same
  | trailing name more isHost isMore notPort =>
      have isName := hostName_bracket isText isHost.1 (Or.inr ⟨more, rfl⟩)
      have wellFormed := sound ((accepts_iff isName).mpr (Or.inl isHost.realHost))
      rcases ((wellFormed_bracket_iff isHost.1 (Or.inr ⟨more, rfl⟩)).mp wellFormed).2 with
        same | ⟨port, same, ends⟩
      · exact isMore (List.cons.inj same).2
      · exact notPort port (List.cons.inj same).2 ends

/-- A header that is taken for loopback and is of no misread kind is well formed. -/
theorem wellFormed_of_not_misread {isPort : List Char → Prop}
    (noMisread : ¬ Misread isPort (trimmedHost hostHeader))
    (accepted : hostIsLoopback hostHeader = true) :
    WellFormedHost isPort (trimmedHost hostHeader) := by
  generalize isText : trimmedHost hostHeader = text at noMisread
  by_cases bracketed : text.head? = some '['
  · obtain ⟨inner, rfl⟩ := List.head?_eq_some_iff.mp bracketed
    obtain ⟨name, tail, rfl, absent, ends⟩ := exists_span ']' inner
    have isName := hostName_bracket isText absent ends
    exact wellFormed_of_bracket absent ends ((accepts_iff isName).mp accepted) noMisread
  · by_cases oneColon : text.count ':' = 1
    · obtain ⟨name, tail, rfl, absent, ends⟩ := exists_span ':' text
      rcases ends with rfl | ⟨more, rfl⟩
      · rw [List.append_nil, List.count_eq_zero.mpr absent] at oneColon
        cases oneColon
      · have once : ':' ∉ more := by
          rw [List.count_append, List.count_cons_self, List.count_eq_zero.mpr absent] at oneColon
          exact List.count_eq_zero.mp (by omega)
        have plain : name.head? ≠ some '[' := by
          cases name with
          | nil => exact nofun
          | cons head rest => exact bracketed
        have isName := hostName_colon isText plain absent once
        exact wellFormed_of_colon plain absent once ((accepts_iff isName).mp accepted) noMisread
    · have isName := hostName_plain isText bracketed
      rw [if_neg oneColon] at isName
      rcases (accepts_iff isName).mp accepted with isHost | isClient
      · exact .bare text bracketed isHost
      · exact absurd (isClient ▸ .client) noMisread

/-- The test takes only well-formed headers of a loopback host for loopback if and
only if the header is of none of the misread kinds. -/
theorem loopback_well_formed_iff (isPort : List Char → Prop) (hostHeader : String) :
    (hostIsLoopback hostHeader = true → WellFormedHost isPort (trimmedHost hostHeader)) ↔
      ¬ Misread isPort (trimmedHost hostHeader) :=
  ⟨not_misread_of_sound, wellFormed_of_not_misread⟩

/-- Text behind the closing bracket, and the name of the test client, are accepted and
not well formed, whatever counts as a port. -/
theorem misread_hosts_accepted :
    (hostIsLoopback "[::1].evil.example" = true ∧
        ¬ WellFormedHost (fun _ => True) (trimmedHost "[::1].evil.example")) ∧
      hostIsLoopback "testclient:8700" = true ∧
        ¬ WellFormedHost (fun _ => True) (trimmedHost "testclient:8700") := by
  refine ⟨⟨by decide +kernel, ?_⟩, by decide +kernel, ?_⟩
  · have isText : trimmedHost "[::1].evil.example" =
        '[' :: ("::1".toList ++ ']' :: ".evil.example".toList) := by decide +kernel
    rw [isText, wellFormed_bracket_iff (by decide) (Or.inr ⟨_, rfl⟩)]
    rintro ⟨-, same | ⟨port, same, -⟩⟩
    · exact absurd same (by decide)
    · exact absurd (List.cons.inj (List.cons.inj same).2).1 (by decide)
  · have isText : trimmedHost "testclient:8700" = testclient ++ ':' :: "8700".toList := by
      decide +kernel
    rw [isText, wellFormed_colon_iff (by decide) (by decide) (by decide)]
    rintro ⟨isHost, -⟩
    have noHost : ¬ WellFormedHost (fun _ => True) testclient := not_wellFormed_testclient
    exact noHost (.bare testclient (by decide) isHost)

/-! ## Requests without a token -/

/-- Without a token a handler sees a request only without an origin, from a peer
that the ACL admits, and with the header of a loopback host unless the header is
misread. An empty ACL admits loopback peers. -/
theorem loopback_of_passed (isPort : List Char → Prop) {config : ServerConfig}
    (tokenless : Tokenless config) {request : HttpRequest}
    (passed : securityMiddleware config request = .passed) :
    request.header "origin" = none ∧
      (¬ Misread isPort (trimmedHost ((request.header "host").getD "")) →
        WellFormedHost isPort (trimmedHost ((request.header "host").getD ""))) ∧
      (config.allowIps = [] → LoopbackPeer request.clientIp) ∧
      (config.allowIps ≠ [] → ∃ address, ipAddress request.clientIp = some address ∧
        ∃ entry ∈ config.allowIps, entryCovers entry address = some true) := by
  obtain ⟨notForged, admitted⟩ := (passed_tokenless_iff tokenless request).mp passed
  obtain ⟨noOrigin, accepted⟩ := browserForged_eq_false_iff.mp notForged
  refine ⟨noOrigin, fun noMisread => wellFormed_of_not_misread noMisread accepted, ?_, ?_⟩
  · intro noAcl
    rw [allowed, if_pos noAcl] at admitted
    exact isLoopback_iff.mp (Option.some.inj admitted)
  · intro hasAcl
    rw [allowed, if_neg hasAcl] at admitted
    cases parsed : ipAddress request.clientIp with
    | none =>
        rw [parsed] at admitted
        cases admitted
    | some address =>
        rw [parsed] at admitted
        exact ⟨address, rfl, anyCovers_eq_true admitted⟩

/-- A local client on a gateway with neither a token nor an ACL. -/
theorem loopback_of_passed_local :
    WellFormedHost (· = "8700".toList) (trimmedHost "localhost:8700") ∧
      LoopbackPeer "127.0.0.1" := by
  have passed : securityMiddleware {} ⟨some "127.0.0.1", [("host", "localhost:8700")]⟩ =
      .passed := by decide +kernel
  obtain ⟨-, wellFormed, loopbackPeer, -⟩ :=
    loopback_of_passed (· = "8700".toList) (Or.inl rfl) passed
  have isText : trimmedHost "localhost:8700" = localhost ++ ':' :: "8700".toList := by
    decide +kernel
  refine ⟨wellFormed (not_misread_of_sound fun _ => ?_), loopbackPeer rfl⟩
  change WellFormedHost _ (trimmedHost "localhost:8700")
  rw [isText]
  exact .ported localhost "8700".toList (by decide) (by decide) (Or.inl rfl) rfl

/-- A network on the ACL lets its peers in: without a token, from an address
that is not loopback, with the host `localhost`. -/
theorem acl_passes_remote_peer :
    Tokenless { allowIps := ["10.0.0.0/8"] } ∧
      securityMiddleware { allowIps := ["10.0.0.0/8"] }
        ⟨some "10.1.2.3", [("host", "localhost")]⟩ = .passed ∧
      ipAddress "10.1.2.3" = some (.v4 0x0a010203) ∧
      (IpAddress.v4 0x0a010203).isLoopback = false :=
  ⟨Or.inl rfl, by decide +kernel, by decide +kernel, by decide⟩

end AutoRouteGateway.Api
