import AutoRouteGateway.Runtime.JsonScan
import AutoRouteGateway.Runtime.Lines

/-!
Contract: the event stream of `codex exec --json`, and what `parse_jsonl` makes of
it.

Owns: the parser, the streams that are written to it, what the events of a stream
tell, and the exact condition under which the parser recovers it.

A line feed ends every line of a stream, and `splitlines` splits at further
characters: in what is no event, and in the strings of an event, three beyond
ASCII. Of what `json.loads` raises, the parser catches the decode error only.
-/

namespace AutoRouteGateway.Executors

open AutoRouteGateway.Runtime

/-! ## The parser -/

/-- `value or None` of a looked-up value. -/
def orNone (value : Option Json) : Option Json := value.filter Json.truthy

/-- `fields.get("type") == kind`. -/
def hasKind (kind : String) (fields : Dict) : Bool :=
  match Dict.get? "type" fields with
  | some value => value.isText kind
  | none => false

/-- `ev.get("item") or {}`. -/
def itemOf (event : Dict) : Json := (orNone (Dict.get? "item" event)).getD (.dict [])

/-- `value.get(key)`; only an object has it. -/
def getField (key : String) : Json → Except String (Option Json)
  | .dict fields => .ok (Dict.get? key fields)
  | other => .error other.noGetText

/-- The final agent message, the usage and the error. -/
structure Parsed where
  text : Option Json := none
  usage : Option Json := none
  error : Option Json := none

/-- The error of a failure event, which is never `None`. -/
def errorOf (event : Dict) : Except String Json :=
  match orNone (Dict.get? "error" event) with
  | some error => .ok error
  | none =>
      match orNone (Dict.get? "message" event) with
      | some message => .ok message
      | none =>
          match getField "text" (itemOf event) with
          | .error text => .error text
          | .ok own => .ok ((orNone own).getD (.str (truncate 300 (dumps (.dict event)))))

def readItem (event : Dict) (parsed : Parsed) : Except String Parsed :=
  match itemOf event with
  | .dict item =>
      .ok (if hasKind "agent_message" item then
        { parsed with text := orNone (Dict.get? "text" item) } else parsed)
  | other => .error other.noGetText

def readEvent (event : Dict) (parsed : Parsed) : Except String Parsed :=
  if hasKind "item.completed" event then readItem event parsed
  else if hasKind "turn.completed" event then
    .ok { parsed with usage := orNone (Dict.get? "usage" event) }
  else if hasKind "turn.failed" event || hasKind "error" event then
    match errorOf event with
    | .error text => .error text
    | .ok error => .ok { parsed with error := some error }
  else .ok parsed

section Lines

/- How deeply values may nest that `json.loads` reads. -/
variable (depth : Nat)

/-- The value of a line, none if it is blank or malformed. Only the decode error
is caught. -/
def lineValue (line : String) : Except String (Option Json) :=
  if strip line = "" then .ok none
  else
    match loads depth line with
    | .ok value => .ok (some value)
    | .error .decode => .ok none
    | .error (.other text) => .error text

def readLine (line : String) (parsed : Parsed) : Except String Parsed :=
  match lineValue depth line with
  | .error text => .error text
  | .ok none => .ok parsed
  | .ok (some (.dict event)) => readEvent event parsed
  | .ok (some other) => .error other.noGetText

def readLines : List String → Parsed → Except String Parsed
  | [], parsed => .ok parsed
  | line :: rest, parsed =>
      match readLine depth line parsed with
      | .error text => .error text
      | .ok parsed => readLines rest parsed

/-- `parse_jsonl`. -/
def parseJsonl (raw : String) : Except String Parsed := readLines depth (splitLines raw) {}

end Lines

/-! ## The streams -/

/-- An event object that can be written and read. -/
structure EventLine (depth : Nat) where
  event : Dict
  wellFormed : (Json.dict event).WellFormed depth

/-- What `splitlines` makes of a line and its line feed. -/
def piecesOf (text : List Char) : List String :=
  (splitFrom false [] (text ++ ['\n'])).map String.ofList

/-- A line that is no JSON object. If there are objects among its pieces, no
escape in them stands for half of a surrogate pair. -/
structure OtherLine (depth : Nat) where
  text : List Char
  oneLine : '\n' ∉ text
  noObject : ∀ fields, loads depth (String.ofList text) ≠ .ok (.dict fields)
  paired : ∀ piece ∈ piecesOf text, ∀ fields, loads depth piece = .ok (.dict fields) →
    Paired depth piece

inductive JsonlLine (depth : Nat) where
  | event (line : EventLine depth)
  | other (line : OtherLine depth)

section Streams

variable {depth : Nat}

namespace JsonlLine

/-- The line as it is written, without its line feed. -/
def text : JsonlLine depth → List Char
  | event line => (Json.dict line.event).text
  | other line => line.text

def event? : JsonlLine depth → Option Dict
  | event line => some line.event
  | other _ => none

def pieces (line : JsonlLine depth) : List String := piecesOf line.text

end JsonlLine

def rawText (lines : List (JsonlLine depth)) : String :=
  String.ofList (lines.flatMap fun line => line.text ++ ['\n'])

def eventsOf (lines : List (JsonlLine depth)) : List Dict := lines.filterMap JsonlLine.event?

end Streams

/-! ## What events tell -/

/-- The text of an agent message that was completed, `none` if it is empty or absent. -/
def agentText? (event : Dict) : Option (Option Json) :=
  if hasKind "item.completed" event then
    match Dict.get? "item" event with
    | some (.dict item) =>
        if hasKind "agent_message" item then some (orNone (Dict.get? "text" item)) else none
    | _ => none
  else none

/-- The usage of a turn that was completed, `none` if it is empty or absent. -/
def usage? (event : Dict) : Option (Option Json) :=
  if hasKind "turn.completed" event then some (orNone (Dict.get? "usage" event)) else none

def fails (event : Dict) : Bool := hasKind "turn.failed" event || hasKind "error" event

/-- What the last event that has something to read reads as. -/
def lastOf (read : Dict → Option (Option Json)) (events : List Dict) : Option Json :=
  (events.filterMap read).getLast?.join

/-- The parser's result is what the events tell. -/
structure Tells (events : List Dict) (parsed : Parsed) : Prop where
  text : parsed.text = lastOf agentText? events
  usage : parsed.usage = lastOf usage? events
  error : parsed.error ≠ none ↔ ∃ event ∈ events, fails event = true

/-- The parser does not raise, and returns what the events of the stream tell. -/
def Recovers {depth : Nat} (lines : List (JsonlLine depth)) : Prop :=
  ∃ parsed, parseJsonl depth (rawText lines) = .ok parsed ∧ Tells (eventsOf lines) parsed

/-- Two lists of events tell the same. -/
structure TellSame (left right : List Dict) : Prop where
  text : lastOf agentText? left = lastOf agentText? right
  usage : lastOf usage? left = lastOf usage? right
  error : (∃ event ∈ left, fails event = true) ↔ ∃ event ∈ right, fails event = true

/-! ## What the parser can read -/

/-- The item is falsy or an object. -/
def ItemReads (event : Dict) : Prop := ∃ item, itemOf event = .dict item

/-- An object whose item is an object or falsy, where the parser looks at it. -/
def Readable (value : Json) : Prop :=
  ∃ event, value = .dict event ∧ (hasKind "item.completed" event = true → ItemReads event) ∧
    (fails event = true → orNone (Dict.get? "error" event) = none →
      orNone (Dict.get? "message" event) = none → ItemReads event)

/-- The JSON objects among some pieces. -/
def objectsOf (depth : Nat) (pieces : List String) : List Dict :=
  pieces.filterMap fun piece =>
    match lineValue depth piece with
    | .ok (some (.dict event)) => some event
    | _ => none

/-- What is left of a line: an event itself if none of its characters splits it,
else the objects among the pieces. -/
def leftOf {depth : Nat} (line : JsonlLine depth) : List Dict :=
  match line with
  | .event own =>
      if (Json.dict own.event).text.any isLineBreak then objectsOf depth line.pieces
      else [own.event]
  | .other _ => objectsOf depth line.pieces

section Keeping

variable {depth : Nat} (read : Dict → Option (Option Json))

/-- What the event of a line tells. -/
def toldBy (line : JsonlLine depth) : Option (Option Json) := line.event?.bind read

/-- The last that is told by what is left of a line. -/
def leftToTell (line : JsonlLine depth) : Option (Option Json) :=
  ((leftOf line).filterMap read).getLast?

/-- The last line that tells something, by its event or by what is left of it,
tells the same by both; else what it loses is what the lines before it are left
to tell, or what comes to light in it is what the events before it tell. -/
def LastKept (lines : List (JsonlLine depth)) : Prop :=
  ∀ front line back, lines = front ++ line :: back →
    (∀ other ∈ back, toldBy read other = none ∧ leftToTell read other = none) →
      toldBy read line = leftToTell read line ∨
        (leftToTell read line = none ∧
          toldBy read line = some (lastOf read (front.flatMap leftOf))) ∨
        (toldBy read line = none ∧ leftToTell read line = some (lastOf read (eventsOf front)))

end Keeping

/-- Splitting does no harm to what the stream tells last, and leaves a failure
exactly if there is one. -/
structure HarmlesslySplit {depth : Nat} (lines : List (JsonlLine depth)) : Prop where
  text : LastKept agentText? lines
  usage : LastKept usage? lines
  failure : (∃ line ∈ lines, ∃ event ∈ leftOf line, fails event = true) ↔
    ∃ event ∈ eventsOf lines, fails event = true

/-! ## Kinds -/

/-- An event has one kind. -/
theorem hasKind_exclusive {kind other : String} {fields : Dict} (own : hasKind kind fields = true)
    (different : kind ≠ other) : hasKind other fields = false := by
  unfold hasKind at own ⊢
  cases found : Dict.get? "type" fields with
  | none => rfl
  | some value =>
      rw [found] at own
      rw [Json.isText_iff.mp own]
      exact beq_eq_false_iff_ne.mpr different

theorem fails_exclusive {kind : String} {event : Dict} (own : hasKind kind event = true)
    (noFailure : kind ≠ "turn.failed" ∧ kind ≠ "error") : fails event = false := by
  unfold fails
  rw [hasKind_exclusive own noFailure.1, hasKind_exclusive own noFailure.2]
  rfl

theorem agentText?_of_other {event : Dict} (other : hasKind "item.completed" event = false) :
    agentText? event = none := by
  unfold agentText?
  rw [other]
  rfl

theorem usage?_of_other {event : Dict} (other : hasKind "turn.completed" event = false) :
    usage? event = none := by
  unfold usage?
  rw [other]
  rfl

/-! ## One event -/

/-- From one result to the next by some events: the last of what they tell, else
what was there before. -/
structure Continues (parsed : Parsed) (events : List Dict) (result : Parsed) : Prop where
  text : result.text = (events.filterMap agentText?).getLast?.getD parsed.text
  usage : result.usage = (events.filterMap usage?).getLast?.getD parsed.usage
  error : result.error ≠ none ↔ parsed.error ≠ none ∨ ∃ event ∈ events, fails event = true

theorem Continues.refl (parsed : Parsed) : Continues parsed [] parsed where
  text := rfl
  usage := rfl
  error := by simp

theorem Continues.trans {first second third : Parsed} {left right : List Dict}
    (isLeft : Continues first left second) (isRight : Continues second right third) :
    Continues first (left ++ right) third where
  text := by
    rw [List.filterMap_append, List.getLast?_append, isRight.text, isLeft.text]
    cases (right.filterMap agentText?).getLast? <;> rfl
  usage := by
    rw [List.filterMap_append, List.getLast?_append, isRight.usage, isLeft.usage]
    cases (right.filterMap usage?).getLast? <;> rfl
  error := by
    rw [isRight.error, isLeft.error, or_assoc]
    simp only [List.mem_append, or_and_right, exists_or]

/-- An event that tells nothing. -/
theorem Continues.silent (parsed : Parsed) {event : Dict} (noText : agentText? event = none)
    (noUsage : usage? event = none) (noFailure : fails event = false) :
    Continues parsed [event] parsed where
  text := by simp [noText]
  usage := by simp [noUsage]
  error := by simp [noFailure]

/-- The item that is looked at, as the event tells it. -/
theorem agentText?_of_item {event item : Dict} (completed : hasKind "item.completed" event = true)
    (isItem : itemOf event = .dict item) :
    agentText? event =
      if hasKind "agent_message" item then some (orNone (Dict.get? "text" item)) else none := by
  unfold agentText?
  rw [if_pos completed]
  unfold itemOf orNone at isItem
  cases found : Dict.get? "item" event with
  | none =>
      rw [found] at isItem
      cases isItem
      rfl
  | some value =>
      rw [found] at isItem
      cases truth : value.truthy with
      | true =>
          rw [Option.filter_some_pos truth, Option.getD_some] at isItem
          rw [isItem]
      | false =>
          rw [Option.filter_some_neg (by simp [truth]), Option.getD_none] at isItem
          cases isItem
          cases value with
          | dict fields =>
              have empty : fields = [] := by simpa [Json.truthy] using truth
              rw [empty]
          | _ => rfl

theorem readItem_iff {event : Dict} {parsed : Parsed} :
    (∃ result, readItem event parsed = .ok result) ↔ ItemReads event := by
  unfold readItem ItemReads
  cases itemOf event with
  | dict item => exact iff_of_true ⟨_, rfl⟩ ⟨item, rfl⟩
  | _ =>
      apply iff_of_false
      · rintro ⟨result, read⟩
        cases read
      · rintro ⟨item, isItem⟩
        cases isItem

theorem errorOf_iff {event : Dict} :
    (∃ error, errorOf event = .ok error) ↔
      (orNone (Dict.get? "error" event) = none → orNone (Dict.get? "message" event) = none →
        ItemReads event) := by
  unfold errorOf ItemReads
  cases orNone (Dict.get? "error" event) with
  | some error => simp
  | none =>
      cases orNone (Dict.get? "message" event) with
      | some message => simp
      | none => cases itemOf event <;> simp [getField]

theorem readItem_continues {event : Dict} {parsed result : Parsed}
    (completed : hasKind "item.completed" event = true)
    (read : readItem event parsed = .ok result) : Continues parsed [event] result := by
  have noUsage : usage? event = none :=
    usage?_of_other (hasKind_exclusive completed (by decide))
  have noFailure := fails_exclusive completed (by decide)
  unfold readItem at read
  cases isItem : itemOf event with
  | dict item =>
      rw [isItem] at read
      dsimp only at read
      have told := agentText?_of_item completed isItem
      cases isMessage : hasKind "agent_message" item with
      | true =>
          rw [isMessage] at read told
          cases read
          exact ⟨by simp [told], by simp [noUsage], by simp [noFailure]⟩
      | false =>
          rw [isMessage] at read told
          cases read
          exact .silent parsed told noUsage noFailure
  | _ =>
      rw [isItem] at read
      cases read

/-- What an event adds, where the parser can read it. -/
theorem readEvent_continues {event : Dict} {parsed result : Parsed}
    (read : readEvent event parsed = .ok result) : Continues parsed [event] result := by
  unfold readEvent at read
  cases completed : hasKind "item.completed" event with
  | true =>
      rw [completed] at read
      exact readItem_continues completed read
  | false =>
      have noText := agentText?_of_other completed
      rw [completed, if_neg Bool.false_ne_true] at read
      cases ended : hasKind "turn.completed" event with
      | true =>
          have told : usage? event = some (orNone (Dict.get? "usage" event)) := if_pos ended
          rw [ended] at read
          cases read
          exact ⟨by simp [noText], by simp [told], by simp [fails_exclusive ended (by decide)]⟩
      | false =>
          have noUsage := usage?_of_other ended
          rw [ended, if_neg Bool.false_ne_true] at read
          change (if fails event = true then _ else _) = _ at read
          cases failed : fails event with
          | false =>
              rw [failed] at read
              cases read
              exact .silent parsed noText noUsage failed
          | true =>
              rw [failed, if_pos rfl] at read
              cases hasError : errorOf event with
              | error text =>
                  rw [hasError] at read
                  cases read
              | ok error =>
                  rw [hasError] at read
                  cases read
                  exact ⟨by simp [noText], by simp [noUsage], by simp [failed]⟩

theorem readEvent_iff {event : Dict} {parsed : Parsed} :
    (∃ result, readEvent event parsed = .ok result) ↔ Readable (.dict event) := by
  have split : Readable (.dict event) ↔
      (hasKind "item.completed" event = true → ItemReads event) ∧
        (fails event = true → ∃ error, errorOf event = .ok error) := by
    rw [errorOf_iff]
    constructor
    · rintro ⟨own, same, reads⟩
      cases same
      exact reads
    · intro reads
      exact ⟨event, rfl, reads⟩
  rw [split]
  unfold readEvent
  cases completed : hasKind "item.completed" event with
  | true =>
      rw [if_pos rfl, readItem_iff, fails_exclusive completed (by decide)]
      simp
  | false =>
      rw [if_neg Bool.false_ne_true]
      cases ended : hasKind "turn.completed" event with
      | true =>
          rw [fails_exclusive ended (by decide)]
          simp
      | false =>
          rw [if_neg Bool.false_ne_true]
          change (∃ result, (if fails event = true then _ else _) = _) ↔ _
          cases fails event with
          | false => simp
          | true => cases errorOf event <;> simp

/-! ## All lines -/

variable {depth : Nat}

/-- The parser can read a line: `json.loads` raises nothing but its decode error,
and a value it returns is readable. -/
def LineReads (depth : Nat) (piece : String) : Prop :=
  ∃ held, lineValue depth piece = .ok held ∧ ∀ value, held = some value → Readable value

theorem readLine_iff {piece : String} (parsed : Parsed) :
    (∃ result, readLine depth piece parsed = .ok result) ↔ LineReads depth piece := by
  unfold readLine LineReads
  cases lineValue depth piece with
  | error text =>
      apply iff_of_false
      · rintro ⟨result, read⟩
        cases read
      · rintro ⟨held, isHeld, -⟩
        cases isHeld
  | ok held =>
      have only : (∃ own, Except.ok (ε := String) held = .ok own ∧
          ∀ value, own = some value → Readable value) ↔
            ∀ value, held = some value → Readable value := by
        constructor
        · rintro ⟨own, same, each⟩
          cases same
          exact each
        · exact fun each => ⟨held, rfl, each⟩
      rw [only]
      cases held with
      | none =>
          refine iff_of_true ⟨parsed, rfl⟩ ?_
          intro value isValue
          cases isValue
      | some value =>
          have readable : (∀ own, some value = some own → Readable own) ↔ Readable value := by
            constructor
            · intro each
              exact each value rfl
            · rintro readable own same
              cases same
              exact readable
          rw [readable]
          cases value with
          | dict event => exact readEvent_iff
          | _ =>
              apply iff_of_false
              · rintro ⟨result, read⟩
                cases read
              · rintro ⟨event, same, -⟩
                cases same

theorem readLine_continues {piece : String} {parsed result : Parsed}
    (read : readLine depth piece parsed = .ok result) :
    Continues parsed (objectsOf depth [piece]) result := by
  unfold readLine at read
  unfold objectsOf
  rw [List.filterMap_cons]
  cases isValue : lineValue depth piece with
  | error text =>
      rw [isValue] at read
      cases read
  | ok held =>
      rw [isValue] at read
      cases held with
      | none =>
          cases read
          exact .refl parsed
      | some value =>
          cases value with
          | dict event => exact readEvent_continues read
          | _ => cases read

theorem objectsOf_append (left right : List String) :
    objectsOf depth (left ++ right) = objectsOf depth left ++ objectsOf depth right :=
  List.filterMap_append

/-- The parser raises at the first line it cannot read. -/
theorem readLines_iff {pieces : List String} (parsed : Parsed) :
    (∃ result, readLines depth pieces parsed = .ok result) ↔
      ∀ piece ∈ pieces, LineReads depth piece := by
  induction pieces generalizing parsed with
  | nil => exact iff_of_true ⟨parsed, rfl⟩ (List.forall_mem_nil _)
  | cons piece pieces inductionHypothesis =>
      rw [List.forall_mem_cons, ← readLine_iff parsed, readLines]
      cases read : readLine depth piece parsed with
      | error text =>
          apply iff_of_false
          · rintro ⟨result, isResult⟩
            cases isResult
          · rintro ⟨⟨result, isResult⟩, -⟩
            cases isResult
      | ok next =>
          dsimp only
          rw [inductionHypothesis next]
          exact (and_iff_right ⟨next, rfl⟩).symm

theorem readLines_continues {pieces : List String} {parsed result : Parsed}
    (read : readLines depth pieces parsed = .ok result) :
    Continues parsed (objectsOf depth pieces) result := by
  induction pieces generalizing parsed with
  | nil =>
      cases read
      exact .refl _
  | cons piece pieces inductionHypothesis =>
      rw [readLines] at read
      cases first : readLine depth piece parsed with
      | error text =>
          rw [first] at read
          cases read
      | ok next =>
          rw [first] at read
          change Continues parsed (objectsOf depth ([piece] ++ pieces)) result
          rw [objectsOf_append]
          exact (readLine_continues first).trans (inductionHypothesis read)

theorem Continues.tells {events : List Dict} {result : Parsed}
    (continues : Continues {} events result) : Tells events result where
  text := by
    rw [continues.text, lastOf]
    cases (events.filterMap agentText?).getLast? <;> rfl
  usage := by
    rw [continues.usage, lastOf]
    cases (events.filterMap usage?).getLast? <;> rfl
  error := by
    rw [continues.error]
    simp

theorem Tells.iff_tellSame {left right : List Dict} {parsed : Parsed} (tells : Tells left parsed) :
    Tells right parsed ↔ TellSame left right := by
  constructor
  · intro own
    exact ⟨tells.text.symm.trans own.text, tells.usage.symm.trans own.usage,
      tells.error.symm.trans own.error⟩
  · intro same
    exact ⟨tells.text.trans same.text, tells.usage.trans same.usage,
      tells.error.trans same.error⟩

/-! ## Lines and pieces -/

theorem newline_notMem_text (value : Json) : '\n' ∉ value.text := by
  intro member
  exact absurd ((writesStrings_text value).noControl _ member) (by decide)

theorem JsonlLine.oneLine (line : JsonlLine depth) : '\n' ∉ line.text := by
  cases line with
  | event line => exact newline_notMem_text _
  | other line => exact line.oneLine

/-- `splitlines` cuts each line of a stream by itself. -/
theorem splitLines_rawText (lines : List (JsonlLine depth)) :
    splitLines (rawText lines) = lines.flatMap JsonlLine.pieces := by
  unfold splitLines rawText
  rw [String.toList_ofList]
  induction lines with
  | nil => rfl
  | cons line lines inductionHypothesis =>
      have fresh : false = true → ([] : List Char) = [] := fun _ => rfl
      rw [List.flatMap_cons, List.flatMap_cons, List.append_assoc, List.singleton_append,
        splitFrom_newline line.oneLine _ fresh, List.map_append, inductionHypothesis]
      rfl

/-- A line that no character splits is one piece. -/
theorem pieces_of_unbroken {line : JsonlLine depth}
    (unbroken : ∀ char ∈ line.text, isLineBreak char = false) :
    line.pieces = [String.ofList line.text] := by
  unfold JsonlLine.pieces piecesOf
  rw [splitFrom_line unbroken (by decide)]
  rfl

theorem lineValue_dumps {value : Json} (wellFormed : value.WellFormed depth) {head : Char}
    {tail : List Char} (written : value.text = head :: tail) (noSpace : isSpace head = false) :
    lineValue depth (dumps value) = .ok (some value) := by
  have visible : strip (dumps value) ≠ "" := by
    intro empty
    have stripped := toList_strip_cons noSpace tail
    rw [← written] at stripped
    change (strip (dumps value)).toList = _ at stripped
    rw [empty] at stripped
    cases stripped
  unfold lineValue
  rw [if_neg visible, loads_dumps wellFormed]

/-- The objects among the pieces of a line. -/
theorem objectsOf_pieces (line : JsonlLine depth) :
    objectsOf depth line.pieces = leftOf line := by
  cases line with
  | other line => rfl
  | event line =>
      cases broken : (Json.dict line.event).text.any isLineBreak with
      | true => simp only [leftOf, broken, if_true]
      | false =>
          have unbroken : ∀ char ∈ (JsonlLine.event line).text, isLineBreak char = false := by
            intro char member
            exact Bool.eq_false_iff.mpr (List.any_eq_false.mp broken char member)
          simp only [leftOf, broken, Bool.false_eq_true, if_false]
          rw [pieces_of_unbroken unbroken]
          change objectsOf depth [dumps (.dict line.event)] = _
          unfold objectsOf
          rw [List.filterMap_cons, lineValue_dumps line.wellFormed rfl (by decide)]
          rfl

theorem objectsOf_flatMap (lines : List (JsonlLine depth)) :
    objectsOf depth (lines.flatMap JsonlLine.pieces) = lines.flatMap leftOf := by
  induction lines with
  | nil => rfl
  | cons line lines inductionHypothesis =>
      rw [List.flatMap_cons, List.flatMap_cons, objectsOf_append, objectsOf_pieces,
        inductionHypothesis]

/-- Where every piece can be read, the parser returns what is left of the lines. -/
theorem parseJsonl_tells {lines : List (JsonlLine depth)}
    (reads : ∀ piece ∈ lines.flatMap JsonlLine.pieces, LineReads depth piece) :
    ∃ parsed, parseJsonl depth (rawText lines) = .ok parsed ∧
      Tells (lines.flatMap leftOf) parsed := by
  obtain ⟨parsed, read⟩ := (readLines_iff {}).mpr reads
  have tells := (readLines_continues read).tells
  rw [objectsOf_flatMap] at tells
  refine ⟨parsed, ?_, tells⟩
  unfold parseJsonl
  rw [splitLines_rawText, read]

section Keeping

variable {read : Dict → Option (Option Json)}

theorem lastOf_append (left right : List Dict) :
    lastOf read (left ++ right) = ((right.filterMap read).getLast?).getD (lastOf read left) := by
  unfold lastOf
  rw [List.filterMap_append, List.getLast?_append]
  cases (right.filterMap read).getLast? <;> rfl

theorem lastOf_leftOf_concat (front : List (JsonlLine depth)) (line : JsonlLine depth) :
    lastOf read ((front ++ [line]).flatMap leftOf) =
      (leftToTell read line).getD (lastOf read (front.flatMap leftOf)) := by
  rw [List.flatMap_append, List.flatMap_singleton, lastOf_append]
  rfl

theorem lastOf_eventsOf_concat (front : List (JsonlLine depth)) (line : JsonlLine depth) :
    lastOf read (eventsOf (front ++ [line])) =
      (toldBy read line).getD (lastOf read (eventsOf front)) := by
  unfold eventsOf toldBy
  rw [List.filterMap_append, lastOf_append]
  cases isEvent : line.event? with
  | none => simp [isEvent]
  | some event =>
      cases told : read event with
      | none => simp [isEvent, told]
      | some value => simp [isEvent, told]

/-- The last line decides, unless it tells nothing. -/
theorem lastKept_concat (front : List (JsonlLine depth)) (line : JsonlLine depth) :
    LastKept read (front ++ [line]) ↔
      (toldBy read line = leftToTell read line ∨
        (leftToTell read line = none ∧
          toldBy read line = some (lastOf read (front.flatMap leftOf))) ∨
        (toldBy read line = none ∧
          leftToTell read line = some (lastOf read (eventsOf front)))) ∧
      (toldBy read line = none → leftToTell read line = none → LastKept read front) := by
  constructor
  · intro kept
    refine ⟨kept front line [] rfl (List.forall_mem_nil _), ?_⟩
    intro notTold notLeft earlier own later split silent
    apply kept earlier own (later ++ [line])
    · rw [split, List.append_assoc, List.cons_append]
    · exact List.forall_mem_append.mpr
        ⟨silent, List.forall_mem_singleton.mpr ⟨notTold, notLeft⟩⟩
  · rintro ⟨own, others⟩ earlier last later split silent
    rcases List.eq_nil_or_concat later with rfl | ⟨later, final, rfl⟩
    · obtain ⟨rfl, same⟩ := List.append_inj' split rfl
      cases same
      exact own
    · rw [List.concat_eq_append] at split silent
      rw [← List.cons_append, ← List.append_assoc] at split
      obtain ⟨isFront, same⟩ := List.append_inj' split rfl
      cases same
      rw [List.forall_mem_append, List.forall_mem_singleton] at silent
      exact others silent.2.1 silent.2.2 earlier last later isFront silent.1

/-- What is left tells last what the events tell last, exactly if the last line
that tells is kept. -/
theorem lastOf_leftOf_iff (lines : List (JsonlLine depth)) :
    lastOf read (lines.flatMap leftOf) = lastOf read (eventsOf lines) ↔ LastKept read lines := by
  induction lines using List.reverseRecOn with
  | nil =>
      apply iff_of_true rfl
      intro front line back split
      exact absurd split.symm (by simp)
  | append_singleton front line inductionHypothesis =>
      rw [lastOf_leftOf_concat, lastOf_eventsOf_concat, lastKept_concat, ← inductionHypothesis]
      cases toldBy read line with
      | none =>
          cases leftToTell read line with
          | none => simp
          | some found => simp
      | some told =>
          cases leftToTell read line with
          | none => simp [eq_comm]
          | some found => simp [eq_comm]

end Keeping

theorem tellSame_iff (lines : List (JsonlLine depth)) :
    TellSame (lines.flatMap leftOf) (eventsOf lines) ↔ HarmlesslySplit lines := by
  have failure : (∃ event ∈ lines.flatMap leftOf, fails event = true) ↔
      ∃ line ∈ lines, ∃ event ∈ leftOf line, fails event = true := by
    simp only [List.mem_flatMap]
    constructor
    · rintro ⟨event, ⟨line, member, inLine⟩, failed⟩
      exact ⟨line, member, event, inLine, failed⟩
    · rintro ⟨line, member, event, inLine, failed⟩
      exact ⟨event, ⟨line, member, inLine⟩, failed⟩
  constructor
  · rintro ⟨text, usage, error⟩
    exact ⟨(lastOf_leftOf_iff lines).mp text, (lastOf_leftOf_iff lines).mp usage,
      failure.symm.trans error⟩
  · rintro ⟨text, usage, error⟩
    exact ⟨(lastOf_leftOf_iff lines).mpr text, (lastOf_leftOf_iff lines).mpr usage,
      failure.trans error⟩

/-- Readable events without a line break, between lines without a JSON value, are
recovered. -/
theorem recovers_of_whole {lines : List (JsonlLine depth)}
    (events : ∀ line, .event line ∈ lines → Readable (.dict line.event) ∧
      ∀ char ∈ (Json.dict line.event).text, isLineBreak char = false)
    (others : ∀ line, .other line ∈ lines →
      ∀ piece ∈ piecesOf line.text, lineValue depth piece = .ok none) :
    Recovers lines := by
  have each : ∀ line ∈ lines, (∀ piece ∈ line.pieces, LineReads depth piece) ∧
      leftOf line = line.event?.toList := by
    intro line member
    cases line with
    | event line =>
        obtain ⟨readable, unbroken⟩ := events line member
        have whole : (JsonlLine.event line).pieces = [dumps (.dict line.event)] :=
          pieces_of_unbroken unbroken
        have value := lineValue_dumps line.wellFormed rfl (by decide)
        constructor
        · rw [whole, List.forall_mem_singleton]
          refine ⟨_, value, ?_⟩
          intro own isOwn
          cases isOwn
          exact readable
        · rw [← objectsOf_pieces, whole, objectsOf, List.filterMap_cons, value]
          rfl
    | other line =>
        have none := others line member
        constructor
        · intro piece inLine
          refine ⟨_, none piece inLine, ?_⟩
          intro own isOwn
          cases isOwn
        · rw [← objectsOf_pieces, objectsOf]
          apply List.filterMap_eq_nil_iff.mpr
          intro piece inLine
          rw [none piece inLine]
  have left : lines.flatMap leftOf = eventsOf lines := by
    rw [eventsOf, List.filterMap_eq_flatMap_toList]
    exact List.flatMap_congr fun line member => (each line member).2
  have reads : ∀ piece ∈ lines.flatMap JsonlLine.pieces, LineReads depth piece := by
    intro piece member
    obtain ⟨line, inLines, inLine⟩ := List.mem_flatMap.mp member
    exact (each line inLines).1 piece inLine
  obtain ⟨parsed, read, tells⟩ := parseJsonl_tells reads
  exact ⟨parsed, read, left ▸ tells⟩

/-- The parser recovers a stream exactly if on every piece `splitlines` makes of a
line `json.loads` raises nothing but its decode error and returns only objects the
parser can read, and the last lines that tell something are kept. -/
theorem recovers_iff (lines : List (JsonlLine depth)) :
    Recovers lines ↔
      (∀ line ∈ lines, ∀ piece ∈ line.pieces, LineReads depth piece) ∧ HarmlesslySplit lines := by
  have each : (∀ line ∈ lines, ∀ piece ∈ line.pieces, LineReads depth piece) ↔
      ∀ piece ∈ lines.flatMap JsonlLine.pieces, LineReads depth piece := by
    simp only [List.mem_flatMap, forall_exists_index, and_imp]
    exact ⟨fun own piece line member inLine => own line member piece inLine,
      fun own line member piece inLine => own piece line member inLine⟩
  rw [each, ← tellSame_iff]
  constructor
  · rintro ⟨parsed, read, tells⟩
    have reads : ∀ piece ∈ lines.flatMap JsonlLine.pieces, LineReads depth piece := by
      unfold parseJsonl at read
      rw [splitLines_rawText] at read
      exact (readLines_iff {}).mp ⟨parsed, read⟩
    obtain ⟨other, isOther, left⟩ := parseJsonl_tells reads
    cases isOther.symm.trans read
    exact ⟨reads, left.iff_tellSame.mp tells⟩
  · rintro ⟨reads, same⟩
    obtain ⟨parsed, read, left⟩ := parseJsonl_tells reads
    exact ⟨parsed, read, left.iff_tellSame.mpr same⟩

/-! ## Streams that are not recovered -/

/-- The number 42 as a line: it is one piece, and no object. -/
theorem pieces_number : piecesOf (Json.int 42).text = [dumps (.int 42)] := by
  unfold piecesOf
  rw [splitFrom_line (forall_mem_of_all (by decide)) (by decide)]
  rfl

theorem loads_number : loads 2 (dumps (.int 42)) = .ok (.int 42) :=
  loads_dumps (.int (by decide))

/-- A line that holds the number 42. -/
def numberLine : JsonlLine 2 :=
  .other ⟨(Json.int 42).text, newline_notMem_text _, by
    intro fields
    change loads 2 (dumps (.int 42)) ≠ _
    rw [loads_number]
    rintro ⟨⟩, by
    rw [pieces_number, List.forall_mem_singleton, loads_number]
    rintro fields ⟨⟩⟩

/-- An agent message with a line separator in its text. -/
def separatedMessage : JsonlLine 2 :=
  .event ⟨[("type", .str "item.completed"),
      ("item", .dict [("type", .str "agent_message"), ("text", .str "done\u2028again")])], by
    refine .dict (by decide) (List.forall_mem_cons.mpr ⟨.str _, List.forall_mem_cons.mpr ⟨?_,
      List.forall_mem_nil _⟩⟩)
    exact .dict (by decide) (List.forall_mem_cons.mpr ⟨.str _, List.forall_mem_cons.mpr ⟨.str _,
      List.forall_mem_nil _⟩⟩)⟩

theorem parseJsonl_numberLine :
    parseJsonl 2 (rawText [numberLine]) = .error "'int' object has no attribute 'get'" := by
  have value : lineValue 2 (dumps (.int 42)) = .ok (some (.int 42)) :=
    lineValue_dumps (.int (by decide)) rfl (by decide)
  have whole : numberLine.pieces = [dumps (.int 42)] := pieces_number
  unfold parseJsonl
  rw [splitLines_rawText, List.flatMap_singleton, whole, readLines, readLine, value]
  rfl

/-- None of the two pieces of the message is a JSON value. -/
theorem objectsOf_separatedMessage : objectsOf 2 separatedMessage.pieces = [] := by
  have noValue : separatedMessage.pieces.all (fun piece =>
      match lineValue 2 piece with
      | .ok none => true
      | _ => false) = true := by
    decide +kernel
  unfold objectsOf
  rw [List.filterMap_eq_nil_iff]
  intro piece member
  have own := List.all_eq_true.mp noValue piece member
  split at own
  · rename_i isNone
    rw [isNone]
  · cases own

/-- The parser raises at a line that holds a number, and does not see an agent
message that holds a line separator. -/
theorem streams_not_recovered :
    parseJsonl 2 (rawText [numberLine]) = .error "'int' object has no attribute 'get'" ∧
      ¬ Recovers [numberLine] ∧
      (∀ parsed, parseJsonl 2 (rawText [separatedMessage]) = .ok parsed → parsed.text = none) ∧
      lastOf agentText? (eventsOf [separatedMessage]) = some (.str "done\u2028again") ∧
      ¬ Recovers [separatedMessage] := by
  have unseen : ∀ parsed, parseJsonl 2 (rawText [separatedMessage]) = .ok parsed →
      parsed.text = none := by
    intro parsed read
    unfold parseJsonl at read
    rw [splitLines_rawText, List.flatMap_singleton] at read
    have continues := readLines_continues read
    rw [objectsOf_separatedMessage] at continues
    exact continues.text
  have told : lastOf agentText? (eventsOf [separatedMessage]) =
      some (.str "done\u2028again") := by
    simp [lastOf, eventsOf, separatedMessage, JsonlLine.event?, agentText?, hasKind, Dict.get?,
      Json.isText, orNone, Json.truthy]
  refine ⟨parseJsonl_numberLine, ?_, unseen, told, ?_⟩
  · rintro ⟨parsed, read, -⟩
    rw [parseJsonl_numberLine] at read
    cases read
  · rintro ⟨parsed, read, tells⟩
    have noText := tells.text
    rw [unseen parsed read, told] at noText
    cases noText

end AutoRouteGateway.Executors
