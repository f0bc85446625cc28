import AutoRouteGateway.Runtime.JsonScan
import AutoRouteGateway.Runtime.Lines
import AutoRouteGateway.Service.Gateway

/-!
Contract: the error responses and the event stream of the OpenAI-compatible
adapter.

Owns: the exception made of an error response, the events made of the lines of a
response, one line at a time, and what becomes of a `data:` line that holds a
whole object or only the front of one.

Does not own: the HTTP client, which hands over the lines.
-/

namespace AutoRouteGateway.Providers

open AutoRouteGateway.Runtime
open AutoRouteGateway.Service

/-- `_classify_http_error`: the names of the headers in lower case. -/
def classifyHttpError (status : Int) (text : String) (headers : List (String × String)) :
    UpstreamException :=
  .http status text (headers.map fun header => (lower header.1, header.2))

/-- The event that carries data. -/
def dataEvent (data : Json) : Event := [("data", data)]

/-- The event that ends a stream. -/
def doneEvent : Event := dataEvent (.str "[DONE]")

section Stream

variable (codec : JsonCodec)

/-- `{"data": json.loads(data)}`, or the text itself if it is no JSON; any other
exception of the codec leaves as its text. -/
def sseData (data : String) : Except String Event :=
  if data = "[DONE]" then .ok doneEvent
  else
    match codec.loads data with
    | .ok value => .ok (dataEvent value)
    | .error .decode => .ok (dataEvent (.str data))
    | .error (.other text) => .error text

/-- The event of one line; blank lines and comments have none. -/
def sseLine (line : String) : Except String (Option Event) :=
  let line := strip line
  if line = "" then .ok none
  else if (afterPrefix ":" line).isSome then .ok none
  else
    match afterPrefix "data:" line with
    | some data => (sseData codec (strip data)).map some
    | none =>
        match afterPrefix "event:" line with
        | some name => .ok (some [("event", .str (strip name))])
        | none => .ok (some [("raw", .str line)])

/-- `_iter_sse_events`, with how the lines end. -/
def iterSseEvents (ending : Option UpstreamException) : List String → UpstreamStream
  | [] => ⟨[], ending⟩
  | line :: rest =>
      match sseLine codec line with
      | .error text => ⟨[], some (.other text)⟩
      | .ok event =>
          let later := iterSseEvents ending rest
          { later with events := event.toList ++ later.events }

/-- The lines end as they do unless one of them raises before. -/
theorem iterSseEvents_ending (ending : Option UpstreamException) (lines : List String) :
    iterSseEvents codec ending lines =
      ⟨(iterSseEvents codec none lines).events,
        (iterSseEvents codec none lines).ending.or ending⟩ := by
  induction lines with
  | nil => rfl
  | cons line rest inductionHypothesis =>
      unfold iterSseEvents
      cases sseLine codec line with
      | error text => rfl
      | ok event =>
          dsimp only
          rw [inductionHypothesis]

end Stream

/-! ## `data:` lines -/

/-- No escape in the data that is read from the line stands for half of a
surrogate pair. -/
def PairedLine (depth : Nat) (line : String) : Prop :=
  ∀ data, afterPrefix "data:" (strip line) = some data → strip data ≠ "[DONE]" →
    Paired depth (strip data)

/-- The parts of a line that starts with `data: {`. -/
theorem strip_object (tail : List Char) :
    strip (String.ofList ("data: ".toList ++ '{' :: tail)) =
        String.ofList ("data: ".toList ++ '{' :: dropEndWhile isSpace tail) ∧
      afterPrefix "data:" (String.ofList ("data: ".toList ++ '{' :: dropEndWhile isSpace tail)) =
        some (String.ofList (' ' :: '{' :: dropEndWhile isSpace tail)) ∧
      strip (String.ofList (' ' :: '{' :: dropEndWhile isSpace tail)) =
        String.ofList ('{' :: dropEndWhile isSpace tail) := by
  refine ⟨?_, ?_, ?_⟩
  · apply String.toList_inj.mp
    change (strip (String.ofList ('d' :: (['a', 't', 'a', ':', ' '] ++ '{' :: tail)))).toList = _
    rw [toList_strip_cons (by decide), dropEndWhile_append_cons _ (by decide), String.toList_ofList]
    rfl
  · rw [afterPrefix_ofList]
    rfl
  · apply String.toList_inj.mp
    have skipped : strip (String.ofList (' ' :: '{' :: dropEndWhile isSpace tail)) =
        strip (String.ofList ('{' :: dropEndWhile isSpace tail)) := by
      unfold strip
      rw [String.toList_ofList, String.toList_ofList]
      rfl
    rw [skipped, toList_strip_cons (by decide), dropEndWhile_dropEndWhile, String.toList_ofList]

variable {codec : JsonCodec}

/-- A line that starts with `data: {` is read as data from the brace on. -/
theorem sseLine_object (tail : List Char) :
    sseLine codec (String.ofList ("data: ".toList ++ '{' :: tail)) =
      (sseData codec (String.ofList ('{' :: dropEndWhile isSpace tail))).map some := by
  obtain ⟨stripped, isData, data⟩ := strip_object tail
  have noComment : afterPrefix ":" (String.ofList ("data: ".toList ++
      '{' :: dropEndWhile isSpace tail)) = none := by
    rw [afterPrefix_ofList]
    rfl
  have nonempty : String.ofList ("data: ".toList ++ '{' :: dropEndWhile isSpace tail) ≠ "" := by
    intro empty
    have chars := congrArg String.toList empty
    rw [String.toList_ofList] at chars
    cases chars
  unfold sseLine
  rw [stripped]
  dsimp only
  rw [if_neg nonempty, noComment, if_neg (by simp), isData]
  dsimp only
  rw [data]

/-- Such a line has an event, if it is read. -/
theorem sseLine_object_ne_none (codec : JsonCodec) (tail : List Char) :
    sseLine codec (String.ofList ("data: ".toList ++ '{' :: tail)) ≠ .ok none := by
  rw [sseLine_object]
  intro same
  cases event : sseData codec (String.ofList ('{' :: dropEndWhile isSpace tail)) with
  | error text =>
      rw [event] at same
      cases same
  | ok found =>
      rw [event] at same
      cases same

theorem membersText_last (fields : Dict) : ∃ body, Json.membersText fields = body ++ ['}'] := by
  induction fields with
  | nil => exact ⟨[], rfl⟩
  | cons field others inductionHypothesis =>
      obtain ⟨name, value⟩ := field
      cases others with
      | nil =>
          refine ⟨stringText name ++ ':' :: ' ' :: value.text, ?_⟩
          simp only [Json.membersText, List.append_assoc, List.cons_append]
      | cons next others =>
          obtain ⟨body, isBody⟩ := inductionHypothesis
          refine ⟨stringText name ++ ':' :: ' ' :: (value.text ++ ',' :: ' ' :: body), ?_⟩
          simp only [Json.membersText, isBody, List.append_assoc, List.cons_append]

theorem ofList_brace_ne_done (tail : List Char) : String.ofList ('{' :: tail) ≠ "[DONE]" := by
  intro same
  have heads := congrArg (fun text => text.toList.head?) same
  have bracket : "[DONE]".toList.head? = some '[' := by decide
  rw [String.toList_ofList, List.head?_cons, bracket] at heads
  exact absurd (Option.some.inj heads) (by decide)

variable {depth : Nat}

/-- The text of an object has nothing to be stripped of. -/
theorem text_dict (fields : Dict) : (Json.dict fields).text = '{' :: Json.membersText fields ∧
    dropEndWhile isSpace (Json.membersText fields) = Json.membersText fields := by
  obtain ⟨body, isBody⟩ := membersText_last fields
  refine ⟨by rw [Json.text], ?_⟩
  rw [isBody, dropEndWhile_append_cons body (by decide)]
  rfl

/-- A line with the whole text of an object is read as the object. -/
theorem sseLine_whole {fields : Dict} (wellFormed : (Json.dict fields).WellFormed depth) :
    sseLine (jsonCodec depth) (String.ofList ("data: ".toList ++ (Json.dict fields).text)) =
      .ok (some (dataEvent (.dict fields))) := by
  obtain ⟨isText, kept⟩ := text_dict fields
  have read : (jsonCodec depth).loads (String.ofList ('{' :: Json.membersText fields)) =
      .ok (.dict fields) := by
    rw [← isText]
    exact loads_dumps wellFormed
  rw [isText, sseLine_object, kept, sseData, if_neg (ofList_brace_ne_done _), read]
  rfl

theorem pairedLine_whole {fields : Dict} (wellFormed : (Json.dict fields).WellFormed depth) :
    PairedLine depth (String.ofList ("data: ".toList ++ (Json.dict fields).text)) := by
  obtain ⟨isText, kept⟩ := text_dict fields
  obtain ⟨stripped, isData, data⟩ := strip_object (Json.membersText fields)
  intro own isOwn _
  rw [isText, stripped, isData] at isOwn
  rw [← Option.some.inj isOwn, data, kept, ← isText]
  exact paired_dumps wellFormed

/-- A line with the front of an object's text, cut at a character beyond ASCII,
is not read as an object: the front leaves a string open. -/
theorem sseLine_front {fields : Dict} {front back : List Char} {char : Char}
    (cut : Json.membersText fields = front ++ char :: back) (wide : Wide char) (own : Dict) :
    sseLine (jsonCodec depth) (String.ofList ("data: ".toList ++ '{' :: front)) ≠
      .ok (some (dataEvent (.dict own))) := by
  have guarded := (closed_text (.dict fields)).guarded
  rw [Json.text, cut] at guarded
  rw [← List.cons_append] at guarded
  have stillOpen : scan .outside ('{' :: front) ≠ .outside := guarded.open_before wide
  have unread : ∀ value,
      loads depth (String.ofList ('{' :: dropEndWhile isSpace front)) ≠ .ok value := by
    intro value read
    have closed := scan_of_loads read
    rw [String.toList_ofList] at closed
    obtain ⟨dropped, parts, spaces⟩ := dropEndWhile_parts isSpace front
    have noQuote : '"' ∉ dropped := by
      intro member
      exact absurd (spaces _ member) (by decide)
    apply stillOpen
    rw [parts, ← List.cons_append, scan_append, closed, scan_outside_of_noQuote noQuote]
  rw [sseLine_object, sseData, if_neg (ofList_brace_ne_done _)]
  cases read : (jsonCodec depth).loads (String.ofList ('{' :: dropEndWhile isSpace front)) with
  | ok value => exact absurd read (unread value)
  | error error =>
      cases error with
      | decode =>
          intro same
          cases same
      | other text =>
          intro same
          cases same

/-- The end marker is read without the codec. -/
theorem sseLine_done (codec : JsonCodec) : sseLine codec "data: [DONE]" = .ok (some doneEvent) :=
  rfl

example (codec : JsonCodec) : sseLine codec "" = .ok none := rfl

end AutoRouteGateway.Providers
