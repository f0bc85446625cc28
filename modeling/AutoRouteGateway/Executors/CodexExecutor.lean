import AutoRouteGateway.Executors.Codex
import AutoRouteGateway.Service.Gateway

/-!
Contract: `CodexExecutor.execute`, and the response made of its result.

The exit code of the child may be zero although the task was refused, so the
events decide: a task succeeded if its last agent message is not empty and no
event tells of a failure.

Owns: the prompt, the result, the response, and that the events alone decide
whether there is one.

Does not own: the child process with its environment and the clock. What Python
makes of values other than texts and integers is a parameter.
-/

namespace AutoRouteGateway.Executors

open AutoRouteGateway.Runtime
open AutoRouteGateway.Service

/-- How deeply values may nest for `json.loads`, `str(value)`, `int(value)`,
`left + right` and whether `value[:60]` raises. -/
structure HostValues where
  depth : Nat
  str : Json → String
  str_text : ∀ text, str (.str text) = text
  int : Json → Except String Int
  int_int : ∀ value, int (.int value) = .ok value
  add : Json → Json → Except String Json
  add_int : ∀ left right, add (.int left) (.int right) = .ok (.int (left + right))
  head : Json → Except String Unit
  head_text : ∀ text, head (.str text) = .ok ()

/-! ## The prompt -/

/-- What one part of a content adds to the prompt; an image is only mentioned. -/
def partText? : Json → Option Json
  | .dict part =>
      if hasKind "text" part && Json.truthyField "text" part then Dict.get? "text" part
      else if hasKind "image_url" part then some (.str "[image]")
      else none
  | _ => none

def contentTexts : Option Json → List Json
  | some (.str text) => [.str text]
  | some (.list parts) => parts.filterMap partText?
  | _ => []

/-- The items `join` is given, which have to be texts. -/
def joinedItems : (position : Nat) → List Json → Except String (List String)
  | _, [] => .ok []
  | position, .str text :: rest => (joinedItems (position + 1) rest).map (text :: ·)
  | position, other :: _ =>
      .error ("sequence item " ++ toString position ++ ": expected str instance, " ++
        other.typeName ++ " found")

def promptFromTask (task : Dict) : Except String String := do
  let messages ← (messagesOf task).elements
  let texts ← messages.mapM fun message => (getField "content" message).map contentTexts
  let items ← joinedItems 0 texts.flatten
  return strip ("\n".intercalate items)

/-! ## The result -/

/-- What became of the child process. -/
inductive ChildRun where
  | timedOut
  | notInstalled
  | raised (exception : UpstreamException)
  | exited (code : Int) (stdout stderr : String)

def failedResult (errorClass : String) (message : Json) (rest : Dict) : Dict :=
  [("ok", .bool false), ("error_class", .str errorClass), ("message", message)] ++ rest

/-- The usage of a task whose events tell none. -/
def zeroUsage : Json :=
  .dict [("prompt_tokens", .int 0), ("completion_tokens", .int 0), ("total_tokens", .int 0)]

section Execution

variable (host : HostValues) (latency : Int)

/-- The result of a child that ran to its end. What the parser returns is `None`
or truthy; the head of the text is taken for a log line. -/
def judged (code : Int) (stderr : String) (parsed : Parsed) : Except String Dict := do
  host.head (parsed.text.getD (.str ""))
  let told : Dict := [("latency_ms", .int latency), ("usage", parsed.usage.getD .null)]
  if parsed.error.isSome || (code != 0 && parsed.text.isNone) then
    let report := if stderr = "" then "codex exit " ++ toString code else stderr
    return failedResult "upstream" (parsed.error.getD (.str (truncate 300 report))) told
  match parsed.text with
  | none => return failedResult "server" (.str "codex exec produced no agent message") told
  | some text =>
      return [("ok", .bool true), ("text", text), ("usage", parsed.usage.getD zeroUsage),
        ("latency_ms", .int latency), ("model", .str "codex/gpt")]

/-- `execute`; `child` is what becomes of the process that is given the prompt. -/
def execute (enabled : Bool) (child : String → ChildRun) (task : Dict) :
    Except UpstreamException Dict :=
  if enabled = false then .error (.adapter "Codex executor is disabled (§18)")
  else
    match promptFromTask task with
    | .error text => .error (.other text)
    | .ok prompt =>
        if prompt = "" then .ok (failedResult "invalid_request" (.str "empty prompt") [])
        else
          match child prompt with
          | .timedOut =>
              .ok (failedResult "timeout" (.str "codex exec timed out after 180.0s")
                [("latency_ms", .int latency)])
          | .notInstalled => .ok (failedResult "server" (.str "codex CLI not installed") [])
          | .raised exception => .error exception
          | .exited code stdout stderr =>
              match parseJsonl host.depth stdout with
              | .error text => .error (.other text)
              | .ok parsed => (judged host latency code stderr parsed).mapError .other

end Execution

/-! ## The response -/

/-- `usage.get(own) or usage.get(other) or 0`. -/
def tokens (usage : Json) (own other : String) : Except String Json := do
  match orNone (← getField own usage) with
  | some count => return count
  | none => return (orNone (← getField other usage)).getD (.int 0)

def responseBody (virtualModel : String) (created : Int) (text latency : Json)
    (prompt completion total : Int) : Dict :=
  [("id", .str "chatcmpl-codex"), ("object", .str "chat.completion"), ("created", .int created),
    ("model", .str virtualModel),
    ("choices", .list [.dict [("index", .int 0),
      ("message", .dict [("role", .str "assistant"), ("content", text)]),
      ("finish_reason", .str "stop")]]),
    ("usage", .dict [("prompt_tokens", .int prompt), ("completion_tokens", .int completion),
      ("total_tokens", .int total)]),
    ("x_executor", .str "codex-cli"), ("x_latency_ms", latency)]

section Response

variable (host : HostValues) (virtualModel : String) (created : Int)

def chatResponseFromExecutor (result : Dict) : Except String Dict := do
  let usage := (orNone (Dict.get? "usage" result)).getD (.dict [])
  let prompt ← host.int (← tokens usage "input_tokens" "prompt_tokens")
  let completion ← host.int (← tokens usage "output_tokens" "completion_tokens")
  let total ← host.int (← host.add (← tokens usage "input_tokens" "prompt_tokens")
    (← tokens usage "output_tokens" "completion_tokens"))
  return responseBody virtualModel created ((Dict.get? "text" result).getD (.str ""))
    ((Dict.get? "latency_ms" result).getD .null) prompt completion total

/-- The branch of `attempt` on a cli candidate, from the result of `execute` on. -/
def executorReply : Except UpstreamException Dict → ExecutorReply
  | .error exception => .raised exception
  | .ok result =>
      if Json.truthyField "ok" result = false then
        .refused ((Dict.get? "message" result).map host.str)
      else
        match chatResponseFromExecutor host virtualModel created result with
        | .error text => .unreadable text
        | .ok response => .completed response

/-- What `attempt` gets from the executor the service has built. -/
def codexReply (latency : Int) (child : String → ChildRun) (task : Dict) : ExecutorReply :=
  executorReply host virtualModel created (execute host latency true child task)

end Response

/-! ## Counting tokens -/

/-- An object whose counts are integers or null. -/
def CountsTokens (usage : Json) : Prop :=
  ∃ fields, usage = .dict fields ∧
    ∀ key ∈ ["input_tokens", "prompt_tokens", "output_tokens", "completion_tokens"],
      ∀ value, Dict.get? key fields = some value → value = .null ∨ ∃ count, value = .int count

/-- The count that was looked up, zero if there is none. -/
def countOf : Option Json → Int
  | some (.int count) => count
  | _ => 0

def countUnder (key : String) : Json → Int
  | .dict fields => countOf (Dict.get? key fields)
  | _ => 0

/-- The count under the first of two names that is not zero. -/
def tokenCount (usage : Json) (own other : String) : Int :=
  if countUnder own usage = 0 then countUnder other usage else countUnder own usage

section Counting

variable {usage : Json} {own other key : String}

theorem orNone_count {value : Option Json}
    (integer : ∀ own, value = some own → own = .null ∨ ∃ count, own = .int count) :
    orNone value = if countOf value = 0 then none else some (.int (countOf value)) := by
  cases value with
  | none => rfl
  | some own =>
      obtain rfl | ⟨count, rfl⟩ := integer own rfl
      · rfl
      · unfold countOf
        dsimp only
        split_ifs with zero
        · rw [zero]
          rfl
        · exact Option.filter_some_pos (bne_iff_ne.mpr zero)

theorem getField_counts (counts : CountsTokens usage)
    (listed : key ∈ ["input_tokens", "prompt_tokens", "output_tokens", "completion_tokens"]) :
    ∃ value, getField key usage = .ok value ∧
      orNone value = if countUnder key usage = 0 then none
        else some (.int (countUnder key usage)) := by
  obtain ⟨fields, rfl, integers⟩ := counts
  exact ⟨Dict.get? key fields, rfl, orNone_count (integers key listed)⟩

theorem tokens_eq (counts : CountsTokens usage)
    (isOwn : own ∈ ["input_tokens", "prompt_tokens", "output_tokens", "completion_tokens"])
    (isOther : other ∈ ["input_tokens", "prompt_tokens", "output_tokens", "completion_tokens"]) :
    tokens usage own other = .ok (.int (tokenCount usage own other)) := by
  obtain ⟨first, isFirst, ownCount⟩ := getField_counts counts isOwn
  obtain ⟨second, isSecond, otherCount⟩ := getField_counts counts isOther
  unfold tokens tokenCount
  rw [isFirst]
  change (match orNone first with
    | some count => Except.ok count
    | none => _) = _
  rw [ownCount]
  by_cases noOwn : countUnder own usage = 0
  · rw [if_pos noOwn, if_pos noOwn, isSecond]
    change Except.ok ((orNone second).getD (.int 0)) = _
    rw [otherCount]
    by_cases noOther : countUnder other usage = 0
    · rw [if_pos noOther, noOther]
      rfl
    · rw [if_neg noOther]
      rfl
  · rw [if_neg noOwn, if_neg noOwn]

/-- The response of a result whose usage counts tokens; the total is their sum. -/
theorem chatResponseFromExecutor_eq (host : HostValues) (virtualModel : String)
    (created latency : Int) (text : Json) (counts : CountsTokens usage) :
    chatResponseFromExecutor host virtualModel created
        [("ok", .bool true), ("text", text), ("usage", usage), ("latency_ms", .int latency),
          ("model", .str "codex/gpt")] =
      .ok (responseBody virtualModel created text (.int latency)
        (tokenCount usage "input_tokens" "prompt_tokens")
        (tokenCount usage "output_tokens" "completion_tokens")
        (tokenCount usage "input_tokens" "prompt_tokens" +
          tokenCount usage "output_tokens" "completion_tokens")) := by
  obtain ⟨fields, isDict, -⟩ := id counts
  have own : (orNone (some usage)).getD (.dict []) = usage := by
    rw [isDict]
    cases fields with
    | nil => rfl
    | cons field rest => rfl
  have prompt : tokens usage "input_tokens" "prompt_tokens" = _ :=
    tokens_eq counts (by decide) (by decide)
  have completion : tokens usage "output_tokens" "completion_tokens" = _ :=
    tokens_eq counts (by decide) (by decide)
  unfold chatResponseFromExecutor
  change (do
    let prompt ← host.int (← tokens ((orNone (some usage)).getD (.dict [])) "input_tokens"
      "prompt_tokens")
    let completion ← host.int (← tokens ((orNone (some usage)).getD (.dict [])) "output_tokens"
      "completion_tokens")
    let total ← host.int (← host.add
      (← tokens ((orNone (some usage)).getD (.dict [])) "input_tokens" "prompt_tokens")
      (← tokens ((orNone (some usage)).getD (.dict [])) "output_tokens" "completion_tokens"))
    return responseBody virtualModel created text (.int latency) prompt completion total) = _
  rw [own, prompt, completion]
  simp only [bind, Except.bind, host.int_int, host.add_int]
  rfl

end Counting

/-! ## Judging by events -/

/-- The usage that is reported for a stream. -/
def reportedUsage (events : List Dict) : Json := (lastOf usage? events).getD zeroUsage

/-- The response to a message, with what the events say of its tokens. -/
def answer (virtualModel : String) (created latency : Int) (events : List Dict)
    (message : String) : Dict :=
  let prompt := tokenCount (reportedUsage events) "input_tokens" "prompt_tokens"
  let completion := tokenCount (reportedUsage events) "output_tokens" "completion_tokens"
  responseBody virtualModel created (.str message) (.int latency) prompt completion
    (prompt + completion)

section Judging

variable (host : HostValues) (virtualModel : String) (created latency : Int)

theorem executorReply_failedResult (errorClass : String) (message : Json) (rest : Dict) :
    executorReply host virtualModel created (.ok (failedResult errorClass message rest)) =
      .refused (some (host.str message)) := rfl

/-- What is made of the parser's result, as the events tell it. -/
theorem judged_tells {events : List Dict} {parsed : Parsed} (tells : Tells events parsed)
    (texts : ∀ value, lastOf agentText? events = some value → ∃ message, value = .str message)
    (counts : CountsTokens (reportedUsage events)) (code : Int) (stderr : String)
    (response : Dict) :
    executorReply host virtualModel created
        ((judged host latency code stderr parsed).mapError .other) = .completed response ↔
      (∀ event ∈ events, fails event = false) ∧ ∃ message,
        lastOf agentText? events = some (.str message) ∧
          response = answer virtualModel created latency events message := by
  have spoken : ∀ value, parsed.text = some value → ∃ message, value = .str message := by
    intro value isText
    exact texts value (tells.text.symm.trans isText)
  have read : host.head (parsed.text.getD (.str "")) = .ok () := by
    cases isText : parsed.text with
    | none => exact host.head_text ""
    | some value =>
        obtain ⟨message, rfl⟩ := spoken value isText
        exact host.head_text message
  unfold judged
  rw [read, ← tells.text]
  cases isError : parsed.error with
  | some error =>
      apply iff_of_false
      · intro completed
        change executorReply host virtualModel created (.ok (failedResult ..)) = _ at completed
        rw [executorReply_failedResult] at completed
        cases completed
      · rintro ⟨clean, -⟩
        obtain ⟨event, member, failed⟩ := tells.error.mp (by rw [isError]; nofun)
        rw [clean event member] at failed
        cases failed
  | none =>
      have clean : ∀ event ∈ events, fails event = false := by
        intro event member
        by_contra failed
        exact tells.error.mpr ⟨event, member, Bool.eq_true_of_not_eq_false failed⟩ isError
      cases isText : parsed.text with
      | none =>
          apply iff_of_false
          · intro completed
            cases zero : code != 0 <;> rw [zero] at completed <;> cases completed
          · rintro ⟨-, message, none, -⟩
            cases none
      | some value =>
          obtain ⟨message, rfl⟩ := spoken value isText
          have usage : parsed.usage.getD zeroUsage = reportedUsage events := by
            rw [tells.usage]
            rfl
          have wrapped := chatResponseFromExecutor_eq host virtualModel created latency
            (.str message) counts
          have replied : ExecutorReply.completed (answer virtualModel created latency events
              message) = executorReply host virtualModel created
                (.ok [("ok", .bool true), ("text", .str message),
                  ("usage", reportedUsage events), ("latency_ms", .int latency),
                  ("model", .str "codex/gpt")]) := by
            unfold executorReply
            dsimp only
            rw [wrapped]
            rfl
          -- The exit code is consulted only where there is no text.
          rw [Option.isNone_some, Bool.and_false]
          change executorReply host virtualModel created
            (.ok [("ok", .bool true), ("text", .str message),
              ("usage", parsed.usage.getD zeroUsage), ("latency_ms", .int latency),
              ("model", .str "codex/gpt")]) = _ ↔ _
          rw [usage, ← replied]
          constructor
          · intro same
            cases same
            exact ⟨clean, message, rfl, rfl⟩
          · rintro ⟨-, own, isOwn, rfl⟩
            cases isOwn
            rfl

/-- Whatever the exit code and the error output: a task that reaches the child
gets a response exactly if no event of the stream tells of a failure and the last
agent message is not empty, and the response is that message. -/
theorem codex_judged_by_events {lines : List (JsonlLine host.depth)}
    (recovers : Recovers lines)
    (texts : ∀ value, lastOf agentText? (eventsOf lines) = some value →
      ∃ message, value = .str message)
    (counts : CountsTokens (reportedUsage (eventsOf lines)))
    {task : Dict} {prompt : String} (asked : promptFromTask task = .ok prompt)
    (speaks : prompt ≠ "") {child : String → ChildRun} {code : Int} {stderr : String}
    (exits : child prompt = .exited code (rawText lines) stderr) (response : Dict) :
    codexReply host virtualModel created latency child task = .completed response ↔
      (∀ event ∈ eventsOf lines, fails event = false) ∧ ∃ message,
        lastOf agentText? (eventsOf lines) = some (.str message) ∧
          response = answer virtualModel created latency (eventsOf lines) message := by
  obtain ⟨parsed, read, tells⟩ := recovers
  unfold codexReply execute
  rw [if_neg (by decide), asked]
  dsimp only
  rw [if_neg speaks, exits]
  dsimp only
  rw [read]
  exact judged_tells host virtualModel created latency tells texts counts code stderr response

end Judging

/-! ### A child that ends with an error code -/

/-- Python on texts and integers. -/
def plainHost : HostValues where
  depth := 2
  str := fun value => value.strings.headD value.typeName
  str_text := fun _ => rfl
  int := fun value => .ok (countOf (some value))
  int_int := fun _ => rfl
  add := fun left right => .ok (.int (countOf (some left) + countOf (some right)))
  add_int := fun _ _ => rfl
  head := fun _ => .ok ()
  head_text := fun _ => rfl

/-- An agent message. -/
def helloLine : JsonlLine plainHost.depth :=
  .event ⟨[("type", .str "item.completed"),
      ("item", .dict [("type", .str "agent_message"), ("text", .str "hello")])], by
    change Json.WellFormed 2 _
    refine .dict (by decide) (List.forall_mem_cons.mpr ⟨.str _, List.forall_mem_cons.mpr ⟨?_,
      List.forall_mem_nil _⟩⟩)
    exact .dict (by decide) (List.forall_mem_cons.mpr ⟨.str _, List.forall_mem_cons.mpr ⟨.str _,
      List.forall_mem_nil _⟩⟩)⟩

theorem recovers_helloLine : Recovers [helloLine] := by
  apply recovers_of_whole
  · intro line member
    cases List.mem_singleton.mp member
    refine ⟨⟨_, rfl, fun _ => ⟨_, rfl⟩, ?_⟩, forall_mem_of_all (by decide)⟩
    intro failed
    exact absurd failed (by decide)
  · intro line member
    cases List.mem_singleton.mp member

theorem lastOf_helloLine :
    lastOf agentText? (eventsOf [helloLine]) = some (.str "hello") := by
  simp [lastOf, eventsOf, helloLine, JsonlLine.event?, agentText?, hasKind, Dict.get?,
    Json.isText, orNone, Json.truthy]

/-- The child exits with 1 after its message, and the message is the answer. -/
theorem codex_answers_despite_exit_code :
    codexReply plainHost "v" 0 7 (fun _ => .exited 1 (rawText [helloLine]) "warning")
        [("messages", .list [.dict [("role", .str "user"), ("content", .str "hi")]])] =
      .completed (answer "v" 0 7 (eventsOf [helloLine]) "hello") := by
  have items : "\n".intercalate ["hi"] = "hi" := by decide
  have bare : strip "hi" = "hi" := by decide
  have asked : promptFromTask
      [("messages", .list [.dict [("role", .str "user"), ("content", .str "hi")]])] =
        .ok "hi" := by
    change Except.ok (strip ("\n".intercalate ["hi"])) = _
    rw [items, bare]
  have usage : reportedUsage (eventsOf [helloLine]) = zeroUsage := by
    simp [reportedUsage, lastOf, eventsOf, helloLine, JsonlLine.event?, usage?, hasKind, Dict.get?,
      Json.isText]
  have exits : (fun _ => .exited 1 (rawText [helloLine]) "warning" : String → ChildRun) "hi" =
      .exited 1 (rawText [helloLine]) "warning" := by
    dsimp only
  refine (codex_judged_by_events plainHost "v" 0 7 recovers_helloLine ?_ ?_ asked (by decide)
    exits _).mpr ⟨?_, "hello", lastOf_helloLine, rfl⟩
  · intro value isValue
    exact ⟨"hello", Option.some.inj (isValue.symm.trans lastOf_helloLine)⟩
  · rw [usage]
    refine ⟨_, rfl, ?_⟩
    intro key listed value found
    simp only [List.mem_cons, List.not_mem_nil, or_false] at listed
    rcases listed with rfl | rfl | rfl | rfl
    · cases found
    · cases found
      exact .inr ⟨0, rfl⟩
    · cases found
    · cases found
      exact .inr ⟨0, rfl⟩
  · intro event member
    cases List.mem_singleton.mp member
    decide

end AutoRouteGateway.Executors
