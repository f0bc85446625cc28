import AutoRouteGateway.Api.OpenAi
import AutoRouteGateway.Providers.OpenAiCompatible

/-!
Contract: the body of a streaming response, and what an OpenAI-compatible
adapter reads from it.

Owns: the text of a frame, and the exact condition under which the adapter
reads the chunks back that were written.

A line splitter takes three characters beyond ASCII for line ends that a JSON
text keeps as they are inside its strings.
-/

namespace AutoRouteGateway.Api

open AutoRouteGateway.Providers
open AutoRouteGateway.Runtime
open AutoRouteGateway.Service

/-! ## Writing -/

def errorObject (message code : String) : Json :=
  .dict [("error", .dict [("message", .str message), ("type", .str "gateway_error"),
    ("code", .str code)])]

/-- What a frame holds after `data: `. -/
def Frame.payload : Frame → List Char
  | .chunk data => (Json.dict data).text
  | .done => "[DONE]".toList
  | .error message code => (errorObject message code).text

/-- The text of a frame, up to the blank line that ends it. -/
def Frame.text (frame : Frame) : List Char :=
  "data: ".toList ++ (frame.payload ++ ['\n', '\n'])

/-- The body the frames make. -/
def bodyText (frames : List Frame) : String := String.ofList (frames.flatMap Frame.text)

/-- The frames of a stream that carries the chunks and ends well. -/
theorem frames_sse_chunks (virtualModel : String) (chunks : List Dict) :
    (sse virtualModel (.ok ()) (chunks.map fun chunk => dataEvent (.dict chunk))).frames =
      chunks.map (fun chunk => .chunk (withModel virtualModel chunk)) ++ [.done] := by
  induction chunks with
  | nil => rfl
  | cons chunk rest inductionHypothesis =>
      rw [List.map_cons, List.map_cons, List.cons_append, ← inductionHypothesis]
      rfl

/-! ## Reading -/

section Reading

variable (codec : JsonCodec) (ending : Option UpstreamException)

/-- What an adapter reads from a body, whose lines end in this way. -/
def readBody (body : String) : UpstreamStream := iterSseEvents codec ending (splitLines body)

/-- What an adapter reads from a text that starts a line. -/
def readText (chars : List Char) : UpstreamStream :=
  iterSseEvents codec ending ((splitFrom false [] chars).map String.ofList)

/-- The first line of a text, up to its break, is read first. -/
theorem readText_line {line : List Char} (unbroken : ∀ char ∈ line, isLineBreak char = false)
    {char : Char} (breaks : isLineBreak char = true) (rest : List Char) :
    readText codec ending (line ++ char :: rest) =
      iterSseEvents codec ending (String.ofList line ::
        (splitFrom (char == '\r') [] rest).map String.ofList) := by
  unfold readText
  rw [splitFrom_line unbroken breaks, List.map_cons, List.nil_append]

variable {codec ending}

/-- The first line that is read gives its event first. -/
theorem iterSseEvents_cons {line : String} {event : Option Event}
    (read : sseLine codec line = .ok event) (rest : List String) :
    iterSseEvents codec ending (line :: rest) =
      ⟨event.toList ++ (iterSseEvents codec ending rest).events,
        (iterSseEvents codec ending rest).ending⟩ := by
  rw [iterSseEvents, read]

end Reading

theorem dataMark_unbroken : ∀ char ∈ "data: ".toList, isLineBreak char = false :=
  forall_mem_of_all (by decide)

/-- A frame whose text has no break of its own is one line. -/
theorem readText_frame {codec : JsonCodec} {ending : Option UpstreamException} {frame : Frame}
    (unbroken : ∀ char ∈ frame.payload, isLineBreak char = false) {event : Event}
    (read : sseLine codec (String.ofList ("data: ".toList ++ frame.payload)) = .ok (some event))
    (rest : List Char) :
    readText codec ending (frame.text ++ rest) =
      ⟨event :: (readText codec ending rest).events, (readText codec ending rest).ending⟩ := by
  have line : ∀ char ∈ "data: ".toList ++ frame.payload, isLineBreak char = false := by
    intro char member
    rcases List.mem_append.mp member with inMark | inPayload
    · exact dataMark_unbroken char inMark
    · exact unbroken char inPayload
  have shape : frame.text ++ rest =
      ("data: ".toList ++ frame.payload) ++ '\n' :: ('\n' :: rest) := by
    simp only [Frame.text, List.append_assoc, List.cons_append, List.nil_append]
  rw [shape, readText_line codec ending line (by decide), iterSseEvents_cons read]
  rfl

/-- The end marker is one line. -/
theorem readText_done {depth : Nat} {ending : Option UpstreamException} (rest : List Char) :
    readText (jsonCodec depth) ending (Frame.done.text ++ rest) =
      ⟨doneEvent :: (readText (jsonCodec depth) ending rest).events,
        (readText (jsonCodec depth) ending rest).ending⟩ := by
  have unbroken : ∀ char ∈ Frame.done.payload, isLineBreak char = false :=
    forall_mem_of_all (by decide)
  have whole : String.ofList ("data: ".toList ++ Frame.done.payload) = "data: [DONE]" := by
    decide
  apply readText_frame unbroken
  rw [whole, sseLine_done]

/-! ## Chunks -/

/-- The characters a line splitter takes for line ends and a JSON text does not
escape: next line, line separator and paragraph separator. -/
def SplitsLine (char : Char) : Prop := char = '\u0085' ∨ char = '\u2028' ∨ char = '\u2029'

/-- No string of the object, key or value, at any depth, holds such a character. -/
def Unbroken (data : Dict) : Prop :=
  ∀ text ∈ (Json.dict data).strings, ∀ char ∈ text.toList, ¬ SplitsLine char

theorem SplitsLine.wide {char : Char} (splits : SplitsLine char) : Wide char := by
  unfold Wide
  rcases splits with rfl | rfl | rfl <;> decide

theorem isLineBreak_iff {char : Char} (noControl : 32 ≤ char.toNat) :
    isLineBreak char = true ↔ SplitsLine char := by
  constructor
  · intro breaks
    simp only [isLineBreak, decide_eq_true_eq, List.mem_cons, List.not_mem_nil, or_false] at breaks
    have own : Char.ofNat char.toNat = char := Char.ofNat_toNat char
    have code : char.toNat = 0x85 ∨ char.toNat = 0x2028 ∨ char.toNat = 0x2029 := by omega
    rcases code with code | code | code <;> rw [code] at own
    · exact Or.inl own.symm
    · exact Or.inr (Or.inl own.symm)
    · exact Or.inr (Or.inr own.symm)
  · rintro (rfl | rfl | rfl) <;> decide

/-- An object is written without a line break exactly if its strings hold none. -/
theorem unbroken_iff (data : Dict) :
    Unbroken data ↔ ∀ char ∈ (Json.dict data).text, isLineBreak char = false := by
  have writes := writesStrings_text (.dict data)
  constructor
  · intro unbroken char member
    rw [Bool.eq_false_iff, Ne, isLineBreak_iff (writes.noControl char member)]
    intro splits
    obtain ⟨text, isText, inText⟩ := (writes.wide char splits.wide).mp member
    exact unbroken text isText char inText splits
  · intro unbroken text isText char inText splits
    have member := (writes.wide char splits.wide).mpr ⟨text, isText, inText⟩
    have breaks := (isLineBreak_iff (writes.noControl char member)).mpr splits
    rw [unbroken char member] at breaks
    cases breaks

/-- A chunk frame with a line break inside does not come back as an object. -/
theorem readText_broken {data : Dict} (broken : ¬ Unbroken data) {depth : Nat}
    {ending ending' : Option UpstreamException} (rest : List Char) (own : Dict)
    (others : List Event) :
    readText (jsonCodec depth) ending ((Frame.chunk data).text ++ rest) ≠
      ⟨dataEvent (.dict own) :: others, ending'⟩ := by
  rw [unbroken_iff] at broken
  have isText : (Json.dict data).text = '{' :: Json.membersText data := by
    rw [Json.text]
  have inMembers : ∃ char ∈ Json.membersText data, isLineBreak char = true := by
    by_contra none
    apply broken
    rw [isText, List.forall_mem_cons]
    refine ⟨rfl, ?_⟩
    intro char member
    rw [Bool.eq_false_iff]
    exact fun breaks => none ⟨char, member, breaks⟩
  have found : ((Json.membersText data).find? isLineBreak).isSome := by
    rw [List.find?_isSome]
    exact inMembers
  obtain ⟨char, isFirst⟩ := Option.isSome_iff_exists.mp found
  obtain ⟨breaks, front, back, cut, before⟩ := List.find?_eq_some_iff_append.mp isFirst
  have wide : Wide char := by
    have member : char ∈ (Json.dict data).text := by
      rw [isText, cut]
      simp
    have noControl := (writesStrings_text (.dict data)).noControl char member
    exact ((isLineBreak_iff noControl).mp breaks).wide
  have line : ∀ char ∈ "data: ".toList ++ '{' :: front, isLineBreak char = false := by
    intro own member
    rcases List.mem_append.mp member with inMark | inFront
    · exact dataMark_unbroken own inMark
    · rcases List.mem_cons.mp inFront with rfl | inFront
      · rfl
      · simpa using before own inFront
  have shape : (Frame.chunk data).text ++ rest =
      ("data: ".toList ++ '{' :: front) ++ char :: (back ++ '\n' :: '\n' :: rest) := by
    simp only [Frame.text, Frame.payload, isText, cut, List.append_assoc, List.cons_append,
      List.nil_append]
  have noObject : sseLine (jsonCodec depth) (String.ofList ("data: ".toList ++ '{' :: front)) ≠
      .ok (some (dataEvent (.dict own))) := sseLine_front cut wide own
  rw [shape, readText_line _ _ line breaks]
  intro same
  cases event : sseLine (jsonCodec depth) (String.ofList ("data: ".toList ++ '{' :: front)) with
  | error text =>
      rw [iterSseEvents, event] at same
      cases same
  | ok event? =>
      rw [iterSseEvents_cons event] at same
      cases event? with
      | none => exact absurd event (sseLine_object_ne_none _ front)
      | some found =>
          have first := (List.cons.inj (UpstreamStream.mk.inj same).1).1
          rw [first] at event
          exact noObject event

theorem withModel_eq_upsertRows (virtualModel : String) (data : Dict) :
    withModel virtualModel data = Library.upsertRows "model" (.str virtualModel) data := by
  induction data with
  | nil => rfl
  | cons field rest inductionHypothesis =>
      rw [withModel, Library.upsertRows, inductionHypothesis]

theorem wellFormed_withModel (virtualModel : String) {data : Dict} {depth : Nat}
    (wellFormed : (Json.dict data).WellFormed depth) :
    (Json.dict (withModel virtualModel data)).WellFormed depth := by
  cases wellFormed with
  | dict keys each =>
      rw [withModel_eq_upsertRows]
      exact .dict (Library.keys_upsertRows_nodup keys)
        ((Library.forall_upsertRows_iff each).mpr (.str virtualModel))

/-- Frames of chunks are read back exactly if none of them is broken. -/
theorem readText_frames_iff {chunks : List Dict} {depth : Nat}
    (wellFormed : ∀ chunk ∈ chunks, (Json.dict chunk).WellFormed depth) :
    readText (jsonCodec depth) none
        ((chunks.map Frame.chunk ++ [Frame.done]).flatMap Frame.text) =
        ⟨chunks.map (fun chunk => dataEvent (.dict chunk)) ++ [doneEvent], none⟩ ↔
      ∀ chunk ∈ chunks, Unbroken chunk := by
  induction chunks with
  | nil =>
      apply iff_of_true _ (List.forall_mem_nil _)
      exact readText_done []
  | cons chunk rest inductionHypothesis =>
      rw [List.forall_mem_cons] at wellFormed ⊢
      rw [List.map_cons, List.cons_append, List.flatMap_cons, List.map_cons, List.cons_append]
      by_cases unbroken : Unbroken chunk
      · have oneLine : ∀ char ∈ (Frame.chunk chunk).payload, isLineBreak char = false :=
          (unbroken_iff chunk).mp unbroken
        rw [readText_frame oneLine (sseLine_whole wellFormed.1), UpstreamStream.mk.injEq,
          List.cons.injEq]
        simp only [unbroken, true_and]
        rw [← inductionHypothesis wellFormed.2]
        generalize readText (jsonCodec depth) none
          ((rest.map Frame.chunk ++ [Frame.done]).flatMap Frame.text) = later
        cases later
        rw [UpstreamStream.mk.injEq]
      · apply iff_of_false
        · exact readText_broken unbroken _ chunk _
        · intro all
          exact unbroken all.1

/-- What is read back is what was written, chunk by chunk, exactly if no string
of a chunk that goes out holds a character that splits a line. -/
theorem readBody_sse_iff (depth : Nat) (virtualModel : String) (chunks : List Dict)
    (wellFormed : ∀ chunk ∈ chunks, (Json.dict chunk).WellFormed depth) :
    readBody (jsonCodec depth) none (bodyText
        (sse virtualModel (.ok ()) (chunks.map fun chunk => dataEvent (.dict chunk))).frames) =
        ⟨chunks.map (fun chunk => dataEvent (.dict (withModel virtualModel chunk))) ++
          [doneEvent], none⟩ ↔
      ∀ chunk ∈ chunks, Unbroken (withModel virtualModel chunk) := by
  have written : ∀ chunk ∈ chunks.map (withModel virtualModel),
      (Json.dict chunk).WellFormed depth := by
    intro chunk member
    obtain ⟨own, isOwn, rfl⟩ := List.mem_map.mp member
    exact wellFormed_withModel virtualModel (wellFormed own isOwn)
  have whole := readText_frames_iff written
  simp only [List.map_map, List.forall_mem_map, Function.comp_def] at whole
  rw [← whole, frames_sse_chunks]
  unfold readBody bodyText splitLines readText
  rw [String.toList_ofList]

/-- A chunk without such characters. -/
theorem readBody_sse_ascii :
    readBody (jsonCodec 1) none (bodyText (sse "v" (.ok ()) ([[("id", .str "x")]].map fun chunk =>
        dataEvent (.dict chunk))).frames) =
      ⟨[[("id", Json.str "x")]].map (fun chunk => dataEvent (.dict (withModel "v" chunk))) ++
        [doneEvent], none⟩ := by
  apply (readBody_sse_iff 1 "v" [[("id", .str "x")]] _).mpr
  · rw [List.forall_mem_singleton]
    change ∀ text ∈ ["id", "x", "model", "v"], ∀ char ∈ text.toList, ¬ SplitsLine char
    unfold SplitsLine
    have plain : ∀ text ∈ ["id", "x", "model", "v"], (text.toList.all fun char =>
        decide ¬ (char = '\u0085' ∨ char = '\u2028' ∨ char = '\u2029')) = true := by
      decide
    exact fun text member => forall_mem_of_all (plain text member)
  · rw [List.forall_mem_singleton]
    refine .dict (by decide) ?_
    rw [List.forall_mem_singleton]
    exact .str "x"

/-- A chunk whose content holds a line separator is not read back. -/
theorem readBody_sse_line_separator :
    readBody (jsonCodec 1) none (bodyText (sse "v" (.ok ())
        ([[("content", .str "a\u2028b")]].map fun chunk => dataEvent (.dict chunk))).frames) ≠
      ⟨[[("content", Json.str "a\u2028b")]].map (fun chunk =>
        dataEvent (.dict (withModel "v" chunk))) ++ [doneEvent], none⟩ := by
  have broken : ¬ Unbroken (withModel "v" [("content", .str "a\u2028b")]) := by
    intro unbroken
    have isText :
        "a\u2028b" ∈ (Json.dict (withModel "v" [("content", .str "a\u2028b")])).strings := by
      decide
    exact unbroken _ isText '\u2028' (by decide) (Or.inr (Or.inl rfl))
  rw [frames_sse_chunks]
  unfold readBody bodyText splitLines
  rw [String.toList_ofList]
  exact readText_broken broken Frame.done.text _ _

end AutoRouteGateway.Api
