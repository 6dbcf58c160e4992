/-
# Overlay.Proofs.Node.Logging -- what decoding leaves in the log

A call to decode changes nothing of a node but the log, and there it adds what at most one
event leaves (`called_eq`).  The event of a refusal is made of the very refusal
that reaches the caller, so what is logged and what is reported never differ; and what the
call ends in does not depend on whether anything is logged.

A run over several messages leaves what a call for each of them would leave, in order
(`runFrom_decodeEach_of_completed`).  `decode_log_exactly` puts the parts together.
-/
import Overlay.Proofs.Log.Line
import Overlay.Proofs.Message.Unregistered
import Overlay.Proofs.Node.Decoding

namespace Overlay

set_option autoImplicit false

namespace Node

open Datum (ofOctets)

variable {scheme : Scheme} {config : Config}

/-! ## One message -/

/-- A verdict does not depend on whether it is logged. -/
theorem verdict_quiet (scheme : Scheme) (config : Config) (message : Datum) :
    verdict scheme { config with logDecodeEvents := false } message =
      verdict scheme config message := by
  unfold verdict
  cases message.octets? with
  | none => rfl
  | some octets => exact Message.decode_congr scheme rfl rfl octets

/-- What a call to decode ends in, and the node that it leaves. -/
def called (scheme : Scheme) (config : Config) (message : Datum) (node : Node) :
    Except Fault Datum × Node :=
  (decode scheme (some (.ofConfig config)) message).runFrom node

/-- The lines that a call to decode adds to the log. -/
def added (scheme : Scheme) (config : Config) (message : Datum) (node : Node) : List LogLine :=
  (called scheme config message node).2.lines.drop node.lines.length

theorem called_eq (message : Datum) (node : Node) :
    called scheme config message node =
      (((verdict scheme config message).map Datum.ofDecoded).mapError Failure.fault,
        node.withLines (node.linesOf (eventsFor scheme config message))) := by
  rw [called, runFrom_decode_value, foldl_withEvent]

theorem added_eq (message : Datum) (node : Node) :
    added scheme config message node = node.linesOf (eventsFor scheme config message) := by
  rw [added, called_eq, withLines, List.drop_left]

/-- A call ends in a value that was decoded, or in a fault of the message. -/
theorem verdict_of_called {message : Datum} {node : Node} {ended : Except Fault Datum}
    (h : (called scheme config message node).1 = ended) :
    (∃ decoded, verdict scheme config message = .ok decoded ∧ ended = .ok (.ofDecoded decoded)) ∨
      ∃ failure, verdict scheme config message = .error failure ∧ ended = .error failure.fault := by
  rw [called_eq] at h
  cases found : verdict scheme config message with
  | ok decoded =>
      rw [found] at h
      exact .inl ⟨decoded, rfl, h.symm⟩
  | error failure =>
      rw [found] at h
      exact .inr ⟨failure, rfl, h.symm⟩

/-! ## Several messages -/

/-- Whatever comes of one message of several, it leaves what a call for it alone adds. -/
theorem runFrom_decodeOne_value (message : Datum) (node : Node) :
    ((decodeOne scheme (some (.ofConfig config)) message).runFrom node).2 =
      node.withLines (added scheme config message node) := by
  rw [added_eq]
  unfold decodeOne
  rw [Action.runFrom_bind, runFrom_decodeLogged_value, foldl_withEvent]
  cases verdict scheme config message with
  | ok decoded => rfl
  | error failure => cases failure <;> rfl

/-- Lines that do not depend on those before them are put one after another. -/
theorem foldl_withLines {α : Type} {lines : α → Node → List LogLine}
    (steady : ∀ thing (node : Node) (more : List LogLine),
      lines thing (node.withLines more) = lines thing node) (things : List α) (node : Node) :
    things.foldl (fun node thing => node.withLines (lines thing node)) node =
      node.withLines (things.flatMap fun thing => lines thing node) := by
  induction things generalizing node with
  | nil => simp
  | cons thing things ih =>
      rw [List.foldl_cons, ih, withLines_withLines, List.flatMap_cons]
      simp only [steady]

theorem added_withLines (message : Datum) (node : Node) (more : List LogLine) :
    added scheme config message (node.withLines more) = added scheme config message node := by
  rw [added_eq, added_eq, linesOf_withLines]

/-- A run that no message ends leaves what the calls for its messages add. -/
theorem runFrom_decodeEach_of_completed {messages : List Datum} {node : Node}
    {outcomes : List (Except Refusal Decoded)}
    (completed : ((decodeEach scheme (some (.ofConfig config)) (.list messages)).runFrom node).1 =
      .ok outcomes) :
    ((decodeEach scheme (some (.ofConfig config)) (.list messages)).runFrom node).2 =
      node.withLines (messages.flatMap fun message => added scheme config message node) := by
  have opened : decodeEach scheme (some (.ofConfig config)) (.list messages) =
      messages.mapM (decodeOne scheme (some (.ofConfig config))) := rfl
  rw [opened] at completed ⊢
  rw [Action.runFrom_mapM_of_completed runFrom_decodeOne_value completed]
  exact foldl_withLines added_withLines messages node

/-! ## Every call -/

/-- A call leaves everything of a node but the log as it is, and ends in the same whether or not
events are logged.  Where they are, a message under an unregistered tag adds the line that gives
its tag and size, if the level of messages is at most 20, a refused message adds a line that gives
the code, the reason and the variant of the refusal that the caller gets, if it is at most 30, and
nothing else adds a line.  A run over several messages that completes adds what the calls for each
of them add, in order. -/
theorem decode_log_exactly (scheme : Scheme) (config : Config) :
    (∀ (message : Datum) (node : Node),
      (called scheme config message node).2 =
        node.withLines (added scheme config message node) ∧
      (called scheme config message node).1 =
        (called scheme { config with logDecodeEvents := false } message node).1 ∧
      (config.logDecodeEvents = false → added scheme config message node = []) ∧
      (config.logDecodeEvents = true →
        (∀ number : Nat,
          (called scheme config message node).1 = .ok (.unknown (.int number)) →
          added scheme config message node =
            if node.effectiveLevel ≤ 20 then
              [⟨.number 20, Log.Event.unknownText node.time number
                (message.octets?.getD []).length⟩] else []) ∧
        (∀ refusal, (called scheme config message node).1 = .error (.refused refusal) →
          ∃ line, (∀ code reason variant,
              Log.Event.RefusedLine node.time code reason variant line ↔
                code = refusal.code ∧ reason = refusal.report ∧ variant = refusal.variant) ∧
            added scheme config message node =
              if node.effectiveLevel ≤ 30 then [⟨.number 30, line⟩] else []) ∧
        (∀ record, (called scheme config message node).1 = .ok (.record record) →
          added scheme config message node = []) ∧
        ((called scheme config message node).1 = .error .outside →
          added scheme config message node = []))) ∧
    ∀ (messages : List Datum) (node : Node) (outcomes : List (Except Refusal Decoded)),
      ((decodeEach scheme (some (.ofConfig config)) (.list messages)).runFrom node).1 =
        .ok outcomes →
      ((decodeEach scheme (some (.ofConfig config)) (.list messages)).runFrom node).2 =
        node.withLines (messages.flatMap fun message => added scheme config message node) := by
  refine ⟨fun message node => ⟨?_, ?_, ?_, fun logged => ⟨?_, ?_, ?_, ?_⟩⟩,
    fun messages node outcomes completed => runFrom_decodeEach_of_completed completed⟩
  · rw [added_eq, called_eq]
  · rw [called_eq, called_eq, verdict_quiet]
  · intro quiet
    rw [added_eq, eventsFor, quiet]
    cases verdict scheme config message with
    | ok decoded => cases decoded <;> rfl
    | error failure => cases failure <;> rfl
  · intro number ended
    obtain ⟨decoded, found, same⟩ | ⟨_, _, ⟨⟩⟩ := verdict_of_called ended
    cases decoded with
    | record r => cases same
    | unknown tag =>
        cases same
        rw [added_eq, eventsFor, found, logged]
        exact linesOf_unknownTag node _ _
  · intro refusal ended
    obtain ⟨_, _, ⟨⟩⟩ | ⟨failure, found, same⟩ := verdict_of_called ended
    cases failure with
    | refused other =>
        cases same
        rw [added_eq, eventsFor, found, logged]
        exact ⟨_, fun code reason variant => Log.Event.refusedLine_rejected_iff,
          linesOf_rejected node refusal⟩
    | oversizedNumeral => cases same
  · intro record ended
    obtain ⟨decoded, found, same⟩ | ⟨_, _, ⟨⟩⟩ := verdict_of_called ended
    cases decoded with
    | record r =>
        rw [added_eq, eventsFor, found]
        rfl
    | unknown tag => cases same
  · intro ended
    obtain ⟨_, _, ⟨⟩⟩ | ⟨failure, found, same⟩ := verdict_of_called ended
    cases failure with
    | refused refusal => cases same
    | oversizedNumeral =>
        rw [added_eq, eventsFor, found]
        rfl

/-- Small messages only, and what happens to them is logged. -/
def exampleConfig : Config := { maxMessageBytes := 5, logDecodeEvents := true }

theorem decode_forty_two : Message.decode .lenient exampleConfig [0x2A] = .ok (.unknown 42) := by
  have lead : MessagePack.Item.Form MessagePack.maxDepth (.int (42 : Nat)) [0x2A] :=
    .int (.small (by decide))
  exact Message.decode_eq_unknown_iff.2
    ⟨by decide, ⟨_, _, [], rfl, lead, by decide, .int⟩, by decide⟩

theorem decode_too_large : Message.decode .lenient exampleConfig Message.exampleMessage =
    .error (.refused (.tooLarge 10 (toString (5 : Int)))) :=
  (Message.decode_of_too_large (by decide)).trans
    (congrArg Except.error (Message.tooLarge_of_nonneg (by decide) 10))

/-- What the log says of a message under the tag 42. -/
def exampleUnknownText : String :=
  "\x7b\"event\":\"wire_decode_unknown_tag\",\"size\":1,\"tag\":42,\"ts_ms\":0\x7d"

/-- A message under the tag 42 and one that is too large, each by itself and both in one run. -/
theorem decode_log_exactly_example :
    added .lenient exampleConfig (ofOctets [0x2A]) {} = [⟨.number 20, exampleUnknownText⟩] ∧
    ∃ line,
      Log.Event.RefusedLine 0 "malformed" "message too large: 10 > 5" none line ∧
      added .lenient exampleConfig (ofOctets Message.exampleMessage) {} = [⟨.number 30, line⟩] ∧
      ((decodeEach .lenient (some (.ofConfig exampleConfig))
          (.list ([[0x2A], Message.exampleMessage].map ofOctets))).runFrom {}).2.lines =
        [⟨.number 20, exampleUnknownText⟩, ⟨.number 30, line⟩] := by
  have unknown : verdict .lenient exampleConfig (ofOctets [0x2A]) = .ok (.unknown 42) :=
    decode_forty_two
  have refused : verdict .lenient exampleConfig (ofOctets Message.exampleMessage) =
      .error (.refused (.tooLarge 10 (toString (5 : Int)))) := decode_too_large
  obtain ⟨each, several⟩ := decode_log_exactly .lenient exampleConfig
  obtain ⟨-, -, -, logged⟩ := each (ofOctets [0x2A]) {}
  have first := (logged rfl).1 42 (by rw [called_eq, unknown]; rfl)
  obtain ⟨-, -, -, logged⟩ := each (ofOctets Message.exampleMessage) {}
  obtain ⟨line, told, second⟩ := (logged rfl).2.1 (.tooLarge 10 (toString (5 : Int)))
    (by rw [called_eq, refused]; rfl)
  have settles : Settles .lenient exampleConfig [[0x2A], Message.exampleMessage] [
      .ok (.unknown 42), .error (.tooLarge 10 (toString (5 : Int)))] :=
    .cons decode_forty_two (.cons decode_too_large .nil)
  have both := several _ {} _ (congrArg Prod.fst (runFrom_decodeEach settles {}))
  have text : Log.Event.unknownText 0 42 1 = exampleUnknownText := by decide
  have reason : Refusal.report (.tooLarge 10 (toString (5 : Int))) =
      "message too large: 10 > 5" := by decide
  refine ⟨first.trans ?_, line, (told _ _ _).2 ⟨rfl, reason.symm, rfl⟩, second, ?_⟩
  · rw [← text]
    rfl
  · rw [both]
    simp only [List.map_cons, List.map_nil, List.flatMap_cons, List.flatMap_nil, first, second]
    rw [← text]
    rfl

end Node

end Overlay
