import HermesRealtime.Timing

/-!
The reducer of interruption observations: browser and provider events of one session,
reduced to one trace for each response.
-/

namespace HermesRealtime.Interruption

open Values Text

inductive InterruptionEventKind
  | speechStarted | playbackSuppressed | responseCancelled | truncationObserved
  | listeningRestored
  deriving DecidableEq

def InterruptionEventKind.value : InterruptionEventKind → String
  | .speechStarted => "speech_started"
  | .playbackSuppressed => "playback_suppressed"
  | .responseCancelled => "response_cancelled"
  | .truncationObserved => "truncation_observed"
  | .listeningRestored => "listening_restored"

/-- `_validate_identifier`. -/
def validateIdentifier (value : String) (maximum : ℕ) : Except PyError Unit :=
  let chars := value.toList
  if ¬ (1 ≤ chars.length ∧ chars.length ≤ maximum) then
    .error (.valueError "length is out of range")
  else if chars.head?.any isSpace || chars.getLast?.any isSpace ||
      chars.any fun c => c.toNat < 0x20 then
    .error (.valueError "contains invalid characters")
  else .ok ()

/-- An observation; one that `__post_init__` refuses does not exist. -/
structure InterruptionEvent where
  localSessionId : String
  responseId : String
  kind : InterruptionEventKind
  occurredNs : ℕ
  userSpeechOnsetMs : Option Binary64
  session_ok : validateIdentifier localSessionId 128 = .ok ()
  response_ok : validateIdentifier responseId 256 = .ok ()
  onset_ok : userSpeechOnsetMs.isSome → kind = .speechStarted

structure InterruptionTrace where
  responseId : String
  userSpeechOnsetMs : Option Binary64 := none
  speechStartedReceivedNs : Option ℤ := none
  providerAudioStartMs : Option ℤ := none
  playbackSuppressedNs : Option ℤ := none
  responseCancelledNs : Option ℤ := none
  truncationObservedNs : Option ℤ := none
  listeningRestoredNs : Option ℤ := none
  nextResponseFirstAudioNs : Option ℤ := none
  deriving DecidableEq

/-- The traces are kept in the order of their first event. The source keeps them in a list
and in a table by response that share the trace objects; here the table is a search. -/
structure InterruptionTimelineReducer where
  localSessionId : String
  activeResponseId : Option String := none
  activeResponseReceivedNs : Option ℤ := none
  activeProviderAudioStartMs : Option ℤ := none
  observedResponseIds : List String := []
  traces : List InterruptionTrace := []
  deriving DecidableEq

namespace InterruptionTimelineReducer

def traceOf (r : InterruptionTimelineReducer) (responseId : String) : Option InterruptionTrace :=
  r.traces.find? fun trace => trace.responseId = responseId

def updateTrace (r : InterruptionTimelineReducer) (trace : InterruptionTrace) :
    InterruptionTimelineReducer :=
  { r with traces := r.traces.map fun t => if t.responseId = trace.responseId then trace else t }

/-- The first audio of a new response closes the trace of the response before it. -/
def closePrevious (r : InterruptionTimelineReducer) (receivedNs : ℤ) :
    InterruptionTimelineReducer :=
  match r.traceOf (r.activeResponseId.getD "") with
  | some previous =>
    if previous.nextResponseFirstAudioNs.isNone then
      r.updateTrace { previous with nextResponseFirstAudioNs := some receivedNs }
    else r
  | none => r

/-- `begin_response`. -/
def beginResponse (r : InterruptionTimelineReducer) (responseId : String) (receivedNs : ℤ)
    (providerAudioStartMs : Option ℤ) : Except PyError InterruptionTimelineReducer := do
  validateIdentifier responseId 256
  if receivedNs < 0 then throw (.valueError "received_ns must be non-negative")
  if providerAudioStartMs.any fun ms => ms < 0 then
    throw (.valueError "provider_audio_start_ms must be non-negative")
  if responseId ∈ r.observedResponseIds then
    throw (.valueError "response_id was already observed")
  return { r.closePrevious receivedNs with
    observedResponseIds := responseId :: r.observedResponseIds
    activeResponseId := some responseId
    activeResponseReceivedNs := some receivedNs
    activeProviderAudioStartMs := providerAudioStartMs }

/-- The trace with the observation in its field, `none` when the field was set before. -/
def applyEvent (trace : InterruptionTrace) (event : InterruptionEvent) :
    Option InterruptionTrace :=
  let ns : Option ℤ := some event.occurredNs
  match event.kind with
  | .speechStarted =>
    if trace.speechStartedReceivedNs.isSome then none
    else some { trace with
      speechStartedReceivedNs := ns, userSpeechOnsetMs := event.userSpeechOnsetMs }
  | .playbackSuppressed =>
    if trace.playbackSuppressedNs.isSome then none
    else some { trace with playbackSuppressedNs := ns }
  | .responseCancelled =>
    if trace.responseCancelledNs.isSome then none
    else some { trace with responseCancelledNs := ns }
  | .truncationObserved =>
    if trace.truncationObservedNs.isSome then none
    else some { trace with truncationObservedNs := ns }
  | .listeningRestored =>
    if trace.listeningRestoredNs.isSome then none
    else some { trace with listeningRestoredNs := ns }

/-- `consume`: the reducer after the event and whether the event was accepted. A trace is
opened for the active response before the field is looked at. -/
def consume (r : InterruptionTimelineReducer) (event : InterruptionEvent) :
    InterruptionTimelineReducer × Bool :=
  if event.localSessionId ≠ r.localSessionId then (r, false)
  else if some event.responseId ≠ r.activeResponseId then (r, false)
  else if r.activeResponseReceivedNs.all fun received => (event.occurredNs : ℤ) < received then
    (r, false)
  else
    let fresh : InterruptionTrace :=
      { responseId := event.responseId, providerAudioStartMs := r.activeProviderAudioStartMs }
    let opened := match r.traceOf event.responseId with
      | some trace => (r, trace)
      | none => ({ r with traces := r.traces ++ [fresh] }, fresh)
    match applyEvent opened.2 event with
    | some trace => (opened.1.updateTrace trace, true)
    | none => (opened.1, false)

end InterruptionTimelineReducer

end HermesRealtime.Interruption
