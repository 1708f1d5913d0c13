import HermesRealtime.Runs

/-!
One start of a conversation on the voice page, and the stops that overtake it.

`startConversation` waits for the microphone, an offer, the local description, the gateway's
response and its body, and the remote description; between two of these `stopConversation` may be
called any number of times, by the user, the controller, a lost socket, an error or an unload. A
call is one step, and so is everything the start does from one await to the next.
-/

namespace HermesRealtime.Conversation

open Runs

/-! ### The page -/

inductive PageMessage
  | stop (reason : String)
  | teardownComplete
  | timing (name : String)
  deriving DecidableEq

/-- The variables of the page a start and a stop share, and what has been closed, stopped and sent.
Peers, channels and tracks are told apart by number. -/
structure Page where
  localSessionId : Option String
  socketOpen : Bool
  controllerSessionClosed : Bool
  isStopping : Bool
  stopMessageSent : Bool
  teardownCompleteSent : Bool
  dataChannel : Option ℕ
  peerConnection : Option ℕ
  localStream : Option (List ℕ)
  executionScope : Option String
  closedChannels : List ℕ
  closedPeers : List ℕ
  stoppedTracks : List ℕ
  sent : List PageMessage
  deriving DecidableEq

structure StopOptions where
  reason : String
  sendStopMessage : Bool
  deriving DecidableEq

/-- JavaScript's `!text` of a string or `null`. -/
def falsy : Option String → Bool
  | none => true
  | some text => text = ""

namespace Page

def sendControlMessage (message : PageMessage) (page : Page) : Page :=
  if !page.socketOpen || falsy page.localSessionId || page.controllerSessionClosed then page
  else { page with sent := page.sent ++ [message] }

def closeDataChannel (page : Page) : Page :=
  match page.dataChannel with
  | none => page
  | some dc => { page with closedChannels := dc :: page.closedChannels, dataChannel := none }

def closePeerConnection (page : Page) : Page :=
  match page.peerConnection with
  | none => page
  | some pc => { page with closedPeers := pc :: page.closedPeers, peerConnection := none }

def stopTracks (page : Page) : Page :=
  match page.localStream with
  | none => page
  | some tracks =>
    { page with stoppedTracks := tracks ++ page.stoppedTracks, localStream := none }

def sendStop (options : StopOptions) (page : Page) : Page :=
  if page.stopMessageSent then page
  else
    let told :=
      if options.sendStopMessage then
        page.sendControlMessage
          (.stop (if options.reason = "" then "button" else options.reason))
      else page
    { told with stopMessageSent := true }

def sendTeardownComplete (page : Page) : Page :=
  if page.teardownCompleteSent then page
  else { page with teardownCompleteSent := true }.sendControlMessage .teardownComplete

def stopConversation (options : StopOptions) (page : Page) : Page :=
  if page.isStopping || page.teardownCompleteSent then page
  else
    let page := { page with isStopping := true }.sendStop options
    let page := page.closeDataChannel.closePeerConnection.stopTracks
    let page := { page with executionScope := none }.sendTeardownComplete
    { page with isStopping := false }

/-- `hasLiveMedia`, where the peer is connected and the channel is open, if there are any. -/
def hasLiveMedia (connected opened : Bool) (page : Page) : Bool :=
  page.peerConnection.isSome && connected && page.dataChannel.isSome && opened

/-- `canApplyRemoteAnswer(peerConnection, pc)`. -/
def canApplyRemoteAnswer (pc : ℕ) (page : Page) : Bool :=
  page.peerConnection = some pc && pc ∉ page.closedPeers

end Page

/-! ### One start -/

/-- What a start waits for. -/
inductive Point
  | userMedia
  | offer (pc : ℕ)
  | localDescription (pc : ℕ)
  | response (pc : ℕ)
  | errorBody
  | answer (pc : ℕ) (scope : Option String)
  | remoteDescription
  | ended
  deriving DecidableEq

/-- How far the peer is set up before something throws. -/
inductive Setup
  | noPeer
  | noChannel (pc : ℕ)
  | complete (pc dc : ℕ)
  deriving DecidableEq

/-- A response of the gateway: its status, and its execution scope header. -/
structure Response where
  ok : Bool
  scope : Option String
  deriving DecidableEq

/-- What the promise a start waits for comes to, or what else happens on the page. -/
inductive PageEvent
  | userMedia (stream : Option (List ℕ)) (setup : Setup)
  | offer (resolved : Bool)
  | localDescription (resolved : Bool)
  | response (response : Option Response)
  | body (resolved : Bool)
  | remoteDescription (resolved : Bool)
  | stop (options : StopOptions)
  | failure
  | sessionClosed
  | socketError (connected opened : Bool)
  | socketClosed (connected opened : Bool)
  deriving DecidableEq

/-- The page, where its start stands, whether `stopConversation` has been called since it began,
and the microphone tracks it has been given. -/
structure Start where
  page : Page
  point : Point
  stopCalled : Bool
  acquired : List ℕ
  deriving DecidableEq

/-- `startConversation` up to its first await. -/
def startConversation (page : Page) : Start where
  page := { page with stopMessageSent := false, teardownCompleteSent := false }
  point := .userMedia
  stopCalled := false
  acquired := []

namespace Start

def stop (options : StopOptions) (start : Start) : Start :=
  { start with page := start.page.stopConversation options, stopCalled := true }

def failConversation (start : Start) : Start :=
  if start.page.isStopping then start else start.stop ⟨"transport_failure", true⟩

def handleControllerSocketLoss (connected opened : Bool) (start : Start) : Start :=
  if start.page.hasLiveMedia connected opened then start else start.failConversation

def socketFailed (connected opened : Bool) (start : Start) : Start :=
  if start.page.controllerSessionClosed then start
  else start.handleControllerSocketLoss connected opened

/-- The catch branch of `startConversation`. -/
def caught (start : Start) : Start :=
  { start with page := start.page.sendControlMessage (.timing "page_error"), point := .ended }.stop
    ⟨"transport_failure", true⟩

/-- Waits for what comes next, or ends in the catch branch. -/
def await (resolved : Bool) (next : Point) (start : Start) : Start :=
  if resolved then { start with point := next } else start.caught

def recordTiming (name : String) (start : Start) : Start :=
  { start with page := start.page.sendControlMessage (.timing name) }

/-- From the microphone to the offer. -/
def setUp (tracks : List ℕ) (setup : Setup) (start : Start) : Start :=
  let page := { start.page with localStream := some tracks }
  let start := { start with acquired := tracks ++ start.acquired }
  match setup with
  | .noPeer => { start with page := page }.caught
  | .noChannel pc => { start with page := { page with peerConnection := some pc } }.caught
  | .complete pc dc =>
    { start with page := { page with peerConnection := some pc, dataChannel := some dc },
                 point := .offer pc }

/-- From the text of the answer to the remote description. -/
def applyAnswer (pc : ℕ) (scope : Option String) (start : Start) : Start :=
  if start.page.canApplyRemoteAnswer pc then
    let start := { start with page := { start.page with executionScope := scope } }
    if !falsy start.page.localSessionId && falsy scope then start.caught
    else { start with point := .remoteDescription }
  else { start with point := .ended }

end Start

def step (start : Start) : PageEvent → Option Start
  | .userMedia stream setup =>
    match start.point, stream with
    | .userMedia, none => some start.caught
    | .userMedia, some tracks => some (start.setUp tracks setup)
    | _, _ => none
  | .offer resolved =>
    match start.point with
    | .offer pc => some (start.await resolved (.localDescription pc))
    | _ => none
  | .localDescription resolved =>
    match start.point with
    | .localDescription pc =>
      if resolved then some { start.recordTiming "sdp_offer_created" with point := .response pc }
      else some start.caught
    | _ => none
  | .response response =>
    match start.point, response with
    | .response _, none => some start.caught
    | .response pc, some r =>
      some { start with point := if r.ok then .answer pc r.scope else .errorBody }
    | _, _ => none
  | .body resolved =>
    match start.point with
    | .errorBody => some start.caught
    | .answer pc scope => if resolved then some (start.applyAnswer pc scope) else some start.caught
    | _ => none
  | .remoteDescription resolved =>
    match start.point with
    | .remoteDescription =>
      if resolved then some { start.recordTiming "sdp_answer_applied" with point := .ended }
      else some start.caught
    | _ => none
  | .stop options => some (start.stop options)
  | .failure => some start.failConversation
  | .sessionClosed =>
    some ({ start with page := { start.page with controllerSessionClosed := true } }.stop
      ⟨"native_cancel", false⟩)
  | .socketError connected opened => some (start.socketFailed connected opened)
  | .socketClosed connected opened =>
    some ({ start with page := { start.page with socketOpen := false } }.socketFailed connected
      opened)

/-! ### What a stop leaves -/

/-- The microphone is released: no stream, no peer, and every track it gave has been stopped. -/
def Released (start : Start) : Prop :=
  start.page.localStream = none ∧ start.page.peerConnection = none ∧
    ∀ track ∈ start.acquired, track ∈ start.page.stoppedTracks

instance (start : Start) : Decidable (Released start) :=
  inferInstanceAs (Decidable (_ ∧ _))

/-- No conversation is on. -/
def Idle (page : Page) : Prop :=
  page.isStopping = false ∧ page.localStream = none ∧ page.peerConnection = none

/-- The microphone is not given to a start once `stopConversation` has been called. -/
def inTime (start : Start) : PageEvent → Bool
  | .userMedia (some _) _ => !start.stopCalled
  | _ => true

def MicrophoneInTime (start : Start) (e : PageEvent) : Prop := inTime start e = true

namespace Page

variable {page : Page}

/-- The parts of a page a control message does not touch. -/
structure Same (page p : Page) : Prop where
  isStopping : p.isStopping = page.isStopping
  teardownCompleteSent : p.teardownCompleteSent = page.teardownCompleteSent
  localStream : p.localStream = page.localStream
  peerConnection : p.peerConnection = page.peerConnection
  stoppedTracks : p.stoppedTracks = page.stoppedTracks

lemma same_sendControlMessage (message : PageMessage) (page : Page) :
    Same page (page.sendControlMessage message) := by
  rw [sendControlMessage]
  split <;> exact ⟨rfl, rfl, rfl, rfl, rfl⟩

lemma same_sendStop (options : StopOptions) (page : Page) : Same page (page.sendStop options) := by
  rw [sendStop]
  split
  · exact ⟨rfl, rfl, rfl, rfl, rfl⟩
  · obtain ⟨h1, h2, h3, h4, h5⟩ := same_sendControlMessage
      (.stop (if options.reason = "" then "button" else options.reason)) page
    cases options.sendStopMessage
    · exact ⟨rfl, rfl, rfl, rfl, rfl⟩
    · exact ⟨h1, h2, h3, h4, h5⟩

lemma same_refl : Same page page := ⟨rfl, rfl, rfl, rfl, rfl⟩

lemma Same.trans {p q : Page} (h : Same page p) (h' : Same p q) : Same page q :=
  ⟨h'.isStopping.trans h.isStopping, h'.teardownCompleteSent.trans h.teardownCompleteSent,
    h'.localStream.trans h.localStream, h'.peerConnection.trans h.peerConnection,
    h'.stoppedTracks.trans h.stoppedTracks⟩

/-- Every call but the first that takes effect is without effect. -/
lemma stopConversation_sent (options : StopOptions)
    (hsent : page.teardownCompleteSent = true) :
    page.stopConversation options = page := by
  simp [stopConversation, hsent]

lemma same_closeDataChannel (page : Page) : Same page page.closeDataChannel := by
  rw [closeDataChannel]
  split <;> exact ⟨rfl, rfl, rfl, rfl, rfl⟩

lemma closePeerConnection_spec (page : Page) :
    page.closePeerConnection.teardownCompleteSent = page.teardownCompleteSent ∧
      page.closePeerConnection.peerConnection = none ∧
      page.closePeerConnection.localStream = page.localStream ∧
      page.closePeerConnection.stoppedTracks = page.stoppedTracks := by
  rw [closePeerConnection]
  split
  · exact ⟨rfl, by assumption, rfl, rfl⟩
  · exact ⟨rfl, rfl, rfl, rfl⟩

lemma stopTracks_spec (page : Page) :
    page.stopTracks.teardownCompleteSent = page.teardownCompleteSent ∧
      page.stopTracks.peerConnection = page.peerConnection ∧
      page.stopTracks.localStream = none ∧
      page.stopTracks.stoppedTracks = page.localStream.getD [] ++ page.stoppedTracks := by
  rw [stopTracks]
  cases hstream : page.localStream with
  | none => exact ⟨rfl, rfl, hstream, rfl⟩
  | some tracks => exact ⟨rfl, rfl, rfl, rfl⟩

lemma sendTeardownComplete_spec (page : Page) (hsent : page.teardownCompleteSent = false) :
    page.sendTeardownComplete.teardownCompleteSent = true ∧
      page.sendTeardownComplete.peerConnection = page.peerConnection ∧
      page.sendTeardownComplete.localStream = page.localStream ∧
      page.sendTeardownComplete.stoppedTracks = page.stoppedTracks := by
  rw [sendTeardownComplete, if_neg (by simp [hsent])]
  obtain ⟨-, hs, hl, hp, ht⟩ := same_sendControlMessage .teardownComplete
    { page with teardownCompleteSent := true }
  exact ⟨hs, hp, hl, ht⟩

/-- The first call releases everything. -/
lemma stopConversation_spec (options : StopOptions) (hrunning : page.isStopping = false)
    (hsent : page.teardownCompleteSent = false) :
    (page.stopConversation options).isStopping = false ∧
      (page.stopConversation options).teardownCompleteSent = true ∧
      (page.stopConversation options).localStream = none ∧
      (page.stopConversation options).peerConnection = none ∧
      (page.stopConversation options).stoppedTracks =
        page.localStream.getD [] ++ page.stoppedTracks := by
  rw [stopConversation, if_neg (by simp [hrunning, hsent])]
  dsimp only
  obtain ⟨-, hs1, hl1, hp1, ht1⟩ := same_sendStop options { page with isStopping := true }
  generalize { page with isStopping := true }.sendStop options = told at hs1 hl1 hp1 ht1 ⊢
  obtain ⟨-, hs2, hl2, hp2, ht2⟩ := same_closeDataChannel told
  obtain ⟨hs3, hp3, hl3, ht3⟩ := closePeerConnection_spec told.closeDataChannel
  obtain ⟨hs4, hp4, hl4, ht4⟩ :=
    stopTracks_spec told.closeDataChannel.closePeerConnection
  generalize told.closeDataChannel.closePeerConnection.stopTracks = closed at hs4 hp4 hl4 ht4 ⊢
  have hunsent : closed.teardownCompleteSent = false := by rw [hs4, hs3, hs2, hs1, hsent]
  obtain ⟨hs, hp, hl, ht⟩ :=
    sendTeardownComplete_spec { closed with executionScope := none } hunsent
  refine ⟨rfl, hs, hl.trans hl4, hp.trans (hp4.trans hp3), ht.trans ?_⟩
  rw [ht4, hl3, hl2, hl1, ht3, ht2, ht1]

end Page

/-! ### What a step does -/

/-- What a step does of its own, before it may call `stopConversation`. -/
inductive Moves (start : Start) : PageEvent → Start → Prop
  | along {e : PageEvent} {u : Start} (hin : MicrophoneInTime start e)
      (hpage : Page.Same start.page u.page)
      (hstop : u.stopCalled = start.stopCalled) (hacquired : u.acquired = start.acquired)
      (hpoint : u.point = .userMedia → start.point = .userMedia) : Moves start e u
  | acquires {u : Start} (tracks : List ℕ) (setup : Setup) (hat : start.point = .userMedia)
      (hrunning : u.page.isStopping = start.page.isStopping)
      (hsent : u.page.teardownCompleteSent = start.page.teardownCompleteSent)
      (hstop : u.stopCalled = start.stopCalled) (hacquired : u.acquired = tracks ++ start.acquired)
      (hstream : u.page.localStream = some tracks) (hpoint : u.point ≠ .userMedia) :
      Moves start (.userMedia (some tracks) setup) u

variable {start u w : Start} {e : PageEvent}

/-- A step that leaves the page as it is. -/
lemma Moves.to (hin : MicrophoneInTime start e) (point : Point) (hpoint : point ≠ .userMedia) :
    Moves start e { start with point := point } :=
  .along hin Page.same_refl rfl rfl fun h => absurd h hpoint

/-- A step that sends something, at most. -/
lemma Moves.sends {page : Page} (hin : MicrophoneInTime start e) (point : Point)
    (hpage : Page.Same start.page page) (hpoint : point ≠ .userMedia) :
    Moves start e { start with page := page, point := point } :=
  .along hin hpage rfl rfl fun h => absurd h hpoint

/-- What `step_cases` says of one step. -/
def Stepped (start : Start) (e : PageEvent) (w : Start) : Prop :=
  ∃ u, Moves start e u ∧ (w = u ∨ ∃ options, w = u.stop options)

lemma stepped_caught (hin : MicrophoneInTime start e) : Stepped start e start.caught :=
  ⟨_, .sends hin .ended (Page.same_sendControlMessage _ _) (by simp), .inr ⟨_, rfl⟩⟩

lemma stepped_await (hin : MicrophoneInTime start e) (resolved : Bool) (point : Point)
    (hpoint : point ≠ .userMedia) : Stepped start e (start.await resolved point) := by
  cases resolved with
  | false => exact stepped_caught hin
  | true => exact ⟨_, .to hin point hpoint, .inl rfl⟩

lemma stepped_setUp (tracks : List ℕ) (setup : Setup) (hat : start.point = .userMedia) :
    Stepped start (.userMedia (some tracks) setup) (start.setUp tracks setup) := by
  cases setup with
  | noPeer =>
    obtain ⟨hr, hs, hl, -, -⟩ := Page.same_sendControlMessage (.timing "page_error")
      { start.page with localStream := some tracks }
    exact ⟨{ start with
        page := { start.page with localStream := some tracks }.sendControlMessage
          (.timing "page_error")
        point := .ended
        acquired := tracks ++ start.acquired },
      .acquires tracks _ hat hr hs rfl rfl hl (by simp), .inr ⟨_, rfl⟩⟩
  | noChannel pc =>
    obtain ⟨hr, hs, hl, -, -⟩ := Page.same_sendControlMessage (.timing "page_error")
      { start.page with localStream := some tracks, peerConnection := some pc }
    exact ⟨{ start with
        page := { start.page with localStream := some tracks, peerConnection := some pc
          }.sendControlMessage (.timing "page_error")
        point := .ended
        acquired := tracks ++ start.acquired },
      .acquires tracks _ hat hr hs rfl rfl hl (by simp), .inr ⟨_, rfl⟩⟩
  | complete pc dc =>
    exact ⟨start.setUp tracks (.complete pc dc),
      .acquires tracks _ hat rfl rfl rfl rfl rfl (by simp [Start.setUp]), .inl rfl⟩

lemma stepped_applyAnswer (hin : MicrophoneInTime start e) (pc : ℕ) (scope : Option String) :
    Stepped start e (start.applyAnswer pc scope) := by
  rw [Start.applyAnswer]
  split
  · have hpage : Page.Same start.page { start.page with executionScope := scope } :=
      ⟨rfl, rfl, rfl, rfl, rfl⟩
    dsimp only
    split
    · exact ⟨_, .sends hin .ended (hpage.trans (Page.same_sendControlMessage _ _)) (by simp),
        .inr ⟨_, rfl⟩⟩
    · exact ⟨_, .sends hin .remoteDescription hpage (by simp), .inl rfl⟩
  · exact ⟨_, .to hin .ended (by simp), .inl rfl⟩

lemma stepped_failConversation (hmoves : Moves start e u) :
    Stepped start e u.failConversation := by
  rw [Start.failConversation]
  split
  · exact ⟨u, hmoves, .inl rfl⟩
  · exact ⟨u, hmoves, .inr ⟨_, rfl⟩⟩

lemma stepped_socketFailed (connected opened : Bool) (hmoves : Moves start e u) :
    Stepped start e (u.socketFailed connected opened) := by
  rw [Start.socketFailed]
  split
  · exact ⟨u, hmoves, .inl rfl⟩
  · rw [Start.handleControllerSocketLoss]
    split
    · exact ⟨u, hmoves, .inl rfl⟩
    · exact stepped_failConversation hmoves

/-- **What a step can do.** Every step moves along or is given the microphone, and may then call
`stopConversation`. -/
lemma step_cases (h : step start e = some w) : Stepped start e w := by
  have hself (hin : MicrophoneInTime start e) : Moves start e start :=
    .along hin Page.same_refl rfl rfl id
  cases e with
  | userMedia stream setup =>
    cases hat : start.point <;> cases stream <;> simp only [step, hat, reduceCtorEq,
      Option.some.injEq] at h
    · subst h
      exact stepped_caught rfl
    · subst h
      exact stepped_setUp _ setup hat
  | offer resolved =>
    have hin : MicrophoneInTime start (.offer resolved) := rfl
    cases hat : start.point <;> simp only [step, hat, reduceCtorEq, Option.some.injEq] at h
    subst h
    exact stepped_await hin resolved _ (by simp)
  | localDescription resolved =>
    have hin : MicrophoneInTime start (.localDescription resolved) := rfl
    cases hat : start.point <;> simp only [step, hat, reduceCtorEq] at h
    cases resolved with
    | false =>
      obtain rfl := Option.some.inj h
      exact stepped_caught hin
    | true =>
      obtain rfl := Option.some.inj h
      exact ⟨_, .sends hin _ (Page.same_sendControlMessage _ _) (by simp), .inl rfl⟩
  | response response =>
    have hin : MicrophoneInTime start (.response response) := rfl
    cases hat : start.point <;> cases response <;> simp only [step, hat, reduceCtorEq,
      Option.some.injEq] at h
    · subst h
      exact stepped_caught hin
    · subst h
      exact ⟨_, .to hin _ (by split <;> simp), .inl rfl⟩
  | body resolved =>
    have hin : MicrophoneInTime start (.body resolved) := rfl
    cases hat : start.point <;> simp only [step, hat, reduceCtorEq, Option.some.injEq] at h
    · subst h
      exact stepped_caught hin
    · cases resolved with
      | false =>
        obtain rfl := Option.some.inj h
        exact stepped_caught hin
      | true =>
        obtain rfl := Option.some.inj h
        exact stepped_applyAnswer hin _ _
  | remoteDescription resolved =>
    have hin : MicrophoneInTime start (.remoteDescription resolved) := rfl
    cases hat : start.point <;> simp only [step, hat, reduceCtorEq] at h
    cases resolved with
    | false =>
      obtain rfl := Option.some.inj h
      exact stepped_caught hin
    | true =>
      obtain rfl := Option.some.inj h
      exact ⟨_, .sends hin .ended (Page.same_sendControlMessage _ _) (by simp), .inl rfl⟩
  | stop options =>
    obtain rfl := Option.some.inj h
    exact ⟨start, hself rfl, .inr ⟨_, rfl⟩⟩
  | failure =>
    obtain rfl := Option.some.inj h
    exact stepped_failConversation (hself rfl)
  | sessionClosed =>
    obtain rfl := Option.some.inj h
    exact ⟨{ start with page := { start.page with controllerSessionClosed := true } },
      .along rfl ⟨rfl, rfl, rfl, rfl, rfl⟩ rfl rfl id, .inr ⟨_, rfl⟩⟩
  | socketError connected opened =>
    obtain rfl := Option.some.inj h
    exact stepped_socketFailed connected opened (hself rfl)
  | socketClosed connected opened =>
    obtain rfl := Option.some.inj h
    have hmoves : Moves start (.socketClosed connected opened)
        { start with page := { start.page with socketOpen := false } } :=
      .along rfl ⟨rfl, rfl, rfl, rfl, rfl⟩ rfl rfl id
    exact stepped_socketFailed connected opened hmoves

/-! ### The microphone given in time -/

/-- Until the first call the start holds the tracks it was given; from then on they are released. -/
structure Tidy (start : Start) : Prop where
  running : start.page.isStopping = false
  latch : start.page.teardownCompleteSent = start.stopCalled
  fresh : start.point = .userMedia → start.acquired = []
  held : start.stopCalled = false → ∀ track ∈ start.acquired,
    track ∈ start.page.localStream.getD []
  released : start.stopCalled = true → Released start

lemma Tidy.moves (ht : Tidy start) (hin : MicrophoneInTime start e) (hmoves : Moves start e u) :
    Tidy u := by
  cases hmoves with
  | along _ hpage hstop hacquired hpoint =>
    refine ⟨hpage.isStopping.trans ht.running, ?_, ?_, ?_, ?_⟩
    · rw [hpage.teardownCompleteSent, hstop, ht.latch]
    · intro hat
      rw [hacquired, ht.fresh (hpoint hat)]
    · rw [hstop, hacquired, hpage.localStream]
      exact ht.held
    · rw [hstop, Released, hpage.localStream, hpage.peerConnection, hacquired, hpage.stoppedTracks]
      exact ht.released
  | acquires tracks setup hat hrunning hsent hstop hacquired hstream hpoint =>
    have hcalled : start.stopCalled = false := by simpa [MicrophoneInTime, inTime] using hin
    refine ⟨hrunning.trans ht.running, by rw [hsent, hstop, ht.latch], fun h => absurd h hpoint, ?_,
      ?_⟩
    · intro _ track hmem
      rw [hacquired, ht.fresh hat, List.append_nil] at hmem
      simpa [hstream] using hmem
    · rw [hstop, hcalled]
      simp

lemma Tidy.stop (ht : Tidy start) (options : StopOptions) : Tidy (start.stop options) := by
  cases hcalled : start.stopCalled with
  | true =>
    have hsame : (start.stop options).page = start.page :=
      Page.stopConversation_sent options (ht.latch.trans hcalled)
    refine ⟨hsame ▸ ht.running, hsame ▸ ht.latch.trans hcalled, ht.fresh, by simp [Start.stop], ?_⟩
    intro _
    have hreleased := ht.released hcalled
    rw [Released] at hreleased ⊢
    rwa [hsame]
  | false =>
    obtain ⟨hr, hs, hl, hp, hst⟩ := Page.stopConversation_spec options ht.running
      (ht.latch.trans hcalled)
    refine ⟨hr, hs, ht.fresh, by simp [Start.stop], fun _ => ⟨hl, hp, ?_⟩⟩
    intro track hmem
    have hheld := ht.held hcalled track hmem
    exact hst ▸ List.mem_append_left _ hheld

lemma Tidy.step (ht : Tidy start) (hin : MicrophoneInTime start e) (h : step start e = some w) :
    Tidy w := by
  obtain ⟨u, hmoves, rfl | ⟨options, rfl⟩⟩ := step_cases h
  · exact ht.moves hin hmoves
  · exact (ht.moves hin hmoves).stop options

lemma tidy_startConversation {page : Page} (hidle : Idle page) : Tidy (startConversation page) :=
  ⟨hidle.1, rfl, fun _ => rfl, by simp [startConversation], by simp [startConversation]⟩

/-! ### The microphone given too late -/

/-- The start holds a stream that no call of `stopConversation` will stop. -/
structure Stuck (start : Start) : Prop where
  latched : start.page.teardownCompleteSent = true
  streaming : start.page.localStream ≠ none
  past : start.point ≠ .userMedia

lemma Stuck.step (hs : Stuck start) (h : step start e = some w) : Stuck w := by
  obtain ⟨u, hmoves, hw⟩ := step_cases h
  have hu : Stuck u := by
    cases hmoves with
    | along _ hpage _ _ hpoint =>
      exact ⟨hpage.teardownCompleteSent.trans hs.latched, hpage.localStream ▸ hs.streaming,
        fun hat => hs.past (hpoint hat)⟩
    | acquires _ _ hat => exact absurd hat hs.past
  rcases hw with rfl | ⟨options, rfl⟩
  · exact hu
  · have hsame : (u.stop options).page = u.page := Page.stopConversation_sent options hu.latched
    exact ⟨hsame ▸ hu.latched, hsame ▸ hu.streaming, hu.past⟩

/-- Once `stopConversation` has been called, a start that is given the microphone is stuck. -/
lemma Tidy.stuck (ht : Tidy start) (hlate : ¬MicrophoneInTime start e)
    (h : Conversation.step start e = some w) : Stuck w := by
  obtain ⟨u, hmoves, hw⟩ := step_cases h
  have hu : Stuck u := by
    cases hmoves with
    | along hin => exact absurd hin hlate
    | acquires tracks setup hat hrunning hsent hstop hacquired hstream hpoint =>
      have hcalled : start.stopCalled = true := by simpa [MicrophoneInTime, inTime] using hlate
      exact ⟨hsent.trans (ht.latch.trans hcalled), by simp [hstream], hpoint⟩
  rcases hw with rfl | ⟨options, rfl⟩
  · exact hu
  · have hsame : (u.stop options).page = u.page := Page.stopConversation_sent options hu.latched
    exact ⟨hsame ▸ hu.latched, hsame ▸ hu.streaming, hu.past⟩

/-! ### The two over a run -/

variable {page : Page} {as : List PageEvent}

/-- A run in which the microphone was in time is tidy. -/
lemma tidy_run (hidle : Idle page)
    (h : Run step MicrophoneInTime (startConversation page) as w) : Tidy w :=
  h.invariant (tidy_startConversation hidle) fun _ _ _ ht hin hs => ht.step hin hs

/-- The microphone was in time, or the start is stuck. -/
lemma inTime_or_stuck (hidle : Idle page)
    (h : Run step (fun _ _ => True) (startConversation page) as w) :
    Run step MicrophoneInTime (startConversation page) as w ∨ Stuck w := by
  induction h with
  | nil => exact .inl .nil
  | @snoc _ t u e _ _ hs ih =>
    rcases ih with hin | hstuck
    · by_cases hlast : MicrophoneInTime t e
      · exact .inl (hin.snoc hlast hs)
      · exact .inr ((tidy_run hidle hin).stuck hlast hs)
    · exact .inr (hstuck.step hs)

/-- **A stop wins over a pending start exactly if the microphone comes before it.** Once
`stopConversation` has been called, at the end of the start as anywhere else, the stream and the
peer are gone and every track has been stopped if and only if no microphone was given to the start
after the first call; a microphone that comes later stays on, as the call that found nothing to
release has made every later one a no-op. -/
theorem stop_wins (hidle : Idle page)
    (h : Run step (fun _ _ => True) (startConversation page) as w) (hstop : w.stopCalled = true) :
    Released w ↔ Run step MicrophoneInTime (startConversation page) as w := by
  refine ⟨fun hreleased => ?_, fun hin => (tidy_run hidle hin).released hstop⟩
  rcases inTime_or_stuck hidle h with hin | hstuck
  · exact hin
  · exact absurd hreleased.1 hstuck.streaming

/-- A page as it is opened for a session. -/
def opened : Page where
  localSessionId := some "s"
  socketOpen := true
  controllerSessionClosed := false
  isStopping := false
  stopMessageSent := false
  teardownCompleteSent := false
  dataChannel := none
  peerConnection := none
  localStream := none
  executionScope := none
  closedChannels := []
  closedPeers := []
  stoppedTracks := []
  sent := []

/-- The user stops while the offer is awaited, which then fails. -/
def stoppedAtOffer : List PageEvent :=
  [.userMedia (some [0]) (.complete 0 0), .stop ⟨"button", true⟩, .offer false]

theorem stop_wins_atOffer : ∃ w, Released w ∧ w.acquired = [0] ∧ w.point = .ended := by
  have hexec : ∃ w, exec step inTime (startConversation opened) stoppedAtOffer = some w ∧
      w.stopCalled = true ∧ w.acquired = [0] ∧ w.point = .ended := ⟨_, rfl, rfl, rfl, rfl⟩
  obtain ⟨w, hw, hstop, hacquired, hended⟩ := hexec
  have hin : Run step MicrophoneInTime (startConversation opened) stoppedAtOffer w :=
    run_of_exec (fun _ _ hpass => hpass) _ _ hw
  have hrun := hin.mono fun _ _ _ => trivial
  exact ⟨w, (stop_wins ⟨rfl, rfl, rfl⟩ hrun hstop).mpr hin, hacquired, hended⟩

/-- The user stops before the microphone is granted; the start goes on to a live call, which a
second stop does not end. -/
def stoppedAtMicrophone : List PageEvent :=
  [.stop ⟨"button", true⟩, .userMedia (some [0]) (.complete 0 0), .offer true,
    .localDescription true, .response (some ⟨true, some "scope"⟩), .body true,
    .remoteDescription true, .stop ⟨"button", true⟩]

theorem stop_loses : ∃ w,
    Run step (fun _ _ => True) (startConversation opened) stoppedAtMicrophone w ∧
      w.stopCalled = true ∧ w.point = .ended ∧ ¬Released w ∧ w.page.localStream = some [0] ∧
      w.page.peerConnection = some 0 ∧ w.page.stoppedTracks = [] := by
  have hexec : ∃ w, exec step (fun _ _ => true) (startConversation opened) stoppedAtMicrophone =
      some w ∧ w.stopCalled = true ∧ w.point = .ended ∧ w.page.localStream = some [0] ∧
      w.page.peerConnection = some 0 ∧ w.page.stoppedTracks = [] :=
    ⟨_, rfl, rfl, rfl, rfl, rfl, rfl⟩
  obtain ⟨w, hw, hstop, hended, hstream, hafter⟩ := hexec
  have hheld : ¬Released w := fun hreleased => by simp [hreleased.1] at hstream
  exact ⟨w, run_of_exec (fun _ _ _ => trivial) _ _ hw, hstop, hended, hheld, hstream, hafter⟩

end HermesRealtime.Conversation
