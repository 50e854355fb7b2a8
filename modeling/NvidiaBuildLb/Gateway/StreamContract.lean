import NvidiaBuildLb.Gateway.FailoverDiscipline
import NvidiaBuildLb.Gateway.SseReemission

namespace NvidiaBuildLb.Gateway

open Foundation NvidiaBuildLb.Core

/-! What a client reads of a streamed answer, and what is on record of it. -/

/-- The frames that a validator lets pass, chunk by chunk, up to the end of what
it accepts. -/
def acceptedFrames (parse : String → Option Json) :
    SseValidator → List UpstreamEvent → List Bytes
  | validator, .chunk bytes :: rest =>
      match validator.feed parse bytes with
      | .error () => []
      | .ok fed => fed.takeEmitted.1 ++ acceptedFrames parse fed.takeEmitted.2 rest
  | _, _ => []

/-- A frame of data, and not the mark of the end. -/
def IsData (frame : Bytes) : Prop :=
  ∃ data, frame = dataFrame data ∧ isDoneMark data = false

/-- The items a stream ends with. -/
def IsTerminal (frame : Bytes) : Prop :=
  frame = doneFrame ∨ ∃ message, frame = sseErrorFrame message

section Frames

variable {parse : String → Option Json}

theorem dataFrame_head (data : List Char) : (dataFrame data).head? = some 100 := by
  rw [dataFrame_eq, frameBody_eq]
  rfl

theorem sseErrorFrame_head (message : String) :
    (sseErrorFrame message).head? = some 101 := by
  have start : ("event: error\ndata: \x7b\"error\":\x7b\"message\":\"" ++ message ++
      "\",\"type\":\"upstream_stream_error\"\x7d\x7d\n\ndata: [DONE]\n\n").toList =
        'e' :: ("vent: error\ndata: \x7b\"error\":\x7b\"message\":\"".toList ++ message.toList ++
          "\",\"type\":\"upstream_stream_error\"\x7d\x7d\n\ndata: [DONE]\n\n".toList) := by
    rw [String.toList_append, String.toList_append]
    rfl
  rw [sseErrorFrame, utf8, toUTF8_toList, start, encodeUtf8_cons]
  rfl

theorem doneFrame_ne_error (message : String) : doneFrame ≠ sseErrorFrame message := by
  intro same
  have heads := congrArg List.head? same
  rw [sseErrorFrame_head, doneFrame_eq, dataFrame_head] at heads
  cases heads

theorem IsData.not_terminal {frame : Bytes} (isData : IsData frame) :
    ¬IsTerminal frame := by
  obtain ⟨data, rfl, unmarked⟩ := isData
  rintro (isDone | ⟨message, isError⟩)
  · rw [doneFrame_eq] at isDone
    rw [dataFrame_injective isDone] at unmarked
    cases unmarked
  · have heads := congrArg List.head? isError
    rw [dataFrame_head, sseErrorFrame_head] at heads
    cases heads

theorem SseValidator.feed_data {validator fed : SseValidator} {bytes : Bytes}
    (isFed : validator.feed parse bytes = .ok fed)
    (data : ∀ frame ∈ validator.emitted, IsData frame) :
    ∀ frame ∈ fed.emitted, IsData frame := by
  unfold feed at isFed
  split at isFed
  case isTrue => cases isFed
  case isFalse =>
      rw [feedLoop_eq _ _ (by simp)] at isFed
      cases read : (sseFraming.split (validator.buffer ++ bytes)).1.foldlM (takeFrame parse)
          (validator.emitted, validator.checks) with
      | error failure =>
          rw [read] at isFed
          cases isFed
      | ok progress =>
          rw [read] at isFed
          cases isFed
          intro frame member
          have emitted := (taken_of_foldlM read).emitted
          change frame ∈ progress.1 at member
          rw [emitted] at member
          rcases List.mem_append.mp member with earlier | new
          · exact data frame earlier
          · obtain ⟨payload, isPayload, rfl⟩ := List.mem_map.mp new
            obtain ⟨source, _, found⟩ := List.mem_filterMap.mp isPayload
            exact ⟨payload, rfl, notMark_of_payload found⟩

theorem acceptedFrames_data {validator : SseValidator} (upstream : List UpstreamEvent)
    (taken : validator.emitted = []) :
    ∀ frame ∈ acceptedFrames parse validator upstream, IsData frame := by
  induction upstream generalizing validator with
  | nil => exact fun _ => nofun
  | cons event rest induction =>
      cases event with
      | failed => exact fun _ => nofun
      | silent => exact fun _ => nofun
      | chunk bytes =>
          unfold acceptedFrames
          split
          case h_1 => exact fun _ => nofun
          case h_2 fed isFed =>
              intro frame member
              rcases List.mem_append.mp member with new | later
              · refine SseValidator.feed_data isFed ?_ frame new
                rw [taken]
                exact fun _ => nofun
              · exact induction rfl frame later

theorem primeStream_accepted {upstream rest : List UpstreamEvent}
    {validator primed : SseValidator} {pending emitted : List Bytes}
    (isPrimed : primeStream parse upstream validator pending = .ok (rest, primed, emitted)) :
    emitted ++ acceptedFrames parse primed rest =
      pending ++ acceptedFrames parse validator upstream := by
  induction upstream generalizing validator pending with
  | nil => cases isPrimed
  | cons event later induction =>
      cases event with
      | failed => cases isPrimed
      | silent => cases isPrimed
      | chunk bytes =>
          unfold primeStream at isPrimed
          cases isFed : validator.feed parse bytes with
          | error failure =>
              rw [isFed] at isPrimed
              cases isPrimed
          | ok fed =>
              have accepted : acceptedFrames parse validator (.chunk bytes :: later) =
                  fed.takeEmitted.1 ++ acceptedFrames parse fed.takeEmitted.2 later := by
                rw [acceptedFrames, isFed]
              rw [isFed] at isPrimed
              rw [accepted, ← List.append_assoc]
              simp only at isPrimed
              split at isPrimed
              case isTrue =>
                  cases isPrimed
                  rfl
              case isFalse =>
                  split at isPrimed
                  case isTrue => cases isPrimed
                  case isFalse => exact induction isPrimed

end Frames

/-- The request and the attempt with this key, its last one, are open. -/
structure OpenRows (keyId : Uuid) (rows : RequestRows) : Prop where
  request : rows.request = some .started
  attempt : ∃ front streamed, rows.attempts = front ++ [streamed] ∧
    streamed.keyId = keyId ∧ streamed.outcome = .started ∧ streamed.bytesOut = none

structure ClosedRows (request : RequestOutcome) (attempt : AttemptOutcome)
    (bytesOut : Option Int) (rows : RequestRows) : Prop where
  request : rows.request = some (.ended request)
  attempt : ∃ front streamed, rows.attempts = front ++ [streamed] ∧
    streamed.outcome = .ended attempt ∧ streamed.bytesOut = bytesOut

section Rows

variable {rows rows' : RequestRows} {keyId : Uuid}

theorem finishNewest_last {row : AttemptEntry} {terminal : AttemptTerminal}
    (front : List AttemptEntry) (isKey : row.keyId = keyId) (isOpen : row.outcome = .started) :
    finishNewest keyId terminal (front ++ [row]) =
      some (front ++ [row.finish terminal.outcome terminal.bytesOut]) := by
  induction front with
  | nil => simp [finishNewest, isKey, isOpen]
  | cons first rest induction => rw [List.cons_append, finishNewest, induction, List.cons_append]

theorem OpenRows.finished {attempt : AttemptTerminal} {request : RequestTerminal}
    (isOpen : OpenRows keyId rows)
    (wrote : rows.after (.requestAndAttemptFinished keyId attempt request) (.ok ()) =
      some rows') :
    ClosedRows request.outcome attempt.outcome attempt.bytesOut rows' := by
  obtain ⟨started, front, streamed, isLast, isKey, outcome, _⟩ := isOpen
  obtain ⟨between, isBetween, isFinish⟩ := Option.bind_eq_some_iff.mp wrote
  rw [RequestRows.finishAttempt, isLast, finishNewest_last front isKey outcome] at isBetween
  cases isBetween
  rw [RequestRows.finishRequest, if_pos started] at isFinish
  cases isFinish
  exact ⟨rfl, front, _, rfl, rfl, rfl⟩

theorem OpenRows.recovered {terminal : OpenTerminal} (isOpen : OpenRows keyId rows)
    (wrote : rows.after (.requestAndOpenAttemptsFinished terminal) (.ok ()) = some rows') :
    ClosedRows terminal.outcome.ofRequest terminal.outcome
      (some (bytesColumn terminal.bytesOut)) rows' := by
  obtain ⟨started, front, streamed, isLast, _, outcome, _⟩ := isOpen
  have written : (rows.finishOpenAttempts terminal).finishRequest
      terminal.outcome.ofRequest = some rows' := wrote
  have still : (rows.finishOpenAttempts terminal).request = some .started := started
  rw [RequestRows.finishRequest, if_pos still] at written
  cases written
  let closes : AttemptEntry → AttemptEntry := fun row =>
    if row.outcome = .started then
      row.finish terminal.outcome (some (bytesColumn terminal.bytesOut))
    else
      row
  have last : closes streamed =
      streamed.finish terminal.outcome (some (bytesColumn terminal.bytesOut)) := if_pos outcome
  refine ⟨rfl, front.map closes, closes streamed, ?_, ?_, ?_⟩
  · change rows.attempts.map closes = _
    rw [isLast, List.map_append, List.map_singleton]
  · rw [last]
    rfl
  · rw [last]
    rfl

theorem ClosedRows.refuses {request : RequestOutcome} {attempt : AttemptOutcome}
    {bytesOut : Option Int} (closed : ClosedRows request attempt bytesOut rows)
    (terminal : OpenTerminal) :
    rows.after (.requestAndOpenAttemptsFinished terminal) (.ok ()) = none := by
  change (rows.finishOpenAttempts terminal).finishRequest terminal.outcome.ofRequest = none
  rw [RequestRows.finishRequest, if_neg]
  change rows.request ≠ some .started
  rw [closed.request]
  nofun

theorem OpenRows.same (isOpen : OpenRows keyId rows) (attempts : rows'.attempts = rows.attempts)
    (request : rows'.request = rows.request) : OpenRows keyId rows' := by
  obtain ⟨started, attempt⟩ := isOpen
  rw [← request] at started
  rw [← attempts] at attempt
  exact ⟨started, attempt⟩

theorem ClosedRows.same {outcome : RequestOutcome} {ended : AttemptOutcome}
    {bytesOut : Option Int} (closed : ClosedRows outcome ended bytesOut rows)
    (attempts : rows'.attempts = rows.attempts) (request : rows'.request = rows.request) :
    ClosedRows outcome ended bytesOut rows' := by
  obtain ⟨isClosed, attempt⟩ := closed
  rw [← request] at isClosed
  rw [← attempts] at attempt
  exact ⟨isClosed, attempt⟩

end Rows

structure StreamWorld where
  frames : List Bytes
  rows : RequestRows
  /-- A success has been committed and was answered like a failure. -/
  masked : Bool

def masks (op : ProxyOp) (answer effect : op.Answer) : Bool :=
  match op, answer, effect with
  | .requestAndAttemptFinished _ attempt _, .error _, .ok _ => attempt.outcome = .succeeded
  | _, _, _ => false

def frameOf : ProxyOp → List Bytes
  | .emit frame => [frame]
  | _ => []

inductive Streams (op : ProxyOp) (world : StreamWorld) (answer : op.Answer) :
    StreamWorld → Prop where
  | served (effect : op.Answer) (rows : RequestRows)
      (heard : effect = answer ∨ hides op answer = true)
      (wrote : world.rows.after op effect = some rows) :
      Streams op world answer {
        frames := world.frames ++ frameOf op
        rows
        masked := world.masked || masks op answer effect }

/-- The body is read to its end. -/
def streaming : Environment (Held × ProxyOp) (fun request => request.2.Answer)
    StreamWorld where
  answers := fun request world answer after => Streams request.2 world answer after
  drops := fun _ _ _ => False

def streamContract : Contract (Held × ProxyOp) (fun request => request.2.Answer)
    StreamWorld where
  environment := streaming
  waiting := fun _ _ => True
  dropped := fun _ _ => True

/-- Wherever the routine returns in such a world, this holds. -/
def StreamsTo {α : Type} (routine : ProxyRoutine α) (post : α → Held → StreamWorld → Prop)
    (held : Held) (world : StreamWorld) : Prop :=
  routine.wp streamContract (fun _ _ _ => False) post held world

/-- Nothing is read, and the rows of the stream are not written. -/
structure Quiet (before after : StreamWorld) : Prop where
  frames : after.frames = before.frames
  attempts : after.rows.attempts = before.rows.attempts
  request : after.rows.request = before.rows.request
  masked : after.masked = before.masked

section Rules

variable {α β : Type} {held : Held} {world : StreamWorld}

theorem streams_ask {op : ProxyOp} {post : op.Answer → Held → StreamWorld → Prop}
    (next : ∀ answer after, Streams op world answer after → post answer held after) :
    StreamsTo (Proxy.ask op) post held world :=
  ⟨trivial, fun _ dropped => dropped.elim, next⟩

theorem streams_bind {routine : ProxyRoutine α} {next : α → ProxyRoutine β}
    {post : β → Held → StreamWorld → Prop}
    (holds : StreamsTo routine (fun value => StreamsTo (next value) post) held world) :
    StreamsTo (routine >>= next) post held world :=
  Routine.wp_bind.mpr holds

theorem streams_mono {routine : ProxyRoutine α} {post post' : α → Held → StreamWorld → Prop}
    (holds : StreamsTo routine post held world)
    (weaker : ∀ value held world, post value held world → post' value held world) :
    StreamsTo routine post' held world :=
  Routine.wp_mono holds weaker

theorem streams_owned {post : Held → Held → StreamWorld → Prop}
    (next : post held held world) :
    StreamsTo (Routine.owned : ProxyRoutine Held) post held world :=
  next

theorem streams_update {change : Held → Held} {post : Unit → Held → StreamWorld → Prop}
    (next : post () (change held) world) :
    StreamsTo (Routine.update change : ProxyRoutine Unit) post held world :=
  next

theorem Streams.quiet {op : ProxyOp} {answer : op.Answer} {after : StreamWorld}
    (streams : Streams op world answer after) (unrecorded : op.records = false)
    (unread : frameOf op = []) : Quiet world after := by
  obtain ⟨effect, rows, heard, wrote⟩ := streams
  obtain ⟨attempts, request⟩ := unrecorded_rows unrecorded wrote
  have unmasked : masks op answer effect = false := by
    cases op with
    | requestAndAttemptFinished => cases unrecorded
    | _ => rfl
  refine ⟨?_, attempts, request, ?_⟩
  · simp [unread]
  · simp [unmasked]

/-- What closing leaves of a guard. -/
structure SameGuard (before after : StreamAttemptGuard) : Prop where
  drop : after.drop = before.drop
  terminal : after.terminal = before.terminal

variable {guard : StreamAttemptGuard} {keyId : Uuid} {attempt : AttemptTerminal}
  {request : RequestTerminal}

theorem Quiet.refl (world : StreamWorld) : Quiet world world := ⟨rfl, rfl, rfl, rfl⟩

theorem Quiet.trans {first second third : StreamWorld} (earlier : Quiet first second)
    (later : Quiet second third) : Quiet first third :=
  ⟨later.frames.trans earlier.frames, later.attempts.trans earlier.attempts,
    later.request.trans earlier.request, later.masked.trans earlier.masked⟩

theorem streams_releasePermitNow {post : Unit → Held → StreamWorld → Prop}
    (next : ∀ guard' world', SameGuard guard guard' →
      guard'.request.terminal = guard.request.terminal → Quiet world world' →
        post () (.guard guard') world') :
    StreamsTo Proxy.releasePermitNow post (.guard guard) world := by
  refine streams_bind (streams_owned ?_)
  split
  case isTrue =>
      refine streams_bind (streams_ask fun answer after streams => ?_)
      have quiet := streams.quiet rfl rfl
      cases answer with
      | ok released =>
          refine streams_update ?_
          exact next _ _ ⟨rfl, rfl⟩ rfl quiet
      | error failure =>
          refine streams_bind (streams_ask fun answer later streams => ?_)
          refine streams_update ?_
          exact next _ _ ⟨rfl, rfl⟩ rfl (quiet.trans (streams.quiet rfl rfl))
  case isFalse => exact next _ _ ⟨rfl, rfl⟩ rfl (.refl world)

theorem streams_close {post : Unit → Held → StreamWorld → Prop}
    (next : ∀ guard' world', SameGuard guard guard' → guard'.request.terminal = true →
      Quiet world world' → post () (.guard guard') world') :
    StreamsTo Proxy.close post (.guard guard) world := by
  refine streams_bind (streams_update ?_)
  refine streams_releasePermitNow fun guard' world' same terminal quiet => ?_
  exact next guard' world' ⟨same.drop, same.terminal⟩ terminal quiet

theorem Streams.written {op : ProxyOp} {answer : op.Answer} {after : StreamWorld}
    (streams : Streams op world answer after) (unread : frameOf op = []) :
    after.frames = world.frames ∧ ∃ effect, (effect = answer ∨ hides op answer = true) ∧
      world.rows.after op effect = some after.rows ∧
        after.masked = (world.masked || masks op answer effect) := by
  obtain ⟨effect, rows, heard, wrote⟩ := streams
  exact ⟨by simp [unread], effect, heard, wrote, rfl⟩

/-- The end of the attempt is on record, and not known to be. -/
def Lost (attempt : AttemptTerminal) (request : RequestTerminal)
    (before after : StreamWorld) : Prop :=
  ClosedRows request.outcome attempt.outcome attempt.bytesOut after.rows ∧
    after.masked = (before.masked || decide (attempt.outcome = .succeeded))

theorem streams_finishWithAttemptSilently {post : Bool → Held → StreamWorld → Prop}
    (isOpen : OpenRows keyId world.rows)
    (closed : ∀ guard' world', SameGuard guard guard' → guard'.request.terminal = true →
      world'.frames = world.frames → world'.masked = world.masked →
        ClosedRows request.outcome attempt.outcome attempt.bytesOut world'.rows →
          post true (.guard guard') world')
    (failed : ∀ guard' world', SameGuard guard guard' → world'.frames = world.frames →
      (OpenRows keyId world'.rows ∧ world'.masked = world.masked) ∨
        Lost attempt request world world' → post false (.guard guard') world') :
    StreamsTo (Proxy.finishWithAttemptSilently keyId attempt request) post (.guard guard)
      world := by
  refine streams_bind (streams_update ?_)
  refine streams_bind (streams_ask fun answer after streams => ?_)
  obtain ⟨frames, effect, heard, wrote, masked⟩ := streams.written rfl
  cases answer with
  | ok finished =>
      cases heard.resolve_right nofun
      refine streams_bind (streams_close fun guard' world' same terminal quiet => ?_)
      refine closed guard' world' ⟨same.drop, same.terminal⟩ terminal
        (quiet.frames.trans frames) (quiet.masked.trans ?_) ?_
      · simpa [masks] using masked
      · exact (isOpen.finished wrote).same quiet.attempts quiet.request
  | error failure =>
      refine failed _ after ⟨rfl, rfl⟩ frames ?_
      cases effect with
      | error hidden =>
          refine .inl ⟨?_, by simpa [masks] using masked⟩
          have still : some world.rows = some after.rows := wrote
          rw [← Option.some.inj still]
          exact isOpen
      | ok finished => exact .inr ⟨isOpen.finished wrote, masked⟩

theorem streams_finishWithOpenAttemptsSilently (keyId : Uuid) {terminal : OpenTerminal}
    {post : Bool → Held → StreamWorld → Prop}
    (closed : ∀ guard' world', SameGuard guard guard' → guard'.request.terminal = true →
      world'.frames = world.frames → world'.masked = world.masked →
        world.rows.request = some .started →
        (OpenRows keyId world.rows → ClosedRows terminal.outcome.ofRequest terminal.outcome
          (some (bytesColumn terminal.bytesOut)) world'.rows) →
          post true (.guard guard') world')
    (failed : ∀ guard' world', SameGuard guard guard' → world'.frames = world.frames →
      world'.masked = world.masked →
        (world'.rows = world.rows ∨ world.rows.request = some .started ∧
          (OpenRows keyId world.rows → ClosedRows terminal.outcome.ofRequest
            terminal.outcome (some (bytesColumn terminal.bytesOut)) world'.rows)) →
          post false (.guard guard') world') :
    StreamsTo (Proxy.finishWithOpenAttemptsSilently terminal) post (.guard guard) world := by
  have started : ∀ {rows}, world.rows.after (.requestAndOpenAttemptsFinished terminal)
      (.ok ()) = some rows → world.rows.request = some .started := by
    intro rows wrote
    exact (finishRequest_some wrote).1
  refine streams_bind (streams_update ?_)
  refine streams_bind (streams_ask fun answer after streams => ?_)
  obtain ⟨frames, effect, heard, wrote, masked⟩ := streams.written rfl
  have unmasked : after.masked = world.masked := by simpa [masks] using masked
  cases answer with
  | ok finished =>
      cases heard.resolve_right nofun
      refine streams_bind (streams_close fun guard' world' same isTerminal quiet => ?_)
      refine closed guard' world' ⟨same.drop, same.terminal⟩ isTerminal
        (quiet.frames.trans frames) (quiet.masked.trans unmasked) (started wrote)
        fun isOpen => ?_
      exact (isOpen.recovered wrote).same quiet.attempts quiet.request
  | error failure =>
      refine failed _ after ⟨rfl, rfl⟩ frames unmasked ?_
      cases effect with
      | error hidden =>
          have still : some world.rows = some after.rows := wrote
          exact .inl (Option.some.inj still).symm
      | ok finished => exact .inr ⟨started wrote, fun isOpen => isOpen.recovered wrote⟩

/-- The end of the stream is on record as meant, or as a failure, or not known
to be: then it is left to the guard. -/
theorem streams_finishRequestAndAttempt {recoveryBytesOut : Nat}
    {post : StreamTerminalResult → Held → StreamWorld → Prop}
    (isOpen : OpenRows keyId world.rows)
    (committed : ∀ guard' world', SameGuard guard guard' → guard'.request.terminal = true →
      world'.frames = world.frames → world'.masked = world.masked →
        ClosedRows request.outcome attempt.outcome attempt.bytesOut world'.rows →
          post .requestedTerminalCommitted (.guard guard') world')
    (recovered : ∀ guard' world', guard'.terminal = guard.terminal →
      guard'.drop.bytesOut = recoveryBytesOut → guard'.request.terminal = true →
        world'.frames = world.frames → world'.masked = world.masked →
          ClosedRows .failed .failed (some (bytesColumn recoveryBytesOut)) world'.rows →
            post .recoveredAsEvidenceFailure (.guard guard') world')
    (pending : ∀ guard' world', guard'.terminal = guard.terminal →
      guard'.drop.outcome = .failed → guard'.drop.bytesOut = recoveryBytesOut →
        world'.frames = world.frames →
          ((OpenRows keyId world'.rows ∨
              ClosedRows .failed .failed (some (bytesColumn recoveryBytesOut)) world'.rows) ∧
            world'.masked = world.masked) ∨ Lost attempt request world world' →
              post .pendingDropRetry (.guard guard') world') :
    StreamsTo (Proxy.finishRequestAndAttempt keyId attempt request recoveryBytesOut) post
      (.guard guard) world := by
  refine streams_bind (streams_owned ?_)
  refine streams_bind (streams_finishWithAttemptSilently isOpen ?_ ?_)
  · intro guard' world' same terminal frames masked closed
    exact committed guard' world' same terminal frames masked closed
  · intro guard' world' same frames rows
    refine streams_bind (streams_update ?_)
    refine streams_bind (streams_finishWithOpenAttemptsSilently keyId ?_ ?_)
    · intro guardR worldR sameR terminal framesR maskedR started closed
      have drop := sameR.drop
      refine recovered guardR worldR (sameR.terminal.trans same.terminal) ?_ terminal
        (framesR.trans frames) ?_ ?_
      · rw [drop]
        rfl
      · rcases rows with ⟨_, masked⟩ | ⟨lost, _⟩
        · exact maskedR.trans masked
        · cases lost.request.symm.trans started
      · rcases rows with ⟨stillOpen, _⟩ | ⟨lost, _⟩
        · exact closed stillOpen
        · cases lost.request.symm.trans started
    · intro guardP worldP sameP framesP maskedP rowsP
      have drop := sameP.drop
      refine pending guardP worldP (sameP.terminal.trans same.terminal) ?_ ?_
        (framesP.trans frames) ?_
      · rw [drop]
        rfl
      · rw [drop]
        rfl
      · rcases rows with ⟨stillOpen, masked⟩ | ⟨lost, masked⟩
        · refine .inl ⟨?_, maskedP.trans masked⟩
          rcases rowsP with sameRows | ⟨_, closed⟩
          · rw [sameRows]
            exact .inl stillOpen
          · exact .inr (closed stillOpen)
        · rcases rowsP with sameRows | ⟨started, _⟩
          · refine .inr ⟨?_, maskedP.trans masked⟩
            rw [sameRows]
            exact lost
          · cases lost.request.symm.trans started

end Rules

def size (frames : List Bytes) : Nat := (frames.map List.length).sum

theorem size_snoc (sent : List Bytes) (frame : Bytes) :
    size (sent ++ [frame]) = size sent + frame.length := by
  simp [size]

theorem bytesColumn_min (count : Nat) : bytesColumn (min count usizeMax) = bytesColumn count := by
  unfold bytesColumn usizeMax i64Max
  omega

structure Counting (sent : List Bytes) (guard : StreamAttemptGuard) : Prop where
  going : guard.terminal = false
  bytesOut : guard.drop.bytesOut = min (size sent) usizeMax

theorem Counting.record {sent : List Bytes} {guard : StreamAttemptGuard}
    (counting : Counting sent guard) (frame : Bytes) :
    Counting (sent ++ [frame]) (guard.recordBytesOut frame.length) where
  going := counting.going
  bytesOut := by
    change min (guard.drop.bytesOut + frame.length) usizeMax = _
    rw [counting.bytesOut, size_snoc]
    omega

/-- How a stream has ended: what its last frame says, and what is on record. -/
inductive Ends (keyId : Uuid) (sent : List Bytes) (frame : Bytes) (held : Held)
    (world : StreamWorld) : Prop where
  | succeeded (isDone : frame = doneFrame) (unmasked : world.masked = false)
      (unrecovered : held.recovery = none)
      (closed : ClosedRows .succeeded .succeeded
        (some (bytesColumn (size (sent ++ [frame])))) world.rows)
  | failed (isError : ∃ message, frame = sseErrorFrame message)
      (unmasked : world.masked = false)
      (rows : OpenRows keyId world.rows ∨ ClosedRows .failed .failed
        (some (bytesColumn (size (sent ++ [frame])))) world.rows)
      (recovery : ∀ terminal, held.recovery = some terminal → terminal.outcome = .failed ∧
        bytesColumn terminal.bytesOut = bytesColumn (size (sent ++ [frame])))
  | masked (bytesOut : Option Int) (isError : ∃ message, frame = sseErrorFrame message)
      (isMasked : world.masked = true)
      (closed : ClosedRows .succeeded .succeeded bytesOut world.rows)

/-- What stands when the last frame is to be sent. -/
def LastSent (keyId : Uuid) (sent : List Bytes) (frame : Bytes) (held : Held)
    (world : StreamWorld) : Prop :=
  world.frames = sent ∧ Ends keyId sent frame held world

section Closing

variable {sent : List Bytes} {guard : StreamAttemptGuard} {world : StreamWorld}
  {keyId : Uuid} {attempt : AttemptTerminal} {request : RequestTerminal}

theorem streams_failing {frame : Bytes} {message : String}
    (isError : frame = sseErrorFrame message) (counting : Counting (sent ++ [frame]) guard)
    (isOpen : OpenRows keyId world.rows) (frames : world.frames = sent)
    (unmasked : world.masked = false) (failed : attempt.outcome = .failed)
    (failedRequest : request.outcome = .failed)
    (bytesOut : attempt.bytesOut = some (bytesColumn guard.drop.bytesOut)) :
    StreamsTo (do
        let durable ← Proxy.finishRequestAndAttempt keyId attempt request guard.drop.bytesOut
        Proxy.markDurable durable
        return frame)
      (LastSent keyId sent) (.guard guard) world := by
  have count : bytesColumn guard.drop.bytesOut = bytesColumn (size (sent ++ [frame])) := by
    rw [counting.bytesOut, bytesColumn_min]
  refine streams_bind (streams_finishRequestAndAttempt isOpen ?_ ?_ ?_)
  · intro guard' world' same terminal framesAfter masked closed
    refine streams_bind (streams_update ?_)
    refine ⟨framesAfter.trans frames, .failed ⟨message, isError⟩ (masked.trans unmasked)
      (.inr ?_) ?_⟩
    · rwa [failed, failedRequest, bytesOut, count] at closed
    · intro recovery isRecovery
      simp [Held.mapGuard, Held.recovery, StreamTerminalResult.isDurable,
        StreamAttemptGuard.markTerminal, terminal] at isRecovery
  · intro guard' world' going drop terminal framesAfter masked closed
    refine streams_bind (streams_update ?_)
    refine ⟨framesAfter.trans frames, .failed ⟨message, isError⟩ (masked.trans unmasked)
      (.inr ?_) ?_⟩
    · rwa [count] at closed
    · intro recovery isRecovery
      simp [Held.mapGuard, Held.recovery, StreamTerminalResult.isDurable,
        StreamAttemptGuard.markTerminal, terminal] at isRecovery
  · intro guard' world' going outcome drop framesAfter rows
    refine streams_bind (streams_update ?_)
    refine ⟨framesAfter.trans frames, .failed ⟨message, isError⟩ ?_ ?_ ?_⟩
    · rcases rows with ⟨_, masked⟩ | ⟨_, masked⟩
      · exact masked.trans unmasked
      · rw [masked, unmasked, failed]
        rfl
    · rcases rows with ⟨rows, _⟩ | ⟨lost, _⟩
      · rwa [count] at rows
      · rw [failed, failedRequest, bytesOut, count] at lost
        exact .inr lost
    · intro recovery isRecovery
      have going' : guard'.terminal = false := going.trans counting.going
      simp [Held.mapGuard, Held.recovery, StreamTerminalResult.isDurable, going']
        at isRecovery
      rw [← isRecovery, drop]
      exact ⟨outcome, count⟩

theorem streams_failStream (errorClass message : String) (counting : Counting sent guard)
    (isOpen : OpenRows keyId world.rows) (frames : world.frames = sent)
    (unmasked : world.masked = false) :
    StreamsTo (Proxy.failStream keyId errorClass message) (LastSent keyId sent)
      (.guard guard) world := by
  refine streams_bind (streams_update ?_)
  have counted := counting.record (sseErrorFrame message)
  unfold Proxy.finishStreamFailure Proxy.cooldownOf
  simp only [bind_assoc]
  refine streams_bind (streams_ask fun answer after streams => ?_)
  have quiet := streams.quiet rfl rfl
  have still := isOpen.same quiet.attempts quiet.request
  cases answer with
  | ok cooldown =>
      exact streams_failing rfl counted still (quiet.frames.trans frames)
        (quiet.masked.trans unmasked) rfl rfl rfl
  | error failure =>
      exact streams_failing rfl counted still (quiet.frames.trans frames)
        (quiet.masked.trans unmasked) rfl rfl rfl

theorem streams_finishStreamSuccess (counting : Counting sent guard)
    (isOpen : OpenRows keyId world.rows) (frames : world.frames = sent)
    (unmasked : world.masked = false) :
    StreamsTo (Proxy.finishStreamSuccess keyId) (LastSent keyId sent) (.guard guard)
      world := by
  refine streams_bind (streams_ask fun answer after streams => ?_)
  have quiet := streams.quiet rfl rfl
  have still := isOpen.same quiet.attempts quiet.request
  have framesAfter := quiet.frames.trans frames
  have unmaskedAfter := quiet.masked.trans unmasked
  cases answer with
  | error failure =>
      have counted := counting.record (sseErrorFrame "request accounting unavailable")
      refine streams_bind (streams_update ?_)
      refine streams_bind (streams_owned ?_)
      exact streams_failing rfl counted still framesAfter unmaskedAfter rfl rfl rfl
  | ok recorded =>
      refine streams_bind (streams_owned ?_)
      have count : ∀ frame : Bytes, bytesColumn
          (min ((Held.guard guard).drop.bytesOut + frame.length) usizeMax) =
            bytesColumn (size (sent ++ [frame])) := by
        intro frame
        have bytesOut := (counting.record frame).bytesOut
        change min (guard.drop.bytesOut + frame.length) usizeMax = _ at bytesOut
        change bytesColumn (min (guard.drop.bytesOut + frame.length) usizeMax) = _
        rw [bytesOut, bytesColumn_min]
      refine streams_bind (streams_finishRequestAndAttempt still ?_ ?_ ?_)
      · intro guard' world' same terminal framesEnd masked closed
        refine streams_bind (streams_update ?_)
        refine streams_bind (streams_update ?_)
        refine ⟨framesEnd.trans framesAfter, .succeeded rfl (masked.trans unmaskedAfter) ?_ ?_⟩
        · simp [Held.mapGuard, Held.recovery, StreamAttemptGuard.markTerminal,
            StreamAttemptGuard.recordBytesOut, terminal]
        · have counted := count doneFrame
          rw [← counted]
          exact closed
      · intro guard' world' going drop terminal framesEnd masked closed
        refine streams_bind (streams_update ?_)
        refine ⟨framesEnd.trans framesAfter, .failed ⟨_, rfl⟩ (masked.trans unmaskedAfter)
          (.inr ?_) ?_⟩
        · rwa [count] at closed
        · intro recovery isRecovery
          simp [Held.mapGuard, Held.recovery, StreamAttemptGuard.markTerminal, terminal]
            at isRecovery
      · intro guard' world' going outcome drop framesEnd rows
        refine ⟨framesEnd.trans framesAfter, ?_⟩
        rcases rows with ⟨rows, masked⟩ | ⟨lost, masked⟩
        · refine .failed ⟨_, rfl⟩ (masked.trans unmaskedAfter) ?_ ?_
          · rwa [count] at rows
          · intro recovery isRecovery
            have going' : guard'.terminal = false := going.trans counting.going
            simp [Held.recovery, going'] at isRecovery
            rw [← isRecovery, drop]
            exact ⟨outcome, count _⟩
        · refine .masked _ ⟨_, rfl⟩ ?_ lost
          rw [masked]
          simp [AttemptTerminal.succeeded]

/-- The stream is on its way. -/
structure Flowing (keyId : Uuid) (sent : List Bytes) (guard : StreamAttemptGuard)
    (world : StreamWorld) : Prop where
  counting : Counting sent guard
  isOpen : OpenRows keyId world.rows
  frames : world.frames = sent
  unmasked : world.masked = false

/-- The stream is at its end: what was sent before its last frame is the
beginning of what is accepted. -/
def AtEnd (keyId : Uuid) (accepted : List Bytes) (held : Held) (world : StreamWorld) :
    Prop :=
  ∃ sent frame, world.frames = sent ++ [frame] ∧ sent <+: accepted ∧
    Ends keyId sent frame held world

theorem Streams.emitted {frame : Bytes} {after : StreamWorld} {answer : Unit}
    (streams : Streams (.emit frame) world answer after) :
    after.frames = world.frames ++ [frame] ∧ after.rows.attempts = world.rows.attempts ∧
      after.rows.request = world.rows.request ∧ after.masked = world.masked := by
  obtain ⟨effect, rows, heard, wrote⟩ := streams
  obtain ⟨attempts, request⟩ := unrecorded_rows rfl wrote
  exact ⟨rfl, attempts, request, Bool.or_false _⟩

theorem streams_emitPending (pending : List Bytes) {post : Unit → Held → StreamWorld → Prop}
    (flowing : Flowing keyId sent guard world)
    (next : ∀ guard' world', Flowing keyId (sent ++ pending) guard' world' →
      post () (.guard guard') world') :
    StreamsTo (Proxy.emitPending pending) post (.guard guard) world := by
  induction pending generalizing sent guard world with
  | nil =>
      rw [List.append_nil] at next
      exact next guard world flowing
  | cons frame rest induction =>
      refine streams_bind (streams_bind (streams_update (streams_ask ?_)))
      intro answer after streams
      obtain ⟨frames, attempts, request, masked⟩ := streams.emitted
      have further : Flowing keyId (sent ++ [frame]) (guard.recordBytesOut frame.length)
          after :=
        ⟨flowing.counting.record frame, flowing.isOpen.same attempts request,
          by rw [frames, flowing.frames], masked.trans flowing.unmasked⟩
      refine induction further ?_
      rw [List.append_assoc]
      exact next

theorem streams_lastFrame {accepted : List Bytes} {routine : ProxyRoutine Bytes}
    {held : Held} (before : sent <+: accepted)
    (ends : StreamsTo routine (LastSent keyId sent) held world) :
    StreamsTo (do Proxy.ask (.emit (← routine))) (fun _ => AtEnd keyId accepted) held
      world := by
  refine streams_bind (streams_mono ends ?_)
  rintro frame held world ⟨frames, ends⟩
  refine streams_ask fun answer after streams => ?_
  obtain ⟨framesAfter, attempts, request, masked⟩ := streams.emitted
  refine ⟨sent, frame, by rw [framesAfter, frames], before, ?_⟩
  cases ends with
  | succeeded isDone unmasked unrecovered closed =>
      exact .succeeded isDone (masked.trans unmasked) unrecovered
        (closed.same attempts request)
  | failed isError unmasked rows recovery =>
      exact .failed isError (masked.trans unmasked)
        (rows.imp (fun isOpen => isOpen.same attempts request)
          fun closed => closed.same attempts request) recovery
  | masked bytesOut isError isMasked closed =>
      exact .masked bytesOut isError (masked.trans isMasked) (closed.same attempts request)

theorem Flowing.quiet {after : StreamWorld} (flowing : Flowing keyId sent guard world)
    (quiet : Quiet world after) : Flowing keyId sent guard after :=
  ⟨flowing.counting, flowing.isOpen.same quiet.attempts quiet.request,
    quiet.frames.trans flowing.frames, quiet.masked.trans flowing.unmasked⟩

theorem streams_failed {accepted : List Bytes} (errorClass message : String)
    (flowing : Flowing keyId sent guard world) (before : sent <+: accepted) :
    StreamsTo (do Proxy.ask (.emit (← Proxy.failStream keyId errorClass message)))
      (fun _ => AtEnd keyId accepted) (.guard guard) world :=
  streams_lastFrame before (streams_failStream errorClass message flowing.counting
    flowing.isOpen flowing.frames flowing.unmasked)

theorem streams_succeeded {accepted : List Bytes} (flowing : Flowing keyId sent guard world)
    (before : sent <+: accepted) :
    StreamsTo (do Proxy.ask (.emit (← Proxy.finishStreamSuccess keyId)))
      (fun _ => AtEnd keyId accepted) (.guard guard) world :=
  streams_lastFrame before (streams_finishStreamSuccess flowing.counting flowing.isOpen
    flowing.frames flowing.unmasked)

theorem streams_streamFrames {parse : String → Option Json} {accepted : List Bytes}
    (upstream : List UpstreamEvent) {validator : SseValidator} {pending : List Bytes}
    (flowing : Flowing keyId sent guard world)
    (whole : sent ++ (pending ++ acceptedFrames parse validator upstream) = accepted) :
    StreamsTo (Proxy.streamFrames parse keyId upstream validator pending)
      (fun _ => AtEnd keyId accepted) (.guard guard) world := by
  induction upstream generalizing sent guard world validator pending with
  | nil =>
      rw [Proxy.streamFrames]
      refine streams_bind (streams_emitPending pending flowing fun guard' world' further => ?_)
      rw [← List.append_assoc] at whole
      have before : sent ++ pending <+: accepted := whole ▸ List.prefix_append _ _
      split
      case isTrue => exact streams_succeeded further before
      case isFalse =>
          refine streams_bind (streams_ask fun answer after streams => ?_)
          exact streams_failed _ _ (further.quiet (streams.quiet rfl rfl)) before
  | cons event rest induction =>
      rw [Proxy.streamFrames.eq_def]
      refine streams_bind (streams_emitPending pending flowing fun guard' world' further => ?_)
      rw [← List.append_assoc] at whole
      have before : sent ++ pending <+: accepted := whole ▸ List.prefix_append _ _
      split
      case isTrue => exact streams_succeeded further before
      case isFalse =>
          refine streams_bind (streams_ask fun answer after streams => ?_)
          have still := further.quiet (streams.quiet rfl rfl)
          cases event with
          | failed => exact streams_failed _ _ still before
          | silent => exact streams_failed _ _ still before
          | chunk bytes =>
              cases isFed : validator.feed parse bytes with
              | error failure =>
                  simp only [isFed]
                  exact streams_failed _ _ still before
              | ok fed =>
                  simp only [isFed]
                  refine induction still ?_
                  rw [← whole, acceptedFrames, isFed]

end Closing

/-- The rows once the guard is dropped: the task it leaves may close them. -/
inductive Left (held : Held) (rows : RequestRows) : RequestRows → Prop where
  | alone : Left held rows rows
  | recovered {rows' : RequestRows} (terminal : OpenTerminal)
      (left : held.recovery = some terminal)
      (wrote : rows.after (.requestAndOpenAttemptsFinished terminal) (.ok ()) = some rows') :
      Left held rows rows'

def SucceededRows (rows : RequestRows) : Prop :=
  rows.request = some (.ended .succeeded) ∧ ∃ streamed,
    rows.attempts.getLast? = some streamed ∧ streamed.outcome = .ended .succeeded

/-- Some bytes are on record for the attempt. -/
def Counted (rows : RequestRows) : Prop :=
  ∃ streamed, rows.attempts.getLast? = some streamed ∧ streamed.bytesOut ≠ none

structure BodyContract (parse : String → Option Json) (events : List UpstreamEvent)
    (frames : List Bytes) (rows : RequestRows) : Prop where
  body : ∃ sent last, frames = sent ++ [last] ∧
    sent <+: acceptedFrames parse .initial events ∧ IsTerminal last ∧
      ∀ frame ∈ sent, ¬IsTerminal frame
  done : frames.getLast? = some doneFrame ↔ SucceededRows rows
  counted : ∀ streamed count, rows.attempts.getLast? = some streamed →
    streamed.bytesOut = some count → count = size frames

section Contract

variable {parse : String → Option Json} {events : List UpstreamEvent} {frames : List Bytes}
  {rows : RequestRows} {keyId : Uuid} {request : RequestOutcome} {attempt : AttemptOutcome}
  {bytesOut : Option Int}

theorem ClosedRows.last (closed : ClosedRows request attempt bytesOut rows) :
    ∃ streamed, rows.attempts.getLast? = some streamed ∧
      streamed.outcome = .ended attempt ∧ streamed.bytesOut = bytesOut := by
  obtain ⟨_, front, streamed, isLast, outcome, bytes⟩ := closed
  exact ⟨streamed, by simp [isLast], outcome, bytes⟩

theorem bytesColumn_eq (count : Nat) : bytesColumn count = count ↔ (count : Int) ≤ i64Max := by
  unfold bytesColumn
  omega

theorem counted_iff
    (closed : ClosedRows request attempt (some (bytesColumn (size frames))) rows) :
    (∀ streamed count, rows.attempts.getLast? = some streamed →
      streamed.bytesOut = some count → count = size frames) ↔
        (Counted rows → (size frames : Int) ≤ i64Max) := by
  obtain ⟨streamed, isLast, _, bytes⟩ := closed.last
  constructor
  · intro counted _
    exact (bytesColumn_eq _).mp (counted streamed _ isLast bytes)
  · intro room other count isOther isCount
    cases isLast.symm.trans isOther
    cases bytes.symm.trans isCount
    exact (bytesColumn_eq _).mpr (room ⟨streamed, isLast, by rw [bytes]; nofun⟩)

theorem ClosedRows.succeeded_iff (closed : ClosedRows request attempt bytesOut rows) :
    SucceededRows rows ↔ request = .succeeded ∧ attempt = .succeeded := by
  obtain ⟨streamed, isLast, outcome, _⟩ := closed.last
  constructor
  · rintro ⟨succeeded, other, isOther, succeededAttempt⟩
    cases isLast.symm.trans isOther
    cases closed.request.symm.trans succeeded
    cases outcome.symm.trans succeededAttempt
    exact ⟨rfl, rfl⟩
  · rintro ⟨rfl, rfl⟩
    exact ⟨closed.request, streamed, isLast, outcome⟩

theorem OpenRows.uncounted (isOpen : OpenRows keyId rows) : ¬Counted rows := by
  obtain ⟨_, front, streamed, isLast, _, _, bytes⟩ := isOpen
  rintro ⟨other, isOther, counted⟩
  rw [isLast, List.getLast?_concat] at isOther
  cases isOther
  exact counted bytes

theorem OpenRows.not_succeeded (isOpen : OpenRows keyId rows) : ¬SucceededRows rows := by
  rintro ⟨succeeded, _⟩
  cases isOpen.request.symm.trans succeeded

section Ended

variable {sent : List Bytes} {last : Bytes}

theorem body_of_front (accepted : sent <+: acceptedFrames parse .initial events)
    (isTerminal : IsTerminal last) :
    ∃ front final, sent ++ [last] = front ++ [final] ∧
      front <+: acceptedFrames parse .initial events ∧ IsTerminal final ∧
        ∀ frame ∈ front, ¬IsTerminal frame :=
  ⟨sent, last, rfl, accepted, isTerminal, fun frame member =>
    (acceptedFrames_data events rfl frame (accepted.subset member)).not_terminal⟩

theorem contract_of_closed (accepted : sent <+: acceptedFrames parse .initial events)
    (isTerminal : IsTerminal last)
    (told : last = doneFrame ↔ request = .succeeded ∧ attempt = .succeeded)
    (closed : ClosedRows request attempt
      (some (bytesColumn (size (sent ++ [last])))) rows) :
    BodyContract parse events (sent ++ [last]) rows ↔
      (Counted rows → (size (sent ++ [last]) : Int) ≤ i64Max) := by
  constructor
  · intro contract
    exact (counted_iff closed).mp contract.counted
  · intro room
    refine ⟨body_of_front accepted isTerminal, ?_, (counted_iff closed).mpr room⟩
    rw [List.getLast?_concat, Option.some.injEq, told, closed.succeeded_iff]

theorem contract_of_open (accepted : sent <+: acceptedFrames parse .initial events)
    (isTerminal : IsTerminal last) (unended : last ≠ doneFrame)
    (isOpen : OpenRows keyId rows) :
    BodyContract parse events (sent ++ [last]) rows := by
  refine ⟨body_of_front accepted isTerminal, ?_, ?_⟩
  · rw [List.getLast?_concat, Option.some.injEq]
    exact iff_of_false unended isOpen.not_succeeded
  · intro streamed count isLast isCount
    exact absurd ⟨streamed, isLast, by rw [isCount]; nofun⟩ isOpen.uncounted

end Ended

theorem body_contract_iff {upstream : List UpstreamEvent} {validator : SseValidator}
    {pending : List Bytes} {guard : StreamAttemptGuard} {after : StreamWorld}
    {result : Except Response Unit} {held : Held} {rows' : RequestRows}
    (primed : primeStream parse events .initial [] = .ok (upstream, validator, pending))
    (fresh : Counting [] guard) (isOpen : OpenRows keyId rows)
    (run : Reaches streaming { frames := [], rows, masked := false }
      (Proxy.chatResponseStream parse { keyId, upstream, validator, pending } (.guard guard))
      after (.returned (result, held)))
    (left : Left held after.rows rows') :
    BodyContract parse events after.frames rows' ↔
      after.masked = false ∧ (Counted rows' → (size after.frames : Int) ≤ i64Max) := by
  have whole : [] ++ (pending ++ acceptedFrames parse validator upstream) =
      acceptedFrames parse .initial events := primeStream_accepted primed
  have allowed := Program.wp_sound
    (streams_streamFrames upstream ⟨fresh, isOpen, rfl, rfl⟩ whole) run
  cases result with
  | error response => exact allowed.elim
  | ok value =>
  obtain ⟨sent, last, frames, accepted, ends⟩ := allowed
  rw [frames]
  cases ends with
  | succeeded isDone unmasked unrecovered closed =>
      have same : rows' = after.rows := by
        cases left with
        | alone => rfl
        | recovered terminal left wrote => cases unrecovered.symm.trans left
      rw [same, unmasked]
      refine (contract_of_closed accepted (.inl isDone) (by simp [isDone]) closed).trans ?_
      simp
  | failed isError unmasked rows recovery =>
      obtain ⟨message, rfl⟩ := isError
      have unended : sseErrorFrame message ≠ doneFrame := (doneFrame_ne_error message).symm
      have isTerminal : IsTerminal (sseErrorFrame message) := .inr ⟨message, rfl⟩
      have failed : ∀ {rows}, ClosedRows .failed .failed
          (some (bytesColumn (size (sent ++ [sseErrorFrame message])))) rows →
          (BodyContract parse events (sent ++ [sseErrorFrame message]) rows ↔
            after.masked = false ∧ (Counted rows →
              (size (sent ++ [sseErrorFrame message]) : Int) ≤ i64Max)) := by
        intro rows closed
        rw [unmasked]
        refine (contract_of_closed accepted isTerminal (by simp [unended]) closed).trans ?_
        simp
      cases left with
      | alone =>
          rcases rows with stillOpen | closed
          · refine iff_of_true (contract_of_open accepted isTerminal unended stillOpen)
              ⟨unmasked, fun counted => absurd counted stillOpen.uncounted⟩
          · exact failed closed
      | recovered terminal left wrote =>
          obtain ⟨outcome, count⟩ := recovery terminal left
          rcases rows with stillOpen | closed
          · have recovered := stillOpen.recovered wrote
            rw [outcome, count] at recovered
            exact failed recovered
          · rw [closed.refuses] at wrote
            cases wrote
  | masked bytesOut isError isMasked closed =>
      obtain ⟨message, rfl⟩ := isError
      have same : rows' = after.rows := by
        cases left with
        | alone => rfl
        | recovered terminal left wrote =>
            rw [closed.refuses] at wrote
            cases wrote
      rw [same, isMasked]
      refine iff_of_false (fun contract => ?_) (by simp)
      have told := contract.done.mpr (closed.succeeded_iff.mpr ⟨rfl, rfl⟩)
      rw [List.getLast?_concat, Option.some.injEq] at told
      exact doneFrame_ne_error message told.symm

end Contract

namespace StreamSample

open Sse.Sample (parse stream chunkText)

def frame : Bytes := dataFrame chunkText.toList

def read : SseValidator where
  buffer := []
  emitted := []
  checks := {
    done := true
    frameCount := 2
    dataFrameCount := 1
    messageId := some "é"
    model := some "m" }

def readWhole : Except Unit (List UpstreamEvent × SseValidator × List Bytes) → Bool
  | .ok ([], validator, pending) => decide (validator = read ∧ pending = [frame])
  | _ => false

theorem primed : primeStream parse [.chunk stream] .initial [] = .ok ([], read, [frame]) := by
  have isRead : readWhole (primeStream parse [.chunk stream] .initial []) = true := by
    decide +kernel
  unfold readWhole at isRead
  split at isRead
  case h_1 validator pending same =>
      obtain ⟨rfl, rfl⟩ := of_decide_eq_true isRead
      exact same
  case h_2 => cases isRead

def guard : StreamAttemptGuard where
  terminal := false
  request := {
    terminal := false
    permitAcquired := false
    dropRecovery := .handlerAbandoned }
  drop := {
    outcome := .cancelled
    statusCode := some 200
    errorClass := "downstream_cancelled"
    ttfbMs := some 5
    bytesOut := 0 }

theorem fresh : Counting [] guard := ⟨rfl, rfl⟩

def rows : RequestRows where
  permit := .absent
  request := some .started
  attempts := [{ keyId := 1, attemptNo := 1, outcome := .started, bytesOut := none }]

theorem rows_open : OpenRows 1 rows := ⟨rfl, [], _, rfl, rfl, rfl, rfl⟩

/-- The database answers like this, and has done so or, where that is not told,
like that. -/
def serve (answers effects : ∀ op : ProxyOp, op.Answer) (request : Held × ProxyOp)
    (world : StreamWorld) : Option (request.2.Answer × StreamWorld) :=
  let effect :=
    if hides request.2 (answers request.2) then effects request.2 else answers request.2
  (world.rows.after request.2 effect).map fun rows => (answers request.2, {
    frames := world.frames ++ frameOf request.2
    rows
    masked := world.masked || masks request.2 (answers request.2) effect })

theorem serve_streams (answers effects : ∀ op : ProxyOp, op.Answer)
    (request : Held × ProxyOp) (world : StreamWorld) (answer : request.2.Answer)
    (after : StreamWorld) (served : serve answers effects request world = some (answer, after)) :
    streaming.answers request world answer after := by
  obtain ⟨rows, wrote, same⟩ := Option.map_eq_some_iff.mp served
  cases same
  refine .served _ rows ?_ wrote
  by_cases hidden : hides request.2 (answers request.2) = true
  · exact .inr hidden
  · exact .inl (if_neg hidden)

def plain : ∀ op : ProxyOp, op.Answer := (ProxyScript.limiting none).answers

/-- The success is committed, and neither it nor what follows is told. -/
def losing : ∀ op : ProxyOp, op.Answer
  | .requestAndAttemptFinished _ _ _ => .error ()
  | .requestAndOpenAttemptsFinished _ => .error ()
  | op => plain op

def committing : ∀ op : ProxyOp, op.Answer
  | .requestAndOpenAttemptsFinished _ => .error ()
  | op => plain op

def start : StreamWorld where
  frames := []
  rows
  masked := false

def streamed (answers : ∀ op : ProxyOp, op.Answer) :
    StreamWorld × Foundation.Ending (Held × ProxyOp) (Except Response Unit × Held) :=
  (Proxy.chatResponseStream parse
    { keyId := 1, upstream := [], validator := read, pending := [frame] }
    (.guard guard)).perform (serve answers committing) 9 start

theorem body_contract_iff_told : ∃ held,
    (streamed plain).2 = .returned (.ok (), held) ∧
      (BodyContract parse [.chunk stream] (streamed plain).1.frames (streamed plain).1.rows ↔
        (streamed plain).1.masked = false ∧ (Counted (streamed plain).1.rows →
          (size (streamed plain).1.frames : Int) ≤ i64Max)) :=
  ⟨_, rfl, body_contract_iff primed fresh rows_open
    (Program.perform_reaches (serve_streams plain committing) 9 _ start) .alone⟩

/-- A success is on record, and the client reads of an error. -/
theorem body_contract_lost :
    ¬∀ (parse : String → Option Json) (events upstream : List UpstreamEvent)
      (validator : SseValidator) (pending : List Bytes) (keyId : Uuid)
      (guard : StreamAttemptGuard) (rows rows' : RequestRows) (after : StreamWorld)
      (result : Except Response Unit) (held : Held),
      primeStream parse events .initial [] = .ok (upstream, validator, pending) →
        Counting [] guard → OpenRows keyId rows →
        Reaches streaming { frames := [], rows, masked := false }
          (Proxy.chatResponseStream parse { keyId, upstream, validator, pending }
            (.guard guard)) after (.returned (result, held)) →
        Left held after.rows rows' → BodyContract parse events after.frames rows' := by
  intro always
  have contract := always parse [.chunk stream] [] read [frame] 1 guard rows _ _ (.ok ()) _
    primed fresh rows_open
    (Program.perform_reaches (serve_streams losing committing) 9 _ start) .alone
  have succeeded : SucceededRows (streamed losing).1.rows := ⟨rfl, _, rfl, rfl⟩
  have told := contract.done.mpr succeeded
  exact doneFrame_ne_error "request evidence unavailable" (Option.some.inj told).symm

end StreamSample

end NvidiaBuildLb.Gateway
