import TokioProcessTools.OutputStream.Backend.Broadcast.FanoutLines
import TokioProcessTools.OutputStream.Backend.SingleSubscriber.Lines
import TokioProcessTools.OutputStream.Visitors.CollectedBytes
import TokioProcessTools.OutputStream.Visitors.Write

/-!
# Visitors of chunks

`CollectChunks` folds every chunk into a sink, and `WriteChunks` writes every chunk
into a writer. Neither looks at gaps.

What they make of a subscription follows from the text it relays. A bounded byte
collection holds the first or the last bytes of the text and knows whether it is
longer (`fanout_bytes`). A writer that is handed back has the text behind what it
had before, and the first write that fails leaves it with what stands before that
chunk (`reliable_written`). Both hold as long as the stream is not dropped.
-/

set_option autoImplicit false

namespace TokioProcessTools.OutputStream.Visitors

open Foundation Line Backend Backend.SingleSubscriber

/-! ## The visitors -/

/-- `CollectChunks`, whose closure may panic. -/
def collectChunks {T : Type} (f : Chunk → T → Checked T) : StreamVisitor T T where
  onChunk := fun sink chunk => do
    let sink ← f chunk sink
    .ok (sink, .goOn)
  intoOutput := id

/-- `CollectedBytes::collector`. -/
def CollectedBytes.collector (options : RawCollectionOptions) (chunk : Chunk)
    (sink : CollectedBytes) : Checked CollectedBytes :=
  sink.pushChunk chunk.bytes options

/-- The consumer of a subscription that collects its bytes. -/
def collectedBytes (options : RawCollectionOptions) (answers : List (Option StreamEvent)) :
    Checked (Option (Except StreamReadError CollectedBytes)) :=
  consumeSync (collectChunks (CollectedBytes.collector options)) {} (answers.map .nextEvent)

/-- `WriteChunks`. The mapper answers with the bytes of its output. -/
structure WriteChunks (W H : Type) where
  streamName : String
  writer : W
  errorHandler : H
  mapper : Chunk → List UInt8
  error : Option SinkWriteError

section Writing

variable {W H : Type}

/-- `WriteChunks::mapped`. -/
def WriteChunks.mapped (streamName : String) (writer : W) (options : WriteCollectionOptions H)
    (mapper : Chunk → List UInt8) : WriteChunks W H :=
  ⟨streamName, writer, options.errorHandler, mapper, none⟩

/-- `identity_chunk`, with the bytes of the chunk it returns. -/
def identityChunk (chunk : Chunk) : List UInt8 := chunk.bytes

/-- `WriteChunks::passthrough`. -/
def WriteChunks.passthrough (streamName : String) (writer : W) (options : WriteCollectionOptions H) :
    WriteChunks W H :=
  ⟨streamName, writer, options.errorHandler, identityChunk, none⟩

variable (write : AsyncWrite W) (handler : SinkWriteErrorHandler H)

/-- `impl AsyncStreamVisitor for WriteChunks`. -/
def writeChunks : AsyncStreamVisitor (WriteChunks W H) (Except SinkWriteError W) where
  onChunk := fun sink chunk =>
    let bytes := sink.mapper chunk
    let (writer, result) := write.writeAll sink.writer bytes
    match handleWriteResult handler sink.streamName sink.errorHandler .chunk bytes.length result with
    | (errorHandler, .ok _) => .ok ({ sink with writer, errorHandler }, .goOn)
    | (errorHandler, .error error) =>
        .ok ({ sink with writer, errorHandler, error := some error }, .stop)
  intoOutput := fun sink =>
    match sink.error with
    | some error => .error error
    | none => .ok sink.writer

/-- The consumer of a subscription that writes its chunks. -/
def writtenChunks (sink : WriteChunks W H) (answers : List (Option StreamEvent)) :
    Checked (Option (Except StreamReadError (Except SinkWriteError W))) :=
  consumeAsync (writeChunks write handler) sink (answers.map .nextEvent)

end Writing

/-! ## A visitor over chunks -/

/-- The chunks before the end of the stream. -/
def chunksBeforeEnd (answers : List (Option StreamEvent)) : List Chunk :=
  (beforeEnd answers).filterMap fun
    | .chunk chunk => some chunk
    | .gap | .eof | .readError _ => none

section Visiting

variable {V Output : Type} (visitor : StreamVisitor V Output)

/-- A visitor over chunks, until it stops. -/
def visitChunks : V → List Chunk → Checked (V × Next)
  | state, [] => .ok (state, .goOn)
  | state, chunk :: rest => do
      let (state, next) ← visitor.onChunk state chunk
      match next with
      | .stop => .ok (state, .stop)
      | .goOn => visitChunks state rest

/-- The consumer shows its visitor the chunks before the end. -/
theorem consumeSync_visitChunks (quietGap : visitor.onGap = id) (quietEof : visitor.onEof = .ok)
    (state : V) (answers : List (Option StreamEvent)) :
    consumeSync visitor state (answers.map .nextEvent) =
      (visitChunks visitor state (chunksBeforeEnd answers)).map fun visited =>
        visitedResult (visitor.intoOutput visited.1) visited.2 (streamEnd answers) := by
  fun_induction beforeEnd answers generalizing state with
  | case1 chunk rest ih =>
      simp only [List.map_cons, consumeSync, chunksBeforeEnd, beforeEnd, List.filterMap_cons,
        visitChunks, streamEnd]
      cases visited : visitor.onChunk state chunk with
      | error reason => rfl
      | ok reply =>
          obtain ⟨later, next⟩ := reply
          cases next with
          | stop => rfl
          | goOn => exact ih later
  | case2 rest ih =>
      simp only [List.map_cons, consumeSync, quietGap, id]
      exact ih state
  | case3 rest | case5 rest =>
      simp only [List.map_cons, consumeSync, quietEof]
      rfl
  | case4 error rest => rfl
  | case6 => rfl

end Visiting

theorem flatMap_chunksBeforeEnd (answers : List (Option StreamEvent)) :
    ((chunksBeforeEnd answers).map Chunk.bytes).flatten = allBytes (beforeEnd answers) := by
  unfold chunksBeforeEnd
  induction beforeEnd answers with
  | nil => rfl
  | cons event events ih =>
      cases event with
      | chunk chunk => exact congrArg (chunk.bytes ++ ·) ih
      | gap => exact ih
      | eof => exact ih
      | readError error => exact ih

/-! ## What was read -/

section Read

variable {events : List StreamEvent} {ended : Bool} {text : List UInt8}

/-- What was read of a text is a part of it, and without a gap the beginning of it; all of it when the
stream has closed. -/
theorem relays_read (relays : Relays events ended text) :
    let read := allBytes (beforeEnd (answersOf events ended))
    read.Sublist text ∧ (.gap ∉ events → read <+: text ∧
      (streamEnd (answersOf events ended) = some .closed → read = text)) := by
  obtain ⟨told, more, rfl, conveys, whole⟩ := relays.exists_told
  refine ⟨conveys.bytes_sublist.trans (List.sublist_append_left _ _), fun complete => ?_⟩
  rw [conveys.bytes_eq fun gap => complete (mem_of_beforeEnd gap)]
  refine ⟨List.prefix_append _ _, fun closed => ?_⟩
  rw [whole closed, List.append_nil]

end Read

/-! ## Collecting -/

/-- What a collection holds of a stream. -/
def RawCollectionOptions.holds (all : List UInt8) : RawCollectionOptions → CollectedBytes
  | .trustedUnbounded => ⟨all, false⟩
  | .bounded maxBytes behavior => .ofStream maxBytes behavior all

section Collecting

variable (options : RawCollectionOptions)

theorem RawCollectionOptions.holds_nil : options.holds [] = {} := by
  cases options with
  | trustedUnbounded => rfl
  | bounded maxBytes behavior =>
      cases behavior <;> simp [holds, CollectedBytes.ofStream, CollectionOverflowBehavior.kept]

theorem pushChunk_holds (all : List UInt8) (chunk : List UInt8) :
    (options.holds all).pushChunk chunk options = .ok (options.holds (all ++ chunk)) := by
  cases options with
  | trustedUnbounded => rfl
  | bounded maxBytes behavior => exact CollectedBytes.pushChunk_ofStream maxBytes behavior all chunk

/-- **A collection over chunks** holds what it has to of their bytes, and never panics. -/
theorem visitChunks_collector (all : List UInt8) (chunks : List Chunk) :
    visitChunks (collectChunks (CollectedBytes.collector options)) (options.holds all) chunks =
      .ok (options.holds (all ++ (chunks.map Chunk.bytes).flatten), .goOn) := by
  induction chunks generalizing all with
  | nil => rw [List.map_nil, List.flatten_nil, List.append_nil, visitChunks]
  | cons chunk rest ih =>
      have pushed : (collectChunks (CollectedBytes.collector options)).onChunk (options.holds all)
          chunk = .ok (options.holds (all ++ chunk.bytes), .goOn) := by
        simp only [collectChunks, CollectedBytes.collector, pushChunk_holds, checked_ok_bind]
      rw [visitChunks, pushed, checked_ok_bind, List.map_cons, List.flatten_cons, ← List.append_assoc]
      exact ih (all ++ chunk.bytes)

theorem collectedBytes_eq (answers : List (Option StreamEvent)) :
    collectedBytes options answers =
      .ok (visitedResult (options.holds (allBytes (beforeEnd answers))) .goOn (streamEnd answers)) := by
  have visited := visitChunks_collector options [] (chunksBeforeEnd answers)
  rw [options.holds_nil, List.nil_append, flatMap_chunksBeforeEnd] at visited
  rw [collectedBytes, consumeSync_visitChunks _ rfl rfl, visited]
  rfl

end Collecting

/-! ## Writing -/

section FailFast

variable {W : Type} {write : AsyncWrite W} {contents : W → List UInt8}

/-- The pieces were written one behind the other, and no write failed. -/
inductive WroteAll (write : AsyncWrite W) : W → List (List UInt8) → W → Prop where
  | nil (writer : W) : WroteAll write writer [] writer
  | cons {writer next final : W} {piece : List UInt8} {pieces : List (List UInt8)} :
      write.writeAll writer piece = (next, .ok ()) → WroteAll write next pieces final →
        WroteAll write writer (piece :: pieces) final

/-- How a writer was left that was to be written a text: it has all of it, or the first write that
failed is the one of the error. -/
def WroteText (write : AsyncWrite W) (contents : W → List UInt8) (streamName : String) (writer : W)
    (text : List UInt8) : Except SinkWriteError W → Prop
  | .ok final => contents final = contents writer ++ text
  | .error error => ∃ pieces chunk behind before after source,
      text = pieces.flatten ++ chunk ++ behind ∧ WroteAll write writer pieces before ∧
      contents before = contents writer ++ pieces.flatten ∧
      write.writeAll before chunk = (after, .error source) ∧
      error = ⟨streamName, .chunk, chunk.length, source⟩

/-- A visitor that hands every chunk on as it is and stops at the first failure. -/
structure Plain (sink : WriteChunks W Unit) : Prop where
  mapper : sink.mapper = identityChunk
  error : sink.error = none

/-- **One chunk** is appended, or its write fails. -/
theorem onChunk_failFast {sink : WriteChunks W Unit} (plain : Plain sink) (chunk : Chunk) :
    (∃ final, (writeChunks write failFast).onChunk sink chunk = .ok (final, .goOn) ∧ Plain final ∧
      final.streamName = sink.streamName ∧
      write.writeAll sink.writer chunk.bytes = (final.writer, .ok ())) ∨
    ∃ final after source, (writeChunks write failFast).onChunk sink chunk = .ok (final, .stop) ∧
      write.writeAll sink.writer chunk.bytes = (after, .error source) ∧
      final.error = some ⟨sink.streamName, .chunk, chunk.bytes.length, source⟩ := by
  have bytes : sink.mapper chunk = chunk.bytes := by rw [plain.mapper, identityChunk]
  cases answered : write.writeAll sink.writer chunk.bytes with
  | mk writer result =>
      cases result with
      | ok _ =>
          refine .inl ⟨{ sink with writer }, ?_, ⟨plain.mapper, plain.error⟩, rfl, rfl⟩
          simp only [writeChunks, bytes, answered, handleWriteResult]
      | error source =>
          refine .inr ⟨{ sink with
            writer, error := some ⟨sink.streamName, .chunk, chunk.bytes.length, source⟩ },
            writer, source, ?_, rfl, rfl⟩
          simp only [writeChunks, bytes, answered, handleWriteResult, failFast]

/-- **A visitor over chunks.** It writes them all and goes on, or stops at the first failure. -/
theorem visitChunks_failFast
    (appends : ∀ writer bytes next, write.writeAll writer bytes = (next, .ok ()) →
      contents next = contents writer ++ bytes)
    {sink : WriteChunks W Unit} (plain : Plain sink) (chunks : List Chunk) :
    ∃ final next, visitChunks (writeChunks write failFast) sink chunks = .ok (final, next) ∧
      WroteText write contents sink.streamName sink.writer (chunks.map Chunk.bytes).flatten
        ((writeChunks write failFast).intoOutput final) ∧
      (next = .goOn ↔ final.error = none) := by
  induction chunks generalizing sink with
  | nil =>
      refine ⟨sink, .goOn, rfl, ?_, ⟨fun _ => plain.error, fun _ => rfl⟩⟩
      simp only [writeChunks, plain.error]
      exact (List.append_nil _).symm
  | cons chunk rest ih =>
      rw [visitChunks, List.map_cons, List.flatten_cons]
      rcases onChunk_failFast plain chunk with
        ⟨later, visited, stays, name, written⟩ | ⟨final, after, source, visited, failed, error⟩
      · have grown := appends _ _ _ written
        obtain ⟨final, next, ran, wrote, goes⟩ := ih stays
        refine ⟨final, next, by rw [visited]; exact ran, ?_, goes⟩
        rw [name] at wrote
        cases output : (writeChunks write failFast).intoOutput final with
        | ok writer =>
            rw [output] at wrote
            exact wrote.trans (by rw [grown, List.append_assoc])
        | error error =>
            rw [output] at wrote
            obtain ⟨pieces, lost, behind, before, after, source, cut, all, held, failed, same⟩ := wrote
            refine ⟨chunk.bytes :: pieces, lost, behind, before, after, source, ?_, .cons written all,
              ?_, failed, same⟩
            · simp only [cut, List.flatten_cons, List.append_assoc]
            · rw [held, grown, List.flatten_cons, List.append_assoc]
      · have stopped : Next.stop = .goOn ↔ final.error = none := by simp [error]
        refine ⟨final, .stop, by rw [visited]; rfl, ?_, stopped⟩
        have output : (writeChunks write failFast).intoOutput final =
            .error ⟨sink.streamName, .chunk, chunk.bytes.length, source⟩ := by
          simp only [writeChunks, error]
        rw [output]
        exact ⟨[], chunk.bytes, _, sink.writer, after, source, rfl, .nil _, (List.append_nil _).symm,
          failed, rfl⟩

/-- A text of which a beginning was written. -/
theorem WroteText.append_error {streamName : String} {writer : W} {text : List UInt8}
    {error : SinkWriteError} (wrote : WroteText write contents streamName writer text (.error error))
    (more : List UInt8) :
    WroteText write contents streamName writer (text ++ more) (.error error) := by
  obtain ⟨pieces, chunk, behind, before, after, source, rfl, all, held, failed, same⟩ := wrote
  exact ⟨pieces, chunk, behind ++ more, before, after, source, by simp only [List.append_assoc], all,
    held, failed, same⟩

/-- **What a fail-fast writer was left with**, for a subscription that relays a text without a gap. -/
theorem relays_written {events : List StreamEvent} {ended : Bool} {text : List UInt8}
    (relays : Relays events ended text) (complete : .gap ∉ events)
    (appends : ∀ writer bytes next, write.writeAll writer bytes = (next, .ok ()) →
      contents next = contents writer ++ bytes)
    {streamName : String} {writer : W} {outcome : Except SinkWriteError W}
    (returned : writtenChunks write failFast (.passthrough streamName writer ⟨()⟩)
      (answersOf events ended) = .ok (some (.ok outcome))) :
    WroteText write contents streamName writer text outcome := by
  have plain : Plain (WriteChunks.passthrough streamName writer ⟨()⟩) := ⟨rfl, rfl⟩
  obtain ⟨final, next, visited, wrote, goes⟩ :=
    visitChunks_failFast appends plain (chunksBeforeEnd (answersOf events ended))
  rw [writtenChunks, consumeAsync, consumeSync_visitChunks _ rfl rfl, visited] at returned
  have result := Except.ok.inj returned
  obtain ⟨⟨more, split⟩, all⟩ := (relays_read relays).2 complete
  rw [flatMap_chunksBeforeEnd] at wrote
  cases next with
  | stop =>
      cases result
      cases kept : final.error with
      | none => cases goes.mpr kept
      | some error =>
          have output : (writeChunks write failFast).intoOutput final = .error error := by
            simp only [writeChunks, kept]
          rw [output] at wrote ⊢
          rw [← split]
          exact wrote.append_error more
  | goOn =>
      obtain ⟨closed, rfl⟩ := visitedResult_goOn result
      rw [← all closed]
      exact wrote

end FailFast

end TokioProcessTools.OutputStream.Visitors

/-! ## Bytes of a subscription on the fanout path -/

namespace TokioProcessTools.OutputStream.Backend.Broadcast

open Foundation Line Visitors SingleSubscriber

section Bytes

variable {streamName : String} {options : ValidConfig} {before after state : FanoutState}
  {actions : List FanoutAction} {subscription : SharedSubscription}

/-- **A byte collection holds bytes of the snapshot and of what was read since.** A subscription is
created somewhere in a run, and the run goes on without the stream being dropped. A byte collector that
reads the subscription returns. Of the bytes that were yielded before the end it holds the first or
the last, as many as its limit allows, and it knows whether that is everything. They are a part of the
snapshot's bytes followed by those the reader had in its hands then and by all that was read since;
under reliable delivery, and under lossy delivery when no gap was yielded, all of them. -/
theorem fanout_bytes {collection : RawCollectionOptions} {collected : CollectedBytes}
    (reachable : (fanoutMachine streamName options).ReachableBy StreamKept before)
    (subscribed : fanoutStep streamName options.toStreamConfig before .subscribe = some after)
    (ran : (fanoutMachine streamName options).execBy StreamKept after actions = some state)
    (found : state.subscriptions[before.subscriptions.length]? = some subscription)
    (inUse : subscription.status = .inUse)
    (returned : collectedBytes collection
      (answersOf (subscription.yielded.map IndexedEvent.event) subscription.ended) =
        .ok (some (.ok collected))) :
    let shown := allBytes (beforeEnd
      (answersOf (subscription.yielded.map IndexedEvent.event) subscription.ended))
    let text :=
      allBytes ((before.shared.replaySnapshot options.toStreamConfig).1.map IndexedEvent.event) ++
        before.reader.buffered ++ actions.flatMap FanoutAction.bytes
    collected = collection.holds shown ∧ shown.Sublist text ∧
      (options.deliveryGuarantee = .reliableWithBackpressure ∨
        (∀ event ∈ subscription.yielded, event.event ≠ .gap) → shown = text) := by
  obtain ⟨relays, complete⟩ := fanout_relays reachable subscribed ran found inUse
  obtain ⟨sublist, whole⟩ := relays_read relays
  rw [collectedBytes_eq] at returned
  obtain ⟨closed, held⟩ := visitedResult_goOn (Except.ok.inj returned)
  exact ⟨held, sublist, fun lossless => (whole (complete lossless)).2 closed⟩

/-- The last two of the three bytes that were yielded, behind a gap. -/
theorem fanout_bytes_overflow :
    ∃ (before after state : FanoutState) (subscription : SharedSubscription),
      fanoutStep "stdout" lossyConfig.toStreamConfig before .subscribe = some after ∧
      state.subscriptions[before.subscriptions.length]? = some subscription ∧
      collectedBytes (.bounded ⟨2⟩ .dropOldestData)
          (answersOf (subscription.yielded.map IndexedEvent.event) subscription.ended) =
        .ok (some (.ok ⟨[10, 99], true⟩)) ∧
      (⟨[10, 99], true⟩ : CollectedBytes) =
        RawCollectionOptions.holds [97, 10, 99] (.bounded ⟨2⟩ .dropOldestData) ∧
      [97, 10, 99].Sublist ([97, 10, 98, 98, 10, 99] : List UInt8) := by
  obtain ⟨before, after, state, reachable, subscribed, ran, buffered, snapshot, yielded⟩ :=
    (fanoutMachine "stdout" lossyConfig).exists_run StreamKept
      [.read [97], .append [], .deliver] .subscribe
      [.read [10], .append [(0, 0)], .deliver, .deliver, .recv 0, .recv 0, .read [98, 98, 10, 99],
        .append [(0, 0)], .deliver, .deliver, .append [(0, 0)], .deliver, .deliver,
        .append [(0, 0)], .deliver, .deliver, .append [(0, 0)], .deliver, .deliver, .recv 0, .recv 0,
        .readEof, .append [(0, 0)], .deliver, .deliver, .recv 0]
      (fun before state => before.reader = .reading ∧
        (before.shared.replaySnapshot lossyConfig.toStreamConfig).1 = [⟨0, .chunk ⟨[97], 0⟩⟩] ∧
        (state.subscriptions[before.subscriptions.length]?).map (fun subscription =>
          (subscription.status, subscription.yielded.map IndexedEvent.event, subscription.ended)) =
            some (.inUse, [.chunk ⟨[97], 0⟩, .chunk ⟨[10], 1⟩, .gap, .chunk ⟨[99], 5⟩, .eof], false))
      (by decide +kernel)
  obtain ⟨subscription, found, same⟩ := Option.map_eq_some_iff.mp yielded
  obtain ⟨inUse, same⟩ := Prod.mk.inj same
  obtain ⟨yielded, ended⟩ := Prod.mk.inj same
  have returned : collectedBytes (.bounded ⟨2⟩ .dropOldestData)
      (answersOf (subscription.yielded.map IndexedEvent.event) subscription.ended) =
        .ok (some (.ok ⟨[10, 99], true⟩)) := by
    rw [yielded, ended]
    decide +kernel
  have held := fanout_bytes reachable subscribed ran found inUse returned
  rw [buffered, snapshot, yielded, ended] at held
  exact ⟨before, after, state, subscription, subscribed, found, returned, held.1, held.2.1⟩

end Bytes

end TokioProcessTools.OutputStream.Backend.Broadcast

/-! ## Bytes of the single subscriber -/

namespace TokioProcessTools.OutputStream.Backend.SingleSubscriber

open Foundation Line Visitors

section Bytes

variable {streamName : String} {options : ValidConfig} {before after : StreamState}

/-- **Under reliable delivery a fail-fast writer gets all that was read since.** A consumer attaches
somewhere in a run and writes its chunks into a writer whose successful writes append their bytes. Its
text begins where `reliable_relays` says. However the run goes on without the stream being dropped,
when the consumer hands the writer back, exactly the source from there on was appended to it. When it
hands back an error, that is the one of the first write that failed, and exactly what stands before
its chunk had been appended. -/
theorem reliable_written {W : Type} {write : AsyncWrite W} {contents : W → List UInt8}
    (appends : ∀ writer bytes next, write.writeAll writer bytes = (next, .ok ()) →
      contents next = contents writer ++ bytes)
    (reliable : options.deliveryGuarantee = .reliableWithBackpressure)
    (reachable : (streamMachine streamName options).ReachableBy StreamKept before)
    (inactive : before.shared.activeId = none)
    (subscribed : step streamName options.toStreamConfig before .subscribe = some after) :
    ∃ start ≤ before.source.length,
      before.source.drop start = allBytes (before.initial options.toStreamConfig) ++
        allBytes (after.inFlight before.subscriptions.length) ++ before.reader.unrecorded ∧
      ∀ actions state subscription name writer outcome,
        (streamMachine streamName options).execBy StreamKept after actions = some state →
        state.subscriptions[before.subscriptions.length]? = some subscription →
        writtenChunks write failFast (.passthrough name writer ⟨()⟩)
            (answersOf subscription.received subscription.ended) = .ok (some (.ok outcome)) →
          WroteText write contents name writer (state.source.drop start) outcome := by
  obtain ⟨start, inside, begins, always⟩ :=
    reliable_relays reliable reachable inactive subscribed
  refine ⟨start, inside, begins, ?_⟩
  intro actions state subscription name writer outcome ran found returned
  obtain ⟨relays, complete⟩ := always actions state subscription ran found
  exact relays_written relays complete appends returned

/-- A writer with room for two bytes. -/
def fullWrite : AsyncWrite (List UInt8) where
  writeAll := fun contents bytes =>
    if contents.length + bytes.length ≤ 2 then (contents ++ bytes, .ok ())
    else (contents, .error ⟨28, "no space left on device"⟩)

theorem fullWrite_appends (writer bytes next : List UInt8)
    (written : fullWrite.writeAll writer bytes = (next, .ok ())) : next = writer ++ bytes := by
  simp only [fullWrite] at written
  split at written
  · cases written
    rfl
  · cases written

/-- The third of three chunks finds no room. -/
theorem reliable_written_full :
    ∃ (before after state : StreamState) (subscription : SingleSubscription) (start : Nat),
      step "stdout" plainConfig.toStreamConfig before .subscribe = some after ∧
      state.subscriptions[0]? = some subscription ∧
      writtenChunks fullWrite failFast (.passthrough "stdout" [] ⟨()⟩)
          (answersOf subscription.received subscription.ended) =
        .ok (some (.ok (.error ⟨"stdout", .chunk, 1, ⟨28, "no space left on device"⟩⟩))) ∧
      WroteText fullWrite id "stdout" [] (state.source.drop start)
        (.error ⟨"stdout", .chunk, 1, ⟨28, "no space left on device"⟩⟩) := by
  obtain ⟨before, after, state, reachable, subscribed, ran, first, inactive, received⟩ :=
    (streamMachine "stdout" plainConfig).exists_run StreamKept [] .subscribe
      [.changed, .read [97], .reader, .reader, .nextEvent 0, .read [10, 98], .reader, .reader,
        .nextEvent 0, .reader, .reader, .nextEvent 0]
      (fun before state => before.subscriptions.length = 0 ∧ before.shared.activeId = none ∧
        state.subscriptions[0]?.map (fun subscription =>
          answersOf subscription.received subscription.ended) =
            some [some (.chunk ⟨[97], 0⟩), some (.chunk ⟨[10], 1⟩), some (.chunk ⟨[98], 2⟩)])
      (by decide +kernel)
  obtain ⟨subscription, found, received⟩ := Option.map_eq_some_iff.mp received
  have returned : writtenChunks fullWrite failFast (.passthrough "stdout" [] ⟨()⟩)
      (answersOf subscription.received subscription.ended) =
        .ok (some (.ok (.error ⟨"stdout", .chunk, 1, ⟨28, "no space left on device"⟩⟩))) := by
    rw [received]
    rfl
  obtain ⟨start, _, _, always⟩ := @reliable_written _ _ _ _ _ fullWrite id fullWrite_appends rfl
    reachable inactive subscribed
  rw [first] at always
  exact ⟨before, after, state, subscription, start, subscribed, found, returned,
    always _ _ _ _ _ _ ran found returned⟩

end Bytes

end TokioProcessTools.OutputStream.Backend.SingleSubscriber
