import SwapArchive.Proofs.Fetch.Turns
import SwapArchive.Proofs.Source.Client

/-!
# Runs in spite of broken replies

Two sources that answer alike make two runs alike, whatever else happens on the way to the answers.
A client that is answered behind broken replies answers as without them, as long as there are not
too many at a time. So a run does not tell whether its pages have been asked for once or again.
-/

namespace SwapArchive.Fetch

variable {σ τ : Type} {source : Source σ} {other : Source τ} {R : σ → τ → Prop} {clip : Bool}
  {s s' : State σ} {t t' : State τ}

/-- **Alike**: states with the same cursor, counts and medium, whose sources are related. -/
structure Alike (R : σ → τ → Prop) (s : State σ) (t : State τ) : Prop where
  cursor : t.cursor = s.cursor
  stats : t.stats = s.stats
  medium : t.medium = s.medium
  source : R s.source t.source

/-- A step after the source has been asked. -/
def answered (pageSize : Nat) (clip : Bool) (s : State σ) (notices : List Notice) :
    Outcome (List Swap) → Step σ
  | .error f => ⟨notices, s, some (.sourceFailed f.message)⟩
  | .ok page =>
    match entriesOf page with
    | .error f => ⟨notices, s, some (.sourceFailed f.message)⟩
    | .ok [] => ⟨notices, s, some .exhausted⟩
    | .ok (first :: rest) => commit pageSize clip s notices first rest

theorem step_eq_answered (h : s.cursor.isDone = false) : step source clip s
    = answered source.pageSize clip (s.asked source) (s.reports source) (s.ask source).reply := by
  rw [step, h]
  rfl

theorem commit_alike {pageSize : Nat} {notices notices' : List Notice} {first : Entry}
    {rest : List Entry} (h : Alike R s t) :
    (commit pageSize clip t notices' first rest).reason
        = (commit pageSize clip s notices first rest).reason ∧
      Alike R (commit pageSize clip s notices first rest).state
        (commit pageSize clip t notices' first rest).state := by
  obtain ⟨cursor, stats, medium, state⟩ := s
  obtain ⟨cursor', stats', medium', state'⟩ := t
  obtain ⟨rfl, rfl, rfl, hSource⟩ := h
  dsimp only [commit]
  split
  · exact ⟨rfl, rfl, rfl, rfl, hSource⟩
  · exact ⟨rfl, rfl, rfl, rfl, hSource⟩

theorem answered_alike {pageSize : Nat} {notices notices' : List Notice} (clip : Bool)
    (h : Alike R s t) (reply : Outcome (List Swap)) :
    (answered pageSize clip t notices' reply).reason
        = (answered pageSize clip s notices reply).reason ∧
      Alike R (answered pageSize clip s notices reply).state
        (answered pageSize clip t notices' reply).state := by
  cases reply with
  | error f => exact ⟨rfl, h⟩
  | ok page =>
    unfold answered
    dsimp only
    split
    · exact ⟨rfl, h⟩
    · exact ⟨rfl, h⟩
    · exact commit_alike h

/-- Sources that **answer alike** in two states. -/
structure AnswerAlike (R : σ → τ → Prop) (source : Source σ) (other : Source τ) (s : State σ)
    (t : State τ) : Prop where
  reply : (t.ask other).reply = (s.ask source).reply
  next : R (s.ask source).next (t.ask other).next

theorem isDone_of_next {notices : List Notice} (h : step source clip s = ⟨notices, s', none⟩) :
    s.cursor.isDone = false := by
  simpa [Cursor.isDone] using (step_descends h).2.2

/-- A run that asks has not been at its bound from the start. -/
theorem isDone_of_passes {u : State σ} (h : Passes source clip s u)
    (hAbove : u.cursor.isDone = false) : s.cursor.isDone = false := by
  cases h with
  | here => exact hAbove
  | next hStep _ => exact isDone_of_next hStep

theorem step_alike {notices : List Notice} {reason : Option StopReason}
    (hSize : other.pageSize = source.pageSize) (h : Alike R s t)
    (hAnswer : s.cursor.isDone = false → AnswerAlike R source other s t)
    (hStep : step source clip s = ⟨notices, s', reason⟩) :
    ∃ notices' t', step other clip t = ⟨notices', t', reason⟩ ∧ Alike R s' t' := by
  cases hDone : s.cursor.isDone with
  | true =>
    have hOther : t.cursor.isDone = true := by rw [h.cursor, hDone]
    rw [step, if_pos hDone] at hStep
    cases hStep
    exact ⟨[], t, by rw [step, if_pos hOther], h⟩
  | false =>
    have hOther : t.cursor.isDone = false := by rw [h.cursor, hDone]
    -- Past the bound test a step depends on the source through its reply alone.
    obtain ⟨hReply, hNext⟩ := hAnswer hDone
    have hAsked : Alike R (s.asked source) (t.asked other) :=
      ⟨h.cursor, h.stats, h.medium, hNext⟩
    rw [step_eq_answered hDone] at hStep
    obtain ⟨hReason, hState⟩ := answered_alike clip hAsked (s.ask source).reply
    rw [hStep] at hReason hState
    rw [step_eq_answered hOther, hSize, hReply]
    exact ⟨_, _, congrArg (Step.mk _ _) hReason, hState⟩

/-- **Sources that answer alike make runs alike**: turn after turn, up to the end. -/
theorem walk_alike (hSize : other.pageSize = source.pageSize) (h : Alike R s t)
    (hAnswers : ∀ u v, Passes source clip s u → u.cursor.isDone = false → Alike R u v →
      AnswerAlike R source other u v) :
    turns other clip t = turns source clip s ∧
      (walk other clip t).reason = (walk source clip s).reason ∧
      Alike R (walk source clip s).state (walk other clip t).state := by
  -- along the first run; the other one takes the same number of steps
  fun_induction walk source clip s generalizing t with
  | case1 s notices s' reason hStep =>
    obtain ⟨notices', t', hOther, hState⟩ :=
      step_alike hSize h (fun hDone => hAnswers s t .here hDone h) hStep
    rw [turns_of_stop hStep, turns_of_stop hOther, walk_of_stop hOther]
    exact ⟨rfl, rfl, hState⟩
  | case2 s notices s' hStep rest =>
    rename_i ih
    obtain ⟨notices', t', hOther, hState⟩ :=
      step_alike hSize h (fun hDone => hAnswers s t .here hDone h) hStep
    have hAbove := isDone_of_next hStep
    have hReply := (hAnswers s t .here hAbove h).reply
    have hTurn : t.turn other t' = s.turn source s' := by
      rw [State.turn, State.turn, hReply, hState.medium, hState.cursor, h.medium, h.cursor]
    obtain ⟨hTurns, hEnd, hLast⟩ := ih hState fun u v hPasses => hAnswers u v (.next hStep hPasses)
    rw [turns_of_next hStep, turns_of_next hOther, walk_of_next hOther, hTurns, hTurn]
    exact ⟨rfl, hEnd, hLast⟩

/-- A step asks the source, unless it is at the bound. -/
theorem source_step (source : Source σ) (clip : Bool) (s : State σ) :
    (step source clip s).state.source
      = if s.cursor.isDone then s.source else (s.ask source).next := by
  have hStepped := stepped source clip s
  generalize step source clip s = result at hStepped
  cases hStepped with
  | done hDone => rw [if_pos (by simpa [Cursor.isDone] using hDone)]
  | unanswered hAbove => rw [if_neg (by simpa [Cursor.isDone] using hAbove)]; rfl
  | invalid hAbove => rw [if_neg (by simpa [Cursor.isDone] using hAbove)]; rfl
  | exhausted hAbove => rw [if_neg (by simpa [Cursor.isDone] using hAbove)]; rfl
  | unwritten hAbove => rw [if_neg (by simpa [Cursor.isDone] using hAbove)]; rfl
  | written hAbove => rw [if_neg (by simpa [Cursor.isDone] using hAbove)]; rfl

/-! ## Requests -/

variable {client : Client} {greatest : Nat}

/-- **The queries for one page**: the same one, sent once at least and not more than so often. -/
structure IsBlock (client : Client) (greatest : Nat) (block : List String) (asOf : Int) : Prop where
  some : block ≠ []
  few : block.length ≤ greatest
  same : ∀ query ∈ block, query = client.query asOf

/-- The queries that an endpoint receives, page after page. -/
def Requested (client : Client) (greatest : Nat) (asked : List Int) (received : List String) :
    Prop :=
  ∃ blocks, List.Forall₂ (IsBlock client greatest) blocks asked ∧ received = blocks.flatten

theorem exists_requested {source : Source Endpoint} {s : State Endpoint}
    (hAsk : ∀ u, Passes source clip s u → u.cursor.isDone = false →
      ∃ block, IsBlock client greatest block u.cursor.asOf ∧
        (u.ask source).next.received.reverse = u.source.received.reverse ++ block) :
    ∃ received, Requested client greatest (questions source clip s) received ∧
      (walk source clip s).state.source.received.reverse
        = s.source.received.reverse ++ received := by
  -- The queries of a walk are those of its first question, then those of the rest.
  fun_induction walk source clip s with
  | case1 s notices s' reason hStep =>
    have hSource := source_step source clip s
    rw [hStep] at hSource
    rw [questions_of_stop hStep]
    dsimp only at hSource ⊢
    rw [hSource]
    cases hDone : s.cursor.isDone with
    | true => exact ⟨[], ⟨[], .nil, rfl⟩, (List.append_nil _).symm⟩
    | false =>
      obtain ⟨block, hBlock, hReceived⟩ := hAsk s .here hDone
      exact ⟨block, ⟨[block], .cons hBlock .nil, (List.append_nil _).symm⟩, hReceived⟩
  | case2 s notices s' hStep rest =>
    rename_i ih
    have hSource := source_step source clip s
    have hAbove := isDone_of_next hStep
    rw [hStep, hAbove] at hSource
    obtain ⟨block, hBlock, hReceived⟩ := hAsk s .here hAbove
    obtain ⟨received, ⟨blocks, hBlocks, rfl⟩, hRest⟩ :=
      ih fun u hPasses => hAsk u (.next hStep hPasses)
    rw [questions_of_next hStep]
    refine ⟨block ++ blocks.flatten, ⟨block :: blocks, .cons hBlock hBlocks, rfl⟩, ?_⟩
    rw [hSource, if_neg Bool.false_ne_true, hReceived, List.append_assoc] at hRest
    exact hRest

/-- **The queries of a run** come page after page, if those for every page are the same. -/
theorem requested_walk {source : Source Endpoint} {s : State Endpoint} (h : s.source.received = [])
    (hAsk : ∀ u, Passes source clip s u → u.cursor.isDone = false →
      ∃ block, IsBlock client greatest block u.cursor.asOf ∧
        (u.ask source).next.received.reverse = u.source.received.reverse ++ block) :
    Requested client greatest (questions source clip s)
      (walk source clip s).state.source.received.reverse := by
  obtain ⟨received, hRequested, hReceived⟩ := exists_requested hAsk
  rw [hReceived, h]
  exact hRequested

/-- One query for each page. -/
theorem Requested.single {asked : List Int} {received : List String}
    (h : Requested client 1 asked received) : received = asked.map client.query := by
  obtain ⟨blocks, hBlocks, rfl⟩ := h
  induction hBlocks with
  | nil => rfl
  | @cons block asOf blocks asked hBlock _ ih =>
    obtain ⟨query, rfl⟩ := List.length_eq_one_iff.1
      (Nat.le_antisymm hBlock.few (List.length_pos_iff.2 hBlock.some))
    obtain rfl := hBlock.same query (List.mem_singleton_self query)
    rw [List.flatten_cons, ih, List.map_cons]
    rfl

section Endpoint

variable {address : String} (hTarget : Target.ofText client.proxies client.url = .endpoint address)
  {draw draw' : Nat → UInt64}

include hTarget

/-- A page is asked for with one query, and no more often than there are attempts. -/
theorem block_ask (s : State Endpoint) :
    ∃ block, IsBlock client (client.retry.maxRetries.toNat + 1) block s.cursor.asOf ∧
      (s.ask (client.source draw)).next.received.reverse = s.source.received.reverse ++ block := by
  obtain ⟨n, hFew, hReceived⟩ := Client.runFrom_received client.retry draw hTarget s.cursor.asOf
    client.retry.maxRetries.toNat 0 s.source
  refine ⟨List.replicate (n + 1) (client.query s.cursor.asOf), ⟨nofun, ?_, ?_⟩, ?_⟩
  · rw [List.length_replicate]
    exact Nat.succ_le_succ hFew
  · exact fun query hQuery => List.eq_of_mem_replicate hQuery
  · refine (congrArg List.reverse hReceived).trans ?_
    rw [List.reverse_append, List.reverse_replicate]

/-- A page that arrives at once is asked for once. -/
theorem block_ask_once {s : State Endpoint}
    (hSent : ¬ IsTransport (client.request s.cursor.asOf s.source).1) :
    ∃ block, IsBlock client 1 block s.cursor.asOf ∧
      (s.ask (client.source draw)).next.received.reverse = s.source.received.reverse ++ block := by
  rw [Client.request_eq hTarget] at hSent
  have hCalled := client.retry.runFrom_final draw client.retry.maxRetries.toNat 0
    (Client.request_eq hTarget s.cursor.asOf s.source) hSent
  refine ⟨[client.query s.cursor.asOf], ⟨nofun, Nat.le_refl 1, ?_⟩, ?_⟩
  · exact fun query hQuery => List.mem_singleton.1 hQuery
  · refine (congrArg (fun called => called.state.received.reverse) hCalled).trans ?_
    exact List.reverse_cons

/-- A client answers behind broken replies as without them. -/
theorem answer_padded {s t : State Endpoint}
    (h : Alike (Endpoint.IsPadded client.retry.maxRetries.toNat) s t)
    (hSent : ¬ IsTransport (client.request s.cursor.asOf s.source).1) :
    AnswerAlike (Endpoint.IsPadded client.retry.maxRetries.toNat) (client.source draw)
      (client.source draw') s t := by
  obtain ⟨cursor, stats, medium, replies, received⟩ := s
  obtain ⟨cursor', stats', medium', replies', received'⟩ := t
  obtain ⟨rfl, rfl, rfl, hPadded⟩ := h
  rw [Client.request_eq hTarget] at hSent
  dsimp only [Endpoint.IsPadded] at hPadded hSent
  cases hPadded with
  -- an endpoint without replies fails, which the first run has not seen
  | nil => exact absurd ((Client.transport_iff address (.complete 500 [])).2 rfl) hSent
  | @cons reply rest rest' broken hBroken hFew hRest =>
    have hReply : ¬ reply.IsBroken := mt (Client.transport_iff address reply).2 hSent
    have hCalled := client.retry.runFrom_final draw client.retry.maxRetries.toNat 0
      (Client.request_eq hTarget cursor'.asOf ⟨reply :: rest, received⟩) hSent
    obtain ⟨hResult', hLeft⟩ := Client.runFrom_padded client.retry draw' hTarget hBroken hFew hReply
      rest' cursor'.asOf 0 received'
    refine ⟨hResult'.trans (congrArg Retried.result hCalled).symm, ?_⟩
    show Padded _ (client.retry.run draw (client.request cursor'.asOf) _).state.replies
      (client.retry.run draw' (client.request cursor'.asOf) _).state.replies
    rw [RetryPolicy.run, hCalled, RetryPolicy.run, hLeft]
    exact hRest

end Endpoint

/-- **Unbroken** replies: wherever a run asks, the next reply is no broken one, and it arrives. -/
def Unbroken (client : Client) (draw : Nat → UInt64) (clip : Bool) (s : State Endpoint) : Prop :=
  ∀ t, Passes (client.source draw) clip s t → t.cursor.isDone = false →
    ¬ IsTransport (client.request t.cursor.asOf t.source).1

/-- Replies are unbroken if the first is, and those after the step are. -/
theorem unbroken_of_step {s : State Endpoint} {draw : Nat → UInt64}
    (hFirst : ¬ IsTransport (client.request s.cursor.asOf s.source).1)
    (hRest : (step (client.source draw) clip s).reason = none →
      Unbroken client draw clip (step (client.source draw) clip s).state) :
    Unbroken client draw clip s := by
  intro t hPasses hDone
  cases hPasses with
  | here => exact hFirst
  | next hStep hPasses =>
    rw [hStep] at hRest
    exact hRest rfl t hPasses hDone

/-- **Retries are invisible.** Broken replies before each reply, no more at a time than there are
retries, change nothing in the report of a run, its events and what it leaves of the medium. Both
runs ask for the same pages. The one without broken replies sends one query for each page, and the
other one sends the same query some times more. -/
theorem retries_are_invisible (client : Client) (draw draw' : Nat → UInt64) (clip : Bool)
    (start : Cursor) (medium : Medium) {replies replies' : List Reply}
    (hPadded : Padded client.retry.maxRetries.toNat replies replies')
    (hUnbroken : Unbroken client draw clip ⟨start, {}, medium, ⟨replies, []⟩⟩) :
    let finished := run (client.source draw) clip start medium ⟨replies, []⟩
    let padded := run (client.source draw') clip start medium ⟨replies', []⟩
    let asked := questions (client.source draw) clip ⟨start, {}, medium, ⟨replies, []⟩⟩
    padded.report = finished.report ∧ eventsOf padded.notices = eventsOf finished.notices ∧
      padded.medium = finished.medium ∧
      finished.source.received.reverse = asked.map client.query ∧
      Requested client (client.retry.maxRetries.toNat + 1) asked
        padded.source.received.reverse := by
  intro finished padded asked
  let s : State Endpoint := ⟨start, {}, medium, ⟨replies, []⟩⟩
  let t : State Endpoint := ⟨start, {}, medium, ⟨replies', []⟩⟩
  have hTarget {u : State Endpoint} (hPasses : Passes (client.source draw) clip s u)
      (hDone : u.cursor.isDone = false) :
      ∃ address, Target.ofText client.proxies client.url = .endpoint address :=
    Client.exists_endpoint (hUnbroken u hPasses hDone)
  have hStart : Alike (Endpoint.IsPadded client.retry.maxRetries.toNat) s t :=
    ⟨rfl, rfl, rfl, hPadded⟩
  -- Broken replies before the answer change what the client has received, not what it answers.
  have hAnswers : ∀ u v, Passes (client.source draw) clip s u → u.cursor.isDone = false →
      Alike (Endpoint.IsPadded client.retry.maxRetries.toNat) u v →
      AnswerAlike (Endpoint.IsPadded client.retry.maxRetries.toNat) (client.source draw)
        (client.source draw') u v := by
    intro u v hPasses hDone hAlike
    obtain ⟨_, hReached⟩ := hTarget hPasses hDone
    exact answer_padded hReached hAlike (hUnbroken u hPasses hDone)
  have hSize : (client.source draw').pageSize = (client.source draw).pageSize := rfl
  -- The two runs go through the same turns, since `Alike` is kept by every step.
  obtain ⟨hTurns, hReason, hEnd⟩ := walk_alike hSize hStart hAnswers
  have hAsked : questions (client.source draw') clip t = asked := by
    rw [questions, hTurns, hReason, hEnd.cursor]
    rfl
  have hReport : padded.report = finished.report := by
    show (⟨_, _, _⟩ : Report) = ⟨_, _, _⟩
    rw [hReason, hEnd.cursor, hEnd.stats]
  refine ⟨hReport, ?_, hEnd.medium, ?_, ?_⟩
  · rw [eventsOf_run, eventsOf_run, hTurns, hReport]
  · refine Requested.single (requested_walk rfl fun u hPasses hDone => ?_)
    obtain ⟨_, hReached⟩ := hTarget hPasses hDone
    exact block_ask_once hReached (hUnbroken u hPasses hDone)
  · rw [← hAsked]
    refine requested_walk rfl fun u hPasses hDone => ?_
    have hAbove : t.cursor.isDone = false := isDone_of_passes hPasses hDone
    obtain ⟨_, hReached⟩ := hTarget .here hAbove
    exact block_ask hReached u

/-- A page behind two broken replies, and a reply that is no page behind another broken one. -/
theorem retries_are_invisible_before_malformed :
    let proxy : Url :=
      ⟨Target.plainScheme, some { host := .four ⟨0x7F000001⟩ }, .segments [], none, none⟩
    let client : Client := ⟨"http://[::1]/", ["0x02"], 10, ⟨500, 2⟩, { plain := some proxy }⟩
    let page := Text.encode ("\x7b\"data\":\x7b\"swaps\":[[\"a\",[\"0x1\"],"
      ++ "[\"0x2\",[\"0x3\"],[\"0x4\"]],null,null,\"1\",\"-2\",\"7\"]]\x7d\x7d")
    let replies : List Reply := [.complete 200 page, .complete 200 [0x5B]]
    let replies' : List Reply :=
      [.dropped, .complete 503 page, .complete 200 page, .cut 200, .complete 200 [0x5B]]
    let finished := run (client.source client.retry.centred) true ⟨9, 3⟩ (.ofTable .empty)
      ⟨replies, []⟩
    let padded := run (client.source fun _ => 0) true ⟨9, 3⟩ (.ofTable .empty) ⟨replies', []⟩
    Padded client.retry.maxRetries.toNat replies replies' ∧
      Unbroken client client.retry.centred true ⟨⟨9, 3⟩, {}, .ofTable .empty, ⟨replies, []⟩⟩ ∧
      finished.report = ⟨.sourceFailed ("Malformed response: invalid response body: "
        ++ "EOF while parsing a list at line 1 column 1"), ⟨7, 3⟩, ⟨1, 1, 1, 0⟩⟩ ∧
      padded.report = finished.report ∧ padded.medium.table = finished.medium.table ∧
      finished.source.received.reverse = [client.query 9, client.query 7] ∧
      padded.source.received.reverse
        = [client.query 9, client.query 9, client.query 9, client.query 7, client.query 7] := by
  intro proxy client page replies replies' finished padded
  have hFirst : ∀ b ∈ [Reply.dropped, .complete 503 page], b.IsBroken := by
    simp [Reply.IsBroken, isSuccess]
  have hSecond : ∀ b ∈ [Reply.cut 200], b.IsBroken := by simp [Reply.IsBroken, noContent]
  have hPadded : Padded 2 replies replies' :=
    .cons hFirst (by decide) (.cons hSecond (by decide) .nil)
  have hUnbroken : Unbroken client client.retry.centred true
      ⟨⟨9, 3⟩, {}, .ofTable .empty, ⟨replies, []⟩⟩ :=
    unbroken_of_step (by decide +kernel) fun _ =>
      unbroken_of_step (by decide +kernel) fun hGoesOn => absurd hGoesOn (by decide +kernel)
  obtain ⟨hReport, -, hMedium, -, -⟩ := retries_are_invisible client client.retry.centred
    (fun _ => 0) true ⟨9, 3⟩ (.ofTable .empty) hPadded hUnbroken
  exact ⟨hPadded, hUnbroken, by decide +kernel, hReport, congrArg Medium.table hMedium,
    by decide +kernel, by decide +kernel⟩

end SwapArchive.Fetch
