import Switchboard.Proofs.Connection.Outward

/-!
# What a response reports

A method ends well, with an error or in a panic; its reply may or may not have bytes. On its way to
the wire the outcome becomes a text, and an empty text stands for success: the response has the
reply if the text is empty and the reply can be encoded, and an error and no body if not.

The texts of all errors but one kind begin with words of their own. A method's own error is reported
as it is, and nothing keeps it from being the empty text: that failure looks like a success.

Results:

* `Outcome.report_eq_empty_iff`: the outcomes with an empty text.
* `Exchange.response_of_returned`: a call whose body ended with `finished` sends the response to
  that and no other.
* `Exchange.truthful_iff`: which responses tell the truth about their calls, for every call and
  every schedule.
-/

namespace Switchboard

/-! ## Texts of errors -/

theorem ne_empty_of_append {a : String} (h : a ≠ "") (b : String) : a ++ b ≠ "" :=
  fun hab => h (String.append_eq_empty_iff.1 hab).1

theorem AddressError.message_ne_empty (e : AddressError) : e.message ≠ "" := by
  cases e with
  | illFormed a => exact ne_empty_of_append (by decide) a
  | unknownService a => exact ne_empty_of_append (by decide) a
  | unknownMethod a => exact ne_empty_of_append (by decide) a

theorem HolderError.message_ne_empty (e : HolderError) : e.message ≠ "" := by
  have three {a : String} (h : a ≠ "") (b c d : String) : a ++ b ++ c ++ d ≠ "" :=
    ne_empty_of_append (ne_empty_of_append (ne_empty_of_append h b) c) d
  cases e with
  | argumentType m t => exact three (by decide) m _ t
  | replyType m t => exact three (by decide) m _ t
  | convention m => exact ne_empty_of_append (ne_empty_of_append (by decide) m) _
  | decode t cause => exact three (by decide) t _ _
  | encode t cause => exact three (by decide) t _ _

theorem Payload.report_ne_empty (address : String) (p : Payload) : p.report address ≠ "" :=
  ne_empty_of_append (ne_empty_of_append (ne_empty_of_append (by decide) address) _) _

/-- Of all errors only a method's own can have the empty text. -/
theorem CallError.message_eq_empty_iff (e : CallError) : e.message = "" ↔ e = .method "" := by
  cases e with
  | address e => exact ⟨fun h => absurd h e.message_ne_empty, fun h => nomatch h⟩
  | holder e => exact ⟨fun h => absurd h e.message_ne_empty, fun h => nomatch h⟩
  | method text => exact ⟨fun h => congrArg CallError.method h, fun h => CallError.method.inj h⟩

/-- The outcomes that are reported by the empty text. -/
theorem Outcome.report_eq_empty_iff (address : String) (o : Outcome) :
    o.report address = "" ↔ o = .ok ∨ o = .failed (.method "") := by
  cases o with
  | ok => exact ⟨fun _ => .inl rfl, fun _ => rfl⟩
  | failed e =>
    rw [Outcome.report, e.message_eq_empty_iff]
    constructor
    · rintro rfl
      exact .inr rfl
    · rintro (h | h)
      · cases h
      · exact Outcome.failed.inj h
  | panicked p =>
    constructor
    · intro h
      exact absurd h (p.report_ne_empty address)
    · rintro (h | h) <;> cases h

variable {ι σ κ : Type} [MessageFamily ι]

/-! ## The response to an outcome -/

namespace Request

/-- The response to how the method ended. -/
def response (r : Request) (finished : Finished ι) : Frame :=
  (r.compose finished.reply (finished.outcome.report r.address)).2

theorem compose_of_error (r : Request) (reply : Reply ι) {error : String} (h : error ≠ "") :
    (r.compose reply error).2 = ⟨⟨r.address, r.seq, error⟩, []⟩ := by
  rw [compose, if_neg h]

theorem compose_of_encode (r : Request) {reply : Reply ι} {body : Bytes}
    (h : reply.encode = .ok body) :
    (r.compose reply "").2 = ⟨⟨r.address, r.seq, ""⟩, body⟩ := by
  rw [compose, if_pos rfl, h]

theorem compose_of_encode_error (r : Request) {reply : Reply ι} {e : HolderError}
    (h : reply.encode = .error e) :
    (r.compose reply "").2 = ⟨⟨r.address, r.seq, e.message⟩, []⟩ := by
  rw [compose, if_pos rfl, h]

/-- A response looks like a success if the text is empty and the reply has bytes, which are its
body then; otherwise it has no body. -/
theorem compose_success_iff (r : Request) (reply : Reply ι) (error : String) :
    let f := (r.compose reply error).2
    (f.header.error = "" ↔ error = "" ∧ ∃ body, reply.encode = .ok body) ∧
      (f.header.error = "" → reply.encode = .ok f.body) ∧
      (f.header.error ≠ "" → f.body = []) := by
  by_cases h : error = ""
  · subst h
    cases he : reply.encode with
    | ok body =>
      rw [r.compose_of_encode he]
      exact ⟨⟨fun _ => ⟨rfl, body, rfl⟩, fun _ => rfl⟩, fun _ => rfl, fun h => absurd rfl h⟩
    | error e =>
      rw [r.compose_of_encode_error he]
      refine ⟨⟨fun h => absurd h e.message_ne_empty, ?_⟩, fun h => absurd h e.message_ne_empty,
        fun _ => rfl⟩
      rintro ⟨-, body, hb⟩
      cases hb
  · rw [r.compose_of_error reply h]
    exact ⟨⟨fun he => absurd he h, fun he => absurd he.1 h⟩, fun he => absurd he h, fun _ => rfl⟩

end Request

/-- The response tells how the method ended: it looks like a success exactly if the method ended
well and its reply has bytes, which are its body then, and with an error it has no body. -/
structure Frame.Truthful (f : Frame) (finished : Finished ι) : Prop where
  success : f.header.error = "" ↔
    finished.outcome = .ok ∧ ∃ body, finished.reply.encode = .ok body
  body : f.header.error = "" → finished.reply.encode = .ok f.body
  empty : f.header.error ≠ "" → f.body = []

/-- A response is truthful unless it stands for a failure with the empty text whose reply has
bytes. -/
theorem Request.truthful_response_iff (r : Request) (finished : Finished ι) :
    (r.response finished).Truthful finished ↔
      ¬(finished.outcome = .failed (.method "") ∧
        ∃ body, finished.reply.encode = .ok body) := by
  obtain ⟨herror, hbody, hempty⟩ :=
    r.compose_success_iff finished.reply (finished.outcome.report r.address)
  rw [Outcome.report_eq_empty_iff] at herror
  constructor
  · rintro ⟨htruth, -, -⟩ ⟨hfailed, hencode⟩
    have hok := (htruth.1 (herror.2 ⟨.inr hfailed, hencode⟩)).1
    rw [hfailed] at hok
    cases hok
  · intro hnot
    refine ⟨⟨?_, ?_⟩, hbody, hempty⟩
    · intro h
      obtain ⟨hok | hfailed, hencode⟩ := herror.1 h
      · exact ⟨hok, hencode⟩
      · exact absurd ⟨hfailed, hencode⟩ hnot
    · rintro ⟨hok, hencode⟩
      exact herror.2 ⟨.inl hok, hencode⟩

/-! ## From the end of a body to the wire -/

namespace Phase

/-- The body is not over, or it is over and the call has not gone on yet. -/
def isUnanswered : Phase ι σ κ → Bool
  | .accepted _ | .registered .. | .ready .. | .running .. | .flagging .. => true
  | _ => false

/-- The body ended with `finished`, and what is left of the call belongs to that. -/
def Returned (r : Request) (finished : Finished ι) : Phase ι σ κ → Prop
  | .running _ rest => rest = .done finished
  | .releasing _ _ fin => fin = finished
  | .released fin => fin = finished
  | .answering reply error => reply = finished.reply ∧ error = finished.outcome.report r.address
  | .writing frame? _ => frame? = some (r.response finished)
  | .written | .forgotten | .over => True
  | _ => False

end Phase

namespace Moves

variable [Inhabited σ] {i : CallId} {r : Request} {guarded : Bool} {s s' : Station ι σ κ}
  {phase phase' : Phase ι σ κ}

/-- A move that sends a response sends what was written. -/
theorem responses (h : Moves i r guarded s phase phase' s') :
    s'.connection.responses = s.connection.responses ∨
      ∃ f, phase = .writing (some f) [] ∧
        s'.connection.responses = s.connection.responses ++ [(some i, f)] := by
  cases h.outward with
  | silent before after same => exact .inl same.responses
  | lock reply error free =>
    exact .inl (s.connection.silent_lock i (r.compose reply error).1).responses
  | write frame? piece rest => exact .inl rfl
  | unlock frame? =>
    have hsent := s.connection.responses_unlock i frame?
    cases frame? with
    | none => exact .inl (hsent.trans (List.append_nil _))
    | some f => exact .inr ⟨f, rfl, hsent⟩
  | forget => exact .inl (s.connection.responses_free i r.seq)
  | finish =>
    cases guarded with
    | false => exact .inl rfl
    | true => exact .inl (s.connection.responses_dropGuard i)

/-- Before the call has gone on from the end of its body, the next move keeps it so, or the body is
over and the move is the first of what is left. -/
theorem unanswered (h : Moves i r guarded s phase phase' s') (hp : phase.isUnanswered = true) :
    phase'.isUnanswered = true ∨
      ∃ place finished, phase = .running place (.done finished) ∧ phase'.Returned r finished := by
  cases h with
  | release place finished locks => exact .inr ⟨place, finished, rfl, rfl⟩
  | settle => cases hp
  | report => cases hp
  | lock => cases hp
  | write => cases hp
  | unlock => cases hp
  | forget => cases hp
  | finish => cases hp
  | _ => exact .inl rfl

/-- What is left of a call after its body belongs to how the body ended. -/
theorem returned (h : Moves i r guarded s phase phase' s') {finished : Finished ι}
    (hp : phase.Returned r finished) : phase'.Returned r finished := by
  cases h with
  | start => cases hp
  | handOver => cases hp
  | enter => cases hp
  | hunt => cases hp
  | miss => cases hp
  | refuse => cases hp
  | act => cases hp
  | flag => cases hp
  | giveBack => exact hp
  | release place fin locks => exact Script.done.inj hp
  | settle => exact hp
  | report fin =>
    cases hp
    exact ⟨rfl, rfl⟩
  | lock reply error free =>
    obtain ⟨rfl, rfl⟩ := hp
    exact rfl
  | write => exact hp
  | unlock => trivial
  | forget => trivial
  | finish => trivial

end Moves

/-- A receiver with one method, which fails with the given text. -/
def Receiver.failing (text : String) : Receiver Empty Unit Empty where
  typeName := "Failing"
  candidates := [.byPointer "Failing" "Fail"
    (fun _ _ r => pure (r, .failed text) : Body Empty Unit Empty .unit .bool)]
  initial := ()

/-- A server that offers it. -/
def Server.failing (text : String) : Server Empty Unit Empty :=
  match (Server.bare.register (.failing text) none).2 with
  | .ok server => server
  | .error _ => .bare

namespace Exchange

variable [Inhabited σ] {x y z : Exchange ι σ κ} {i : CallId} {r : Request} {guarded : Bool}

omit [Inhabited σ] in
/-- A call that arrives sends nothing. -/
theorem responses_arrive (x : Exchange ι σ κ) (guarded : Bool) (call : Option CallId)
    (events : List Event) :
    ((if guarded then x.station.connection.addGuard else x.station.connection).record
      (logged call events)).responses = x.connection.responses := by
  have hlog := (if guarded then x.station.connection.addGuard
    else x.station.connection).silent_record _ (remarks_logged call events).responses
  rw [hlog.responses]
  cases guarded <;> rfl

/-- A response that is new was the last piece of some call's writing. -/
theorem Next.mem_responses (h : x.Next y) {call : Option CallId} {f : Frame}
    (hf : (call, f) ∈ y.connection.responses) :
    (call, f) ∈ x.connection.responses ∨
      ∃ i c, call = some i ∧ x.calls[i]? = some c ∧ c.phase = .writing (some f) [] := by
  cases h with
  | arrive request guarded phase events first =>
    exact .inl (x.responses_arrive guarded x.calls.length events ▸ hf)
  | @move j c phase station here moves =>
    rcases moves.responses with h | ⟨g, hp, h⟩
    · exact .inl (h ▸ hf)
    · rw [connection, h] at hf
      rcases List.mem_append.1 hf with hf | hf
      · exact .inl hf
      · cases List.mem_singleton.1 hf
        exact .inr ⟨j, c, rfl, here, hp⟩

/-- Only a call that has begun to write has sent a response. -/
theorem not_mem_responses {server : Server ι σ κ} {ref : TableRef}
    (h : (new server ref).Runs x) {phase : Phase ι σ κ}
    (here : x.calls[i]? = some ⟨r, guarded, phase⟩) (hp : phase.isInside = true) (f : Frame) :
    (some i, f) ∉ x.connection.responses := by
  have hall : ∀ i f, (some i, f) ∈ x.connection.responses →
      ∃ c, x.calls[i]? = some c ∧ c.phase.isInside = false := by
    refine h.invariant (P := fun x => ∀ i f, (some i, f) ∈ x.connection.responses →
      ∃ c, x.calls[i]? = some c ∧ c.phase.isInside = false) (fun _ _ h => nomatch h) ?_
    intro x y hnext ih i f hf
    have hx : ∃ c, x.calls[i]? = some c ∧ c.phase.isInside = false := by
      rcases hnext.mem_responses hf with hf | ⟨j, c, hj, hc, hp⟩
      · exact ih i f hf
      · cases hj
        exact ⟨c, hc, hp ▸ rfl⟩
    obtain ⟨⟨request, guarded, phase⟩, hc, hout⟩ := hx
    obtain ⟨phase', hc', moves | rfl⟩ := hnext.call hc
    · exact ⟨_, hc', moves.outward.isInside_eq_false hout⟩
    · exact ⟨_, hc', hout⟩
  intro hf
  obtain ⟨c, hc, hout⟩ := hall i f hf
  rw [here] at hc
  cases hc
  rw [hp] at hout
  cases hout

/-- The call has not gone on from the end of its body and has sent nothing. -/
def Unanswered (x : Exchange ι σ κ) (i : CallId) (r : Request) (guarded : Bool) : Prop :=
  ∃ phase, x.calls[i]? = some ⟨r, guarded, phase⟩ ∧ phase.isUnanswered = true ∧
    ∀ f, (some i, f) ∉ x.connection.responses

/-- The body of the call ended with `finished`, and so does what the call has sent. -/
def Returned (x : Exchange ι σ κ) (i : CallId) (r : Request) (guarded : Bool)
    (finished : Finished ι) : Prop :=
  ∃ phase, x.calls[i]? = some ⟨r, guarded, phase⟩ ∧ phase.Returned r finished ∧
    ∀ f, (some i, f) ∈ x.connection.responses → f = r.response finished

theorem Returned.next {finished : Finished ι} (h : x.Returned i r guarded finished)
    (hnext : x.Next y) : y.Returned i r guarded finished := by
  obtain ⟨phase, here, hp, hf⟩ := h
  have hsent : ∀ f, (some i, f) ∈ y.connection.responses → f = r.response finished := by
    intro f hmem
    rcases hnext.mem_responses hmem with hmem | ⟨j, c, hj, hc, hwriting⟩
    · exact hf f hmem
    · cases hj
      cases here.symm.trans hc
      cases hwriting
      exact Option.some.inj hp
  obtain ⟨phase', here', moves | rfl⟩ := hnext.call here
  · exact ⟨phase', here', moves.returned hp, hsent⟩
  · exact ⟨phase', here', hp, hsent⟩

/-- **A call whose body ended with `finished` sends the response to that and no other.** -/
theorem response_of_returned {finished : Finished ι} (h : x.Returned i r guarded finished)
    (hrun : x.Runs z) {f : Frame} (hf : (some i, f) ∈ z.connection.responses) :
    f = r.response finished := by
  have hz : z.Returned i r guarded finished :=
    hrun.invariant (P := fun x => x.Returned i r guarded finished) h
      fun _ _ hnext hx => hx.next hnext
  obtain ⟨-, -, -, hall⟩ := hz
  exact hall f hf

theorem Unanswered.next (h : x.Unanswered i r guarded) (hnext : x.Next y) :
    y.Unanswered i r guarded ∨
      ∃ place finished, x.calls[i]? = some ⟨r, guarded, .running place (.done finished)⟩ ∧
        y.Returned i r guarded finished := by
  obtain ⟨phase, here, hp, hf⟩ := h
  have hnone : ∀ f, (some i, f) ∉ y.connection.responses := by
    intro f hmem
    rcases hnext.mem_responses hmem with hmem | ⟨j, c, hj, hc, hwriting⟩
    · exact hf f hmem
    · cases hj
      cases here.symm.trans hc
      cases hwriting
      cases hp
  obtain ⟨phase', here', moves | rfl⟩ := hnext.call here
  · rcases moves.unanswered hp with hp' | ⟨place, finished, rfl, hp'⟩
    · exact .inl ⟨phase', here', hp', hnone⟩
    · exact .inr ⟨place, finished, here, phase', here', hp', fun f hmem => absurd hmem (hnone f)⟩
  · exact .inl ⟨phase', here', hp, hnone⟩

/-- A call that has sent a response once had its body end. -/
theorem Unanswered.exists_returned (h : x.Unanswered i r guarded) {ms : List (Choice ι κ)}
    (hrun : x.follow ms = some z) {f : Frame} (hf : (some i, f) ∈ z.connection.responses) :
    ∃ before after y place finished, ms = before ++ after ∧ x.follow before = some y ∧
      y.follow after = some z ∧
      y.calls[i]? = some ⟨r, guarded, .running place (.done finished)⟩ ∧
      f = r.response finished := by
  have answered : ¬z.Unanswered i r guarded := by
    rintro ⟨-, -, -, hnone⟩
    exact hnone f hf
  obtain ⟨before, m, after, y, y', rfl, hy, hunanswered, hstep, hafter, left⟩ :=
    exists_leaving (P := fun x => x.Unanswered i r guarded) h hrun answered
  rcases hunanswered.next (next_of_choose hstep) with hy' | ⟨place, finished, here, hreturned⟩
  · exact absurd hy' left
  · refine ⟨before, m :: after, y, place, finished, rfl, hy, ?_, here,
      response_of_returned hreturned (runs_of_follow hafter) hf⟩
    rw [follow_cons, hstep]
    exact hafter

/-- A call that has not entered its method has sent nothing. -/
theorem unanswered_of_accepted {server : Server ι σ κ} {ref : TableRef}
    (h : (new server ref).Runs x) {call : PreparedCall ι κ}
    (here : x.calls[i]? = some ⟨r, guarded, .accepted call⟩) : x.Unanswered i r guarded :=
  ⟨_, here, rfl, not_mem_responses h here rfl⟩

/-- **When a response tells the truth.** Take any call that was accepted on any schedule, and any
response it has sent later. Its body ended somewhere in between, and the response tells how, unless
the method failed with the empty text and left a reply that has bytes. -/
theorem truthful_iff {server : Server ι σ κ} {ref : TableRef} {ms ns : List (Choice ι κ)}
    (hx : (new server ref).follow ms = some x) {call : PreparedCall ι κ}
    (here : x.calls[i]? = some ⟨r, guarded, .accepted call⟩) (hz : x.follow ns = some z)
    {f : Frame} (sent : ⟨some i, .sent f⟩ ∈ z.connection.journal) :
    ∃ before after y place finished, ns = before ++ after ∧ x.follow before = some y ∧
      y.follow after = some z ∧
      y.calls[i]? = some ⟨r, guarded, .running place (.done finished)⟩ ∧
      (f.Truthful finished ↔
        ¬(finished.outcome = .failed (.method "") ∧
          ∃ body, finished.reply.encode = .ok body)) := by
  have hstart := unanswered_of_accepted (runs_of_follow hx) here
  obtain ⟨before, after, y, place, finished, hns, hy, hz', hreturned, rfl⟩ :=
    hstart.exists_returned hz (Connection.mem_responses_iff.2 sent)
  exact ⟨before, after, y, place, finished, hns, hy, hz', hreturned,
    r.truthful_response_iff finished⟩

/-- A call of the method that fails with `text`, as it comes in. -/
def failing (text : String) : Exchange Empty Unit Empty :=
  (new (.failing text) ⟨0⟩).push ⟨"Failing.Fail", 1⟩ false
    (.accepted ⟨"Failing", "Fail", .zero .unit false, .zero .bool, .none⟩)

theorem follow_failing (text : String) :
    (new (.failing text) ⟨0⟩).follow [.dispatch ⟨"Failing.Fail", 1⟩
      ⟨"Failing", "Fail", .zero .unit false, .zero .bool, .none⟩ false] = some (failing text) := rfl

/-- The steps of that call up to its response. -/
def failingSteps (n : Nat) : List (Choice Empty Empty) := .replicate n (.call 0 true)

theorem truthful_iff_failing :
    ∃ z before after y place finished, failingSteps 12 = before ++ after ∧
      (failing "no").follow before = some y ∧ y.follow after = some z ∧
      y.calls[0]? = some ⟨⟨"Failing.Fail", 1⟩, false, .running place (.done finished)⟩ ∧
      (Frame.Truthful ⟨⟨"Failing.Fail", 1, "no"⟩, []⟩ finished ↔
        ¬(finished.outcome = .failed (.method "") ∧
          ∃ body, finished.reply.encode = .ok body)) := by
  have run : ((failing "no").follow (failingSteps 12)).any fun z => decide
      (⟨some 0, .sent ⟨⟨"Failing.Fail", 1, "no"⟩, []⟩⟩ ∈ z.connection.journal) := by
    decide +kernel
  simp only [Option.any_eq_true, decide_eq_true_eq] at run
  obtain ⟨z, hz, sent⟩ := run
  exact ⟨z, truthful_iff (follow_failing "no") rfl hz sent⟩

/-- A method fails with the empty text, and the response looks like a success. -/
theorem untruthful_failing :
    ∃ y z place finished, (failing "").follow (failingSteps 4) = some y ∧
      y.follow (failingSteps 8) = some z ∧
      y.calls[0]? = some ⟨⟨"Failing.Fail", 1⟩, false, .running place (.done finished)⟩ ∧
      finished.outcome = .failed (.method "") ∧
      ⟨some 0, .sent ⟨⟨"Failing.Fail", 1, ""⟩, [0]⟩⟩ ∈ z.connection.journal ∧
      ¬Frame.Truthful ⟨⟨"Failing.Fail", 1, ""⟩, [0]⟩ finished := by
  have run : ((failing "").follow (failingSteps 4)).any fun y =>
      (y.follow (failingSteps 8)).any fun z => decide
        (y.ended? 0 = some (⟨"Failing.Fail", 1⟩, false, .failed (.method "")) ∧
          ⟨some 0, .sent ⟨⟨"Failing.Fail", 1, ""⟩, [0]⟩⟩ ∈ z.connection.journal) := by
    decide +kernel
  simp only [Option.any_eq_true, decide_eq_true_eq] at run
  obtain ⟨y, hy, z, hz, hended, hsent⟩ := run
  obtain ⟨place, finished, hreturned, hfailed⟩ := exists_of_ended? hended
  refine ⟨y, z, place, finished, hy, hz, hreturned, hfailed, hsent, ?_⟩
  intro htruth
  have hok := (htruth.success.1 rfl).1
  rw [hfailed] at hok
  cases hok

end Exchange

end Switchboard
