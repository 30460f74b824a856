import Switchboard.Proofs.Connection.Writing

/-!
# One answer for each request

However a request leaves, whether it leads nowhere, cannot be decoded, succeeds, fails or panics,
it is answered by one frame, then forgotten by the transport, and only then is its guard dropped.
`Exchange.Booked` keeps book of that: the frames sent are those of the calls that have their answer,
the numbers freed are those of the calls that are forgotten, and the guards count the calls that are
not over. The frames and the numbers come in the order of the calls' ends, so the books agree as
permutations.

Results:

* `Exchange.booked`: the books agree on every schedule.
* `Exchange.Booked.isOver_of_isIdle`: when no guard is held, every call that was to have one is
  over, so the books are those of answered and forgotten requests.
-/

namespace Switchboard

/-! ## Frames and requests -/

/-- What a frame says of the request it answers. -/
def Frame.key (f : Frame) : String × UInt64 := (f.header.address, f.header.seq)

/-- What an answer repeats of a request. -/
def Request.key (r : Request) : String × UInt64 := (r.address, r.seq)

/-- The frame can be the answer to the request: it repeats the address and the number, and with an
error it has no body. -/
structure Frame.Answers (f : Frame) (r : Request) : Prop where
  key : f.key = r.key
  body : f.header.error ≠ "" → f.body = []

variable {ι σ κ : Type} [MessageFamily ι]

/-- Every response is an answer to its request. -/
theorem Request.answers_compose (r : Request) (reply : Reply ι) (error : String) :
    (r.compose reply error).2.Answers r := by
  unfold compose
  split
  · split
    · exact ⟨rfl, fun h => absurd rfl h⟩
    · exact ⟨rfl, fun _ => rfl⟩
  · exact ⟨rfl, fun _ => rfl⟩

/-! ## Replacing one call among many -/

section Replacing

variable {α β γ : Type} {f : α → List β} {p : α → Bool} {xs : List α} {i : Nat} {a b : α}

/-- What stands before and after the place that is replaced. -/
theorem exists_set (here : xs[i]? = some a) (b : α) :
    ∃ pre post, xs = pre ++ a :: post ∧ xs.set i b = pre ++ b :: post := by
  obtain ⟨hi, rfl⟩ := List.getElem?_eq_some_iff.1 here
  refine ⟨xs.take i, xs.drop (i + 1), ?_, List.set_eq_take_append_cons_drop.trans (if_pos hi)⟩
  rw [List.getElem_cons_drop, List.take_append_drop]

/-- What one call adds to its entries is added to the entries of all. -/
theorem perm_flatMap_set (here : xs[i]? = some a) {more : List β} (h : f b = f a ++ more) :
    ((xs.set i b).flatMap f).Perm (xs.flatMap f ++ more) := by
  obtain ⟨pre, post, rfl, hset⟩ := exists_set here b
  rw [hset]
  simp only [List.flatMap_append, List.flatMap_cons, h, List.append_assoc]
  exact (List.perm_append_comm.append_left _).append_left _

theorem map_set_same {g : α → γ} (here : xs[i]? = some a) (h : g b = g a) :
    (xs.set i b).map g = xs.map g := by
  obtain ⟨pre, post, rfl, hset⟩ := exists_set here b
  rw [hset]
  simp only [List.map_append, List.map_cons, h]

theorem countP_set (here : xs[i]? = some a) :
    (xs.set i b).countP p + (p a).toNat = xs.countP p + (p b).toNat := by
  obtain ⟨pre, post, rfl, hset⟩ := exists_set here b
  rw [hset]
  simp only [List.countP_append, List.countP_cons]
  cases p a <;> cases p b <;> simp <;> omega

end Replacing

/-! ## The books -/

namespace Call

/-- The key of the call's request, once its answer is out. -/
def answered (c : Call ι σ κ) : List (String × UInt64) :=
  match c.phase with
  | .written | .forgotten | .over => [c.request.key]
  | _ => []

/-- The number of the call's request, once the transport has forgotten it. -/
def freed (c : Call ι σ κ) : List UInt64 :=
  match c.phase with
  | .forgotten | .over => [c.request.seq]
  | _ => []

/-- Whether the call holds a guard. -/
def isGuarding (c : Call ι σ κ) : Bool := c.guarded && !c.isOver

/-- A call that has nothing of its answer out is in no book but that of the guards. -/
theorem of_isInside {c : Call ι σ κ} (h : c.phase.isInside = true) :
    c.answered = [] ∧ c.freed = [] ∧ c.isGuarding = c.guarded := by
  obtain ⟨request, guarded, phase⟩ := c
  cases phase with
  | writing frame? rest => cases h
  | written => cases h
  | forgotten => cases h
  | «over» => cases h
  | _ => exact ⟨rfl, rfl, Bool.and_true guarded⟩

/-- A call that is over is in every book but that of the guards. -/
theorem of_isOver {c : Call ι σ κ} (h : c.isOver = true) :
    c.answered = [c.request.key] ∧ c.freed = [c.request.seq] := by
  obtain ⟨request, guarded, phase⟩ := c
  cases phase with
  | «over» => exact ⟨rfl, rfl⟩
  | _ => cases h

end Call

namespace Exchange

/-- The books of an exchange agree. -/
structure Booked (x : Exchange ι σ κ) : Prop where
  /-- What a call writes answers its own request. -/
  writing : ∀ c ∈ x.calls, ∀ frame? rest, c.phase = .writing frame? rest →
    ∃ f, frame? = some f ∧ f.Answers c.request
  /-- A frame with an error has no body. -/
  bodies : ∀ f ∈ x.connection.sent, f.header.error ≠ "" → f.body = []
  sent : (x.connection.sent.map Frame.key).Perm (x.calls.flatMap Call.answered)
  freed : x.connection.freed.Perm (x.calls.flatMap Call.freed)
  guards : x.connection.guards.count = x.calls.countP Call.isGuarding

theorem booked_new (server : Server ι σ κ) (ref : TableRef) : (new server ref).Booked :=
  ⟨fun _ h => absurd h List.not_mem_nil, fun _ h => absurd h List.not_mem_nil, .nil, .nil, rfl⟩

variable {x y : Exchange ι σ κ} {i : CallId} {c : Call ι σ κ}

/-- A call changes and the connection with it: the frames and numbers that the connection has more
are those that the call has more in the books. -/
theorem Booked.set (h : x.Booked) (here : x.calls[i]? = some c) {phase : Phase ι σ κ}
    {s : Station ι σ κ} (fs : List Frame) (seqs : List UInt64)
    (writing : ∀ frame? rest, phase = .writing frame? rest →
      ∃ f, frame? = some f ∧ f.Answers c.request)
    (sent : s.connection.sent = x.connection.sent ++ fs)
    (bodies : ∀ f ∈ fs, f.header.error ≠ "" → f.body = [])
    (freed : s.connection.freed = x.connection.freed ++ seqs)
    (guards : s.connection.guards.count + c.isGuarding.toNat =
      x.connection.guards.count + ({ c with phase } : Call ι σ κ).isGuarding.toNat)
    (answered : ({ c with phase } : Call ι σ κ).answered = c.answered ++ fs.map Frame.key)
    (forgotten : ({ c with phase } : Call ι σ κ).freed = c.freed ++ seqs) :
    Booked ⟨s, x.calls.set i { c with phase }⟩ := by
  refine ⟨?_, ?_, ?_, ?_, ?_⟩
  · intro d hd frame? rest hp
    rcases List.mem_or_eq_of_mem_set hd with hd | rfl
    · exact h.writing d hd frame? rest hp
    · exact writing frame? rest hp
  · intro f hf
    change f ∈ s.connection.sent at hf
    rw [sent] at hf
    rcases List.mem_append.1 hf with hf | hf
    · exact h.bodies f hf
    · exact bodies f hf
  · change (s.connection.sent.map Frame.key).Perm _
    rw [sent, List.map_append]
    exact (h.sent.append_right _).trans (perm_flatMap_set here answered).symm
  · change s.connection.freed.Perm _
    rw [freed]
    exact (h.freed.append_right _).trans (perm_flatMap_set here forgotten).symm
  · have hcount := countP_set (p := Call.isGuarding) (b := { c with phase }) here
    have hguards := h.guards
    change s.connection.guards.count = (x.calls.set i { c with phase }).countP Call.isGuarding
    omega

/-- A call that changes nothing in the books, at a connection that does not either. -/
theorem Booked.set_silent (h : x.Booked) (here : x.calls[i]? = some c) {phase : Phase ι σ κ}
    {s : Station ι σ κ}
    (writing : ∀ frame? rest, phase = .writing frame? rest →
      ∃ f, frame? = some f ∧ f.Answers c.request)
    (sent : s.connection.sent = x.connection.sent)
    (freed : s.connection.freed = x.connection.freed)
    (guards : s.connection.guards = x.connection.guards)
    (answered : ({ c with phase } : Call ι σ κ).answered = c.answered)
    (forgotten : ({ c with phase } : Call ι σ κ).freed = c.freed)
    (guarding : ({ c with phase } : Call ι σ κ).isGuarding = c.isGuarding) :
    Booked ⟨s, x.calls.set i { c with phase }⟩ := by
  refine h.set here [] [] writing ?_ (fun _ h => absurd h List.not_mem_nil)
    ?_ ?_ ?_ ?_
  · rw [sent, List.append_nil]
  · rw [freed, List.append_nil]
  · rw [guards, guarding]
  · rw [answered, List.map_nil, List.append_nil]
  · rw [forgotten, List.append_nil]

/-- **Every move keeps the books.** -/
theorem Booked.move (h : x.Booked) {phase : Phase ι σ κ} {s : Station ι σ κ}
    (here : x.calls[i]? = some c)
    (ho : Outward i c.request c.guarded x.station c.phase phase s) :
    Booked ⟨s, x.calls.set i { c with phase }⟩ := by
  have hmem : c ∈ x.calls := List.mem_of_getElem? here
  obtain ⟨request, guarded, p⟩ := c
  cases ho with
  | silent before after same =>
    obtain ⟨ha, hf, hg⟩ := Call.of_isInside (c := ⟨request, guarded, p⟩) before
    obtain ⟨ha', hf', hg'⟩ := Call.of_isInside (c := ⟨request, guarded, phase⟩) after
    refine h.set_silent here ?_ same.sent same.freed same.guards (ha'.trans ha.symm)
      (hf'.trans hf.symm) (hg'.trans hg.symm)
    rintro frame? rest rfl
    cases after
  | lock reply error free =>
    have hlog := x.station.connection.silent_lock i (request.compose reply error).1
    refine h.set_silent here ?_ hlog.sent hlog.freed hlog.guards rfl rfl rfl
    rintro frame? rest ⟨⟩
    exact ⟨_, rfl, request.answers_compose reply error⟩
  | write frame? piece rest =>
    refine h.set_silent here ?_ rfl rfl rfl rfl rfl rfl
    rintro _ _ ⟨⟩
    exact h.writing _ hmem frame? _ rfl
  | unlock frame? =>
    obtain ⟨f, rfl, hf⟩ := h.writing _ hmem frame? _ rfl
    have hsent := x.station.connection.sent_unlock i (some f)
    refine h.set here [f] [] (fun _ _ h => nomatch h) hsent ?_ ?_ rfl ?_ rfl
    · intro g hg
      rw [List.mem_singleton.1 hg]
      exact hf.body
    · exact (List.append_nil _).symm
    · exact congrArg (fun k => [k]) hf.key.symm
  | forget =>
    have hsent := x.station.connection.sent_free i request.seq
    refine h.set here [] [request.seq] (fun _ _ h => nomatch h) ?_
      (fun _ h => absurd h List.not_mem_nil) rfl rfl rfl rfl
    rw [List.append_nil]
    exact hsent
  | finish =>
    cases guarded with
    | false => exact h.set_silent here (fun _ _ h => nomatch h) rfl rfl rfl rfl rfl rfl
    | true =>
      have hsent := x.station.connection.sent_dropGuard i
      have hpos : 0 < x.calls.countP Call.isGuarding := List.countP_pos_iff.2 ⟨_, hmem, rfl⟩
      have hguards := h.guards
      refine h.set here [] [] (fun _ _ h => nomatch h) ?_
        (fun _ h => absurd h List.not_mem_nil) ?_ ?_ rfl rfl
      · rw [List.append_nil]
        exact hsent
      · exact (List.append_nil _).symm
      · change x.connection.guards.count - 1 + 1 = x.connection.guards.count + 0
        omega

/-- A call that arrives is in no book but that of the guards. -/
theorem Booked.arrive (h : x.Booked) (request : Request) (guarded : Bool) {phase : Phase ι σ κ}
    (events : List Event) (first : phase.IsFirst) :
    Booked ⟨x.station.onConnection fun c =>
        (if guarded then c.addGuard else c).record (logged x.calls.length events),
      x.calls ++ [⟨request, guarded, phase⟩]⟩ := by
  obtain ⟨ha, hf, hg⟩ := Call.of_isInside (c := ⟨request, guarded, phase⟩) first.isInside
  have hlog := (if guarded then x.station.connection.addGuard
    else x.station.connection).silent_record _ (remarks_logged x.calls.length events).responses
  have hsent : ((if guarded then x.station.connection.addGuard
      else x.station.connection).record (logged x.calls.length events)).sent =
      x.connection.sent := by
    rw [hlog.sent]
    cases guarded <;> rfl
  have hguards := h.guards
  refine ⟨?_, ?_, ?_, ?_, ?_⟩
  · intro d hd frame? rest hp
    rcases List.mem_append.1 hd with hd | hd
    · exact h.writing d hd frame? rest hp
    · rw [List.mem_singleton.1 hd] at hp
      subst hp
      cases first
  · intro f hf
    exact h.bodies f (hsent ▸ hf)
  · rw [List.flatMap_append, List.flatMap_singleton, ha, List.append_nil]
    exact hsent ▸ h.sent
  · rw [List.flatMap_append, List.flatMap_singleton, hf, List.append_nil]
    cases guarded <;> exact h.freed
  · rw [List.countP_append, List.countP_singleton, hg]
    cases guarded with
    | false => exact hguards
    | true => exact congrArg (· + 1) hguards

/-- When no guard is held, every call that took one is over. -/
theorem Booked.isOver_of_isIdle (h : x.Booked) (idle : x.connection.guards.isIdle = true)
    {c : Call ι σ κ} (hc : c ∈ x.calls) (hg : c.guarded = true) : c.isOver = true := by
  have hcount : x.calls.countP Call.isGuarding = 0 := by
    rw [← h.guards]
    exact of_decide_eq_true idle
  have hnot := List.countP_eq_zero.1 hcount c hc
  rw [Call.isGuarding, hg, Bool.true_and] at hnot
  simpa using hnot

variable [Inhabited σ]

/-- **The books agree on every schedule.** -/
theorem booked {server : Server ι σ κ} {ref : TableRef} (h : (new server ref).Runs x) :
    x.Booked := by
  refine h.invariant (P := Booked) (booked_new server ref) ?_
  intro x y hnext hx
  cases hnext with
  | arrive request guarded phase events first => exact hx.arrive request guarded events first
  | move here moves => exact hx.move here moves.outward

end Exchange

end Switchboard
