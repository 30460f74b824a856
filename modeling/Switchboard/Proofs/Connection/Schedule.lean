import Mathlib.Logic.Function.Basic
import Mathlib.Logic.Relation
import Switchboard.Connection.Stream
import Switchboard.Proofs.Connection.Moves

/-!
# Schedules

What happens on an exchange is a sequence of choices: a request comes in, or a call takes a step.
A schedule is a list of choices, and `Exchange.follow` runs it; every interleaving of any number of
calls is some schedule.

The proofs about all schedules go by `Exchange.Next`, which knows two ways to go on: a call arrives,
in its first phase, or a call makes one of its moves.

Results:

* `Exchange.follow_append`: a schedule can be cut anywhere.
* `Exchange.Next.call`, `Exchange.getElem?_of_follow`: what a schedule is to one of the calls. Each
  time it is a move of that call or nothing, and nothing if the call gets no turn.
* `Exchange.Runs.invariant`: what one way to go on keeps, every schedule keeps (`runs_of_follow`),
  and so does serving a stream (`Stream.runs_of_reaches`).
-/

namespace Switchboard

/-- One thing that may happen on an exchange. -/
inductive Choice (ι κ : Type) [MessageFamily ι] where
  /-- A request is read, to be routed and decoded. -/
  | accept (inbound : Inbound κ) (guarded : Bool)
  /-- A prepared call comes in. -/
  | dispatch (request : Request) (call : PreparedCall ι κ) (guarded : Bool)
  /-- A request is to be answered with an error. -/
  | reject (request : Request) (error : String)
  /-- A call takes a step; `expired` tells a body that waits that its time is up. -/
  | call (i : CallId) (expired : Bool)

variable {ι σ κ : Type} [MessageFamily ι]

/-- Whether a call can be in this phase when it arrives. -/
def Phase.IsFirst : Phase ι σ κ → Prop
  | .accepted _ | .answering _ _ => True
  | _ => False

namespace Exchange

/-! ## One aspect of every call

An invariant looks at one aspect of the calls: the token one holds, the pieces it has yet to write.
A call that arrives has none, and a move changes that of the call that makes it.
-/

section Aspects

variable {α : Type} (f : Call ι σ κ → Option α) {calls : List (Call ι σ κ)} {i : CallId}
  {c : Call ι σ κ}

/-- What `f` sees in each call. -/
def aspect (calls : List (Call ι σ κ)) : CallId → Option α := fun i => calls[i]?.bind f

theorem aspect_of_getElem? (h : calls[i]? = some c) : aspect f calls i = f c := by
  rw [aspect, h, Option.bind_some]

theorem exists_of_aspect {a : α} (h : aspect f calls i = some a) :
    ∃ c, calls[i]? = some c ∧ f c = some a := Option.bind_eq_some_iff.1 h

theorem aspect_set (h : calls[i]? = some c) (c' : Call ι σ κ) :
    aspect f (calls.set i c') = Function.update (aspect f calls) i (f c') := by
  obtain ⟨hi, -⟩ := List.getElem?_eq_some_iff.1 h
  funext j
  unfold aspect
  by_cases hj : j = i
  · subst hj
    rw [Function.update_self, List.getElem?_set_self hi, Option.bind_some]
  · rw [Function.update_of_ne hj, List.getElem?_set_ne (Ne.symm hj)]

theorem aspect_append (hf : f c = none) : aspect f (calls ++ [c]) = aspect f calls := by
  funext j
  unfold aspect
  rcases Nat.lt_trichotomy j calls.length with hj | rfl | hj
  · rw [List.getElem?_append_left hj]
  · rw [List.getElem?_concat_length, List.getElem?_eq_none (Nat.le_refl _), Option.bind_some, hf,
      Option.bind_none]
  · rw [List.getElem?_eq_none (by rw [List.length_append, List.length_singleton]; omega),
      List.getElem?_eq_none (Nat.le_of_lt hj)]

end Aspects

/-! ## Following a schedule -/

variable [Inhabited σ]

/-- What a choice leads to, if it is possible. -/
def choose (x : Exchange ι σ κ) : Choice ι κ → Option (Exchange ι σ κ)
  | .accept r guarded => some (x.accept r.request r.body r.client guarded).2
  | .dispatch request call guarded =>
    some ((x.addGuard guarded).push request guarded (.accepted call))
  | .reject request error => some (x.push request false (.answering .empty error))
  | .call i expired => x.step i expired

/-- What a schedule leads to, if every choice in it is possible when its turn comes. -/
def follow (x : Exchange ι σ κ) : List (Choice ι κ) → Option (Exchange ι σ κ)
  | [] => some x
  | m :: ms => (x.choose m).bind (·.follow ms)

theorem follow_cons (x : Exchange ι σ κ) (m : Choice ι κ) (ms : List (Choice ι κ)) :
    x.follow (m :: ms) = (x.choose m).bind (·.follow ms) := rfl

/-- A schedule can be cut anywhere. -/
theorem follow_append (x : Exchange ι σ κ) (ms ns : List (Choice ι κ)) :
    x.follow (ms ++ ns) = (x.follow ms).bind (·.follow ns) := by
  induction ms generalizing x with
  | nil => rfl
  | cons m ms ih =>
    rw [List.cons_append, follow_cons, follow_cons]
    cases x.choose m with
    | none => rfl
    | some y => exact ih y

theorem follow_trans {x y z : Exchange ι σ κ} {ms ns : List (Choice ι κ)}
    (hy : x.follow ms = some y) (hz : y.follow ns = some z) : x.follow (ms ++ ns) = some z := by
  rw [follow_append, hy]
  exact hz

theorem follow_singleton (x : Exchange ι σ κ) (m : Choice ι κ) : x.follow [m] = x.choose m := by
  rw [follow_cons]
  cases x.choose m <;> rfl

/-- What holds at the beginning of a schedule and not at its end comes to an end at some choice. -/
theorem exists_leaving {P : Exchange ι σ κ → Prop} {x z : Exchange ι σ κ}
    {ms : List (Choice ι κ)} (hx : P x) (hz : x.follow ms = some z) (left : ¬P z) :
    ∃ before m after y y', ms = before ++ m :: after ∧ x.follow before = some y ∧ P y ∧
      y.choose m = some y' ∧ y'.follow after = some z ∧ ¬P y' := by
  induction ms generalizing x with
  | nil =>
    cases hz
    exact absurd hx left
  | cons m ms ih =>
    obtain ⟨y, hy, hrest⟩ := Option.bind_eq_some_iff.1 hz
    by_cases hP : P y
    · obtain ⟨before, m', after, w, w', rfl, hw, hPw, hstep, hafter, hleft⟩ := ih hP hrest
      refine ⟨m :: before, m', after, w, w', rfl, ?_, hPw, hstep, hafter, hleft⟩
      rw [follow_cons, hy]
      exact hw
    · exact ⟨[], m, ms, x, y, rfl, rfl, hx, hy, hrest, hP⟩

/-! ## The ways to go on -/

/-- The ways in which an exchange goes on. -/
inductive Next (x : Exchange ι σ κ) : Exchange ι σ κ → Prop where
  /-- A call arrives. If it is to have a guard it has it from now on. -/
  | arrive (request : Request) (guarded : Bool) (phase : Phase ι σ κ) (events : List Event)
    (first : phase.IsFirst) :
    Next x ⟨x.station.onConnection fun c =>
        (if guarded then c.addGuard else c).record (logged x.calls.length events),
      x.calls ++ [⟨request, guarded, phase⟩]⟩
  /-- A call makes a move. -/
  | move {i : CallId} {c : Call ι σ κ} {phase : Phase ι σ κ} {station : Station ι σ κ}
    (here : x.calls[i]? = some c)
    (moves : Moves i c.request c.guarded x.station c.phase phase station) :
    Next x ⟨station, x.calls.set i { c with phase }⟩

variable {x y : Exchange ι σ κ}

section Guards

/-! A guard that is taken changes the count of guards and nothing else. -/

omit [Inhabited σ]

variable (x : Exchange ι σ κ) (guarded : Bool)

@[simp] theorem addGuard_server : (x.addGuard guarded).station.server = x.station.server := by
  cases guarded <;> rfl

@[simp] theorem addGuard_taken : (x.addGuard guarded).station.taken = x.station.taken := by
  cases guarded <;> rfl

@[simp] theorem addGuard_calls : (x.addGuard guarded).calls = x.calls := by
  cases guarded <;> rfl

@[simp] theorem addGuard_pending :
    (x.addGuard guarded).connection.pending = x.connection.pending := by
  cases guarded <;> rfl

@[simp] theorem addGuard_writer :
    (x.addGuard guarded).connection.writer = x.connection.writer := by
  cases guarded <;> rfl

end Guards

theorem next_push (x : Exchange ι σ κ) (request : Request) (guarded : Bool) (phase : Phase ι σ κ)
    (first : phase.IsFirst) : x.Next ((x.addGuard guarded).push request guarded phase) := by
  have h := Next.arrive (x := x) request guarded phase [] first
  have hlog : logged x.calls.length [] = [] := rfl
  simp only [hlog, Connection.record_nil] at h
  cases guarded with
  | false => exact h
  | true => exact h

theorem next_accept (x : Exchange ι σ κ) (request : Request) (body : Bytes) (client : Client κ)
    (guarded : Bool) : x.Next (x.accept request body client guarded).2 := by
  unfold accept
  dsimp only
  split
  · exact next_push x request guarded (.accepted _) trivial
  · rename_i e _
    have h := Next.arrive (x := x) request guarded (.answering .empty e.message)
      [.rejected request.seq e] trivial
    cases guarded with
    | false => exact h
    | true => exact h

/-- A step is a move of one call. -/
theorem exists_of_step {i : CallId} {expired : Bool} (h : x.step i expired = some y) :
    ∃ c phase, x.calls[i]? = some c ∧
      Moves i c.request c.guarded x.station c.phase phase y.station ∧
      y.calls = x.calls.set i { c with phase } := by
  unfold step at h
  cases hc : x.calls[i]? with
  | none =>
    rw [hc] at h
    cases h
  | some c =>
    simp only [hc] at h
    cases hs : c.step i expired x.station with
    | none =>
      rw [hs] at h
      cases h
    | some p =>
      obtain ⟨c', station⟩ := p
      rw [hs] at h
      cases h
      obtain ⟨phase, rfl, moves⟩ := Call.moves_of_step hs
      exact ⟨c, phase, rfl, moves, rfl⟩

/-- What a turn is to the call that has it. -/
theorem moves_of_turn {i : CallId} {expired : Bool} {r : Request} {guarded : Bool}
    {phase : Phase ι σ κ} (h : x.step i expired = some y)
    (here : x.calls[i]? = some ⟨r, guarded, phase⟩) :
    ∃ phase', y.calls[i]? = some ⟨r, guarded, phase'⟩ ∧
      Moves i r guarded x.station phase phase' y.station := by
  obtain ⟨hi, -⟩ := List.getElem?_eq_some_iff.1 here
  obtain ⟨c, phase', hc, moves, hcalls⟩ := exists_of_step h
  cases here.symm.trans hc
  refine ⟨phase', ?_, moves⟩
  rw [hcalls, List.getElem?_set_self hi]

theorem next_step {i : CallId} {expired : Bool} (h : x.step i expired = some y) : x.Next y := by
  obtain ⟨c, phase, here, moves, hcalls⟩ := exists_of_step h
  obtain ⟨station, calls⟩ := y
  subst hcalls
  exact .move here moves

omit [Inhabited σ] in
/-- A request that is taken in becomes a call of its own, in a first phase. -/
theorem exists_of_accept (x : Exchange ι σ κ) (request : Request) (body : Bytes)
    (client : Client κ) (guarded : Bool) :
    ∃ phase, phase.IsFirst ∧
      (x.accept request body client guarded).2.calls = x.calls ++ [⟨request, guarded, phase⟩] := by
  unfold accept
  dsimp only
  split
  · rename_i call _
    exact ⟨.accepted call, trivial, congrArg (· ++ _) (x.addGuard_calls guarded)⟩
  · rename_i e _
    exact ⟨.answering .empty e.message, trivial, congrArg (· ++ _) (x.addGuard_calls guarded)⟩

omit [Inhabited σ] in
/-- A request that can be routed and decoded becomes a call. -/
theorem accept_of_prepare {request : Request} {body : Bytes} {client : Client κ}
    {call : PreparedCall ι κ} (h : x.station.prepare request body client = .ok call)
    (guarded : Bool) :
    x.accept request body client guarded =
      (.accepted x.calls.length, (x.addGuard guarded).push request guarded (.accepted call)) := by
  have hprepare : (x.addGuard guarded).station.prepare request body client = .ok call := by
    unfold Station.prepare
    rw [addGuard_server]
    exact h
  unfold accept
  dsimp only
  rw [hprepare, addGuard_calls]

omit [Inhabited σ] in
/-- A request that cannot be routed or decoded is to be answered with the error. -/
theorem accept_of_prepare_error {request : Request} {body : Bytes} {client : Client κ}
    {e : CallError} (h : x.station.prepare request body client = .error e) (guarded : Bool) :
    x.accept request body client guarded =
      (.rejected, ((x.addGuard guarded).onConnection
        (·.log x.calls.length [.rejected request.seq e])).push request guarded
          (.answering .empty e.message)) := by
  have hprepare : (x.addGuard guarded).station.prepare request body client = .error e := by
    unfold Station.prepare
    rw [addGuard_server]
    exact h
  unfold accept
  dsimp only
  rw [hprepare, addGuard_calls]

/-- Every choice is one of the two ways to go on. -/
theorem next_of_choose {m : Choice ι κ} (h : x.choose m = some y) : x.Next y := by
  cases m with
  | accept r guarded =>
    cases h
    exact next_accept x r.request r.body r.client guarded
  | dispatch request call guarded =>
    cases h
    exact next_push x request guarded (.accepted call) trivial
  | reject request error =>
    cases h
    exact next_push x request false (.answering .empty error) trivial
  | call i expired => exact next_step h

/-- What going on is to one of the calls: a move of its own, or nothing. -/
theorem Next.call {i : CallId} {r : Request} {guarded : Bool} {phase : Phase ι σ κ}
    (h : x.Next y) (here : x.calls[i]? = some ⟨r, guarded, phase⟩) :
    ∃ phase', y.calls[i]? = some ⟨r, guarded, phase'⟩ ∧
      (Moves i r guarded x.station phase phase' y.station ∨ phase' = phase) := by
  obtain ⟨hi, -⟩ := List.getElem?_eq_some_iff.1 here
  cases h with
  | arrive request guarded' phase' events first =>
    refine ⟨phase, ?_, .inr rfl⟩
    rw [List.getElem?_append_left hi]
    exact here
  | @move j c phase' station hj moves =>
    by_cases hji : j = i
    · subst hji
      rw [here] at hj
      cases hj
      exact ⟨phase', List.getElem?_set_self hi, .inl moves⟩
    · refine ⟨phase, ?_, .inr rfl⟩
      rw [List.getElem?_set_ne hji]
      exact here

/-- Where a call comes from: it has just arrived, or it was there and made a move or nothing. -/
theorem Next.origin {i : CallId} {r : Request} {guarded : Bool} {phase' : Phase ι σ κ}
    (h : x.Next y) (here : y.calls[i]? = some ⟨r, guarded, phase'⟩) :
    (i = x.calls.length ∧ phase'.IsFirst) ∨ ∃ phase, x.calls[i]? = some ⟨r, guarded, phase⟩ ∧
      (Moves i r guarded x.station phase phase' y.station ∨ phase' = phase) := by
  cases h with
  | arrive request guarded' phase events first =>
    rcases Nat.lt_or_ge i x.calls.length with hi | hi
    · exact .inr ⟨phase', (List.getElem?_append_left hi).symm.trans here, .inr rfl⟩
    · rw [List.getElem?_append_right hi, List.getElem?_singleton] at here
      split at here
      · next hlast =>
        cases here
        exact .inl ⟨Nat.le_antisymm (Nat.sub_eq_zero_iff_le.1 hlast) hi, first⟩
      · cases here
  | @move j c phase station hj moves =>
    obtain ⟨hlength, -⟩ := List.getElem?_eq_some_iff.1 hj
    by_cases hji : j = i
    · subst hji
      rw [List.getElem?_set_self hlength] at here
      cases here
      exact .inr ⟨c.phase, hj, .inl moves⟩
    · rw [List.getElem?_set_ne hji] at here
      exact .inr ⟨phase', here, .inr rfl⟩

theorem Next.ref (h : x.Next y) : y.connection.ref = x.connection.ref := by
  cases h with
  | arrive request guarded phase events first => cases guarded <;> rfl
  | move here moves => exact moves.ref

theorem Next.server (h : x.Next y) :
    y.station.server = x.station.server ∨
      ∃ target f, y.station.server = x.station.server.updateReceiver target f := by
  cases h with
  | arrive => exact .inl rfl
  | move here moves => exact moves.server

/-- A choice is the turn of a call, or leaves it where it is. -/
theorem getElem?_of_choose {i : CallId} {c : Call ι σ κ} {m : Choice ι κ}
    (h : x.choose m = some y) (here : x.calls[i]? = some c) :
    (∃ expired, m = .call i expired) ∨ y.calls[i]? = some c := by
  obtain ⟨hi, -⟩ := List.getElem?_eq_some_iff.1 here
  cases m with
  | accept r guarded =>
    cases h
    obtain ⟨phase, -, hcalls⟩ := x.exists_of_accept r.request r.body r.client guarded
    rw [hcalls, List.getElem?_append_left hi]
    exact .inr here
  | dispatch request call guarded =>
    cases h
    cases guarded with
    | false => exact .inr ((List.getElem?_append_left hi).trans here)
    | true => exact .inr ((List.getElem?_append_left hi).trans here)
  | reject request error =>
    cases h
    exact .inr ((List.getElem?_append_left hi).trans here)
  | call j expired =>
    by_cases hji : j = i
    · subst hji
      exact .inl ⟨expired, rfl⟩
    · obtain ⟨d, phase, -, -, hcalls⟩ := exists_of_step h
      rw [hcalls, List.getElem?_set_ne hji]
      exact .inr here

/-- A choice is the turn of a call, or one more call arrives and nothing happens to the table. -/
theorem turn_or_arrival {m : Choice ι κ} (h : x.choose m = some y) :
    (∃ i expired, m = .call i expired) ∨ y.connection.pending = x.connection.pending ∧
      ∃ r guarded phase, phase.IsFirst ∧ y.calls = x.calls ++ [⟨r, guarded, phase⟩] := by
  cases m with
  | accept inbound guarded =>
    cases h
    refine .inr ⟨?_, ?_⟩
    · unfold accept
      dsimp only
      cases guarded <;> split <;> rfl
    · obtain ⟨phase, first, hcalls⟩ :=
        x.exists_of_accept inbound.request inbound.body inbound.client guarded
      exact ⟨_, _, phase, first, hcalls⟩
  | dispatch request call guarded =>
    cases h
    cases guarded <;> exact .inr ⟨rfl, request, _, .accepted call, trivial, rfl⟩
  | reject request error =>
    cases h
    exact .inr ⟨rfl, request, _, .answering .empty error, trivial, rfl⟩
  | call i expired => exact .inl ⟨i, expired, rfl⟩

/-- A call that gets no turn stays where it is. -/
theorem getElem?_of_follow {i : CallId} {c : Call ι σ κ} {ms : List (Choice ι κ)}
    (h : x.follow ms = some y) (here : x.calls[i]? = some c)
    (others : ∀ expired, Choice.call i expired ∉ ms) : y.calls[i]? = some c := by
  induction ms generalizing x with
  | nil =>
    cases h
    exact here
  | cons m ms ih =>
    obtain ⟨z, hz, hrest⟩ := Option.bind_eq_some_iff.1 h
    rcases getElem?_of_choose hz here with ⟨expired, rfl⟩ | hcall
    · exact absurd (List.mem_cons_self ..) (others expired)
    · exact ih hrest hcall fun expired hmem => others expired (List.mem_cons_of_mem _ hmem)

/-! ## What all schedules keep -/

/-- One exchange comes from another by going on. -/
def Runs : Exchange ι σ κ → Exchange ι σ κ → Prop := Relation.ReflTransGen Next

theorem runs_of_follow {ms : List (Choice ι κ)} (h : x.follow ms = some y) : x.Runs y := by
  induction ms generalizing x with
  | nil =>
    cases h
    exact .refl
  | cons m ms ih =>
    rw [follow_cons] at h
    cases hm : x.choose m with
    | none =>
      rw [hm] at h
      cases h
    | some z =>
      rw [hm] at h
      exact .head (next_of_choose hm) (ih h)

/-- What one way to go on keeps, all of them keep. -/
theorem Runs.invariant {P : Exchange ι σ κ → Prop} (h : x.Runs y) (hx : P x)
    (keep : ∀ x y, x.Next y → P x → P y) : P y := by
  induction h with
  | refl => exact hx
  | tail _ hnext ih => exact keep _ _ hnext ih

end Exchange

namespace Stream

variable [Inhabited σ]

theorem next_of_step {s t : Stream ι σ κ} {turn : Turn} (h : s.step turn = some t) :
    s.exchange.Next t.exchange := by
  cases turn with
  | accept =>
    simp only [step] at h
    split at h
    · cases h
    · cases hq : s.queue with
      | nil =>
        rw [hq] at h
        cases h
      | cons r queue =>
        have hnext := Exchange.next_accept s.exchange r.request r.body r.client true
        simp only [hq] at h
        split at h
        · rename_i exchange ha
          cases h
          rw [ha] at hnext
          exact hnext
        · rename_i exchange ha
          cases h
          rw [ha] at hnext
          exact hnext
  | call i expired =>
    simp only [step] at h
    obtain ⟨y, hy, rfl⟩ := Option.map_eq_some_iff.1 h
    exact Exchange.next_step hy

/-- What a sequence of turns leads to, if every turn in it is possible. -/
def follow (s : Stream ι σ κ) : List Turn → Option (Stream ι σ κ)
  | [] => some s
  | turn :: turns => (s.step turn).bind (·.follow turns)

theorem Reaches.head {s t u : Stream ι σ κ} {turn : Turn} (hstep : s.step turn = some t)
    (h : Reaches t u) : Reaches s u := by
  induction h with
  | refl => exact .step turn (.refl s) hstep
  | step turn' _ hlast ih => exact .step turn' ih hlast

theorem reaches_of_follow {s t : Stream ι σ κ} {turns : List Turn}
    (h : s.follow turns = some t) : Reaches s t := by
  induction turns generalizing s with
  | nil =>
    cases h
    exact .refl _
  | cons turn turns ih =>
    obtain ⟨u, hu, hrest⟩ := Option.bind_eq_some_iff.1 h
    exact .head hu (ih hrest)

theorem runs_of_reaches {s t : Stream ι σ κ} (h : Reaches s t) : s.exchange.Runs t.exchange := by
  induction h with
  | refl => exact .refl
  | step turn _ hstep ih => exact ih.tail (next_of_step hstep)

end Stream

/-! ## Where a call is

What the phase of a call tells at three points on its way: it has just started, its body is over, it
is half released.
-/

namespace Exchange

variable {x : Exchange ι σ κ} {i : CallId} {r : Request} {guarded : Bool}

/-- The request of a call that has just started, and the token it was given. -/
def started? (x : Exchange ι σ κ) (i : CallId) : Option (Request × Bool × Token) :=
  match x.calls[i]? with
  | some ⟨r, guarded, .registered _ t⟩ => some (r, guarded, t)
  | _ => none

/-- The request of a call whose body is over, and how it ended. -/
def ended? (x : Exchange ι σ κ) (i : CallId) : Option (Request × Bool × Outcome) :=
  match x.calls[i]? with
  | some ⟨r, guarded, .running _ (.done finished)⟩ => some (r, guarded, finished.outcome)
  | _ => none

/-- The request of a call that is half released, and the token it found under its number. -/
def found? (x : Exchange ι σ κ) (i : CallId) : Option (Request × Bool × Option Token) :=
  match x.calls[i]? with
  | some ⟨r, guarded, .releasing _ victim? _⟩ => some (r, guarded, victim?)
  | _ => none

theorem exists_of_started? {t : Token} (h : x.started? i = some (r, guarded, t)) :
    ∃ call, x.calls[i]? = some ⟨r, guarded, .registered call t⟩ := by
  unfold started? at h
  split at h
  · next call token here =>
    cases h
    exact ⟨call, here⟩
  · cases h

theorem exists_of_ended? {o : Outcome} (h : x.ended? i = some (r, guarded, o)) :
    ∃ place finished, x.calls[i]? = some ⟨r, guarded, .running place (.done finished)⟩ ∧
      finished.outcome = o := by
  unfold ended? at h
  split at h
  · next place finished here =>
    cases h
    exact ⟨place, finished, here, rfl⟩
  · cases h

theorem exists_of_found? {victim? : Option Token} (h : x.found? i = some (r, guarded, victim?)) :
    ∃ own finished, x.calls[i]? = some ⟨r, guarded, .releasing own victim? finished⟩ := by
  unfold found? at h
  split at h
  · next own victim finished here =>
    cases h
    exact ⟨own, finished, here⟩
  · cases h

end Exchange

/-! ## The bare server

An application without message types of its own and without receivers: all that its server offers is
to cancel. It is where the examples of these theorems run.
-/

/-- A server that offers the cancellation service and nothing else. -/
def Server.bare : Server Empty Unit Empty := (Server.new {}).2

/-- The request number `seq`, to cancel `target`. -/
def Inbound.cancel (seq target : UInt64) : Inbound Empty :=
  ⟨⟨"_goRPC_.Cancel", seq⟩, leBytes 8 target.toNat, .none⟩

end Switchboard
